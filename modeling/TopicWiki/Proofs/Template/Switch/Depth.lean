import TopicWiki.Proofs.Template.BlockMatching
import TopicWiki.Proofs.Template.Switch.Marks
import TopicWiki.Proofs.Template.Switch.Meaning

namespace TopicWiki.Template.Switch

open Text

def NestedWithin (limit depth : Nat) (located : List Located) : Prop :=
  ∀ front, front <+: located → front.foldl depthBehind depth ≤ limit

/-- Each switch among the statements ends, and its arguments and body are accepted. -/
def Formed (template : String) (located : List Located) : Prop :=
  ∀ front l back, located = front ++ l :: back → l.name = "switch" →
    ∃ inner close rest, back = inner ++ close :: rest ∧ tag.Balanced (inner.map Located.name) ∧
      close.name = "endswitch" ∧ ∃ serial text, tag.expand serial
        ⟨"switch", l.statement.arguments, layout inner ++ close.gap, template⟩ = .ok text

def regap (gap : List Char) : List Located → List Located
  | [] => []
  | l :: rest => { l with gap := gap } :: rest

section Nesting

variable {limit depth : Nat} {l : Located} {located front back : List Located}

theorem nestedWithin_nil : NestedWithin limit depth [] ↔ depth ≤ limit := by
  constructor
  · exact fun nested => nested [] List.prefix_rfl
  · intro within front start
    rwa [List.prefix_nil.mp start]

theorem nestedWithin_cons :
    NestedWithin limit depth (l :: located) ↔
      depth ≤ limit ∧ NestedWithin limit (depthBehind depth l) located := by
  constructor
  · intro nested
    refine ⟨nested [] List.nil_prefix, fun front start => ?_⟩
    exact nested (l :: front) ((List.prefix_cons_inj l).mpr start)
  · rintro ⟨here, later⟩ front start
    cases front with
    | nil => exact here
    | cons m front =>
      obtain ⟨rfl, start'⟩ := List.cons_prefix_cons.mp start
      exact later front start'

theorem NestedWithin.here (nested : NestedWithin limit depth located) : depth ≤ limit :=
  nested [] List.nil_prefix

theorem nestedWithin_append :
    NestedWithin limit depth (front ++ back) ↔
      NestedWithin limit depth front ∧ NestedWithin limit (front.foldl depthBehind depth) back := by
  induction front generalizing depth with
  | nil =>
    rw [nestedWithin_nil]
    exact ⟨fun nested => ⟨nested.here, nested⟩, fun both => both.2⟩
  | cons l front ih =>
    rw [List.cons_append, nestedWithin_cons, nestedWithin_cons, ih, and_assoc]
    rfl

theorem nestedWithin_regap (gap : List Char) :
    NestedWithin limit depth (regap gap located) ↔ NestedWithin limit depth located := by
  cases located with
  | nil => rfl
  | cons l rest =>
    rw [regap, nestedWithin_cons, nestedWithin_cons]
    rfl

theorem depthBehind_other (opens : l.name ≠ "switch") (closes : l.name ≠ "endswitch") :
    depthBehind depth l = depth := by
  rw [depthBehind, if_neg opens, if_neg closes]

theorem depthBehind_opening (opens : l.name = "switch") : depthBehind depth l = depth + 1 := by
  rw [depthBehind, if_pos opens]

theorem depthBehind_closing (closes : l.name = "endswitch") : depthBehind depth l = depth - 1 := by
  rw [depthBehind, if_neg (by rw [closes]; decide), if_pos closes]

theorem name_different : tag.endName ≠ tag.name := by
  decide

theorem foldl_depthBehind (within : tag.ClosesWithin depth (located.map Located.name)) :
    located.foldl depthBehind depth + tag.closings (located.map Located.name) =
      depth + tag.openings (located.map Located.name) := by
  induction located generalizing depth with
  | nil => rfl
  | cons l located ih =>
    rw [List.map_cons] at within ⊢
    rw [List.foldl_cons, Tag.closings, Tag.openings]
    by_cases opens : l.name = tag.name
    · rw [opens, closesWithin_opening name_different] at within
      have later := ih within
      rw [depthBehind_opening opens, opens, List.count_cons_of_ne name_different.symm,
        List.count_cons_self]
      unfold Tag.closings Tag.openings at later
      omega
    · by_cases closes : l.name = tag.endName
      · rw [closes] at within
        cases depth with
        | zero => exact absurd within (not_closesWithin_closing name_different)
        | succ depth =>
          have later := ih ((closesWithin_closing name_different).mp within)
          rw [depthBehind_closing closes, closes, List.count_cons_self,
            List.count_cons_of_ne name_different, Nat.add_sub_cancel]
          unfold Tag.closings Tag.openings at later
          omega
      · have later := ih ((closesWithin_other opens closes).mp within)
        rw [depthBehind_other opens closes, List.count_cons_of_ne closes,
          List.count_cons_of_ne opens]
        exact later

theorem foldl_depthBehind_of_balanced (balanced : tag.Balanced (located.map Located.name)) :
    located.foldl depthBehind depth = depth := by
  have whole := foldl_depthBehind (balanced.within.mono (Nat.zero_le depth))
  rw [balanced.even] at whole
  omega

theorem nestedWithin_succ (within : tag.ClosesWithin depth (located.map Located.name)) :
    NestedWithin (limit + 1) (depth + 1) located ↔ NestedWithin limit depth located := by
  refine forall₂_congr fun front start => ?_
  have withinFront : tag.ClosesWithin depth (front.map Located.name) := fun _ start' =>
    within _ (start'.trans (start.map Located.name))
  have lower := foldl_depthBehind withinFront
  have upper := foldl_depthBehind (withinFront.mono (Nat.le_add_right depth 1))
  omega

theorem nestedWithin_of_unopened (absent : tag.name ∉ located.map Located.name) :
    NestedWithin limit 0 located := by
  induction located with
  | nil => exact nestedWithin_nil.mpr (Nat.zero_le _)
  | cons l located ih =>
    rw [List.map_cons, List.mem_cons, not_or] at absent
    have stays : depthBehind 0 l = 0 := by
      unfold depthBehind
      rw [if_neg (show l.name ≠ "switch" from Ne.symm absent.1)]
      split <;> rfl
    rw [nestedWithin_cons, stays]
    exact ⟨Nat.zero_le _, ih absent.2⟩

theorem foldl_depthBehind_of_unopened (absent : tag.name ∉ located.map Located.name) :
    located.foldl depthBehind 0 = 0 :=
  Nat.le_zero.mp (nestedWithin_of_unopened absent located List.prefix_rfl)

end Nesting

section Forming

variable {template : String} {l : Located} {located front back part : List Located}

theorem formed_nil : Formed template [] := by
  intro front l back split
  simp at split

theorem Formed.cons (formed : Formed template located) (ends : l.name = "switch" →
    ∃ inner close rest, located = inner ++ close :: rest ∧
      tag.Balanced (inner.map Located.name) ∧ close.name = "endswitch" ∧
      ∃ serial text, tag.expand serial
        ⟨"switch", l.statement.arguments, layout inner ++ close.gap, template⟩ = .ok text) :
    Formed template (l :: located) := by
  intro before m behind split opens
  cases before with
  | nil =>
    obtain ⟨rfl, rfl⟩ := List.cons.inj split
    exact ends opens
  | cons _ before =>
    obtain ⟨-, rfl⟩ := List.cons.inj split
    exact formed before m behind rfl opens

theorem Formed.of_append (front : List Located) (formed : Formed template (front ++ back)) :
    Formed template back := by
  intro before l behind split
  exact formed (front ++ before) l behind (by rw [split, List.append_assoc])

theorem Formed.append (formed : Formed template front) (formed' : Formed template back) :
    Formed template (front ++ back) := by
  intro before l behind split opens
  rcases List.append_eq_append_iff.mp split with ⟨more, rfl, rest⟩ | ⟨more, first, rest⟩
  · exact formed' more l behind rest opens
  · cases more with
    | nil => exact formed' [] l behind rest.symm opens
    | cons m more =>
      obtain ⟨rfl, rfl⟩ := List.cons.inj rest
      obtain ⟨inner, close, after, rfl, others⟩ := formed before l more first opens
      exact ⟨inner, close, after ++ back, by simp, others⟩

theorem formed_singleton (other : l.name ≠ "switch") : Formed template [l] :=
  formed_nil.cons fun opens => absurd opens other

theorem formed_regap (gap : List Char) :
    Formed template (regap gap located) ↔ Formed template located := by
  have step (gap : List Char) {located : List Located} (formed : Formed template located) :
      Formed template (regap gap located) := by
    cases located with
    | nil => exact formed
    | cons l rest => exact (Formed.of_append [l] formed).cons (formed [] l rest rfl)
  refine ⟨fun formed => ?_, step gap⟩
  cases located with
  | nil => exact formed
  | cons l rest => exact step l.gap formed

theorem Formed.of_front {depth : Nat} (formed : Formed template (part ++ back))
    (all : tag.ClosesAll depth (part.map Located.name)) : Formed template part := by
  rintro before l behind rfl opens
  obtain ⟨inner, close, rest, split, balanced, others⟩ :=
    formed before l (behind ++ back) (by simp) opens
  -- Behind the switch more is closed than is opened, and in its body it is not.
  have longer : ¬ behind <+: inner := by
    intro inside
    have early := all.1 (before.map Located.name) ⟨(l :: behind).map Located.name, by simp⟩
    have late := balanced.within (behind.map Located.name) (inside.map Located.name)
    have even := all.2
    simp only [Tag.closings, Tag.openings, List.map_append, List.map_cons, List.count_append,
      List.count_cons, show l.name = tag.name from opens, beq_iff_eq, if_true,
      if_neg name_different.symm] at early late even
    omega
  rcases List.append_eq_append_iff.mp split with ⟨more, rfl, -⟩ | ⟨more, rfl, last⟩
  · exact absurd (List.prefix_append behind more) longer
  · cases more with
    | nil =>
      rw [List.append_nil] at longer
      exact absurd List.prefix_rfl longer
    | cons m more =>
      obtain ⟨rfl, rfl⟩ := List.cons.inj last
      exact ⟨inner, close, more, rfl, balanced, others⟩

theorem Formed.of_infix (formed : Formed template located) (inside : part <:+: located)
    (balanced : tag.Balanced (part.map Located.name)) : Formed template part := by
  obtain ⟨before, after, rfl⟩ := inside
  rw [List.append_assoc] at formed
  exact (Formed.of_append before formed).of_front (closesAll_zero_iff.mpr balanced)

end Forming

section Sections

variable {limit depth : Nat} {located : List Located} {tail : List Char}

theorem statements_of_proper {l : Located} (proper : l.Proper) (text : List Char) :
    statements (l.gap ++ l.statement.source ++ text) = l :: statements text :=
  statements_of_first? (Statement.first?_eq_some_iff.mpr ⟨proper, rfl⟩)

theorem partsAt_inside (proper : AllProper located) (last : Statement.first? tail = none)
    (all : tag.ClosesAll depth (located.map Located.name)) :
    (statements (partsAt depth located tail).1 <+: located ∧
        tag.ClosesAll depth (names (partsAt depth located tail).1)) ∧
      ∀ part ∈ (partsAt depth located tail).2, statements part.body <:+: located ∧
        tag.Balanced (names part.body) := by
  induction located generalizing depth with
  | nil =>
    have empty : statements tail = [] := statements_nil_of_first? last
    refine ⟨⟨List.prefix_nil.mpr empty, ?_⟩, by simp [partsAt]⟩
    · rw [partsAt, names, empty]
      exact all
  | cons l rest ih =>
    have here : l.Proper := proper l List.mem_cons_self
    rw [List.map_cons] at all
    by_cases top : depth = 0 ∧ IsMarker l
    · obtain ⟨rfl, marker⟩ := top
      have other : l.name ≠ tag.name ∧ l.name ≠ tag.endName := by
        rcases marker with name | name <;> rw [name] <;> decide
      rw [closesAll_other other.1 other.2] at all
      obtain ⟨⟨inside, balanced⟩, others⟩ := ih proper.tail all
      have empty : statements l.gap = [] :=
        statements_nil_of_first? (Statement.first?_of_idle here.1)
      rw [partsAt_marker marker]
      refine ⟨⟨?_, ?_⟩, List.forall_mem_cons.mpr ⟨⟨?_, closesAll_zero_iff.mp balanced⟩, ?_⟩⟩
      · simp only [empty]
        exact List.nil_prefix
      · simp only [names, empty]
        exact closesAll_nil.mpr rfl
      · exact inside.isInfix.trans (List.suffix_cons l rest).isInfix
      · exact fun part member =>
          ⟨(others part member).1.trans (List.suffix_cons l rest).isInfix, (others part member).2⟩
    · have later : tag.ClosesAll (depthBehind depth l) (rest.map Located.name) ∧
          ∀ names, tag.ClosesAll (depthBehind depth l) names →
            tag.ClosesAll depth (l.name :: names) := by
        by_cases opens : l.name = tag.name
        · rw [opens, closesAll_opening name_different] at all
          rw [depthBehind_opening opens, opens]
          exact ⟨all, fun _ => (closesAll_opening name_different).mpr⟩
        · by_cases closes : l.name = tag.endName
          · rw [closes] at all
            rw [depthBehind_closing closes, closes]
            cases depth with
            | zero => exact absurd all.1 (not_closesWithin_closing name_different)
            | succ depth =>
              exact ⟨(closesAll_closing name_different).mp all,
                fun _ => (closesAll_closing name_different).mpr⟩
          · rw [closesAll_other opens closes] at all
            rw [depthBehind_other opens closes]
            exact ⟨all, fun _ => (closesAll_other opens closes).mpr⟩
      obtain ⟨⟨inside, closes⟩, others⟩ := ih proper.tail later.1
      rw [partsAt_inner top]
      refine ⟨⟨?_, ?_⟩, ?_⟩
      · simp only [statements_of_proper here]
        exact (List.prefix_cons_inj l).mpr inside
      · simp only [names, statements_of_proper here, List.map_cons]
        exact later.2 _ closes
      · exact fun part member =>
          ⟨(others part member).1.trans (List.suffix_cons l rest).isInfix, (others part member).2⟩

theorem partsAt_nestedWithin (proper : AllProper located) (last : Statement.first? tail = none) :
    NestedWithin limit depth located ↔
      NestedWithin limit depth (statements (partsAt depth located tail).1) ∧
        ∀ part ∈ (partsAt depth located tail).2, NestedWithin limit 0 (statements part.body) := by
  induction located generalizing depth with
  | nil => simp [partsAt, statements_nil_of_first? last]
  | cons l rest ih =>
    have here : l.Proper := proper l List.mem_cons_self
    by_cases top : depth = 0 ∧ IsMarker l
    · obtain ⟨rfl, marker⟩ := top
      have empty : statements l.gap = [] :=
        statements_nil_of_first? (Statement.first?_of_idle here.1)
      rw [partsAt_marker marker, nestedWithin_cons, marker.depthBehind, ih proper.tail]
      simp only [List.forall_mem_cons, empty, nestedWithin_nil, Nat.zero_le, true_and]
    · rw [partsAt_inner top, nestedWithin_cons, ih proper.tail]
      simp only [statements_of_proper here, nestedWithin_cons, and_assoc]

end Sections

section Seams

variable {template : String} {limit : Nat} {text more : List Char} {parts : List Part}

theorem Settled.statements_append {front : List Char} (settled : Settled front)
    (opens : Opens text) :
    ∃ gap, statements (front ++ text) = statements front ++ regap gap (statements text) := by
  obtain ⟨located, gap, proper, idle, rfl⟩ := settled
  have found := Statement.first?_append idle opens
  rw [List.append_assoc, statements_layout_append proper, statements_layout_idle proper idle]
  cases first : Statement.first? text with
  | none =>
    rw [first] at found
    refine ⟨[], ?_⟩
    rw [statements_nil_of_first? found, statements_nil_of_first? first]
    rfl
  | some result =>
    obtain ⟨l, rest⟩ := result
    rw [first] at found
    refine ⟨gap ++ l.gap, ?_⟩
    rw [statements_of_first? found, statements_of_first? first]
    rfl

theorem Settled.statements_trimEnd (settled : Settled text) :
    statements (trimEnd text) = statements text := by
  obtain ⟨located, gap, proper, idle, rfl⟩ := settled
  rw [statements_layout_idle proper idle, trimEnd_append]
  split
  · rw [Ended.trimEnd ⟨located, proper, rfl⟩, statements_layout proper]
  · exact statements_layout_idle proper (idle.of_prefix (trimEnd_isPrefix gap))

theorem statements_trimStart (text : List Char) :
    ∃ gap, statements (trimStart text) = regap gap (statements text) := by
  obtain ⟨tail, whole, last⟩ := exists_tail text
  have proper := statements_proper text
  have same := names_trimStart text
  cases found : statements text with
  | nil =>
    rw [names, names, found] at same
    exact ⟨[], List.map_eq_nil_iff.mp same⟩
  | cons l rest =>
    rw [found] at whole proper
    obtain ⟨idle, f, form⟩ := proper l List.mem_cons_self
    have braced : Braced l.statement.source := form ▸ braced_form f
    have proper' : AllProper (⟨trimStart l.gap, l.statement⟩ :: rest) :=
      AllProper.cons ⟨idle.of_suffix (trimStart_suffix _), f, form⟩ proper.tail
    refine ⟨trimStart l.gap, ?_⟩
    have read := statements_layout_append proper' tail
    rw [statements_nil_of_first? last, List.append_nil, layout_cons, List.append_assoc,
      List.append_assoc, ← braced.trimStart_append, ← List.append_assoc, ← List.append_assoc,
      List.append_assoc _ (layout rest), ← List.append_assoc, ← layout_cons, ← whole] at read
    exact read

theorem statements_leftBehind (close : Statement) (text : List Char) :
    ∃ gap, statements (leftBehind close text) = regap gap (statements text) := by
  unfold leftBehind
  split
  · exact statements_trimStart text
  · cases statements text with
    | nil => exact ⟨[], rfl⟩
    | cons l _ => exact ⟨l.gap, rfl⟩

theorem Part.statements_kept {part : Part} (settled : Settled part.body) (rest : List Part) :
    ∃ gap, statements (part.kept rest) = regap gap (statements part.body) := by
  have front : Settled (if part.marker.trimAfter then trimStart part.body else part.body) ∧
      ∃ gap, statements (if part.marker.trimAfter then trimStart part.body else part.body) =
        regap gap (statements part.body) := by
    split
    · exact ⟨settled.trimStart, statements_trimStart _⟩
    · refine ⟨settled, ?_⟩
      cases statements part.body with
      | nil => exact ⟨[], rfl⟩
      | cons l _ => exact ⟨l.gap, rfl⟩
  obtain ⟨settled, gap, same⟩ := front
  refine ⟨gap, ?_⟩
  unfold Part.kept
  simp only
  split
  · rw [Settled.statements_trimEnd settled, same]
  · exact same

/-- A text has the switches of the parts, and they are as deep in it as in the parts. -/
structure Carries (template : String) (limit : Nat) (parts : List Part) (text : List Char) :
    Prop where
  formed : Formed template (statements text)
  nested : NestedWithin limit 0 (statements text) ↔
    ∀ part ∈ parts, NestedWithin limit 0 (statements part.body)

theorem Carries.written {front : List Char} {name : String} (writes : Writes front name)
    (other : name ∈ "with" :: chainNames) (carries : Carries template limit parts text) :
    Carries template limit parts (front ++ text) := by
  obtain ⟨f, rfl, rfl⟩ := writes
  have opens : f.statement.name ≠ "switch" := by
    intro same
    rw [same] at other
    exact absurd other (by decide)
  have closes : f.statement.name ≠ "endswitch" := by
    intro same
    rw [same] at other
    exact absurd other (by decide)
  have same : statements (f.source ++ text) = ⟨[], f.statement⟩ :: statements text :=
    statements_of_first? (Statement.first?_source f text)
  constructor
  · rw [same]
    exact (formed_singleton (l := ⟨[], f.statement⟩) opens).append carries.formed
  · have stays : depthBehind 0 ⟨[], f.statement⟩ = 0 := depthBehind_other opens closes
    rw [same, nestedWithin_cons, stays, carries.nested]
    exact and_iff_right (Nat.zero_le _)

theorem Carries.kept {part : Part} {rest : List Part} (settled : Settled part.body)
    (balanced : tag.Balanced (names part.body)) (formed : Formed template (statements part.body))
    (opens : Opens text) (carries : Carries template limit rest text) :
    Carries template limit (part :: rest) (part.kept rest ++ text) := by
  obtain ⟨gap, same⟩ := Part.statements_kept settled rest
  obtain ⟨gap', whole⟩ := Settled.statements_append (Part.settled_kept settled rest) opens
  have level : (regap gap (statements part.body)).foldl depthBehind 0 = 0 := by
    apply foldl_depthBehind_of_balanced
    have names_ : (regap gap (statements part.body)).map Located.name = names part.body := by
      unfold names
      cases statements part.body <;> rfl
    rwa [names_]
  rw [same] at whole
  constructor
  · rw [whole]
    exact ((formed_regap gap).mpr formed).append ((formed_regap gap').mpr carries.formed)
  · rw [whole, nestedWithin_append, level, nestedWithin_regap, nestedWithin_regap, carries.nested,
      List.forall_mem_cons]

theorem Carries.nothing : Carries template limit [] [] := by
  have empty : statements [] = [] := statements_nil_of_first? rfl
  constructor
  · rw [empty]
    exact formed_nil
  · rw [empty, nestedWithin_nil]
    simp

theorem names_of_blank (blank : allBlank text = true) : names text = [] := by
  have empty : trimEnd (trimStart text) = [] := trim_eq_nil_iff.mpr blank
  rw [← names_trimStart, ← names_trimEnd, empty]
  exact names_nil_of_first? rfl

theorem replacement_carries (limit : Nat) {arguments body : List Char} {serial : Nat}
    (settled : Settled body)
    (unclosed : Unclosed arguments) (balanced : tag.Balanced (names body))
    (formed : Formed template (statements body))
    (expanded : tag.expand serial ⟨"switch", arguments, body, template⟩ = .ok text) :
    Formed template (statements text) ∧
      (NestedWithin limit 0 (statements text) ↔ NestedWithin limit 0 (statements body)) := by
  obtain ⟨accepted, rfl⟩ := expand_eq_ok_iff.mp expanded
  obtain ⟨-, preamble, -, last⟩ := not_refused_iff.mp accepted
  obtain ⟨tail, whole, none_⟩ := exists_tail body
  have read : Switch.parts body = partsAt 0 (statements body) tail := by
    have read := parts_layout (statements_proper body) none_
    rwa [← whole] at read
  obtain ⟨-, inside⟩ := partsAt_inside (statements_proper body) none_
    (closesAll_zero_iff.mpr balanced)
  have depths : NestedWithin limit 0 (statements body) ↔
      ∀ part ∈ (Switch.parts body).2, NestedWithin limit 0 (statements part.body) := by
    have empty : statements (Switch.parts body).1 = [] :=
      List.map_eq_nil_iff.mp (names_of_blank preamble)
    rw [partsAt_nestedWithin (statements_proper body) none_, ← read, empty, nestedWithin_nil]
    exact and_iff_right (Nat.zero_le _)
  rw [← read] at inside
  have arguments' : ∀ part ∈ (Switch.parts body).2, Unclosed part.marker.arguments := by
    intro part member
    obtain ⟨-, f, same⟩ := parts_markers member
    rw [same]
    exact f.unclosed_arguments
  have chained := chain_induction
    (P := fun pairs text _ => Carries template limit (pairs.map Prod.fst) text)
    (free_subjectVariable serial) ((Switch.parts body).2.map fun part => (part, part)) true
  simp only [List.map_map, Function.comp_def, List.map_id', List.forall_mem_map, and_self,
    implies_true] at chained
  have carries := (chained last trivial arguments' .nothing ?_ ?_).written
    (writes_with (free_subjectVariable serial) (unclosed.of_infix (trim_inside _)))
    List.mem_cons_self
  · rw [depths, ← carries.nested]
    have same : replacement serial (trim arguments) (branchesOf (Switch.parts body).2) =
        statementText ("with ".toList ++ subjectVariable serial ++ " = (".toList ++
          trim arguments ++ [')']) ++ (chain (subjectVariable serial) true
            (branchesOf (Switch.parts body).2) ++ statementText "endwith".toList) := by
      rw [replacement, List.append_assoc]
    rw [same]
    exact ⟨carries.formed, Iff.rfl⟩
  · exact fun writes known carries => carries.written writes (List.mem_cons_of_mem _ known)
  · intro pair rest front name text _ suffix writes known carries
    obtain ⟨part, member, rfl⟩ := List.mem_map.mp (suffix.subset List.mem_cons_self)
    obtain ⟨within, balancedPart⟩ := inside part member
    exact (carries.written writes (List.mem_cons_of_mem _ known)).kept
      (parts_settled settled part member) balancedPart (formed.of_infix within balancedPart)
      (writes.opens text)

end Seams

section Limit

variable {template : String} {limit levels serial : Nat} {written source before inside : List Char}
  {open_ : Statement}

theorem statements_of_opening? (opened : opening? tag source = some (before, open_, inside)) :
    ∃ front l, statements source = front ++ l :: statements inside ∧ l.statement = open_ ∧
      l.name = "switch" ∧ tag.name ∉ front.map Located.name := by
  have opens := opening?_name opened
  obtain ⟨whole, settled, absent, f, rfl⟩ := opening?_eq_some opened
  obtain ⟨located, gap, proper, idle, rfl⟩ := settled
  rw [names, statements_layout_idle proper idle] at absent
  refine ⟨located, ⟨gap, f.statement⟩, ?_, rfl, opens, absent⟩
  have found : Statement.first? (gap ++ f.source ++ inside) = some (⟨gap, f.statement⟩, inside) :=
    Statement.first?_eq_some_iff.mpr ⟨⟨idle, f, rfl⟩, rfl⟩
  rw [whole, show f.statement.source = f.source from rfl, List.append_assoc, List.append_assoc,
    ← List.append_assoc gap, statements_layout_append proper, statements_of_first? found]

theorem closing?_of_statements {inner rest : List Located} {close : Located}
    (split : statements inside = inner ++ close :: rest)
    (balanced : tag.Balanced (inner.map Located.name)) (closes : close.name = "endswitch") :
    ∃ behind, closing? tag 0 inside =
        some (layout inner ++ close.gap, close.statement, behind) ∧
      Settled (layout inner ++ close.gap) ∧ statements (layout inner ++ close.gap) = inner ∧
      statements behind = rest := by
  obtain ⟨tail, whole, last⟩ := exists_tail inside
  have proper := statements_proper inside
  rw [split] at whole proper
  have properInner : AllProper inner := fun l member => proper l (by simp [member])
  have properRest : AllProper rest := fun l member => proper l (by simp [member])
  obtain ⟨idle, f, form⟩ := proper close (by simp)
  have settled : Settled (layout inner ++ close.gap) := ⟨inner, close.gap, properInner, idle, rfl⟩
  have read : statements (layout inner ++ close.gap) = inner :=
    statements_layout_idle properInner idle
  have all : tag.ClosesAll 0 (names (layout inner ++ close.gap)) := by
    rw [names, read]
    exact closesAll_zero_iff.mpr balanced
  have name : f.statement.name = tag.endName := form ▸ closes
  refine ⟨layout rest ++ tail, ?_, settled, read, ?_⟩
  · have found := closing?_of_closesAll name_different settled all name (layout rest ++ tail)
    rw [whole, layout_append, layout_cons, form, show f.statement.source = f.source from rfl]
    simpa only [List.append_assoc] using found
  · rw [statements_layout_append properRest, statements_nil_of_first? last, List.append_nil]

/-- Where a well-formed source opens a switch, the depth of the source is that of what is behind the
    switch, and one more than that of its body. -/
theorem nestedWithin_of_opened {front inner rest : List Located} {l close : Located}
    (absent : tag.name ∉ front.map Located.name) (opens : l.name = "switch")
    (balanced : tag.Balanced (inner.map Located.name)) (closes : close.name = "endswitch") :
    NestedWithin (limit + 1) 0 (front ++ l :: (inner ++ close :: rest)) ↔
      NestedWithin limit 0 inner ∧ NestedWithin (limit + 1) 0 rest := by
  rw [nestedWithin_append, foldl_depthBehind_of_unopened absent, nestedWithin_cons,
    depthBehind_opening opens, nestedWithin_append, foldl_depthBehind_of_balanced balanced,
    nestedWithin_succ balanced.within, nestedWithin_cons, depthBehind_closing closes]
  simp only [nestedWithin_of_unopened absent, true_and, Nat.le_add_left, Nat.sub_self,
    Nat.zero_add]

theorem expandBlocks_succeeds_iff {written : List Char}
    (formed : Formed template (statements source)) :
    (∃ result serial',
        (expandBlocks tag template levels written source).run.run serial = (.ok result, serial')) ↔
      NestedWithin levels 0 (statements source) := by
  induction levels, written, source using expandBlocks.induct tag generalizing serial with
  | case1 levels written source none_ =>
    rw [expandBlocks_of_no_opening none_]
    exact iff_of_true ⟨_, _, rfl⟩ (nestedWithin_of_unopened (opening?_eq_none_iff.mp none_))
  | case2 written source before open_ inside opened =>
    rw [expandBlocks_too_deep opened]
    refine iff_of_false (by rintro ⟨result, serial', ⟨⟩⟩) ?_
    obtain ⟨front, l, split, -, opens, absent⟩ := statements_of_opening? opened
    rw [split, nestedWithin_append, foldl_depthBehind_of_unopened absent, nestedWithin_cons,
      depthBehind_opening opens]
    exact fun nested => absurd nested.2.2.here (by decide)
  | case3 written source before open_ inside opened levels unclosed =>
    exfalso
    obtain ⟨front, l, split, -, opens, -⟩ := statements_of_opening? opened
    obtain ⟨inner, close, rest, split', balanced, closes, -⟩ := formed front _ _ split opens
    obtain ⟨behind, closed, -⟩ := closing?_of_statements split' balanced closes
    rw [unclosed] at closed
    cases closed
  | case4 written source before open_ inside opened levels body close rest closed =>
    rename_i deeper further
    obtain ⟨front, l, split, rfl, opens, absent⟩ := statements_of_opening? opened
    obtain ⟨-, -, -, f, form⟩ := opening?_eq_some opened
    obtain ⟨inner, last, back, split', balanced, closes, anySerial, anyText, accepted⟩ :=
      formed front _ _ split opens
    obtain ⟨behind, closed', settled, read, readBehind⟩ :=
      closing?_of_statements split' balanced closes
    rw [closed] at closed'
    cases closed'
    obtain ⟨gap, readLeft⟩ := statements_leftBehind last.statement rest
    rw [readBehind] at readLeft
    rw [split, split'] at formed
    have formedInside : Formed template (inner ++ last :: back) :=
      Formed.of_append (front ++ [l]) (by simpa using formed)
    have formedInner : Formed template inner :=
      formedInside.of_front (closesAll_zero_iff.mpr balanced)
    have formedBack : Formed template back :=
      Formed.of_append (inner ++ [last]) (by simpa using formedInside)
    have replaced := expand_eq_ok_iff.mpr
      ⟨(expand_eq_ok_iff.mp accepted).1, Eq.refl (replacement serial _ _)⟩
    obtain ⟨formedText, depths⟩ := replacement_carries levels settled
      (form ▸ f.unclosed_arguments) (by rwa [names, read]) (by rwa [read]) replaced
    rw [read] at depths
    have formedLeft : Formed template (statements (leftBehind last.statement rest)) := by
      rw [readLeft]
      exact (formed_regap gap).mpr formedBack
    rw [expandBlocks_block opened closed, split, split',
      nestedWithin_of_opened absent opens balanced closes, ← depths]
    constructor
    · rintro ⟨result, serial', run⟩
      obtain ⟨expansion, middle, once, run⟩ := Expanding.bind_eq_ok_iff.mp run
      obtain ⟨same, rfl⟩ := Tag.run_eq_ok_iff.mp once
      cases replaced.symm.trans same
      obtain ⟨nested, middle, inside, run⟩ := Expanding.bind_eq_ok_iff.mp run
      refine ⟨(deeper _ formedText).mp ⟨_, _, inside⟩, ?_⟩
      have later : NestedWithin (levels + 1) 0 (statements (leftBehind last.statement rest)) :=
        (further nested formedLeft).mp ⟨_, _, run⟩
      rwa [readLeft, nestedWithin_regap] at later
    · rintro ⟨nested, later⟩
      obtain ⟨expansion, middle, inside⟩ := (deeper _ formedText).mpr nested
      rw [← nestedWithin_regap gap, ← readLeft] at later
      obtain ⟨result, serial', run⟩ := (further expansion formedLeft).mpr later
      refine ⟨result, serial', Expanding.bind_eq_ok_iff.mpr
        ⟨_, _, Tag.run_eq_ok_iff.mpr ⟨replaced, rfl⟩, ?_⟩⟩
      exact Expanding.bind_eq_ok_iff.mpr ⟨_, _, inside, run⟩

end Limit

/-- Every expansion ends, whatever its tag writes: with a result, or at a stage that stops it. A
    source whose switches are all well formed is expanded exactly when no more switches than the
    limit are ever open in it, however many stand side by side. -/
theorem nesting_limit_exact (template : String) :
    (∀ tag : Tag, WellFounded fun next stage => Calls tag template stage next) ∧
    (∀ (tag : Tag) (source : List Char) (serial : Nat),
      (∃ result serial', Expands tag template maxNesting [] source serial result serial' ∧
        (expandTag tag template source).run.run serial = (.ok result, serial')) ∨
      ∃ e stage, Reaches tag template ⟨maxNesting, source, serial⟩ stage ∧
        Breaks tag template stage e ∧
        (expandTag tag template source).run.run serial = (.error e, stage.serial)) ∧
    ∀ source, Formed template (statements source) → ∀ serial,
      ((∃ result serial',
          (expandTag tag template source).run.run serial = (.ok result, serial')) ↔
        ∀ front, front <+: statements source → openSwitches front ≤ maxNesting) := by
  refine ⟨fun tag => calls_wellFounded tag template, ?_, ?_⟩
  · intro tag source serial
    cases run : (expandTag tag template source).run.run serial with
    | mk outcome serial' =>
      cases outcome with
      | ok result => exact Or.inl ⟨result, serial', expandBlocks_eq_ok_iff.mp run, rfl⟩
      | error e =>
        obtain ⟨stage, reaches, breaks, rfl⟩ := expandBlocks_eq_error_iff.mp run
        exact Or.inr ⟨e, stage, reaches, breaks, rfl⟩
  · exact fun source formed serial => expandBlocks_succeeds_iff formed

theorem nesting_limit_exact_beside_nested :
    let inner := statementText "switch y".toList ++ statementText "endswitch".toList
    let source := statementText "switch x".toList ++ statementText "case 1".toList ++ inner ++
      statementText "endswitch".toList ++ inner
    Formed "t" (statements source) ∧ ∃ result serial',
      (expandTag tag "t" source).run.run 0 = (.ok result, serial') := by
  intro inner source
  let at_ (name arguments words : String) : Located :=
    ⟨[], name, arguments.toList, false, false, statementText words.toList⟩
  let opening := at_ "switch" "y" "switch y"
  let closing := at_ "endswitch" "" "endswitch"
  have read : statements source =
      [at_ "switch" "x" "switch x", at_ "case" "1" "case 1", opening, closing, closing, opening,
        closing] := by
    decide +kernel
  have accepts {arguments body : List Char}
      (expanded : (expandBlock 0 arguments body).toOption.isSome = true) :
      ∃ serial text, tag.expand serial ⟨"switch", arguments, body, "t"⟩ = .ok text := by
    obtain ⟨text, expanded⟩ := Option.isSome_iff_exists.mp expanded
    refine ⟨0, text, ?_⟩
    change (expandBlock 0 arguments body).mapError _ = .ok text
    rw [Except.eq_ok_of_toOption expanded]
    rfl
  have empty : tag.Balanced [] := ⟨closesWithin_nil tag 0, rfl⟩
  have pair : tag.Balanced ["case", "switch", "endswitch"] := by
    rw [← closesAll_zero_iff, closesAll_other (by decide) (by decide)]
    exact (closesAll_opening name_different).mpr
      ((closesAll_closing name_different).mpr (closesAll_zero_iff.mpr empty))
  have formed : Formed "t" (statements source) := by
    rw [read]
    refine .cons (.cons (.cons (.cons (.cons (.cons (.cons formed_nil ?_) ?_) ?_) ?_) ?_) ?_) ?_
    · exact fun opens => absurd opens (by decide)
    · exact fun _ => ⟨[], closing, [], rfl, empty, rfl, accepts (by decide +kernel)⟩
    · exact fun opens => absurd opens (by decide)
    · exact fun opens => absurd opens (by decide)
    · exact fun _ =>
        ⟨[], closing, [closing, opening, closing], rfl, empty, rfl, accepts (by decide +kernel)⟩
    · exact fun opens => absurd opens (by decide)
    · exact fun _ => ⟨[at_ "case" "1" "case 1", opening, closing], closing, [opening, closing], rfl,
        pair, rfl, accepts (by decide +kernel)⟩
  obtain ⟨-, -, exact_⟩ := nesting_limit_exact "t"
  have nested : NestedWithin maxNesting 0 (statements source) := by
    rw [read]
    simp only [nestedWithin_cons, nestedWithin_nil]
    decide +kernel
  exact ⟨formed, (exact_ source formed 0).mpr nested⟩

end TopicWiki.Template.Switch
