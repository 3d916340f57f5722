import TopicWiki.Proofs.Template.StatementForm

namespace TopicWiki.Template

open Text

def Starts (text : List Char) : Prop :=
  ∃ dash blanks c rest, text = statementOpen ++ (dash ++ (blanks ++ c :: rest)) ∧
    (dash = [] ∨ dash = ['-']) ∧ (∀ b ∈ blanks, isBlank b = true) ∧ isNameStart c = true

def Idle (text : List Char) : Prop :=
  ∀ suffix, suffix <:+ text → ¬ Starts suffix

/-- A text in front of which nothing is left open. -/
def Opens (text : List Char) : Prop :=
  text = [] ∨ ∃ rest, text = '\x7b' :: rest

theorem ne_brace_of_isBlank {c : Char} (blank : isBlank c = true) : c ≠ '\x7b' := by
  rintro rfl
  exact absurd blank (by decide)

theorem ne_brace_of_isNameStart {c : Char} (start : isNameStart c = true) : c ≠ '\x7b' := by
  rintro rfl
  exact absurd start (by decide)

theorem StatementForm.starts (f : StatementForm) (rest : List Char) :
    Starts (f.source ++ rest) := by
  refine ⟨f.dashText, f.blanks, f.head, f.tail ++ (f.inside ++ (statementClose ++ rest)), ?_, ?_,
    f.blank, f.start⟩
  · simp [source, name]
  · unfold dashText
    split <;> simp

theorem Starts.append {text : List Char} (starts : Starts text) (more : List Char) :
    Starts (text ++ more) := by
  obtain ⟨dash, blanks, c, rest, rfl, dashed, blank, start⟩ := starts
  exact ⟨dash, blanks, c, rest ++ more, by simp, dashed, blank, start⟩

theorem Starts.of_append {text more : List Char} (starts : Starts (text ++ more))
    (nonempty : text ≠ []) (opens : Opens more) : Starts text := by
  obtain ⟨dash, blanks, c, rest, same, dashed, blank, start⟩ := starts
  have inner : ∀ d ∈ '%' :: (dash ++ blanks), d ≠ '\x7b' := by
    intro d member
    rcases List.mem_cons.mp member with rfl | member
    · decide
    · rcases List.mem_append.mp member with member | member
      · rcases dashed with rfl | rfl
        · cases member
        · rw [List.mem_singleton.mp member]
          decide
      · exact ne_brace_of_isBlank (blank d member)
  have whole : text ++ more = ('\x7b' :: '%' :: (dash ++ blanks)) ++ (c :: rest) := by
    rw [same]
    simp [statementOpen]
  rcases List.append_eq_append_iff.mp whole with ⟨late, front, back⟩ | ⟨late, front, back⟩
  · exfalso
    rcases opens with rfl | ⟨rest', rfl⟩
    · simp at back
    · cases late with
      | nil => exact ne_brace_of_isNameStart start (by simpa using (List.cons.inj back).1.symm)
      | cons d late =>
        obtain ⟨e, text, rfl⟩ := List.exists_cons_of_ne_nil nonempty
        have member : d ∈ '%' :: (dash ++ blanks) := by
          rw [(List.cons.inj front).2]
          simp
        exact inner d member (List.cons.inj back).1.symm
  · cases late with
    | nil =>
      exfalso
      rcases opens with rfl | ⟨rest', rfl⟩
      · simp at back
      · exact ne_brace_of_isNameStart start (List.cons.inj back).1
    | cons d late =>
      obtain ⟨rfl, -⟩ := List.cons.inj back
      exact ⟨dash, blanks, c, late, by rw [front]; simp [statementOpen], dashed, blank, start⟩

theorem Starts.read? {text behind : List Char} (starts : Starts text)
    (closed : ∃ front back, behind = '\x7b' :: front ++ statementClose ++ back) :
    (Statement.read? (text ++ behind)).isSome := by
  obtain ⟨dash, blanks, c, rest, rfl, dashed, blank, start⟩ := starts
  obtain ⟨front, back, rfl⟩ := closed
  let more := rest ++ ('\x7b' :: front ++ statementClose ++ back)
  have close : statementClose <:+: more.dropWhile isNameChar := by
    simp only [more, List.dropWhile_append, List.cons_append]
    rw [List.dropWhile_cons_of_neg (by decide)]
    split
    · exact ⟨'\x7b' :: front, back, by simp⟩
    · exact ⟨rest.dropWhile isNameChar ++ '\x7b' :: front, back, by simp⟩
  cases cut : cut? statementClose (more.dropWhile isNameChar) with
  | none => exact absurd close (cut?_eq_none_iff.mp cut)
  | some parts =>
    obtain ⟨inside, after⟩ := parts
    have parts := (cut?_eq_some_iff (by simp [statementClose])).mp cut
    have apart : ∀ d ∈ inside.head?, isNameChar d = false := by
      intro d member
      apply head?_dropWhile more
      rw [parts.1]
      cases inside with
      | nil => simp at member
      | cons e inside => simpa using member
    have unclosed : ¬ statementClose <:+: inside := fun early =>
      parts.2 (early.trans (List.infix_append [] inside _))
    let f : StatementForm := ⟨dash = ['-'], blanks, c, more.takeWhile isNameChar, inside, blank,
      start, fun _ => mem_takeWhile, apart, unclosed⟩
    have dashText : f.dashText = dash := by
      rcases dashed with rfl | rfl <;> rfl
    have same : statementOpen ++ (dash ++ (blanks ++ c :: rest)) ++
        ('\x7b' :: front ++ statementClose ++ back) = f.source ++ after := by
      have split : more = f.tail ++ (inside ++ statementClose ++ after) := by
        rw [← parts.1]
        exact List.takeWhile_append_dropWhile.symm
      rw [StatementForm.source, dashText]
      simp only [List.append_assoc, List.cons_append, more] at split ⊢
      rw [split]
      simp [f, StatementForm.name]
    rw [same, f.read?_source]
    rfl

theorem Idle.nil : Idle [] := by
  intro suffix inside
  rw [List.suffix_nil.mp inside]
  rintro ⟨dash, blanks, c, rest, same, -⟩
  simp [statementOpen] at same

theorem Idle.of_suffix {text suffix : List Char} (idle : Idle text) (inside : suffix <:+ text) :
    Idle suffix :=
  fun _ part => idle _ (part.trans inside)

theorem Idle.of_prefix {text front : List Char} (idle : Idle text) (inside : front <+: text) :
    Idle front := by
  obtain ⟨back, rfl⟩ := inside
  intro suffix part starts
  obtain ⟨before, rfl⟩ := part
  exact idle (suffix ++ back) ⟨before, by simp⟩ (starts.append back)

theorem Idle.cons {c : Char} {text : List Char} (here : ¬ Starts (c :: text)) (idle : Idle text) :
    Idle (c :: text) := by
  intro suffix inside
  rcases List.suffix_cons_iff.mp inside with rfl | inside
  · exact here
  · exact idle suffix inside

theorem Idle.append {text more : List Char} (idle : Idle text) (idle' : Idle more)
    (opens : Opens more) : Idle (text ++ more) := by
  induction text with
  | nil => exact idle'
  | cons c text ih =>
    apply Idle.cons _ (ih (idle.of_suffix (List.suffix_cons c text)))
    intro starts
    exact idle (c :: text) List.suffix_rfl (starts.of_append (List.cons_ne_nil c text) opens)

def Located.Proper (l : Located) : Prop :=
  Idle l.gap ∧ ∃ f : StatementForm, l.statement = f.statement

def Located.text (l : Located) : List Char :=
  l.gap ++ l.statement.source

def Located.name (l : Located) : String :=
  l.statement.name

def layout (located : List Located) : List Char :=
  located.flatMap Located.text

def AllProper (located : List Located) : Prop :=
  ∀ l ∈ located, l.Proper

theorem layout_cons (l : Located) (located : List Located) :
    layout (l :: located) = l.gap ++ l.statement.source ++ layout located :=
  rfl

theorem layout_append (front back : List Located) :
    layout (front ++ back) = layout front ++ layout back :=
  List.flatMap_append

theorem AllProper.nil : AllProper [] := by
  intro l member
  cases member

theorem AllProper.append {front back : List Located} (proper : AllProper front)
    (proper' : AllProper back) : AllProper (front ++ back) := by
  intro l member
  rcases List.mem_append.mp member with member | member
  · exact proper l member
  · exact proper' l member

theorem AllProper.cons {l : Located} {located : List Located} (proper : l.Proper)
    (proper' : AllProper located) : AllProper (l :: located) := by
  intro l' member
  rcases List.mem_cons.mp member with rfl | member
  · exact proper
  · exact proper' l' member

theorem AllProper.tail {l : Located} {located : List Located} (proper : AllProper (l :: located)) :
    AllProper located :=
  fun l' member => proper l' (List.mem_cons_of_mem l member)

namespace Statement

theorem first?_source (f : StatementForm) (rest : List Char) :
    Statement.first? (f.source ++ rest) = some (⟨[], f.statement⟩, rest) := by
  obtain ⟨back, begins⟩ := f.source_begins
  have found := f.read?_source rest
  rw [begins, List.cons_append] at found ⊢
  rw [Statement.first?, found]

theorem first?_append {gap text : List Char} (idle : Idle gap) (opens : Opens text) :
    Statement.first? (gap ++ text) =
      (Statement.first? text).map fun (l, rest) => ({ l with gap := gap ++ l.gap }, rest) := by
  induction gap with
  | nil =>
    rw [List.nil_append]
    cases Statement.first? text <;> rfl
  | cons c gap ih =>
    have unread : Statement.read? (c :: (gap ++ text)) = none := by
      rw [← Option.not_isSome_iff_eq_none]
      intro found
      obtain ⟨f, rest, same⟩ := exists_form_of_read? found
      have starts : Starts (c :: gap ++ text) := by
        rw [List.cons_append, same]
        exact f.starts rest
      exact idle (c :: gap) List.suffix_rfl (starts.of_append (List.cons_ne_nil c gap) opens)
    rw [List.cons_append, Statement.first?, unread, ih (idle.of_suffix (List.suffix_cons c gap)),
      Option.map_map]
    rfl

theorem first?_eq_some_iff {text rest : List Char} {l : Located} :
    Statement.first? text = some (l, rest) ↔
      l.Proper ∧ text = l.gap ++ l.statement.source ++ rest := by
  constructor
  · intro found
    induction text generalizing l with
    | nil => cases found
    | cons c text ih =>
      rw [Statement.first?] at found
      cases here : Statement.read? (c :: text) with
      | some parts =>
        simp only [here, Option.some.injEq, Prod.mk.injEq] at found
        obtain ⟨rfl, rfl⟩ := found
        obtain ⟨f, same, whole⟩ := Statement.read?_eq_some_iff.mp here
        refine ⟨⟨Idle.nil, f, same⟩, ?_⟩
        rw [whole, same]
        rfl
      | none =>
        cases later : Statement.first? text with
        | none => simp [here, later] at found
        | some parts =>
          obtain ⟨l', rest'⟩ := parts
          simp only [here, later, Option.map_some, Option.some.injEq, Prod.mk.injEq] at found
          obtain ⟨rfl, rfl⟩ := found
          obtain ⟨⟨idle, f, same⟩, whole⟩ := ih later
          refine ⟨⟨Idle.cons ?_ idle, f, same⟩, by rw [whole]; rfl⟩
          intro starts
          obtain ⟨back, begins⟩ := f.source_begins
          have close : ∃ front back,
              f.source ++ rest' = '\x7b' :: front ++ statementClose ++ back := by
            refine ⟨'%' :: (f.dashText ++ f.blanks ++ f.name ++ f.inside), rest', ?_⟩
            simp [StatementForm.source, statementOpen]
          have found := starts.read? close
          rw [List.cons_append, ← List.append_assoc] at found
          rw [same, show f.statement.source = f.source from rfl] at whole
          rw [← whole, here] at found
          cases found
  · rintro ⟨⟨idle, f, same⟩, rfl⟩
    obtain ⟨back, begins⟩ := f.source_begins
    rw [List.append_assoc, first?_append idle, same]
    · rw [show f.statement.source = f.source from rfl, first?_source]
      simp [← same]
    · right
      exact ⟨back ++ rest, by rw [same, show f.statement.source = f.source from rfl, begins]; rfl⟩

theorem first?_of_idle {gap : List Char} (idle : Idle gap) : Statement.first? gap = none := by
  have found := first?_append idle (Or.inl rfl : Opens [])
  rwa [List.append_nil] at found

theorem first?_eq_none_of_append {text more : List Char}
    (none_ : Statement.first? (text ++ more) = none) : Statement.first? text = none := by
  cases found : Statement.first? text with
  | none => rfl
  | some parts =>
    obtain ⟨l, rest⟩ := parts
    obtain ⟨proper, whole⟩ := Statement.first?_eq_some_iff.mp found
    have longer := Statement.first?_eq_some_iff.mpr
      ⟨proper, show text ++ more = l.gap ++ l.statement.source ++ (rest ++ more) by simp [whole]⟩
    rw [none_] at longer
    cases longer

end Statement

theorem statements_nil_of_first? {text : List Char} (none_ : Statement.first? text = none) :
    statements text = [] := by
  rw [statements]
  split
  · rfl
  · simp_all

theorem statements_of_first? {text rest : List Char} {l : Located}
    (found : Statement.first? text = some (l, rest)) :
    statements text = l :: statements rest := by
  rw [statements]
  split
  · simp_all
  · rename_i found'
    rw [found] at found'
    cases found'
    rfl

theorem statements_layout_append {located : List Located} (proper : AllProper located)
    (text : List Char) : statements (layout located ++ text) = located ++ statements text := by
  induction located with
  | nil => rfl
  | cons l located ih =>
    have found : Statement.first? (l.gap ++ l.statement.source ++ (layout located ++ text)) =
        some (l, layout located ++ text) :=
      Statement.first?_eq_some_iff.mpr ⟨proper l (by simp), rfl⟩
    rw [layout_cons, List.append_assoc, statements_of_first? found, ih proper.tail]
    rfl

theorem statements_layout_idle {located : List Located} (proper : AllProper located)
    {gap : List Char} (idle : Idle gap) : statements (layout located ++ gap) = located := by
  rw [statements_layout_append proper, statements_nil_of_first? (Statement.first?_of_idle idle),
    List.append_nil]

theorem statements_proper (text : List Char) : AllProper (statements text) := by
  induction hn : text.length using Nat.strongRecOn generalizing text with
  | ind n ih =>
    cases found : Statement.first? text with
    | none =>
      rw [statements_nil_of_first? found]
      exact AllProper.nil
    | some parts =>
      obtain ⟨l, rest⟩ := parts
      rw [statements_of_first? found]
      have shorter := Statement.first?_rest_lt found
      exact AllProper.cons (Statement.first?_eq_some_iff.mp found).1 (ih _ (by omega) rest rfl)

theorem statements_layout {located : List Located} (proper : AllProper located) :
    statements (layout located) = located := by
  have found := statements_layout_idle proper Idle.nil
  rwa [List.append_nil] at found

theorem exists_tail (text : List Char) :
    ∃ tail, text = layout (statements text) ++ tail ∧ Statement.first? tail = none := by
  induction hn : text.length using Nat.strongRecOn generalizing text with
  | ind n ih =>
    cases found : Statement.first? text with
    | none =>
      rw [statements_nil_of_first? found]
      exact ⟨text, rfl, found⟩
    | some parts =>
      obtain ⟨l, rest⟩ := parts
      have shorter := Statement.first?_rest_lt found
      obtain ⟨tail, whole, last⟩ := ih _ (by omega) rest rfl
      refine ⟨tail, ?_, last⟩
      rw [statements_of_first? found, layout_cons, List.append_assoc, ← whole]
      exact (Statement.first?_eq_some_iff.mp found).2

end TopicWiki.Template
