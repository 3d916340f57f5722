import TopicWiki.Template.Switch
import TopicWiki.Proofs.Template.Seam

namespace TopicWiki.Template.Switch

def Part.source (part : Part) : List Char :=
  part.marker.source ++ part.body

def IsMarker (l : Located) : Prop :=
  l.name = "case" ∨ l.name = "default"

def depthBehind (depth : Nat) (l : Located) : Nat :=
  if l.name = "switch" then depth + 1 else if l.name = "endswitch" then depth - 1 else depth

def openSwitches (located : List Located) : Nat :=
  located.foldl depthBehind 0

theorem IsMarker.depthBehind {l : Located} (marker : IsMarker l) (depth : Nat) :
    depthBehind depth l = depth := by
  rcases marker with name | name <;> simp [Switch.depthBehind, name]

theorem partsAt_marker {l : Located} (marker : IsMarker l) (rest : List Located)
    (tail : List Char) :
    partsAt 0 (l :: rest) tail =
      (l.gap, ⟨l.statement, (partsAt 0 rest tail).1⟩ :: (partsAt 0 rest tail).2) := by
  rcases marker with name | name <;> simp [partsAt, show l.statement.name = _ from name]

theorem partsAt_inner {depth : Nat} {l : Located} (inner : ¬ (depth = 0 ∧ IsMarker l))
    (rest : List Located) (tail : List Char) :
    partsAt depth (l :: rest) tail =
      (l.gap ++ l.statement.source ++ (partsAt (depthBehind depth l) rest tail).1,
        (partsAt (depthBehind depth l) rest tail).2) := by
  change ¬ (depth = 0 ∧ (l.statement.name = "case" ∨ l.statement.name = "default")) at inner
  rw [partsAt, depthBehind]
  change _ =
    (_ ++ (partsAt (if l.statement.name = _ then _ else if l.statement.name = _ then _ else _) _ _).1,
    (partsAt (if l.statement.name = _ then _ else if l.statement.name = _ then _ else _) _ _).2)
  simp only [if_neg inner]
  split
  · rfl
  · split <;> rfl

theorem partsAt_source (depth : Nat) (located : List Located) (tail : List Char) :
    (partsAt depth located tail).1 ++ (partsAt depth located tail).2.flatMap Part.source =
      layout located ++ tail := by
  induction located generalizing depth with
  | nil => simp [partsAt, layout]
  | cons l rest ih =>
    by_cases top : depth = 0 ∧ IsMarker l
    · obtain ⟨rfl, marker⟩ := top
      rw [partsAt_marker marker, layout_cons, List.flatMap_cons, Part.source]
      simp only [List.append_assoc]
      rw [ih]
    · rw [partsAt_inner top, layout_cons]
      simp only [List.append_assoc]
      rw [ih]

theorem partsAt_markers {depth : Nat} {located : List Located} {tail : List Char} {part : Part}
    (member : part ∈ (partsAt depth located tail).2) :
    ∃ l ∈ located, l.statement = part.marker ∧ IsMarker l := by
  induction located generalizing depth with
  | nil => simp [partsAt] at member
  | cons l rest ih =>
    by_cases top : depth = 0 ∧ IsMarker l
    · obtain ⟨rfl, marker⟩ := top
      rw [partsAt_marker marker] at member
      rcases List.mem_cons.mp member with rfl | member
      · exact ⟨l, List.mem_cons_self, rfl, marker⟩
      · obtain ⟨l', inside, same⟩ := ih member
        exact ⟨l', List.mem_cons_of_mem l inside, same⟩
    · rw [partsAt_inner top] at member
      obtain ⟨l', inside, same⟩ := ih member
      exact ⟨l', List.mem_cons_of_mem l inside, same⟩

theorem partsAt_settled (depth : Nat) {located : List Located} {tail : List Char}
    (proper : AllProper located) (idle : Idle tail) :
    Settled (partsAt depth located tail).1 ∧
      ∀ part ∈ (partsAt depth located tail).2, Settled part.body := by
  induction located generalizing depth with
  | nil =>
    refine ⟨idle.settled, ?_⟩
    intro part member
    simp [partsAt] at member
  | cons l rest ih =>
    have here : l.Proper := proper l List.mem_cons_self
    by_cases top : depth = 0 ∧ IsMarker l
    · obtain ⟨rfl, marker⟩ := top
      obtain ⟨front, bodies⟩ := ih 0 proper.tail
      rw [partsAt_marker marker]
      refine ⟨here.1.settled, ?_⟩
      intro part member
      rcases List.mem_cons.mp member with rfl | member
      · exact front
      · exact bodies part member
    · obtain ⟨front, bodies⟩ := ih (depthBehind depth l) proper.tail
      rw [partsAt_inner top]
      exact ⟨here.ended.append_settled front, bodies⟩

theorem tailAfter_layout (located : List Located) (tail : List Char) :
    tailAfter located (layout located ++ tail) = tail := by
  have length :
      located.foldr (fun l length => l.gap.length + l.statement.source.length + length) 0 =
        (layout located).length := by
    induction located with
    | nil => rfl
    | cons l rest ih =>
      rw [List.foldr_cons, ih, layout_cons, List.length_append, List.length_append]
  rw [tailAfter, length, List.drop_left]

theorem layout_tailAfter (text : List Char) :
    layout (statements text) ++ tailAfter (statements text) text = text ∧
      Statement.first? (tailAfter (statements text) text) = none := by
  obtain ⟨tail, whole, last⟩ := exists_tail text
  have same := tailAfter_layout (statements text) tail
  rw [← whole] at same
  rw [same]
  exact ⟨whole.symm, last⟩

theorem parts_layout {located : List Located} (proper : AllProper located) {tail : List Char}
    (last : Statement.first? tail = none) :
    parts (layout located ++ tail) = partsAt 0 located tail := by
  have same : statements (layout located ++ tail) = located := by
    rw [statements_layout_append proper, statements_nil_of_first? last, List.append_nil]
  rw [parts, same, tailAfter_layout]

theorem parts_source (body : List Char) :
    (parts body).1 ++ (parts body).2.flatMap Part.source = body := by
  obtain ⟨tail, whole, last⟩ := exists_tail body
  have read := parts_layout (statements_proper body) last
  rw [← whole] at read
  rw [read, partsAt_source, ← whole]

theorem parts_settled {body : List Char} (settled : Settled body) :
    ∀ part ∈ (parts body).2, Settled part.body := by
  obtain ⟨located, gap, proper, idle, rfl⟩ := settled
  rw [parts_layout proper (Statement.first?_of_idle idle)]
  exact (partsAt_settled 0 proper idle).2

theorem parts_markers {body : List Char} {part : Part} (member : part ∈ (parts body).2) :
    (part.marker.name = "case" ∨ part.marker.name = "default") ∧
      ∃ f : StatementForm, part.marker = f.statement := by
  obtain ⟨l, inside, same, marker⟩ := partsAt_markers member
  obtain ⟨-, f, form⟩ := statements_proper body l inside
  exact ⟨same ▸ marker, f, same.symm.trans form⟩

/-- A part with this marker begins behind this much of the source. -/
def BeginsPart (reading : List Char × List Part) (place : List Char) (marker : Statement) : Prop :=
  ∃ before part after, reading.2 = before ++ part :: after ∧ part.marker = marker ∧
    reading.1 ++ before.flatMap Part.source = place

theorem beginsPart_append {text body place : List Char} {parts : List Part} {marker : Statement} :
    BeginsPart (text ++ body, parts) (text ++ place) marker ↔
      BeginsPart (body, parts) place marker := by
  unfold BeginsPart
  simp only [List.append_assoc, List.append_cancel_left_eq]

theorem beginsPart_cons {gap body place : List Char} {parts : List Part} {first marker : Statement}
    (nonempty : first.source ≠ []) :
    BeginsPart (gap, ⟨first, body⟩ :: parts) (gap ++ first.source ++ place) marker ↔
      BeginsPart (body, parts) place marker := by
  constructor
  · rintro ⟨before, part, after, same, marked, begins⟩
    rw [List.append_assoc, List.append_cancel_left_eq] at begins
    cases before with
    | nil =>
      have empty := (List.append_eq_nil_iff.mp begins.symm).1
      exact absurd empty nonempty
    | cons p before =>
      obtain ⟨rfl, rest⟩ := List.cons.inj same
      rw [List.flatMap_cons, Part.source, List.append_assoc, List.append_cancel_left_eq] at begins
      exact ⟨before, part, after, rest, marked, begins⟩
  · rintro ⟨before, part, after, same, marked, begins⟩
    refine ⟨⟨first, body⟩ :: before, part, after, congrArg _ same, marked, ?_⟩
    simp only at begins ⊢
    rw [← begins, List.flatMap_cons, Part.source]
    simp only [List.append_assoc]

/-- A statement begins a part exactly when it is a marker and no inner switch is open there. -/
theorem partsAt_beginsPart_iff (depth : Nat) {front back : List Located} {l : Located}
    {tail : List Char} (proper : AllProper (front ++ l :: back)) :
    BeginsPart (partsAt depth (front ++ l :: back) tail) (layout front ++ l.gap) l.statement ↔
      front.foldl depthBehind depth = 0 ∧ IsMarker l := by
  induction front generalizing depth with
  | nil =>
    rw [List.nil_append]
    by_cases top : depth = 0 ∧ IsMarker l
    · obtain ⟨rfl, marker⟩ := top
      rw [partsAt_marker marker]
      refine iff_of_true ⟨[], _, _, rfl, rfl, ?_⟩ ⟨rfl, marker⟩
      simp [layout]
    · refine iff_of_false ?_ top
      rw [partsAt_inner top]
      rintro ⟨before, part, after, -, -, place⟩
      have here : l.Proper := proper l (by simp)
      have empty : l.statement.source = [] := by
        have lengths := congrArg List.length place
        simp only [layout, List.flatMap_nil, List.nil_append, List.length_append] at lengths
        exact List.length_eq_zero_iff.mp (by omega)
      exact here.source_ne_nil empty
  | cons l₀ front ih =>
    have here : l₀.Proper := proper l₀ (by simp)
    have later := ih (depthBehind depth l₀) (AllProper.tail proper)
    rw [List.foldl_cons, ← later, List.cons_append, layout_cons]
    by_cases top : depth = 0 ∧ IsMarker l₀
    · obtain ⟨rfl, marker⟩ := top
      rw [marker.depthBehind, partsAt_marker marker, List.append_assoc _ _ l.gap]
      exact beginsPart_cons (here.source_ne_nil)
    · rw [partsAt_inner top, List.append_assoc _ _ l.gap]
      exact beginsPart_append

theorem parts_beginsPart_iff {body : List Char} {front back : List Located} {l : Located}
    (split : statements body = front ++ l :: back) :
    BeginsPart (parts body) (layout front ++ l.gap) l.statement ↔
      openSwitches front = 0 ∧ IsMarker l := by
  rw [parts]
  simp only [split]
  exact partsAt_beginsPart_iff 0 (split ▸ statements_proper body)

end TopicWiki.Template.Switch
