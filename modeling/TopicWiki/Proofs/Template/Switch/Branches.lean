import TopicWiki.Proofs.Outcome
import TopicWiki.Proofs.Template.Switch.Parts

namespace TopicWiki.Template.Switch

open Text

/-- The body of a part as its branch has it, with the blanks trimmed that its own marker and the
    next one remove. -/
def Part.kept (part : Part) (rest : List Part) : List Char :=
  let body := if part.marker.trimAfter then trimStart part.body else part.body
  if rest.head?.any fun next => next.marker.trimBefore then trimEnd body else body

def Part.branch (part : Part) (rest : List Part) : Branch where
  values? := if part.marker.name = "default" then none else some (caseValues part.marker.arguments)
  body := part.kept rest

def branchesOf : List Part → List Branch
  | [] => []
  | part :: rest => part.branch rest :: branchesOf rest

def HasValues (part : Part) : Prop :=
  part.marker.name ≠ "default" → caseValues part.marker.arguments ≠ []

def DefaultLast (parts : List Part) : Prop :=
  ∀ before part after, parts = before ++ part :: after → part.marker.name = "default" → after = []

theorem defaultLast_nil : DefaultLast [] := by
  intro before part after split
  simp at split

theorem defaultLast_cons {part : Part} {rest : List Part} :
    DefaultLast (part :: rest) ↔
      (part.marker.name = "default" → rest = []) ∧ DefaultLast rest := by
  constructor
  · intro last
    refine ⟨last [] part rest rfl, ?_⟩
    intro before next after split
    exact last (part :: before) next after (by rw [split]; rfl)
  · rintro ⟨here, later⟩ before next after split
    cases before with
    | nil =>
      obtain ⟨rfl, rfl⟩ := List.cons.inj split
      exact here
    | cons first before =>
      obtain ⟨-, rest⟩ := List.cons.inj split
      exact later before next after rest

theorem branches_cons (seenDefault : Bool) (part : Part) (rest : List Part) :
    branches seenDefault (part :: rest) =
      if seenDefault then .error .afterDefault
      else if part.marker.name = "default" then
        (branches true rest).map (part.branch rest :: ·)
      else if caseValues part.marker.arguments = [] then .error .noValue
      else (branches false rest).map (part.branch rest :: ·) := by
  rw [branches]
  cases seenDefault with
  | true => rfl
  | false =>
    by_cases default : part.marker.name = "default"
    · simp only [default, if_true, Bool.false_eq_true, if_false, Part.branch, Part.kept]
      cases branches true rest <;> rfl
    · simp only [default, if_false, Bool.false_eq_true, Part.branch, Part.kept]
      cases caseValues part.marker.arguments with
      | nil => rfl
      | cons value values => cases branches false rest <;> rfl

theorem branches_true_eq_ok_iff {parts : List Part} {result : List Branch} :
    branches true parts = .ok result ↔ parts = [] ∧ result = [] := by
  cases parts with
  | nil =>
    rw [branches]
    constructor
    · intro read
      cases read
      exact ⟨rfl, rfl⟩
    · rintro ⟨-, rfl⟩
      rfl
  | cons part rest => simp [branches_cons]

theorem branches_eq_ok_iff {parts : List Part} {result : List Branch} :
    branches false parts = .ok result ↔
      (∀ part ∈ parts, HasValues part) ∧ DefaultLast parts ∧ result = branchesOf parts := by
  induction parts generalizing result with
  | nil =>
    rw [branches]
    constructor
    · intro read
      cases read
      exact ⟨by simp, defaultLast_nil, rfl⟩
    · rintro ⟨-, -, rfl⟩
      rfl
  | cons part rest ih =>
    rw [branches_cons, List.forall_mem_cons, defaultLast_cons, branchesOf]
    by_cases default : part.marker.name = "default"
    · simp only [default, if_true, Bool.false_eq_true, if_false, Except.map_eq_ok_iff,
        branches_true_eq_ok_iff]
      constructor
      · rintro ⟨_, ⟨rfl, rfl⟩, rfl⟩
        refine ⟨⟨fun other => absurd default other, by simp⟩, ⟨fun _ => rfl, defaultLast_nil⟩, rfl⟩
      · rintro ⟨-, ⟨last, -⟩, rfl⟩
        obtain rfl := last trivial
        exact ⟨[], ⟨rfl, rfl⟩, rfl⟩
    · have values : HasValues part ↔ caseValues part.marker.arguments ≠ [] := by
        simp [HasValues, default]
      simp only [default, if_false, Bool.false_eq_true, values, false_implies, true_and]
      by_cases empty : caseValues part.marker.arguments = []
      · simp [empty]
      · simp only [empty, if_false, Except.map_eq_ok_iff, ih]
        constructor
        · rintro ⟨_, ⟨all, last, rfl⟩, rfl⟩
          exact ⟨⟨empty, all⟩, last, rfl⟩
        · rintro ⟨⟨-, all⟩, last, rfl⟩
          exact ⟨_, ⟨all, last, rfl⟩, rfl⟩

def replacement (serial : Nat) (subject : List Char) (branches : List Branch) : List Char :=
  statementText ("with ".toList ++ subjectVariable serial ++ " = (".toList ++ subject ++ [')']) ++
    chain (subjectVariable serial) true branches ++ statementText "endwith".toList

theorem expandBlock_eq (serial : Nat) (arguments body : List Char) :
    expandBlock serial arguments body =
      if trim arguments = [] then .error .noSubject
      else if allBlank (parts body).1 = true then
        (branches false (parts body).2).map (replacement serial (trim arguments))
      else .error .textBeforeCase := by
  rw [expandBlock]
  by_cases subject : trim arguments = []
  · simp only [subject, List.isEmpty_nil, if_true]
    rfl
  · simp only [subject, List.isEmpty_iff, if_false]
    cases preamble : allBlank (parts body).1 with
    | true => cases branches false (parts body).2 <;> rfl
    | false => rfl

/-- A switch is replaced exactly when it has a subject, only blanks stand before its first marker,
    each case has a value and only its last branch is a default. -/
theorem expandBlock_eq_ok_iff {serial : Nat} {arguments body text : List Char} :
    expandBlock serial arguments body = .ok text ↔
      trim arguments ≠ [] ∧ allBlank (parts body).1 = true ∧
        (∀ part ∈ (parts body).2, HasValues part) ∧ DefaultLast (parts body).2 ∧
          text = replacement serial (trim arguments) (branchesOf (parts body).2) := by
  rw [expandBlock_eq]
  by_cases subject : trim arguments = []
  · simp [subject]
  · by_cases preamble : allBlank (parts body).1 = true
    · simp only [subject, preamble, if_false, if_true, Except.map_eq_ok_iff, branches_eq_ok_iff,
        ne_eq, not_false_eq_true, true_and]
      constructor
      · rintro ⟨_, ⟨values, last, rfl⟩, rfl⟩
        exact ⟨values, last, rfl⟩
      · rintro ⟨values, last, rfl⟩
        exact ⟨_, ⟨values, last, rfl⟩, rfl⟩
    · simp [subject, preamble]

end TopicWiki.Template.Switch
