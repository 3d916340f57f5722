import Mathlib.Data.List.Basic
import TopicWiki.Proofs.Text.Trim

namespace TopicWiki.Text

/-- The parts stand in a text in this order, none of them over another. -/
inductive InOrder : List (List Char) → List Char → Prop
  | nil (text : List Char) : InOrder [] text
  | cons {part rest : List Char} {parts : List (List Char)} (before : List Char) :
    InOrder parts rest → InOrder (part :: parts) (before ++ (part ++ rest))

namespace InOrder

variable {parts others : List (List Char)} {text front back : List Char}

theorem behind (inOrder : InOrder parts text) (front : List Char) :
    InOrder parts (front ++ text) := by
  cases inOrder with
  | nil => exact .nil _
  | cons before later =>
    rw [← List.append_assoc]
    exact .cons _ later

theorem append (first : InOrder parts front) (second : InOrder others back) :
    InOrder (parts ++ others) (front ++ back) := by
  induction first with
  | nil text => exact second.behind text
  | cons before _ ih =>
    rw [List.cons_append, List.append_assoc, List.append_assoc]
    exact .cons before ih

theorem eq_nil {c : Char} (holds : ∀ part ∈ parts, c ∈ part) (absent : c ∉ text)
    (inOrder : InOrder parts text) : parts = [] := by
  cases inOrder with
  | nil => rfl
  | cons before later =>
    rw [List.mem_append, not_or, List.mem_append, not_or] at absent
    exact absurd (holds _ (List.mem_cons_self ..)) absent.2.1

theorem split {c : Char} (absent : ∀ part ∈ parts, c ∉ part) (source : text = front ++ c :: back)
    (inOrder : InOrder parts text) :
    ∃ first second, parts = first ++ second ∧ InOrder first front ∧ InOrder second back := by
  induction inOrder generalizing front with
  | nil text => exact ⟨[], [], rfl, .nil _, .nil _⟩
  | @cons part rest parts before later ih =>
    have absentLater : ∀ part ∈ parts, c ∉ part :=
      fun part member => absent part (List.mem_cons_of_mem _ member)
    have within : ∀ {middle}, front = before ++ (part ++ middle) → rest = middle ++ c :: back →
        ∃ first second, part :: parts = first ++ second ∧ InOrder first front ∧
          InOrder second back := by
      intro middle shape same
      obtain ⟨first, second, rfl, inFirst, inSecond⟩ := ih absentLater same
      rw [shape]
      exact ⟨part :: first, second, rfl, .cons before inFirst, inSecond⟩
    have through : ∀ {middle}, front = before ++ middle → part ++ rest = middle ++ c :: back →
        ∃ first second, part :: parts = first ++ second ∧ InOrder first front ∧
          InOrder second back := by
      intro middle shape same
      rcases List.append_eq_append_iff.mp same with ⟨excess, rfl, restSame⟩ | ⟨excess, partSame, tail⟩
      · exact within shape restSame
      · cases excess with
        | nil =>
          rw [List.append_nil] at partSame
          have shape' : front = before ++ (part ++ []) := by rw [List.append_nil, partSame, shape]
          exact within shape' tail.symm
        | cons d excess =>
          obtain ⟨rfl, -⟩ := List.cons_eq_cons.mp tail
          rw [partSame] at absent
          refine absurd ?_ (absent _ (List.mem_cons_self ..))
          exact List.mem_append_right _ (List.mem_cons_self ..)
    rcases List.append_eq_append_iff.mp source with ⟨excess, shape, same⟩ | ⟨excess, shape, same⟩
    · exact through shape same
    · cases excess with
      | nil =>
        rw [List.append_nil] at shape
        have shape' : front = before ++ [] := by rw [List.append_nil, shape]
        exact through shape' same.symm
      | cons d excess =>
        obtain ⟨rfl, rfl⟩ := List.cons_eq_cons.mp same
        exact ⟨[], part :: parts, rfl, .nil _, .cons excess later⟩

theorem inside (inOrder : InOrder parts text) (within : text <:+: back) : InOrder parts back := by
  obtain ⟨before, after, rfl⟩ := within
  have kept := (inOrder.behind before).append (.nil after)
  rwa [List.append_nil] at kept

theorem trimEnd (solid : ∀ part ∈ parts, ∃ c ∈ part.getLast?, isBlank c = false)
    (inOrder : InOrder parts text) : InOrder parts (trimEnd text) := by
  induction inOrder with
  | nil => exact .nil _
  | @cons part rest parts before _ ih =>
    have later := ih fun part member => solid part (List.mem_cons_of_mem _ member)
    obtain ⟨c, last, visible⟩ := solid part (List.mem_cons_self ..)
    have kept : Text.trimEnd (before ++ (part ++ rest)) = before ++ (part ++ Text.trimEnd rest) := by
      obtain ⟨front, rfl⟩ := List.getLast?_eq_some_iff.mp last
      rw [← List.append_assoc, ← List.append_assoc, trimEnd_append]
      split
      · rename_i blank
        have none := trimEnd_append [] rest
        rw [if_pos blank, List.nil_append] at none
        have emptied : Text.trimEnd [] = [] := rfl
        rw [none, emptied, List.append_nil, ← List.append_assoc, trimEnd_of_last visible]
      · simp only [List.append_assoc]
    rw [kept]
    exact .cons before later

end InOrder

/-- Parts that stand in a sequence of texts: those of each text in their order, behind those of the
    texts before it. -/
inductive Across (holds : List (List Char) → List Char → Prop) :
    List (List Char) → List (List Char) → Prop
  | nil : Across holds [] []
  | cons {parts more : List (List Char)} {text : List Char} {texts : List (List Char)} :
    holds parts text → Across holds more texts → Across holds (parts ++ more) (text :: texts)

namespace Across

variable {holds : List (List Char) → List Char → Prop} {parts : List (List Char)}

theorem split {front back : List (List Char)} (across : Across holds parts (front ++ back)) :
    ∃ first second, parts = first ++ second ∧ Across holds first front ∧
      Across holds second back := by
  induction front generalizing parts with
  | nil => exact ⟨[], parts, rfl, .nil, across⟩
  | cons text front ih =>
    rw [List.cons_append] at across
    cases across with
    | cons here later =>
      obtain ⟨first, second, rfl, inFront, inBack⟩ := ih later
      exact ⟨_, second, (List.append_assoc ..).symm, .cons here inFront, inBack⟩

theorem flatMap {α : Type} {items : List α} {text f : α → List Char}
    (kept : ∀ {parts item}, holds parts (text item) → InOrder parts (f item))
    (across : Across holds parts (items.map text)) : InOrder parts (items.flatMap f) := by
  induction items generalizing parts with
  | nil =>
    cases across
    exact .nil _
  | cons item items ih =>
    rw [List.map_cons] at across
    cases across with
    | cons here later =>
      rw [List.flatMap_cons]
      exact (kept here).append (ih later)

end Across

end TopicWiki.Text
