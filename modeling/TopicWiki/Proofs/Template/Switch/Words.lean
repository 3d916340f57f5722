import TopicWiki.Template.Switch
import TopicWiki.Proofs.Template.StatementForm
import TopicWiki.Proofs.Text.Trim

namespace TopicWiki.Template.Switch

open Text

/-- The text could be the inside of one statement. -/
def Unclosed (text : List Char) : Prop :=
  ¬ statementClose <:+: text

theorem Unclosed.of_infix {text part : List Char} (unclosed : Unclosed text)
    (inside : part <:+: text) : Unclosed part :=
  fun early => unclosed (early.trans inside)

theorem Unclosed.append {front back : List Char} (unclosed : Unclosed front)
    (unclosed' : Unclosed back) (apart : back.head? ≠ some '\x7d') : Unclosed (front ++ back) := by
  induction front with
  | nil => exact unclosed'
  | cons c front ih =>
    have later := ih (unclosed.of_infix (List.suffix_cons c front).isInfix)
    unfold Unclosed
    rw [List.cons_append, List.infix_cons_iff, not_or]
    refine ⟨?_, later⟩
    rintro ⟨after, same⟩
    cases front with
    | nil =>
      apply apart
      rw [List.nil_append] at same
      rw [← (List.cons.inj same).2]
      rfl
    | cons d front =>
      apply unclosed
      simp only [statementClose, List.cons_append, List.nil_append, List.cons.injEq] at same
      obtain ⟨rfl, rfl, -⟩ := same
      exact ⟨[], front, rfl⟩

theorem Unclosed.of_free_append {front back : List Char} (free : '%' ∉ front)
    (unclosed : Unclosed back) : Unclosed (front ++ back) := by
  induction front with
  | nil => exact unclosed
  | cons c front ih =>
    rw [List.mem_cons, not_or] at free
    unfold Unclosed
    rw [List.cons_append, List.infix_cons_iff, not_or]
    refine ⟨?_, ih free.2⟩
    rintro ⟨after, same⟩
    exact free.1 (List.cons.inj same).1

theorem Unclosed.of_free {text : List Char} (free : '%' ∉ text) : Unclosed text :=
  fun early => free (early.subset (by simp [statementClose]))

theorem free_subjectVariable (serial : Nat) : '%' ∉ subjectVariable serial := by
  unfold subjectVariable
  rw [List.mem_append, not_or]
  refine ⟨by decide, fun member => ?_⟩
  have digit := Nat.isDigit_of_mem_toDigits (by decide) (by decide) member
  exact absurd digit (by decide)

theorem unclosed_parenthesized {text : List Char} (unclosed : Unclosed text) :
    Unclosed (text ++ [')']) :=
  unclosed.append (Unclosed.of_free (by decide)) (by decide)

theorem unclosed_condition {variable_ : List Char} {values : List (List Char)}
    (free : '%' ∉ variable_) (unclosed : ∀ value ∈ values, Unclosed value) :
    Unclosed (condition variable_ values) := by
  have test : ∀ value ∈ values, Unclosed (variable_ ++ " == (".toList ++ value ++ [')']) := by
    intro value member
    rw [List.append_assoc]
    apply Unclosed.of_free_append _ (unclosed_parenthesized (unclosed value member))
    rw [List.mem_append, not_or]
    exact ⟨free, by decide⟩
  unfold condition
  induction values with
  | nil => exact Unclosed.of_free (by simp)
  | cons value values ih =>
    obtain ⟨here, later⟩ := List.forall_mem_cons.mp test
    cases values with
    | nil => simpa using here
    | cons next values =>
      rw [List.map_cons, List.map_cons, List.intercalate_cons_cons, List.append_assoc]
      apply here.append _ (by simp)
      apply Unclosed.of_free_append (by decide)
      exact ih (List.forall_mem_cons.mp unclosed).2 later

theorem exists_form_of_words (head : Char) (tail inside : List Char)
    (start : isNameStart head = true) (named : ∀ c ∈ tail, isNameChar c = true)
    (apart : ∀ c ∈ inside.head?, isNameChar c = false) (unclosed : Unclosed inside) :
    ∃ f : StatementForm, statementText (head :: tail ++ inside) = f.source ∧
      f.name = head :: tail := by
  have apart' : ∀ c ∈ (inside ++ [' ']).head?, isNameChar c = false := by
    cases inside with
    | nil => simp; decide
    | cons d inside => simpa using apart
  have unclosed' : Unclosed (inside ++ [' ']) :=
    unclosed.append (Unclosed.of_free (by decide)) (by decide)
  have blank : ∀ c ∈ [' '], isBlank c = true := List.forall_mem_singleton.mpr isBlank_space
  refine ⟨⟨false, [' '], head, tail, inside ++ [' '], blank, start, named, apart', unclosed'⟩, ?_,
    rfl⟩
  simp [statementText, StatementForm.source, StatementForm.dashText, StatementForm.name,
    statementOpen, statementClose]

def Slices (text : List Char) (pieces : List (List Char)) : Prop :=
  ∃ first others, pieces = first :: others ∧ first <+: text ∧ ∀ piece ∈ others, piece <:+: text

theorem Slices.inside {text piece : List Char} {pieces : List (List Char)}
    (slices : Slices text pieces) (member : piece ∈ pieces) : piece <:+: text := by
  obtain ⟨first, others, rfl, start, inside⟩ := slices
  rcases List.mem_cons.mp member with rfl | member
  · exact start.isInfix
  · exact inside piece member

theorem Slices.consPiece {text : List Char} {pieces : List (List Char)}
    (slices : Slices text pieces) (c : Char) : Slices (c :: text) (consPiece c pieces) := by
  obtain ⟨first, others, rfl, start, inside⟩ := slices
  refine ⟨c :: first, others, rfl, List.prefix_cons_inj c |>.mpr start, ?_⟩
  intro piece member
  exact (inside piece member).trans (List.suffix_cons c text).isInfix

theorem slices_cut (c : Char) {text : List Char} {pieces : List (List Char)}
    (inside : ∀ piece ∈ pieces, piece <:+: text) : Slices (c :: text) ([] :: pieces) := by
  refine ⟨[], pieces, rfl, List.nil_prefix, ?_⟩
  intro piece member
  exact (inside piece member).trans (List.suffix_cons c text).isInfix

theorem casePieces_slices (mode : CaseMode) (before : Option Char) (depth : Int)
    (text : List Char) :
    (mode ≠ .inOr → Slices text (casePieces mode before depth text)) ∧
      ∀ piece ∈ casePieces mode before depth text, piece <:+: text := by
  induction text generalizing mode before depth with
  | nil =>
    have empty : Slices [] (casePieces mode before depth []) := by
      refine ⟨[], [], ?_, List.prefix_rfl, by simp⟩
      cases mode <;> rfl
    exact ⟨fun _ => empty, fun _ member => empty.inside member⟩
  | cons c rest ih =>
    have kept {mode : CaseMode} {before : Option Char} {depth : Int} (other : mode ≠ .inOr) :=
      ((ih mode before depth).1 other).consPiece c
    have separated {mode : CaseMode} {before : Option Char} {depth : Int} :=
      slices_cut c (ih mode before depth).2
    have whole (other : mode ≠ .inOr) :
        Slices (c :: rest) (casePieces mode before depth (c :: rest)) := by
      cases mode with
      | inOr => exact absurd rfl other
      | quoted q =>
        rw [casePieces]
        apply kept
        split
        · simp
        · split <;> simp
      | escaped q => exact kept (by simp)
      | plain =>
        rw [casePieces]
        split
        · exact kept (by simp)
        · split
          · exact kept (by simp)
          · split
            · exact kept (by simp)
            · split
              · exact separated
              · split
                · exact separated
                · exact kept (by simp)
    refine ⟨whole, ?_⟩
    intro piece member
    by_cases within : mode = .inOr
    · subst within
      exact ((ih .plain (some c) depth).2 piece member).trans (List.suffix_cons c rest).isInfix
    · exact (whole within).inside member

theorem caseValues_inside {arguments value : List Char} (member : value ∈ caseValues arguments) :
    value <:+: arguments := by
  obtain ⟨piece, inside, trimmed⟩ := List.mem_filterMap.mp member
  unfold nonBlank? at trimmed
  simp only at trimmed
  split at trimmed
  · cases trimmed
  · cases trimmed
    exact (trim_inside piece).trans ((casePieces_slices .plain none 0 arguments).2 piece inside)

end TopicWiki.Template.Switch
