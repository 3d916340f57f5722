import Mathlib.Data.List.Basic
import TopicWiki.Text.Blank

namespace TopicWiki.Text

theorem head?_dropWhile {α : Type} {p : α → Bool} (items : List α) {a : α}
    (head : a ∈ (items.dropWhile p).head?) : p a = false := by
  have stopped := List.head?_dropWhile_not p items
  rw [Option.mem_def] at head
  rw [head] at stopped
  simpa using stopped

theorem trimStart_append (front back : List Char) :
    trimStart (front ++ back) =
      if allBlank front then trimStart back else trimStart front ++ back := by
  induction front with
  | nil => rfl
  | cons c front ih =>
    by_cases blank : isBlank c = true
    · have step : ∀ text, trimStart (c :: text) = trimStart text := by
        intro text
        exact List.dropWhile_cons_of_pos blank
      rw [List.cons_append, step, step, ih]
      simp [allBlank, blank]
    · rw [Bool.not_eq_true] at blank
      rw [List.cons_append, trimStart_of_head blank, trimStart_of_head blank]
      simp [allBlank, blank]

theorem trimEnd_append (front back : List Char) :
    trimEnd (front ++ back) =
      if allBlank back then trimEnd front else front ++ trimEnd back := by
  have swapped := trimStart_append back.reverse front.reverse
  have blank : allBlank back.reverse = allBlank back := List.all_reverse
  unfold trimEnd
  rw [List.reverse_append]
  change (trimStart _).reverse = _
  rw [swapped, blank]
  split
  · rfl
  · rw [List.reverse_append, List.reverse_reverse]
    rfl

theorem exists_blank_trimStart (text : List Char) :
    ∃ blanks, text = blanks ++ trimStart text ∧ allBlank blanks = true := by
  refine ⟨text.takeWhile isBlank, List.takeWhile_append_dropWhile.symm, ?_⟩
  exact List.all_takeWhile

theorem exists_blank_trimEnd (text : List Char) :
    ∃ blanks, text = trimEnd text ++ blanks ∧ allBlank blanks = true := by
  obtain ⟨blanks, same, blank⟩ := exists_blank_trimStart text.reverse
  refine ⟨blanks.reverse, ?_, ?_⟩
  · have turned := congrArg List.reverse same
    rw [List.reverse_reverse, List.reverse_append] at turned
    exact turned
  · rw [allBlank, List.all_reverse]
    exact blank

theorem trimStart_suffix (text : List Char) : trimStart text <:+ text :=
  List.dropWhile_suffix _

theorem trimEnd_isPrefix (text : List Char) : trimEnd text <+: text := by
  obtain ⟨blanks, same, -⟩ := exists_blank_trimEnd text
  exact ⟨blanks, same.symm⟩

theorem dropEndWhile_isPrefix (p : Char → Bool) (text : List Char) :
    dropEndWhile p text <+: text := by
  have kept := List.dropWhile_suffix p (l := text.reverse)
  rwa [← List.reverse_prefix, List.reverse_reverse] at kept

theorem exists_of_dropEndWhile (p : Char → Bool) (text : List Char) :
    ∃ dropped, text = dropEndWhile p text ++ dropped ∧ dropped.all p = true := by
  refine ⟨(text.reverse.takeWhile p).reverse, ?_, ?_⟩
  · have whole := congrArg List.reverse (List.takeWhile_append_dropWhile (p := p) (l := text.reverse))
    rw [List.reverse_append, List.reverse_reverse] at whole
    exact whole.symm
  · rw [List.all_reverse]
    exact List.all_takeWhile

theorem trim_inside (text : List Char) : trim text <:+: text :=
  (trimEnd_isPrefix _).isInfix.trans (trimStart_suffix text).isInfix

theorem trim_eq_nil_iff {text : List Char} : trim text = [] ↔ allBlank text = true := by
  constructor
  · intro empty
    obtain ⟨front, same, blank⟩ := exists_blank_trimStart text
    obtain ⟨back, same', blank'⟩ := exists_blank_trimEnd (trimStart text)
    rw [trim] at empty
    rw [empty, List.nil_append] at same'
    rw [same, same', allBlank, List.all_append, Bool.and_eq_true]
    exact ⟨blank, blank'⟩
  · intro blank
    have start := trimStart_append text []
    rw [if_pos blank, List.append_nil] at start
    rw [trim, start]
    rfl

def Trimmed (text : List Char) : Prop :=
  trim text = text ∧ text ≠ []

instance (text : List Char) : Decidable (Trimmed text) :=
  inferInstanceAs (Decidable (_ ∧ _))

section Trimmed

variable {text : List Char}

theorem Trimmed.trimStart (trimmed : Trimmed text) : trimStart text = text := by
  refine (trimStart_suffix text).eq_of_length (Nat.le_antisymm (trimStart_suffix text).length_le ?_)
  calc text.length = (trim text).length := by rw [trimmed.1]
    _ ≤ (Text.trimStart text).length := (trimEnd_isPrefix _).length_le

theorem Trimmed.trimEnd (trimmed : Trimmed text) : trimEnd text = text := by
  have whole := trimmed.1
  rwa [trim, trimmed.trimStart] at whole

theorem Trimmed.solid (trimmed : Trimmed text) : allBlank text = false := by
  rw [← Bool.not_eq_true, ← trim_eq_nil_iff, trimmed.1]
  exact trimmed.2

theorem Trimmed.append {front back : List Char} (trimmed : Trimmed front) (trimmed' : Trimmed back)
    (middle : List Char) : Trimmed (front ++ middle ++ back) := by
  refine ⟨?_, by simp [trimmed.2]⟩
  rw [trim, List.append_assoc, trimStart_append, trimmed.solid, if_neg Bool.false_ne_true,
    trimmed.trimStart, ← List.append_assoc, trimEnd_append, trimmed'.solid,
    if_neg Bool.false_ne_true, trimmed'.trimEnd]

theorem Trimmed.head_ne_space (trimmed : Trimmed text) : text.head? ≠ some ' ' := by
  obtain ⟨c, rest, rfl⟩ := List.exists_cons_of_ne_nil trimmed.2
  intro same
  obtain rfl := Option.some.inj same
  have longer := congrArg List.length trimmed.trimStart
  have shorter := (trimStart_suffix rest).length_le
  change (Text.trimStart rest).length = rest.length + 1 at longer
  omega

theorem Trimmed.last_ne_space (trimmed : Trimmed text) : text.getLast? ≠ some ' ' := by
  intro same
  obtain ⟨front, rfl⟩ := List.getLast?_eq_some_iff.mp same
  have kept := trimmed.trimEnd
  rw [trimEnd_append, if_pos (by decide)] at kept
  have longer := congrArg List.length kept
  have shorter := (trimEnd_isPrefix front).length_le
  rw [List.length_append, List.length_singleton] at longer
  omega

theorem Trimmed.nonBlank? (trimmed : Trimmed text) {front back : List Char}
    (blank : allBlank front = true) (blank' : allBlank back = true) :
    nonBlank? (front ++ text ++ back) = some text := by
  have whole : trim (front ++ text ++ back) = text := by
    rw [trim, List.append_assoc, trimStart_append, if_pos blank, trimStart_append, trimmed.solid,
      if_neg Bool.false_ne_true, trimEnd_append, if_pos blank', trimmed.trimStart, trimmed.trimEnd]
  rw [Text.nonBlank?, whole, if_neg]
  rw [List.isEmpty_iff]
  exact trimmed.2

theorem Trimmed.nonBlank?_eq_self (trimmed : Trimmed text) : Text.nonBlank? text = some text := by
  rw [Text.nonBlank?, trimmed.1, if_neg]
  rw [List.isEmpty_iff]
  exact trimmed.2

end Trimmed

end TopicWiki.Text
