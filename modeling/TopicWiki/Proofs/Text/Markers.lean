import Mathlib.Data.List.Basic
import TopicWiki.Text.Occurrence

namespace TopicWiki.Text

def Braceless (text : List Char) : Prop :=
  '\x7b' ∉ text ∧ '\x7d' ∉ text

instance (text : List Char) : Decidable (Braceless text) :=
  inferInstanceAs (Decidable (_ ∧ _))

def marker (word : List Char) : List Char :=
  '\x7b' :: (word ++ ['\x7d'])

def occurrences (pattern text : List Char) : Nat :=
  text.tails.countP pattern.isPrefixOf

section

variable {word word' front back rest text : List Char}

theorem marker_ne_nil : marker word ≠ [] :=
  List.cons_ne_nil _ _

theorem eq_of_prefix_marker (braceless : Braceless word) (braceless' : Braceless word')
    (begins : marker word <+: marker word' ++ rest) : word = word' := by
  obtain ⟨after, same⟩ := begins
  have before {word : List Char} (braceless : Braceless word) (rest : List Char) :
      (word ++ '\x7d' :: rest).takeWhile (· ≠ '\x7d') = word := by
    rw [List.takeWhile_append_of_pos]
    · simp
    · intro c member
      exact decide_eq_true (ne_of_mem_of_not_mem member braceless.2)
  simp only [marker, List.cons_append, List.append_assoc, List.nil_append, List.cons.injEq,
    true_and] at same
  rw [← before braceless after, same, before braceless' rest]

theorem marker_prefix_append_iff (braceless : Braceless word) (nonempty : front ≠ []) :
    marker word <+: front ++ '\x7b' :: back ↔ marker word <+: front := by
  refine ⟨fun begins => ?_, fun begins => begins.trans (List.prefix_append _ _)⟩
  rcases List.prefix_or_prefix_of_prefix begins (List.prefix_append front _) with
    inside | ⟨more, longer⟩
  · exact inside
  · obtain ⟨c, front, rfl⟩ := List.exists_cons_of_ne_nil nonempty
    cases more with
    | nil => exact ⟨[], by simpa using longer.symm⟩
    | cons d more =>
      obtain ⟨after, same⟩ := begins
      rw [← longer, List.append_assoc] at same
      obtain ⟨rfl, -⟩ := List.cons.inj (List.append_cancel_left same)
      obtain ⟨-, tail⟩ := List.cons.inj longer
      have member : '\x7b' ∈ word ++ ['\x7d'] := by simp [← tail]
      simp [braceless.1] at member

theorem marker_prefix_head {c : Char} (begins : marker word <+: c :: rest) : c = '\x7b' := by
  obtain ⟨after, same⟩ := begins
  exact (List.cons.inj same).1.symm

theorem occurrences_nil : occurrences (marker word) [] = 0 := rfl

theorem occurrences_cons (c : Char) :
    occurrences (marker word) (c :: text) =
      occurrences (marker word) text + if marker word <+: c :: text then 1 else 0 := by
  simp [occurrences, List.countP_cons]

theorem occurrences_eq_zero_iff : occurrences (marker word) text = 0 ↔ ¬ marker word <:+: text := by
  induction text with
  | nil =>
    rw [List.infix_nil]
    exact iff_of_true occurrences_nil marker_ne_nil
  | cons c text ih =>
    rw [occurrences_cons, List.infix_cons_iff, not_or, ← ih]
    split <;> simp_all

theorem occurrences_append_of_plain (plain : '\x7b' ∉ front) (text : List Char) :
    occurrences (marker word) (front ++ text) = occurrences (marker word) text := by
  induction front with
  | nil => rfl
  | cons c front ih =>
    rw [List.mem_cons, not_or] at plain
    have elsewhere : ¬ marker word <+: c :: (front ++ text) :=
      fun begins => plain.1 (marker_prefix_head begins).symm
    rw [List.cons_append, occurrences_cons, ih plain.2, if_neg elsewhere, Nat.add_zero]

theorem occurrences_append_brace (braceless : Braceless word) (front back : List Char) :
    occurrences (marker word) (front ++ '\x7b' :: back) =
      occurrences (marker word) front + occurrences (marker word) ('\x7b' :: back) := by
  induction front with
  | nil => simp [occurrences_nil]
  | cons c front ih =>
    have same : marker word <+: c :: (front ++ '\x7b' :: back) ↔ marker word <+: c :: front :=
      marker_prefix_append_iff braceless (List.cons_ne_nil c front)
    rw [List.cons_append, occurrences_cons, occurrences_cons, ih]
    simp only [same]
    omega

theorem occurrences_append_marker (braceless : Braceless word) (front word' back : List Char) :
    occurrences (marker word) (front ++ (marker word' ++ back)) =
      occurrences (marker word) front + occurrences (marker word) (marker word' ++ back) :=
  occurrences_append_brace braceless front (word' ++ ['\x7d'] ++ back)

theorem occurrences_marker_append (braceless : Braceless word) (braceless' : Braceless word')
    (text : List Char) : occurrences (marker word) (marker word' ++ text) =
      occurrences (marker word) text + if word = word' then 1 else 0 := by
  have plain : '\x7b' ∉ word' ++ ['\x7d'] := by simp [braceless'.1]
  have here : marker word <+: '\x7b' :: (word' ++ ['\x7d'] ++ text) ↔ word = word' := by
    refine ⟨eq_of_prefix_marker braceless braceless', ?_⟩
    rintro rfl
    exact List.prefix_append _ _
  change occurrences (marker word) ('\x7b' :: (word' ++ ['\x7d'] ++ text)) = _
  rw [occurrences_cons, occurrences_append_of_plain plain]
  simp only [here]

end

end TopicWiki.Text
