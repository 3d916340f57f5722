import TopicWiki.Text.Occurrence

namespace TopicWiki.Text

variable {pattern : List Char}

theorem replaceAll_of_absent (nonempty : pattern ≠ []) {text : List Char}
    (absent : cut? pattern text = none) (replacement : List Char) :
    replaceAll pattern replacement text = text := by
  rw [replaceAll, dif_neg nonempty]
  split
  · rfl
  · rename_i found
    rw [absent] at found
    cases found

theorem replaceAll_of_cut {text before after : List Char} (nonempty : pattern ≠ [])
    (cut : cut? pattern text = some (before, after)) (replacement : List Char) :
    replaceAll pattern replacement text =
      before ++ replacement ++ replaceAll pattern replacement after := by
  rw [replaceAll, dif_neg nonempty]
  split
  · rename_i absent
    rw [cut] at absent
    cases absent
  · rename_i found
    rw [cut] at found
    cases found
    rfl

theorem replaceAll_nil (nonempty : pattern ≠ []) (replacement : List Char) :
    replaceAll pattern replacement [] = [] :=
  replaceAll_of_absent nonempty (by simp [cut?, nonempty]) replacement

theorem replaceAll_append_pattern (nonempty : pattern ≠ []) (replacement after : List Char) :
    replaceAll pattern replacement (pattern ++ after) =
      replacement ++ replaceAll pattern replacement after := by
  cases pattern with
  | nil => contradiction
  | cons p pattern =>
    have here := isPrefixOf?_append (p :: pattern) after
    have cut : cut? (p :: pattern) (p :: pattern ++ after) = some ([], after) := by
      rw [List.cons_append] at here ⊢
      simp [cut?, here]
    exact replaceAll_of_cut nonempty cut replacement

theorem mem_of_mem_replaceAll {c : Char} {replacement text : List Char}
    (member : c ∈ replaceAll pattern replacement text) : c ∈ text ∨ c ∈ replacement := by
  by_cases empty : pattern = []
  · rw [replaceAll, dif_pos empty, List.mem_append] at member
    rcases member with member | member
    · exact .inr member
    · obtain ⟨d, inside, here⟩ := List.mem_flatMap.mp member
      rcases List.mem_cons.mp here with rfl | here
      · exact .inl inside
      · exact .inr here
  · induction size : text.length using Nat.strongRecOn generalizing text with
    | ind n ih =>
      cases found : cut? pattern text with
      | none =>
        rw [replaceAll_of_absent empty found] at member
        exact .inl member
      | some parts =>
        obtain ⟨before, after⟩ := parts
        have shorter := cut?_after_lt found empty
        rw [replaceAll_of_cut empty found, List.mem_append, List.mem_append] at member
        rw [cut?_eq_some found, List.mem_append]
        rcases member with (member | member) | member
        · exact .inl (.inl (List.mem_append_left _ member))
        · exact .inr member
        · exact (ih _ (size ▸ shorter) member rfl).imp_left .inr

theorem replaceAll_cons {c : Char} {text : List Char} (nonempty : pattern ≠ [])
    (elsewhere : pattern.isPrefixOf? (c :: text) = none) (replacement : List Char) :
    replaceAll pattern replacement (c :: text) = c :: replaceAll pattern replacement text := by
  cases found : cut? pattern text with
  | none =>
    have absent : cut? pattern (c :: text) = none := by simp [cut?, elsewhere, found]
    rw [replaceAll_of_absent nonempty absent, replaceAll_of_absent nonempty found]
  | some parts =>
    obtain ⟨before, after⟩ := parts
    have cut : cut? pattern (c :: text) = some (c :: before, after) := by
      simp [cut?, elsewhere, found]
    rw [replaceAll_of_cut nonempty cut, replaceAll_of_cut nonempty found]
    rfl

end TopicWiki.Text
