import Mathlib.Data.List.Basic
import TopicWiki.Text.Occurrence

namespace TopicWiki.Text

theorem isPrefixOf?_eq_none_iff {pattern text : List Char} :
    pattern.isPrefixOf? text = none ↔ ¬ pattern <+: text := by
  constructor
  · intro missed ⟨after, same⟩
    rw [← same, isPrefixOf?_append] at missed
    cases missed
  · intro absent
    cases found : pattern.isPrefixOf? text with
    | none => rfl
    | some after => exact absurd ⟨after, (isPrefixOf?_eq_some found).symm⟩ absent

theorem cut?_eq_none_iff {pattern text : List Char} :
    cut? pattern text = none ↔ ¬ pattern <:+: text := by
  induction text with
  | nil => cases pattern <;> simp [cut?]
  | cons c rest ih =>
    rw [List.infix_cons_iff, not_or, ← ih, ← isPrefixOf?_eq_none_iff, cut?]
    cases pattern.isPrefixOf? (c :: rest) with
    | none => simp
    | some after => simp

theorem contains_eq_false_iff {pattern text : List Char} :
    contains pattern text = false ↔ ¬ pattern <:+: text := by
  rw [← cut?_eq_none_iff, contains, Option.isSome_eq_false_iff, Option.isNone_iff_eq_none]

theorem contains_iff_infix {pattern text : List Char} :
    contains pattern text = true ↔ pattern <:+: text := by
  rw [← not_iff_not, Bool.not_eq_true, contains_eq_false_iff]

theorem cut?_cons_of_not_prefix {pattern : List Char} {c : Char} {rest before after : List Char}
    (elsewhere : ¬ pattern <+: c :: rest) (found : cut? pattern rest = some (before, after)) :
    cut? pattern (c :: rest) = some (c :: before, after) := by
  rw [cut?, isPrefixOf?_eq_none_iff.mpr elsewhere]
  simp [found]

theorem dropLast_isPrefix_behind (c : Char) (before pattern after : List Char) :
    c :: (before ++ pattern.dropLast) <+: c :: (before ++ pattern ++ after) := by
  rw [List.prefix_cons_inj, List.append_assoc, List.prefix_append_right_inj]
  exact pattern.dropLast_prefix.trans (List.prefix_append _ _)

theorem not_early_of_cut? {pattern text before after : List Char} (nonempty : pattern ≠ [])
    (found : cut? pattern text = some (before, after)) :
    ¬ pattern <:+: before ++ pattern.dropLast := by
  induction text generalizing before with
  | nil => simp [cut?, nonempty] at found
  | cons c rest ih =>
    rw [cut?] at found
    cases here : pattern.isPrefixOf? (c :: rest) with
    | some tail =>
      simp only [here, Option.some.injEq, Prod.mk.injEq] at found
      obtain ⟨rfl, -⟩ := found
      intro inside
      have bound := inside.length_le
      have positive := List.length_pos_iff.mpr nonempty
      simp only [List.nil_append, List.length_dropLast] at bound
      omega
    | none =>
      cases later : cut? pattern rest with
      | none => simp [here, later] at found
      | some parts =>
        obtain ⟨front, back⟩ := parts
        simp only [here, later, Option.map_some, Option.some.injEq, Prod.mk.injEq] at found
        obtain ⟨rfl, rfl⟩ := found
        rw [List.cons_append, List.infix_cons_iff, not_or]
        refine ⟨?_, ih later⟩
        intro start
        apply isPrefixOf?_eq_none_iff.mp here
        rw [cut?_eq_some later]
        exact start.trans (dropLast_isPrefix_behind c front pattern back)

theorem cut?_of_not_early {pattern before : List Char} (nonempty : pattern ≠ []) (after : List Char)
    (first : ¬ pattern <:+: before ++ pattern.dropLast) :
    cut? pattern (before ++ pattern ++ after) = some (before, after) := by
  induction before with
  | nil =>
    have start := isPrefixOf?_append pattern after
    cases pattern with
    | nil => contradiction
    | cons p pattern =>
      rw [List.cons_append] at start
      simp [cut?, start]
  | cons c before ih =>
    rw [List.cons_append, List.infix_cons_iff, not_or] at first
    apply cut?_cons_of_not_prefix _ (ih first.2)
    intro start
    apply first.1
    apply List.prefix_of_prefix_length_le start (dropLast_isPrefix_behind c before pattern after)
    have positive := List.length_pos_iff.mpr nonempty
    simp only [List.length_cons, List.length_append, List.length_dropLast]
    omega

/-- The cut is made at the first occurrence: the pattern does not even occur in what stands before
    its own last character. -/
theorem cut?_eq_some_iff {pattern text before after : List Char} (nonempty : pattern ≠ []) :
    cut? pattern text = some (before, after) ↔
      text = before ++ pattern ++ after ∧ ¬ pattern <:+: before ++ pattern.dropLast := by
  constructor
  · exact fun found => ⟨cut?_eq_some found, not_early_of_cut? nonempty found⟩
  · rintro ⟨rfl, first⟩
    exact cut?_of_not_early nonempty after first

theorem length_le_of_cut? {pattern text before after before' after' : List Char}
    (found : cut? pattern text = some (before, after)) (here : text = before' ++ pattern ++ after') :
    before.length ≤ before'.length := by
  induction text generalizing before before' with
  | nil =>
    have parts := cut?_length found
    simp only [List.length_nil] at parts
    omega
  | cons c rest ih =>
    rw [cut?] at found
    split at found
    · cases found
      exact Nat.zero_le _
    · rename_i elsewhere
      obtain ⟨⟨front, back⟩, later, same⟩ := Option.map_eq_some_iff.mp found
      cases same
      cases before' with
      | nil =>
        exact absurd ⟨after', here.symm⟩ (isPrefixOf?_eq_none_iff.mp elsewhere)
      | cons d before' =>
        obtain ⟨-, behind⟩ := List.cons_eq_cons.mp here
        exact Nat.succ_le_succ (ih later behind)

theorem cut?_eq_some_iff_least {pattern text before after : List Char} :
    cut? pattern text = some (before, after) ↔
      text = before ++ pattern ++ after ∧
        ∀ before' after', text = before' ++ pattern ++ after' → before.length ≤ before'.length := by
  constructor
  · exact fun found => ⟨cut?_eq_some found, fun _ _ here => length_le_of_cut? found here⟩
  · rintro ⟨source, least⟩
    cases found : cut? pattern text with
    | none => exact absurd ⟨before, after, source.symm⟩ (cut?_eq_none_iff.mp found)
    | some parts =>
      obtain ⟨front, back⟩ := parts
      have parts := cut?_eq_some found
      have sizes := Nat.le_antisymm (length_le_of_cut? found source) (least front back parts)
      rw [source, List.append_assoc, List.append_assoc] at parts
      obtain ⟨rfl, behind⟩ := List.append_inj parts sizes.symm
      rw [List.append_cancel_left behind]

end TopicWiki.Text
