import TopicWiki.Name
import TopicWiki.Proofs.Text.FirstOccurrence

namespace TopicWiki.Name

open Text

theorem separator_toList : separator.toList = [':', ':'] := by decide

/-- A colon at the end of the category would join the separator. -/
theorem separator_not_early_iff {category : List Char} :
    ¬ [':', ':'] <:+: category ++ [':'] ↔
      contains [':', ':'] category = false ∧ category.getLast? ≠ some ':' := by
  rw [List.infix_concat_iff, not_or, contains_eq_false_iff, and_comm, ne_eq,
    ← List.singleton_suffix_iff_getLast?_eq_some]
  apply and_congr_right
  intro
  apply not_congr
  rw [List.suffix_concat_iff]
  constructor
  · rintro (empty | ⟨front, same, suffix⟩)
    · cases empty
    · have single : front = [':'] := by
        have whole : [':'] ++ [':'] = front ++ [':'] := same
        exact (List.append_left_inj [':']).mp whole |>.symm
      exact single ▸ suffix
  · intro suffix
    exact Or.inr ⟨[':'], rfl, suffix⟩

theorem split?_eq_some_iff {name category topic : String} :
    split? name = some (category, topic) ↔
      name = category ++ separator ++ topic ∧
        contains separator.toList category.toList = false ∧
          category.toList.getLast? ≠ some ':' := by
  have cut := @cut?_eq_some_iff [':', ':'] name.toList category.toList topic.toList (by simp)
  rw [show [':', ':'].dropLast = [':'] from rfl, separator_not_early_iff] at cut
  have joined : name = category ++ separator ++ topic ↔
      name.toList = category.toList ++ [':', ':'] ++ topic.toList := by
    rw [← String.toList_inj, String.toList_append, String.toList_append, separator_toList]
  rw [joined, separator_toList, ← cut, split?, separator_toList]
  constructor
  · intro found
    obtain ⟨parts, here, same⟩ := Option.map_eq_some_iff.mp found
    simp only [Prod.mk.injEq] at same
    rw [here, ← same.1, ← same.2]
    simp
  · intro found
    rw [found]
    simp

theorem make_eq_ok_iff {category topic name : String} :
    make category topic = .ok name ↔
      split? name = some (category, topic) ∧
        category.isAllBlank = false ∧ topic.isAllBlank = false := by
  rw [split?_eq_some_iff, make]
  cases topic.isAllBlank <;> cases category.isAllBlank
  all_goals simp only [Bool.false_eq_true, reduceIte, and_true, and_false, reduceCtorEq]
  cases contains separator.toList category.toList
  · by_cases colon : category.toList.getLast? = some ':'
    · simp [colon]
    · simp [colon, eq_comm]
  · simp

/-- Compound names stand for the valid pairs of idents, each pair for one name and each name for one
    pair: splitting takes back what was joined, and joins of what was split give the name again. -/
theorem make_and_split?_inverse (category topic name : String) :
    (make category topic = .ok name → split? name = some (category, topic)) ∧
      (∀ category' topic', make category topic = .ok name → make category' topic' = .ok name →
        category = category' ∧ topic = topic') ∧
      (split? name = some (category, topic) → category.isAllBlank = false →
        topic.isAllBlank = false → make category topic = .ok name) := by
  refine ⟨fun made => (make_eq_ok_iff.mp made).1, ?_, fun found solid solid' =>
    make_eq_ok_iff.mpr ⟨found, solid, solid'⟩⟩
  intro category' topic' made made'
  have first := (make_eq_ok_iff.mp made).1
  have second := (make_eq_ok_iff.mp made').1
  rw [first] at second
  simpa using second

theorem make_and_split?_inverse_at_colons :
    (make "a" ":b" = .ok "a:::b" ∧ split? "a:::b" = some ("a", ":b") ∧
      "a".isAllBlank = false ∧ ":b".isAllBlank = false) ∧
      make "a" ":b" = .ok "a:::b" ∧ split? "a:::b" = some ("a", ":b") ∧ "a" = "a" ∧ ":b" = ":b" := by
  have inverse := make_and_split?_inverse "a" ":b" "a:::b"
  have made : make "a" ":b" = .ok "a:::b" := rfl
  have found : split? "a:::b" = some ("a", ":b") := by decide
  exact ⟨⟨made, found, by decide, by decide⟩, inverse.2.2 found (by decide) (by decide),
    inverse.1 made, inverse.2.1 "a" ":b" made made⟩

end TopicWiki.Name
