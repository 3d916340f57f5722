import TopicWiki.Text.Entity

namespace TopicWiki.Text

def entitySigns : List Char :=
  ['&', 'a', 'g', 'l', 'm', 'o', 'p', 'q', 't', 'u', ';']

def attributeSpecials : List Char :=
  ['"', '&', '<', '>']

theorem attributeEntity?_signs {c : Char} {entity : String}
    (found : attributeEntity? c = some entity) : ∀ d ∈ entity.toList, d ∈ entitySigns := by
  suffices known : entity.toList.all entitySigns.contains = true by
    intro d inside
    exact List.contains_iff_mem.mp (List.all_eq_true.mp known d inside)
  unfold attributeEntity? textEntity? at found
  split at found
  · cases found
    rfl
  · split at found <;> cases found <;> rfl

theorem attributeEntity?_head {c : Char} {entity : String}
    (found : attributeEntity? c = some entity) : entity.toList.head? = some '&' := by
  unfold attributeEntity? textEntity? at found
  split at found
  · cases found
    rfl
  · split at found <;> cases found <;> rfl

theorem not_special_of_unwritten {c : Char} (plain : attributeEntity? c = none) :
    c ∉ attributeSpecials := by
  intro special
  simp only [attributeSpecials, List.mem_cons, List.not_mem_nil, or_false] at special
  rcases special with rfl | rfl | rfl | rfl <;> cases plain

theorem mem_escapeAttribute {c : Char} {text : List Char} (member : c ∈ escapeAttribute text) :
    c ∈ entitySigns ∨ c ∈ text ∧ c ∉ attributeSpecials := by
  obtain ⟨d, inside, here⟩ := List.mem_flatMap.mp member
  cases written : attributeEntity? d with
  | some entity =>
    rw [written] at here
    exact .inl (attributeEntity?_signs written c here)
  | none =>
    rw [written] at here
    rw [List.mem_singleton.mp here]
    exact .inr ⟨inside, not_special_of_unwritten written⟩

theorem not_mem_escapeAttribute {c : Char} (special : c ∈ attributeSpecials)
    (other : c ∉ entitySigns) (text : List Char) : c ∉ escapeAttribute text := by
  intro member
  rcases mem_escapeAttribute member with sign | ⟨-, plain⟩
  · exact other sign
  · exact plain special

theorem mem_of_mem_escapeAttribute {c : Char} {text : List Char}
    (member : c ∈ escapeAttribute text) (other : c ∉ entitySigns) : c ∈ text := by
  rcases mem_escapeAttribute member with sign | ⟨inside, -⟩
  · exact absurd sign other
  · exact inside

theorem attributeEntity?_of_textEntity? {c : Char} {entity : String}
    (found : textEntity? c = some entity) : attributeEntity? c = some entity := by
  unfold attributeEntity?
  split
  · cases found
  · exact found

theorem mem_of_mem_escapeText {c : Char} {text : List Char} (member : c ∈ escapeText text)
    (other : c ∉ entitySigns) : c ∈ text := by
  obtain ⟨d, inside, here⟩ := List.mem_flatMap.mp member
  cases written : textEntity? d with
  | some entity =>
    have inAttribute := attributeEntity?_of_textEntity? written
    rw [written] at here
    exact absurd (attributeEntity?_signs inAttribute c here) other
  | none =>
    rw [written] at here
    rwa [List.mem_singleton.mp here]

theorem not_mem_escapeText {c : Char} (special : c = '<' ∨ c = '>') (text : List Char) :
    c ∉ escapeText text := by
  intro member
  obtain ⟨d, -, here⟩ := List.mem_flatMap.mp member
  cases written : textEntity? d with
  | some entity =>
    have inAttribute := attributeEntity?_of_textEntity? written
    rw [written] at here
    have sign := attributeEntity?_signs inAttribute c here
    rcases special with rfl | rfl <;> exact absurd sign (by decide)
  | none =>
    rw [written] at here
    obtain rfl := List.mem_singleton.mp here
    rcases special with rfl | rfl <;> cases written

end TopicWiki.Text
