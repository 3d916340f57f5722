import Mathlib.Data.List.Induction
import Mathlib.Data.List.Nodup
import TopicWiki.Element

namespace TopicWiki.Element

inductive Change where
  | set (name value : String)
  | remove (name : String)
  deriving DecidableEq, Repr

def Change.name : Change → String
  | .set name _ => name
  | .remove name => name

def change (e : Element) : Change → Element
  | .set name value => e.setAttr name value
  | .remove name => e.removeAttr name

def changeAll (e : Element) (changes : List Change) : Element :=
  changes.foldl change e

def names (e : Element) : List String :=
  e.attributes.map Prod.fst

def LastSet (changes : List Change) (name value : String) : Prop :=
  ∃ before after, changes = before ++ .set name value :: after ∧
    ∀ change ∈ after, change.name ≠ name

def Unset (changes : List Change) (name : String) : Prop :=
  ∀ before value after, changes = before ++ .set name value :: after → .remove name ∈ after

def InsertedAt (changes : List Change) (name : String) (place : Nat) : Prop :=
  ∃ before value after, changes = before ++ .set name value :: after ∧ before.length = place ∧
    Unset before name ∧ .remove name ∉ after

section

variable {changes : List Change} {last : Change} {name value : String} {place : Nat}

theorem snoc_eq_iff {front before after : List Change} {here : Change} :
    front ++ [last] = before ++ here :: after ↔
      front = before ∧ last = here ∧ after = [] ∨
        ∃ after', after = after' ++ [last] ∧ front = before ++ here :: after' := by
  constructor
  · intro split
    rcases List.eq_nil_or_concat after with rfl | ⟨after', last', rfl⟩
    · obtain ⟨same, atEnd⟩ := List.append_singleton_inj.mp split
      exact .inl ⟨same, atEnd, rfl⟩
    · rw [List.concat_eq_append, ← List.cons_append, ← List.append_assoc] at split
      obtain ⟨same, rfl⟩ := List.append_singleton_inj.mp split
      exact .inr ⟨after', List.concat_eq_append, same⟩
  · rintro (⟨rfl, rfl, rfl⟩ | ⟨after', rfl, rfl⟩)
    · rfl
    · simp

theorem lastSet_snoc : LastSet (changes ++ [last]) name value ↔
    last = .set name value ∨ last.name ≠ name ∧ LastSet changes name value := by
  constructor
  · rintro ⟨before, after, split, others⟩
    rcases snoc_eq_iff.mp split with ⟨-, here, -⟩ | ⟨after', rfl, inside⟩
    · exact .inl here
    · rw [List.forall_mem_append, List.forall_mem_singleton] at others
      exact .inr ⟨others.2, before, after', inside, others.1⟩
  · rintro (rfl | ⟨other, before, after, rfl, others⟩)
    · exact ⟨changes, [], rfl, by simp⟩
    · refine ⟨before, after ++ [last], by simp, ?_⟩
      rw [List.forall_mem_append, List.forall_mem_singleton]
      exact ⟨others, other⟩

theorem unset_snoc : Unset (changes ++ [last]) name ↔
    last = .remove name ∨ (∀ value, last ≠ .set name value) ∧ Unset changes name := by
  constructor
  · intro unset
    by_cases removed : last = .remove name
    · exact .inl removed
    · refine .inr ⟨?_, ?_⟩
      · rintro value rfl
        exact absurd (unset changes value [] rfl) (List.not_mem_nil)
      · rintro before value after rfl
        have later := unset before value (after ++ [last]) (by simp)
        rcases List.mem_append.mp later with inside | atEnd
        · exact inside
        · exact absurd (List.mem_singleton.mp atEnd).symm removed
  · rintro (rfl | ⟨notSet, unset⟩) before value after split
    · rcases snoc_eq_iff.mp split with ⟨-, here, -⟩ | ⟨after', rfl, -⟩
      · cases here
      · simp
    · rcases snoc_eq_iff.mp split with ⟨-, here, -⟩ | ⟨after', rfl, inside⟩
      · exact absurd here (notSet value)
      · exact List.mem_append_left _ (unset before value after' inside)

theorem insertedAt_snoc : InsertedAt (changes ++ [last]) name place ↔
    (∃ value, last = .set name value) ∧ Unset changes name ∧ place = changes.length ∨
      last ≠ .remove name ∧ InsertedAt changes name place := by
  constructor
  · rintro ⟨before, value, after, split, rfl, unset, kept⟩
    rcases snoc_eq_iff.mp split with ⟨rfl, here, -⟩ | ⟨after', rfl, inside⟩
    · exact .inl ⟨⟨value, here⟩, unset, rfl⟩
    · rw [List.mem_append, List.mem_singleton, not_or] at kept
      exact .inr ⟨Ne.symm kept.2, before, value, after', inside, rfl, unset, kept.1⟩
  · rintro (⟨⟨value, rfl⟩, unset, rfl⟩ | ⟨other, before, value, after, rfl, rfl, unset, kept⟩)
    · exact ⟨changes, value, [], rfl, rfl, unset, List.not_mem_nil⟩
    · refine ⟨before, value, after ++ [last], by simp, rfl, unset, ?_⟩
      rw [List.mem_append, List.mem_singleton, not_or]
      exact ⟨kept, Ne.symm other⟩

theorem InsertedAt.lt_length (inserted : InsertedAt changes name place) :
    place < changes.length := by
  obtain ⟨before, value, after, rfl, rfl, -, -⟩ := inserted
  simp

theorem unset_iff : Unset changes name ↔ ∀ value, ¬ LastSet changes name value := by
  induction changes using List.reverseRecOn with
  | nil => simp [Unset, LastSet]
  | append_singleton changes last ih =>
    simp only [unset_snoc, lastSet_snoc, ih, not_or, not_and]
    cases last with
    | set name' value' =>
      by_cases same : name' = name <;> simp [Change.name, same]
    | remove name' =>
      by_cases same : name' = name <;> simp [Change.name, same]

end

section

variable {e : Element} {name name' value value' : String}

theorem attr?_setAttr :
    (e.setAttr name value).attr? name' = if name = name' then some value else e.attr? name' := by
  obtain ⟨tag, attributes, inner⟩ := e
  simp only [attr?, setAttr]
  induction attributes with
  | nil => by_cases same : name = name' <;> simp [putAttribute, same]
  | cons entry rest ih =>
    obtain ⟨key, old⟩ := entry
    by_cases here : key = name
    · subst here
      by_cases same : key = name' <;> simp [putAttribute, same]
    · by_cases same : key = name'
      · subst same
        simp [putAttribute, here, Ne.symm here]
      · simpa [putAttribute, here, same] using ih

theorem attr?_removeAttr :
    (e.removeAttr name).attr? name' = if name = name' then none else e.attr? name' := by
  obtain ⟨tag, attributes, inner⟩ := e
  simp only [attr?, removeAttr]
  induction attributes with
  | nil => simp
  | cons entry rest ih =>
    obtain ⟨key, old⟩ := entry
    by_cases removed : key = name
    · subst removed
      by_cases same : key = name'
      · simp [same]
      · simpa [same] using ih
    · by_cases same : key = name'
      · subst same
        simp [removed, Ne.symm removed]
      · simpa [removed, same] using ih

theorem mem_names_iff : name ∈ e.names ↔ ∃ value, e.attr? name = some value := by
  rw [← Option.isSome_iff_exists]
  simp [names, attr?]

theorem names_putAttribute (attributes : List (String × String)) :
    (putAttribute name value attributes).map Prod.fst =
      if name ∈ attributes.map Prod.fst then attributes.map Prod.fst
      else attributes.map Prod.fst ++ [name] := by
  induction attributes with
  | nil => rfl
  | cons entry rest ih =>
    obtain ⟨key, old⟩ := entry
    by_cases here : key = name
    · simp [putAttribute, here]
    · by_cases known : name ∈ rest.map Prod.fst
      · rw [if_pos known] at ih
        simp [putAttribute, here, ih, known]
      · have unknown := List.not_mem_cons_of_ne_of_not_mem (Ne.symm here) known
        rw [if_neg known] at ih
        rw [List.map_cons, if_neg unknown]
        simp [putAttribute, here, ih]

theorem names_setAttr : (e.setAttr name value).names =
    if name ∈ e.names then e.names else e.names ++ [name] :=
  names_putAttribute e.attributes

theorem names_removeAttr : (e.removeAttr name).names = e.names.filter (· ≠ name) := by
  simp [names, removeAttr, List.filter_map, Function.comp_def]

end

/-- The attributes that a row of changes leaves: each name once, with the value that was set last,
    in the order in which the names came in. -/
structure Follows (changes : List Change) (e : Element) : Prop where
  distinct : e.names.Nodup
  value_iff (name value : String) : e.attr? name = some value ↔ LastSet changes name value
  in_order : e.names.Pairwise fun earlier later => ∀ place place',
    InsertedAt changes earlier place → InsertedAt changes later place' → place < place'

section

variable {changes : List Change} {e : Element} {name name' value : String} {place : Nat}

theorem insertedAt_set_iff : InsertedAt (changes ++ [.set name value]) name' place ↔
    name = name' ∧ Unset changes name' ∧ place = changes.length ∨
      InsertedAt changes name' place := by
  rw [insertedAt_snoc]
  simp

theorem insertedAt_remove_iff : InsertedAt (changes ++ [.remove name]) name' place ↔
    name ≠ name' ∧ InsertedAt changes name' place := by
  rw [insertedAt_snoc]
  simp

theorem exists_insertedAt_iff :
    (∃ place, InsertedAt changes name place) ↔ ¬ Unset changes name := by
  induction changes using List.reverseRecOn with
  | nil => simp [InsertedAt, Unset]
  | append_singleton changes last ih =>
    simp only [insertedAt_snoc, unset_snoc, exists_or, exists_and_left, exists_eq, and_true, ih]
    by_cases unset : Unset changes name
    · cases last <;> simp [unset]
    · cases last <;> simp [unset]

namespace Follows

theorem mem_names_iff (follows : Follows changes e) : name ∈ e.names ↔ ¬ Unset changes name := by
  simp only [Element.mem_names_iff, follows.value_iff, unset_iff, not_forall, not_not]

theorem set (follows : Follows changes e) :
    Follows (changes ++ [.set name value]) (e.setAttr name value) where
  distinct := by
    rw [names_setAttr]
    split <;> rename_i known
    · exact follows.distinct
    · rw [← List.concat_eq_append]
      exact List.Nodup.concat known follows.distinct
  value_iff name' value' := by
    rw [attr?_setAttr, lastSet_snoc]
    split <;> rename_i same
    · simp [same, Change.name]
    · simp [same, Change.name, follows.value_iff]
  in_order := by
    -- The set inserts no name that the element has, so those keep their places.
    have old {name' : String} {place : Nat} (known : name' ∈ e.names)
        (inserted : InsertedAt (changes ++ [.set name value]) name' place) :
        InsertedAt changes name' place := by
      rcases insertedAt_set_iff.mp inserted with ⟨rfl, unset, -⟩ | before
      · exact absurd unset (follows.mem_names_iff.mp known)
      · exact before
    have kept := follows.in_order.imp_of_mem fun known known' ordered place place' inserted
      inserted' => ordered place place' (old known inserted) (old known' inserted')
    rw [names_setAttr]
    split <;> rename_i new
    · exact kept
    · refine List.pairwise_append.mpr ⟨kept, List.pairwise_singleton _ _, ?_⟩
      intro earlier known later atEnd place place' inserted inserted'
      obtain rfl := List.mem_singleton.mp atEnd
      rcases insertedAt_set_iff.mp inserted' with ⟨-, -, rfl⟩ | before
      · exact (old known inserted).lt_length
      · have known' := exists_insertedAt_iff.mp ⟨place', before⟩
        exact absurd (follows.mem_names_iff.mpr known') new

theorem remove (follows : Follows changes e) :
    Follows (changes ++ [.remove name]) (e.removeAttr name) where
  distinct := by
    rw [names_removeAttr]
    exact follows.distinct.filter _
  value_iff name' value' := by
    rw [attr?_removeAttr, lastSet_snoc]
    split <;> rename_i same
    · simp [same, Change.name]
    · simp [same, Change.name, follows.value_iff]
  in_order := by
    rw [names_removeAttr]
    refine (follows.in_order.filter _).imp fun before place place' inserted inserted' => ?_
    exact before place place' (insertedAt_remove_iff.mp inserted).2
      (insertedAt_remove_iff.mp inserted').2

end Follows

theorem changeAll_follows (tag : String) (inner : Option String) (changes : List Change) :
    Follows changes (({ tag, inner } : Element).changeAll changes) := by
  induction changes using List.reverseRecOn with
  | nil =>
    refine ⟨List.nodup_nil, fun name value => ?_, List.Pairwise.nil⟩
    exact iff_of_false nofun (by simp [LastSet])
  | append_singleton changes last ih =>
    rw [changeAll, List.foldl_append]
    cases last with
    | set name value => exact ih.set
    | remove name => exact ih.remove

end

end TopicWiki.Element
