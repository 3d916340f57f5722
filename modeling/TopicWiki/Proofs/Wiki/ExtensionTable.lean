import Mathlib.Data.List.Induction
import Mathlib.Data.List.Nodup
import TopicWiki.Wiki.Assembly

namespace TopicWiki.RendererParts

/-- A table of extensions: each name once, in the order in which the names come up first, with the
    last extension of that name. -/
structure Tabulates (extensions table : List Extension) : Prop where
  distinct : (table.map Extension.name).Nodup
  complete : ∀ x ∈ extensions, x.name ∈ table.map Extension.name
  latest : ∀ x ∈ table, ∃ before after, extensions = before ++ x :: after ∧
    ∀ later ∈ after, later.name ≠ x.name
  in_order : (table.map Extension.name).Pairwise fun name name' =>
    (extensions.map Extension.name).idxOf name < (extensions.map Extension.name).idxOf name'

section

variable {extensions table : List Extension} {last x : Extension}

theorem mem_addExtension_iff :
    x ∈ addExtension table last ↔ x = last ∨ x ∈ table ∧ x.name ≠ last.name := by
  unfold addExtension
  split <;> rename_i known
  · simp only [List.any_eq_true, decide_eq_true_eq] at known
    obtain ⟨old, member, named⟩ := known
    rw [List.mem_map]
    constructor
    · rintro ⟨e, member', rfl⟩
      by_cases same : e.name = last.name
      · exact .inl (if_pos same)
      · rw [if_neg same]
        exact .inr ⟨member', same⟩
    · rintro (rfl | ⟨member', other⟩)
      · exact ⟨old, member, if_pos named⟩
      · exact ⟨x, member', if_neg other⟩
  · simp only [List.any_eq_true, decide_eq_true_eq, not_exists, not_and] at known
    rw [List.mem_append, List.mem_singleton, or_comm]
    exact or_congr_right (iff_self_and.mpr (known x))

theorem names_addExtension : (addExtension table last).map Extension.name =
    if last.name ∈ table.map Extension.name then table.map Extension.name
    else table.map Extension.name ++ [last.name] := by
  have found : (table.any fun e => e.name = last.name) = true ↔
      last.name ∈ table.map Extension.name := by
    simp [List.mem_map]
  unfold addExtension
  simp only [found]
  split
  · rw [List.map_map]
    refine List.map_congr_left fun e _ => ?_
    by_cases same : e.name = last.name <;> simp [same]
  · rw [List.map_append, List.map_singleton]

namespace Tabulates

theorem mem_names_iff (tabulates : Tabulates extensions table) {name : String} :
    name ∈ table.map Extension.name ↔ name ∈ extensions.map Extension.name := by
  simp only [List.mem_map]
  constructor
  · rintro ⟨x, member, rfl⟩
    obtain ⟨before, after, rfl, -⟩ := tabulates.latest x member
    exact ⟨x, by simp, rfl⟩
  · rintro ⟨x, member, rfl⟩
    exact List.mem_map.mp (tabulates.complete x member)

theorem snoc (tabulates : Tabulates extensions table) :
    Tabulates (extensions ++ [last]) (addExtension table last) where
  distinct := by
    rw [names_addExtension]
    split <;> rename_i known
    · exact tabulates.distinct
    · rw [← List.concat_eq_append]
      exact List.Nodup.concat known tabulates.distinct
  complete x member := by
    rw [names_addExtension]
    rcases List.mem_append.mp member with member | member
    · split
      · exact tabulates.complete x member
      · exact List.mem_append_left _ (tabulates.complete x member)
    · obtain rfl := List.mem_singleton.mp member
      split <;> rename_i known
      · exact known
      · exact List.mem_append_right _ List.mem_cons_self
  latest x member := by
    rcases mem_addExtension_iff.mp member with rfl | ⟨member, other⟩
    · exact ⟨extensions, [], rfl, by simp⟩
    · obtain ⟨before, after, rfl, different⟩ := tabulates.latest x member
      refine ⟨before, after ++ [last], by simp, ?_⟩
      rw [List.forall_mem_append, List.forall_mem_singleton]
      exact ⟨different, Ne.symm other⟩
  in_order := by
    -- The last extension moves no name that has come up before it.
    have kept := tabulates.in_order.imp_of_mem (S := fun name name' =>
      ((extensions ++ [last]).map Extension.name).idxOf name <
        ((extensions ++ [last]).map Extension.name).idxOf name') fun known known' before => by
      rw [tabulates.mem_names_iff] at known known'
      rwa [List.map_append, List.idxOf_append_of_mem known, List.idxOf_append_of_mem known']
    rw [names_addExtension]
    split <;> rename_i new
    · exact kept
    · refine List.pairwise_append.mpr ⟨kept, List.pairwise_singleton _ _, ?_⟩
      intro name known name' atEnd
      obtain rfl := List.mem_singleton.mp atEnd
      rw [tabulates.mem_names_iff] at known new
      rw [List.map_append, List.idxOf_append_of_mem known, List.idxOf_append_of_notMem new]
      exact Nat.lt_add_right _ (List.idxOf_lt_length_of_mem known)

end Tabulates

theorem foldl_addExtension_tabulates (extensions : List Extension) :
    Tabulates extensions (extensions.foldl addExtension []) := by
  induction extensions using List.reverseRecOn with
  | nil => exact ⟨List.nodup_nil, nofun, nofun, List.Pairwise.nil⟩
  | append_singleton extensions last ih =>
    rw [List.foldl_append]
    exact ih.snoc

theorem mem_of_mem_table (member : x ∈ extensions.foldl addExtension []) : x ∈ extensions := by
  obtain ⟨before, after, rfl, -⟩ := (foldl_addExtension_tabulates extensions).latest x member
  exact List.mem_append_right before List.mem_cons_self

end

end TopicWiki.RendererParts
