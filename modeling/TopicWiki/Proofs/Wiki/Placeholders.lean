import Mathlib.Data.List.Induction
import TopicWiki.Proofs.Text.Filling
import TopicWiki.Wiki.Controller

namespace TopicWiki

open Text

/-- When the names in front of a name are filled, its placeholder stands in the text as often as
    before, or it is filled with itself. -/
def Unmixed (text : List Char) (values : List (String × String)) : Prop :=
  ∀ place : Fin values.length,
    values[place].2.toList = marker values[place].1.toList ∨
      occurrences (marker values[place].1.toList) (fillOnce (values.take place) text) =
        occurrences (marker values[place].1.toList) text

instance (text : List Char) (values : List (String × String)) : Decidable (Unmixed text values) :=
  Nat.decidableForallFin _

/-- A text in which braces stand around words only. -/
inductive Marked : List Char → Prop
  | nil : Marked []
  | char {c : Char} {rest : List Char} (noBrace : Braceless [c]) (behind : Marked rest) :
      Marked (c :: rest)
  | marker {word rest : List Char} (braceless : Braceless word) (behind : Marked rest) :
      Marked (marker word ++ rest)

theorem take_next {values : List (String × String)} (place : Fin values.length) :
    values.take (place + 1) = values.take place ++ [(values[place].1, values[place].2)] :=
  List.take_succ_eq_append_getElem place.isLt

theorem Text.Fillable.take_succ {values : List (String × String)} (fillable : Fillable values)
    (place : Fin values.length) :
    Fillable (values.take place ++ [(values[place].1, values[place].2)]) := by
  rw [← List.take_append_drop (place + 1) values, take_next] at fillable
  exact fillable.of_append

section

variable {values values' : List (String × String)} {text : List Char}

theorem occurrences_fillOnce_of_marked {name : String} (fillable : Fillable values)
    (braceless : Braceless name.toList) (new : name ∉ values.map Prod.fst)
    (plain : ∀ entry ∈ values, Braceless entry.2.toList) (marked : Marked text) :
    occurrences (marker name.toList) (fillOnce values text) =
      occurrences (marker name.toList) text := by
  induction marked with
  | nil => rw [fillOnce_nil]
  | @char c rest noBrace _ ih =>
    have single : '\x7b' ∉ [c] := noBrace.1
    change occurrences _ (fillOnce values ([c] ++ rest)) = occurrences _ ([c] ++ rest)
    rw [fillOnce_append_of_plain single, occurrences_append_of_plain single,
      occurrences_append_of_plain single, ih]
  | @marker word rest bracelessWord _ ih =>
    rw [occurrences_marker_append braceless bracelessWord]
    by_cases known : ∃ entry ∈ values, entry.1.toList = word
    · obtain ⟨⟨name', value⟩, member, rfl⟩ := known
      have other : ¬ name.toList = name'.toList := by
        intro same
        rw [String.toList_inj.mp same] at new
        exact new (List.mem_map_of_mem member)
      rw [fillOnce_marker fillable member, occurrences_append_of_plain (plain _ member).1, ih,
        if_neg other, Nat.add_zero]
    · have unknown : ∀ entry ∈ values, entry.1.toList ≠ word :=
        fun entry member same => known ⟨entry, member, same⟩
      rw [fillOnce_marker_of_unknown fillable bracelessWord unknown,
        occurrences_marker_append braceless bracelessWord, ih]

theorem unmixed_of_marked (fillable : Fillable values) (marked : Marked text)
    (plain : ∀ entry ∈ values, Braceless entry.2.toList) : Unmixed text values := by
  intro place
  have both := fillable.take_succ place
  have distinct := both.distinct
  rw [List.map_append, List.nodup_append] at distinct
  refine .inr (occurrences_fillOnce_of_marked both.of_append
    (both.braceless _ List.mem_concat_self) ?_ ?_ marked)
  · exact fun member => distinct.2.2 _ member _ (by simp) rfl
  · exact fun entry member => plain entry (List.mem_of_mem_take member)

end

theorem fillPlaceholders_concat (text : String) (first : List (String × String)) {name : String}
    (braceless : Braceless name.toList) (value : String) :
    (fillPlaceholders text (first ++ [(name, value)])).toList =
      fillOnce [(name, value)] (fillPlaceholders text first).toList := by
  have pattern : ("\x7b" ++ name ++ "\x7d").toList = marker name.toList := by
    simp [marker]
  unfold fillPlaceholders
  rw [List.foldl_concat, String.replaceEach, pattern, String.toList_ofList,
    replaceAll_marker braceless]

theorem fillPlaceholders_iff {values : List (String × String)} (fillable : Fillable values)
    (text : String) :
    (∀ first, first <+: values →
      (fillPlaceholders text first).toList = fillOnce first text.toList) ↔
        Unmixed text.toList values := by
  constructor
  · intro same place
    have both := fillable.take_succ place
    have step := same (values.take (place + 1)) (List.take_prefix _ _)
    have start := same (values.take place) (List.take_prefix _ _)
    rw [take_next, fillPlaceholders_concat _ _ (both.braceless _ List.mem_concat_self),
      start] at step
    exact (fillOnce_step_iff both text.toList).mp step
  · intro unmixed first
    induction first using List.reverseRecOn with
    | nil =>
      intro _
      exact (fillOnce_none text.toList).symm
    | append_singleton first entry ih =>
      rintro ⟨rest, rfl⟩
      obtain ⟨name, value⟩ := entry
      have both := fillable.of_append
      rw [fillPlaceholders_concat text first (both.braceless (name, value) List.mem_concat_self),
        ih ((List.prefix_append _ _).trans (List.prefix_append _ _)), fillOnce_step_iff both]
      simpa using unmixed ⟨first.length, by simp⟩

/-- A way to fill the placeholders of a text that writes all of them at once: what is written is not
    read again, and the order of the names does not matter. -/
structure FillsAtOnce (text : String) (values : List (String × String))
    (fill : List (String × String) → String) : Prop where
  at_once_iff :
    (∀ first, first <+: values → fill first = String.ofList (fillOnce first text.toList)) ↔
      Unmixed text.toList values
  in_any_order : ∀ values', values'.Perm values → Unmixed text.toList values' →
    fill values' = String.ofList (fillOnce values text.toList)
  of_braceless : Marked text.toList → (∀ entry ∈ values, Braceless entry.2.toList) →
    ∀ values', values'.Perm values → Unmixed text.toList values'

theorem fillsAtOnce {values : List (String × String)} (fillable : Fillable values) (text : String) :
    FillsAtOnce text values (fillPlaceholders text) where
  at_once_iff := by
    rw [← fillPlaceholders_iff fillable]
    refine forall₂_congr fun first _ => ?_
    rw [← String.toList_inj, String.toList_ofList]
  in_any_order values' reordered unmixed := by
    have same := (fillPlaceholders_iff (fillable.perm reordered) text).mpr unmixed values'
      List.prefix_rfl
    rw [← fillOnce_perm fillable reordered, ← same, String.ofList_toList]
  of_braceless marked plain values' reordered :=
    unmixed_of_marked (fillable.perm reordered) marked
      fun entry member => plain entry (reordered.mem_iff.mp member)

/-- Localized texts and addresses get their placeholders filled at once as long as no name is found
    where the text itself does not have it, whatever the values. -/
theorem Controller.fills_at_once (c : Controller) :
    (∀ key (values : Dictionary String), Fillable values.entries →
      FillsAtOnce (c.text key) values.entries fun entries => c.format key ⟨entries⟩) ∧
    ∀ route pattern parameters, c.routes.find? route = some pattern → Fillable parameters →
      FillsAtOnce pattern parameters (c.uri route) := by
  refine ⟨fun key values fillable => fillsAtOnce fillable _, ?_⟩
  intro route pattern parameters known fillable
  have filled : c.uri route = fillPlaceholders pattern := by
    funext parameters
    rw [Controller.uri, known]
  rw [filled]
  exact fillsAtOnce fillable pattern

def greeter : Controller :=
  { texts := .ofList [("greet", "\x7btitle\x7d \x7bname\x7d \x7bsuffix\x7d")] }

theorem Controller.fills_at_once_in_greeting :
    Fillable [("name", "\x7btitle"), ("title", "Dr\x7d")] ∧
      Unmixed (greeter.text "greet").toList [("name", "\x7btitle"), ("title", "Dr\x7d")] ∧
      greeter.format "greet" ⟨[("name", "\x7btitle"), ("title", "Dr\x7d")]⟩ =
        "Dr\x7d \x7btitle \x7bsuffix\x7d" ∧
      greeter.routes.find? "wiki_get_topic" = some "/wiki/\x7bcategory\x7d/\x7btopic\x7d" ∧
      greeter.uri "wiki_get_topic" [("topic", "\x7b"), ("category", "topic\x7d")] =
        "/wiki/topic\x7d/\x7b" := by
  have names : Fillable [("name", "\x7btitle"), ("title", "Dr\x7d")] := ⟨by decide, by decide⟩
  have unmixed : Unmixed (greeter.text "greet").toList
      [("name", "\x7btitle"), ("title", "Dr\x7d")] := by decide +kernel
  have greeting :=
    ((Controller.fills_at_once greeter).1 "greet" ⟨_⟩ names).in_any_order _ .rfl unmixed
  have known : greeter.routes.find? "wiki_get_topic" =
      some "/wiki/\x7bcategory\x7d/\x7btopic\x7d" := by decide
  have parameters : Fillable [("topic", "\x7b"), ("category", "topic\x7d")] :=
    ⟨by decide, by decide⟩
  have address := ((Controller.fills_at_once greeter).2 "wiki_get_topic" _ _ known
    parameters).in_any_order _ .rfl (by decide +kernel)
  exact ⟨names, unmixed, greeting.trans (by decide +kernel), known,
    address.trans (by decide +kernel)⟩

/-- A value that looks like a placeholder is read again. -/
theorem Controller.format_reads_values_again :
    Fillable [("a", "\x7bb\x7d"), ("b", "x")] ∧
      ({ texts := .ofList [("greet", "Hello, \x7ba\x7d!")] } : Controller).format "greet"
        (.ofList [("a", "\x7bb\x7d"), ("b", "x")]) = "Hello, x!" ∧
      String.ofList (fillOnce [("a", "\x7bb\x7d"), ("b", "x")] "Hello, \x7ba\x7d!".toList) =
        "Hello, \x7bb\x7d!" :=
  ⟨⟨by decide, by decide⟩, by decide +kernel, by decide +kernel⟩

end TopicWiki
