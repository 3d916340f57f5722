import Mathlib.Algebra.BigOperators.Group.List.Basic
import Mathlib.Algebra.Ring.Nat
import Mathlib.Data.List.Nodup
import TopicWiki.Proofs.Text.FirstOccurrence
import TopicWiki.Proofs.Text.Markers
import TopicWiki.Proofs.Text.Replacement

namespace TopicWiki.Text

def leading? (values : List (String × String)) (text : List Char) : Option (String × List Char) :=
  values.findSome? fun entry =>
    ((marker entry.1.toList).isPrefixOf? text).map fun after => (entry.2, after)

theorem exists_of_leading? {values : List (String × String)} {text after : List Char}
    {value : String} (found : leading? values text = some (value, after)) :
    ∃ name, (name, value) ∈ values ∧ text = marker name.toList ++ after := by
  obtain ⟨⟨name, value'⟩, member, here⟩ := List.exists_of_findSome?_eq_some found
  obtain ⟨after', begins, same⟩ := Option.map_eq_some_iff.mp here
  obtain ⟨rfl, rfl⟩ := Prod.mk.inj same
  exact ⟨name, member, isPrefixOf?_eq_some begins⟩

theorem leading?_after_lt {values : List (String × String)} {text after : List Char}
    {value : String} (found : leading? values text = some (value, after)) :
    after.length < text.length := by
  obtain ⟨name, -, rfl⟩ := exists_of_leading? found
  simp [marker]
  omega

/-- The text with every placeholder of the text replaced by its value, in one pass: what is written
    is not read again. -/
def fillOnce (values : List (String × String)) (text : List Char) : List Char :=
  match text with
  | [] => []
  | c :: rest =>
    match _found : leading? values (c :: rest) with
    | some (value, after) => value.toList ++ fillOnce values after
    | none => c :: fillOnce values rest
termination_by text.length
decreasing_by
  · exact leading?_after_lt _found
  · exact Nat.lt_succ_self rest.length

structure Fillable (values : List (String × String)) : Prop where
  distinct : (values.map Prod.fst).Nodup
  braceless : ∀ entry ∈ values, Braceless entry.1.toList

section

variable {values values' first : List (String × String)} {name value : String}
  {word front back rest text : List Char}

theorem leading?_eq_some_iff (fillable : Fillable values) {after : List Char} :
    leading? values text = some (value, after) ↔
      ∃ name, (name, value) ∈ values ∧ text = marker name.toList ++ after := by
  refine ⟨exists_of_leading?, ?_⟩
  rintro ⟨name, member, rfl⟩
  cases found : leading? values (marker name.toList ++ after) with
  | none =>
    have missed := List.findSome?_eq_none_iff.mp found (name, value) member
    simp [isPrefixOf?_append] at missed
  | some parts =>
    obtain ⟨value', after'⟩ := parts
    obtain ⟨name', member', same⟩ := exists_of_leading? found
    have words := eq_of_prefix_marker (fillable.braceless _ member')
      (fillable.braceless _ member) ⟨after', same.symm⟩
    obtain rfl : name' = name := String.toList_inj.mp words
    have values_ : (name', value') = (name', value) :=
      List.inj_on_of_nodup_map fillable.distinct member' member rfl
    rw [List.append_cancel_left same, (Prod.mk.inj values_).2]

theorem leading?_of_head_ne {c : Char} (noBrace : c ≠ '\x7b') :
    leading? values (c :: rest) = none := by
  rw [leading?, List.findSome?_eq_none_iff]
  intro entry _
  rw [isPrefixOf?_eq_none_iff.mpr fun begins => noBrace (marker_prefix_head begins)]
  rfl

theorem fillOnce_nil : fillOnce values [] = [] := by
  rw [fillOnce]

theorem fillOnce_of_leading {after : List Char}
    (found : leading? values text = some (value, after)) :
    fillOnce values text = value.toList ++ fillOnce values after := by
  cases text with
  | nil =>
    have shorter := leading?_after_lt found
    simp at shorter
  | cons c rest =>
    rw [fillOnce]
    split
    · rename_i here
      rw [found] at here
      cases here
      rfl
    · rename_i missed
      rw [found] at missed
      cases missed

theorem fillOnce_cons {c : Char} (missed : leading? values (c :: rest) = none) :
    fillOnce values (c :: rest) = c :: fillOnce values rest := by
  rw [fillOnce]
  split
  · rename_i here
    rw [missed] at here
    cases here
  · rfl

theorem fillOnce_append_of_plain (plain : '\x7b' ∉ front) (text : List Char) :
    fillOnce values (front ++ text) = front ++ fillOnce values text := by
  induction front with
  | nil => rfl
  | cons c front ih =>
    rw [List.mem_cons, not_or] at plain
    rw [List.cons_append, fillOnce_cons (leading?_of_head_ne (Ne.symm plain.1)), ih plain.2]
    rfl

theorem fillOnce_marker (fillable : Fillable values) (member : (name, value) ∈ values)
    (rest : List Char) :
    fillOnce values (marker name.toList ++ rest) = value.toList ++ fillOnce values rest :=
  fillOnce_of_leading ((leading?_eq_some_iff fillable).mpr ⟨name, member, rfl⟩)

theorem fillOnce_marker_of_unknown (fillable : Fillable values) (braceless : Braceless word)
    (unknown : ∀ entry ∈ values, entry.1.toList ≠ word) (rest : List Char) :
    fillOnce values (marker word ++ rest) = marker word ++ fillOnce values rest := by
  have plain : '\x7b' ∉ word ++ ['\x7d'] := by simp [braceless.1]
  have missed : leading? values ('\x7b' :: (word ++ ['\x7d'] ++ rest)) = none := by
    rw [Option.eq_none_iff_forall_ne_some]
    rintro ⟨value, after⟩ found
    obtain ⟨name, member, same⟩ := exists_of_leading? found
    have begins : marker name.toList <+: marker word ++ rest := ⟨after, same.symm⟩
    exact unknown _ member (eq_of_prefix_marker (fillable.braceless _ member) braceless begins)
  change fillOnce values ('\x7b' :: (word ++ ['\x7d'] ++ rest)) = _
  rw [fillOnce_cons missed, fillOnce_append_of_plain plain]
  rfl

theorem fillOnce_append_brace (fillable : Fillable values) (front back : List Char) :
    fillOnce values (front ++ '\x7b' :: back) =
      fillOnce values front ++ fillOnce values ('\x7b' :: back) := by
  induction size : front.length using Nat.strongRecOn generalizing front with
  | ind n ih =>
    cases front with
    | nil => simp [fillOnce_nil]
    | cons c front =>
      cases found : leading? values (c :: front) with
      | some parts =>
        obtain ⟨value, after⟩ := parts
        obtain ⟨name, member, same⟩ := exists_of_leading? found
        have shorter := leading?_after_lt found
        rw [fillOnce_of_leading found, same, List.append_assoc, fillOnce_marker fillable member,
          ih after.length (size ▸ shorter) after rfl, List.append_assoc]
      | none =>
        have missed : leading? values (c :: (front ++ '\x7b' :: back)) = none := by
          rw [leading?, List.findSome?_eq_none_iff] at found ⊢
          intro entry member
          have here := found entry member
          rw [Option.map_eq_none_iff, isPrefixOf?_eq_none_iff] at here ⊢
          rw [← List.cons_append, marker_prefix_append_iff (fillable.braceless entry member)
            (List.cons_ne_nil c front)]
          exact here
        rw [List.cons_append, fillOnce_cons missed, fillOnce_cons found,
          ih front.length (size ▸ Nat.lt_succ_self _) front rfl, List.cons_append]

theorem fillOnce_append_marker (fillable : Fillable values) (front word back : List Char) :
    fillOnce values (front ++ (marker word ++ back)) =
      fillOnce values front ++ fillOnce values (marker word ++ back) :=
  fillOnce_append_brace fillable front (word ++ ['\x7d'] ++ back)

end

theorem Fillable.of_append {first second : List (String × String)}
    (fillable : Fillable (first ++ second)) : Fillable first := by
  have distinct := fillable.distinct
  rw [List.map_append] at distinct
  exact ⟨distinct.of_append_left,
    fun entry member => fillable.braceless entry (List.mem_append_left _ member)⟩

theorem Fillable.single {name : String} (braceless : Braceless name.toList) (value : String) :
    Fillable [(name, value)] :=
  ⟨List.nodup_singleton _, fun _ member => List.mem_singleton.mp member ▸ braceless⟩

section

variable {first : List (String × String)} {name value : String} {text : List Char}

theorem fillOnce_of_absent (value : String) (absent : ¬ marker name.toList <:+: text) :
    fillOnce (first ++ [(name, value)]) text = fillOnce first text := by
  induction size : text.length using Nat.strongRecOn generalizing text with
  | ind n ih =>
    cases text with
    | nil => rw [fillOnce_nil, fillOnce_nil]
    | cons c rest =>
      have elsewhere : leading? [(name, value)] (c :: rest) = none := by
        have missed : ¬ marker name.toList <+: c :: rest := fun begins => absent begins.isInfix
        simp [leading?, isPrefixOf?_eq_none_iff.mpr missed]
      have same : leading? (first ++ [(name, value)]) (c :: rest) = leading? first (c :: rest) := by
        rw [leading?, List.findSome?_append]
        change (leading? first _).or (leading? [(name, value)] _) = _
        rw [elsewhere, Option.or_none]
      cases found : leading? first (c :: rest) with
      | some parts =>
        obtain ⟨value', after⟩ := parts
        have shorter := leading?_after_lt found
        obtain ⟨name', -, source⟩ := exists_of_leading? found
        have behind : ¬ marker name.toList <:+: after := fun inside =>
          absent (inside.trans ⟨marker name'.toList, [], by simp [source]⟩)
        rw [fillOnce_of_leading (same.trans found), fillOnce_of_leading found,
          ih after.length (size ▸ shorter) behind rfl]
      | none =>
        have behind : ¬ marker name.toList <:+: rest := fun inside =>
          absent (inside.trans (List.suffix_cons c rest).isInfix)
        rw [fillOnce_cons (same.trans found), fillOnce_cons found,
          ih rest.length (size ▸ Nat.lt_succ_self _) behind rfl]

theorem exists_pieces (fillable : Fillable (first ++ [(name, value)])) (text : List Char) :
    ∃ pieces : List (List Char), pieces ≠ [] ∧
      fillOnce first text = (marker name.toList).intercalate pieces ∧
      fillOnce (first ++ [(name, value)]) text = value.toList.intercalate pieces ∧
      occurrences (marker name.toList) text + 1 = pieces.length := by
  have braceless : Braceless name.toList := fillable.braceless (name, value) (by simp)
  have unknown : ∀ entry ∈ first, entry.1.toList ≠ name.toList := by
    intro entry member same
    have distinct := fillable.distinct
    rw [List.map_append, List.nodup_append] at distinct
    exact distinct.2.2 entry.1 (List.mem_map_of_mem member) name (by simp)
      (String.toList_inj.mp same)
  induction size : text.length using Nat.strongRecOn generalizing text with
  | ind n ih =>
    cases found : cut? (marker name.toList) text with
    | none =>
      have absent := cut?_eq_none_iff.mp found
      refine ⟨[fillOnce first text], by simp, by simp, ?_, ?_⟩
      · simpa using fillOnce_of_absent value absent
      · rw [occurrences_eq_zero_iff.mpr absent]
        rfl
    | some parts =>
      obtain ⟨before, after⟩ := parts
      obtain ⟨source, early⟩ := (cut?_eq_some_iff marker_ne_nil).mp found
      have absent : ¬ marker name.toList <:+: before := fun inside =>
        early (inside.trans (List.prefix_append _ _).isInfix)
      obtain ⟨pieces, nonempty, filled, filledBoth, count⟩ :=
        ih after.length (size ▸ cut?_after_lt found marker_ne_nil) after rfl
      rw [List.append_assoc] at source
      refine ⟨fillOnce first before :: pieces, by simp, ?_, ?_, ?_⟩
      · rw [source, fillOnce_append_marker fillable.of_append,
          fillOnce_marker_of_unknown fillable.of_append braceless unknown,
          List.intercalate_cons_of_ne_nil nonempty, ← filled, List.append_assoc]
      · rw [source, fillOnce_append_marker fillable, fillOnce_of_absent value absent,
          fillOnce_marker fillable List.mem_concat_self, List.intercalate_cons_of_ne_nil nonempty,
          ← filledBoth, List.append_assoc]
      · rw [source, occurrences_append_marker braceless,
          occurrences_marker_append braceless braceless, occurrences_eq_zero_iff.mpr absent,
          if_pos rfl, List.length_cons, ← count, Nat.zero_add]

end

theorem fillOnce_none (text : List Char) : fillOnce [] text = text := by
  induction text with
  | nil => exact fillOnce_nil
  | cons c text ih => rw [fillOnce_cons rfl, ih]

theorem length_intercalate (sep : List Char) {pieces : List (List Char)} (nonempty : pieces ≠ []) :
    (sep.intercalate pieces).length + sep.length =
      (pieces.map List.length).sum + pieces.length * sep.length := by
  induction pieces with
  | nil => contradiction
  | cons piece pieces ih =>
    cases pieces with
    | nil => simp
    | cons next pieces =>
      have behind := ih (List.cons_ne_nil next pieces)
      rw [List.intercalate_cons_cons, List.length_append, List.length_append, List.map_cons,
        List.sum_cons, List.length_cons, Nat.add_one_mul]
      omega

theorem eq_of_intercalate_map {sep : List Char} {f : List Char → List Char}
    {pieces : List (List Char)} (lengths : ∀ piece ∈ pieces, (f piece).length = piece.length)
    (same : sep.intercalate (pieces.map f) = sep.intercalate pieces) :
    ∀ piece ∈ pieces, f piece = piece := by
  induction pieces with
  | nil => simp
  | cons piece pieces ih =>
    cases pieces with
    | nil => simpa using same
    | cons next pieces =>
      obtain ⟨here, behind⟩ := List.forall_mem_cons.mp lengths
      rw [List.map_cons, List.map_cons, List.intercalate_cons_cons, List.intercalate_cons_cons,
        List.append_assoc, List.append_assoc] at same
      obtain ⟨first, rest⟩ := List.append_inj same here
      exact List.forall_mem_cons.mpr ⟨first, ih behind (List.append_cancel_left rest)⟩

section

variable {first : List (String × String)} {name value : String}

theorem fillOnce_intercalate (braceless : Braceless name.toList) (value : String)
    (pieces : List (List Char)) :
    fillOnce [(name, value)] ((marker name.toList).intercalate pieces) =
      value.toList.intercalate (pieces.map (fillOnce [(name, value)])) := by
  have single := Fillable.single braceless value
  induction pieces with
  | nil => exact fillOnce_nil
  | cons piece pieces ih =>
    cases pieces with
    | nil => simp
    | cons next pieces =>
      rw [List.intercalate_cons_cons, List.append_assoc, fillOnce_append_marker single,
        fillOnce_marker single List.mem_cons_self, ih]
      simp only [List.map_cons, List.intercalate_cons_cons, List.append_assoc]

theorem occurrences_intercalate (braceless : Braceless name.toList) {pieces : List (List Char)}
    (nonempty : pieces ≠ []) :
    occurrences (marker name.toList) ((marker name.toList).intercalate pieces) + 1 =
      (pieces.map (occurrences (marker name.toList))).sum + pieces.length := by
  induction pieces with
  | nil => contradiction
  | cons piece pieces ih =>
    cases pieces with
    | nil => simp
    | cons next pieces =>
      have behind := ih (List.cons_ne_nil next pieces)
      rw [List.intercalate_cons_cons, List.append_assoc, occurrences_append_marker braceless,
        occurrences_marker_append braceless braceless, if_pos rfl, List.map_cons, List.sum_cons,
        List.length_cons]
      omega

theorem length_fillOnce_single (braceless : Braceless name.toList) (value : String)
    (text : List Char) :
    (fillOnce [(name, value)] text).length +
        occurrences (marker name.toList) text * (marker name.toList).length =
      text.length + occurrences (marker name.toList) text * value.toList.length := by
  have single : Fillable ([] ++ [(name, value)]) := .single braceless value
  obtain ⟨pieces, nonempty, whole, filled, count⟩ := exists_pieces single text
  have before := length_intercalate (marker name.toList) nonempty
  have after := length_intercalate value.toList nonempty
  rw [fillOnce_none] at whole
  rw [List.nil_append] at filled
  rw [← whole, ← count, Nat.add_one_mul] at before
  rw [← filled, ← count, Nat.add_one_mul] at after
  omega

theorem sum_length_fillOnce_single (braceless : Braceless name.toList) (value : String)
    (pieces : List (List Char)) :
    ((pieces.map (fillOnce [(name, value)])).map List.length).sum +
        (pieces.map (occurrences (marker name.toList))).sum * (marker name.toList).length =
      (pieces.map List.length).sum +
        (pieces.map (occurrences (marker name.toList))).sum * value.toList.length := by
  induction pieces with
  | nil => simp
  | cons piece pieces ih =>
    have here := length_fillOnce_single braceless value piece
    simp only [List.map_cons, List.sum_cons, Nat.add_mul]
    omega

theorem eq_marker_of_fillOnce_single (braceless : Braceless name.toList) {text : List Char}
    (occurs : occurrences (marker name.toList) text ≠ 0)
    (size : value.toList.length = (marker name.toList).length)
    (same : fillOnce [(name, value)] text = text) : value.toList = marker name.toList := by
  have single : Fillable ([] ++ [(name, value)]) := .single braceless value
  obtain ⟨pieces, -, whole, filled, count⟩ := exists_pieces single text
  rw [fillOnce_none] at whole
  rw [List.nil_append, same, whole] at filled
  match pieces, count with
  | [], count => simp at count
  | [_], count => simp at count; exact absurd count occurs
  | piece :: next :: pieces, _ =>
    rw [List.intercalate_cons_cons, List.intercalate_cons_cons, List.append_assoc,
      List.append_assoc] at filled
    exact (List.append_inj (List.append_cancel_left filled) size.symm).1.symm

theorem fillOnce_single_eq_self (braceless : Braceless name.toList) {text : List Char}
    (allowed : value.toList = marker name.toList ∨ occurrences (marker name.toList) text = 0) :
    fillOnce [(name, value)] text = text := by
  rcases allowed with itself | absent
  · have single : Fillable ([] ++ [(name, value)]) := .single braceless value
    obtain ⟨pieces, -, whole, filled, -⟩ := exists_pieces single text
    rw [itself, ← whole, fillOnce_none] at filled
    exact filled
  · have kept : fillOnce ([] ++ [(name, value)]) text = fillOnce [] text :=
      fillOnce_of_absent value (occurrences_eq_zero_iff.mp absent)
    exact kept.trans (fillOnce_none text)

theorem intercalate_fillOnce_iff (braceless : Braceless name.toList) {pieces : List (List Char)}
    (nonempty : pieces ≠ []) :
    value.toList.intercalate (pieces.map (fillOnce [(name, value)])) =
        value.toList.intercalate pieces ↔
      value.toList = marker name.toList ∨
        (pieces.map (occurrences (marker name.toList))).sum = 0 := by
  constructor
  · intro same
    by_contra neither
    rw [not_or] at neither
    -- The whole keeps its length, so the value is as long as the placeholder.
    have before := length_intercalate value.toList nonempty
    have after := length_intercalate value.toList
      (List.map_eq_nil_iff.not.mpr nonempty : pieces.map (fillOnce [(name, value)]) ≠ [])
    rw [same, List.length_map] at after
    have sums := sum_length_fillOnce_single braceless value pieces
    have size : value.toList.length = (marker name.toList).length :=
      (Nat.eq_of_mul_eq_mul_left (Nat.pos_of_ne_zero neither.2) (by omega)).symm
    -- So every piece stays the same, and in one of them there is a place that is filled.
    have pieceSizes : ∀ piece ∈ pieces, (fillOnce [(name, value)] piece).length = piece.length := by
      intro piece _
      have length := length_fillOnce_single braceless value piece
      rw [size] at length
      exact Nat.add_right_cancel length
    have unchanged := eq_of_intercalate_map pieceSizes same
    obtain ⟨_, counted, positive⟩ :=
      List.sum_pos_iff_exists_pos_nat.mp (Nat.pos_of_ne_zero neither.2)
    obtain ⟨piece, member, rfl⟩ := List.mem_map.mp counted
    exact neither.1 (eq_marker_of_fillOnce_single braceless (Nat.pos_iff_ne_zero.mp positive) size
      (unchanged piece member))
  · intro allowed
    congr 1
    refine (List.map_congr_left fun piece member => ?_).trans (List.map_id pieces)
    refine fillOnce_single_eq_self braceless (allowed.imp_right fun none => ?_)
    exact List.sum_eq_zero_iff_forall_eq_nat.mp none _ (List.mem_map_of_mem member)

/-- Filling one more name behind others is the same as filling it along with them exactly if the
    others have brought no new place for it, or its value changes nothing. -/
theorem fillOnce_step_iff (fillable : Fillable (first ++ [(name, value)])) (text : List Char) :
    fillOnce [(name, value)] (fillOnce first text) = fillOnce (first ++ [(name, value)]) text ↔
      value.toList = marker name.toList ∨
        occurrences (marker name.toList) (fillOnce first text) =
          occurrences (marker name.toList) text := by
  have braceless : Braceless name.toList := fillable.braceless (name, value) List.mem_concat_self
  obtain ⟨pieces, nonempty, filled, filledBoth, count⟩ := exists_pieces fillable text
  have counts := occurrences_intercalate braceless nonempty
  have step := fillOnce_intercalate braceless value pieces
  rw [← filled] at counts step
  rw [step, filledBoth, intercalate_fillOnce_iff braceless nonempty]
  refine or_congr_right ?_
  omega

end

section

variable {values values' : List (String × String)} {text : List Char}

theorem fillOnce_congr (same : ∀ text, leading? values text = leading? values' text)
    (text : List Char) : fillOnce values text = fillOnce values' text := by
  induction size : text.length using Nat.strongRecOn generalizing text with
  | ind n ih =>
    cases text with
    | nil => rw [fillOnce_nil, fillOnce_nil]
    | cons c rest =>
      cases found : leading? values (c :: rest) with
      | some parts =>
        obtain ⟨value, after⟩ := parts
        have shorter := leading?_after_lt found
        rw [fillOnce_of_leading found, fillOnce_of_leading ((same _).symm.trans found),
          ih after.length (size ▸ shorter) after rfl]
      | none =>
        rw [fillOnce_cons found, fillOnce_cons ((same _).symm.trans found),
          ih rest.length (size ▸ Nat.lt_succ_self _) rest rfl]

theorem Fillable.perm (fillable : Fillable values) (reordered : values'.Perm values) :
    Fillable values' :=
  ⟨((reordered.map Prod.fst).nodup_iff).mpr fillable.distinct,
    fun entry member => fillable.braceless entry (reordered.mem_iff.mp member)⟩

theorem fillOnce_perm (fillable : Fillable values) (reordered : values'.Perm values)
    (text : List Char) : fillOnce values' text = fillOnce values text := by
  refine fillOnce_congr (fun text => ?_) text
  ext ⟨value, after⟩
  rw [leading?_eq_some_iff fillable, leading?_eq_some_iff (fillable.perm reordered)]
  simp only [reordered.mem_iff]

end

theorem replaceAll_marker {name : String} (braceless : Braceless name.toList) (value : String)
    (text : List Char) :
    replaceAll (marker name.toList) value.toList text = fillOnce [(name, value)] text := by
  have single := Fillable.single braceless value
  induction size : text.length using Nat.strongRecOn generalizing text with
  | ind n ih =>
    cases found : cut? (marker name.toList) text with
    | none =>
      have absent := occurrences_eq_zero_iff.mpr (cut?_eq_none_iff.mp found)
      rw [replaceAll_of_absent marker_ne_nil found, fillOnce_single_eq_self braceless (.inr absent)]
    | some parts =>
      obtain ⟨before, after⟩ := parts
      obtain ⟨source, early⟩ := (cut?_eq_some_iff marker_ne_nil).mp found
      have absent : ¬ marker name.toList <:+: before := fun inside =>
        early (inside.trans (List.prefix_append _ _).isInfix)
      rw [replaceAll_of_cut marker_ne_nil found,
        ih after.length (size ▸ cut?_after_lt found marker_ne_nil) after rfl, source,
        List.append_assoc, List.append_assoc, fillOnce_append_marker single,
        fillOnce_marker single List.mem_cons_self,
        fillOnce_single_eq_self braceless (.inr (occurrences_eq_zero_iff.mpr absent))]

end TopicWiki.Text
