import TopicWiki.Proofs.Textile.Slots

namespace TopicWiki.Textile

open Text

def Piece.phrase? : Piece → Option (List Char)
  | .literal _ => none
  | .phrase inner => some inner

def codeSpans (text : List Char) : List (List Char) :=
  (pieces codeMarker text).filterMap Piece.phrase?

theorem heldCode_eq (parts : List Piece) :
    heldCode parts = (parts.filterMap Piece.phrase?).map codeElement := by
  rw [List.map_filterMap]
  apply List.filterMap_congr
  intro part _
  cases part <;> rfl

def heldInline (settings : Settings) (text : List Char) : List Char :=
  let held := formatted settings (holdCode 0 (pieces codeMarker text))
  if settings.lineBreaks then breakLines held else held

/-- A part of a text with slots: a character that is no sign of a slot, or a whole slot. -/
inductive Held where
  | char (c : Char) (unopened : c ≠ slotOpen) (unclosed : c ≠ slotClose)
  | code (index : Nat)

namespace Held

def written : Held → List Char
  | char c _ _ => [c]
  | code index => slot index

def filled (fragments : List (List Char)) : Held → List Char
  | char c _ _ => [c]
  | code index => (fragments[index]?).getD []

def index? : Held → Option Nat
  | char _ _ _ => none
  | code index => some index

end Held

theorem Slotted.exists_parts {indices : Multiset Nat} {text : List Char}
    (slotted : Slotted indices text) :
    ∃ parts : List Held, ↑(parts.filterMap Held.index?) = indices ∧
      text = parts.flatMap Held.written := by
  induction slotted with
  | nil => exact ⟨[], rfl, rfl⟩
  | @char c _ _ unopened unclosed _ ih =>
    obtain ⟨parts, rfl, rfl⟩ := ih
    exact ⟨.char c unopened unclosed :: parts, rfl, rfl⟩
  | code index _ ih =>
    obtain ⟨parts, rfl, rfl⟩ := ih
    exact ⟨.code index :: parts, rfl, rfl⟩

theorem slotIndex?_toDigits (index : Nat) : slotIndex? (Nat.toDigits 10 index) = some index := by
  have decimal : ∀ c ∈ Nat.toDigits 10 index, c.isDigit = true := fun c member =>
    Nat.isDigit_of_mem_toDigits (by decide) (by decide) member
  have unsigned : ∀ rest, Nat.toDigits 10 index ≠ '+' :: rest := by
    intro rest same
    have sign := decimal '+' (same ▸ List.mem_cons_self)
    cases sign
  have value : (Nat.toDigits 10 index).foldl (fun n c => 10 * n + (c.toNat - '0'.toNat)) 0 = index :=
    Nat.ofDigitChars_toDigits (by decide) (by decide)
  unfold slotIndex?
  split
  · rename_i rest same
    exact absurd same (unsigned rest)
  · simp only
    rw [value, List.isEmpty_eq_false_iff.mpr Nat.toDigits_ne_nil, List.all_eq_true.mpr decimal]
    rfl

section

variable {fragments : List (List Char)} {text before after inside rest : List Char}

theorem fillSlots_of_absent (absent : cut? [slotOpen] text = none) :
    fillSlots fragments text = text := by
  rw [fillSlots]
  split
  · rfl
  · rename_i opened
    rw [absent] at opened
    cases opened

theorem fillSlots_of_unclosed (opened : cut? [slotOpen] text = some (before, after))
    (unclosed : cut? [slotClose] after = none) : fillSlots fragments text = before ++ after := by
  rw [fillSlots]
  split
  · rename_i absent
    rw [opened] at absent
    cases absent
  · rename_i opened'
    rw [opened] at opened'
    cases opened'
    simp only
    split
    · rfl
    · rename_i closed
      rw [unclosed] at closed
      cases closed

theorem fillSlots_of_slot (opened : cut? [slotOpen] text = some (before, after))
    (closed : cut? [slotClose] after = some (inside, rest)) :
    fillSlots fragments text = before ++ ((slotIndex? inside).bind (fragments[·]?)).getD inside ++
      fillSlots fragments rest := by
  conv_lhs => rw [fillSlots]
  split
  · rename_i absent
    rw [opened] at absent
    cases absent
  · rename_i opened'
    rw [opened] at opened'
    cases opened'
    simp only
    split
    · rename_i unclosed
      rw [closed] at unclosed
      cases unclosed
    · rename_i closed'
      rw [closed] at closed'
      cases closed'
      rfl

theorem fillSlots_char {c : Char} (unopened : c ≠ slotOpen) :
    fillSlots fragments (c :: text) = c :: fillSlots fragments text := by
  have step : cut? [slotOpen] (c :: text) =
      (cut? [slotOpen] text).map fun parts => (c :: parts.1, parts.2) := by
    simp [cut?, List.isPrefixOf?, unopened.symm]
  cases opened : cut? [slotOpen] text with
  | none =>
    rw [opened] at step
    rw [fillSlots_of_absent opened, fillSlots_of_absent step]
  | some parts =>
    obtain ⟨before, after⟩ := parts
    rw [opened] at step
    cases closed : cut? [slotClose] after with
    | none => rw [fillSlots_of_unclosed opened closed, fillSlots_of_unclosed step closed]; rfl
    | some parts =>
      obtain ⟨inside, rest⟩ := parts
      rw [fillSlots_of_slot opened closed, fillSlots_of_slot step closed]
      rfl

theorem fillSlots_slot {index : Nat} (bound : index < fragments.length) :
    fillSlots fragments (slot index ++ text) = fragments[index] ++ fillSlots fragments text := by
  have opened : cut? [slotOpen] (slot index ++ text) =
      some ([], Nat.toDigits 10 index ++ [slotClose] ++ text) := rfl
  have unclosed : slotClose ∉ Nat.toDigits 10 index := by
    intro member
    have digit := Nat.isDigit_of_mem_toDigits (by decide) (by decide) member
    cases digit
  have closed : cut? [slotClose] (Nat.toDigits 10 index ++ [slotClose] ++ text) =
      some (Nat.toDigits 10 index, text) := by
    apply cut?_of_not_early (List.cons_ne_nil _ _)
    intro early
    rw [List.dropLast_singleton, List.append_nil] at early
    exact unclosed (early.subset (List.mem_singleton_self _))
  rw [fillSlots_of_slot opened closed, slotIndex?_toDigits, Option.bind_some,
    List.getElem?_eq_getElem bound]
  rfl

end

theorem fillSlots_written {fragments : List (List Char)} {parts : List Held}
    (bound : ∀ index ∈ parts.filterMap Held.index?, index < fragments.length) :
    fillSlots fragments (parts.flatMap Held.written) = parts.flatMap (Held.filled fragments) := by
  induction parts with
  | nil =>
    rw [List.flatMap_nil, fillSlots]
    rfl
  | cons part parts ih =>
    cases part with
    | char c unopened unclosed =>
      have kept := ih bound
      rw [List.flatMap_cons, List.flatMap_cons, ← kept]
      exact fillSlots_char unopened
    | code index =>
      have known : index < fragments.length := bound index List.mem_cons_self
      have kept := ih fun other member => bound other (List.mem_cons_of_mem _ member)
      rw [List.flatMap_cons, List.flatMap_cons, ← kept, Held.filled, List.getElem?_eq_getElem known]
      exact fillSlots_slot known

theorem restoreCode_written {fragments : List (List Char)} {parts : List Held}
    (bound : ∀ index ∈ parts.filterMap Held.index?, index < fragments.length) :
    restoreCode fragments (parts.flatMap Held.written) = parts.flatMap (Held.filled fragments) := by
  unfold restoreCode
  split
  · rename_i empty
    rw [List.isEmpty_iff.mp empty] at bound ⊢
    apply List.flatMap_congr
    intro part member
    cases part with
    | char => rfl
    | code index =>
      have listed : index ∈ parts.filterMap Held.index? := List.mem_filterMap.mpr ⟨_, member, rfl⟩
      exact absurd (bound index listed) (Nat.not_lt_zero _)
  · exact fillSlots_written bound

theorem Slotted.holdCode {parts : List Piece}
    (plain : ∀ text, .literal text ∈ parts → slotOpen ∉ text ∧ slotClose ∉ text) (index : Nat) :
    Slotted ↑(List.range' index (parts.filterMap Piece.phrase?).length)
      (Textile.holdCode index parts) := by
  induction parts generalizing index with
  | nil => exact .nil
  | cons part parts ih =>
    have later := ih (fun text member => plain text (List.mem_cons_of_mem _ member))
    cases part with
    | literal text =>
      obtain ⟨unopened, unclosed⟩ := plain text List.mem_cons_self
      exact (Slotted.of_unslotted unopened unclosed).behind (later index)
    | phrase inner => exact .code index (later (index + 1))

theorem slotted_heldInline (settings : Settings) {text : List Char} (unopened : slotOpen ∉ text)
    (unclosed : slotClose ∉ text) :
    Slotted ↑(List.range (codeSpans text).length) (heldInline settings text) := by
  have literals : ∀ front, .literal front ∈ pieces codeMarker text →
      slotOpen ∉ front ∧ slotClose ∉ front := fun front listed =>
    ⟨fun member => unopened ((infix_of_mem_pieces listed).subset member),
      fun member => unclosed ((infix_of_mem_pieces listed).subset member)⟩
  have held := (Slotted.holdCode literals 0).formatted settings
  rw [List.range_eq_range', heldInline]
  split
  · exact held.breakLines
  · exact held

theorem inline_eq_restored (settings : Settings) (text : List Char) :
    inline settings text =
      restoreCode ((codeSpans text).map codeElement) (heldInline settings text) := by
  rw [codeSpans, ← heldCode_eq]
  rfl

theorem mem_of_mem_codeElement {c : Char} {inner : List Char} (member : c ∈ codeElement inner)
    (other : c ∉ entitySigns) (untagged : c ∉ "<code></code>".toList) : c ∈ inner := by
  have tags : "<code></code>".toList = "<code>".toList ++ "</code>".toList := rfl
  rw [tags, List.mem_append, not_or] at untagged
  unfold codeElement at member
  rw [List.mem_append, List.mem_append] at member
  rcases member with (start | escaped) | stop
  · exact absurd start untagged.1
  · exact mem_of_mem_escapeText escaped other
  · exact absurd stop untagged.2

theorem not_mem_filled {c : Char} {text : List Char} (absent : c ∉ text)
    (other : c ∉ entitySigns) (untagged : c ∉ "<code></code>".toList) (index : Nat) :
    c ∉ Held.filled ((codeSpans text).map codeElement) (.code index) := by
  intro member
  rw [Held.filled, List.getElem?_map] at member
  cases known : (codeSpans text)[index]? with
  | none =>
    rw [known] at member
    cases member
  | some inner =>
    rw [known] at member
    have inside : c ∈ inner := mem_of_mem_codeElement member other untagged
    obtain ⟨part, listed, same⟩ := List.mem_filterMap.mp (List.mem_of_getElem? known)
    cases part with
    | literal => cases same
    | phrase =>
      cases same
      exact absent ((infix_of_mem_pieces listed).subset (by simp [Piece.source, inside]))

/-- No code span is lost, written twice or changed, wherever the other rules move it to. -/
theorem inline_keeps_code (settings : Settings) {text : List Char} (unopened : slotOpen ∉ text)
    (unclosed : slotClose ∉ text) :
    ∃ parts : List Held,
      (parts.filterMap Held.index?).Perm (List.range (codeSpans text).length) ∧
      heldInline settings text = parts.flatMap Held.written ∧
      inline settings text = parts.flatMap (Held.filled ((codeSpans text).map codeElement)) ∧
      slotOpen ∉ inline settings text ∧ slotClose ∉ inline settings text := by
  obtain ⟨parts, indices, whole⟩ := (slotted_heldInline settings unopened unclosed).exists_parts
  have every := Multiset.coe_eq_coe.mp indices
  have restored : inline settings text =
      parts.flatMap (Held.filled ((codeSpans text).map codeElement)) := by
    rw [inline_eq_restored, whole]
    apply restoreCode_written
    intro index member
    rw [List.length_map]
    exact List.mem_range.mp (every.subset member)
  have clean : ∀ c ∈ [slotOpen, slotClose], c ∉ text → c ∉ inline settings text := by
    intro sign listed absent member
    rw [restored] at member
    obtain ⟨part, -, here⟩ := List.mem_flatMap.mp member
    cases part with
    | char c other other' =>
      obtain rfl := List.mem_singleton.mp here
      simp [other, other'] at listed
    | code index =>
      refine not_mem_filled absent ?_ ?_ index here
      · rcases List.mem_pair.mp listed with rfl | rfl <;> decide
      · rcases List.mem_pair.mp listed with rfl | rfl <;> decide
  exact ⟨parts, every, whole, restored, clean slotOpen (by simp) unopened,
    clean slotClose (by simp) unclosed⟩

def codeInTitle : List Char :=
  "\"@a@ *x* (@<b>@)\":/u".toList

theorem codeSpans_codeInTitle : codeSpans codeInTitle = [['a'], "<b>".toList] := by
  have found : cut? codeMarker.chars codeInTitle =
      some (['"'], "a@ *x* (@<b>@)\":/u".toList) := rfl
  have opened : openPhrase? codeMarker (['"'].getLast?.or none) "a@ *x* (@<b>@)\":/u".toList =
      some (['a'], " *x* (@<b>@)\":/u".toList) := by
    cbv
  have found' : cut? codeMarker.chars " *x* (@<b>@)\":/u".toList =
      some (" *x* (".toList, "<b>@)\":/u".toList) := rfl
  have opened' : openPhrase? codeMarker (" *x* (".toList.getLast?.or codeMarker.chars.getLast?)
      "<b>@)\":/u".toList = some ("<b>".toList, ")\":/u".toList) := by
    cbv
  have absent : cut? codeMarker.chars ")\":/u".toList = none := rfl
  unfold codeSpans pieces
  rw [piecesAfter_of_opened found opened, piecesAfter_of_opened found' opened',
    piecesAfter_of_absent absent]
  rfl

theorem inline_keeps_code_in_title :
    slotOpen ∉ codeInTitle ∧ slotClose ∉ codeInTitle ∧ ∃ parts : List Held,
      (parts.filterMap Held.index?).Perm [0, 1] ∧
      heldInline {} codeInTitle = parts.flatMap Held.written ∧
      inline {} codeInTitle =
        parts.flatMap (Held.filled ["<code>a</code>".toList, "<code>&lt;b&gt;</code>".toList]) ∧
      slotOpen ∉ inline {} codeInTitle ∧ slotClose ∉ inline {} codeInTitle := by
  have kept := @inline_keeps_code {} codeInTitle (by decide) (by decide)
  rw [codeSpans_codeInTitle] at kept
  exact ⟨by decide, by decide, kept⟩

end TopicWiki.Textile
