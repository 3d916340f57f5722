import Mathlib.Algebra.Order.Group.Multiset
import Mathlib.Tactic.Abel
import TopicWiki.Proofs.Textile.ProperNesting

namespace TopicWiki.Textile

open Text

def isSlotSign (c : Char) : Bool :=
  c == slotOpen || c == slotClose || c.isDigit

def Signless (text : List Char) : Prop :=
  ∀ c ∈ text, isSlotSign c = false

instance (text : List Char) : Decidable (Signless text) :=
  List.decidableBAll (fun c => isSlotSign c = false) text

/-- A text with slots, and the numbers of the slots. The signs of slots stand nowhere else. -/
inductive Slotted : Multiset Nat → List Char → Prop
  | nil : Slotted 0 []
  | char {c : Char} {indices : Multiset Nat} {text : List Char} : c ≠ slotOpen → c ≠ slotClose →
    Slotted indices text → Slotted indices (c :: text)
  | code {indices : Multiset Nat} {text : List Char} (index : Nat) : Slotted indices text →
    Slotted (index ::ₘ indices) (slot index ++ text)

theorem isSlotSign_of_mem_slot {c : Char} {index : Nat} (member : c ∈ slot index) :
    isSlotSign c = true := by
  rw [slot, List.mem_append, List.mem_cons, List.mem_singleton] at member
  rcases member with (rfl | digit) | rfl
  · rfl
  · have decimal := Nat.isDigit_of_mem_toDigits (by decide) (by decide) digit
    simp [isSlotSign, decimal]
  · rfl

theorem isSlotSign_of_isBlank {c : Char} (blank : isBlank c = true) : isSlotSign c = false := by
  have solid : isBlank slotOpen = false ∧ isBlank slotClose = false := by decide
  unfold isSlotSign
  rw [Bool.or_eq_false_iff, Bool.or_eq_false_iff, beq_eq_false_iff_ne, beq_eq_false_iff_ne]
  refine ⟨⟨?_, ?_⟩, ?_⟩
  · rintro rfl
    rw [solid.1] at blank
    cases blank
  · rintro rfl
    rw [solid.2] at blank
    cases blank
  · rw [Bool.eq_false_iff]
    intro digit
    rw [Char.isDigit_iff_toNat] at digit
    have first : '0'.toNat = 48 := rfl
    have last : '9'.toNat = 57 := rfl
    simp only [isBlank, blankRanges, List.any_cons, List.any_nil, Bool.or_eq_true,
      Bool.and_eq_true, decide_eq_true_eq, Bool.false_eq_true, or_false] at blank
    omega

theorem isSlotSign_of_isTrailing {c : Char} (trailing : isTrailing c = true) :
    isSlotSign c = false := by
  have signs : Signless ['.', ',', ';', ':', '!', '?', ')'] := by decide
  exact signs c (List.contains_iff_mem.mp trailing)

theorem flatMap_slot {f : Char → List Char} (kept : ∀ c, isSlotSign c = true → f c = [c])
    (index : Nat) : (slot index).flatMap f = slot index := by
  rw [List.flatMap_congr fun c member => kept c (isSlotSign_of_mem_slot member)]
  exact List.flatMap_singleton' _

theorem attributeEntity?_of_sign {c : Char} (sign : isSlotSign c = true) :
    attributeEntity? c = none := by
  unfold attributeEntity? textEntity?
  split
  · cases sign
  · split
    · cases sign
    · cases sign
    · cases sign
    · rfl

theorem escapeAttribute_slot (index : Nat) : escapeAttribute (slot index) = slot index := by
  unfold escapeAttribute escapeWith
  apply flatMap_slot
  intro c sign
  rw [attributeEntity?_of_sign sign]

theorem breakLines_slot (index : Nat) : breakLines (slot index) = slot index := by
  apply breakLines_line
  intro member
  cases isSlotSign_of_mem_slot member

namespace Slotted

variable {indices others : Multiset Nat} {text front back : List Char}

theorem append (first : Slotted indices front) (second : Slotted others back) :
    Slotted (indices + others) (front ++ back) := by
  induction first with
  | nil => rwa [zero_add]
  | char unopened unclosed _ ih => exact .char unopened unclosed ih
  | code index _ ih =>
    rw [Multiset.cons_add, List.append_assoc]
    exact .code index ih

theorem of_unslotted (unopened : slotOpen ∉ text) (unclosed : slotClose ∉ text) : Slotted 0 text := by
  induction text with
  | nil => exact .nil
  | cons c text ih =>
    rw [List.mem_cons, not_or] at unopened unclosed
    exact .char (Ne.symm unopened.1) (Ne.symm unclosed.1) (ih unopened.2 unclosed.2)

theorem unslotted (slotted : Slotted 0 text) : slotOpen ∉ text ∧ slotClose ∉ text := by
  generalize none_ : (0 : Multiset Nat) = indices at slotted
  induction slotted with
  | nil => exact ⟨List.not_mem_nil, List.not_mem_nil⟩
  | char unopened unclosed _ ih =>
    rw [List.mem_cons, not_or, List.mem_cons, not_or]
    exact ⟨⟨unopened.symm, (ih none_).1⟩, ⟨unclosed.symm, (ih none_).2⟩⟩
  | code index _ => exact absurd none_ (Multiset.zero_ne_cons)

theorem of_signless (signless : Signless text) : Slotted 0 text := by
  apply of_unslotted <;> exact fun member => absurd (signless _ member) (by decide)

theorem behind (plain : Slotted 0 front) (slotted : Slotted indices text) :
    Slotted indices (front ++ text) := by
  simpa using plain.append slotted

theorem before (slotted : Slotted indices text) (plain : Slotted 0 back) :
    Slotted indices (text ++ back) := by
  simpa using slotted.append plain

theorem tail_of_unopened {c : Char} (slotted : Slotted indices (c :: text))
    (unopened : c ≠ slotOpen) : Slotted indices text := by
  generalize same : c :: text = whole at slotted
  cases slotted with
  | nil => cases same
  | char _ _ later =>
    cases same
    exact later
  | code index =>
    obtain ⟨rfl, -⟩ := List.cons_eq_cons.mp same
    exact absurd rfl unopened

theorem tail {c : Char} (slotted : Slotted indices (c :: text)) (sign : isSlotSign c = false) :
    Slotted indices text := by
  apply slotted.tail_of_unopened
  rintro rfl
  cases sign

theorem of_append_unopened (slotted : Slotted indices (front ++ text))
    (unopened : slotOpen ∉ front) : Slotted indices text := by
  induction front with
  | nil => exact slotted
  | cons c front ih =>
    rw [List.mem_cons, not_or] at unopened
    exact ih (slotted.tail_of_unopened (Ne.symm unopened.1)) unopened.2

theorem of_append_signless (slotted : Slotted indices (front ++ text))
    (signless : Signless front) : Slotted indices text :=
  slotted.of_append_unopened fun member => absurd (signless _ member) (by decide)

theorem split (slotted : Slotted indices (front ++ back))
    (head : ∀ c ∈ back.head?, isSlotSign c = false) :
    ∃ first second, indices = first + second ∧ Slotted first front ∧ Slotted second back := by
  generalize whole : front ++ back = text at slotted
  induction slotted generalizing front with
  | nil =>
    obtain ⟨rfl, rfl⟩ := List.append_eq_nil_iff.mp whole
    exact ⟨0, 0, rfl, .nil, .nil⟩
  | @char c indices text unopened unclosed later ih =>
    cases front with
    | nil =>
      rw [List.nil_append] at whole
      rw [whole]
      exact ⟨0, indices, (zero_add _).symm, .nil, .char unopened unclosed later⟩
    | cons d front =>
      obtain ⟨rfl, same⟩ := List.cons_eq_cons.mp whole
      obtain ⟨first, second, rfl, inFront, inBack⟩ := ih same
      exact ⟨first, second, rfl, .char unopened unclosed inFront, inBack⟩
  | @code indices text index later ih =>
    rcases List.append_eq_append_iff.mp whole with ⟨middle, same, rest⟩ | ⟨middle, rfl, rest⟩
    · cases middle with
      | nil =>
        rw [List.append_nil] at same
        rw [List.nil_append] at rest
        rw [← same, rest]
        exact ⟨{index}, indices, rfl, by simpa using Slotted.code index .nil, later⟩
      | cons c middle =>
        cases front with
        | nil =>
          rw [List.nil_append] at whole
          rw [whole]
          exact ⟨0, index ::ₘ indices, (zero_add _).symm, .nil, .code index later⟩
        | cons d front =>
          -- The cut would fall inside the slot, but no character of a slot is behind the cut.
          have inside : c ∈ slot index := by
            rw [same]
            simp
          have sign := isSlotSign_of_mem_slot inside
          rw [head c (by rw [rest]; rfl)] at sign
          cases sign
    · obtain ⟨first, second, rfl, inFront, inBack⟩ := ih rest.symm
      refine ⟨index ::ₘ first, second, (Multiset.cons_add ..).symm, .code index inFront, inBack⟩

theorem of_append_signless_end (slotted : Slotted indices (front ++ back))
    (signless : Signless back) : Slotted indices front := by
  obtain ⟨first, second, rfl, inFront, inBack⟩ := slotted.split fun c here =>
    signless c (List.mem_of_mem_head? here)
  rw [← List.append_nil back] at inBack
  cases inBack.of_append_signless signless
  rwa [add_zero]

theorem cutAt {c : Char} (slotted : Slotted indices (front ++ c :: back))
    (sign : isSlotSign c = false) :
    ∃ first second, indices = first + second ∧ Slotted first front ∧ Slotted second back := by
  obtain ⟨first, second, rfl, inFront, inBehind⟩ := slotted.split (by
    intro d here
    obtain rfl := Option.some.inj here
    exact sign)
  exact ⟨first, second, rfl, inFront, inBehind.tail sign⟩

theorem cut {pattern : List Char} (slotted : Slotted indices (front ++ pattern ++ back))
    (nonempty : pattern ≠ []) (signless : Signless pattern) :
    ∃ first second, indices = first + second ∧ Slotted first front ∧ Slotted second back := by
  rw [List.append_assoc] at slotted
  obtain ⟨first, second, rfl, inFront, inBehind⟩ := slotted.split (by
    intro c here
    rw [List.head?_append_of_ne_nil _ nonempty] at here
    exact signless c (List.mem_of_mem_head? here))
  exact ⟨first, second, rfl, inFront, inBehind.of_append_signless signless⟩

theorem flatMap {f : Char → List Char} (kept : ∀ c, isSlotSign c = true → f c = [c])
    (plain : ∀ c, isSlotSign c = false → Slotted 0 (f c)) (slotted : Slotted indices text) :
    Slotted indices (text.flatMap f) := by
  induction slotted with
  | nil => exact .nil
  | @char c indices text unopened unclosed _ ih =>
    rw [List.flatMap_cons]
    by_cases sign : isSlotSign c = true
    · rw [kept c sign]
      exact .char unopened unclosed ih
    · rw [Bool.not_eq_true] at sign
      exact (plain c sign).behind ih
  | @code indices text index _ ih =>
    rw [List.flatMap_append, flatMap_slot kept]
    exact .code index ih

theorem exists_of_flatMap_signs {f : Char → List Char}
    (kept : ∀ c, isSlotSign c = true → f c = [c])
    (plain : ∀ c, isSlotSign c = false → ∃ d ∈ (f c).head?, isSlotSign d = false)
    {signs rest : List Char} (all : ∀ c ∈ signs, isSlotSign c = true)
    (written : text.flatMap f = signs ++ rest) :
    ∃ more, text = signs ++ more ∧ more.flatMap f = rest := by
  induction signs generalizing text with
  | nil => exact ⟨text, rfl, written⟩
  | cons sign signs ih =>
    obtain ⟨isSign, others⟩ := List.forall_mem_cons.mp all
    cases text with
    | nil => cases written
    | cons c text =>
      rw [List.flatMap_cons] at written
      by_cases signed : isSlotSign c = true
      · rw [kept c signed] at written
        obtain ⟨rfl, later⟩ := List.cons_eq_cons.mp written
        obtain ⟨more, rfl, same⟩ := ih others later
        exact ⟨more, rfl, same⟩
      · rw [Bool.not_eq_true] at signed
        obtain ⟨d, first, other⟩ := plain c signed
        have head : (sign :: signs ++ rest).head? = some d := by
          rw [← written, List.head?_append, Option.mem_def.mp first]
          rfl
        cases head
        rw [isSign] at other
        cases other

theorem of_flatMap {f : Char → List Char} (kept : ∀ c, isSlotSign c = true → f c = [c])
    (plain : ∀ c, isSlotSign c = false → ∃ d ∈ (f c).head?, isSlotSign d = false)
    (unopened : ∀ c, isSlotSign c = false → slotOpen ∉ f c)
    (slotted : Slotted indices (text.flatMap f)) : Slotted indices text := by
  induction size : text.length using Nat.strongRecOn generalizing indices text with
  | ind n ih =>
    cases text with
    | nil => exact slotted
    | cons c text =>
      have shorter : text.length < n := by
        rw [← size]
        exact Nat.lt_succ_self _
      rw [List.flatMap_cons] at slotted
      by_cases sign : isSlotSign c = true
      · rw [kept c sign] at slotted
        generalize same : [c] ++ text.flatMap f = whole at slotted
        cases slotted with
        | nil => cases same
        | char unopened unclosed later =>
          cases same
          exact .char unopened unclosed (ih _ shorter later rfl)
        | @code _ behind index later =>
          have digits : ∀ d ∈ slot index, isSlotSign d = true := fun _ => isSlotSign_of_mem_slot
          have written : (c :: text).flatMap f = slot index ++ behind := by
            rw [List.flatMap_cons, kept c sign, same]
          obtain ⟨more, whole, rest⟩ := exists_of_flatMap_signs kept plain digits written
          have moreShorter : more.length < n := by
            have lengths := congrArg List.length whole
            simp only [slot, List.length_append, List.length_cons] at lengths size
            omega
          rw [whole]
          exact .code index (ih _ moreShorter (rest ▸ later) rfl)
      · rw [Bool.not_eq_true] at sign
        have later := ih _ shorter (slotted.of_append_unopened (unopened c sign)) rfl
        refine .char ?_ ?_ later <;> rintro rfl <;> cases sign

theorem replaceAll {pattern glyph : List Char} (slotted : Slotted indices text)
    (nonempty : pattern ≠ []) (signless : Signless pattern)
    (plain : Slotted 0 glyph) : Slotted indices (Text.replaceAll pattern glyph text) := by
  induction size : text.length using Nat.strongRecOn generalizing indices text with
  | ind n ih =>
    cases found : cut? pattern text with
    | none =>
      rw [replaceAll_of_absent nonempty found]
      exact slotted
    | some parts =>
      obtain ⟨front, back⟩ := parts
      have shorter := cut?_after_lt found nonempty
      rw [cut?_eq_some found] at slotted
      obtain ⟨first, second, rfl, inFront, inBack⟩ := slotted.cut nonempty signless
      rw [replaceAll_of_cut nonempty found]
      exact (inFront.before plain).append (ih _ (size ▸ shorter) inBack rfl)

theorem glyphs (slotted : Slotted indices text) : Slotted indices (Textile.glyphs text) := by
  have table : ∀ entry ∈ glyphTable, entry.1.toList ≠ [] ∧
      Signless entry.1.toList ∧ slotOpen ∉ entry.2.toList ∧ slotClose ∉ entry.2.toList := by
    decide
  unfold Textile.glyphs
  refine List.foldlRecOn glyphTable _ slotted ?_
  intro text slotted entry listed
  obtain ⟨nonempty, signless, unopened, unclosed⟩ := table entry listed
  exact slotted.replaceAll nonempty signless (.of_unslotted unopened unclosed)

theorem pieces {marker : Marker} {render : List Char → List Char}
    (signless : Signless marker.chars)
    (renders : ∀ {indices inner}, Slotted indices inner → Slotted indices (render inner))
    (before : Option Char) (slotted : Slotted indices text) :
    Slotted indices ((piecesAfter marker before text).flatMap (Piece.written render)) := by
  induction size : text.length using Nat.strongRecOn generalizing indices before text with
  | ind n ih =>
    cases found : cut? marker.chars text with
    | none =>
      rw [piecesAfter_of_absent found, List.flatMap_singleton]
      exact slotted
    | some parts =>
      obtain ⟨front, after⟩ := parts
      have afterShorter := cut?_after_lt found marker.nonempty
      rw [cut?_eq_some found] at slotted
      obtain ⟨first, second, rfl, inFront, inAfter⟩ := slotted.cut marker.nonempty signless
      cases opened : openPhrase? marker (front.getLast?.or before) after with
      | some parts =>
        obtain ⟨inner, rest⟩ := parts
        have closed := (openPhrase?_eq_some opened).2
        have restShorter := closePhrase?_rest_lt closed
        rw [closePhrase?_eq_some closed] at inAfter
        obtain ⟨second, third, rfl, inInner, inRest⟩ := inAfter.cut marker.nonempty signless
        rw [piecesAfter_of_opened found opened, List.flatMap_cons, List.flatMap_cons]
        exact inFront.append ((renders inInner).append (ih _ (by omega) _ inRest rfl))
      | none =>
        rw [piecesAfter_of_unopened found opened, List.flatMap_cons]
        exact (inFront.before (.of_signless signless)).append (ih _ (by omega) _ inAfter rfl)

theorem split_tag {before tail : List Char} (slotted : Slotted indices text)
    (start : cutTag? text = some (before, tail)) :
    ∃ first second, indices = first + second ∧ Slotted first before ∧ Slotted second tail := by
  obtain ⟨sign, rest, rfl, -⟩ := exists_of_startsTag (plain_of_cutTag? start).2
  rw [cutTag?_eq_some start] at slotted
  refine slotted.split fun c here => ?_
  obtain rfl := Option.some.inj here
  rfl

theorem mapRuns {f : List Char → List Char}
    (keeps : ∀ {indices run}, Slotted indices run → Slotted indices (f run))
    (slotted : Slotted indices text) : Slotted indices (Textile.mapRuns f text) := by
  have ruled : ∀ {indices run}, Slotted indices run →
      Slotted indices (if run.isEmpty then [] else f run) := by
    intro indices run slotted
    split
    · rename_i empty
      rwa [List.isEmpty_iff.mp empty] at slotted
    · exact keeps slotted
  unfold Textile.mapRuns
  fun_induction segments text generalizing indices with
  | case1 text =>
    rw [List.flatMap_singleton]
    exact ruled slotted
  | case2 text before tail start unclosed =>
    obtain ⟨first, second, rfl, inBefore, inTail⟩ := slotted.split_tag start
    rw [List.flatMap_cons, List.flatMap_singleton]
    exact (ruled inBefore).append (ruled inTail)
  | case3 text before tail start inside rest close _ ih =>
    obtain ⟨first, others, rfl, inBefore, inTail⟩ := slotted.split_tag start
    have bracket : Signless ['>'] := by decide
    rw [cut?_eq_some close] at inTail
    obtain ⟨second, third, rfl, inTag, inRest⟩ := inTail.cut (List.cons_ne_nil _ _) bracket
    rw [List.flatMap_cons, List.flatMap_cons]
    exact (ruled inBefore).append ((inTag.before (.of_signless bracket)).append (ih inRest))

theorem phrases (slotted : Slotted indices text) : Slotted indices (Textile.phrases text) := by
  have markers : ∀ entry ∈ phraseElements, Signless entry.1.chars := by decide
  have tags : ∀ entry ∈ phraseElements,
      (slotOpen ∉ openingTag entry.2 ∧ slotClose ∉ openingTag entry.2) ∧
        slotOpen ∉ closingTag entry.2 ∧ slotClose ∉ closingTag entry.2 := by
    decide
  unfold Textile.phrases
  refine List.foldlRecOn phraseElements _ slotted ?_
  intro text slotted entry listed
  obtain ⟨⟨unopened, unclosed⟩, unopened', unclosed'⟩ := tags entry listed
  refine slotted.mapRuns fun inRun => inRun.pieces (markers entry listed) ?_ none
  intro indices inner inInner
  rw [wrap_eq]
  exact (of_unslotted unopened unclosed).behind (inInner.before (.of_unslotted unopened' unclosed'))

theorem escapeAttribute (slotted : Slotted indices text) :
    Slotted indices (Text.escapeAttribute text) := by
  apply slotted.flatMap
  · intro c sign
    rw [attributeEntity?_of_sign sign]
  · intro c sign
    cases written : attributeEntity? c with
    | none => exact .of_signless (by simpa [Signless] using sign)
    | some entity =>
      have signs : Signless entitySigns := by decide
      exact .of_signless fun d member => signs d (attributeEntity?_signs written d member)

theorem of_escapeAttribute (slotted : Slotted indices (Text.escapeAttribute text)) :
    Slotted indices text := by
  have signs : Signless entitySigns := by decide
  refine slotted.of_flatMap (fun c sign => ?_) (fun c sign => ?_) fun c sign member => ?_
  · rw [attributeEntity?_of_sign sign]
  · cases written : attributeEntity? c with
    | none => exact ⟨c, rfl, sign⟩
    | some entity => exact ⟨'&', attributeEntity?_head written, rfl⟩
  · cases written : attributeEntity? c with
    | none =>
      rw [written] at member
      rw [← List.mem_singleton.mp member] at sign
      cases sign
    | some entity =>
      rw [written] at member
      exact absurd (signs _ (attributeEntity?_signs written _ member)) (by decide)

theorem breakLines (slotted : Slotted indices text) : Slotted indices (Textile.breakLines text) := by
  apply slotted.flatMap
  · intro c sign
    rw [if_neg]
    rintro rfl
    cases sign
  · intro c sign
    split
    · exact .of_unslotted (by decide) (by decide)
    · exact .of_signless (by simpa [Signless] using sign)

theorem of_breakLines (slotted : Slotted indices (Textile.breakLines text)) :
    Slotted indices text := by
  refine slotted.of_flatMap (fun c sign => ?_) (fun c sign => ?_) fun c sign => ?_
  · rw [if_neg]
    rintro rfl
    cases sign
  · split
    · exact ⟨'<', rfl, rfl⟩
    · exact ⟨c, rfl, sign⟩
  · split
    · decide
    · rw [List.mem_singleton]
      rintro rfl
      cases sign

/-- A rule that reads on from one kind of mark to the next needs to be looked at where such a mark
    stands only: it passes over slots. -/
theorem scan {f : List Char → List Char} {mark : Char} (slotted : Slotted indices text)
    (sign : isSlotSign mark = false) (empty : f [] = [])
    (passes : ∀ {c text}, c ≠ mark → f (c :: text) = c :: f text)
    (marked : ∀ {indices text}, Slotted indices (mark :: text) →
      (∀ {others rest}, rest.length < (mark :: text).length → Slotted others rest →
        Slotted others (f rest)) → Slotted indices (f (mark :: text))) :
    Slotted indices (f text) := by
  have unmarked : ∀ front : List Char, mark ∉ front → ∀ text, f (front ++ text) = front ++ f text := by
    intro front absent text
    induction front with
    | nil => rfl
    | cons c front ih =>
      rw [List.mem_cons, not_or] at absent
      rw [List.cons_append, passes (Ne.symm absent.1), ih absent.2]
      rfl
  induction size : text.length using Nat.strongRecOn generalizing indices text with
  | ind n ih =>
    cases slotted with
    | nil =>
      rw [empty]
      exact .nil
    | @char c _ text unopened unclosed later =>
      by_cases same : c = mark
      · rw [same] at unopened unclosed size ⊢
        exact marked (.char unopened unclosed later) fun shorter inRest =>
          ih _ (size ▸ shorter) inRest rfl
      · rw [passes same]
        exact .char unopened unclosed (ih _ (by simp [← size]) later rfl)
    | @code _ text index later =>
      have absent : mark ∉ slot index := by
        intro member
        rw [isSlotSign_of_mem_slot member] at sign
        cases sign
      have shorter : text.length < n := by
        simp only [← size, slot, List.length_append, List.length_cons]
        omega
      rw [unmarked _ absent]
      exact .code index (ih _ shorter later rfl)

theorem image {image : Image} (src : Slotted indices image.src) (alt : Slotted others image.alt) :
    Slotted (indices + others) image.html := by
  have start : Slotted 0 "<img src=\"".toList := .of_unslotted (by decide) (by decide)
  have middle : Slotted 0 "\" alt=\"".toList := .of_unslotted (by decide) (by decide)
  have stop : Slotted 0 "\" />".toList := .of_unslotted (by decide) (by decide)
  exact (((start.behind src.escapeAttribute).before middle).append alt.escapeAttribute).before stop

theorem images (slotted : Slotted indices text) : Slotted indices (Textile.images text) := by
  refine slotted.scan rfl ?_ (fun other => images_cons other) ?_
  · rw [Textile.images]
  · intro indices text slotted scanned
    rw [Textile.images]
    split
    · rename_i image rest found
      have shorter := Image.read?_rest_lt found
      rcases Image.read?_eq_some found with ⟨source, alone⟩ | source
      · rw [source] at slotted
        obtain ⟨first, second, rfl, inSource, inRest⟩ := (slotted.tail rfl).cutAt rfl
        have written := inSource.image (alone ▸ Slotted.nil)
        rw [add_zero] at written
        exact written.append (scanned shorter inRest)
      · rw [source] at slotted
        obtain ⟨first, second, rfl, inSource, inBehind⟩ := (slotted.tail rfl).cutAt rfl
        obtain ⟨second, third, rfl, inAlt, inRest⟩ := inBehind.cutAt rfl
        rw [← add_assoc]
        exact (inSource.image inAlt).append (scanned shorter (inRest.tail rfl))
    · have later := scanned (Nat.lt_succ_self _) (slotted.tail rfl)
      exact .char (by decide) (by decide) later

theorem titleAttribute {link : Link} (title : Slotted indices (link.title?.getD [])) :
    Slotted indices link.titleAttribute := by
  have name : Slotted 0 " title=\"".toList := .of_unslotted (by decide) (by decide)
  unfold Link.titleAttribute
  cases given : link.title? with
  | none =>
    rw [given] at title
    exact title
  | some value =>
    rw [given] at title
    exact (name.behind title.escapeAttribute).before (.of_unslotted (by decide) (by decide))

theorem linkHtml {link : Link} {inUrl inTitle inLabel inTrailing : Multiset Nat}
    (url : Slotted inUrl link.url) (title : Slotted inTitle (link.title?.getD []))
    (label : Slotted inLabel link.label) (trailing : Slotted inTrailing link.trailing) :
    Slotted (inUrl + inTitle + (inLabel + inTrailing)) link.html := by
  have start : Slotted 0 "<a href=\"".toList := .of_unslotted (by decide) (by decide)
  have quote : Slotted 0 ['"'] := .of_unslotted (by decide) (by decide)
  have bracket : Slotted 0 ['>'] := .of_unslotted (by decide) (by decide)
  have stop : Slotted 0 "</a>".toList := .of_unslotted (by decide) (by decide)
  have opening : Slotted (inUrl + inTitle) link.start :=
    ((start.behind url.escapeAttribute).before quote).append title.titleAttribute
  rw [Link.html_eq]
  exact (opening.before bracket).append (label.append (stop.behind trailing))

theorem splitTitle {label : List Char} (slotted : Slotted indices label) :
    ∃ inLabel inTitle, indices = inLabel + inTitle ∧ Slotted inLabel (Textile.splitTitle label).1 ∧
      Slotted inTitle ((Textile.splitTitle label).2.getD []) := by
  rcases splitTitle_parts label with same | ⟨kept, blanks, title, same, blank, parts⟩
  · rw [same]
    exact ⟨indices, 0, (add_zero _).symm, slotted, .nil⟩
  · rw [same]
    rw [parts, ← List.append_assoc] at slotted
    obtain ⟨inLabel, inTitle, rfl, inFront, inBehind⟩ := slotted.cutAt rfl
    refine ⟨inLabel, inTitle, rfl, ?_, ?_⟩
    · exact inFront.of_append_signless_end fun c member =>
        isSlotSign_of_isBlank (List.all_eq_true.mp blank c member)
    · exact inBehind.of_append_signless_end (by decide)

theorem link {label address : List Char} (inLabel : Slotted indices label)
    (inAddress : Slotted others address) :
    Slotted (indices + others) (Link.ofParts label address).html := by
  obtain ⟨first, second, rfl, inKept, inTitle⟩ := inLabel.splitTitle
  have punctuation := List.all_eq_true.mp (Link.ofParts_trailing label address)
  rw [← Link.ofParts_address label address] at inAddress
  obtain ⟨third, fourth, rfl, inUrl, inTrailing⟩ := inAddress.split fun c here =>
    isSlotSign_of_isTrailing (punctuation c (List.mem_of_mem_head? here))
  have written := linkHtml inUrl inTitle inKept inTrailing
  -- The address and the title are written before the label.
  have order : first + second + (third + fourth) = third + second + (first + fourth) := by abel
  rw [order]
  exact written

theorem links (slotted : Slotted indices text) : Slotted indices (Textile.links text) := by
  refine slotted.scan rfl ?_ (fun other => links_cons other) ?_
  · rw [Textile.links]
  · intro indices text slotted scanned
    rw [Textile.links]
    split
    · rename_i link rest found
      have shorter := Link.read?_rest_lt found
      have head : ∀ c ∈ rest.head?, isSlotSign c = false := by
        intro c here
        rcases Link.read?_rest_head found c here with blank | rfl | rfl
        · exact isSlotSign_of_isBlank blank
        · rfl
        · rfl
      obtain ⟨label, address, source, rfl, -⟩ := Link.read?_eq_some found
      rw [source] at slotted
      obtain ⟨first, second, rfl, inLabel, inBehind⟩ := (slotted.tail rfl).cutAt rfl
      obtain ⟨second, third, rfl, inAddress, inRest⟩ := (inBehind.tail rfl).split head
      rw [← add_assoc]
      exact (inLabel.link inAddress).append (scanned shorter inRest)
    · have later := scanned (Nat.lt_succ_self _) (slotted.tail rfl)
      exact .char (by decide) (by decide) later

theorem formatted (settings : Settings) (slotted : Slotted indices text) :
    Slotted indices (Textile.formatted settings text) := by
  have linked : Slotted indices (Textile.mapRuns Textile.links (Textile.mapRuns Textile.images text)) :=
    (slotted.mapRuns Slotted.images).mapRuns Slotted.links
  unfold Textile.formatted
  apply Slotted.phrases
  split
  · exact linked.mapRuns Slotted.glyphs
  · exact linked

end Slotted

end TopicWiki.Textile
