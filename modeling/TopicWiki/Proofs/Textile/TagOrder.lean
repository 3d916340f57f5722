import TopicWiki.Proofs.Text.Order
import TopicWiki.Proofs.Textile.ProperNesting

namespace TopicWiki.Textile

open Text

theorem isTag_of_first {inside behind : List Char}
    (starts : startsTag (inside ++ '>' :: behind) = true) (single : '>' ∉ inside) :
    IsTag (inside ++ ['>']) := by
  obtain ⟨sign, rest, same, signed⟩ := exists_of_startsTag starts
  cases inside with
  | nil => cases same
  | cons c inside =>
    cases inside with
    | nil =>
      simp only [List.cons_append, List.nil_append, List.cons.injEq] at same
      rw [← same.2.1] at signed
      cases signed
    | cons d inside =>
      simp only [List.cons_append, List.cons.injEq] at same
      obtain ⟨rfl, rfl, -⟩ := same
      exact isTag_of_parts signed single

theorem bracket_not_mem_of_slotIndex? {digits : List Char} {index : Nat}
    (read : slotIndex? digits = some index) : '<' ∉ digits := by
  intro member
  have undigit : ∀ digits : List Char, '<' ∈ digits → digits.all Char.isDigit = false := by
    intro digits member
    rw [List.all_eq_false]
    exact ⟨'<', member, by decide⟩
  unfold slotIndex? at read
  split at read
  · rename_i rest
    have behind := (List.mem_cons.mp member).resolve_left (by decide)
    simp [undigit rest behind] at read
  · simp [undigit digits member] at read

end TopicWiki.Textile

namespace TopicWiki.Text.InOrder

open Textile

theorem mapRuns (f : List Char → List Char) {parts : List (List Char)} {text : List Char}
    (areTags : ∀ part ∈ parts, IsTag part) (inOrder : InOrder parts text) :
    InOrder parts (Textile.mapRuns f text) := by
  induction size : text.length using Nat.strongRecOn generalizing parts text with
  | ind n ih =>
    cases inOrder with
    | nil => exact .nil _
    | @cons tag rest parts before later =>
      have isTag : IsTag tag := areTags tag (List.mem_cons_self ..)
      have positive : 0 < tag.length := by
        obtain ⟨sign, rest, rfl, -⟩ := exists_of_startsTag isTag.starts
        exact Nat.succ_pos _
      have restShorter : rest.length < n := by
        rw [← size, List.length_append, List.length_append]
        omega
      have restKept : InOrder parts (Textile.mapRuns f rest) :=
        ih _ restShorter (fun part member => areTags part (List.mem_cons_of_mem _ member)) later rfl
      cases found : cutTag? before with
      | none =>
        rw [mapRuns_tag f found isTag]
        exact .cons _ restKept
      | some cut =>
        obtain ⟨run, tail⟩ := cut
        obtain ⟨plain, starts⟩ := plain_of_cutTag? found
        have parted : before = run ++ tail := cutTag?_eq_some found
        -- A tag starts in front of the first part. It ends there, or takes the part in whole: then
        -- the text is cut at both together.
        by_cases closed : '>' ∈ tail
        · obtain ⟨inside, behind, rfl, single⟩ := List.eq_append_cons_of_mem closed
          have first := isTag_of_first starts single
          have whole : before ++ (tag ++ rest) =
              run ++ ((inside ++ ['>']) ++ (behind ++ (tag ++ rest))) := by
            rw [parted]
            simp
          have shorter : (behind ++ (tag ++ rest)).length < n := by
            rw [← size, whole]
            simp only [List.length_append, List.length_singleton]
            omega
          have kept := ih _ shorter areTags (.cons behind later) rfl
          rw [whole, mapRuns_tag f plain first]
          exact (kept.behind _).behind _
        · obtain ⟨-, inside, same, single⟩ := isTag
          have joined : IsTag (tail ++ tag) := by
            rw [same, ← List.append_assoc]
            refine isTag_of_parts (startsTag_append starts _) ?_
            rw [List.mem_append, not_or]
            exact ⟨closed, single⟩
          have whole : before ++ (tag ++ rest) = run ++ ((tail ++ tag) ++ rest) := by
            rw [parted]
            simp only [List.append_assoc]
          rw [whole, mapRuns_tag f plain joined, List.append_assoc]
          exact (InOrder.cons _ restKept).behind _

theorem formatted (settings : Settings) {parts : List (List Char)} {text : List Char}
    (areTags : ∀ part ∈ parts, IsTag part) (inOrder : InOrder parts text) :
    InOrder parts (Textile.formatted settings text) := by
  have linked := (inOrder.mapRuns images areTags).mapRuns links areTags
  unfold Textile.formatted phrases
  refine List.foldlRecOn phraseElements _ ?_ (fun _ kept _ _ => kept.mapRuns _ areTags)
  split
  · exact linked.mapRuns glyphs areTags
  · exact linked

theorem breakLines {parts : List (List Char)} {text : List Char} (inOrder : InOrder parts text) :
    InOrder (parts.map Textile.breakLines) (Textile.breakLines text) := by
  induction inOrder with
  | nil => exact .nil _
  | cons before _ ih =>
    rw [breakLines_append, breakLines_append]
    exact .cons _ ih

theorem fillSlots (fragments : List (List Char)) {parts : List (List Char)}
    {text : List Char} (bracketed : ∀ part ∈ parts, '<' ∈ part)
    (unslotted : ∀ part ∈ parts, slotOpen ∉ part ∧ slotClose ∉ part) (inOrder : InOrder parts text) :
    InOrder parts (Textile.fillSlots fragments text) := by
  induction size : text.length using Nat.strongRecOn generalizing parts text with
  | ind n ih =>
    rw [Textile.fillSlots]
    split
    · exact inOrder
    · rename_i before after opened
      have source := cut?_eq_some opened
      rw [List.append_assoc] at source
      obtain ⟨first, others, rfl, inBefore, inAfter⟩ :=
        inOrder.split (fun part member => (unslotted part member).1) source
      have member : ∀ part ∈ others, part ∈ first ++ others :=
        fun part => List.mem_append_right first
      simp only
      split
      · exact inBefore.append inAfter
      · rename_i inside rest closed
        have afterSource := cut?_eq_some closed
        rw [List.append_assoc] at afterSource
        obtain ⟨second, third, rfl, inInside, inRest⟩ :=
          inAfter.split (fun part inOthers => (unslotted part (member part inOthers)).2) afterSource
        have restShorter : rest.length < n := by
          have afterShorter := cut?_after_lt opened (List.cons_ne_nil _ _)
          have shorter := cut?_after_lt closed (List.cons_ne_nil _ _)
          omega
        have restKept : InOrder third (Textile.fillSlots fragments rest) := by
          have inThird : ∀ part ∈ third, part ∈ first ++ (second ++ third) :=
            fun part inThird => member part (List.mem_append_right second inThird)
          exact ih _ restShorter (fun part m => bracketed part (inThird part m))
            (fun part m => unslotted part (inThird part m)) inRest rfl
        have filled : InOrder second (((slotIndex? inside).bind (fragments[·]?)).getD inside) := by
          cases read : slotIndex? inside with
          | none => exact inInside
          | some index =>
            -- What is replaced is a number, so no part stands in it.
            have bracketedSecond : ∀ part ∈ second, '<' ∈ part :=
              fun part m => bracketed part (member part (List.mem_append_left third m))
            rw [inInside.eq_nil bracketedSecond (bracket_not_mem_of_slotIndex? read)]
            exact .nil _
        rw [List.append_assoc]
        exact inBefore.append (filled.append restKept)

theorem restoreCode {fragments : List (List Char)} {parts : List (List Char)}
    {text : List Char} (bracketed : ∀ part ∈ parts, '<' ∈ part)
    (unslotted : fragments ≠ [] → ∀ part ∈ parts, slotOpen ∉ part ∧ slotClose ∉ part)
    (inOrder : InOrder parts text) : InOrder parts (Textile.restoreCode fragments text) := by
  unfold Textile.restoreCode
  cases fragments with
  | nil => exact inOrder
  | cons fragment fragments => exact inOrder.fillSlots _ bracketed (unslotted (List.cons_ne_nil _ _))

end TopicWiki.Text.InOrder

namespace TopicWiki.Textile

open Text

def stretchesAfter (front : List Char) : List Piece → List (List Char)
  | [] => [front]
  | .literal text :: rest => stretchesAfter (front ++ text) rest
  | .phrase _ :: rest => front :: stretchesAfter [] rest

def codelessStretches (text : List Char) : List (List Char) :=
  stretchesAfter [] (pieces codeMarker text)

theorem inOrder_holdCode {parts : List (List Char)} {front : List Char} {pieces : List Piece}
    (index : Nat) (across : Across InOrder parts (stretchesAfter front pieces)) :
    InOrder parts (front ++ holdCode index pieces) := by
  induction pieces generalizing parts front index with
  | nil =>
    change Across InOrder parts [front] at across
    cases across with
    | cons standing none =>
      cases none
      exact standing.append (.nil (holdCode index []))
  | cons piece rest ih =>
    cases piece with
    | literal text =>
      have later := ih index across
      rw [List.append_assoc] at later
      exact later
    | phrase inner =>
      change Across InOrder parts (front :: stretchesAfter [] rest) at across
      cases across with
      | cons standing later => exact standing.append ((ih (index + 1) later).behind (slot index))

theorem mem_breakLines_of_mem {c : Char} {text : List Char} (member : c ∈ text) :
    c ∈ breakLines text := by
  by_cases feed : c = '\n'
  · exact List.mem_flatMap.mpr ⟨c, member, by simp [feed]⟩
  · exact List.mem_flatMap.mpr ⟨c, member, by simp [feed]⟩

theorem mem_of_mem_breakLines {c : Char} {text : List Char} (other : c ∉ breakTag)
    (member : c ∈ breakLines text) : c ∈ text := by
  obtain ⟨d, source, inside⟩ := List.mem_flatMap.mp member
  by_cases feed : d = '\n'
  · have whole : "<br />\n".toList = breakTag ++ ['\n'] := rfl
    rw [if_pos feed, whole, List.mem_append, List.mem_singleton] at inside
    rw [inside.resolve_left other, ← feed]
    exact source
  · rw [if_neg feed, List.mem_singleton] at inside
    rwa [inside]

/-- Tags of a text that stand outside its code spans, and hold none of the signs that stand for a
    code span. -/
structure OutsideCode (tags : List (List Char)) (text : List Char) : Prop where
  areTags : ∀ tag ∈ tags, IsTag tag
  outside : Across InOrder tags (codelessStretches text)
  unslotted : heldCode (pieces codeMarker text) ≠ [] →
    ∀ tag ∈ tags, slotOpen ∉ tag ∧ slotClose ∉ tag

namespace OutsideCode

variable {settings : Settings} {tags : List (List Char)} {text : List Char}

theorem bracketed (outside : OutsideCode tags text) : ∀ tag ∈ tags, '<' ∈ tag := by
  intro tag member
  obtain ⟨sign, rest, rfl, -⟩ := exists_of_startsTag (outside.areTags tag member).starts
  exact List.mem_cons_self ..

theorem held (outside : OutsideCode tags text) (settings : Settings) :
    InOrder tags (formatted settings (holdCode 0 (pieces codeMarker text))) :=
  (inOrder_holdCode 0 outside.outside).formatted settings outside.areTags

theorem inOrder_unbroken (outside : OutsideCode tags text) (unbroken : settings.lineBreaks = false) :
    InOrder tags (inline settings text) := by
  rw [inline_eq, unbroken]
  exact (outside.held settings).restoreCode outside.bracketed outside.unslotted

theorem inOrder_broken (outside : OutsideCode tags text) (broken : settings.lineBreaks = true) :
    InOrder (tags.map breakLines) (inline settings text) := by
  rw [inline_eq, broken]
  refine (outside.held settings).breakLines.restoreCode ?_ ?_
  · intro part member
    obtain ⟨tag, source, rfl⟩ := List.mem_map.mp member
    exact mem_breakLines_of_mem (outside.bracketed tag source)
  · intro coded part member
    obtain ⟨tag, source, rfl⟩ := List.mem_map.mp member
    obtain ⟨unopened, unclosed⟩ := outside.unslotted coded tag source
    exact ⟨fun inside => unopened (mem_of_mem_breakLines (by decide) inside),
      fun inside => unclosed (mem_of_mem_breakLines (by decide) inside)⟩

theorem inOrder_inline (outside : OutsideCode tags text)
    (lines : settings.lineBreaks = true → ∀ tag ∈ tags, '\n' ∉ tag) :
    InOrder tags (inline settings text) := by
  cases breaking : settings.lineBreaks with
  | false => exact outside.inOrder_unbroken breaking
  | true =>
    have same : tags.map breakLines = tags.map id :=
      List.map_congr_left fun tag member => breakLines_line (lines breaking tag member)
    have kept := outside.inOrder_broken breaking
    rwa [same, List.map_id] at kept

end OutsideCode

/-- The inline rules keep tags and their order. Only line breaks are put into a tag. -/
theorem inline_keeps_tags (settings : Settings) {text : List Char} {tags : List (List Char)}
    (outside : OutsideCode tags text) :
    InOrder (tags.map fun tag => if settings.lineBreaks then breakLines tag else tag)
        (inline settings text) ∧
      ((settings.lineBreaks = true → ∀ tag ∈ tags, '\n' ∉ tag) →
        InOrder tags (inline settings text)) := by
  refine ⟨?_, outside.inOrder_inline⟩
  cases breaking : settings.lineBreaks with
  | false =>
    simp only [Bool.false_eq_true, if_false, List.map_id']
    exact outside.inOrder_unbroken breaking
  | true =>
    simp only [if_true]
    exact outside.inOrder_broken breaking

/-- A line break is put into a tag, while the other rules leave it as it is. -/
example : inline {} "<img\nsrc>".toList = "<img<br />\nsrc>".toList := by
  cbv

def codeInTags : List Char :=
  "<b class=\"_c_\"> @<i>@ *d*</b>".toList

theorem codelessStretches_codeInTags :
    codelessStretches codeInTags = ["<b class=\"_c_\"> ".toList, " *d*</b>".toList] := by
  have found : cut? codeMarker.chars codeInTags =
      some ("<b class=\"_c_\"> ".toList, "<i>@ *d*</b>".toList) := rfl
  have opened : openPhrase? codeMarker ("<b class=\"_c_\"> ".toList.getLast?.or none)
      "<i>@ *d*</b>".toList = some ("<i>".toList, " *d*</b>".toList) := by
    cbv
  have absent : cut? codeMarker.chars " *d*</b>".toList = none := rfl
  unfold codelessStretches pieces
  rw [piecesAfter_of_opened found opened, piecesAfter_of_absent absent]
  rfl

theorem outsideCode_codeInTags :
    OutsideCode ["<b class=\"_c_\">".toList, "</b>".toList] codeInTags where
  areTags := by
    have opening : IsTag "<b class=\"_c_\">".toList :=
      ⟨rfl, "<b class=\"_c_\"".toList, rfl, by decide⟩
    have closing : IsTag "</b>".toList := ⟨rfl, "</b".toList, rfl, by decide⟩
    simp only [List.forall_mem_cons, opening, closing, List.not_mem_nil, false_implies, implies_true,
      and_self]
  outside := by
    rw [codelessStretches_codeInTags]
    have first : InOrder ["<b class=\"_c_\">".toList] "<b class=\"_c_\"> ".toList :=
      .cons [] (.nil " ".toList)
    have second : InOrder ["</b>".toList] " *d*</b>".toList := .cons " *d*".toList (.nil [])
    exact .cons first (.cons second .nil)
  unslotted := fun _ => by decide

theorem inline_keeps_tags_around_code :
    OutsideCode ["<b class=\"_c_\">".toList, "</b>".toList] codeInTags ∧
      InOrder ["<b class=\"_c_\">".toList, "</b>".toList] (inline {} codeInTags) :=
  ⟨outsideCode_codeInTags,
    (inline_keeps_tags {} outsideCode_codeInTags).2 fun _ => by decide⟩

end TopicWiki.Textile
