import TopicWiki.Proofs.Textile.AttributeValues
import TopicWiki.Proofs.Textile.Prose

namespace TopicWiki.Textile

open Text

/-- A value that ends neither its attribute nor its tag, and starts no other tag. -/
def Inert (value : List Char) : Prop :=
  '<' ∉ value ∧ '>' ∉ value ∧ '"' ∉ value

/-- Nothing but escaped text was put into a value: no code span, and no line break in the place of a
    line feed. -/
def OnlyEscaped (settings : Settings) (a : Attribute) (source : List Piece) : Prop :=
  (∀ inner, .phrase inner ∉ source) ∧
    (settings.lineBreaks = true → a.name = .alt → ∀ part, .literal part ∈ source → '\n' ∉ part)

section Values

variable {text : List Char}

theorem inert_flatMap_iff {α : Type} {f : α → List Char} {parts : List α} :
    Inert (parts.flatMap f) ↔ ∀ part ∈ parts, Inert (f part) := by
  constructor
  · rintro ⟨opening, closing, quote⟩ part member
    exact ⟨fun inside => opening (List.mem_flatMap_of_mem member inside),
      fun inside => closing (List.mem_flatMap_of_mem member inside),
      fun inside => quote (List.mem_flatMap_of_mem member inside)⟩
  · intro each
    have absent {c : Char} (here : ∀ part ∈ parts, c ∉ f part) : c ∉ parts.flatMap f := by
      intro inside
      obtain ⟨part, member, inPart⟩ := List.mem_flatMap.mp inside
      exact here part member inPart
    exact ⟨absent fun part member => (each part member).1,
      absent fun part member => (each part member).2.1,
      absent fun part member => (each part member).2.2⟩

theorem inert_escapeAttribute (text : List Char) : Inert (escapeAttribute text) :=
  ⟨not_mem_escapeAttribute (by decide) (by decide) text,
    not_mem_escapeAttribute (by decide) (by decide) text,
    not_mem_escapeAttribute (by decide) (by decide) text⟩

theorem inert_valueOf_iff {broken : Bool} :
    Inert (valueOf broken text) ↔ (broken = true → '\n' ∉ text) := by
  constructor
  · rintro inert rfl line
    have kept : '\n' ∈ escapeAttribute text := List.mem_flatMap.mpr ⟨'\n', line, by decide⟩
    exact inert.1 (List.mem_flatMap.mpr ⟨'\n', kept, by decide⟩)
  · intro line
    cases broken with
    | false => exact inert_escapeAttribute text
    | true =>
      rw [valueOf_unbroken (line rfl)]
      exact inert_escapeAttribute text

theorem not_inert_codeElement (inner : List Char) : ¬ Inert (codeElement inner) := by
  intro inert
  exact inert.1 (List.mem_append_left _ (List.mem_append_left _ (by decide)))

theorem Made.inert_iff {settings : Settings} {a : Attribute} {source : List Piece}
    (made : Made settings text a source) : Inert a.value ↔ OnlyEscaped settings a source := by
  rw [made.value, inert_flatMap_iff]
  constructor
  · intro each
    refine ⟨fun inner member => not_inert_codeElement inner (each _ member), ?_⟩
    intro breaking alternative part member
    exact inert_valueOf_iff.mp (each _ member) (by rw [breaking, alternative]; rfl)
  · rintro ⟨codeless, line⟩ part member
    cases part with
    | phrase inner => exact absurd member (codeless inner)
    | literal part =>
      refine inert_valueOf_iff.mpr fun broken => ?_
      rw [Bool.and_eq_true, beq_iff_eq] at broken
      exact line broken.1 broken.2 part member

end Values

section Blocks

variable {P : Attribute → Prop} {settings : Settings} {front back text rest : List Char}

theorem HtmlTag.exists_concat (tag : HtmlTag) : ∃ inside, tag.html = inside ++ ['>'] :=
  ⟨'<' :: (tag.name ++ (tag.attributes.flatMap Attribute.html ++ tag.ending)), by simp [html]⟩

theorem Tagged.of_append (tagged : Tagged P (front ++ back)) (unclosed : '>' ∉ back) :
    Tagged P front := by
  generalize whole : front ++ back = text at tagged
  induction tagged generalizing front with
  | run unbracketed =>
    rw [← whole] at unbracketed
    exact .run (unbracketed.of_subset (List.subset_append_left _ _))
  | @tag run rest tag unbracketed attributes later ih =>
    rw [← List.append_assoc] at whole
    rcases List.append_eq_append_iff.mp whole with ⟨middle, same, rfl⟩ | ⟨middle, rfl, same⟩
    · rcases List.eq_nil_or_concat middle with rfl | ⟨middle, last, rfl⟩
      · rw [List.append_nil] at same
        rw [← same]
        exact (Tagged.single tag attributes).behind unbracketed
      · -- The text would be cut inside of the tag, whose bracket is not left away.
        obtain ⟨inside, tagEnd⟩ := tag.exists_concat
        rw [tagEnd, List.concat_eq_append, ← List.append_assoc, ← List.append_assoc] at same
        obtain rfl := List.singleton_injective (List.append_inj' same rfl).2
        exact absurd (by simp) unclosed
    · rw [List.append_assoc]
      exact .tag tag unbracketed attributes (ih same.symm)

theorem Tagged.trimEnd (tagged : Tagged P text) : Tagged P (Text.trimEnd text) := by
  obtain ⟨blanks, same, blank⟩ := exists_blank_trimEnd text
  rw [same] at tagged
  refine tagged.of_append fun member => ?_
  exact absurd (List.all_eq_true.mp blank _ member) (by decide)

theorem Tagged.bare (name : List Char) (starts : name.head?.any isTagSign = true)
    (letters : name.all isTagLetter = true) (tagged : Tagged P rest) :
    Tagged P ('<' :: name ++ '>' :: rest) := by
  let tag : HtmlTag := ⟨name, [], [], starts, by rwa [List.append_nil]⟩
  have whole : '<' :: name ++ '>' :: rest = tag.html ++ rest := by simp [tag, HtmlTag.html]
  rw [whole]
  exact .of_tag tag (by simp [tag]) tagged

theorem ListKind.tag_letters (kind : ListKind) :
    kind.tag.head?.any isTagSign = true ∧ kind.tag.all isTagLetter = true := by
  cases kind <;> decide

theorem ListPart.tagged {part : ListPart}
    (item : ∀ text, part = .openItem text → Tagged P (inline settings text)) :
    Tagged P (part.written settings) := by
  have feed : Unbracketed ['\n'] := by decide
  have tab : Unbracketed ['\t'] := by decide
  cases part with
  | openList kind => exact .bare kind.tag kind.tag_letters.1 kind.tag_letters.2 .nil
  | openItem text => exact .bare "li".toList (by decide) (by decide) (item text rfl)
  | closeItem => exact .bare "/li".toList (by decide) (by decide) .nil
  | closeList kind => exact .bare ('/' :: kind.tag) rfl kind.tag_letters.2 .nil
  | lineFeed => exact .run feed
  | tab => exact .run tab

theorem listHtml_tagged {items : List ListItem}
    (each : ∀ item ∈ items, Tagged P (inline settings item.text)) :
    Tagged P (listHtml settings items) := by
  refine Tagged.trimEnd ?_
  rw [listFrom_eq_written]
  refine .flatMap fun part member => ListPart.tagged ?_
  rintro text rfl
  have listed : text ∈ itemTexts (listParts [] items) :=
    List.mem_filterMap.mpr ⟨_, member, rfl⟩
  rw [itemTexts_listParts] at listed
  obtain ⟨item, inItems, rfl⟩ := List.mem_map.mp listed
  exact each item inItems

theorem Cell.tagged {cell : Cell} (inside : Tagged P (inline settings cell.text)) :
    Tagged P (cell.html settings) := by
  have tabs : Unbracketed "\t\t".toList := by decide
  have feed : Unbracketed ['\n'] := by decide
  have element : Tagged P
      (wrap (if cell.isHeader then "th" else "td") (inline settings cell.text)) := by
    split
    · exact inside.wrap _ (by decide) (by decide)
    · exact inside.wrap _ (by decide) (by decide)
  exact (element.behind tabs).append (.run feed)

theorem tableHtml_tagged {rows : List (List Cell)}
    (each : ∀ cell ∈ rows.flatten, Tagged P (inline settings cell.text)) :
    Tagged P (tableHtml settings rows) := by
  have tab : Unbracketed ['\t'] := by decide
  have feed : Tagged P ['\n'] := .run (by decide)
  have rowStart : Tagged P "\t<tr>\n".toList :=
    .behind tab (.bare "tr".toList (by decide) (by decide) feed)
  have rowEnd : Tagged P "\t</tr>\n".toList :=
    .behind tab (.bare "/tr".toList (by decide) (by decide) feed)
  have start : Tagged P "<table>\n".toList := .bare "table".toList (by decide) (by decide) feed
  have stop : Tagged P "</table>".toList := .bare "/table".toList (by decide) (by decide) .nil
  refine (start.append (.flatMap fun row listed => ?_)).append stop
  refine (rowStart.append (.flatMap fun cell inRow => ?_)).append rowEnd
  exact Cell.tagged (each cell (List.mem_flatten.mpr ⟨row, listed, inRow⟩))

end Blocks

def Modifier.attributes (modifier : Modifier) : List Attribute :=
  let written (name : AttributeName) (value : List Char) : List Attribute :=
    if value.isEmpty then [] else [⟨name, escapeAttribute value⟩]
  written .className modifier.className ++ written .id modifier.id

theorem Modifier.attributes_html (modifier : Modifier) :
    modifier.attributes.flatMap Attribute.html = modifier.html := by
  simp only [attributes, html, List.flatMap_append]
  congr 1
  · split
    · rfl
    · exact List.flatMap_singleton ..
  · split
    · rfl
    · exact List.flatMap_singleton ..

structure Clean (text : List Char) : Prop where
  unbracketed : Unbracketed text
  unopened : slotOpen ∉ text
  unclosed : slotClose ∉ text

section Clean

variable {settings : Settings} {text part block : List Char}

theorem Modifier.attributes_written (modifier : Modifier) (settings : Settings) (text : List Char) :
    ∀ a ∈ modifier.attributes, Written settings text a := by
  have written {name : AttributeName} (block : name.isInline = false) (value : List Char) :
      ∀ a ∈ (if value.isEmpty then [] else [⟨name, escapeAttribute value⟩] : List Attribute),
        Written settings text a := by
    intro a member
    split at member
    · cases member
    · obtain rfl := List.mem_singleton.mp member
      have other : (name == .alt) = false := by
        cases name <;> first | rfl | cases block
      refine ⟨[.literal value], ?_, by simp, by simp⟩
      rw [other, Bool.and_false, List.flatMap_singleton]
      rfl
  intro a member
  rcases List.mem_append.mp member with member | member
  · exact written rfl _ a member
  · exact written rfl _ a member

theorem Modifier.element_tagged (modifier : Modifier) {name inner : List Char}
    (starts : name.head?.any isTagSign = true) (letters : name.all isTagLetter = true)
    (tagged : Tagged (Written settings text) inner) :
    Tagged (Written settings text)
      (['<'] ++ name ++ modifier.html ++ ['>'] ++ inner ++ ['<', '/'] ++ name ++ ['>']) := by
  rw [← modifier.attributes_html]
  exact tagged.element _ starts letters (modifier.attributes_written settings text)

theorem isTagLetter_of_heading {word : String} {level : Char}
    (listed : (word, Signature.heading level) ∈ signatureWords) : isTagLetter level = true := by
  simp only [signatureWords, List.mem_cons, Prod.mk.injEq, Signature.heading.injEq, reduceCtorEq,
    and_false, List.not_mem_nil, or_false] at listed
  rcases listed with ⟨-, rfl⟩ | ⟨-, rfl⟩ | ⟨-, rfl⟩ | ⟨-, rfl⟩ | ⟨-, rfl⟩ | ⟨-, rfl⟩ <;> decide

theorem Signed.tagged {signed : Signed} {word : String}
    (listed : (word, signed.signature) ∈ signatureWords) (unbracketed : Unbracketed signed.content)
    (inside : Tagged (Written settings text) (inline settings signed.content)) :
    Tagged (Written settings text) (signed.html settings) := by
  obtain ⟨signature, modifier, content⟩ := signed
  have escaped : Tagged (Written settings text) (escapeText content) :=
    .run (unbracketed_escapeText content)
  cases signature with
  | heading level =>
    refine modifier.element_tagged rfl ?_ inside
    rw [List.all_cons, List.all_cons, isTagLetter_of_heading listed]
    rfl
  | paragraph => exact modifier.element_tagged (by decide) (by decide) inside
  | quote =>
    have feed : Tagged (Written settings text) ['\n'] := .run (by decide)
    have paragraph := (feed.append (inside.wrap "p" (by decide) (by decide))).append feed
    exact modifier.element_tagged (by decide) (by decide) paragraph
  | code =>
    have code := escaped.wrap "code" (by decide) (by decide)
    exact modifier.element_tagged (by decide) (by decide) code
  | preformatted => exact modifier.element_tagged (by decide) (by decide) escaped
  | verbatim => exact .run unbracketed

theorem Clean.within (clean : Clean text) (inside : ∀ c ∈ part, c ≠ '\n' → c ∈ text) :
    Clean part where
  unbracketed := ⟨fun member => clean.unbracketed.1 (inside _ member (by decide)),
    fun member => clean.unbracketed.2 (inside _ member (by decide))⟩
  unopened member := clean.unopened (inside _ member (by decide))
  unclosed member := clean.unclosed (inside _ member (by decide))

theorem inline_tagged_within (settings : Settings) (clean : Clean text)
    (inside : ∀ c ∈ part, c ≠ '\n' → c ∈ text) :
    Tagged (Written settings text) (inline settings part) := by
  obtain ⟨unbracketed, unopened, unclosed⟩ := clean.within inside
  refine (inline_tagged settings unbracketed unopened unclosed).mono ?_
  rintro a ⟨source, made⟩
  exact ⟨source, made.value, made.inline, fun inner listed =>
    inside '@' (made.spans inner listed) (by decide)⟩

theorem opening_mem_of_isMarkup (isMarkup : isMarkup block = true) : '<' ∈ block := by
  have behind : '<' ∈ trimStart block := by
    unfold Textile.isMarkup at isMarkup
    rw [Bool.or_eq_true] at isMarkup
    rcases isMarkup with comment | tag
    · exact (List.isPrefixOf_iff_prefix.mp comment).subset (by decide)
    · unfold tagName? at tag
      split at tag
      · rename_i same
        rw [same]
        exact List.mem_cons_self
      · cases tag
  exact (trimStart_suffix block).subset behind

theorem blockHtml_tagged (settings : Settings) (clean : Clean text)
    (within : ∀ c ∈ block, c ≠ '\n' → c ∈ text) :
    Tagged (Written settings text) (blockHtml settings block) := by
  have inside {part : List Char} (subset : part ⊆ block) :
      Tagged (Written settings text) (inline settings part) :=
    inline_tagged_within settings clean fun c member => within c (subset member)
  have each : ∀ part ∈ prose block, Tagged (Written settings text) (inline settings part) :=
    fun part member => inside (subset_of_mem_prose member)
  have unbracketed := (clean.within within).unbracketed
  have other : isMarkup block = false := by
    rw [Bool.eq_false_iff]
    exact fun isMarkup => unbracketed.1 (opening_mem_of_isMarkup isMarkup)
  simp only [blockHtml, other, Bool.false_eq_true, if_false]
  unfold prose at each
  cases signing : Signed.ofBlock? block with
  | some signed =>
    obtain ⟨⟨word, listed⟩, content⟩ := Signed.ofBlock?_eq_some signing
    exact signed.tagged listed (unbracketed.of_infix content.isInfix) (inside content.subset)
  | none =>
    rw [signing] at each
    cases listing : listItems? block with
    | some items =>
      rw [listing] at each
      exact listHtml_tagged fun item member => each _ (List.mem_map_of_mem member)
    | none =>
      rw [listing] at each
      cases tabling : tableRows? block with
      | some rows =>
        rw [tabling] at each
        exact tableHtml_tagged fun cell member => each _ (List.mem_map_of_mem member)
      | none => exact (inside (List.Subset.refl block)).wrap "p" (by decide) (by decide)

theorem Tagged.joinLines {P : Attribute → Prop} {parts : List (List Char)}
    (each : ∀ part ∈ parts, Tagged P part) : Tagged P (Text.joinLines parts) := by
  have feed : Unbracketed ['\n'] := by decide
  induction parts with
  | nil => exact .nil
  | cons part parts ih =>
    obtain ⟨here, later⟩ := List.forall_mem_cons.mp each
    by_cases last : parts = []
    · rw [last, joinLines_singleton]
      exact here
    · rw [joinLines_cons part last]
      exact here.append ((ih later).behind feed)

theorem document_tagged (settings : Settings) (clean : Clean text) :
    Tagged (Written settings text) (document settings text) := by
  refine .joinLines fun part member => ?_
  obtain ⟨block, listed, rfl⟩ := List.mem_map.mp member
  exact blockHtml_tagged settings clean fun c inside other => mem_of_mem_blocks listed inside other

end Clean

/-- Every angle bracket of the output belongs to a tag or stands in the value of an attribute. The
    values of blocks are inert. Those of links and images are inert exactly where nothing but
    escaped text was put into them: code spans and line breaks are put into values that are escaped
    already. -/
theorem attributes_inert_iff (settings : Settings) {text : String} (clean : Clean text.toList) :
    Tagged (fun a =>
        (a.name.isInline = false → Inert a.value) ∧
        ∃ source : List Piece, Made settings text.toList a source ∧
          (Inert a.value ↔ OnlyEscaped settings a source))
      (toHtml settings text).toList ∧
    (settings.lineBreaks = false → '@' ∉ text.toList →
      Tagged (fun a => Inert a.value) (toHtml settings text).toList) := by
  have tagged := document_tagged settings clean
  rw [toHtml, String.toList_ofList]
  constructor
  · refine tagged.mono ?_
    rintro a ⟨source, made⟩
    refine ⟨fun block => made.inert_iff.mpr ⟨made.inline block, ?_⟩, source, made, made.inert_iff⟩
    intro _ alternative
    rw [alternative] at block
    cases block
  · intro unbroken unmarked
    refine tagged.mono ?_
    rintro a ⟨source, made⟩
    refine made.inert_iff.mpr ⟨fun inner listed => unmarked (made.spans inner listed), ?_⟩
    intro breaking
    rw [unbroken] at breaking
    cases breaking

theorem attributes_inert_around_quotes :
    Clean "p(a\"b#c). \"x (y & z)\":/u !v(d\"\ne)!".toList ∧
      '@' ∉ "p(a\"b#c). \"x (y & z)\":/u !v(d\"\ne)!".toList ∧
      toHtml { lineBreaks := false } "p(a\"b#c). \"x (y & z)\":/u !v(d\"\ne)!" =
        "<p class=\"a&quot;b\" id=\"c\"><a href=\"/u\" title=\"y &amp; z\">x</a> " ++
          "<img src=\"v\" alt=\"d&quot;\ne\" /></p>" ∧
      Tagged (fun a => Inert a.value)
        (toHtml { lineBreaks := false } "p(a\"b#c). \"x (y & z)\":/u !v(d\"\ne)!").toList := by
  have clean : Clean "p(a\"b#c). \"x (y & z)\":/u !v(d\"\ne)!".toList :=
    ⟨by decide, by decide, by decide⟩
  have unmarked : '@' ∉ "p(a\"b#c). \"x (y & z)\":/u !v(d\"\ne)!".toList := by decide
  exact ⟨clean, unmarked, by decide +kernel,
    (attributes_inert_iff { lineBreaks := false } clean).2 rfl unmarked⟩

/-- The quote in a code span ends the title it was put into, and a class follows that nothing was
    given. The line feed of an alternative text is made a tag. -/
theorem values_with_code_or_breaks_not_inert :
    (Clean "\"a (@\" class=\"b@)\":/u".toList ∧
      toHtml {} "\"a (@\" class=\"b@)\":/u" =
        "<p><a href=\"/u\" title=\"<code>\" class=\"b</code>\">a</a></p>" ∧
      ¬ Inert "<code>\" class=\"b</code>".toList) ∧
    Clean "!a(b\nc)!".toList ∧
      toHtml {} "!a(b\nc)!" = "<p><img src=\"a\" alt=\"b<br />\nc\" /></p>" ∧
      ¬ Inert "b<br />\nc".toList := by
  have code : ¬ Inert "<code>\" class=\"b</code>".toList := fun inert =>
    absurd inert.1 (by decide)
  have feed : ¬ Inert "b<br />\nc".toList := fun inert => absurd inert.1 (by decide)
  exact ⟨⟨⟨by decide, by decide, by decide⟩, by decide +kernel, code⟩,
    ⟨by decide, by decide, by decide⟩, by decide +kernel, feed⟩

end TopicWiki.Textile
