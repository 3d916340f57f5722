import Mathlib
import TopicWiki.Proofs.Textile.EmbeddedMarkup
import TopicWiki.Wiki.Assembly

namespace TopicWiki.Markup

open Text

def TaggedPiece.written (convert : String → Id String) : TaggedPiece → List Char
  | .plain text => text
  | .body text => unwrapParagraph (trim (convert (String.ofList text)).toList)

theorem convertTagged_toList (convert : String → Id String) (tag text : String) :
    String.toList (convertTagged convert tag text) =
      (taggedPieces tag.toList text.toList).flatMap (TaggedPiece.written convert) := by
  have mapped : ∀ (f : TaggedPiece → Id (List Char)) (pieces : List TaggedPiece),
      pieces.mapM f = pieces.map f := by
    intro f pieces
    induction pieces with
    | nil => rfl
    | cons piece pieces ih =>
      rw [List.mapM_cons, ih]
      rfl
  unfold convertTagged
  rw [mapped, List.flatMap_def]
  refine String.toList_ofList.trans (congrArg List.flatten (List.map_congr_left ?_))
  intro piece _
  cases piece <;> rfl

theorem convertTagged_parted {tag text : String} {front back : List TaggedPiece} {body : List Char}
    (convert : String → Id String)
    (parted : taggedPieces tag.toList text.toList = front ++ .body body :: back) :
    String.toList (convertTagged convert tag text) =
      front.flatMap (TaggedPiece.written convert) ++ TaggedPiece.written convert (.body body) ++
        back.flatMap (TaggedPiece.written convert) := by
  rw [convertTagged_toList, parted, List.flatMap_append, List.flatMap_cons, List.append_assoc]

theorem infix_convertTagged (convert : String → Id String) {tag text : String}
    {piece part : List Char} (member : .plain piece ∈ taggedPieces tag.toList text.toList)
    (inside : part <:+: piece) : part <:+: String.toList (convertTagged convert tag text) := by
  obtain ⟨front, back, split⟩ := List.append_of_mem member
  rw [convertTagged_toList, split, List.flatMap_append, List.flatMap_cons, ← List.append_assoc]
  exact inside.trans ⟨_, _, rfl⟩

namespace Converters

variable {converters : Converters Id} {formatting : Textile.Settings} {f : Settings} {tag : String}

def staged (converters : Converters Id) (f : Settings) (text : String) : String :=
  convertTagged? converters.textile f.textileTag
    (convertTagged? converters.markdown f.markdownTag text)

theorem apply_toList (isTextile : converters.textile.convert = Textile.toHtml formatting)
    (primary : f.primary = .textile) (unstripped : f.stripBlanks = false) (text : String) :
    String.toList (converters.apply f text) =
      Textile.document formatting (converters.staged f text).toList := by
  have same : converters.apply f text = converters.textile.convert (converters.staged f text) := by
    unfold apply
    rw [primary, unstripped]
    rfl
  rw [same, isTextile]
  exact String.toList_ofList

theorem infix_apply_of_markup (isTextile : converters.textile.convert = Textile.toHtml formatting)
    (primary : f.primary = .textile) (unstripped : f.stripBlanks = false) {text : String}
    {block part : List Char} (member : block ∈ Textile.blocks (converters.staged f text).toList)
    (begins : Textile.BeginsWithMarkup block) (inside : part <:+: block) :
    part <:+: String.toList (converters.apply f text) := by
  have kept := List.mem_map_of_mem (f := Textile.blockHtml formatting) member
  rw [Textile.blockHtml_of_begins begins] at kept
  rw [apply_toList isTextile primary unstripped]
  exact inside.trans (Textile.infix_joinLines kept)

/-- Converted HTML is put in the place of its block. The stage of the whole document copies it where
    it is embedded markup, and keeps its tags where it stands in prose. -/
theorem apply_keeps_converted
    (isTextile : converters.textile.convert = Textile.toHtml formatting)
    (primary : f.primary = .textile) (marked : f.markdownTag = some tag)
    (unstripped : f.stripBlanks = false) (text : String) {front back : List TaggedPiece}
    {body before html after : List Char}
    (parted : taggedPieces tag.toList text.toList = front ++ .body body :: back)
    (beforeSame : front.flatMap (TaggedPiece.written converters.markdown.convert) = before)
    (htmlSame : TaggedPiece.written converters.markdown.convert (.body body) = html)
    (afterSame : back.flatMap (TaggedPiece.written converters.markdown.convert) = after) :
    (f.textileTag = none → (converters.staged f text).toList = before ++ html ++ after) ∧
      (∀ textileTag piece, f.textileTag = some textileTag →
        .plain piece ∈ taggedPieces textileTag.toList (before ++ html ++ after) → html <:+: piece →
        html <:+: (converters.staged f text).toList) ∧
      (∀ block ∈ Textile.blocks (converters.staged f text).toList, Textile.BeginsWithMarkup block →
        html <:+: block → html <:+: String.toList (converters.apply f text)) ∧
      (f.textileTag = none → Textile.EndsBlock before → Textile.BeginsWithMarkup html →
        html.getLast? = some '>' → '\r' ∉ html →
        (∀ line ∈ splitOnChar '\n' html, allBlank line = false) →
        html <:+: String.toList (converters.apply f text)) ∧
      ∀ tags, Across (Textile.StandIn formatting) tags
        (Textile.blocks (converters.staged f text).toList) →
        InOrder tags (String.toList (converters.apply f text)) := by
  have converted : String.toList (convertTagged converters.markdown.convert tag text) =
      before ++ html ++ after := by
    rw [convertTagged_parted _ parted, beforeSame, htmlSame, afterSame]
  have stands : f.textileTag = none →
      (converters.staged f text).toList = before ++ html ++ after := by
    intro untagged
    rw [staged, marked, untagged, ← converted]
    rfl
  refine ⟨stands, ?_, ?_, ?_, ?_⟩
  · intro textileTag piece tagged member inside
    rw [← converted] at member
    rw [staged, marked, tagged]
    exact infix_convertTagged _ member inside
  · intro block member begins inside
    exact infix_apply_of_markup isTextile primary unstripped member begins inside
  · intro untagged ends begins closed unreturned solid
    obtain ⟨block, member, rest, rfl⟩ := Textile.exists_block_append after unreturned solid
    have inBlocks := ends.mem_blocks member
    rw [← List.append_assoc, ← stands untagged] at inBlocks
    exact infix_apply_of_markup isTextile primary unstripped inBlocks (begins.append closed rest)
      (List.prefix_append html rest).isInfix
  · intro tags across
    rw [apply_toList isTextile primary unstripped]
    exact Textile.inOrder_document across

def markedTextile : Settings where
  primary := .textile
  markdownTag := some "md"
  stripBlanks := false

/-- The sign becomes a glyph in running text, though the Markdown block is converted to it. -/
theorem apply_formats_converted :
    taggedPieces "md".toList "<md>(c)</md>".toList = [.plain [], .body "(c)".toList, .plain []] ∧
      TaggedPiece.written (RendererConfig.converters {}).markdown.convert (.body "(c)".toList) =
        "(c)".toList ∧
      ¬ "(c)".toList <:+: String.toList
        ((RendererConfig.converters {}).apply markedTextile "<md>(c)</md>") := by
  have parted : taggedPieces "md".toList "<md>(c)</md>".toList =
      [.plain [], .body "(c)".toList, .plain []] := by
    cbv
  have paragraph : Markdown.toHtml .extra "(c)" = "<p>(c)</p>\n" := by
    cbv
  have html : TaggedPiece.written (RendererConfig.converters {}).markdown.convert
      (.body "(c)".toList) = "(c)".toList := by
    change unwrapParagraph (trim (Markdown.toHtml .extra "(c)").toList) = _
    rw [paragraph]
    decide
  have whole : taggedPieces "md".toList "<md>(c)</md>".toList =
      [.plain []] ++ .body "(c)".toList :: [.plain []] :=
    parted
  have staged : ((RendererConfig.converters {}).staged markedTextile "<md>(c)</md>").toList =
      "(c)".toList := by
    change String.toList (convertTagged (RendererConfig.converters {}).markdown.convert "md" _) = _
    have converted := convertTagged_parted (RendererConfig.converters {}).markdown.convert whole
    rw [converted, html]
    rfl
  have output : Textile.document {} "(c)".toList = "<p>&#169;</p>".toList := by
    cbv
  refine ⟨parted, html, ?_⟩
  have isTextile : (RendererConfig.converters {}).textile.convert = Textile.toHtml {} := rfl
  rw [apply_toList isTextile rfl rfl, staged, output, ← cut?_eq_none_iff]
  rfl

def headedText : String :=
  "*b*\n \n<md>\n# *a*\n\n(c)\n</md> d"

def headedBody : List Char :=
  "\n# *a*\n\n(c)\n".toList

def headedHtml : List Char :=
  "<h1><em>a</em></h1>\n<p>(c)</p>".toList

theorem apply_keeps_headed :
    taggedPieces "md".toList headedText.toList =
        [.plain "*b*\n \n".toList] ++ .body headedBody :: [.plain " d".toList] ∧
      TaggedPiece.written (RendererConfig.converters {}).markdown.convert (.body headedBody) =
        headedHtml ∧
      headedHtml <:+: String.toList ((RendererConfig.converters {}).apply markedTextile headedText) := by
  have parted : taggedPieces "md".toList headedText.toList =
      [.plain "*b*\n \n".toList] ++ .body headedBody :: [.plain " d".toList] := by
    cbv
  have converted : Markdown.toHtml .extra (String.ofList headedBody) =
      "<h1><em>a</em></h1>\n<p>(c)</p>\n" := by
    cbv
  have html : TaggedPiece.written (RendererConfig.converters {}).markdown.convert
      (.body headedBody) = headedHtml := by
    change unwrapParagraph (trim (Markdown.toHtml .extra (String.ofList headedBody)).toList) = _
    rw [converted]
    rfl
  have begins : Textile.BeginsWithMarkup headedHtml := by
    have ended : ∀ c ∈ "><em>a</em></h1>\n<p>(c)</p>".toList.head?, c.isAlphanum = false := by
      intro c first
      cases first
      rfl
    have known : String.ofList ("h1".toList.map Char.toLower) ∈ Textile.blockTags := by decide
    have blank : allBlank [] = true := rfl
    exact .tag blank (.inl rfl) known ended
  have unreturned : "*b*".toList.getLast? ≠ some '\r' := by decide
  have line : '\n' ∉ " ".toList := by decide
  have ends : Textile.EndsBlock "*b*\n \n".toList :=
    Textile.EndsBlock.blankLine unreturned line rfl
  have isTextile : (RendererConfig.converters {}).textile.convert = Textile.toHtml {} := rfl
  obtain ⟨-, -, -, kept, -⟩ := apply_keeps_converted (f := markedTextile) isTextile rfl rfl rfl
    headedText parted rfl html rfl
  exact ⟨parted, html, kept rfl ends begins rfl (by decide) (by decide)⟩

end Converters

end TopicWiki.Markup
