import TopicWiki.Markdown.Inline
import TopicWiki.Text.Entity

namespace TopicWiki.Markdown

/-- What is being written, in reverse, and the footnotes met so far, which number them. -/
structure Page where
  written : List Char := []
  notes : List (List Char) := []

namespace Page

def add (text : List Char) (p : Page) : Page :=
  { p with written := text.reverse ++ p.written }

def addString (text : String) (p : Page) : Page :=
  p.add text.toList

def freshLine (p : Page) : Page :=
  match p.written with
  | [] | '\n' :: _ => p
  | _ => { p with written := '\n' :: p.written }

def numberNote (label : List Char) (p : Page) : Nat × Page :=
  match p.notes.findIdx? (· == label) with
  | some index => (index + 1, p)
  | none => (p.notes.length + 1, { p with notes := p.notes ++ [label] })

end Page

def isHrefSafe (c : Char) : Bool :=
  c.isAlphanum || "!#$%()*+,-./:;=?@_~".toList.contains c

def percentByte (byte : UInt8) : List Char :=
  ['%', Nat.digitChar (byte.toNat / 16), Nat.digitChar (byte.toNat % 16)].map Char.toUpper

def escapeHref (address : List Char) : List Char :=
  address.flatMap fun c =>
    if isHrefSafe c then [c]
    else if c == '&' then "&amp;".toList
    else if c == '\'' then "&#x27;".toList
    else (String.singleton c).toUTF8.toList.flatMap percentByte

def titleAttribute (title : List Char) : List Char :=
  if title.isEmpty then [] else " title=\"".toList ++ Text.escapeAttribute title ++ ['"']

mutual
def describe : Inline → Page → Page
  | .text content, p | .code content, p | .markup content, p =>
    p.add (Text.escapeAttribute content)
  | .softBreak, p | .hardBreak, p => p.addString " "
  | .emphasis content, p | .strong content, p | .struck content, p => describeAll content p
  | .link _ content, p | .image _ content, p => describeAll content p
  | .footnote label, p =>
    let (number, p) := p.numberNote label
    p.addString ("[" ++ toString number ++ "]")

def describeAll : List Inline → Page → Page
  | [], p => p
  | node :: rest, p => describeAll rest (describe node p)
end

mutual
def writeInline : Inline → Page → Page
  | .text content, p => p.add (Text.escapeText content)
  | .code content, p =>
    ((p.addString "<code>").add (Text.escapeText content)).addString "</code>"
  | .markup content, p => p.add content
  | .softBreak, p => p.addString "\n"
  | .hardBreak, p => p.addString "<br />\n"
  | .emphasis content, p => (writeInlines content (p.addString "<em>")).addString "</em>"
  | .strong content, p => (writeInlines content (p.addString "<strong>")).addString "</strong>"
  | .struck content, p => (writeInlines content (p.addString "<del>")).addString "</del>"
  | .link target content, p =>
    let opened := p.add ("<a href=\"".toList ++ escapeHref target.address ++ ['"'] ++
      titleAttribute target.title ++ ['>'])
    (writeInlines content opened).addString "</a>"
  | .image target content, p =>
    let opened := p.add ("<img src=\"".toList ++ escapeHref target.address ++ "\" alt=\"".toList)
    (describeAll content opened).add (['"'] ++ titleAttribute target.title ++ " />".toList)
  | .footnote label, p =>
    let (number, p) := p.numberNote label
    p.add ("<sup class=\"footnote-reference\"><a href=\"#".toList ++ Text.escapeAttribute label ++
      "\">".toList ++ (toString number).toList ++ "</a></sup>".toList)

def writeInlines : List Inline → Page → Page
  | [], p => p
  | node :: rest, p => writeInlines rest (writeInline node p)
end

def headingAttributes (a : HeadingAttributes) : List Char :=
  let write (key value : List Char) : List Char :=
    ' ' :: Text.escapeAttribute key ++ "=\"".toList ++ Text.escapeAttribute value ++ ['"']
  let id := (a.id?.map (write "id".toList)).getD []
  let classes := if a.classes.isEmpty then []
    else write "class".toList (List.intercalate [' '] a.classes)
  id ++ classes ++ a.others.flatMap fun (key, value) => write key value

def alignmentAttribute : Alignment → String
  | .none => ""
  | .left => " style=\"text-align: left\""
  | .center => " style=\"text-align: center\""
  | .right => " style=\"text-align: right\""

section

variable (r : Reading)

def writeText (text : List Char) (p : Page) : Page :=
  writeInlines (readInlines r text) p

def writeCells (name : String) : List Alignment → List (List Char) → Page → Page
  | alignment :: alignments, cell :: cells, p =>
    let opened := p.addString ("<" ++ name ++ alignmentAttribute alignment ++ ">")
    writeCells name alignments cells ((writeText r cell opened).addString ("</" ++ name ++ ">"))
  | _, _, p => p

def taskBox (checked : Bool) : String :=
  if checked then "<input disabled=\"\" type=\"checkbox\" checked=\"\"/>\n"
  else "<input disabled=\"\" type=\"checkbox\"/>\n"

def writeParagraph (task? : Option Bool) (text : List Char) (p : Page) : Page :=
  writeText r text (match task? with
    | some checked => p.addString (taskBox checked)
    | none => p)

mutual
/-- Writes a block. The paragraphs of a tight list have no element of their own. -/
def writeBlock (tight : Bool) : Block → Page → Page
  | .paragraph task? text, p =>
    if tight then writeParagraph r task? text p
    else (writeParagraph r task? text (p.freshLine.addString "<p>")).addString "</p>\n"
  | .heading level attributes text, p =>
    let name := "h" ++ toString level
    let opened := ((p.freshLine.addString ("<" ++ name)).add
      (headingAttributes attributes)).addString ">"
    (writeText r text opened).addString ("</" ++ name ++ ">\n")
  | .rule, p => p.freshLine.addString "<hr />\n"
  | .code info? text, p =>
    let language := ((info?.getD []).takeWhile (· != ' '))
    let opening :=
      if language.isEmpty then "<pre><code>".toList
      else "<pre><code class=\"language-".toList ++ Text.escapeAttribute language ++ "\">".toList
    ((p.freshLine.add opening).add (Text.escapeText text)).addString "</code></pre>\n"
  | .markup text, p => p.add text
  | .quote content, p =>
    (writeBlocks false content (p.freshLine.addString "<blockquote>\n")).addString "</blockquote>\n"
  | .list start? tight items, p =>
    let opening := match start? with
      | none => "<ul>\n"
      | some 1 => "<ol>\n"
      | some n => "<ol start=\"" ++ toString n ++ "\">\n"
    (writeItems tight items (p.freshLine.addString opening)).addString
      (if start?.isSome then "</ol>\n" else "</ul>\n")
  | .table alignments head rows, p =>
    let headed := writeCells r "th" alignments head (p.addString "<table><thead><tr>")
    let written := rows.foldl
      (fun p row => (writeCells r "td" alignments row (p.addString "<tr>")).addString "</tr>\n")
      (headed.addString "</tr></thead><tbody>\n")
    written.addString "</tbody></table>\n"
  | .footnote label content, p =>
    let opened := p.freshLine.add ("<div class=\"footnote-definition\" id=\"".toList ++
      Text.escapeAttribute label ++ "\"><sup class=\"footnote-definition-label\">".toList)
    let (number, p) := opened.numberNote label
    (writeBlocks false content (p.addString (toString number ++ "</sup>"))).addString "</div>\n"

def writeBlocks (tight : Bool) : List Block → Page → Page
  | [], p => p
  | block :: rest, p => writeBlocks tight rest (writeBlock tight block p)

def writeItems (tight : Bool) : List (List Block) → Page → Page
  | [], p => p
  | item :: rest, p =>
    writeItems tight rest
      ((writeBlocks tight item (p.freshLine.addString "<li>")).addString "</li>\n")
end

end

end TopicWiki.Markdown
