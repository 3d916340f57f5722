import TopicWiki.Text.Blank
import TopicWiki.Text.Digit
import TopicWiki.Text.Occurrence

namespace TopicWiki.Markdown.Tag

def isSpace (c : Char) : Bool :=
  c == ' ' || c == '\t' || c == '\n'

def isNameChar (c : Char) : Bool :=
  c.isAlphanum || c == '-'

def afterName? : List Char → Option (List Char)
  | c :: rest => if c.isAlpha then some (rest.dropWhile isNameChar) else none
  | [] => none

def isKeyStart (c : Char) : Bool :=
  c.isAlpha || c == '_' || c == ':'

def isKeyChar (c : Char) : Bool :=
  c.isAlphanum || ['_', '.', ':', '-'].contains c

def isBareValue (c : Char) : Bool :=
  !(isSpace c || ['"', '\'', '=', '<', '>', Char.ofNat 96].contains c)

def afterValue? (text : List Char) : Option (List Char) :=
  match text with
  | '"' :: rest => (Text.cut? ['"'] rest).map Prod.snd
  | '\'' :: rest => (Text.cut? ['\''] rest).map Prod.snd
  | _ =>
    let rest := text.dropWhile isBareValue
    if rest.length < text.length then some rest else none

def afterAttribute? : List Char → Option (List Char)
  | c :: rest =>
    if isKeyStart c then
      let rest := rest.dropWhile isKeyChar
      match rest.dropWhile isSpace with
      | '=' :: value => afterValue? (value.dropWhile isSpace)
      | _ => some rest
    else none
  | [] => none

def afterAttributes : (most : Nat) → List Char → List Char
  | 0, text => text
  | most + 1, text =>
    let trimmed := text.dropWhile isSpace
    if trimmed.length < text.length then
      match afterAttribute? trimmed with
      | some rest => afterAttributes most rest
      | none => text
    else text

def afterOpening? (text : List Char) : Option (List Char) := do
  let rest ← afterName? text
  match (afterAttributes rest.length rest).dropWhile isSpace with
  | '/' :: '>' :: rest => some rest
  | '>' :: rest => some rest
  | _ => none

def afterClosing? (text : List Char) : Option (List Char) := do
  let rest ← afterName? text
  match rest.dropWhile isSpace with
  | '>' :: rest => some rest
  | _ => none

def after? : List Char → Option (List Char)
  | '<' :: '!' :: '-' :: '-' :: '>' :: rest => some rest
  | '<' :: '!' :: '-' :: '-' :: '-' :: '>' :: rest => some rest
  | '<' :: '!' :: '-' :: '-' :: rest => (Text.cut? "-->".toList rest).map Prod.snd
  | '<' :: '?' :: rest => (Text.cut? "?>".toList rest).map Prod.snd
  | '<' :: '!' :: '[' :: 'C' :: 'D' :: 'A' :: 'T' :: 'A' :: '[' :: rest =>
    (Text.cut? "]]>".toList rest).map Prod.snd
  | '<' :: '!' :: c :: rest =>
    if c.isAlpha then (Text.cut? ['>'] rest).map Prod.snd else none
  | '<' :: '/' :: rest => afterClosing? rest
  | '<' :: rest => afterOpening? rest
  | _ => none

def length? (text : List Char) : Option Nat :=
  (after? text).map fun rest => text.length - rest.length

def verbatimNames : List String :=
  ["script", "pre", "style", "textarea"]

def blockNames : List String :=
  ["address", "article", "aside", "base", "basefont", "blockquote", "body", "caption", "center",
    "col", "colgroup", "dd", "details", "dialog", "dir", "div", "dl", "dt", "fieldset",
    "figcaption", "figure", "footer", "form", "frame", "frameset", "h1", "h2", "h3", "h4", "h5",
    "h6", "head", "header", "hr", "html", "iframe", "legend", "li", "link", "main", "menu",
    "menuitem", "nav", "noframes", "ol", "optgroup", "option", "p", "param", "search", "section",
    "summary", "table", "tbody", "td", "tfoot", "th", "thead", "title", "tr", "track", "ul"]

/-- How a block of markup ends: with a line that holds a text, or before a blank line. -/
inductive BlockEnd where
  | holding (text : String)
  | blankLine
  deriving DecidableEq, Repr

def startsWith (pattern : String) (text : List Char) : Bool :=
  pattern.toList.isPrefixOf text

def splitName (text : List Char) : String × List Char :=
  (String.ofList (Text.lower (text.takeWhile isNameChar)), text.dropWhile isNameChar)

def endsName : List Char → Bool
  | [] => true
  | c :: _ => isSpace c || c == '>'

def isAlone (text : List Char) : Bool :=
  match text with
  | '<' :: '/' :: rest => (afterClosing? rest).any fun rest => rest.all isSpace
  | '<' :: rest => (afterOpening? rest).any fun rest => rest.all isSpace
  | _ => false

/-- How the block ends that a line starts, if it starts a block of markup. A tag of another kind
    that is alone on its line does not end a paragraph. -/
def blockEnd? (inParagraph : Bool) (text : List Char) : Option BlockEnd :=
  match text with
  | '<' :: rest =>
    let (name, tail) := splitName rest
    let (closedName, closedTail) := splitName (rest.drop 1)
    let closing := rest.head? = some '/'
    if verbatimNames.contains name ∧ endsName tail then some (.holding ("</" ++ name ++ ">"))
    else if startsWith "!--" rest then some (.holding "-->")
    else if startsWith "?" rest then some (.holding "?>")
    else if startsWith "![CDATA[" rest then some (.holding "]]>")
    else if rest.head? = some '!' ∧ (rest.drop 1).head?.any Char.isAlpha then some (.holding ">")
    else if blockNames.contains name ∧ (endsName tail ∨ startsWith "/>" tail) then some .blankLine
    else if closing ∧ blockNames.contains closedName ∧
        (endsName closedTail ∨ startsWith "/>" closedTail) then
      some .blankLine
    else if !inParagraph ∧ isAlone text then some .blankLine
    else none
  | _ => none

def BlockEnd.isReached (e : BlockEnd) (text : List Char) : Bool :=
  match e with
  | .holding expected => Text.contains expected.toList text
  | .blankLine => false

end TopicWiki.Markdown.Tag
