import TopicWiki.Textile.Listing
import TopicWiki.Textile.Table

namespace TopicWiki.Textile

def blockTags : List String :=
  ["address", "article", "aside", "blockquote", "dd", "details", "div", "dl", "dt", "fieldset",
    "figcaption", "figure", "footer", "form", "h1", "h2", "h3", "h4", "h5", "h6", "header", "hr",
    "iframe", "li", "main", "nav", "ol", "p", "pre", "script", "section", "style", "table", "tbody",
    "td", "tfoot", "th", "thead", "tr", "ul"]

def tagName? (text : List Char) : Option String :=
  match text with
  | '<' :: rest =>
    let rest := match rest with
      | '/' :: rest => rest
      | _ => rest
    match rest with
    | c :: _ =>
      if c.isAlpha then some (String.ofList ((rest.takeWhile Char.isAlphanum).map Char.toLower))
      else none
    | [] => none
  | _ => none

/-- A block of embedded markup starts with a comment or the tag of a block element. -/
def isMarkup (block : List Char) : Bool :=
  let text := Text.trimStart block
  "<!--".toList.isPrefixOf text || (tagName? text).any blockTags.contains

inductive Signature where
  | heading (level : Char)
  | paragraph
  | quote
  | code
  | preformatted
  | verbatim
  deriving DecidableEq, Repr

def signatureWords : List (String × Signature) :=
  [("h1", .heading '1'), ("h2", .heading '2'), ("h3", .heading '3'), ("h4", .heading '4'),
    ("h5", .heading '5'), ("h6", .heading '6'), ("p", .paragraph), ("bq", .quote), ("bc", .code),
    ("pre", .preformatted), ("notextile", .verbatim)]

structure Modifier where
  className : List Char := []
  id : List Char := []
  deriving DecidableEq, Repr

def Modifier.ofText (text : List Char) : Modifier :=
  let inner := Text.trim (Text.dropEndWhile (· == ')') (text.dropWhile (· == '(')))
  match Text.cut? ['#'] inner with
  | some (className, id) => ⟨Text.trim className, Text.trim id⟩
  | none => ⟨inner, []⟩

def Modifier.html (modifier : Modifier) : List Char :=
  let written (name : String) (value : List Char) : List Char :=
    if value.isEmpty then []
    else [' '] ++ name.toList ++ "=\"".toList ++ Text.escapeAttribute value ++ ['"']
  written "class" modifier.className ++ written "id" modifier.id

/-- The modifier in parentheses at the start of a text, on one line, and what follows it. -/
def cutModifier (text : List Char) : Modifier × List Char :=
  match text with
  | '(' :: inside =>
    let (body, rest) := spanWhile (fun c => c != ')' && c != '\n') inside
    match rest with
    | ')' :: after => (.ofText ('(' :: body ++ [')']), after)
    | _ => ({}, text)
  | _ => ({}, text)

structure Signed where
  signature : Signature
  modifier : Modifier
  content : List Char
  deriving DecidableEq, Repr

/-- A signed block starts with a signature word, an optional modifier, a full stop and a blank. -/
def Signed.ofBlock? (block : List Char) : Option Signed :=
  signatureWords.findSome? fun (word, signature) =>
    (word.toList.isPrefixOf? block).bind fun rest =>
      let (modifier, after) := cutModifier rest
      match after with
      | '.' :: c :: content =>
        if Text.isBlank c then some ⟨signature, modifier, content⟩ else none
      | _ => none

def Signed.html (settings : Settings) (block : Signed) : List Char :=
  let attributes := block.modifier.html
  let element (tag : List Char) (inner : List Char) : List Char :=
    ['<'] ++ tag ++ attributes ++ ['>'] ++ inner ++ ['<', '/'] ++ tag ++ ['>']
  match block.signature with
  | .heading level => element ['h', level] (inline settings block.content)
  | .paragraph => element ['p'] (inline settings block.content)
  | .quote =>
    element "blockquote".toList (['\n'] ++ wrap "p" (inline settings block.content) ++ ['\n'])
  | .code => element "pre".toList (wrap "code" (Text.escapeText block.content))
  | .preformatted => element "pre".toList (Text.escapeText block.content)
  | .verbatim => block.content

def blockHtml (settings : Settings) (block : List Char) : List Char :=
  if isMarkup block then block
  else
    match Signed.ofBlock? block with
    | some signed => signed.html settings
    | none =>
      match listItems? block with
      | some items => listHtml settings items
      | none =>
        match tableRows? block with
        | some rows => tableHtml settings rows
        | none => wrap "p" (inline settings block)

end TopicWiki.Textile
