import TopicWiki.Template.Literal
import TopicWiki.Template.Statement

namespace TopicWiki.Template

inductive Token where
  | text (source : String)
  | openPrint
  | closePrint
  | openBlock
  | closeBlock
  | name (name : String)
  | string (value : String)
  | number (value : Number)
  | symbol (sign : String)
  | broken (error : Malformed)
  deriving BEq, Repr

inductive TagKind where
  | print
  | block
  | comment
  deriving DecidableEq, Repr

def tagKind? : Char → Option TagKind
  | '\x7b' => some .print
  | '%' => some .block
  | '#' => some .comment
  | _ => none

def cutTagStart? : List Char → Option (List Char × TagKind × List Char)
  | [] => none
  | c :: rest =>
    let later := (cutTagStart? rest).map fun (before, kind, after) => (c :: before, kind, after)
    match c, rest with
    | '\x7b', d :: after =>
      match tagKind? d with
      | some kind => some ([], kind, after)
      | none => later
    | _, _ => later

inductive TrimMark where
  | unmarked
  | keep
  | remove
  deriving DecidableEq, Repr

def cutTrimMark : List Char → TrimMark × List Char
  | '-' :: rest => (.remove, rest)
  | '+' :: rest => (.keep, rest)
  | text => (.unmarked, text)

def isAsciiSpace (c : Char) : Bool :=
  c == ' ' || c == '\t' || c == '\n' || c == '\r' || c == '\x0c'

def skipSpaces (text : List Char) : List Char :=
  text.dropWhile isAsciiSpace

def cutClose? (delimiter text : List Char) : Option (TrimMark × List Char) :=
  let (mark, rest) := cutTrimMark text
  (delimiter.isPrefixOf? rest).map fun rest => (mark, rest)

def cutWordTag? (word : String) (text : List Char) : Option (TrimMark × List Char) := do
  let rest ← word.toList.isPrefixOf? (skipSpaces text)
  cutClose? statementClose (skipSpaces rest)

/-- The text up to the tag that ends a verbatim block, that tag's two trim marks, and the text
    behind it. -/
def cutVerbatim? : List Char → Option (List Char × TrimMark × TrimMark × List Char)
  | [] => none
  | c :: rest =>
    let later := (cutVerbatim? rest).map fun (inside, before, after, tail) =>
      (c :: inside, before, after, tail)
    match statementOpen.isPrefixOf? (c :: rest) with
    | none => later
    | some opened =>
      let (before, opened) := cutTrimMark opened
      match cutWordTag? "endraw" opened with
      | some (after, tail) => some ([], before, after, tail)
      | none => later

def twoCharSymbols : List String :=
  ["//", "**", "==", "!=", ">=", "<="]

def oneCharSymbols : List Char :=
  ['+', '-', '*', '/', '%', '.', ',', ':', '~', '|', '=', '>', '<', '(', ')', '[', ']', '\x7b',
    '\x7d']

def bracketChange (c : Char) : Int :=
  if c = '(' ∨ c = '[' ∨ c = '\x7b' then 1
  else if c = ')' ∨ c = ']' ∨ c = '\x7d' then -1
  else 0

def readInside (index : Bool) (text : List Char) : Except Malformed (Token × Int × List Char) :=
  match twoCharSymbols.findSome? fun s => (s.toList.isPrefixOf? text).map fun rest => (s, rest) with
  | some (s, rest) => .ok (.symbol s, 0, rest)
  | none =>
    match text with
    | [] => .error .grammar
    | c :: rest =>
      if oneCharSymbols.contains c then
        .ok (.symbol (String.singleton c), bracketChange c, rest)
      else if c = '"' ∨ c = '\'' then do
        let (value, rest) ← readString c rest
        return (.string value, 0, rest)
      else if c.isDigit then do
        let (number, rest) ← Number.read index text
        return (.number number, 0, rest)
      else if isNameStart c then
        .ok (.name (String.ofList (text.takeWhile isNameChar)), 0, text.dropWhile isNameChar)
      else .error .grammar

/-- The tokens of a tag, and, if it is closed, the trim mark there and the text behind it. A
    delimiter inside brackets does not close the tag, and a number behind a point is an index. Each
    token takes a character, so `steps` need not exceed the length of the text. -/
def lexTag (closing : List Char) (close : Token) (steps : Nat) (index : Bool) (balance : Int)
    (text : List Char) : List Token × Option (TrimMark × List Char) :=
  match steps, skipSpaces text with
  | 0, _ | _, [] => ([], none)
  | steps + 1, text =>
    match if balance = 0 then cutClose? closing text else none with
    | some (mark, rest) => ([close], some (mark, rest))
    | none =>
      match readInside index text with
      | .error e => ([.broken e], none)
      | .ok (token, change, rest) =>
        let (tokens, after?) :=
          lexTag closing close steps (token == .symbol ".") (balance + change) rest
        (token :: tokens, after?)

def textToken (text : List Char) : List Token :=
  if text.isEmpty then [] else [.text (String.ofList text)]

/-- The tokens of a source. A dash at a delimiter removes the blanks on its side. Each round takes a
    tag, so `steps` need not exceed the length of the source. -/
def lexSource (steps : Nat) (trimmed : Bool) (source : List Char) : List Token :=
  let source := if trimmed then Text.trimStart source else source
  match steps, cutTagStart? source with
  | 0, _ => []
  | _, none => textToken source
  | steps + 1, some (lead, kind, rest) =>
    let (mark, rest) := cutTrimMark rest
    let before := textToken (if mark = .remove then Text.trimEnd lead else lead)
    let tag (opening close : Token) (closing : List Char) : List Token :=
      match lexTag closing close (rest.length + 1) false 0 rest with
      | (inside, some (mark, rest)) =>
        before ++ opening :: inside ++ lexSource steps (mark = .remove) rest
      | (inside, none) => before ++ opening :: inside
    match kind with
    | .comment =>
      match Text.cut? ['#', '\x7d'] rest with
      | some (inside, rest) => before ++ lexSource steps (inside.getLast? = some '-') rest
      | none => before ++ [.broken .grammar]
    | .print => tag .openPrint .closePrint ['\x7d', '\x7d']
    | .block =>
      match cutWordTag? "raw" rest with
      | none => tag .openBlock .closeBlock statementClose
      | some (first, rest) =>
        match cutVerbatim? rest with
        | none => before ++ [.broken .grammar]
        | some (inside, last, after, rest) =>
          let inside := if first = .remove then Text.trimStart inside else inside
          let inside := if last = .remove then Text.trimEnd inside else inside
          before ++ textToken inside ++ lexSource steps (after = .remove) rest

def lex (source : String) : List Token :=
  lexSource (source.length + 1) false source.toList

end TopicWiki.Template
