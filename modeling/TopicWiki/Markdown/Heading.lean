import TopicWiki.Markdown.Flavor
import TopicWiki.Markdown.Line
import TopicWiki.Markdown.Tree

namespace TopicWiki.Markdown.Heading

def addAttribute (a : HeadingAttributes) (word : List Char) : HeadingAttributes :=
  match word with
  | '#' :: c :: rest => { a with id? := some (c :: rest) }
  | '.' :: c :: rest => { a with classes := a.classes ++ [c :: rest] }
  | _ =>
    if word.length ≤ 1 then a
    else
      match Text.cut? ['='] word with
      | some (key, value) => { a with others := a.others ++ [(key, value)] }
      | none => { a with others := a.others ++ [(word, [])] }

def endsAttributes (c : Char) : Bool :=
  ['\x7b', '\x7d', '<', '>', '\\', '\n'].contains c

def wordsOf (text : List Char) : List (List Char) :=
  let spaced := text.map fun c => if isIndent c || c == '\x0c' then ' ' else c
  (Text.splitOnChar ' ' spaced).filter fun word => !word.isEmpty

def splitAttributes (flavor : Flavor) (text : List Char) : HeadingAttributes × List Char :=
  match flavor.hasExtras, (text.reverse.dropWhile fun c => isIndent c || c == '\n') with
  | true, '\x7d' :: before =>
    let inside := before.takeWhile fun c => !endsAttributes c
    match before.drop inside.length with
    | '\x7b' :: rest => ((wordsOf inside.reverse).foldl addAttribute {}, rest.reverse)
    | _ => ({}, text)
  | _, _ => ({}, text)

def dropClosing (text : List Char) : List Char :=
  let whole := Text.dropEndWhile (fun c => c == ' ' || c == '\n') text
  let marked := Text.dropEndWhile (· == '#') whole
  let body := Text.dropEndWhile (· == ' ') marked
  if marked.isEmpty ∨ body.length < marked.length then body else whole

def make (flavor : Flavor) (level : Nat) (text : List Char) : Block :=
  let (attributes, text) := splitAttributes flavor text
  .heading level attributes (Text.dropEndWhile isGap text)

def read? (flavor : Flavor) (text : List Char) : Option Block :=
  let level := (text.takeWhile (· == '#')).length
  let rest := text.drop level
  if level = 0 ∨ 6 < level ∨ !rest.head?.all isGap then none
  else
    let (attributes, text) := splitAttributes flavor (rest.dropWhile isGap)
    some (.heading level attributes (dropClosing text))

def underlineLevel? (text : List Char) : Option Nat :=
  let marks := Text.dropEndWhile isGap text
  if marks.isEmpty then none
  else if marks.all (· == '=') then some 1
  else if marks.all (· == '-') then some 2
  else none

end TopicWiki.Markdown.Heading
