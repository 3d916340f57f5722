import TopicWiki.Markdown.Line
import TopicWiki.Markdown.Reference

namespace TopicWiki.Markdown

structure Marker where
  symbol : Char
  number? : Option Nat
  deriving DecidableEq, Repr

inductive Container where
  | quote
  | item (marker : Marker) (width : Nat)
  | footnote (label : List Char)
  deriving DecidableEq, Repr

namespace Marker

def bullets : List Char := ['-', '+', '*']

def read? (text : List Char) : Option (Marker × Nat) :=
  let digits := text.takeWhile Char.isDigit
  let found := match text.drop digits.length with
    | symbol :: rest =>
      if digits.isEmpty then
        if bullets.contains symbol then some (Marker.mk symbol none, rest) else none
      else if digits.length ≤ 9 ∧ (symbol = '.' ∨ symbol = ')') then
        some (Marker.mk symbol (some (Text.numberOf 10 digits)), rest)
      else none
    | [] => none
  match found with
  | some (marker, rest) =>
    if rest.head?.all isIndent then some (marker, digits.length + 1) else none
  | none => none

end Marker

def isRule (text : List Char) : Bool :=
  let marks := text.filter fun c => !isIndent c
  match marks with
  | c :: _ => ['-', '_', '*'].contains c && marks.all (· == c) && 3 ≤ marks.length
  | [] => false

structure Fence where
  symbol : Char
  length : Nat
  indent : Nat
  info : List Char
  deriving DecidableEq, Repr

namespace Fence

def read? (indent : Nat) (text : List Char) : Option Fence :=
  match text with
  | symbol :: _ =>
    let length := (text.takeWhile (· == symbol)).length
    let info := dropGaps (text.drop length)
    if length < 3 then none
    else if symbol = '~' ∨ (symbol.toNat = 96 ∧ info.all fun c => c.toNat != 96) then
      some ⟨symbol, length, indent, unescape info⟩
    else none
  | [] => none

def isClosedBy (fence : Fence) (line : Line) : Bool :=
  let text := line.trimStart.text
  let marks := text.takeWhile (· == fence.symbol)
  line.indent < 4 && fence.length ≤ marks.length && (text.drop marks.length).all (· == ' ')

end Fence

structure Opening where
  container : Container
  rest : Line

namespace Opening

def readQuote? (line : Line) : Option Opening :=
  match line.trimStart.text with
  | '>' :: _ => some ⟨.quote, (line.trimStart.drop 1).skip 1⟩
  | _ => none

/-- Reads the mark of an item. The content starts behind the blanks that follow, but behind the
    first one if there are more than four, or if the line ends there. -/
def readItem? (line : Line) : Option Opening := do
  let indent := line.indent
  let line := line.trimStart
  let (marker, length) ← Marker.read? line.text
  let rest := line.drop length
  let blanks := if rest.isBlank ∨ 4 < rest.indent then 1 else rest.indent
  return ⟨.item marker (indent + length + blanks), rest.skip blanks⟩

def readFootnote? (line : Line) : Option Opening :=
  match readNoteLabel? line.trimStart.text with
  | some (label, ':' :: _) =>
    some ⟨.footnote (flatLabel label), line.trimStart.drop (label.length + 4)⟩
  | _ => none

end Opening

end TopicWiki.Markdown
