import TopicWiki.Text.Blank
import TopicWiki.Text.Occurrence

namespace TopicWiki.Markdown

def isIndent (c : Char) : Bool :=
  c == ' ' || c == '\t'

def isGap (c : Char) : Bool :=
  isIndent c || c == '\x0b' || c == '\x0c'

/-- The text without the blanks at the start of its lines; those of the first line stay unless
    `atStart`. -/
def dropIndents : (atStart : Bool) → List Char → List Char
  | atStart, c :: rest =>
    if atStart && isIndent c then dropIndents true rest else c :: dropIndents (c == '\n') rest
  | _, [] => []

def dropGapEnd (text : List Char) : List Char :=
  Text.dropEndWhile (fun c => isGap c || c == '\n') text

def dropGaps (text : List Char) : List Char :=
  dropGapEnd (text.dropWhile fun c => isGap c || c == '\n')

structure Line where
  column : Nat := 0
  text : List Char
  ended : Bool := true
  deriving DecidableEq, Repr

namespace Line

def isBlank (line : Line) : Bool :=
  line.text.all isIndent

/-- The column behind a blank. A tab reaches to the next multiple of four. -/
def columnAfter (column : Nat) (c : Char) : Nat :=
  if c == '\t' then (column / 4 + 1) * 4 else column + 1

def indentFrom (column : Nat) : List Char → Nat
  | c :: rest => if isIndent c then indentFrom (columnAfter column c) rest else column
  | [] => column

def indent (line : Line) : Nat :=
  indentFrom line.column line.text - line.column

def skipFrom (column target : Nat) : List Char → Nat × List Char
  | c :: rest =>
    if column < target ∧ isIndent c then
      let next := columnAfter column c
      if next ≤ target then skipFrom next target rest
      else (target, List.replicate (next - target) ' ' ++ rest)
    else (column, c :: rest)
  | [] => (column, [])

/-- The line without its first `width` columns, as far as they are blank. What is left of a tab
    becomes spaces. -/
def skip (width : Nat) (line : Line) : Line :=
  let (column, text) := skipFrom line.column (line.column + width) line.text
  { line with column, text }

def trimStart (line : Line) : Line :=
  line.skip line.indent

def drop (count : Nat) (line : Line) : Line :=
  { line with column := line.column + count, text := line.text.drop count }

def whole (line : Line) : List Char :=
  if line.ended then line.text ++ ['\n'] else line.text

end Line

def unifyBreaks : List Char → List Char
  | '\r' :: '\n' :: rest => '\n' :: unifyBreaks rest
  | '\r' :: rest => '\n' :: unifyBreaks rest
  | c :: rest => c :: unifyBreaks rest
  | [] => []

def linesOf (text : List Char) : List Line :=
  let parts := Text.splitOnChar '\n' (unifyBreaks text)
  let closed := parts.dropLast.map fun text => ({ text } : Line)
  match parts.getLast? with
  | none | some [] => closed
  | some last => closed ++ [{ text := last, ended := false }]

end TopicWiki.Markdown
