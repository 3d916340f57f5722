import TopicWiki.Config.Yaml.Cursor
import TopicWiki.Text.Digit

namespace TopicWiki.Yaml.BlockScalar

inductive Chomping where
  | strip
  | clip
  | keep
  deriving DecidableEq, Repr

structure Header where
  chomping : Chomping := .clip
  increment? : Option Nat := none
  deriving Repr

def chomping? : Char → Option Chomping
  | '-' => some .strip
  | '+' => some .keep
  | _ => none

def increment? (text : List Char) : Option (Option Nat × List Char) :=
  match text with
  | c :: rest =>
    if !c.isDigit then some (none, text)
    else if c = '0' then none
    else some (some (Text.numberOf 10 [c]), rest)
  | [] => some (none, [])

def readHeader? (text : List Char) : Option (Header × List Char) := do
  match text.head?.bind chomping? with
  | some chomping =>
    let (increment?, rest) ← increment? text.tail
    return (⟨chomping, increment?⟩, rest)
  | none =>
    let (increment?, rest) ← increment? text
    match increment?, rest.head?.bind chomping? with
    | some _, some chomping => return (⟨chomping, increment?⟩, rest.tail)
    | _, _ => return (⟨.clip, increment?⟩, rest)

/-- Skips empty lines and the indentation of the next one, which is at most `indent?`. Gives the
    line breaks, in reverse, and the greatest column that was reached. A tab within the indentation
    is refused. -/
def skipEmpty? (indent? : Option Nat) : (most : Nat) → (breaks : List Char) → (widest : Nat) →
    Cursor → Option (List Char × Nat × Cursor)
  | 0, _, _, _ => none
  | most + 1, breaks, widest, p =>
    let spaces := (p.ahead.takeWhile (· == ' ')).length
    let width := match indent? with
      | some indent => min spaces (indent - p.column)
      | none => spaces
    let p := p.skip width
    let widest := max widest p.column
    if p.startsWith '\t' && indent?.all (p.column < ·) then none
    else if p.ahead.isEmpty || !atLineEnd p.ahead then some (breaks, widest, p)
    else
      let (shown, p) := p.skipBreak
      skipEmpty? indent? most (shown ++ breaks) widest p

structure Draft where
  text : List Char := []
  ending : List Char := []
  indented : Bool := false
  deriving Repr

/-- Adds a line behind empty ones. In a folded scalar, the line break between two lines that do not
    start with blanks is a space, or nothing if empty lines stand between them. -/
def Draft.addLine (folded : Bool) (d : Draft) (breaks line ending : List Char) : Draft :=
  let indented := line.head?.any isBlank
  let joined :=
    if folded && d.ending == ['\n'] && !d.indented && !indented then
      if breaks.isEmpty then ' ' :: d.text else d.text
    else d.ending ++ d.text
  { text := line.reverse ++ breaks ++ joined, ending, indented }

def readLines? (folded : Bool) (indent : Nat) : (most : Nat) → Draft → (breaks : List Char) →
    Cursor → Option (Draft × List Char × Cursor)
  | 0, _, _, _ => none
  | most + 1, d, breaks, p =>
    if p.column = indent ∧ ¬p.ahead.isEmpty then do
      let line := p.ahead.takeWhile fun c => !isBreak c
      let (ending, p) := (p.skip line.length).skipBreak
      let d := d.addLine folded breaks line ending
      let (breaks, _, p) ← skipEmpty? (some indent) (p.ahead.length + 1) [] 0 p
      readLines? folded indent most d breaks p
    else some (d, breaks, p)

def read? (folded : Bool) (least : Nat) (p : Cursor) : Option (List Char × Cursor) := do
  let (header, rest) ← readHeader? p.ahead
  let p := (p.skip (p.ahead.length - rest.length)).skipComment
  guard (atLineEnd p.ahead)
  let (_, p) := p.skipBreak
  let told? := header.increment?.map fun increment => (least - 1) + increment
  let (breaks, widest, p) ← skipEmpty? told? (p.ahead.length + 1) [] 0 p
  let indent := told?.getD (max widest (max least 1))
  let (d, breaks, p) ← readLines? folded indent (p.ahead.length + 1) {} breaks p
  let tail := match header.chomping with
    | .strip => []
    | .clip => d.ending
    | .keep => breaks ++ d.ending
  return ((tail ++ d.text).reverse, p)

end TopicWiki.Yaml.BlockScalar
