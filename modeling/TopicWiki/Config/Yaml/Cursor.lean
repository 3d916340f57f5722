import TopicWiki.Text.Blank

namespace TopicWiki.Yaml

def isBlank (c : Char) : Bool :=
  c == ' ' || c == '\t'

def isBreak (c : Char) : Bool :=
  ['\n', '\r', Char.ofNat 0x85, Char.ofNat 0x2028, Char.ofNat 0x2029].contains c

def atGap (text : List Char) : Bool :=
  text.head?.all fun c => isBlank c || isBreak c

def atLineEnd (text : List Char) : Bool :=
  text.head?.all isBreak

/-- A place in a text: what lies ahead, and how many characters lie before it in the text and on its
    line. -/
structure Cursor where
  ahead : List Char
  index : Nat := 0
  line : Nat := 0
  column : Nat := 0
  deriving DecidableEq, Repr

namespace Cursor

def skip (count : Nat) (p : Cursor) : Cursor :=
  { p with
    ahead := p.ahead.drop count
    index := p.index + count
    column := p.column + count }

def skipWhile (f : Char → Bool) (p : Cursor) : Cursor :=
  p.skip (p.ahead.takeWhile f).length

def skipBreak (p : Cursor) : List Char × Cursor :=
  let next (shown : Char) (length : Nat) : List Char × Cursor :=
    ([shown], ⟨p.ahead.drop length, p.index + length, p.line + 1, 0⟩)
  match p.ahead with
  | '\r' :: '\n' :: _ => next '\n' 2
  | c :: _ =>
    if !isBreak c then ([], p)
    else if 0x2028 ≤ c.toNat then next c 1
    else next '\n' 1
  | [] => ([], p)

def startsWith (c : Char) (p : Cursor) : Bool :=
  p.ahead.head? == some c

def skipComment (p : Cursor) : Cursor :=
  let p := p.skipWhile isBlank
  if p.startsWith '#' then p.skipWhile fun c => !isBreak c else p

def atMark (p : Cursor) : Bool :=
  p.column == 0 &&
    match p.ahead with
    | '-' :: '-' :: '-' :: rest | '.' :: '.' :: '.' :: rest => atGap rest
    | _ => false

end Cursor

end TopicWiki.Yaml
