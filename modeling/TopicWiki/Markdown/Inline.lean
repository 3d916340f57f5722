import TopicWiki.Markdown.Emphasis
import TopicWiki.Markdown.Flavor
import TopicWiki.Markdown.Reference

namespace TopicWiki.Markdown

structure Reading where
  flavor : Flavor
  references : References

def countOf (c : Char) (text : List Char) : Nat :=
  (text.takeWhile (· == c)).length

def mayOpen (symbol : Char) (count : Nat) (before? after? : Option Char) : Bool :=
  match after? with
  | none => false
  | some after =>
    !Text.isBlank after &&
      match before? with
      | none => true
      | some before =>
        (symbol == '*' && !isPunctuation after) || (symbol == '~' && 1 < count) ||
          Text.isBlank before ||
          (isPunctuation before && (symbol != '\'' || (before != ']' && before != ')')))

def mayClose (symbol : Char) (count : Nat) (before? after? : Option Char) : Bool :=
  match before? with
  | none => false
  | some before =>
    !Text.isBlank before &&
      match after? with
      | none => true
      | some after =>
        ((symbol == '*' || (symbol == '~' && 1 < count)) && !isPunctuation before) ||
          Text.isBlank after || isPunctuation after

/-- The content of a code span: a line break is a space, and one space is taken from either end if
    both have one and there is more than spaces. -/
def codeContent (text : List Char) : List Char :=
  let flat := (dropIndents false text).map fun c => if c == '\n' then ' ' else c
  if flat.head? = some ' ' ∧ flat.getLast? = some ' ' ∧ flat.any (· != ' ') then
    flat.tail.dropLast
  else flat

def cutCode? (count : Nat) : (skip : Nat) → List Char → Option (List Char)
  | _, [] => none
  | skip + 1, c :: rest => (cutCode? count skip rest).map (c :: ·)
  | 0, c :: rest =>
    let here := countOf (Char.ofNat 96) (c :: rest)
    if here = count then some []
    else (cutCode? count (here - 1) rest).map (c :: ·)

def readCode (text : List Char) : Inline × Nat :=
  let count := countOf (Char.ofNat 96) text
  match cutCode? count 0 (text.drop count) with
  | some content => (.code (codeContent content), content.length + 2 * count)
  | none => (.text (text.take count), count)

def isSchemeChar (c : Char) : Bool :=
  c.isAlphanum || ['+', '.', '-'].contains c

def isMailChar (c : Char) : Bool :=
  c.isAlphanum || ".!#$%&'*+/=?^_-\x7b|\x7d~".toList.contains c || c.toNat = 96

def isHostLabel (label : List Char) : Bool :=
  !label.isEmpty && label.length ≤ 63 && label.all (fun c => c.isAlphanum || c == '-') &&
    label.head? != some '-' && label.getLast? != some '-'

def isUri (text : List Char) : Bool :=
  let scheme := text.takeWhile isSchemeChar
  (text.head?.any Char.isAlpha) && 2 ≤ scheme.length && scheme.length ≤ 32 &&
    (text.drop scheme.length).head? == some ':'

def isMail (text : List Char) : Bool :=
  let name := text.takeWhile isMailChar
  match text.drop name.length with
  | '@' :: host => !name.isEmpty && (Text.splitOnChar '.' host).all isHostLabel
  | _ => false

def readAutolink? (text : List Char) : Option (Inline × Nat) := do
  let (inside, _) ← Text.cut? ['>'] (text.drop 1)
  guard (inside.all fun c => 0x20 < c.toNat && c != '<')
  let link (address : List Char) := (Inline.link ⟨address, []⟩ [.text inside], inside.length + 2)
  if isUri inside then return link inside
  else if isMail inside then return link ("mailto:".toList ++ inside)
  else none

/-- The dashes that a number of hyphens stands for, as long as possible and of one kind if that can
    be. -/
def dashes (count : Nat) : List Char :=
  let (long, short) :=
    match count % 6 with
    | 0 | 3 => (count / 3, 0)
    | 2 | 4 => (0, count / 2)
    | 1 => (count / 3 - 1, 2)
    | _ => (count / 3, 1)
  List.replicate long '\u2014' ++ List.replicate short '\u2013'

def breakLength (rest : List Char) : Nat :=
  1 + (rest.takeWhile isIndent).length

/-- Reads a gap, which belongs to the line break behind it if there is one. A gap of two characters
    makes the break a hard one. -/
def readGap (text : List Char) : Inline × Nat :=
  let gap := text.takeWhile isGap
  match text.drop gap.length with
  | '\n' :: rest => (if 2 ≤ gap.length then .hardBreak else .softBreak, gap.length + breakLength rest)
  | _ => (.text gap, gap.length)

def findBracket : List Piece → Option (List Piece × (Bool × Bool × List Char) × List Piece)
  | [] => none
  | .bracket image active after :: before => some ([], (image, active, after), before)
  | piece :: before =>
    (findBracket before).map fun (inside, rest) => (piece :: inside, rest)

/-- A link takes the activity from the brackets of links around it. -/
def deactivateLink : Piece → Piece
  | .bracket false _ after => .bracket false false after
  | piece => piece

def deactivate : Piece → Piece
  | .bracket image _ after => .bracket image false after
  | piece => piece

inductive Referent where
  | target (target : Target) (length : Nat)
  | note (label : List Char)

def footnote? (r : Reading) (label : List Char) : Option (List Char) := do
  guard r.flavor.hasExtras
  let (label, _) ← readNoteLabel? ('[' :: label ++ [']'])
  guard (r.references.footnotes.contains (normalLabel label))
  return flatLabel label

def labelBehind? (r : Reading) (rest : List Char) : Option (List Char × Nat) := do
  guard (!(r.flavor.hasExtras && (readNoteLabel? rest).isSome))
  let (label, tail) ← readLabel? rest
  return (label, rest.length - tail.length)

/-- What a text in brackets refers to, given what stands behind it: an address, a label or nothing. -/
def referent? (r : Reading) (label rest : List Char) : Option Referent :=
  match Target.readInline? rest, labelBehind? r rest, footnote? r label with
  | some (target, tail), _, _ => some (.target target (rest.length - tail.length))
  | none, some (other, length), _ =>
    (r.references.target? other).map fun target => .target target length
  | none, none, some note => some (.note note)
  | none, none, none =>
    (r.references.target? label).map fun target =>
      .target target (if Tag.startsWith "[]" rest then 2 else 0)

def joinBracket (image : Bool) (referent : Referent) (inside outside : List Piece) : List Piece :=
  match referent with
  | .target target _ =>
    let content := resolve inside.reverse
    if image then .node (.image target content) :: outside
    else .node (.link target content) :: outside.map deactivateLink
  | .note label =>
    .node (.footnote label) ::
      ((if image then [textPiece '!'] else []) ++ outside.map deactivate)

def Referent.length : Referent → Nat
  | .target _ length => length
  | .note _ => 0

def closeBracket (r : Reading) (rest : List Char) (before : List Piece) : List Piece × Nat :=
  let plain (pieces : List Piece) : List Piece × Nat := (textPiece ']' :: pieces, 1)
  match findBracket before with
  | none => plain before
  | some (inside, (image, active, after), outside) =>
    let opening := Piece.node (Piece.bracket image active after).plain
    let label := after.take (after.length - rest.length - 1)
    match if active then referent? r label rest else none with
    | some referent => (joinBracket image referent inside outside, referent.length + 1)
    | none => plain (inside ++ opening :: outside)

def readRun (before? : Option Char) (symbol : Char) (text : List Char) : Piece × Nat :=
  let count := countOf symbol text
  let after? := (text.drop count).head?
  (.run ⟨symbol, count, count, mayOpen symbol count before? after?,
    mayClose symbol count before? after?⟩, count)

/-- Reads one part of running text, given the character and the pieces before it. Gives the pieces
    with the new one in front and the length of what is read. -/
def readPiece (r : Reading) (before? : Option Char) (text : List Char) (pieces : List Piece) :
    List Piece × Nat :=
  let node (content : Inline) (length : Nat) : List Piece × Nat := (.node content :: pieces, length)
  let plain (c : Char) : List Piece × Nat := node (.text [c]) 1
  match text with
  | [] => (pieces, 1)
  | '\\' :: '\n' :: rest => node .hardBreak (1 + breakLength rest)
  | '\\' :: c :: _ => if isAsciiPunctuation c then node (.text [c]) 2 else plain '\\'
  | '<' :: _ =>
    match readAutolink? text, Tag.length? text with
    | some (link, length), _ => node link length
    | none, some length => node (.markup (text.take length)) length
    | none, none => plain '<'
  | '&' :: _ =>
    match readCharacter? text with
    | some (shown, length) => node (.text shown) length
    | none => plain '&'
  | '!' :: '[' :: rest => (.bracket true true rest :: pieces, 2)
  | '[' :: rest => (.bracket false true rest :: pieces, 1)
  | ']' :: rest => closeBracket r rest pieces
  | c :: rest =>
    if isGap c || c == '\n' then
      let (gap, length) := readGap text
      node gap length
    else if c.toNat = 96 then
      let (code, length) := readCode text
      node code length
    else if c = '*' ∨ c = '_' then
      let (run, length) := readRun before? c text
      (run :: pieces, length)
    else if c = '~' ∧ r.flavor.hasExtras ∧ countOf '~' text ≤ 2 then
      let (run, length) := readRun before? c text
      (run :: pieces, length)
    else if c = '~' ∧ r.flavor.hasExtras then
      node (.text (text.take (countOf '~' text))) (countOf '~' text)
    else if r.flavor.isTypographic then
      match c with
      | '"' | '\'' =>
        (.quote c (mayOpen c 1 before? rest.head?) (mayClose c 1 before? rest.head?) :: pieces, 1)
      | '.' => if Tag.startsWith ".." rest then node (.text ['\u2026']) 3 else plain c
      | '-' =>
        let count := countOf '-' text
        if count = 1 then plain c else node (.text (dashes count)) count
      | _ => plain c
    else plain c

/-- Reads running text from left to right. The first `skip` characters belong to what has been read
    before. -/
def readPieces (r : Reading) : (skip : Nat) → Option Char → List Char → List Piece → List Piece
  | _, _, [], pieces => pieces
  | skip + 1, _, c :: rest, pieces => readPieces r skip (some c) rest pieces
  | 0, before?, c :: rest, pieces =>
    let (pieces, length) := readPiece r before? (c :: rest) pieces
    readPieces r (length - 1) (some c) rest pieces

def readInlines (r : Reading) (text : List Char) : List Inline :=
  resolve (readPieces r 0 none text []).reverse

end TopicWiki.Markdown
