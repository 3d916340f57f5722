import TopicWiki.Config.Yaml.BlockScalar
import TopicWiki.Config.Yaml.Plain
import TopicWiki.Config.Yaml.Quoted
import TopicWiki.Config.Yaml.Tag

namespace TopicWiki.Yaml

/-- A token that may turn out to start a key. -/
structure PendingKey where
  place : Nat
  required : Bool
  index : Nat
  line : Nat
  column : Nat
  deriving DecidableEq, Repr

/-- A text that is being divided into tokens. -/
structure Layout where
  cursor : Cursor
  tokens : List Token := []
  indents : List Nat := []
  key? : Option PendingKey := none
  outer : List (Option PendingKey) := []
  keyAllowed : Bool := true

namespace Layout

def inFlow (l : Layout) : Bool :=
  !l.outer.isEmpty

def column (l : Layout) : Nat :=
  l.cursor.column

def least (l : Layout) : Nat :=
  match l.indents with
  | indent :: _ => indent + 1
  | [] => 0

def push (l : Layout) (token : Token) : Layout :=
  { l with tokens := token :: l.tokens }

def insert (l : Layout) (place : Nat) (token : Token) : Layout :=
  let behind := l.tokens.length - place
  { l with tokens := l.tokens.take behind ++ token :: l.tokens.drop behind }

def openBlock (l : Layout) (column place : Nat) (token : Token) : Layout :=
  if !l.inFlow && l.indents.head?.all (· < column) then
    { l.insert place token with indents := column :: l.indents }
  else l

def closeBlocks (l : Layout) (closes : Nat → Bool) : Layout :=
  if l.inFlow then l
  else
    let closed := (l.indents.takeWhile closes).length
    { l with
      tokens := List.replicate closed .blockEnd ++ l.tokens
      indents := l.indents.drop closed }

def dropKey? (l : Layout) : Option Layout :=
  if l.key?.any PendingKey.required then none else some { l with key? := none }

def saveKey? (l : Layout) : Option Layout :=
  if l.keyAllowed then
    l.dropKey?.map fun l =>
      { l with
        key? := some
          { place := l.tokens.length
            required := !l.inFlow && l.indents.head? == some l.column
            index := l.cursor.index
            line := l.cursor.line
            column := l.column } }
  else some l

def validKey? (l : Layout) : Option (Option PendingKey) :=
  match l.key? with
  | some key =>
    if key.line = l.cursor.line ∧ l.cursor.index ≤ key.index + 1024 then some (some key)
    else if key.required then none
    else some none
  | none => some none

def take (l : Layout) (token : Token) (length : Nat) : Layout :=
  { l.push token with cursor := l.cursor.skip length }

/-- Skips blanks, comments and line breaks. Outside brackets, a tab may not stand where a key may
    start, and a key may start on a new line. -/
def skipSpace : (most : Nat) → Layout → Layout
  | 0, l => l
  | most + 1, l =>
    let p := if l.cursor.index = 0 ∧ l.cursor.startsWith (Char.ofNat 0xFEFF) then l.cursor.skip 1
      else l.cursor
    let p := p.skipWhile fun c => c == ' ' || (c == '\t' && (l.inFlow || !l.keyAllowed))
    let p := if p.startsWith '#' then p.skipWhile fun c => !isBreak c else p
    if p.ahead.head?.any isBreak then
      skipSpace most { l with cursor := p.skipBreak.2, keyAllowed := l.keyAllowed || !l.inFlow }
    else { l with cursor := p }

def atTopLevel? (l : Layout) : Option Layout :=
  (l.closeBlocks fun _ => true).dropKey?.map fun l => { l with keyAllowed := false }

def openFlow? (l : Layout) (token : Token) : Option Layout :=
  l.saveKey?.map fun l =>
    { l.take token 1 with key? := none, outer := l.key? :: l.outer, keyAllowed := true }

def closeFlow? (l : Layout) (token : Token) : Option Layout :=
  l.dropKey?.map fun l =>
    let closed := match l.outer with
      | key? :: outer => { l with key?, outer }
      | [] => l
    { closed.take token 1 with keyAllowed := false }

def readComma? (l : Layout) : Option Layout :=
  l.dropKey?.map fun l => { l.take .comma 1 with keyAllowed := true }

def readDash? (l : Layout) : Option Layout := do
  guard (l.inFlow || l.keyAllowed)
  let l ← (l.openBlock l.column l.tokens.length .blockList).dropKey?
  return { l.take .dash 1 with keyAllowed := true }

def readKey? (l : Layout) : Option Layout := do
  guard (l.inFlow || l.keyAllowed)
  let l ← (l.openBlock l.column l.tokens.length .blockMap).dropKey?
  return { l.take .key 1 with keyAllowed := !l.inFlow }

/-- Reads the mark of a value. The pending key is then one, and starts a map if none is open at its
    column. -/
def readValue? (l : Layout) : Option Layout := do
  match ← l.validKey? with
  | some key =>
    let l := (l.insert key.place .key).openBlock key.column key.place .blockMap
    return { l.take .value 1 with key? := none, keyAllowed := false }
  | none =>
    guard (l.inFlow || l.keyAllowed)
    let l := l.openBlock l.column l.tokens.length .blockMap
    return { l.take .value 1 with key? := none, keyAllowed := !l.inFlow }

def readNode? (l : Layout) (read : Cursor → Option (Token × Cursor)) : Option Layout := do
  let l ← l.saveKey?
  let (token, cursor) ← read l.cursor
  return { l.push token with cursor, keyAllowed := false }

def readBlockScalar? (l : Layout) (folded : Bool) : Option Layout := do
  let l ← l.dropKey?
  let (text, cursor) ← BlockScalar.read? folded l.least (l.cursor.skip 1)
  return { l.push (.scalar (if folded then .quoted else .literal) text) with
    cursor, keyAllowed := true }

def readPlainScalar? (l : Layout) : Option Layout := do
  let l ← l.saveKey?
  let (plain, cursor) ← readPlain? l.inFlow l.least (l.cursor.ahead.length + 1) [] {} l.cursor
  return { l.push (.scalar .plain plain.text) with cursor, keyAllowed := plain.broken }

def readToken? (l : Layout) (c : Char) (rest : List Char) : Option Layout :=
  let name (token : List Char → Token) (p : Cursor) : Option (Token × Cursor) :=
    (readName? (p.skip 1)).map fun (name, p) => (token name, p)
  let quoted (p : Cursor) : Option (Token × Cursor) :=
    (readQuoted? c p.ahead.length [] (p.skip 1)).map fun (text, p) => (.scalar .quoted text, p)
  if l.cursor.atMark then
    l.atTopLevel?.map fun l => l.take (if c = '-' then .documentStart else .documentEnd) 3
  else if c = '-' ∧ atGap rest then l.readDash?
  else if c = '?' ∧ (l.inFlow ∨ atGap rest) then l.readKey?
  else if c = ':' ∧ (l.inFlow ∨ atGap rest) then l.readValue?
  else
    match c with
    | '[' => l.openFlow? .openBracket
    | '\x7b' => l.openFlow? .openBrace
    | ']' => l.closeFlow? .closeBracket
    | '\x7d' => l.closeFlow? .closeBrace
    | ',' => l.readComma?
    | '*' => l.readNode? (name .alias)
    | '&' => l.readNode? (name .anchor)
    | '!' => l.readNode? (Tag.read? l.inFlow)
    | '"' | '\'' => l.readNode? quoted
    | _ =>
      if (c = '|' ∨ c = '>') ∧ !l.inFlow then l.readBlockScalar? (c = '>')
      else if startsPlain l.inFlow (c :: rest) then l.readPlainScalar?
      else none

def readDirective? (l : Layout) : Option Layout := do
  let l ← l.atTopLevel?
  let (token, cursor) ← Directive.read? (l.cursor.skip 1)
  return { l.push token with cursor }

def next? (l : Layout) : Option Layout :=
  let l := l.skipSpace (l.cursor.ahead.length + 1)
  match l.cursor.ahead with
  | [] => (l.closeBlocks fun _ => true).dropKey?
  | c :: rest =>
    let l := l.closeBlocks (l.column < ·)
    if c = '%' ∧ l.column = 0 then l.readDirective? else l.readToken? c rest

def readAll? : (most : Nat) → Layout → Option Layout
  | 0, _ => none
  | most + 1, l =>
    match l.next? with
    | none => none
    | some l => if l.cursor.ahead.isEmpty then l.next? else readAll? most l

end Layout

def isAllowed (c : Char) : Bool :=
  let code := c.toNat
  ['\t', '\n', '\r', Char.ofNat 0x85].contains c || (0x20 ≤ code && code ≤ 0x7E) ||
    (0xA0 ≤ code && code ≤ 0xFFFD) || 0x10000 ≤ code

def tokens? (text : List Char) : Option (List Token) := do
  guard (text.all isAllowed)
  let l ← Layout.readAll? (text.length + 1) { cursor := { ahead := text } }
  return l.tokens.reverse

end TopicWiki.Yaml
