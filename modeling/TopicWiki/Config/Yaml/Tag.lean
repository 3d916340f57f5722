import TopicWiki.Config.Yaml.Cursor
import TopicWiki.Config.Yaml.Token
import TopicWiki.Text.Digit

namespace TopicWiki.Yaml

def isNameChar (c : Char) : Bool :=
  c.isAlphanum || c == '_' || c == '-'

def readName? (p : Cursor) : Option (List Char × Cursor) :=
  let name := p.ahead.takeWhile isNameChar
  let p := p.skip name.length
  let ended := atGap p.ahead ||
    p.ahead.head?.any fun c => ['?', ':', ',', ']', '\x7d', '%', '@', Char.ofNat 96].contains c
  if name.isEmpty || !ended then none else some (name, p)

namespace Tag

def isAddressChar (c : Char) : Bool :=
  isNameChar c || ";/?:@&=+$.!~*'()%".toList.contains c

def isBoundedChar (c : Char) : Bool :=
  isAddressChar c || [',', '[', ']'].contains c

def readByte? : List Char → Option (Nat × List Char)
  | '%' :: a :: b :: rest =>
    if [a, b].all (Text.isDigitOf 16) then some (Text.numberOf 16 [a, b], rest) else none
  | _ => none

def readContinuation? : (count code : Nat) → List Char → Option (Nat × List Char)
  | 0, code, text => some (code, text)
  | count + 1, code, text =>
    match readByte? text with
    | some (byte, rest) =>
      if 0x80 ≤ byte ∧ byte < 0xC0 then readContinuation? count (code * 64 + byte % 64) rest
      else none
    | none => none

def readEscaped? (text : List Char) : Option (Char × List Char) := do
  let (first, rest) ← readByte? text
  let (count, code) ←
    if first < 0x80 then some (0, first)
    else if 0xC0 ≤ first ∧ first < 0xE0 then some (1, first % 32)
    else if 0xE0 ≤ first ∧ first < 0xF0 then some (2, first % 16)
    else if 0xF0 ≤ first ∧ first < 0xF8 then some (3, first % 8)
    else none
  let (code, rest) ← readContinuation? count code rest
  return (Char.ofNat code, rest)

def readAddress? (f : Char → Bool) : (most : Nat) → (done : List Char) → List Char →
    Option (List Char × List Char)
  | 0, _, _ => none
  | most + 1, done, text =>
    match text with
    | '%' :: _ =>
      match readEscaped? text with
      | some (c, rest) => readAddress? f most (c :: done) rest
      | none => none
    | c :: rest =>
      if f c then readAddress? f most (c :: done) rest else some (done.reverse, text)
    | [] => some (done.reverse, [])

def address? (f : Char → Bool) (p : Cursor) : Option (List Char × Cursor) :=
  (readAddress? f (p.ahead.length + 1) [] p.ahead).map fun (address, rest) =>
    (address, p.skip (p.ahead.length - rest.length))

def readHandle? (p : Cursor) : Option (List Char × Cursor) :=
  match p.ahead with
  | '!' :: rest =>
    let name := rest.takeWhile isNameChar
    let closing := (rest.drop name.length).takeWhile (· == '!') |>.take 1
    let handle := '!' :: name ++ closing
    some (handle, p.skip handle.length)
  | _ => none

def readParts? (p : Cursor) : Option (List Char × List Char × Cursor) := do
  if (p.skip 1).startsWith '<' then
    let (address, p) ← address? isBoundedChar (p.skip 2)
    guard (!address.isEmpty && p.startsWith '>')
    return ([], address, p.skip 1)
  let (handle, behind) ← readHandle? p
  if 1 < handle.length ∧ handle.getLast? = some '!' then
    let (suffix, behind) ← address? isAddressChar behind
    guard (!suffix.isEmpty)
    return (handle, suffix, behind)
  let (suffix, behind) ← address? isAddressChar behind
  let suffix := handle.drop 1 ++ suffix
  return if suffix.isEmpty then ([], ['!'], behind) else (['!'], suffix, behind)

/-- Reads a tag. A gap stands behind it, or in brackets a comma. -/
def read? (inFlow : Bool) (p : Cursor) : Option (Token × Cursor) := do
  let (handle, suffix, p) ← readParts? p
  guard (atGap p.ahead || (inFlow && p.startsWith ','))
  return (.tag handle suffix, p)

end Tag

namespace Directive

def readNumber? (p : Cursor) : Option (Nat × Cursor) :=
  let digits := p.ahead.takeWhile Char.isDigit
  if digits.isEmpty ∨ 9 < digits.length then none
  else some (Text.numberOf 10 digits, p.skip digits.length)

def readVersion? (p : Cursor) : Option (Token × Cursor) := do
  let (major, p) ← readNumber? p
  guard (p.startsWith '.')
  let (minor, p) ← readNumber? (p.skip 1)
  return (.version major minor, p)

def readHandle? (p : Cursor) : Option (Token × Cursor) := do
  let (handle, p) ← Tag.readHandle? p
  guard (handle = ['!'] ∨ (1 < handle.length ∧ handle.getLast? = some '!'))
  guard (p.ahead.head?.any isBlank)
  let (expansion, p) ← Tag.address? Tag.isBoundedChar (p.skipWhile isBlank)
  guard (!expansion.isEmpty && atGap p.ahead)
  return (.handle handle expansion, p)

def read? (p : Cursor) : Option (Token × Cursor) := do
  let name := p.ahead.takeWhile isNameChar
  let behind := p.skip name.length
  guard (!name.isEmpty && atGap behind.ahead)
  let behind := behind.skipWhile isBlank
  let (token, p) ←
    if name = "YAML".toList then readVersion? behind
    else if name = "TAG".toList then readHandle? behind
    else none
  let p := p.skipComment
  guard (atLineEnd p.ahead)
  return (token, p.skipBreak.2)

end Directive

end TopicWiki.Yaml
