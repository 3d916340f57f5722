import TopicWiki.Json.Token

namespace TopicWiki.Template

inductive Malformed where
  | grammar
  | escape
  deriving DecidableEq, Repr

inductive Escape where
  | char (c : Char)
  | unit (code : Nat)
  | kept (c : Char)
  deriving DecidableEq, Repr

def isOctal (c : Char) : Bool :=
  Text.isDigitOf 8 c

/-- The number that exactly `width` hexadecimal digits write, of which the first may be a plus sign. -/
def hexNumber? (width : Nat) (text : List Char) : Option Nat :=
  let field := text.take width
  let digits := match field with
    | '+' :: digits => digits
    | digits => digits
  if field.length = width ∧ digits ≠ [] ∧ digits.all (Text.isDigitOf 16) then
    some (Text.numberOf 16 digits)
  else none

def simpleEscape? : Char → Option Char
  | '\'' => some '\''
  | c => Json.simpleEscape? c

def Escape.read? : List Char → Option (Escape × Nat)
  | [] => none
  | 'u' :: rest => (hexNumber? 4 rest).map fun code => (.unit code, 5)
  | 'x' :: rest => (hexNumber? 2 rest).map fun code => (.char (Char.ofNat code), 3)
  | c :: rest =>
    match simpleEscape? c with
    | some plain => some (.char plain, 1)
    | none =>
      if isOctal c then
        let digits := c :: (rest.take 2).takeWhile isOctal
        let code := Text.numberOf 8 digits
        if code < 256 then some (.char (Char.ofNat code), digits.length) else none
      else some (.kept c, 1)

def isSurrogate (code : Nat) : Bool :=
  0xD800 ≤ code && code < 0xE000

def joinSurrogates? (high low : Nat) : Option Char :=
  if high < 0xDC00 ∧ 0xDC00 ≤ low then
    some (Char.ofNat (0x10000 + (high - 0xD800) * 0x400 + (low - 0xDC00)))
  else none

def Escape.resolve? (waiting? : Option Nat) : Escape → Option (List Char × Option Nat)
  | .char c => if waiting?.isNone then some ([c], none) else none
  | .kept c => if waiting?.isNone then some (['\\', c], none) else none
  | .unit code =>
    match waiting? with
    | none => if isSurrogate code then some ([], some code) else some ([Char.ofNat code], none)
    | some high =>
      if isSurrogate code then (joinSurrogates? high code).map fun c => ([c], none) else none

/-- Resolves the escapes of a string literal. Nothing may stand between two surrogates of a pair. -/
def unescape? (waiting? : Option Nat) : List Char → Option (List Char)
  | [] => if waiting?.isNone then some [] else none
  | '\\' :: rest => do
    let (escape, taken) ← Escape.read? rest
    let (chars, waiting?) ← escape.resolve? waiting?
    return chars ++ (← unescape? waiting? (rest.drop taken))
  | c :: rest => do
    let (chars, waiting?) ← (Escape.char c).resolve? waiting?
    return chars ++ (← unescape? waiting? rest)
termination_by text => text.length

def cutString? (quote : Char) : List Char → Option (List Char × List Char)
  | [] => none
  | '\\' :: c :: rest => (cutString? quote rest).map fun (inside, tail) => ('\\' :: c :: inside, tail)
  | c :: rest =>
    if c = quote then some ([], rest)
    else if c = '\\' then none
    else (cutString? quote rest).map fun (inside, tail) => (c :: inside, tail)

def readString (quote : Char) (text : List Char) : Except Malformed (String × List Char) :=
  match cutString? quote text with
  | none => .error .grammar
  | some (inside, rest) =>
    match unescape? none inside with
    | none => .error .escape
    | some value => .ok (String.ofList value, rest)

inductive NumberPart where
  | digits (base : Nat)
  | whole
  | fraction
  | exponentMark
  | exponent
  deriving DecidableEq, Repr

def NumberPart.next? (part : NumberPart) (c : Char) : Option NumberPart :=
  if c = '_' then some part
  else if c.isDigit then some (if part = .exponentMark then .exponent else part)
  else
    match part with
    | .digits base => if base = 16 ∧ Text.isDigitOf 16 c then some part else none
    | .whole => if c = '.' then some .fraction else if c.toLower = 'e' then some .exponentMark else none
    | .fraction => if c.toLower = 'e' then some .exponentMark else none
    | .exponentMark => if c = '+' ∨ c = '-' then some .exponent else none
    | .exponent => none

def cutNumber (part : NumberPart) : List Char → List Char × NumberPart × List Char
  | [] => ([], part, [])
  | c :: rest =>
    match part.next? c with
    | none => ([], part, c :: rest)
    | some part =>
      let (inside, last, tail) := cutNumber part rest
      (c :: inside, last, tail)

def wholeNumber? (base : Nat) (digits : List Char) : Option Nat :=
  if digits ≠ [] ∧ digits.all (Text.isDigitOf base) then
    let n := Text.numberOf base digits
    if n < Nat.pow 2 128 then some n else none
  else none

def fractionalNumber? (text : List Char) : Option Float := do
  let whole := text.takeWhile Char.isDigit
  let (fraction, rest) := match text.dropWhile Char.isDigit with
    | '.' :: rest => (rest.takeWhile Char.isDigit, rest.dropWhile Char.isDigit)
    | rest => ([], rest)
  match rest with
  | [] => return Json.Numeral.toFloat ⟨false, whole, fraction, none⟩
  | _ :: rest =>
    let (exponent, _) ← Json.readExponent? rest
    return Json.Numeral.toFloat ⟨false, whole, fraction, some exponent⟩

inductive Number where
  | int (value : Nat)
  | float (value : Float)
  deriving BEq, Repr

def Number.ofText? (part last : NumberPart) (text : List Char) : Option Number :=
  if text.getLast? = some '_' then none
  else
    let text := text.filter (· ≠ '_')
    match part, last with
    | .digits base, _ => (wholeNumber? base text).map .int
    | _, .whole => (wholeNumber? 10 text).map .int
    | _, _ => (fractionalNumber? text).map .float

/-- Reads a number. A letter behind a zero chooses its base, unless the number is an index behind a
    point. -/
def Number.read (index : Bool) (text : List Char) : Except Malformed (Number × List Char) :=
  let (part, text) : NumberPart × List Char :=
    if index then (.digits 10, text)
    else
      match text with
      | '0' :: c :: rest =>
        match c.toLower with
        | 'b' => (.digits 2, rest)
        | 'o' => (.digits 8, rest)
        | 'x' => (.digits 16, rest)
        | _ => (.whole, text)
      | _ => (.whole, text)
  let (inside, last, rest) := cutNumber part text
  match Number.ofText? part last inside with
  | some number => .ok (number, rest)
  | none => .error .grammar

end TopicWiki.Template
