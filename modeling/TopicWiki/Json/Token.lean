import TopicWiki.Json.Basic
import TopicWiki.Text.Digit

namespace TopicWiki.Json

inductive Token where
  | openArray
  | closeArray
  | openObject
  | closeObject
  | comma
  | colon
  | value (json : Json)
  deriving Repr

def isSpace (c : Char) : Bool :=
  c == ' ' || c == '\t' || c == '\n' || c == '\r'

def hexUnit? (a b c d : Char) : Option Nat :=
  if [a, b, c, d].all (Text.isDigitOf 16) then some (Text.numberOf 16 [a, b, c, d]) else none

def simpleEscape? : Char → Option Char
  | '"' => some '"'
  | '\\' => some '\\'
  | '/' => some '/'
  | 'b' => some (Char.ofNat 8)
  | 'f' => some (Char.ofNat 12)
  | 'n' => some '\n'
  | 'r' => some '\r'
  | 't' => some '\t'
  | _ => none

/-- Reads the rest of a string literal. A character outside the basic plane is a pair of escaped
    units; half a pair is refused. -/
def readString (done : List Char) : List Char → Option (String × List Char)
  | '"' :: rest => some (String.ofList done.reverse, rest)
  | '\\' :: 'u' :: a :: b :: c :: d :: rest =>
    match hexUnit? a b c d with
    | none => none
    | some unit =>
      if 0xD800 ≤ unit ∧ unit < 0xDC00 then
        match rest with
        | '\\' :: 'u' :: e :: f :: g :: h :: rest =>
          match hexUnit? e f g h with
          | some low =>
            if 0xDC00 ≤ low ∧ low < 0xE000 then
              readString
                (Char.ofNat (0x10000 + (unit - 0xD800) * 0x400 + (low - 0xDC00)) :: done) rest
            else none
          | none => none
        | _ => none
      else if 0xDC00 ≤ unit ∧ unit < 0xE000 then none
      else readString (Char.ofNat unit :: done) rest
  | '\\' :: c :: rest =>
    match simpleEscape? c with
    | some c => readString (c :: done) rest
    | none => none
  | c :: rest => if c.toNat < 0x20 then none else readString (c :: done) rest
  | [] => none

structure Numeral where
  negative : Bool
  whole : List Char
  fraction : List Char
  exponent? : Option Int
  deriving Repr

def readExponent? (text : List Char) : Option (Int × List Char) :=
  let (negative, text) := match text with
    | '-' :: rest => (true, rest)
    | '+' :: rest => (false, rest)
    | _ => (false, text)
  let digits := text.takeWhile Char.isDigit
  if digits.isEmpty then none
  else
    let n : Int := Text.numberOf 10 digits
    some (if negative then -n else n, text.dropWhile Char.isDigit)

def readNumeral? (text : List Char) : Option (Numeral × List Char) := do
  let (negative, text) := match text with
    | '-' :: rest => (true, rest)
    | _ => (false, text)
  let whole := text.takeWhile Char.isDigit
  let text := text.dropWhile Char.isDigit
  if whole.isEmpty ∨ (1 < whole.length ∧ whole.head? = some '0') then none
  let (fraction, text) ← match text with
    | '.' :: rest =>
      let digits := rest.takeWhile Char.isDigit
      if digits.isEmpty then none else some (digits, rest.dropWhile Char.isDigit)
    | _ => some ([], text)
  match text with
  | 'e' :: rest | 'E' :: rest =>
    let (exponent, rest) ← readExponent? rest
    return (⟨negative, whole, fraction, some exponent⟩, rest)
  | _ => return (⟨negative, whole, fraction, none⟩, text)

def Numeral.toFloat (n : Numeral) : Float :=
  let mantissa := Text.numberOf 10 (n.whole ++ n.fraction)
  let power := n.exponent?.getD 0 - n.fraction.length
  let value :=
    if mantissa = 0 then 0.0
    else if power < -(400 + (n.whole.length + n.fraction.length : Int)) then 0.0
    else if 400 < power then 1.0 / 0.0
    else Float.ofScientific mantissa (power < 0) power.natAbs
  if n.negative then -value else value

/-- A numeral without fraction and exponent is an integer if it fits 64 bits; a number that is
    too large for a double is refused. -/
def Numeral.toJson? (n : Numeral) : Option Json :=
  let magnitude := Text.numberOf 10 n.whole
  let plain := n.fraction.isEmpty && n.exponent?.isNone
  if plain && !n.negative && magnitude < Nat.pow 2 64 then some (.int magnitude)
  else if plain && n.negative && magnitude ≤ Nat.pow 2 63 && magnitude != 0 then some (.int (-magnitude))
  else
    let value := n.toFloat
    if value.isInf then none else some (.float value)

def readToken? : List Char → Option (Token × List Char)
  | '[' :: rest => some (.openArray, rest)
  | ']' :: rest => some (.closeArray, rest)
  | '\x7b' :: rest => some (.openObject, rest)
  | '\x7d' :: rest => some (.closeObject, rest)
  | ',' :: rest => some (.comma, rest)
  | ':' :: rest => some (.colon, rest)
  | '"' :: rest => (readString [] rest).map fun (s, rest) => (.value (.string s), rest)
  | 't' :: 'r' :: 'u' :: 'e' :: rest => some (.value (.bool true), rest)
  | 'f' :: 'a' :: 'l' :: 's' :: 'e' :: rest => some (.value (.bool false), rest)
  | 'n' :: 'u' :: 'l' :: 'l' :: rest => some (.value .null, rest)
  | text =>
    match readNumeral? text with
    | some (numeral, rest) => numeral.toJson?.map fun json => (.value json, rest)
    | none => none

/-- The tokens of a text, none if some part is no token. A token takes at least one character, so
    `steps` need not exceed the length of the text. -/
def tokensWithin (steps : Nat) (text : List Char) : Option (List Token) :=
  match steps, text.dropWhile isSpace with
  | _, [] => some []
  | 0, _ => none
  | steps + 1, text =>
    match readToken? text with
    | none => none
    | some (token, rest) => (tokensWithin steps rest).map (token :: ·)

def tokens? (text : List Char) : Option (List Token) :=
  tokensWithin text.length text

end TopicWiki.Json
