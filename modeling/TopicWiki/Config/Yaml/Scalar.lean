import TopicWiki.Config.Setting
import TopicWiki.Config.Yaml.Token
import TopicWiki.Json.Token

namespace TopicWiki.Yaml

/-- The digits and the base of an unsigned integer. Digits behind a leading zero are none. -/
def integerDigits? (text : List Char) : Option (Nat × List Char) :=
  let checked (base : Nat) (digits : List Char) : Option (Nat × List Char) :=
    if !digits.isEmpty ∧ digits.all (Text.isDigitOf base) then some (base, digits) else none
  match text with
  | '0' :: 'x' :: digits => checked 16 digits
  | '0' :: 'o' :: digits => checked 8 digits
  | '0' :: 'b' :: digits => checked 2 digits
  | '0' :: _ :: _ => none
  | digits => checked 10 digits

def splitSign (text : List Char) : Bool × List Char :=
  match text with
  | '-' :: rest => (true, rest)
  | '+' :: rest => (false, rest)
  | _ => (false, text)

def integer? (text : List Char) : Option Int := do
  let (negative, text) := splitSign text
  let (base, digits) ← integerDigits? text
  let n := Text.numberOf base digits
  if negative then
    guard (n ≤ Nat.pow 2 127)
    return -n
  else
    guard (n < Nat.pow 2 128)
    return n

def ofInteger? (n : Int) : Option Json :=
  if -(Nat.pow 2 63 : Int) ≤ n ∧ n < (Nat.pow 2 64 : Int) then some (.int n) else none

def isPadded (text : List Char) : Bool :=
  match (splitSign text).2 with
  | '0' :: c :: rest => (c :: rest).all Char.isDigit
  | _ => false

def finite? (negative : Bool) (text : List Char) : Option Float := do
  let whole := text.takeWhile Char.isDigit
  let rest := text.drop whole.length
  let (fraction, rest) := match rest with
    | '.' :: rest => (rest.takeWhile Char.isDigit, rest.dropWhile Char.isDigit)
    | _ => ([], rest)
  guard !(whole.isEmpty && fraction.isEmpty)
  let exponent? ← match rest with
    | [] => some none
    | c :: rest =>
      if c = 'e' ∨ c = 'E' then
        match Json.readExponent? rest with
        | some (exponent, []) => some (some exponent)
        | _ => none
      else none
  let value := (Json.Numeral.mk negative whole fraction exponent?).toFloat
  guard !value.isInf
  return value

/-- The number that a text writes. Infinity has a sign or none, what is no number has none. -/
def float? (text : List Char) : Option Float :=
  let (negative, rest) := splitSign text
  if [".inf", ".Inf", ".INF"].contains (String.ofList rest) then
    some (if negative then -1.0 / 0.0 else 1.0 / 0.0)
  else if [".nan", ".NaN", ".NAN"].contains (String.ofList text) then some (0.0 / 0.0)
  else finite? negative rest

def ofFloat (x : Float) : Json :=
  if x.isFinite then .float x else .null

def isNull (text : String) : Bool :=
  ["~", "null", "Null", "NULL"].contains text

def flag? (text : String) : Option Bool :=
  if ["true", "True", "TRUE"].contains text then some true
  else if ["false", "False", "FALSE"].contains text then some false
  else none

/-- The data that a scalar without quotes and tag stands for. An integer of more than 64 bits is no
    data. -/
def plainValue? (s : String) : Option Json :=
  let text := s.toList
  match flag? s, integer? text, if isPadded text then none else float? text with
  | some b, _, _ => some (.bool b)
  | none, some n, _ => ofInteger? n
  | none, none, some x => some (ofFloat x)
  | none, none, none => some (if s.isEmpty ∨ isNull s then .null else .string s)

def commonTag (name : String) : String :=
  "tag:yaml.org,2002:" ++ name

def variant? (tag? : Option String) : Option String := do
  match (← tag?).toList with
  | ['!'] => return "!"
  | '!' :: rest => return String.ofList rest
  | _ => none

/-- The data that a scalar with a tag stands for. Tags that are not known make it a string. -/
def taggedValue? (tag text : String) : Option Json :=
  if (variant? tag).isSome then none
  else if tag = commonTag "bool" then (flag? text).map .bool
  else if tag = commonTag "int" then (integer? text.toList).bind ofInteger?
  else if tag = commonTag "float" then (float? text.toList).map ofFloat
  else if tag = commonTag "null" then if isNull text then some .null else none
  else some (.string text)

def readScalar (tag? : Option String) (style : Style) (text : String) : Scalar :=
  let plain := style = .plain
  let empty := text.isEmpty || isNull text
  { value? := match tag? with
      | some tag => taggedValue? tag text
      | none => if plain then plainValue? text else some (.string text)
    text? := some text
    flag? :=
      if plain ∨ (style = .literal ∧ tag? = some (commonTag "bool")) then flag? text else none
    absent? :=
      if !plain then some false
      else if tag? = some (commonTag "null") then if isNull text then some true else none
      else some (tag?.isNone && empty)
    omitted := plain && text.isEmpty
    word? := match variant? tag? with
      | some variant => if plain && empty then some variant else none
      | none => some text }

end TopicWiki.Yaml
