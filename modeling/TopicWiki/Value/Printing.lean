import TopicWiki.Decimal.Shortest
import TopicWiki.Text.Entity
import TopicWiki.Text.Printable
import TopicWiki.Value

namespace TopicWiki.Value

def quotedChar (c : Char) : List Char :=
  match c with
  | '"' => ['\\', '"']
  | '\\' => ['\\', '\\']
  | '\n' => ['\\', 'n']
  | '\r' => ['\\', 'r']
  | '\t' => ['\\', 't']
  | '\x00' => ['\\', '0']
  | _ =>
    if Text.isHidden c then "\\u\x7b".toList ++ Nat.toDigits 16 c.toNat ++ ['\x7d'] else [c]

def quoted (s : String) : String :=
  "\"" ++ String.ofList (s.toList.flatMap quotedChar) ++ "\""

def printedBool (b : Bool) : String :=
  if b then "True" else "False"

mutual
def nested (describe : View → String) : Value → String
  | .undefined => "undefined"
  | .none => "None"
  | .bool b => printedBool b
  | .int n => toString n
  | .float x => Decimal.nestedFloat x
  | .text s _ => quoted s
  | .list items => "[" ++ ", ".intercalate (nestedItems describe items) ++ "]"
  | .map entries => "\x7b" ++ ", ".intercalate (nestedEntries describe entries) ++ "\x7d"
  | .view v => describe v

def nestedItems (describe : View → String) : List Value → List String
  | [] => []
  | item :: rest => nested describe item :: nestedItems describe rest

def nestedEntries (describe : View → String) : List (Value × Value) → List String
  | [] => []
  | (key, value) :: rest =>
    (nested describe key ++ ": " ++ nested describe value) :: nestedEntries describe rest
end

/-- The printed form of a value. Undefined prints as nothing and text as it stands. -/
def printed (describe : View → String) : Value → String
  | .undefined => ""
  | .text s _ => s
  | .float x => Decimal.printedFloat x
  | v => nested describe v

/-- What a template writes for a value: with automatic escaping, all but safe text is escaped. -/
def emitted (describe : View → String) (autoescape : Bool) (v : Value) : String :=
  if autoescape && !v.isSafe then (v.printed describe).escapePrinted else v.printed describe

end TopicWiki.Value
