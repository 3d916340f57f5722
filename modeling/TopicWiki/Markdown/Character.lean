import TopicWiki.Markdown.Entity
import TopicWiki.Markdown.Punctuation
import TopicWiki.Text.Digit

namespace TopicWiki.Markdown

def characterAt (code : Nat) : Char :=
  if code = 0 ∨ 0x10FFFF < code ∨ (0xD800 ≤ code ∧ code < 0xE000) then Char.ofNat 0xFFFD
  else Char.ofNat code

def readNumber? (base most : Nat) (text : List Char) : Option (List Char × Nat) :=
  let digits := text.takeWhile (Text.isDigitOf base)
  if digits.isEmpty ∨ most < digits.length then none
  else
    match text.drop digits.length with
    | ';' :: _ => some ([characterAt (Text.numberOf base digits)], digits.length + 1)
    | _ => none

/-- Reads a reference to a character by its number, or to one or two characters by a name. Gives the
    length of the reference. -/
def readCharacter? : List Char → Option (List Char × Nat)
  | '&' :: '#' :: 'x' :: rest | '&' :: '#' :: 'X' :: rest =>
    (readNumber? 16 6 rest).map fun (shown, length) => (shown, length + 3)
  | '&' :: '#' :: rest =>
    (readNumber? 10 7 rest).map fun (shown, length) => (shown, length + 2)
  | '&' :: rest =>
    let name := rest.takeWhile Char.isAlphanum
    match rest.drop name.length with
    | ';' :: _ =>
      (Entity.characters? (String.ofList name)).map fun shown => (shown, name.length + 2)
    | _ => none
  | _ => none

def unescapeFrom : (skip : Nat) → List Char → List Char
  | _, [] => []
  | skip + 1, _ :: rest => unescapeFrom skip rest
  | 0, c :: rest =>
    match c, rest.head?, readCharacter? (c :: rest) with
    | '\\', some next, _ =>
      if isAsciiPunctuation next then next :: unescapeFrom 1 rest else c :: unescapeFrom 0 rest
    | _, _, some (shown, length) => shown ++ unescapeFrom (length - 1) rest
    | _, _, none => c :: unescapeFrom 0 rest

def unescape (text : List Char) : List Char :=
  unescapeFrom 0 text

end TopicWiki.Markdown
