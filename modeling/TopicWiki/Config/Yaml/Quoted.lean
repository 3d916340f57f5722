import TopicWiki.Config.Yaml.Gap
import TopicWiki.Text.Digit

namespace TopicWiki.Yaml

def simpleEscape? : Char → Option Char
  | '0' => some (Char.ofNat 0)
  | 'a' => some (Char.ofNat 7)
  | 'b' => some (Char.ofNat 8)
  | 't' | '\t' => some '\t'
  | 'n' => some '\n'
  | 'v' => some (Char.ofNat 11)
  | 'f' => some (Char.ofNat 12)
  | 'r' => some '\r'
  | 'e' => some (Char.ofNat 27)
  | ' ' => some ' '
  | '"' => some '"'
  | '/' => some '/'
  | '\\' => some '\\'
  | 'N' => some (Char.ofNat 0x85)
  | '_' => some (Char.ofNat 0xA0)
  | 'L' => some (Char.ofNat 0x2028)
  | 'P' => some (Char.ofNat 0x2029)
  | _ => none

def escapeWidth? : Char → Option Nat
  | 'x' => some 2
  | 'u' => some 4
  | 'U' => some 8
  | _ => none

def readEscape? (text : List Char) : Option (Char × Nat) := do
  let c ← text.head?
  match simpleEscape? c with
  | some shown => return (shown, 1)
  | none =>
    let width ← escapeWidth? c
    let digits := text.tail.take width
    guard (digits.length = width ∧ digits.all (Text.isDigitOf 16))
    let code := Text.numberOf 16 digits
    guard (code ≤ 0x10FFFF ∧ ¬(0xD800 ≤ code ∧ code < 0xE000))
    return (Char.ofNat code, width + 1)

/-- Reads a quoted scalar behind its quote, in at most `most` steps. Only a single quote is doubled
    and only a double one has escapes; an escaped line break stands for nothing. -/
def readQuoted? (quote : Char) : (most : Nat) → (done : List Char) → Cursor →
    Option (List Char × Cursor)
  | 0, _, _ => none
  | most + 1, done, p =>
    if p.atMark then none
    else
      match p.ahead with
      | [] => none
      | c :: rest =>
        if c = quote then
          if quote = '\'' ∧ rest.head? = some '\'' then
            readQuoted? quote most ('\'' :: done) (p.skip 2)
          else some (done.reverse, p.skip 1)
        else if c = '\\' ∧ quote = '"' then
          if rest.head?.any isBreak then do
            let (gap, p) ← Gap.read? 0 rest.length { broken := true } (p.skip 1).skipBreak.2
            readQuoted? quote most (gap.breaks ++ done) p
          else do
            let (shown, length) ← readEscape? rest
            readQuoted? quote most (shown :: done) (p.skip (length + 1))
        else if isBlank c || isBreak c then do
          let (gap, p) ← Gap.read? 0 (rest.length + 2) {} p
          readQuoted? quote most (gap.text.reverse ++ done) p
        else readQuoted? quote most (c :: done) (p.skip 1)

end TopicWiki.Yaml
