import TopicWiki.Markdown.Character
import TopicWiki.Markdown.Line
import TopicWiki.Markdown.Tag
import TopicWiki.Markdown.Tree
import TopicWiki.Text.CaseFold

namespace TopicWiki.Markdown

def isLabelGap (c : Char) : Bool :=
  isGap c || c == '\n'

def flatLabel : List Char → List Char
  | c :: rest =>
    if isLabelGap c then
      if rest.head?.any isLabelGap then flatLabel rest else ' ' :: flatLabel rest
    else c :: flatLabel rest
  | [] => []

/-- A label as it is compared: without regard to case and to the kind and number of blanks. -/
def normalLabel (label : List Char) : List Char :=
  Text.foldCase (flatLabel label)

/-- What labels refer to; of several definitions the first counts. -/
structure References where
  targets : List (List Char × Target) := []
  footnotes : List (List Char) := []

namespace References

def target? (r : References) (label : List Char) : Option Target :=
  r.targets.lookup (normalLabel label)

def define (r : References) (label : List Char) (target : Target) : References :=
  { r with targets := r.targets ++ [(normalLabel label, target)] }

end References

namespace Target

/-- Reads text up to an end character that no backslash stands before. Gives the text and the rest
    behind the end. Refuses some other characters. -/
def readUntil? (stop : Char) (refused : Char → Bool) :
    List Char → Option (List Char × List Char)
  | '\\' :: c :: rest =>
    (readUntil? stop refused rest).map fun (text, tail) => ('\\' :: c :: text, tail)
  | c :: rest =>
    if c == stop then some ([], rest)
    else if refused c then none
    else (readUntil? stop refused rest).map fun (text, tail) => (c :: text, tail)
  | [] => none

def maxNesting : Nat := 6

/-- Reads an address without blanks, whose parentheses are balanced, behind `depth` open ones. -/
def readBare? (depth : Nat) : List Char → Option (List Char × List Char)
  | '\\' :: c :: rest =>
    if isAsciiPunctuation c then
      (readBare? depth rest).map fun (text, tail) => ('\\' :: c :: text, tail)
    else (readBare? depth (c :: rest)).map fun (text, tail) => ('\\' :: text, tail)
  | c :: rest =>
    if c.toNat ≤ 0x20 then if depth = 0 then some ([], c :: rest) else none
    else if c = '(' then
      if depth = maxNesting then none
      else (readBare? (depth + 1) rest).map fun (text, tail) => (c :: text, tail)
    else if c = ')' then
      match depth with
      | 0 => some ([], c :: rest)
      | depth + 1 => (readBare? depth rest).map fun (text, tail) => (c :: text, tail)
    else (readBare? depth rest).map fun (text, tail) => (c :: text, tail)
  | [] => if depth = 0 then some ([], []) else none

def readAddress? : List Char → Option (List Char × List Char)
  | '<' :: rest => readUntil? '>' (fun c => c == '\n' || c == '<') rest
  | text => (readBare? 0 text).filter fun (address, _) => !address.isEmpty

def readTitle? : List Char → Option (List Char × List Char)
  | '"' :: rest => readUntil? '"' (fun _ => false) rest
  | '\'' :: rest => readUntil? '\'' (fun _ => false) rest
  | '(' :: rest => readUntil? ')' (· == '(') rest
  | _ => none

def make (address title : List Char) : Target :=
  ⟨unescape address, unescape (dropIndents false title)⟩

def readInline? : List Char → Option (Target × List Char)
  | '(' :: text =>
    match text.dropWhile isLabelGap with
    | ')' :: rest => some (make [] [], rest)
    | text =>
      match readAddress? text with
      | none => none
      | some (address, rest) =>
        match rest.dropWhile isLabelGap with
        | ')' :: rest => some (make address [], rest)
        | tail =>
          match readTitle? tail with
          | none => none
          | some (title, rest) =>
            match rest.dropWhile isLabelGap with
            | ')' :: rest => some (make address title, rest)
            | _ => none
  | _ => none

end Target

def isLabel : List Char → Bool
  | '\\' :: _ :: rest => isLabel rest
  | c :: rest => !isLabelGap c || isLabel rest
  | [] => false

def readLabel? : List Char → Option (List Char × List Char)
  | '[' :: text =>
    (Target.readUntil? ']' (· == '[') text).filter fun (label, _) => isLabel label
  | _ => none

def readNoteLabel? : List Char → Option (List Char × List Char)
  | '[' :: '^' :: text =>
    (readLabel? ('[' :: text)).filter fun (label, _) => !label.contains '\n'
  | _ => none

def afterLine? (text : List Char) : Option (List Char) :=
  match text.dropWhile isGap with
  | [] => some []
  | '\n' :: rest => some rest
  | _ => none

def readDefinition? (text : List Char) : Option (List Char × Target × List Char) := do
  let (label, rest) ← readLabel? text
  match rest with
  | ':' :: rest =>
    let (address, rest) ← Target.readAddress? (rest.dropWhile isLabelGap)
    let titled := do
      let tail := rest.dropWhile isLabelGap
      guard (tail.length < rest.length)
      let (title, rest) ← Target.readTitle? tail
      let rest ← afterLine? rest
      return (label, Target.make address title, rest)
    titled.orElse fun _ => do
      let rest ← afterLine? rest
      return (label, Target.make address [], rest)
  | _ => none

def takeDefinitions : (most : Nat) → References → List Char → References × List Char
  | 0, references, text => (references, text)
  | most + 1, references, text =>
    let text := text.dropWhile isIndent
    match readDefinition? text with
    | some (label, target, rest) => takeDefinitions most (references.define label target) rest
    | none => (references, text)

end TopicWiki.Markdown
