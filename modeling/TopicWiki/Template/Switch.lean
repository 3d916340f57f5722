import TopicWiki.Template.Tag

namespace TopicWiki.Template.Switch

inductive CaseMode where
  | plain
  | quoted (quote : Char)
  | escaped (quote : Char)
  | inOr
  deriving DecidableEq, Repr

def endsOr : List Char → Bool
  | 'r' :: rest => rest.head?.all Text.isBlank
  | _ => false

def consPiece (c : Char) : List (List Char) → List (List Char)
  | [] => [[c]]
  | piece :: pieces => (c :: piece) :: pieces

/-- The pieces of case arguments between the commas and the words `or` that stand outside quotes and
    brackets. The word `or` counts only between blanks or ends. `before` is the character in front of
    the text and `depth` the number of open brackets. -/
def casePieces (mode : CaseMode) (before : Option Char) (depth : Int) :
    List Char → List (List Char)
  | [] => [[]]
  | c :: rest =>
    match mode with
    | .quoted q =>
      let next := if c = '\\' then .escaped q else if c = q then .plain else .quoted q
      consPiece c (casePieces next (some c) depth rest)
    | .escaped q => consPiece c (casePieces (.quoted q) (some c) depth rest)
    | .inOr => casePieces .plain (some c) depth rest
    | .plain =>
      if c = '"' ∨ c = '\'' then consPiece c (casePieces (.quoted c) (some c) depth rest)
      else if c = '(' ∨ c = '[' ∨ c = '\x7b' then
        consPiece c (casePieces .plain (some c) (depth + 1) rest)
      else if c = ')' ∨ c = ']' ∨ c = '\x7d' then
        consPiece c (casePieces .plain (some c) (depth - 1) rest)
      else if c = ',' ∧ depth = 0 then [] :: casePieces .plain (some c) depth rest
      else if c = 'o' ∧ depth = 0 ∧ before.all Text.isBlank ∧ endsOr rest then
        [] :: casePieces .inOr (some c) depth rest
      else consPiece c (casePieces .plain (some c) depth rest)

def caseValues (arguments : List Char) : List (List Char) :=
  (casePieces .plain none 0 arguments).filterMap Text.nonBlank?

structure Part where
  marker : Statement
  body : List Char
  deriving DecidableEq, Repr

/-- The source before the first marker, and the parts. `depth` switches are open. -/
def partsAt (depth : Nat) : List Located → List Char → List Char × List Part
  | [], tail => (tail, [])
  | located :: rest, tail =>
    let name := located.statement.name
    let inner (depth : Nat) :=
      let (body, parts) := partsAt depth rest tail
      (located.gap ++ located.statement.source ++ body, parts)
    if name = "switch" then inner (depth + 1)
    else if name = "endswitch" then inner (depth - 1)
    else if depth = 0 ∧ (name = "case" ∨ name = "default") then
      let (body, parts) := partsAt 0 rest tail
      (located.gap, ⟨located.statement, body⟩ :: parts)
    else inner depth

def tailAfter (located : List Located) (source : List Char) : List Char :=
  source.drop (located.foldr (fun l length => l.gap.length + l.statement.source.length + length) 0)

/-- The source before the first branch of a body, and its branches; the markers of switches inside
    it are not its own. -/
def parts (body : List Char) : List Char × List Part :=
  let located := statements body
  partsAt 0 located (tailAfter located body)

structure Branch where
  values? : Option (List (List Char))
  body : List Char
  deriving DecidableEq, Repr

inductive Fault where
  | noSubject
  | textBeforeCase
  | afterDefault
  | noValue
  deriving DecidableEq, Repr

def Fault.message : Fault → String
  | .noSubject => "expects an expression"
  | .textBeforeCase => "only whitespace may precede the first case"
  | .afterDefault => "default must be the last branch"
  | .noValue => "case expects at least one value"

/-- The branches of a switch. A dash on the inner side of a marker removes the blanks there. -/
def branches (seenDefault : Bool) : List Part → Except Fault (List Branch)
  | [] => pure []
  | part :: rest => do
    let body := if part.marker.trimAfter then Text.trimStart part.body else part.body
    let nextTrims := rest.head?.any fun next => next.marker.trimBefore
    let body := if nextTrims then Text.trimEnd body else body
    if seenDefault then throw .afterDefault
    if part.marker.name = "default" then
      return ⟨none, body⟩ :: (← branches true rest)
    let values := caseValues part.marker.arguments
    if values.isEmpty then throw .noValue
    return ⟨some values, body⟩ :: (← branches false rest)

def statementText (words : List Char) : List Char :=
  "\x7b% ".toList ++ words ++ " %\x7d".toList

def condition (variable_ : List Char) (values : List (List Char)) : List Char :=
  List.intercalate " or ".toList
    (values.map fun value => variable_ ++ " == (".toList ++ value ++ [')'])

def chain (variable_ : List Char) (first : Bool) : List Branch → List Char
  | [] => if first then [] else statementText "endif".toList
  | ⟨some values, body⟩ :: rest =>
    let keyword := if first then "if ".toList else "elif ".toList
    statementText (keyword ++ condition variable_ values) ++ body ++ chain variable_ false rest
  | ⟨none, body⟩ :: rest =>
    (if first then [] else statementText "else".toList) ++ body ++ chain variable_ first rest

def subjectVariable (serial : Nat) : List Char :=
  "__switch_".toList ++ Nat.toDigits 10 serial

def expandBlock (serial : Nat) (arguments body : List Char) : Except Fault (List Char) := do
  let subject := Text.trim arguments
  if subject.isEmpty then throw .noSubject
  let (preamble, parts) := parts body
  if !Text.allBlank preamble then throw .textBeforeCase
  let branches ← branches false parts
  let variable_ := subjectVariable serial
  return statementText ("with ".toList ++ variable_ ++ " = (".toList ++ subject ++ [')']) ++
    chain variable_ true branches ++ statementText "endwith".toList

def tag : Tag where
  name := "switch"
  endName := "endswitch"
  expand serial block :=
    (expandBlock serial block.arguments block.body).mapError fun fault =>
      ⟨"switch", block.template, fault.message⟩

end TopicWiki.Template.Switch
