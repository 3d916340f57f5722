import TopicWiki.Text.Blank
import TopicWiki.Text.Occurrence

namespace TopicWiki

inductive InvalidTarget where
  | empty
  | noTopic
  | noCategory
  deriving DecidableEq, Repr

def InvalidTarget.message : InvalidTarget → String
  | .empty => "empty after parsing options"
  | .noTopic => "no topic found"
  | .noCategory => "no category found"

inductive LinkTarget where
  | index
  | topic (ident : String)
  | categoryTopic (category topic : String)
  | invalid (reason : InvalidTarget)
  deriving DecidableEq, Repr

/-- Reads a path: a slash alone is the index of the category, a path without slashes is a topic, and
    otherwise the first two segments that are not blank are a category and a topic. -/
def LinkTarget.ofPath (path : List Char) : LinkTarget :=
  match Text.nonBlank? path with
  | none => .invalid .empty
  | some path =>
    if path = ['/'] then .index
    else if !path.contains '/' then LinkTarget.topic (String.ofList path)
    else
      match (Text.splitOnChar '/' path).filterMap Text.nonBlank? with
      | first :: second :: _ => .categoryTopic (String.ofList first) (String.ofList second)
      | [_] => .invalid .noTopic
      | [] => .invalid .noCategory

inductive LinkOption where
  | text
  | description
  | className
  deriving DecidableEq, Repr

def LinkOption.delimiter : LinkOption → List Char
  | .text => ['=', '=']
  | .description => [':', '=']
  | .className => ['.', '=']

/-- A described link: `[$]target [== text] [:= description] [.= class]`. -/
structure LinkStatement where
  asObject : Bool
  target : LinkTarget
  text : Option String
  description : Option String
  className : Option String
  deriving DecidableEq, Repr

namespace LinkStatement

def found (input : List Char) : List (Nat × LinkOption) :=
  ([LinkOption.text, .description, .className].filterMap fun option =>
    (Text.cut? option.delimiter input).map fun (before, _) => (before.length, option)).mergeSort
      fun a b => a.1 ≤ b.1

/-- The delimiters that do not overlap one before them. `free` is the end of the last one. -/
def separate (free : Nat) : List (Nat × LinkOption) → List (Nat × LinkOption)
  | [] => []
  | (at_, option) :: rest =>
    if free ≤ at_ then (at_, option) :: separate (at_ + option.delimiter.length) rest
    else separate free rest

def delimiters (input : List Char) : List (Nat × LinkOption) :=
  separate 0 (found input)

def slice (input : List Char) (start stop : Nat) : List Char :=
  (input.take stop).drop start

def values (input : List Char) : List (Nat × LinkOption) → List (LinkOption × Option String)
  | [] => []
  | (at_, option) :: rest =>
    let stop := match rest with
      | (next, _) :: _ => next
      | [] => input.length
    let value := slice input (at_ + option.delimiter.length) stop
    (option, (Text.nonBlank? value).map String.ofList) :: values input rest

/-- Takes off the dollar sign that asks for an element, and further ones and spaces after it. -/
def cutSigil : List Char → Bool × List Char
  | '$' :: rest => (true, rest.dropWhile fun c => c == ' ' || c == '$')
  | input => (false, input)

def ofChars (input : List Char) : LinkStatement :=
  let (asObject, input) := cutSigil input
  let delimiters := delimiters input
  let pathEnd := match delimiters with
    | (at_, _) :: _ => at_
    | [] => input.length
  let values := values input delimiters
  let value (option : LinkOption) : Option String :=
    ((values.find? fun entry => entry.1 = option).map Prod.snd).join
  { asObject
    target := .ofPath (input.take pathEnd)
    text := value .text
    description := value .description
    className := value .className }

def parse (input : String) : LinkStatement :=
  ofChars input.toList

end LinkStatement

end TopicWiki
