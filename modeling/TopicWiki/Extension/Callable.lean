import TopicWiki.Wiki.Site
import TopicWiki.Wiki.State

namespace TopicWiki

inductive CallableKind where
  | function
  | filter
  | test
  deriving DecidableEq, Repr

def CallableKind.label : CallableKind → String
  | .function => "function"
  | .filter => "filter"
  | .test => "test"

inductive Safety where
  | none
  | all
  | contexts (names : List String)
  deriving DecidableEq, Repr

def Safety.coversHtml : Safety → Bool
  | .none => false
  | .all => true
  | .contexts names => names.any fun name => name == "html" || name == "all"

structure Deprecation where
  alternative? : Option String
  deriving DecidableEq, Repr

/-- The rules that hold for every call. Escaping the input and keeping its safety are for filters
    only, the mandatory argument is for tests only. -/
structure CallRules where
  variadic : Bool := false
  maxArgs? : Option Nat := none
  deprecated? : Option Deprecation := none
  safety : Safety := .none
  needsEngine : Bool := false
  needsContext : Bool := false
  preEscape : Bool := false
  preservesSafety : Bool := false
  oneMandatoryArgument : Bool := false
  deriving DecidableEq, Repr

structure EngineView where
  template : String
  lookup : String → Option Value

structure ActiveRender where
  site : Site
  scope : RenderScope

structure CallSite where
  name : String
  engine? : Option EngineView
  render? : Option ActiveRender

def CallSite.requireRender (site : CallSite) : Except EngineError ActiveRender :=
  match site.render? with
  | some render => .ok render
  | none => .error (.invalid ("'" ++ site.name ++ "' can only be called while rendering a topic"))

abbrev Handler := CallSite → List Value → EngineM Value

structure Callable where
  name : String
  kind : CallableKind
  handler : Handler
  options : CallRules

namespace Callable

def deprecationNotice (c : Callable) (d : Deprecation) : String :=
  c.kind.label ++ " '" ++ c.name ++ "' is deprecated" ++
    match d.alternative? with
    | some alternative => "; use '" ++ alternative ++ "' instead"
    | none => ""

/-- The arguments as the handler gets them. Of too many, a variadic callable gets the excess as one
    list. -/
def pack (c : Callable) (arguments : List Value) : Except EngineError (List Value) :=
  match c.options.maxArgs? with
  | none => .ok arguments
  | some most =>
    if arguments.length ≤ most then .ok arguments
    else if c.options.variadic then .ok (arguments.take most ++ [.list (arguments.drop most)])
    else
      .error (.plain .tooManyArguments
        (c.kind.label ++ " '" ++ c.name ++ "' takes at most " ++ toString most ++ " arguments"))

def checkMandatory (c : Callable) (arguments : List Value) : Except EngineError Unit :=
  if c.kind = .test ∧ c.options.oneMandatoryArgument ∧ arguments.length ≠ 2 then
    .error (.plain .missingArgument ("test '" ++ c.name ++ "' takes exactly one argument"))
  else .ok ()

/-- The arguments of a filter that escapes its input: unless safe, the input is printed, escaped and
    marked safe. -/
def escapeInput (c : Callable) (describe : View → String) : List Value → List Value
  | first :: rest =>
    if c.kind = .filter ∧ c.options.preEscape ∧ !first.isSafe then
      .safe (String.ofList (Text.escapeText (first.printed describe).toList)) :: rest
    else first :: rest
  | [] => []

def marksSafe (c : Callable) (arguments : List Value) : Bool :=
  c.options.safety.coversHtml ||
    (c.kind == .filter && c.options.preservesSafety && arguments.head?.any Value.isSafe)

def invoke (c : Callable) (engine? : Option EngineView) (render? : Option ActiveRender)
    (arguments : List Value) : EngineM Value := do
  if let some d := c.options.deprecated? then State.warn (c.deprecationNotice d)
  let packed ← c.pack arguments
  c.checkMandatory packed
  let given := c.escapeInput (← get).describe packed
  let site : CallSite :=
    { name := c.name
      engine? := if c.options.needsEngine then engine? else none
      render? := if c.options.needsContext then render? else none }
  let result ← c.handler site given
  return if c.marksSafe given then result.markSafe else result

end Callable

namespace Value

/-- An argument; undefined and none count as absent. -/
def argument? (arguments : List Value) (index : Nat) : Option Value :=
  (arguments[index]?).filter fun v => !v.isAbsent

def argumentText? (s : State) (arguments : List Value) (index : Nat) : Option String :=
  (argument? arguments index).map s.printed

def argumentFlag (arguments : List Value) (index : Nat) : Bool :=
  (argument? arguments index).any isTrue

def requiredText (s : State) (arguments : List Value) (index : Nat) (what : String) :
    Except EngineError String :=
  match argumentText? s arguments index with
  | some shown => .ok shown
  | Option.none => .error (.plain .missingArgument ("missing required argument '" ++ what ++ "'"))

end Value

end TopicWiki
