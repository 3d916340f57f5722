import TopicWiki.Extension.Callable
import TopicWiki.Template.Reader
import TopicWiki.Template.View

namespace TopicWiki.Template

def scopeVariable : String := "__folio_scope"

structure Machine where
  autoescape : Bool
  globals : Dictionary Value
  functions : Dictionary Callable
  filters : Dictionary Callable
  tests : Dictionary Callable
  site : Site
  nested : View.Nested
  load : String → EngineM (List Node)

abbrev Frames := List (Dictionary Value)

structure Scope where
  machine : Machine
  template : String
  frames : Frames

namespace Scope

def lookup? (scope : Scope) (name : String) : Option Value :=
  (scope.frames.findSome? fun frame => frame.find? name).or (scope.machine.globals.find? name)

def renderScope? (scope : Scope) : Option RenderScope :=
  match scope.lookup? scopeVariable with
  | some (.view (.scope s)) => some s
  | _ => none

def invoke (scope : Scope) (callable : Callable) (arguments : List Value) : EngineM Value :=
  callable.invoke (some ⟨scope.template, scope.lookup?⟩)
    (scope.renderScope?.map fun s => ⟨scope.machine.site, s⟩) arguments

def callValue (scope : Scope) (callee : Value) (arguments : List Value) : EngineM Value :=
  match callee with
  | .view (.function name) =>
    match scope.machine.functions.find? name with
    | some callable => scope.invoke callable arguments
    | none => throw (.plain .unknownFunction (name ++ " is unknown"))
  | .view _ | .list _ | .map _ => throw (.invalid "object is not callable")
  | v => throw (.invalid ("value of type " ++ v.kind ++ " is not callable"))

def callNamed (scope : Scope) (name : String) (arguments : List Value) : EngineM Value :=
  match scope.lookup? name with
  | some callee => scope.callValue callee arguments
  | none => throw (.plain .unknownFunction (name ++ " is unknown"))

def member? (target key : Value) : Running (Option Value) := do
  match target with
  | .view view =>
    match key.string? with
    | some name => view.attribute? name
    | none => return none
  | .map entries => return Value.entry? (← get).viewOrder key entries
  | .list items => return key.int?.bind (Value.itemAt? items)
  | .text s _ =>
    return (key.int?.bind (Value.itemAt? s.toList)).map fun c => .plain (String.singleton c)
  | _ => return none

/-- An attribute or item of a value. What is missing is undefined; undefined has no members. -/
def member (target key : Value) : EngineM Value := do
  match ← member? target key with
  | some v => return v
  | none => if target.isUndefined then throw (.mk .undefinedError none none) else return .undefined

def callOwnMethod (scope : Scope) (target : Value) (method : String) (arguments : List Value) :
    EngineM Value :=
  match target with
  | .view (.topic id) => View.callTopic scope.machine.nested scope.renderScope? id method
  | .view (.category id) => View.callCategory id method arguments
  | .view .renderer => View.callRenderer scope.machine.nested scope.renderScope? method arguments
  | .view (.element id) => View.callElement id method arguments
  | v => throw (View.unknownMethod v.kind method)

/-- Calls a method of a value. What is no method of its own is a member that is called. -/
def callMethod (scope : Scope) (target : Value) (method : String) (arguments : List Value) :
    EngineM Value :=
  tryCatch (scope.callOwnMethod target method arguments) fun e => do
    if e.kind ≠ .unknownMethod then throw e
    match ← member? target (.plain method) with
    | some callee => scope.callValue callee arguments
    | none => throw e

def unaided (arguments : List Value) (answer : Except EngineError α) : EngineM α :=
  if 1 < arguments.length then throw (.mk .tooManyArguments none none) else answer

def lengthOf (input : Value) : Except EngineError Value :=
  match input.length? with
  | some n => .ok (.int n)
  | none => .error (.invalid ("cannot calculate length of value of type " ++ input.kind))

def applyFilter (scope : Scope) (name : String) (arguments : List Value) : EngineM Value :=
  let input := arguments.headD .undefined
  match scope.machine.filters.find? name with
  | some callable => scope.invoke callable arguments
  | none =>
    if name = "length" then unaided arguments (lengthOf input)
    else throw (.plain .unknownFilter ("filter " ++ name ++ " is unknown"))

def performTest (scope : Scope) (name : String) (arguments : List Value) : EngineM Bool := do
  let input := arguments.headD .undefined
  match scope.machine.tests.find? name with
  | some callable => return (← scope.invoke callable arguments).isTrue
  | none =>
    match name with
    | "defined" => unaided arguments (.ok !input.isUndefined)
    | "undefined" => unaided arguments (.ok input.isUndefined)
    | "none" => unaided arguments (.ok input.isNone)
    | _ => throw (.plain .unknownTest ("test " ++ name ++ " is unknown"))

def opposite (v : Value) : Except EngineError Value :=
  match v with
  | .int n =>
    let bound : Int := Nat.pow 2 127
    if bound < n then .error (.mk .invalidOperation none none)
    else if n = -bound then .error (.invalid "overflow")
    else .ok (.int (-n))
  | .float x => .ok (.float (-x))
  | _ => .error (.mk .invalidOperation none none)

mutual
def eval (scope : Scope) : Expr → EngineM Value
  | .literal v => return v
  | .name name => return (scope.lookup? name).getD .undefined
  | .attribute target name => do
    member (← eval scope target) (.plain name)
  | .item target key => do
    let target ← eval scope target
    member target (← eval scope key)
  | .call (.name name) arguments => do
    scope.callNamed name (← evalAll scope arguments)
  | .call (.attribute target method) arguments => do
    let target ← eval scope target
    scope.callMethod target method (← evalAll scope arguments)
  | .call callee arguments => do
    let callee ← eval scope callee
    scope.callValue callee (← evalAll scope arguments)
  | .filter input name arguments => do
    let input ← eval scope input
    scope.applyFilter name (input :: (← evalAll scope arguments))
  | .test input name arguments negated => do
    let input ← eval scope input
    let result ← scope.performTest name (input :: (← evalAll scope arguments))
    return .bool (result != negated)
  | .choose condition then_ else_ => do
    if (← eval scope condition).isTrue then eval scope then_
    else evalOption scope else_
  | .compare first links => do
    let first ← eval scope first
    return .bool (← evalLinks scope first links)
  | .or left right => do
    let left ← eval scope left
    if left.isTrue then return left else eval scope right
  | .and left right => do
    let left ← eval scope left
    if left.isTrue then eval scope right else return left
  | .not operand => do
    return .bool !(← eval scope operand).isTrue
  | .negate operand => do
    opposite (← eval scope operand)
  | .list items => return .list (← evalAll scope items)
  | .map entries => do
    let entries ← evalEntries scope entries
    return .ofEntries (← get).viewOrder entries

def evalOption (scope : Scope) : Option Expr → EngineM Value
  | none => return .undefined
  | some e => eval scope e

/-- Whether all comparisons behind a value hold; none is evaluated after one that does not. -/
def evalLinks (scope : Scope) (left : Value) : List (Bool × Expr) → EngineM Bool
  | [] => return true
  | (negated, operand) :: rest => do
    let right ← eval scope operand
    if left.same (← get).viewOrder right != negated then evalLinks scope right rest
    else return false

def evalAll (scope : Scope) : List Expr → EngineM (List Value)
  | [] => return []
  | e :: rest => do
    let v ← eval scope e
    return v :: (← evalAll scope rest)

def evalEntries (scope : Scope) : List (Expr × Expr) → EngineM (List (Value × Value))
  | [] => return []
  | (key, value) :: rest => do
    let key ← eval scope key
    let value ← eval scope value
    return (key, value) :: (← evalEntries scope rest)
end

end Scope

/-- The state of a template that runs: its variables, what it has written, and, once it extends
    another template, that template. From then on its own text is dropped, and so is that of the
    templates it includes. -/
structure Progress where
  frames : Frames
  written : String := ""
  discarded : Bool := false
  parent? : Option (List Node) := none
  blocks : List (String × List Node)
  extended : List String
  depth : Nat

namespace Progress

def drops (p : Progress) : Bool :=
  p.discarded || p.parent?.isSome

def write (p : Progress) (text : String) : Progress :=
  if p.drops then p else { p with written := p.written ++ text }

def assign (p : Progress) (name : String) (value : Value) : Progress :=
  match p.frames with
  | frame :: rest => { p with frames := frame.insert name value :: rest }
  | [] => { p with frames := [Dictionary.insert {} name value] }

end Progress

/-- How many frames and included templates may be stacked, an include counting as ten. -/
def maxStack : Nat := 500

def includeCost : Nat := 10

def tooDeep : EngineError := .invalid "recursion limit exceeded"

def pushFrame (p : Progress) : Except EngineError Progress :=
  if maxStack < p.depth + p.frames.length then .error tooDeep
  else .ok { p with frames := {} :: p.frames }

def popFrame (p : Progress) : Progress :=
  { p with frames := p.frames.tail }

abbrev Inclusion := (template : String) → Progress → EngineM Progress

section

variable (machine : Machine) (template : String) (inclusion : Inclusion)

def Progress.scope (p : Progress) : Scope :=
  ⟨machine, template, p.frames⟩

def printValue (p : Progress) (v : Value) : EngineM Progress := do
  return p.write (v.emitted (← get).describe machine.autoescape)

def badName : EngineError := .invalid "template name was not a string"

/-- The name of a template to include: a text, or the first of several. There is none in an empty
    list or map, nor in a view. -/
def templateName? (v : Value) : Except EngineError (Option String) :=
  let choice (v : Value) : Except EngineError (Option String) :=
    match v.string? with
    | some name => .ok (some name)
    | none => .error badName
  match v with
  | .list [] | .map [] | .view _ => .ok none
  | .list (first :: _) | .map ((first, _) :: _) => choice first
  | v => choice v

def extendTemplate (p : Progress) (name : Value) : EngineM Progress := do
  if p.parent?.isSome then throw (.invalid "tried to extend a second time in a template")
  match name.string? with
  | none => throw badName
  | some name =>
    if p.extended.contains name then
      throw (.invalid ("cycle in template inheritance. " ++ Value.quoted name ++
        " was referenced more than once"))
    let parent ← machine.load name
    return { p with
      parent? := some parent
      extended := name :: p.extended
      blocks := p.blocks ++ blocksOf parent }

mutual
/-- Runs one node of a template; the body of a named block is run by `runBlock`. -/
def run (runBlock : List Node → Progress → EngineM Progress) : Node → Progress → EngineM Progress
  | .text source, p => return p.write source
  | .print e, p => do
    printValue machine p (← (p.scope machine template).eval e)
  | .ifElse condition then_ else_, p => do
    if (← (p.scope machine template).eval condition).isTrue then runAll runBlock then_ p
    else runAll runBlock else_ p
  | .forIn target items body else_, p => do
    let items ← (p.scope machine template).eval items
    match items.items? with
    | none => throw (.invalid (items.kind ++ " is not iterable"))
    | some items => do
      discard (pushFrame p)
      let p ← items.foldlM (fun p item => do
        let p ← pushFrame p
        return popFrame (← runAll runBlock body (p.assign target item))) p
      if items.isEmpty then runAll runBlock else_ p else return p
  | .assign target value, p => do
    return p.assign target (← (p.scope machine template).eval value)
  | .withNames bindings body, p => do
    let p ← pushFrame p
    let p ← bindAll bindings p
    return popFrame (← runAll runBlock body p)
  | .insert e, p => do
    match ← templateName? (← (p.scope machine template).eval e) with
    | some name => inclusion name p
    | none => return p
  | .extend e, p => do
    extendTemplate machine p (← (p.scope machine template).eval e)
  | .block name body, p => do
    if p.drops then return p
    let body := ((p.blocks.find? fun entry => entry.1 = name).map Prod.snd).getD body
    let p ← pushFrame p
    return popFrame (← runBlock body p)

def runAll (runBlock : List Node → Progress → EngineM Progress) :
    List Node → Progress → EngineM Progress
  | [], p => return p
  | node :: rest, p => do
    runAll runBlock rest (← run runBlock node p)

def bindAll : List (String × Expr) → Progress → EngineM Progress
  | [], p => return p
  | (name, e) :: rest, p => do
    bindAll rest (p.assign name (← (p.scope machine template).eval e))
end

def runNodes : (levels : Nat) → List Node → Progress → EngineM Progress
  | 0, _, _ => throw tooDeep
  | levels + 1, nodes, p => runAll machine template inclusion (runNodes levels) nodes p

def continueWith (next : List Node → Progress → EngineM Progress) (p : Progress) :
    EngineM Progress :=
  match p.parent? with
  | none => return p
  | some parent => next parent { p with parent? := none }

def runChain : (extensions : Nat) → List Node → Progress → EngineM Progress
  | 0, nodes, p => do
    let p ← runNodes machine template inclusion (maxStack + 2) nodes p
    continueWith (fun _ _ => throw tooDeep) p
  | extensions + 1, nodes, p => do
    let p ← runNodes machine template inclusion (maxStack + 2) nodes p
    continueWith (runChain extensions) p

end

/-- A template extends another at most once for each source there is. -/
def State.extensionBound (s : State) : Nat :=
  s.store.categories.foldr (fun c bound => c.document.includes.size + bound) (s.sources.size + 2)

/-- Runs a template that another one includes, at most `levels` deep. An error in it is the cause of
    the error of the including one. -/
def runIncluded (machine : Machine) : (levels : Nat) → (template : String) → Progress →
    EngineM Progress
  | 0, _, _ => throw tooDeep
  | levels + 1, template, p => do
    let nodes ← machine.load template
    if maxStack < p.depth + includeCost + p.frames.length then throw tooDeep
    let start : Progress :=
      { frames := p.frames
        discarded := p.drops
        blocks := blocksOf nodes
        extended := p.extended
        depth := p.depth + includeCost }
    let bound := State.extensionBound (← get)
    let run := runChain machine template (runIncluded machine levels) bound nodes start
    let q ← run.adapt fun e =>
      .mk .badInclude (some ("error in \"" ++ template ++ "\"")) (some (.engine e))
    return { p with frames := q.frames }.write q.written

def maxIncludes : Nat := maxStack / includeCost

def runDocument (machine : Machine) (template : String) (nodes : List Node)
    (bindings : Dictionary Value) : EngineM String := do
  let start : Progress :=
    { frames := [bindings], blocks := blocksOf nodes, extended := [], depth := 0 }
  let bound := State.extensionBound (← get)
  let p ← runChain machine template (runIncluded machine maxIncludes) bound nodes start
  return p.written

end TopicWiki.Template
