import TopicWiki.Extension.Basic
import TopicWiki.Template.Evaluator

namespace TopicWiki

structure Engine where
  autoescape : Bool := false
  hasLoader : Bool := false
  globals : Dictionary Value := {}
  functions : Dictionary Callable := {}
  filters : Dictionary Callable := {}
  tests : Dictionary Callable := {}
  transforms : Template.Transforms := {}

namespace Engine

def supportsTags : Bool := true

def supportsVisitors : Bool := true

def supportsOperators : Bool := false

def attachLoader (e : Engine) : Engine :=
  { e with hasLoader := true }

def overlay (base added : Dictionary α) : Dictionary α :=
  added.entries.foldl (fun d entry => d.insert entry.1 entry.2) base

/-- Installs the symbols of an extension. Operators cannot be installed. -/
def install (e : Engine) (x : Extension) : Except ConfigError Engine :=
  let t := x.symbols
  match t.unary.values ++ t.binary.values with
  | operator :: _ => .error (.unsupported "operators" operator.symbol)
  | [] =>
    .ok { e with
      globals := t.functions.keys.foldl (fun d name => d.insert name (.view (.function name)))
        e.globals
      functions := overlay e.functions t.functions
      filters := overlay e.filters t.filters
      tests := overlay e.tests t.tests
      transforms :=
        { tags := e.transforms.tags ++ t.tags
          visitors := e.transforms.visitors ++ t.visitors } }

def transform (e : Engine) (template source : String) : ExceptT Template.TagError Running String :=
  fun s =>
    let (result, serials) := e.transforms.apply template source s.serials
    (result, { s with serials })

def malformed : Template.Malformed → EngineError
  | .grammar => .mk .syntaxError none none
  | .escape => .mk .badEscape none none

def read (source : String) : Except EngineError (List Template.Node) :=
  (Template.read source).mapError malformed

/-- The template that another one names. It is read once; failures are not remembered. -/
def load (e : Engine) (name : String) : EngineM (List Template.Node) := do
  match (← get).templates.find? name with
  | some nodes => return nodes
  | none =>
    let source ← (State.resolveSource name).adapt fun cause =>
      .mk .invalidOperation (some cause.message) (some (.loader cause))
    let source ← (e.transform name source).adapt fun cause =>
      .mk .syntaxError (some cause.message) (some (.tag cause))
    let nodes ← read source
    modify fun s => { s with templates := s.templates.insert name nodes }
    return nodes

def machine (e : Engine) (site : Site) (nested : View.Nested) : Template.Machine :=
  { autoescape := e.autoescape
    globals := e.globals
    functions := e.functions
    filters := e.filters
    tests := e.tests
    site
    nested
    load := e.load }

def render (e : Engine) (site : Site) (nested : View.Nested) (name : String)
    (bindings : Dictionary Value) (scope : RenderScope) : RenderM String := do
  if !e.hasLoader then throw (.config .noLoader)
  let source ← (State.resolveSource name).adapt .loader
  let source ← (e.transform name source).adapt .tag
  let bindings := bindings.insert Template.scopeVariable (.view (.scope scope))
  let run : EngineM String := do
    let nodes ← read source
    Template.runDocument (e.machine site nested) name nodes bindings
  run.adapt .ofEngine

end Engine

end TopicWiki
