import TopicWiki.Extension.Callable

namespace TopicWiki

inductive Associativity where
  | left
  | right
  deriving DecidableEq, Repr

structure Operator where
  symbol : String
  precedence : Int := 0
  associativity? : Option Associativity := none
  handler : List Value → Value

structure SymbolTable where
  functions : Dictionary Callable := {}
  filters : Dictionary Callable := {}
  tests : Dictionary Callable := {}
  tags : List Template.Tag := []
  visitors : List Template.Visitor := []
  unary : Dictionary Operator := {}
  binary : Dictionary Operator := {}

namespace SymbolTable

/-- Registers a callable under its name; it replaces one of its kind and name. -/
def addCallable (t : SymbolTable) (c : Callable) : SymbolTable :=
  match c.kind with
  | .function => { t with functions := t.functions.insert c.name c }
  | .filter => { t with filters := t.filters.insert c.name c }
  | .test => { t with tests := t.tests.insert c.name c }

def addOperator (t : SymbolTable) (o : Operator) : SymbolTable :=
  match o.associativity? with
  | none => { t with unary := t.unary.insert o.symbol o }
  | some _ => { t with binary := t.binary.insert o.symbol o }

def addTag (t : SymbolTable) (tag : Template.Tag) : SymbolTable :=
  { t with tags := t.tags ++ [tag] }

def addVisitor (t : SymbolTable) (visitor : Template.Visitor) : SymbolTable :=
  { t with visitors := t.visitors ++ [visitor] }

def size (t : SymbolTable) : Nat :=
  t.functions.size + t.filters.size + t.tests.size + t.tags.length + t.visitors.length +
    t.unary.size + t.binary.size

def callables (t : SymbolTable) : CallableKind → Dictionary Callable
  | .function => t.functions
  | .filter => t.filters
  | .test => t.tests

end SymbolTable

/-- The rules that a symbol of one kind can have. A test's answer has no safety, only a filter has
an input to escape or to take its safety from, and only a test can ask for one argument. -/
def CallRules.forKind (o : CallRules) : CallableKind → CallRules
  | .function =>
    { o with preEscape := false, preservesSafety := false, oneMandatoryArgument := false }
  | .filter => { o with oneMandatoryArgument := false }
  | .test => { o with safety := .none, preEscape := false, preservesSafety := false }

inductive Registration where
  | callable (kind : CallableKind) (name : String) (options : CallRules)
      (handler? : Option Handler)
  | operator (symbol : String) (precedence : Int) (associativity? : Option Associativity)
      (handler? : Option (List Value → Value))
  | tag (tag : Template.Tag)
  | visitor (visitor : Template.Visitor)

def SymbolTable.register (t : SymbolTable) : Registration → Except ConfigError SymbolTable
  | .callable kind name options (some handler) =>
    .ok (t.addCallable ⟨name, kind, handler, options.forKind kind⟩)
  | .callable kind name _ none => .error (.missingHandler kind.label name)
  | .operator symbol precedence associativity? (some handler) =>
    .ok (t.addOperator ⟨symbol, precedence, associativity?, handler⟩)
  | .operator symbol _ _ none => .error (.missingHandler "operator" symbol)
  | .tag tag => .ok (t.addTag tag)
  | .visitor visitor => .ok (t.addVisitor visitor)

structure LinkSettings where
  iconPrefix : String := "i."
  iconChar : String := ".char"
  iconDescription : String := ".desc"
  iconClass : String := ".class"
  todoHref : String := "#todo"
  todoClass : String := "todo"
  deriving DecidableEq, Repr

abbrev ContextHook := ActiveRender → Dictionary Value → Running (Dictionary Value)

structure Extension where
  name : String
  symbols : SymbolTable := {}
  setupContext : ContextHook := fun _ bindings => return bindings
  linkSettings? : Option LinkSettings := none

abbrev Building := ExceptT ConfigError (StateM (List LogEntry))

namespace Extension

def count (n : Nat) (what : String) : String :=
  toString n ++ " " ++ what

def installationNotice (e : Extension) : String :=
  let t := e.symbols
  "installed extension '" ++ e.name ++ "': " ++ ", ".intercalate
    [count t.functions.size "functions", count t.filters.size "filters",
      count t.tests.size "tests", count t.tags.length "tags", count t.visitors.length "visitors"]

def build (name : String) (registrations : List Registration)
    (setupContext : ContextHook := fun _ bindings => return bindings)
    (linkSettings? : Option LinkSettings := none) : Building Extension := do
  let symbols ← (registrations.foldlM SymbolTable.register {} : Except ConfigError SymbolTable)
  let e : Extension := { name, symbols, setupContext, linkSettings? }
  modify fun log => ⟨.debug, e.installationNotice⟩ :: log
  return e

end Extension

end TopicWiki
