import TopicWiki.Content.Store
import TopicWiki.Element
import TopicWiki.Error
import TopicWiki.Markup.Stages
import TopicWiki.Template.Node
import TopicWiki.Template.Transform
import TopicWiki.Value.Printing

namespace TopicWiki

inductive LogLevel where
  | warn
  | debug
  | trace
  deriving DecidableEq, Repr

def LogLevel.label : LogLevel → String
  | .warn => "WARN"
  | .debug => "DEBUG"
  | .trace => "TRACE"

def LogLevel.rank : LogLevel → Nat
  | .warn => 0
  | .debug => 1
  | .trace => 2

structure LogEntry where
  level : LogLevel
  message : String
  deriving DecidableEq, Repr

def LogEntry.lines (threshold : LogLevel) (log : List LogEntry) : List String :=
  (log.reverse.filter fun entry => entry.level.rank ≤ threshold.rank).map fun entry =>
    entry.level.label ++ " " ++ entry.message

/-- All that renders may change: the documents, what has been loaded and rendered so far, the format
    settings, the elements that templates hold, and the log, the newest entry first. -/
structure State where
  store : Store := {}
  knownCategories : Dictionary CategoryId := {}
  sources : Dictionary String := {}
  outputs : Dictionary String := {}
  templates : Dictionary (List Template.Node) := {}
  format : Markup.Settings := {}
  elements : List Element := []
  serials : Template.Serials := []
  log : List LogEntry := []

abbrev Running := StateM State

abbrev EngineM := ExceptT EngineError (StateM State)

abbrev RenderM := ExceptT RenderError (StateM State)

namespace State

def note (level : LogLevel) (message : String) : Running Unit :=
  modify fun s => { s with log := ⟨level, message⟩ :: s.log }

def warn (message : String) : Running Unit :=
  note .warn message

def reading (outcome : Except ContentError String × Option String) :
    Running (Except ContentError String) := do
  if let some warning := outcome.2 then warn warning
  return outcome.1

def readText (document : Document) : Running String := do
  return match ← reading (document.text .none .all) with
    | .ok text => text
    | .error _ => ""

def onStore (f : Store → Store × α) : Running α :=
  modifyGet fun s =>
    let (store, a) := f s.store
    (a, { s with store })

def topicDocument (s : State) (id : TopicId) : Document :=
  (s.store.topicAt id).document

def categoryDocument (s : State) (id : CategoryId) : Document :=
  (s.store.categoryAt id).document

/-- The category with an ident; once found it is known for good. -/
def findCategory (ident : String) : Running (Option CategoryId) := do
  let s ← get
  match s.knownCategories.find? ident with
  | some id => return some id
  | none =>
    match s.store.category? ident with
    | none => return none
    | some id =>
      set { s with knownCategories := s.knownCategories.insert ident id }
      return some id

def topicOf (category : CategoryId) (ident : String) : Running (Option TopicId) :=
  onStore fun store => store.topicOf? category ident

def categoryOf (topic : TopicId) : Running (Option CategoryId) :=
  onStore fun store => store.categoryOf? topic

def topicIn (category ident : String) : Running (Option TopicId) := do
  match ← findCategory category with
  | some id => topicOf id ident
  | none => return none

/-- The template source of a compound name. A source known by that name wins; otherwise the name is
    that of an include of a category, read without fatal errors and known from then on. -/
def resolveSource (name : String) : ExceptT LoaderError Running String := do
  match (← get).sources.find? name with
  | some source =>
    note .trace ("source cache hit for '" ++ name ++ "'")
    return source
  | none =>
    match Name.split? name with
    | none => throw (.malformedName name)
    | some (category, includeName) =>
      match ← findCategory category with
      | none => throw (.unknownCategory name)
      | some id =>
        let document := (← get).categoryDocument id
        match ← reading (document.included includeName .none .all) with
        | .error e => throw (.unreadable name e.message)
        | .ok text =>
          note .trace ("resolved include '" ++ name ++ "'")
          modify fun s => { s with sources := s.sources.insert name text }
          return text

def element (s : State) (id : ElementId) : Element :=
  s.elements.getD id.index { tag := "" }

def newElement (e : Element) : Running ElementId :=
  modifyGet fun s => (⟨s.elements.length⟩, { s with elements := s.elements ++ [e] })

def changeElement (id : ElementId) (f : Element → Element) : Running Unit :=
  modify fun s => { s with elements := s.elements.modify id.index f }

def describe (s : State) : View → String
  | .topic id => (s.topicDocument id).name
  | .category id => (s.categoryDocument id).name
  | .renderer => "parser"
  | .scope scope =>
    "<render " ++ (s.categoryDocument scope.category).ident ++ "/" ++
      (s.topicDocument scope.topic).ident ++ ">"
  | .element id => (s.element id).html
  | .function _ => "function"

/-- The order of views, by which templates also take two of them for the same: documents, scopes and
    elements by their printed forms; functions are all alike. -/
def viewOrder (s : State) (v w : View) : Ordering :=
  (compare v.shape w.shape).then (compare (s.describe v) (s.describe w))

def printed (s : State) (v : Value) : String :=
  v.printed s.describe

end State

namespace RenderScope

def findCategory (scope : RenderScope) : Option String → Running (Option CategoryId)
  | none => return some scope.category
  | some ident => State.findCategory ident

/-- The topic with an ident in the category with an ident, or in the current one; without an ident
    the current topic. -/
def findTopic (scope : RenderScope) (ident? category? : Option String) :
    Running (Option TopicId) := do
  match ident? with
  | none => return some scope.topic
  | some ident =>
    match ← scope.findCategory category? with
    | none => return none
    | some category => State.topicOf category ident

end RenderScope

end TopicWiki
