import TopicWiki.Wiki.Cache
import TopicWiki.Wiki.Context
import TopicWiki.Wiki.Engine

namespace TopicWiki

def maxRenderDepth : Nat := 8

structure Renderer where
  site : Site
  engine : Engine
  extensions : List Extension
  globals : Dictionary Value
  context : ContextReferences
  outputCache : OutputCaching
  defaults : Markup.Settings
  /-- How many renders the stack of the process has room for, one inside another. -/
  stackRoom : Nat

namespace Renderer

def setupAll (render : ActiveRender) (bindings : Dictionary Value) :
    List Extension → Running (Dictionary Value)
  | [] => return bindings
  | extension :: rest => do
    setupAll render (← extension.setupContext render bindings) rest

/-- A fresh context of a topic: the globals, the references to the render, and what the extensions
    set. The topic needs a category. -/
def contextFor (r : Renderer) (topic : TopicId) : RenderM Context := do
  match ← State.categoryOf topic with
  | none => throw (.missingCategory ((← get).topicDocument topic).ident)
  | some category =>
    let scope : RenderScope := { topic, category }
    let bindings := r.context.seed scope r.globals
    return ⟨scope, ← setupAll ⟨r.site, scope⟩ bindings r.extensions⟩

def joinSource (category topic : String) : String :=
  if category.trimBlank.isEmpty then topic.trimBlank
  else category.trimBlank ++ "\n" ++ topic.trimBlank

def documentSource (scope : RenderScope) : RenderM String := do
  let s ← get
  let category ← State.readText (s.categoryDocument scope.category)
  match ← State.reading ((s.topicDocument scope.topic).text .all .all) with
  | .error e => throw (.content e)
  | .ok topic => return joinSource category topic

/-- Refuses a document that is being rendered already, or too deep inside other renders. -/
def guard (name : String) (stack : List String) : Except RenderError Unit :=
  if stack.contains name then .error (.cycle name)
  else if maxRenderDepth ≤ stack.length then .error (.depth name maxRenderDepth)
  else .ok ()

def contextName (s : State) (context : Context) : Except RenderError String :=
  (Name.make (s.categoryDocument context.scope.category).ident
    (s.topicDocument context.scope.topic).ident).mapError .identity

def renderContext (r : Renderer) (nested : View.Nested) (context : Context) : RenderM String := do
  let s ← get
  let name ← contextName s context
  match s.outputs.find? name with
  | some output =>
    State.note .trace ("output cache hit for '" ++ name ++ "'")
    return output
  | none =>
    guard name context.scope.stack
    let source ← documentSource context.scope
    State.setSource name source
    let text ← r.engine.render r.site nested name context.bindings (context.scope.entered name)
    let html := r.site.converters.apply (← get).format text
    if r.outputCache = .store then State.setOutput name html
    State.note .debug
      ("rendered '" ++ name ++ "' (" ++ toString html.utf8ByteSize ++ " bytes)")
    return html

/-- Renders a topic, within the render of `parent?` if there is one. There is room for `fuel` renders,
    one inside another. -/
def renderWithin (r : Renderer) : (fuel : Nat) → View.Nested
  | 0, _, _ => throw .endless
  | fuel + 1, parent?, topic => do
    let context ← r.contextFor topic
    let stack := (parent?.map RenderScope.stack).getD []
    r.renderContext (r.renderWithin fuel) { context with scope := { context.scope with stack } }

def renderNested (r : Renderer) : View.Nested :=
  r.renderWithin r.stackRoom

def render (r : Renderer) (topic : TopicId) : RenderM String :=
  r.renderNested none topic

def renderIn (r : Renderer) (context : Context) : RenderM String :=
  r.renderContext (r.renderWithin r.stackRoom) context

def resetFormat (r : Renderer) : Running Unit :=
  State.changeFormat fun _ => r.defaults

def extension? (r : Renderer) (name : String) : Option Extension :=
  r.extensions.find? fun e => e.name = name

end Renderer

end TopicWiki
