import TopicWiki.Extension.Basic
import TopicWiki.Json.Basic
import TopicWiki.Link.Icon
import TopicWiki.Link.Statement

namespace TopicWiki.LinkHelpers

structure LinkText where
  text : Option String := none
  description : Option String := none
  className : Option String := none
  deriving DecidableEq, Repr

def todo (options : LinkSettings) (text : String) : Element :=
  (({ tag := "a", inner := some text } : Element).setAttr "href" options.todoHref).setAttr "class"
    options.todoClass

def invalidLink : Element :=
  { tag := "a" }

def anchor (uri text : String) (attributes : LinkText) : Element :=
  ((({ tag := "a", inner := some text } : Element).setAttr "href" uri).setAttr? "title"
    attributes.description).setAttr? "class" attributes.className

def topicUri (site : Site) (category topic : String) : String :=
  site.controller.uri site.routes.topic
    [(site.routes.categoryPlaceholder, category), (site.routes.topicPlaceholder, topic)]

def categoryUri (site : Site) (category : String) : String :=
  site.controller.uri site.routes.category [(site.routes.categoryPlaceholder, category)]

/-- A link to a document that was looked up under an ident. Only a published document has a real
    link. -/
def documentLink (options : LinkSettings) (document? : Option Document) (ident uri : String)
    (attributes : LinkText) : Element :=
  match document? with
  | none => todo options (attributes.text.getD ident)
  | some document =>
    let text := attributes.text.getD document.name
    if document.published then anchor uri text attributes else todo options text

def topicLink (options : LinkSettings) (render : ActiveRender) (topic : String)
    (category? : Option String) (attributes : LinkText) : Running Element := do
  let found? ← render.scope.findTopic (some topic) category?
  let s ← get
  let category := category?.getD (s.categoryDocument render.scope.category).ident
  return documentLink options (found?.map s.topicDocument) topic
    (topicUri render.site category topic) attributes

def categoryLink (options : LinkSettings) (render : ActiveRender) (category : String)
    (topic? : Option String) (attributes : LinkText) : Running Element := do
  match topic? with
  | some topic => topicLink options render topic (some category) attributes
  | none =>
    let found? ← render.scope.findCategory (some category)
    let s ← get
    return documentLink options (found?.map s.categoryDocument) category
      (categoryUri render.site category) attributes

def indexLink (options : LinkSettings) (render? : Option ActiveRender) (attributes : LinkText) :
    Running Element := do
  match render? with
  | some render =>
    let category := ((← get).categoryDocument render.scope.category).ident
    categoryLink options render category none attributes
  | none =>
    State.warn "attempt to make index link with no current category"
    return invalidLink

/-- A link described by a statement, whose options go before the given ones. -/
def statementLink (options : LinkSettings) (render : ActiveRender) (input : String)
    (attributes : LinkText) : Running (Element × Bool) := do
  let statement := LinkStatement.parse input
  let attributes : LinkText :=
    { text := statement.text.or attributes.text
      description := statement.description.or attributes.description
      className := statement.className.or attributes.className }
  let link ← match statement.target with
    | .invalid reason => do
      State.warn ("invalid link statement '" ++ input ++ "': " ++ reason.message)
      pure invalidLink
    | .index => indexLink options (some render) attributes
    | .topic topic => topicLink options render topic none attributes
    | .categoryTopic category topic =>
      categoryLink options render category (some topic) attributes
  return (link, statement.asObject)

def iconPart? (options : LinkSettings) (controller : Controller) (id part : String) :
    Option String :=
  let key := options.iconPrefix ++ id ++ part
  if controller.hasText key then some (controller.text key) else none

def icon (options : LinkSettings) (controller : Controller) (id : String)
    (description? : Option String) (className : String) : Element :=
  let part? := iconPart? options controller id
  let extra := match part? options.iconClass with
    | some classes => " " ++ classes
    | none => ""
  let classes := (className ++ extra ++ " " ++ id).trimBlank
  (({ tag := "i", inner := some ((part? options.iconChar).getD "") } : Element).setAttr "class"
    classes).setAttr? "title" (description?.or (part? options.iconDescription))

def statementIcon (options : LinkSettings) (controller : Controller) (input : String)
    (description? : Option String) (className : String) : Element :=
  let statement := IconStatement.parse input
  icon options controller statement.id.trimBlank (statement.description.or description?)
    (statement.className.getD className)

def emit (element : Element) (asObject : Bool) : EngineM Value := do
  if asObject then return .view (.element (← State.newElement element))
  else return .safe element.html

def linkText (s : State) (arguments : List Value) (first : Nat) : LinkText :=
  { text := Value.argumentText? s arguments first
    description := Value.argumentText? s arguments (first + 1)
    className := Value.argumentText? s arguments (first + 2) }

def topicView : Option TopicId → Value :=
  .ofOption fun id => .view (.topic id)

def categoryView : Option CategoryId → Value :=
  .ofOption fun id => .view (.category id)

section

variable (options : LinkSettings)

def callAt : Handler := fun site arguments => do
  let render ← site.requireRender
  let s ← get
  let topic ← Value.requiredText s arguments 0 "topic"
  let category? := Value.argumentText? s arguments 1
  let link ← topicLink options render topic category? (linkText s arguments 2)
  emit link (Value.argumentFlag arguments 5)

def callAc : Handler := fun site arguments => do
  let render ← site.requireRender
  let s ← get
  let category ← Value.requiredText s arguments 0 "category"
  let topic? := Value.argumentText? s arguments 1
  let link ← categoryLink options render category topic? (linkText s arguments 2)
  emit link (Value.argumentFlag arguments 5)

def callAi : Handler := fun site arguments => do
  let link ← indexLink options site.render? (linkText (← get) arguments 0)
  emit link (Value.argumentFlag arguments 3)

def callTodo : Handler := fun _ arguments => do
  let text ← Value.requiredText (← get) arguments 0 "text"
  emit (todo options text) (Value.argumentFlag arguments 1)

def callIcon : Handler := fun site arguments => do
  let render ← site.requireRender
  let s ← get
  let id ← Value.requiredText s arguments 0 "id"
  let description? := Value.argumentText? s arguments 1
  let className := (Value.argumentText? s arguments 2).getD ""
  emit (icon options render.site.controller id description? className)
    (Value.argumentFlag arguments 3)

def callTopic : Handler := fun site arguments => do
  let render ← site.requireRender
  return topicView (← render.scope.findTopic (Value.argumentText? (← get) arguments 0) none)

def callCategory : Handler := fun site arguments => do
  let render ← site.requireRender
  return categoryView (← render.scope.findCategory (Value.argumentText? (← get) arguments 0))

def placeholders (vars : Value) : EngineM (Dictionary String) := do
  match vars.items? with
  | none => throw (.invalid (vars.kind ++ " is not iterable"))
  | some names =>
    let s ← get
    let value (name : Value) : Value :=
      match vars with
      | .map entries => (Value.entry? s.viewOrder name entries).getD .undefined
      | .list items => (name.int?.bind (Value.itemAt? items)).getD .undefined
      | _ => .undefined
    return .ofList (names.map fun name => (s.printed name, s.printed (value name)))

def callText : Handler := fun site arguments => do
  let render ← site.requireRender
  let key ← Value.requiredText (← get) arguments 0 "key"
  let controller := render.site.controller
  match Value.argument? arguments 1 with
  | some vars => return .plain (controller.format key (← placeholders vars))
  | none => return .plain (controller.text key)

def filterLink : Handler := fun site arguments => do
  let render ← site.requireRender
  let s ← get
  let input ← Value.requiredText s arguments 0 "link"
  let (link, asObject) ← statementLink options render input (linkText s arguments 1)
  emit link (asObject || Value.argumentFlag arguments 4)

def filterIcon : Handler := fun site arguments => do
  let render ← site.requireRender
  let s ← get
  let input ← Value.requiredText s arguments 0 "icon"
  let description? := Value.argumentText? s arguments 1
  let className := (Value.argumentText? s arguments 2).getD ""
  emit (statementIcon options render.site.controller input description? className)
    (Value.argumentFlag arguments 3)

def filterTopic : Handler := fun site arguments => do
  let _ ← site.requireRender
  let ident ← Value.requiredText (← get) arguments 1 "topic"
  let category? ← match Value.argument? arguments 0 with
    | some (.view (.category id)) => pure (some id)
    | some (.text category _) => State.findCategory category
    | _ => pure none
  match category? with
  | some id => return topicView (← State.topicOf id ident)
  | none => return .none

/-- The symbols of the extension. All results may be written into markup as they are. -/
def registrations : List Registration :=
  let inRender : CallRules := { safety := .all, needsContext := true }
  [.callable .function "at" inRender (some (callAt options)),
    .callable .function "ac" inRender (some (callAc options)),
    .callable .function "ai" inRender (some (callAi options)),
    .callable .function "todo" { safety := .all } (some (callTodo options)),
    .callable .function "i" inRender (some (callIcon options)),
    .callable .function "topic" inRender (some callTopic),
    .callable .function "category" inRender (some callCategory),
    .callable .function "text" inRender (some callText),
    .callable .filter "a" inRender (some (filterLink options)),
    .callable .filter "i" inRender (some (filterIcon options)),
    .callable .filter "topic" inRender (some filterTopic),
    .callable .filter "todo" { safety := .all } (some (callTodo options))]

def setHome : ContextHook := fun render bindings => do
  let home ← indexLink options (some render) {}
  return bindings.insert "home" (.safe home.html)

end

def extension (options : LinkSettings) : Building Extension :=
  Extension.build "wiki" (registrations options) (setHome options) (some options)

end TopicWiki.LinkHelpers
