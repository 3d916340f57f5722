import TopicWiki.Wiki.State

namespace TopicWiki.View

abbrev Nested := Option RenderScope → TopicId → RenderM String

/-- A nested render in a template; its error is the cause of the template's. -/
def renderNested (nested : Nested) (scope? : Option RenderScope) (topic : TopicId) :
    EngineM Value := fun s =>
  match (nested scope? topic).run s with
  | (.ok html, s) => (.ok (.safe html), s)
  | (.error e, s) =>
    (.error (.mk .invalidOperation (some "failed to render document") (some (.render e))), s)

def documentAttribute? (document : Document) : String → Running (Option Value)
  | "ident" => return some (.plain document.ident)
  | "name" => return some (.plain document.name)
  | "published" => return some (.bool document.published)
  | "text" => return some (.plain (← State.readText document))
  | _ => return none

def attribute? (view : View) (name : String) : Running (Option Value) := do
  let s ← get
  match view with
  | .topic id =>
    if name = "category" then
      return (← State.categoryOf id).map fun c => .view (.category c)
    else documentAttribute? (s.topicDocument id) name
  | .category id => documentAttribute? (s.categoryDocument id) name
  | .renderer =>
    match name with
    | "format" => return some (.plain s.format.primary.label)
    | "markdown_tag" => return some (.ofOption .plain s.format.markdownTag)
    | "textile_tag" => return some (.ofOption .plain s.format.textileTag)
    | "strip_blanks" => return some (.bool s.format.stripBlanks)
    | _ => return none
  | .scope running =>
    match name with
    | "parser" => return some (.view .renderer)
    | "topic" => return some (.view (.topic running.topic))
    | "category" => return some (.view (.category running.category))
    | _ => return none
  | .element id =>
    let e := s.element id
    match name with
    | "tag" => return some (.plain e.tag)
    | "html" => return some (.safe e.html)
    | "text" => return e.inner.map .safe
    | _ => return (e.attr? name).map .plain
  | .function _ => return none

def unknownMethod (owner method : String) : EngineError :=
  .plain .unknownMethod (owner ++ " has no method named " ++ method)

def textAt (arguments : List Value) (index : Nat) (expected : String) :
    Except EngineError String :=
  match (arguments[index]?).bind Value.string? with
  | some text => .ok text
  | none => .error (.plain .missingArgument expected)

def callTopic (nested : Nested) (scope? : Option RenderScope) (id : TopicId) (method : String) :
    EngineM Value :=
  if method = "content" then renderNested nested scope? id
  else throw (unknownMethod "topic" method)

def callCategory (id : CategoryId) (method : String) (arguments : List Value) : EngineM Value := do
  match method with
  | "topic" =>
    let ident ← textAt arguments 0 "topic() expects a topic ident"
    return .ofOption (fun t => .view (.topic t)) (← State.topicOf id ident)
  | "topics" =>
    let s ← get
    return .list ((s.store.topicsIn (s.categoryDocument id).ident).map fun t => .view (.topic t))
  | _ => throw (unknownMethod "category" method)

def callRenderer (nested : Nested) (scope? : Option RenderScope) (method : String)
    (arguments : List Value) : EngineM Value := do
  let textAt (index : Nat) :=
    textAt arguments index (method ++ "() expects a string at position " ++ toString (index + 1))
  match method with
  | "category" =>
    let ident ← textAt 0
    return .ofOption (fun c => .view (.category c)) (← State.findCategory ident)
  | "topic" =>
    let category ← textAt 0
    let ident ← textAt 1
    return .ofOption (fun t => .view (.topic t)) (← State.topicIn category ident)
  | "render" =>
    let category ← textAt 0
    let ident ← textAt 1
    match ← State.topicIn category ident with
    | some found => renderNested nested scope? found
    | none => throw (.invalid ("no topic '" ++ ident ++ "' in category '" ++ category ++ "'"))
  | _ => throw (unknownMethod "parser" method)

def callElement (id : ElementId) (method : String) (arguments : List Value) : EngineM Value := do
  let name := textAt arguments 0 (method ++ "() expects a string argument")
  match method with
  | "attr" =>
    let name ← name
    return .ofOption .plain (((← get).element id).attr? name)
  | "set" =>
    let name ← name
    let value := ((arguments[1]?).map (← get).printed).getD ""
    State.changeElement id fun e => e.setAttr name value
    return .view (.element id)
  | "remove" =>
    let name ← name
    State.changeElement id fun e => e.removeAttr name
    return .view (.element id)
  | _ => throw (unknownMethod "element" method)

end TopicWiki.View
