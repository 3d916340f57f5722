import TopicWiki.Wiki.State

namespace TopicWiki.State

def topicName (topic : TopicId) : ExceptT IdentityError Running String := do
  let category? ← categoryOf topic
  let s ← get
  let ident := (s.topicDocument topic).ident
  match category? with
  | some category => Name.make (s.categoryDocument category).ident ident
  | none => throw (.noCategory ident)

def setSource (name text : String) : Running Unit :=
  modify fun s => { s with sources := s.sources.insert name text }

def setOutput (name html : String) : Running Unit :=
  modify fun s => { s with outputs := s.outputs.insert name html }

def clearOutput (name? : Option String) : Running Unit :=
  modify fun s =>
    match name? with
    | some name => { s with outputs := s.outputs.erase name }
    | none => { s with outputs := {} }

def cacheKey (name : String) : String :=
  name

/-- Whether a template read at a time is still up to date. The caller decides when to read again. -/
def isFresh (_name : String) (_time : Nat) : Bool :=
  false

/-- Whether a template may be asked for. What is missing shows when it is resolved. -/
def templateExists (_name : String) : Bool :=
  true

def changeFormat (change : Markup.Settings → Markup.Settings) : Running Unit :=
  modify fun s => { s with format := change s.format }

end TopicWiki.State
