import TopicWiki.Text.Entity

namespace TopicWiki

/-- An HTML element. Its content is written as it stands, its attribute values are escaped. An
    element without content closes itself. -/
structure Element where
  tag : String
  attributes : List (String × String) := []
  inner : Option String := none
  deriving DecidableEq, Repr

namespace Element

def attr? (e : Element) (name : String) : Option String :=
  (e.attributes.find? fun entry => entry.1 = name).map Prod.snd

/-- Replaces the value of a name in its place, or adds the name at the end. -/
def putAttribute (name value : String) : List (String × String) → List (String × String)
  | [] => [(name, value)]
  | (key, old) :: rest =>
    if key = name then (key, value) :: rest else (key, old) :: putAttribute name value rest

def setAttr (e : Element) (name value : String) : Element :=
  { e with attributes := putAttribute name value e.attributes }

def setAttr? (e : Element) (name : String) (value? : Option String) : Element :=
  match value? with
  | some value => e.setAttr name value
  | none => e

def removeAttr (e : Element) (name : String) : Element :=
  { e with attributes := e.attributes.filter fun entry => entry.1 ≠ name }

def attributeHtml (name value : String) : String :=
  " " ++ name ++ "=\"" ++ value.escapeAttribute ++ "\""

def html (e : Element) : String :=
  let attributes := String.join (e.attributes.map fun entry => attributeHtml entry.1 entry.2)
  "<" ++ e.tag ++ attributes ++
    match e.inner with
    | some inner => ">" ++ inner ++ "</" ++ e.tag ++ ">"
    | none => "/>"

end Element

end TopicWiki
