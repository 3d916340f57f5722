import TopicWiki.Json.Basic

namespace TopicWiki

structure Scalar where
  value? : Option Json
  text? : Option String := none
  flag? : Option Bool := none
  absent? : Option Bool := some false
  omitted : Bool := false
  word? : Option String := none
  deriving Inhabited

/-- A tree of settings. Lists and maps may be no plain data, and keys may be no text. -/
inductive Setting where
  | scalar (content : Scalar)
  | list (isData : Bool) (items : List Setting)
  | map (isData : Bool) (entries : List (Option String × Setting))
  | unreadable
  deriving Inhabited

namespace Setting

def ofScalar (json : Json) : Setting :=
  .scalar
    { value? := some json
      text? := json.string?
      flag? := json.bool?
      absent? := some (json matches .null)
      word? := json.string? }

mutual
def ofJson : Json → Setting
  | .array items => .list true (ofItems items)
  | .object members => .map true (ofMembers members)
  | json => ofScalar json

def ofItems : List Json → List Setting
  | [] => []
  | item :: rest => ofJson item :: ofItems rest

def ofMembers : List (String × Json) → List (Option String × Setting)
  | [] => []
  | (key, json) :: rest => (some key, ofJson json) :: ofMembers rest
end

mutual
def toJson? : Setting → Option Json
  | .scalar content => content.value?
  | .list isData items => if isData then (toItems? items).map .array else none
  | .map isData entries =>
    if isData then (toMembers? entries).map fun members => .object (Json.sortMembers members)
    else none
  | .unreadable => none

def toItems? : List Setting → Option (List Json)
  | [] => some []
  | item :: rest =>
    match toJson? item, toItems? rest with
    | some item, some rest => some (item :: rest)
    | _, _ => none

def toMembers? : List (Option String × Setting) → Option (List (String × Json))
  | [] => some []
  | (key?, setting) :: rest =>
    match key?, toJson? setting, toMembers? rest with
    | some key, some json, some rest => some ((key, json) :: rest)
    | _, _, _ => none
end

def string? : Setting → Option String
  | .scalar content => content.text?
  | _ => none

def bool? : Setting → Option Bool
  | .scalar content => content.flag?
  | _ => none

def optional? (read : Setting → Option α) (s : Setting) : Option (Option α) :=
  let absent? := match s with
    | .scalar content => content.absent?
    | _ => some false
  absent?.bind fun absent => if absent then some none else (read s).map some

def isOmitted : Setting → Bool
  | .scalar content => content.omitted
  | _ => false

def items? : Setting → Option (List Setting)
  | .list _ items => some items
  | s => if s.isOmitted then some [] else none

def entries? : Setting → Option (List (String × Setting))
  | .map _ entries => entries.mapM fun (key?, value) => key?.map fun key => (key, value)
  | s => if s.isOmitted then some [] else none

/-- Reads one of several words. A word may also be the only key of a map, with null as the value
    that has no text. -/
def choice? (choices : List (String × α)) : Setting → Option α
  | .map _ [(some word, .scalar { value? := some .null, text? := none, .. })] =>
    List.lookup word choices
  | .scalar content => content.word?.bind fun word => List.lookup word choices
  | _ => none

structure Field (α : Type) where
  name : String
  set : Setting → α → Option α

/-- Sets the fields that a map names. Unknown names are ignored, a field may be given once. -/
def setNamed (fields : List (Field α)) (record : α) (entries : List (String × Setting)) :
    Option α :=
  let known := entries.filter fun entry => fields.any fun field => field.name = entry.1
  if (known.map Prod.fst).Nodup then
    known.foldlM (fun record entry =>
      match fields.find? fun field => field.name = entry.1 with
      | some field => field.set entry.2 record
      | none => some record) record
  else none

def setInOrder (fields : List (Field α)) (record : α) (items : List Setting) : Option α :=
  if items.length ≤ fields.length then
    (fields.zip items).foldlM (fun record entry => entry.1.set entry.2 record) record
  else none

/-- Reads a record from a map, or from a list of its first fields. What is not given stays as it is
    in `record`. -/
def record? (fields : List (Field α)) (record : α) : Setting → Option α
  | .list _ items => setInOrder fields record items
  | s => s.entries?.bind (setNamed fields record)

end Setting

end TopicWiki
