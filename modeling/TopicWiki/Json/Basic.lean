namespace TopicWiki

/-- A JSON value. The members of an object keep the order in which they were written. -/
inductive Json where
  | null
  | bool (value : Bool)
  | int (value : Int)
  | float (value : Float)
  | string (value : String)
  | array (items : List Json)
  | object (members : List (String × Json))
  deriving Inhabited, Repr

namespace Json

/-- Puts a member at its place in key order; a later member of the same name wins. -/
def insertMember (key : String) (value : α) : List (String × α) → List (String × α)
  | [] => [(key, value)]
  | (k, v) :: rest =>
    if key < k then (key, value) :: (k, v) :: rest
    else if key = k then (key, value) :: rest
    else (k, v) :: insertMember key value rest

def sortMembers (members : List (String × α)) : List (String × α) :=
  members.foldl (fun sorted (key, value) => insertMember key value sorted) []

def member? (json : Json) (key : String) : Option Json :=
  match json with
  | .object members => (members.reverse.find? fun (k, _) => k = key).map Prod.snd
  | _ => none

def string? : Json → Option String
  | .string value => some value
  | _ => none

def bool? : Json → Option Bool
  | .bool value => some value
  | _ => none

def int? : Json → Option Int
  | .int value => some value
  | _ => none

def items? : Json → Option (List Json)
  | .array items => some items
  | _ => none

def ofOption (encode : α → Json) : Option α → Json
  | some value => encode value
  | none => .null

end Json

end TopicWiki
