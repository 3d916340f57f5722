import TopicWiki.Json.Basic
import TopicWiki.Value

namespace TopicWiki.Value

mutual
def ofJson : Json → Value
  | .null => .none
  | .bool b => .bool b
  | .int n => .int n
  | .float x => .float x
  | .string s => .plain s
  | .array items => .list (ofItems items)
  | .object members => .ofEntries (fun _ _ => .eq) (ofMembers members)

def ofItems : List Json → List Value
  | [] => []
  | item :: rest => ofJson item :: ofItems rest

def ofMembers : List (String × Json) → List (Value × Value)
  | [] => []
  | (key, json) :: rest => (.plain key, ofJson json) :: ofMembers rest
end

end TopicWiki.Value
