import TopicWiki.Json.Basic

namespace TopicWiki

inductive SelfReference where
  | off
  | standard
  | named (name : String)
  deriving DecidableEq, Repr

namespace SelfReference

/-- True selects the own name and a string that is not empty another one; all else turns the
    reference off. -/
def ofJson : Json → SelfReference
  | .bool true => .standard
  | .string name => if name.isEmpty then .off else .named name
  | _ => .off

def variableName? (own : String) : SelfReference → Option String
  | .off => none
  | .standard => some own
  | .named name => some name

end SelfReference

end TopicWiki
