import TopicWiki.Dictionary
import TopicWiki.Value
import TopicWiki.Wiki.SelfReference

namespace TopicWiki

structure ContextReferences where
  this : SelfReference := .standard
  parser : SelfReference := .off
  category : SelfReference := .off
  topic : SelfReference := .off
  deriving DecidableEq, Repr

namespace ContextReferences

def get? (o : ContextReferences) : String → Option SelfReference
  | "this" => some o.this
  | "parser" => some o.parser
  | "category" => some o.category
  | "topic" => some o.topic
  | _ => none

/-- The values that the references have in a render, in the order they are set. -/
def references (o : ContextReferences) (scope : RenderScope) : List (Option String × Value) :=
  [(o.this.variableName? "this", .view (.scope scope)),
    (o.parser.variableName? "parser", .view .renderer),
    (o.category.variableName? "category", .view (.category scope.category)),
    (o.topic.variableName? "topic", .view (.topic scope.topic))]

def seed (o : ContextReferences) (scope : RenderScope) (bindings : Dictionary Value) :
    Dictionary Value :=
  (o.references scope).foldl (fun bindings entry =>
    match entry.1 with
    | some name => bindings.insert name entry.2
    | none => bindings) bindings

end ContextReferences

structure Context where
  scope : RenderScope
  bindings : Dictionary Value

end TopicWiki
