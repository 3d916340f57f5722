import TopicWiki.Template.Tag

namespace TopicWiki.Template

abbrev Visitor := (template : String) → (source : List Char) → Except TagError (List Char)

structure Transforms where
  tags : List Tag := []
  visitors : List Visitor := []

abbrev Serials := List Nat

def Transforms.isEmpty (t : Transforms) : Bool :=
  t.tags.isEmpty && t.visitors.isEmpty

def expandTags (template : String) :
    List Tag → Serials → List Char → Except TagError (List Char) × Serials
  | [], serials, source => (.ok source, serials)
  | tag :: tags, serials, source =>
    match (expandTag tag template source).run.run (serials.head?.getD 0) with
    | (.ok source, serial) =>
      let (result, serials) := expandTags template tags serials.tail source
      (result, serial :: serials)
    | (.error e, serial) => (.error e, serial :: serials.tail)

/-- Applies all tags, then all visitors. -/
def Transforms.apply (t : Transforms) (template : String) (source : String) (serials : Serials) :
    Except TagError String × Serials :=
  let (expanded, serials) := expandTags template t.tags serials source.toList
  let visited := expanded.bind fun source =>
    t.visitors.foldlM (fun source visitor => visitor template source) source
  (visited.map String.ofList, serials)

end TopicWiki.Template
