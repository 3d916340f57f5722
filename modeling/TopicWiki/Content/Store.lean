import TopicWiki.Content.Document
import TopicWiki.Text.Blank
import TopicWiki.Value

namespace TopicWiki

structure Category where
  document : Document
  lookups : Dictionary TopicId := {}
  deriving Repr

structure Topic where
  document : Document
  categoryIdent : String
  parent? : Option CategoryId := none
  deriving Repr

/-- All documents ever inserted, by identity, and the current ones by ident. Inserting a document
    under an ident that is in use makes a new document and leaves the old one to those who hold it. -/
structure Store where
  categories : List Category := []
  topics : List Topic := []
  categoryIndex : Dictionary CategoryId := {}
  topicIndex : Dictionary (Dictionary TopicId) := {}
  dropped : Bool := false
  held : List TopicId := []
  deriving Repr

namespace Store

instance : Inhabited Document := ⟨{ ident := "", name := "" }⟩

instance : Inhabited Category := ⟨{ document := default }⟩

instance : Inhabited Topic := ⟨{ document := default, categoryIdent := "" }⟩

def categoryAt (s : Store) (id : CategoryId) : Category :=
  s.categories.getD id.index default

def topicAt (s : Store) (id : TopicId) : Topic :=
  s.topics.getD id.index default

def modifyCategory (s : Store) (id : CategoryId) (f : Category → Category) : Store :=
  { s with categories := s.categories.modify id.index f }

def modifyTopic (s : Store) (id : TopicId) (f : Topic → Topic) : Store :=
  { s with topics := s.topics.modify id.index f }

def insertCategory (s : Store) (document : Document) : Store × CategoryId :=
  let id : CategoryId := ⟨s.categories.length⟩
  ({ s with
      categories := s.categories ++ [{ document }]
      categoryIndex := s.categoryIndex.insert document.ident id }, id)

def insertTopic (s : Store) (category : String) (document : Document) : Store × TopicId :=
  let id : TopicId := ⟨s.topics.length⟩
  let siblings := (s.topicIndex.find? category).getD {}
  ({ s with
      topics := s.topics ++ [{ document, categoryIdent := category }]
      topicIndex := s.topicIndex.insert category (siblings.insert document.ident id) }, id)

def drop (s : Store) (held : List TopicId) : Store :=
  { s with dropped := true, held }

def category? (s : Store) (ident : String) : Option CategoryId :=
  if s.dropped then none else s.categoryIndex.find? ident

def topic? (s : Store) (category ident : String) : Option TopicId :=
  if s.dropped then none else (s.topicIndex.find? category).bind fun topics => topics.find? ident

def topicsIn (s : Store) (category : String) : List TopicId :=
  if s.dropped then [] else ((s.topicIndex.find? category).map Dictionary.values).getD []

def isAlive (s : Store) (id : TopicId) : Bool :=
  s.held.contains id ||
    (!s.dropped && s.topicIndex.values.any fun topics => topics.values.contains id)

/-- Gives a topic a parent; unless `parentOnly`, its category ident changes too. -/
def setCategory (s : Store) (topic : TopicId) (category : CategoryId) (parentOnly : Bool) :
    Store :=
  s.modifyTopic topic fun t =>
    { t with
      parent? := some category
      categoryIdent :=
        if parentOnly then t.categoryIdent else (s.categoryAt category).document.ident }

def resetCategory (s : Store) (topic : TopicId) : Store :=
  s.modifyTopic topic fun t => { t with parent? := none }

/-- The topic that a category finds under an ident. A topic found before is found again while it
    exists; another one becomes a child of the category. -/
def topicOf? (s : Store) (category : CategoryId) (ident : String) : Store × Option TopicId :=
  match (s.categoryAt category).lookups.find? ident with
  | some id => if s.isAlive id then (s, some id) else fresh
  | none => fresh
where
  fresh : Store × Option TopicId :=
    match s.topic? (s.categoryAt category).document.ident ident with
    | none => (s, none)
    | some id =>
      ((s.setCategory id category true).modifyCategory category fun c =>
        { c with lookups := c.lookups.insert ident id }, some id)

def categoryOf? (s : Store) (topic : TopicId) : Store × Option CategoryId :=
  let t := s.topicAt topic
  match t.parent? with
  | some id => (s, some id)
  | none =>
    if t.categoryIdent.isAllBlank then (s, none)
    else
      match s.category? t.categoryIdent with
      | none => (s, none)
      | some id => (s.modifyTopic topic fun t => { t with parent? := some id }, some id)

end Store

end TopicWiki
