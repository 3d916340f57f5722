import TopicWiki.Text.Blank
import TopicWiki.Text.Occurrence

namespace TopicWiki

inductive IdentityError where
  | blankCategory
  | blankTopic
  | separatorInCategory (category : String)
  | noCategory (topic : String)
  deriving DecidableEq, Repr

def IdentityError.message : IdentityError → String
  | .blankCategory => "No ident found on category"
  | .blankTopic => "No ident found on topic"
  | .separatorInCategory category =>
    "Category ident '" ++ category ++ "' contains the name separator"
  | .noCategory topic => "Topic '" ++ topic ++ "' has no category"

namespace Name

def separator : String := "::"

/-- The compound name of a topic in a category. Both idents must not be blank. The category must not
    hold the separator, nor end in a colon, which would join the separator. -/
def make (category topic : String) : Except IdentityError String :=
  if topic.isAllBlank then .error .blankTopic
  else if category.isAllBlank then .error .blankCategory
  else if Text.contains separator.toList category.toList ∨ category.toList.getLast? = some ':' then
    .error (.separatorInCategory category)
  else .ok (category ++ separator ++ topic)

/-- The category and the topic of a compound name, cut at the first separator. -/
def split? (name : String) : Option (String × String) :=
  (Text.cut? separator.toList name.toList).map fun (category, topic) =>
    (String.ofList category, String.ofList topic)

end Name

end TopicWiki
