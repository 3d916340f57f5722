import TopicWiki.Dictionary
import TopicWiki.Text.Occurrence

namespace TopicWiki

/-- Replaces each placeholder, a name in braces, by its value, one name after the other. -/
def fillPlaceholders (text : String) (values : List (String × String)) : String :=
  values.foldl (fun text entry => text.replaceEach ("\x7b" ++ entry.1 ++ "\x7d") entry.2) text

structure Controller where
  routes : Dictionary String :=
    .ofList [("wiki_get_category", "/wiki/\x7bcategory\x7d"),
      ("wiki_get_topic", "/wiki/\x7bcategory\x7d/\x7btopic\x7d")]
  texts : Dictionary String := {}
  requestUri? : Option String := none
  requestText? : Option String := none

namespace Controller

/-- The address of a route with its placeholders filled. An unknown route is a path of its own name
    and the values. -/
def uri (c : Controller) (route : String) (parameters : List (String × String)) : String :=
  match c.routes.find? route with
  | some pattern => fillPlaceholders pattern parameters
  | none => parameters.foldl (fun uri entry => uri ++ "/" ++ entry.2) ("/" ++ route)

def text (c : Controller) (key : String) : String :=
  (c.texts.find? key).getD key

def hasText (c : Controller) (key : String) : Bool :=
  c.text key != key

def format (c : Controller) (key : String) (values : Dictionary String) : String :=
  fillPlaceholders (c.text key) values.entries

end Controller

end TopicWiki
