import TopicWiki.Text.Blank
import TopicWiki.Text.Occurrence

namespace TopicWiki

/-- A described icon: `id[/description[/class...]]`. -/
structure IconStatement where
  id : String
  description : Option String
  className : Option String
  deriving DecidableEq, Repr

namespace IconStatement

def isEdge (c : Char) : Bool :=
  c == ' ' || c == '/'

/-- An input without a slash is the id as it stands. Otherwise spaces and slashes at the ends are
    dropped and each segment is trimmed. -/
def ofChars (input : List Char) : IconStatement :=
  if !input.contains '/' then ⟨String.ofList input, none, none⟩
  else
    let inner := Text.dropEndWhile isEdge (input.dropWhile isEdge)
    match (Text.splitOnChar '/' inner).map Text.trim with
    | [] => ⟨"", none, none⟩
    | [id] => ⟨String.ofList id, none, none⟩
    | id :: description :: classes =>
      let classes := classes.filter (!·.isEmpty)
      { id := String.ofList id
        description := (Text.nonBlank? description).map String.ofList
        className :=
          if classes.isEmpty then none
          else some (String.ofList (List.intercalate [' '] classes)) }

def parse (input : String) : IconStatement :=
  ofChars input.toList

end IconStatement

end TopicWiki
