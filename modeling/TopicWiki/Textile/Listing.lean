import TopicWiki.Text.Blank
import TopicWiki.Text.Lines
import TopicWiki.Textile.Inline

namespace TopicWiki.Textile

inductive ListKind where
  | ordered
  | bulleted
  deriving DecidableEq, Repr

def ListKind.tag : ListKind → List Char
  | .ordered => "ol".toList
  | .bulleted => "ul".toList

structure ListItem where
  depth : Nat
  kind : ListKind
  text : List Char
  deriving DecidableEq, Repr

def isListMark (c : Char) : Bool :=
  c == '*' || c == '#'

/-- A list line is a run of marks, at least one blank and the text. The last mark says the kind. -/
def ListItem.ofLine? (line : List Char) : Option ListItem :=
  let (marks, rest) := spanWhile isListMark line
  match marks.getLast?, rest with
  | some mark, c :: _ =>
    if Text.isBlank c then
      some ⟨marks.length, if mark = '#' then .ordered else .bulleted, Text.trimStart rest⟩
    else none
  | _, _ => none

/-- Opens lists until `count` more are open. A list inside an item starts on a line of its own. -/
def openLists (kind : ListKind) (inItem : Bool) : Nat → List Char
  | 0 => []
  | count + 1 =>
    (if inItem then ['\n'] else []) ++ ['<'] ++ kind.tag ++ ['>', '\n'] ++ openLists kind true count

def closeLists (kinds : List ListKind) : List Char :=
  kinds.flatMap fun kind => "</li>\n</".toList ++ kind.tag ++ ['>', '\n']

def listFrom (settings : Settings) (opened : List ListKind) : List ListItem → List Char
  | [] => closeLists opened
  | item :: rest =>
    let entry := "\t<li>".toList ++ inline settings item.text
    if opened.length < item.depth then
      let missing := item.depth - opened.length
      openLists item.kind (!opened.isEmpty) missing ++ entry ++
        listFrom settings (List.replicate missing item.kind ++ opened) rest
    else
      let extra := opened.length - item.depth
      closeLists (opened.take extra) ++ "</li>\n".toList ++ entry ++
        listFrom settings (opened.drop extra) rest

def listHtml (settings : Settings) (items : List ListItem) : List Char :=
  Text.trimEnd (listFrom settings [] items)

def listItems? (block : List Char) : Option (List ListItem) :=
  (Text.lines block).mapM ListItem.ofLine?

end TopicWiki.Textile
