import TopicWiki.Text.Blank
import TopicWiki.Text.Lines
import TopicWiki.Textile.Inline

namespace TopicWiki.Textile

structure Cell where
  isHeader : Bool
  text : List Char
  deriving DecidableEq, Repr

/-- A cell that starts with an underscore and a full stop is a header. -/
def Cell.ofText (text : List Char) : Cell :=
  match text with
  | '_' :: '.' :: header => ⟨true, Text.trim header⟩
  | _ => ⟨false, Text.trim text⟩

def isTableLine (line : List Char) : Bool :=
  let line := Text.trim line
  1 < line.length && line.head? == some '|' && line.getLast? == some '|'

def rowCells (line : List Char) : List Cell :=
  let row := Text.trim line
  let row := if row.head? = some '|' then row.tail else row
  let row := if row.getLast? = some '|' then row.dropLast else row
  (Text.splitOnChar '|' row).map Cell.ofText

def Cell.html (settings : Settings) (cell : Cell) : List Char :=
  let tag := if cell.isHeader then "th" else "td"
  "\t\t".toList ++ wrap tag (inline settings cell.text) ++ ['\n']

def tableHtml (settings : Settings) (rows : List (List Cell)) : List Char :=
  let row (cells : List Cell) :=
    "\t<tr>\n".toList ++ cells.flatMap (Cell.html settings) ++ "\t</tr>\n".toList
  "<table>\n".toList ++ rows.flatMap row ++ "</table>".toList

def tableRows? (block : List Char) : Option (List (List Cell)) :=
  let lines := Text.lines block
  if lines.all isTableLine then some (lines.map rowCells) else none

end TopicWiki.Textile
