import TopicWiki.Text.Blank
import TopicWiki.Text.Occurrence

namespace TopicWiki.Text

def dropReturn (line : List Char) : List Char :=
  match line.getLast? with
  | some '\r' => line.dropLast
  | _ => line

/-- The lines of a text: a newline ends a line, and one carriage return before it belongs to the
    line break. -/
def lines : List Char → List (List Char)
  | [] => []
  | text@(_ :: _) =>
    match splitOnChar '\n' text with
    | [] => []
    | pieces =>
      let closed := pieces.dropLast.map dropReturn
      match pieces.getLast? with
      | none | some [] => closed
      | some last => closed ++ [last]

def joinLines (parts : List (List Char)) : List Char :=
  List.intercalate ['\n'] parts

/-- The maximal runs of lines that are not blank. -/
def nonBlankRuns : List (List Char) → List (List (List Char))
  | [] => []
  | line :: rest =>
    if allBlank line then nonBlankRuns rest
    else
      match rest with
      | [] => [[line]]
      | next :: _ =>
        if allBlank next then [line] :: nonBlankRuns rest
        else
          match nonBlankRuns rest with
          | [] => [[line]]
          | run :: runs => (line :: run) :: runs

end TopicWiki.Text
