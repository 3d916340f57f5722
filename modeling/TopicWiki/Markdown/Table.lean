import TopicWiki.Markdown.Line
import TopicWiki.Markdown.Tree

namespace TopicWiki.Markdown.Table

def splitBars : List Char → List (List Char)
  | [] => [[]]
  | '\\' :: '|' :: rest =>
    match splitBars rest with
    | cell :: cells => ('|' :: cell) :: cells
    | [] => [['|']]
  | '|' :: rest => [] :: splitBars rest
  | c :: rest =>
    match splitBars rest with
    | cell :: cells => (c :: cell) :: cells
    | [] => [[c]]

/-- The cells of a row. A bar at either end of the row separates nothing. -/
def cells (row : List Char) : List (List Char) :=
  let parts := (splitBars (dropGaps row)).map dropGaps
  let parts := if 1 < parts.length ∧ parts.head? = some [] then parts.tail else parts
  if 1 < parts.length ∧ parts.getLast? = some [] then parts.dropLast else parts

def barCount : List Char → Nat
  | '\\' :: c :: rest => if c = '|' ∨ c = '\\' then barCount rest else barCount (c :: rest)
  | c :: rest => if c = '|' then barCount rest + 1 else barCount rest
  | [] => 0

/-- The number of columns that a head has. One without bars is no head. -/
def columnCount? (head : List Char) : Option Nat :=
  let head := dropGaps head
  let bars := barCount head
  if bars = 0 then none
  else
    let opened := if head.head? = some '|' then 1 else 0
    let closed := if barCount head.dropLast < bars then 1 else 0
    some (bars + 1 - opened - closed)

/-- How the cells of a column are aligned, by what its cell in the row below the head says. Of the
    colons the first counts if it starts the cell, and the last if something else does. -/
def columnAlignment (cell : List Char) : Alignment :=
  let left := cell.head? == some ':'
  let right := cell.tail.contains ':'
  match left, right with
  | true, true => .center
  | true, false => .left
  | false, true => .right
  | false, false => .none

def isHeadMark (c : Char) : Bool :=
  ['|', '-', ':', ' '].contains c

/-- The alignments of the columns, if a line is the row below a head: bars, hyphens and colons.
    Hyphens stand before every bar but the first. -/
def alignments? (row : List Char) : Option (List Alignment) :=
  let marks := row.filter (· != ' ')
  let marks := if marks.head? = some '|' then marks.tail else marks
  let parts := Text.splitOnChar '|' marks
  let bounded := parts.dropLast
  let last := parts.getLast?.getD []
  if row.all isHeadMark ∧ row.contains '|' ∧ row.contains '-' ∧
      bounded.all (fun cell => cell.contains '-') then
    some ((if last.isEmpty then bounded else parts).map columnAlignment)
  else none

def rowOf (columns : Nat) (row : List Char) : List (List Char) :=
  let given := (cells row).take columns
  given ++ List.replicate (columns - given.length) []

end TopicWiki.Markdown.Table
