import TopicWiki.Markdown.Container
import TopicWiki.Markdown.Flavor
import TopicWiki.Markdown.Heading
import TopicWiki.Markdown.Table

namespace TopicWiki.Markdown

inductive PartContent where
  | block (block : Block)
  | definitions
  | item (marker : Marker) (loose : Bool) (content : List Block)

structure Part where
  gap : Bool
  content : PartContent

inductive Group where
  | block (block : Block)
  | definitions
  | list (marker : Marker) (loose : Bool) (items : List (List Block))

/-- Puts a part in front of the groups behind it, each of which says whether a blank line stands
    before it. Items with the same mark form a list. -/
def addPart (part : Part) (groups : List (Bool × Group)) : List (Bool × Group) :=
  match part.content with
  | .block block => (part.gap, .block block) :: groups
  | .definitions => (part.gap, .definitions) :: groups
  | .item marker loose content =>
    match groups with
    | (gap, .list next nextLoose items) :: rest =>
      if next.symbol = marker.symbol then
        (part.gap, .list marker (loose || gap || nextLoose) (content :: items)) :: rest
      else (part.gap, .list marker loose [content]) :: groups
    | _ => (part.gap, .list marker loose [content]) :: groups

def Group.block? : Group → Option Block
  | .block content => some content
  | .definitions => none
  | .list marker loose items => some (.list marker.number? (!loose) items)

def assemble (parts : List Part) : List Block × Bool :=
  let groups := parts.foldr addPart []
  (groups.filterMap fun group => group.2.block?, groups.tail.any Prod.fst)

/-- The block without blocks in it that lines are added to. Lines are kept in reverse, and in a
    paragraph with the blanks before them. -/
inductive Leaf where
  | none
  | paragraph (task? : Option Bool) (lines : List (List Char))
  | fenced (fence : Fence) (lines : List Line)
  | indented (lines : List Line)
  | markup (stop : Tag.BlockEnd) (lines : List Line)
  | table (alignments : List Alignment) (head : List (List Char)) (rows : List (List (List Char)))

structure Level where
  container : Container
  gap : Bool
  parts : List Part := []

/-- A document that is being read. The open containers have the innermost first. -/
structure Draft where
  flavor : Flavor
  levels : List Level := []
  parts : List Part := []
  leaf : Leaf := .none
  leafGap : Bool := false
  mayHead : Bool := false
  afterBlank : Bool := false
  references : References := {}

namespace Draft

def addPart (d : Draft) (part : Part) : Draft :=
  match d.levels with
  | level :: rest => { d with levels := { level with parts := part :: level.parts } :: rest }
  | [] => { d with parts := part :: d.parts }

def textOf (lines : List (List Char)) : List Char :=
  List.intercalate ['\n'] lines.reverse

def wholeOf (lines : List Line) : List Char :=
  lines.reverse.flatMap Line.whole

def takeDefinitions (d : Draft) (text : List Char) : Draft × List Char :=
  let (references, text) := Markdown.takeDefinitions text.length d.references text
  ({ d with references }, text)

def closeLeaf (d : Draft) : Draft :=
  let closed := { d with leaf := .none }
  let add (block : Block) := closed.addPart ⟨d.leafGap, .block block⟩
  match d.leaf with
  | .none => d
  | .paragraph task? lines =>
    let (closed, text) := closed.takeDefinitions (textOf lines)
    let text := dropGapEnd text
    let isShown := !text.isEmpty || task?.isSome
    closed.addPart ⟨d.leafGap, if isShown then .block (.paragraph task? text) else .definitions⟩
  | .fenced fence lines => add (.code (some fence.info) (wholeOf lines))
  | .indented lines => add (.code .none (wholeOf (lines.dropWhile Line.isBlank)))
  | .markup _ lines => add (.markup (wholeOf lines))
  | .table alignments head rows => add (.table alignments head rows.reverse)

def closeLevel (d : Draft) : Draft :=
  let d := d.closeLeaf
  match d.levels with
  | [] => d
  | level :: rest =>
    let (content, loose) := assemble level.parts.reverse
    let part := match level.container with
      | .quote => PartContent.block (.quote content)
      | .item marker _ => .item marker loose content
      | .footnote label => .block (.footnote label content)
    { d with levels := rest }.addPart ⟨level.gap, part⟩

def closeTo (depth : Nat) (d : Draft) : Draft :=
  Nat.repeat closeLevel (d.levels.length - depth) d

def addBlock (d : Draft) (block : Block) : Draft :=
  let d := d.closeLeaf
  d.addPart ⟨d.afterBlank, .block block⟩

def openLeaf (d : Draft) (leaf : Leaf) : Draft :=
  { d.closeLeaf with leaf, leafGap := d.afterBlank }

def openLevel (d : Draft) (container : Container) : Draft :=
  let d := d.closeLeaf
  let references := match container with
    | .footnote label =>
      { d.references with footnotes := d.references.footnotes ++ [normalLabel label] }
    | _ => d.references
  { d with
    levels := { container, gap := d.afterBlank } :: d.levels
    afterBlank := false
    references }

def inParagraph (d : Draft) : Bool :=
  match d.leaf with
  | .paragraph _ _ => true
  | _ => false

def inTable (d : Draft) : Bool :=
  match d.leaf with
  | .table _ _ _ => true
  | _ => false

/-- Whether an item may start. Only an item with text, and the number one if any, ends a
    paragraph. -/
def mayOpenItem (d : Draft) : Opening → Bool
  | ⟨.item marker _, rest⟩ =>
    !d.inParagraph || (!rest.isBlank && marker.number?.all (· == 1))
  | _ => false

def opening? (d : Draft) (line : Line) : Option Opening :=
  if 4 ≤ line.indent then none
  else
    match Opening.readQuote? line with
    | some opening => some opening
    | none =>
      if isRule line.trimStart.text then none
      else
        match (Opening.readItem? line).filter d.mayOpenItem with
        | some opening => some opening
        | none => if d.flavor.hasExtras then Opening.readFootnote? line else none

def readTask? (text : List Char) : Option (Bool × List Char) :=
  match text with
  | '[' :: c :: ']' :: rest =>
    if !rest.head?.any isGap then none
    else if c == 'x' ∨ c == 'X' then some (true, rest)
    else if isIndent c then some (false, rest)
    else none
  | _ => none

def atItemStart (d : Draft) : Bool :=
  match d.levels, d.leaf with
  | ⟨.item _ _, _, []⟩ :: _, .none => true
  | _, _ => false

def addText (d : Draft) (line : Line) : Draft :=
  let text := line.trimStart.text
  let d := { d with mayHead := line.indent < 4 }
  match d.leaf with
  | .paragraph task? lines => { d with leaf := .paragraph task? (line.text :: lines) }
  | .table alignments head rows =>
    { d with leaf := .table alignments head (Table.rowOf head.length text :: rows) }
  | _ =>
    match if d.flavor.hasTasks ∧ d.atItemStart then readTask? text else none with
    | some (checked, rest) => d.openLeaf (.paragraph (some checked) [rest.dropWhile isIndent])
    | none => d.openLeaf (.paragraph none [text])

def tableWith? (d : Draft) (line : Line) : Option Draft :=
  match d.flavor.hasExtras && d.mayHead, d.leaf with
  | true, .paragraph task? (head :: before) => do
    let columns ← Table.columnCount? head
    let alignments ← Table.alignments? line.text
    guard (alignments.length = columns)
    let table := Leaf.table alignments (Table.rowOf columns head) []
    if before.isEmpty then
      guard task?.isNone
      return { d with leaf := table }
    return { { d with leaf := .paragraph task? before }.closeLeaf with leaf := table, leafGap := false }
  | _, _ => none

def headingWith? (d : Draft) (line : Line) : Option Draft :=
  match d.leaf, Heading.underlineLevel? line.trimStart.text with
  | .paragraph none lines, some level =>
    let (d, text) := d.takeDefinitions (textOf lines)
    if text.isEmpty then none
    else
      some ({ d with leaf := .none }.addPart
        ⟨d.leafGap, .block (Heading.make d.flavor level text)⟩)
  | _, _ => none

def startMarkup (d : Draft) (stop : Tag.BlockEnd) (line : Line) : Draft :=
  let started := d.openLeaf (.markup stop [line])
  if stop.isReached line.text then started.closeLeaf else started

def startLeaf? (d : Draft) (line : Line) : Option Draft :=
  let text := line.trimStart.text
  let goesOn := d.inParagraph || d.inTable
  if 4 ≤ line.indent then
    if goesOn then none else some (d.openLeaf (.indented [line.skip 4]))
  else
    match Heading.read? d.flavor text with
    | some heading => some (d.addBlock heading)
    | none =>
      match Fence.read? line.indent text, Tag.blockEnd? goesOn text with
      | some fence, _ => some (d.openLeaf (.fenced fence []))
      | none, some stop => some (d.startMarkup stop line)
      | none, none => if isRule text then some (d.addBlock .rule) else none

def place : (most : Nat) → Draft → Line → Draft
  | 0, d, line => d.addText line
  | most + 1, d, line =>
    if line.isBlank then d
    else
      match (if line.indent < 4 then (d.tableWith? line).or (d.headingWith? line) else none) with
      | some d => d
      | none =>
        match d.opening? line with
        | some opening => place most (d.openLevel opening.container) opening.rest
        | none => (d.startLeaf? line).getD (d.addText line)

/-- Whether a line that leaves all but `depth` of the containers of a paragraph starts a block. An
    item may start there whatever its mark. -/
def startsBlock (d : Draft) (depth : Nat) (line : Line) : Bool :=
  ((d.closeTo depth).opening? line).isSome || (d.startLeaf? line).isSome

def goOn? (container : Container) (empty : Bool) (line : Line) : Option Line :=
  match container with
  | .quote =>
    if 4 ≤ line.indent then none
    else (Opening.readQuote? line).map Opening.rest
  | .item _ width =>
    if line.isBlank then if empty then none else some line.trimStart
    else if width ≤ line.indent then some (line.skip width)
    else none
  | .footnote _ =>
    if line.isBlank then some line.trimStart
    else if 4 ≤ line.indent then some (line.skip 4)
    else none

/-- How many of the containers, the outermost first, a line goes on with, and what is left of it.
    `emptyEnd` says that the innermost one has no content. -/
def descend (emptyEnd : Bool) : List Container → Line → Nat × Line
  | [], line => (0, line)
  | container :: rest, line =>
    match goOn? container (emptyEnd && rest.isEmpty) line with
    | none => (0, line)
    | some inner =>
      let (depth, line) := descend emptyEnd rest inner
      (depth + 1, line)

def continueLeaf (d : Draft) (line : Line) : Draft :=
  let start := d.place (line.text.length + 1) line
  match d.leaf with
  | .fenced fence lines =>
    if fence.isClosedBy line then d.closeLeaf
    else { d with leaf := .fenced fence (line.skip (min fence.indent line.indent) :: lines) }
  | .markup stop lines =>
    if stop = .blankLine ∧ line.isBlank then d.closeLeaf
    else
      let added := { d with leaf := .markup stop (line :: lines) }
      if stop.isReached line.text then added.closeLeaf else added
  | .indented lines =>
    if line.isBlank ∨ 4 ≤ line.indent then
      { d with leaf := .indented (line.skip 4 :: lines) }
    else start
  | _ => if line.isBlank then d.closeLeaf else start

/-- Whether a blank line separates the blocks around it. It does not in a block that it does not
    end, and a quote leaves it as it was. -/
def countsBlank (d : Draft) (before : Bool) : Bool :=
  match d.leaf, d.levels with
  | .fenced _ _, _ | .markup _ _, _ => false
  | _, ⟨.quote, _, _⟩ :: _ => before
  | _, _ => true

def startsTitle (line : Line) : Bool :=
  line.trimStart.text.head?.any fun c => ['"', '\'', '('].contains c

/-- Closes a paragraph that is all definitions, unless a line may go on with the last one. -/
def settle (d : Draft) (line : Line) : Draft :=
  match d.leaf with
  | .paragraph none lines =>
    let (settled, text) := d.takeDefinitions (textOf lines)
    if text.isEmpty ∧ !startsTitle line then
      { settled with leaf := .none }.addPart ⟨d.leafGap, .definitions⟩
    else d
  | _ => d

/-- Adds a line. One that leaves containers may still go on with the paragraph in them. -/
def addLine (d : Draft) (line : Line) : Draft :=
  let depth := d.levels.length
  let (reached, rest) := descend d.atItemStart (d.levels.reverse.map Level.container) line
  let d := d.settle rest
  let added :=
    if reached = depth then d.continueLeaf rest
    else if d.inParagraph ∧ !rest.isBlank ∧ !d.startsBlock reached rest then
      { d.addText rest with mayHead := false }
    else (d.closeTo reached).place (rest.text.length + 1) rest
  { added with afterBlank := rest.isBlank && added.countsBlank d.afterBlank }

def read (flavor : Flavor) (text : List Char) : List Block × References :=
  let d := ((linesOf text).foldl addLine { flavor }).closeTo 0 |>.closeLeaf
  ((assemble d.parts.reverse).1, d.references)

end Draft

end TopicWiki.Markdown
