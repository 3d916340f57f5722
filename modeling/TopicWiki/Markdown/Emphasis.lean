import TopicWiki.Markdown.Tree

namespace TopicWiki.Markdown

structure Run where
  symbol : Char
  count : Nat
  written : Nat
  opens : Bool
  closes : Bool
  deriving DecidableEq, Repr

inductive Piece where
  | node (content : Inline)
  | run (run : Run)
  | quote (symbol : Char) (opens closes : Bool)
  | bracket (image active : Bool) (after : List Char)
  deriving Inhabited

namespace Run

/-- Whether marks open and close here. A run that both opens and closes does not pair with one if
    the lengths sum to a multiple of three, unless both are such multiples. -/
def pairs (opener closer : Run) : Bool :=
  opener.opens && opener.symbol == closer.symbol &&
    if closer.symbol == '~' then opener.count == closer.count
    else
      !(opener.closes || closer.opens) || (opener.written + closer.written) % 3 != 0 ||
        (opener.written % 3 == 0 && closer.written % 3 == 0)

def share (opener closer : Run) : Nat :=
  if closer.symbol == '~' then closer.count
  else if 2 ≤ opener.count ∧ 2 ≤ closer.count then 2
  else 1

def wrap (symbol : Char) (share : Nat) (content : List Inline) : Inline :=
  if symbol == '~' then .struck content
  else if share = 2 then .strong content
  else .emphasis content

def text (run : Run) : List Char :=
  List.replicate run.count run.symbol

def less (run : Run) (count : Nat) : List Piece :=
  if run.count ≤ count then [] else [.run { run with count := run.count - count }]

end Run

def Piece.plain : Piece → Inline
  | .node content => content
  | .run marks => .text marks.text
  | .quote symbol _ _ => .text [symbol]
  | .bracket image _ _ => .text (if image then ['!', '['] else ['['])

def joinTexts : List Inline → List Inline
  | [] => []
  | .text a :: rest =>
    match joinTexts rest with
    | .text b :: rest => .text (a ++ b) :: rest
    | rest => .text a :: rest
  | node :: rest => node :: joinTexts rest

/-- The nearest run that pairs with a closing one: what stands behind it, the run, and what stands
    before it. All lists are reversed. -/
def findOpener (closer : Run) : List Piece → Option (List Piece × Run × List Piece)
  | [] => none
  | piece :: before =>
    let further := (findOpener closer before).map fun (inside, rest) => (piece :: inside, rest)
    match piece with
    | .run opener => if opener.pairs closer then some ([], opener, before) else further
    | _ => further

def closeRun : (most : Nat) → Run → List Piece → List Piece
  | 0, closer, before => .run closer :: before
  | most + 1, closer, before =>
    match findOpener closer before with
    | none => if closer.count = 0 then before else .run closer :: before
    | some (inside, opener, rest) =>
      let share := opener.share closer
      let content := joinTexts (inside.reverse.map Piece.plain)
      let before := .node (Run.wrap closer.symbol share content) :: opener.less share ++ rest
      if closer.count ≤ share then before
      else closeRun most { closer with count := closer.count - share } before

def pairRuns (before : List Piece) : List Piece → List Piece
  | [] => before
  | .run run :: rest =>
    pairRuns (if run.closes then closeRun run.count run before else .run run :: before) rest
  | piece :: rest => pairRuns (piece :: before) rest

/-- The quotation marks met so far: whether a double one is open, and the place of an open single
    one among the pieces, counted from the first. -/
structure OpenQuotes where
  double : Bool := false
  single? : Option Nat := none

def textPiece (c : Char) : Piece :=
  .node (.text [c])

/-- Chooses a sign for a quotation mark. A single mark that nothing closes is an apostrophe. -/
def chooseQuote (state : OpenQuotes × List Piece) (piece : Piece) : OpenQuotes × List Piece :=
  let (quotes, done) := state
  match piece with
  | .quote '\'' opens closes =>
    match closes, quotes.single? with
    | true, some place =>
      ({ quotes with single? := none },
        (done.set place (textPiece '\u2018')) ++ [textPiece '\u2019'])
    | _, _ =>
      ({ quotes with single? := if opens then some done.length else quotes.single? },
        done ++ [textPiece '\u2019'])
  | .quote _ opens closes =>
    if closes && quotes.double then
      ({ quotes with double := false }, done ++ [textPiece '\u201D'])
    else ({ quotes with double := quotes.double || opens }, done ++ [textPiece '\u201C'])
  | piece => (quotes, done ++ [piece])

def resolve (pieces : List Piece) : List Inline :=
  let chosen := (pieces.foldl chooseQuote ({}, [])).2
  joinTexts ((pairRuns [] chosen).reverse.map Piece.plain)

end TopicWiki.Markdown
