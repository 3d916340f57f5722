import TopicWiki.Text.Blank
import TopicWiki.Text.Occurrence

namespace TopicWiki.Markup

inductive TaggedPiece where
  | plain (text : List Char)
  | body (text : List Char)
  deriving DecidableEq, Repr

def openTag (tag : List Char) : List Char :=
  ['<'] ++ tag ++ ['>']

def closeTag (tag : List Char) : List Char :=
  ['<', '/'] ++ tag ++ ['>']

/-- Cuts a text at its tagged blocks, each from an opening tag to the next closing one. -/
def taggedPieces (tag : List Char) (text : List Char) : List TaggedPiece :=
  match opened : Text.cut? (openTag tag) text with
  | none => [.plain text]
  | some (before, after) =>
    match closed : Text.cut? (closeTag tag) after with
    | none => [.plain text]
    | some (body, rest) =>
      have := Text.cut?_after_lt opened (by simp [openTag])
      have := Text.cut?_after_lt closed (by simp [closeTag])
      .plain before :: .body body :: taggedPieces tag rest
termination_by text.length

/-- A single paragraph without further paragraph tags inside is replaced by its content. -/
def unwrapParagraph (html : List Char) : List Char :=
  match "<p>".toList.isPrefixOf? html with
  | none => html
  | some rest =>
    match "</p>".toList.reverse.isPrefixOf? rest.reverse with
    | none => html
    | some reversed =>
      let inner := reversed.reverse
      if Text.contains "<p>".toList inner || Text.contains "</p>".toList inner then html
      else inner

def convertTagged [Monad m] (convert : String → m String) (tag text : String) : m String := do
  let pieces ← (taggedPieces tag.toList text.toList).mapM fun
    | .plain text => pure text
    | .body text => do
      let html ← convert (String.ofList text)
      pure (unwrapParagraph (Text.trim html.toList))
  pure (String.ofList pieces.flatten)

end TopicWiki.Markup
