import TopicWiki.Text.Blank
import TopicWiki.Text.Occurrence

namespace TopicWiki.Markup

def emptyParagraph? (text : List Char) : Option (List Char) := do
  let inside ← "<p>".toList.isPrefixOf? text
  let after ← "</p>".toList.isPrefixOf? (Text.trimStart inside)
  return Text.trimStart after

theorem emptyParagraph?_lt {text rest : List Char} (h : emptyParagraph? text = some rest) :
    rest.length < text.length := by
  simp only [emptyParagraph?, Option.bind_eq_bind, Option.bind_eq_some_iff] at h
  obtain ⟨inside, opened, after, closed, result⟩ := h
  simp only [Option.pure_def, Option.some.injEq] at result
  have first := congrArg List.length (Text.isPrefixOf?_eq_some opened)
  have second := congrArg List.length (Text.isPrefixOf?_eq_some closed)
  have inner : (Text.trimStart inside).length ≤ inside.length := (List.dropWhile_suffix _).length_le
  have outer : (Text.trimStart after).length ≤ after.length := (List.dropWhile_suffix _).length_le
  simp only [List.length_append, String.length_toList] at first second
  have : "<p>".length = 3 := rfl
  subst result
  omega

def stripParagraphs (text : List Char) : List Char :=
  match found : emptyParagraph? text with
  | some rest =>
    have := emptyParagraph?_lt found
    stripParagraphs rest
  | none => text
termination_by text.length

/-- Removes blanks and empty paragraphs from the start of a document. -/
def stripLeadingBlanks (text : String) : String :=
  String.ofList (stripParagraphs (Text.trimStart text.toList))

end TopicWiki.Markup
