namespace TopicWiki.Text

def escapeWith (entity? : Char → Option String) (text : List Char) : List Char :=
  text.flatMap fun c =>
    match entity? c with
    | some entity => entity.toList
    | none => [c]

def textEntity? : Char → Option String
  | '&' => some "&amp;"
  | '<' => some "&lt;"
  | '>' => some "&gt;"
  | _ => none

def attributeEntity? : Char → Option String
  | '"' => some "&quot;"
  | c => textEntity? c

def printedEntity? : Char → Option String
  | '\'' => some "&#x27;"
  | '/' => some "&#x2f;"
  | c => attributeEntity? c

def escapeText (text : List Char) : List Char :=
  escapeWith textEntity? text

def escapeAttribute (text : List Char) : List Char :=
  escapeWith attributeEntity? text

def escapePrinted (text : List Char) : List Char :=
  escapeWith printedEntity? text

end TopicWiki.Text

namespace String

def escapeAttribute (s : String) : String :=
  String.ofList (TopicWiki.Text.escapeAttribute s.toList)

def escapePrinted (s : String) : String :=
  String.ofList (TopicWiki.Text.escapePrinted s.toList)

end String
