import TopicWiki.Textile.Block

namespace TopicWiki.Textile

/-- The blocks of a document: the maximal runs of lines that are not blank. A carriage return
    before a newline is not part of the text. -/
def blocks (text : List Char) : List (List Char) :=
  (Text.nonBlankRuns (Text.lines (Text.replaceAll ['\r', '\n'] ['\n'] text))).map Text.joinLines

def document (settings : Settings) (text : List Char) : List Char :=
  Text.joinLines ((blocks text).map (blockHtml settings))

def toHtml (settings : Settings) (text : String) : String :=
  String.ofList (document settings text.toList)

end TopicWiki.Textile
