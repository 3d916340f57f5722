import TopicWiki.Markdown.Block
import TopicWiki.Markdown.Writer

namespace TopicWiki.Markdown

def toHtml (flavor : Flavor) (text : String) : String :=
  let (blocks, references) := Draft.read flavor text.toList
  let page := writeBlocks ⟨flavor, references⟩ false blocks {}
  String.ofList page.written.reverse

end TopicWiki.Markdown
