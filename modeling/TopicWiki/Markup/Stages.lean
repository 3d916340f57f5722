import TopicWiki.Markup.Blank
import TopicWiki.Markup.Tagged

namespace TopicWiki.Markup

inductive DocumentFormat where
  | none
  | markdown
  | textile
  deriving DecidableEq, Repr

def DocumentFormat.label : DocumentFormat → String
  | .none => "none"
  | .markdown => "markdown"
  | .textile => "textile"

structure Settings where
  primary : DocumentFormat := .markdown
  markdownTag : Option String := .none
  textileTag : Option String := .none
  stripBlanks : Bool := true
  deriving DecidableEq, Repr

namespace Settings

def usePrimary (primary : DocumentFormat) (f : Settings) : Settings :=
  { f with primary }

def withMarkdown (tag : String) (f : Settings) : Settings :=
  { f with markdownTag := some tag }

def withTextile (tag : String) (f : Settings) : Settings :=
  { f with textileTag := some tag }

def setStripBlanks (strip : Bool) (f : Settings) : Settings :=
  { f with stripBlanks := strip }

def allowBlanks (allow : Bool) (f : Settings) : Settings :=
  { f with stripBlanks := !allow }

end Settings

structure Converter (m : Type → Type) where
  name : String
  convert : String → m String

structure Converters (m : Type → Type) where
  markdown : Converter m
  textile : Converter m

variable {m : Type → Type} [Monad m]

def convertTagged? (converter : Converter m) (tag? : Option String) (text : String) : m String :=
  match tag? with
  | some tag => convertTagged converter.convert tag text
  | .none => pure text

/-- Runs the stages over a text: the Markdown blocks, the Textile blocks, the whole document, and
    the blank start. -/
def Converters.apply (converters : Converters m) (settings : Settings) (text : String) :
    m String := do
  let text ← convertTagged? converters.markdown settings.markdownTag text
  let text ← convertTagged? converters.textile settings.textileTag text
  let html ← match settings.primary with
    | .none => pure text
    | .markdown => converters.markdown.convert text
    | .textile => converters.textile.convert text
  pure (if settings.stripBlanks then stripLeadingBlanks html else html)

end TopicWiki.Markup
