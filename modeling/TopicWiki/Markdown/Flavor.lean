namespace TopicWiki.Markdown

inductive Flavor where
  | basic
  /-- With tables, footnotes, struck text and attributes of headings. -/
  | extra
  /-- With task lists and typographic punctuation too. -/
  | extended
  deriving DecidableEq, Repr

namespace Flavor

def hasExtras (flavor : Flavor) : Bool :=
  flavor != .basic

def isTypographic (flavor : Flavor) : Bool :=
  flavor == .extended

def hasTasks (flavor : Flavor) : Bool :=
  flavor == .extended

end Flavor

end TopicWiki.Markdown
