namespace TopicWiki.Markdown

structure Target where
  address : List Char
  title : List Char := []
  deriving DecidableEq, Repr

inductive Inline where
  | text (content : List Char)
  | code (content : List Char)
  | markup (content : List Char)
  | softBreak
  | hardBreak
  | emphasis (content : List Inline)
  | strong (content : List Inline)
  | struck (content : List Inline)
  | link (target : Target) (content : List Inline)
  | image (target : Target) (content : List Inline)
  | footnote (label : List Char)
  deriving Inhabited

inductive Alignment where
  | none
  | left
  | center
  | right
  deriving DecidableEq, Repr

structure HeadingAttributes where
  id? : Option (List Char) := none
  classes : List (List Char) := []
  others : List (List Char × List Char) := []
  deriving DecidableEq, Repr

/-- What a document consists of. Running text is kept as it was written. -/
inductive Block where
  | paragraph (task? : Option Bool) (text : List Char)
  | heading (level : Nat) (attributes : HeadingAttributes) (text : List Char)
  | rule
  | code (info? : Option (List Char)) (text : List Char)
  | markup (text : List Char)
  | quote (content : List Block)
  | list (start? : Option Nat) (tight : Bool) (items : List (List Block))
  | table (alignments : List Alignment) (head : List (List Char)) (rows : List (List (List Char)))
  | footnote (label : List Char) (content : List Block)
  deriving Inhabited

end TopicWiki.Markdown
