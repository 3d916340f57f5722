namespace TopicWiki.Yaml

inductive Style where
  | plain
  | literal
  | quoted
  deriving DecidableEq, Repr

/-- The parts of a text. Blocks are opened and closed by indentation. -/
inductive Token where
  | version (major minor : Nat)
  | handle (name expansion : List Char)
  | documentStart
  | documentEnd
  | blockList
  | blockMap
  | blockEnd
  | openBracket
  | closeBracket
  | openBrace
  | closeBrace
  | dash
  | comma
  | key
  | value
  | alias (name : List Char)
  | anchor (name : List Char)
  | tag (handle suffix : List Char)
  | scalar (style : Style) (text : List Char)
  deriving DecidableEq, Repr

end TopicWiki.Yaml
