import TopicWiki.Config.Yaml.Gap

namespace TopicWiki.Yaml

def isFlowMark (c : Char) : Bool :=
  [',', '[', ']', '\x7b', '\x7d'].contains c

def isIndicator (c : Char) : Bool :=
  isFlowMark c || ['-', '?', ':', '#', '&', '*', '!', '|', '>', '\'', '"', '%', '@',
    Char.ofNat 96].contains c

/-- Whether a scalar without quotes may start a text. Some indicators may start one if no gap is
    behind them. -/
def startsPlain (inFlow : Bool) : List Char → Bool
  | [] => false
  | c :: rest =>
    if c = '-' then !rest.head?.any isBlank
    else if c = '?' ∨ c = ':' then !inFlow && !atGap rest
    else !isIndicator c && !isBlank c

/-- Reads a word of a scalar without quotes. Within brackets, a colon before a bracket or a comma is
    refused. -/
def readWord? (inFlow : Bool) : List Char → Option (List Char)
  | [] => some []
  | c :: rest =>
    if isBlank c || isBreak c then some []
    else if inFlow && c == ':' && rest.head?.any fun d => d == '?' || isFlowMark d then none
    else if (c == ':' && atGap rest) || (inFlow && isFlowMark c) then some []
    else (readWord? inFlow rest).map (c :: ·)

structure Plain where
  text : List Char
  broken : Bool
  deriving Repr

def readPlain? (inFlow : Bool) (indent : Nat) : (most : Nat) → (done : List Char) → Gap → Cursor →
    Option (Plain × Cursor)
  | 0, _, _, _ => none
  | most + 1, done, gap, p =>
    if p.atMark || p.startsWith '#' then some (⟨done.reverse, gap.broken⟩, p)
    else do
      let word ← readWord? inFlow p.ahead
      let p := p.skip word.length
      let (done, broken) :=
        if word.isEmpty then (done, gap.broken)
        else (word.reverse ++ gap.text.reverse ++ done, false)
      if p.ahead.isEmpty || !atGap p.ahead then return (⟨done.reverse, broken⟩, p)
      let (gap, p) ← Gap.read? indent (p.ahead.length + 1) {} p
      if !inFlow && p.column < indent then return (⟨done.reverse, gap.broken⟩, p)
      readPlain? inFlow indent most done gap p

end TopicWiki.Yaml
