import TopicWiki.Config.Yaml.Cursor

namespace TopicWiki.Yaml

/-- The blanks and line breaks between the words of a scalar, in reverse. Blanks behind a line break
    do not count. -/
structure Gap where
  broken : Bool := false
  blanks : List Char := []
  breaks : List Char := []
  deriving Repr

namespace Gap

def read? (indent : Nat) : (most : Nat) → Gap → Cursor → Option (Gap × Cursor)
  | 0, _, _ => none
  | most + 1, gap, p =>
    match p.ahead with
    | c :: _ =>
      if isBlank c then
        if gap.broken && c == '\t' && p.column < indent then none
        else
          read? indent most (if gap.broken then gap else { gap with blanks := c :: gap.blanks })
            (p.skip 1)
      else if isBreak c then
        let (shown, p) := p.skipBreak
        read? indent most { gap with broken := true, breaks := shown ++ gap.breaks } p
      else some (gap, p)
    | [] => some (gap, p)

/-- What a gap stands for: its blanks, or its line breaks, of which the first one is left out if
    others follow and is a space else. -/
def text (gap : Gap) : List Char :=
  if !gap.broken then gap.blanks.reverse
  else
    match gap.breaks.reverse with
    | ['\n'] => [' ']
    | '\n' :: rest => rest
    | breaks => breaks

end Gap

end TopicWiki.Yaml
