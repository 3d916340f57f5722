namespace TopicWiki.Text

/-- The code points with the Unicode property White_Space, as closed ranges. -/
def blankRanges : List (Nat × Nat) :=
  [(0x09, 0x0D), (0x20, 0x20), (0x85, 0x85), (0xA0, 0xA0), (0x1680, 0x1680), (0x2000, 0x200A),
    (0x2028, 0x2029), (0x202F, 0x202F), (0x205F, 0x205F), (0x3000, 0x3000)]

def isBlank (c : Char) : Bool :=
  blankRanges.any fun (low, high) => low ≤ c.toNat && c.toNat ≤ high

def trimStart (text : List Char) : List Char :=
  text.dropWhile isBlank

def trimEnd (text : List Char) : List Char :=
  (text.reverse.dropWhile isBlank).reverse

def trim (text : List Char) : List Char :=
  trimEnd (trimStart text)

def allBlank (text : List Char) : Bool :=
  text.all isBlank

/-- The trimmed text, unless nothing is left of it. -/
def nonBlank? (text : List Char) : Option (List Char) :=
  let trimmed := trim text
  if trimmed.isEmpty then none else some trimmed

def dropEndWhile (p : Char → Bool) (text : List Char) : List Char :=
  (text.reverse.dropWhile p).reverse

theorem isBlank_space : isBlank ' ' = true := by decide

theorem trimStart_of_head {c : Char} {text : List Char} (solid : isBlank c = false) :
    trimStart (c :: text) = c :: text := by
  simp [trimStart, solid]

theorem trimEnd_of_last {c : Char} {text : List Char} (solid : isBlank c = false) :
    trimEnd (text ++ [c]) = text ++ [c] := by
  simp [trimEnd, solid]

end TopicWiki.Text

namespace String

def trimBlank (s : String) : String :=
  String.ofList (TopicWiki.Text.trim s.toList)

def isAllBlank (s : String) : Bool :=
  TopicWiki.Text.allBlank s.toList

def nonBlank? (s : String) : Option String :=
  (TopicWiki.Text.nonBlank? s.toList).map String.ofList

end String
