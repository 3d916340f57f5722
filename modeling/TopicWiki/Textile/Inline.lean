import TopicWiki.Text.Entity
import TopicWiki.Textile.Phrase
import TopicWiki.Textile.Reference
import TopicWiki.Textile.Segment

namespace TopicWiki.Textile

structure Settings where
  lineBreaks : Bool := true
  glyphs : Bool := true
  deriving DecidableEq, Repr

/-- The phrase markers and their elements, in the order they are applied: a doubled marker comes
    before the single one. -/
def phraseElements : List (Marker × String) :=
  [(⟨['*', '*'], by decide⟩, "b"), (⟨['_', '_'], by decide⟩, "i"), (⟨['?', '?'], by decide⟩, "cite"),
    (⟨['*'], by decide⟩, "strong"), (⟨['_'], by decide⟩, "em"), (⟨['-'], by decide⟩, "del"),
    (⟨['+'], by decide⟩, "ins"), (⟨['^'], by decide⟩, "sup"), (⟨['~'], by decide⟩, "sub"),
    (⟨['%'], by decide⟩, "span")]

def glyphTable : List (String × String) :=
  [(" -- ", " &#8212; "), ("...", "&#8230;"), ("(tm)", "&#8482;"), ("(TM)", "&#8482;"),
    ("(c)", "&#169;"), ("(C)", "&#169;"), ("(r)", "&#174;"), ("(R)", "&#174;")]

def glyphs (text : List Char) : List Char :=
  glyphTable.foldl (fun text (sign, glyph) => Text.replaceAll sign.toList glyph.toList text) text

def wrap (tag : String) (inner : List Char) : List Char :=
  "<".toList ++ tag.toList ++ ">".toList ++ inner ++ "</".toList ++ tag.toList ++ ">".toList

def codeMarker : Marker := ⟨['@'], by decide⟩

def slotOpen : Char := Char.ofNat 0xE000

def slotClose : Char := Char.ofNat 0xE001

def slot (index : Nat) : List Char :=
  slotOpen :: (Nat.toDigits 10 index) ++ [slotClose]

def codeElement (inner : List Char) : List Char :=
  "<code>".toList ++ Text.escapeText inner ++ "</code>".toList

/-- Puts a slot in the place of each code span, the slots numbered from `index` on. -/
def holdCode (index : Nat) : List Piece → List Char
  | [] => []
  | .literal text :: rest => text ++ holdCode index rest
  | .phrase _ :: rest => slot index ++ holdCode (index + 1) rest

def heldCode (pieces : List Piece) : List (List Char) :=
  pieces.filterMap fun
    | .literal _ => none
    | .phrase inner => some (codeElement inner)

def slotIndex? (digits : List Char) : Option Nat :=
  let digits := match digits with
    | '+' :: rest => rest
    | _ => digits
  if digits.isEmpty || !digits.all Char.isDigit then none
  else some (digits.foldl (fun n c => 10 * n + (c.toNat - '0'.toNat)) 0)

/-- Fills each slot with its fragment. A slot without a fragment leaves what it held. -/
def fillSlots (fragments : List (List Char)) (text : List Char) : List Char :=
  match opened : Text.cut? [slotOpen] text with
  | none => text
  | some (before, after) =>
    have := Text.cut?_after_lt opened (by simp)
    match closed : Text.cut? [slotClose] after with
    | none => before ++ after
    | some (inside, rest) =>
      have := Text.cut?_after_lt closed (by simp)
      let filling := ((slotIndex? inside).bind (fragments[·]?)).getD inside
      before ++ filling ++ fillSlots fragments rest
termination_by text.length

def restoreCode (fragments : List (List Char)) (text : List Char) : List Char :=
  if fragments.isEmpty then text else fillSlots fragments text

def breakLines (text : List Char) : List Char :=
  text.flatMap fun c => if c = '\n' then "<br />\n".toList else [c]

/-- The phrase markers, each applied to the runs outside all tags, those of earlier markers
    included. -/
def phrases (text : List Char) : List Char :=
  phraseElements.foldl
    (fun text (marker, tag) => mapRuns (mapPhrases marker (wrap tag)) text) text

/-- Applies the inline rules to a text. Code spans are held back first, because they may hold angle
    brackets, and are put in last. -/
def inline (settings : Settings) (text : List Char) : List Char :=
  let codePieces := pieces codeMarker text
  let linked := mapRuns links (mapRuns images (holdCode 0 codePieces))
  let signed := if settings.glyphs then mapRuns glyphs linked else linked
  let phrased := phrases signed
  let broken := if settings.lineBreaks then breakLines phrased else phrased
  restoreCode (heldCode codePieces) broken

end TopicWiki.Textile
