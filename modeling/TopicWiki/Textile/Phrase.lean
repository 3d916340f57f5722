import TopicWiki.Text.Blank
import TopicWiki.Text.Occurrence

namespace TopicWiki.Textile

structure Marker where
  chars : List Char
  nonempty : chars ≠ [] := by decide

inductive Piece where
  | literal (text : List Char)
  | phrase (inner : List Char)
  deriving DecidableEq, Repr

namespace Piece

def source (marker : Marker) : Piece → List Char
  | .literal text => text
  | .phrase inner => marker.chars ++ inner ++ marker.chars

def written (render : List Char → List Char) : Piece → List Char
  | .literal text => text
  | .phrase inner => render inner

end Piece

/-- A phrase opens after nothing, a blank or opening punctuation, and before a solid character. -/
def opensPhrase (before after : Option Char) : Bool :=
  before.all (fun c => Text.isBlank c || ['(', '[', '\x7b', '"', '\''].contains c) &&
    after.any fun c => !Text.isBlank c

/-- A phrase closes after a solid character of its own, and before nothing, a blank or closing
    punctuation. -/
def closesPhrase (lastInside after : Option Char) : Bool :=
  lastInside.any (fun c => !Text.isBlank c) &&
    after.all fun c =>
      Text.isBlank c ||
        ['.', ',', ';', ':', '!', '?', ')', ']', '\x7d', '"', '\''].contains c

/-- The inner text of a phrase whose opening marker has been read, and what follows its closing
    marker. The phrase ends at the first marker that can close it, a marker being looked for after
    the end of the one before. -/
def closePhrase? (marker : Marker) (lastInside : Option Char) (text : List Char) :
    Option (List Char × List Char) :=
  match found : Text.cut? marker.chars text with
  | none => none
  | some (before, after) =>
    if closesPhrase (before.getLast?.or lastInside) after.head? then some (before, after)
    else
      have := Text.cut?_after_lt found marker.nonempty
      (closePhrase? marker marker.chars.getLast? after).map fun (inner, rest) =>
        (before ++ marker.chars ++ inner, rest)
termination_by text.length

theorem closePhrase?_eq_some {marker : Marker} {lastInside : Option Char}
    {text inner rest : List Char} (h : closePhrase? marker lastInside text = some (inner, rest)) :
    text = inner ++ marker.chars ++ rest := by
  induction hn : text.length using Nat.strongRecOn generalizing lastInside text inner with
  | ind n ih =>
    rw [closePhrase?] at h
    split at h
    · cases h
    · rename_i before after found
      have parts := Text.cut?_eq_some found
      split at h
      · cases h
        exact parts
      · have shorter := Text.cut?_after_lt found marker.nonempty
        cases later : closePhrase? marker marker.chars.getLast? after with
        | none => simp [later] at h
        | some result =>
          obtain ⟨front, back⟩ := result
          simp only [later, Option.map_some, Option.some.injEq, Prod.mk.injEq] at h
          obtain ⟨rfl, rfl⟩ := h
          rw [parts, ih _ (by omega) later rfl]
          simp

theorem closePhrase?_rest_lt {marker : Marker} {lastInside : Option Char}
    {text inner rest : List Char} (h : closePhrase? marker lastInside text = some (inner, rest)) :
    rest.length < text.length := by
  rw [closePhrase?_eq_some h]
  have := List.length_pos_iff.mpr marker.nonempty
  simp only [List.length_append]
  omega

def openPhrase? (marker : Marker) (before : Option Char) (text : List Char) :
    Option (List Char × List Char) :=
  if opensPhrase before text.head? then closePhrase? marker none text else none

theorem openPhrase?_eq_some {marker : Marker} {before : Option Char} {text inner rest : List Char}
    (h : openPhrase? marker before text = some (inner, rest)) :
    opensPhrase before text.head? = true ∧ closePhrase? marker none text = some (inner, rest) := by
  unfold openPhrase? at h
  split at h
  · rename_i opens
    exact ⟨opens, h⟩
  · cases h

def piecesAfter (marker : Marker) (before : Option Char) (text : List Char) : List Piece :=
  match found : Text.cut? marker.chars text with
  | none => [.literal text]
  | some (front, after) =>
    have := Text.cut?_after_lt found marker.nonempty
    match opened : openPhrase? marker (front.getLast?.or before) after with
    | some (inner, rest) =>
      have := closePhrase?_rest_lt (openPhrase?_eq_some opened).2
      .literal front :: .phrase inner :: piecesAfter marker marker.chars.getLast? rest
    | none => .literal (front ++ marker.chars) :: piecesAfter marker marker.chars.getLast? after
termination_by text.length

def pieces (marker : Marker) (text : List Char) : List Piece :=
  piecesAfter marker none text

def mapPhrases (marker : Marker) (render : List Char → List Char) (text : List Char) : List Char :=
  (pieces marker text).flatMap (Piece.written render)

end TopicWiki.Textile
