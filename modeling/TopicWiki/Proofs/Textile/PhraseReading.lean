import TopicWiki.Proofs.Text.FirstOccurrence
import TopicWiki.Proofs.Textile.Phrases

namespace TopicWiki.Textile

open Text

def openingSigns : List Char :=
  ['(', '[', '\x7b', '"', '\'']

def closingSigns : List Char :=
  ['.', ',', ';', ':', '!', '?', ')', ']', '\x7d', '"', '\'']

def IsFirst (marker : Marker) (text before after : List Char) : Prop :=
  text = before ++ marker.chars ++ after ∧
    ∀ before' after', text = before' ++ marker.chars ++ after' → before.length ≤ before'.length

/-- A text is searched for markers, each from the end of the one before: one of them is met between
    what is passed and the rest. -/
inductive Meets (marker : Marker) : List Char → List Char → List Char → Prop
  | first {text before after : List Char} (here : IsFirst marker text before after) :
    Meets marker text before after
  | next {text before after passed rest : List Char} (here : IsFirst marker text before after)
    (later : Meets marker after passed rest) :
    Meets marker text (before ++ marker.chars ++ passed) rest

def CanClose (inner after : List Char) : Prop :=
  (∃ c ∈ inner.getLast?, isBlank c = false) ∧
    ∀ c ∈ after.head?, isBlank c = true ∨ c ∈ closingSigns

/-- A phrase between two markers. It runs to the first marker that can close it. -/
structure IsPhrase (marker : Marker) (before inner after : List Char) : Prop where
  nonempty : inner ≠ []
  opened : ∀ c ∈ before.getLast?, isBlank c = true ∨ c ∈ openingSigns
  solid : ∃ c ∈ inner.head?, isBlank c = false
  met : Meets marker (inner ++ marker.chars ++ after) inner after
  closed : CanClose inner after
  first : ∀ passed rest, Meets marker (inner ++ marker.chars ++ after) passed rest →
    CanClose passed rest → inner.length ≤ passed.length

def Opens (marker : Marker) (before behind : List Char) : Prop :=
  ∃ inner after, behind = inner ++ marker.chars ++ after ∧ IsPhrase marker before inner after

/-- A text that stands behind another, as literals and phrases in turn. A phrase begins at the first
    marker that is met and begins one. -/
inductive Reads (marker : Marker) : List Char → List Char → List Piece → Prop
  | plain {before text : List Char}
    (unopened : ∀ passed rest, Meets marker text passed rest →
      ¬ Opens marker (before ++ passed) rest) :
    Reads marker before text [.literal text]
  | phrase {before text literal inner after : List Char} {pieces : List Piece}
    (met : Meets marker text literal (inner ++ marker.chars ++ after))
    (unopened : ∀ passed rest, Meets marker text passed rest → passed.length < literal.length →
      ¬ Opens marker (before ++ passed) rest)
    (isPhrase : IsPhrase marker (before ++ literal) inner after)
    (later : Reads marker (before ++ literal ++ marker.chars ++ inner ++ marker.chars) after
      pieces) :
    Reads marker before text (.literal literal :: .phrase inner :: pieces)

section Meets

variable {marker : Marker} {text front behind passed passed' rest rest' : List Char}

theorem Meets.source (met : Meets marker text passed rest) :
    text = passed ++ marker.chars ++ rest := by
  induction met with
  | first here => exact here.1
  | next here _ ih => rw [here.1, ih]; simp

theorem Meets.eq_of_length (met : Meets marker text passed rest)
    (met' : Meets marker text passed' rest') (same : passed.length = passed'.length) :
    passed = passed' ∧ rest = rest' := by
  have source := met.source.symm.trans met'.source
  rw [List.append_assoc, List.append_assoc] at source
  obtain ⟨rfl, behind⟩ := List.append_inj source same
  exact ⟨rfl, List.append_cancel_left behind⟩

theorem CanClose.ne_nil (closes : CanClose passed rest) : passed ≠ [] := by
  rintro rfl
  obtain ⟨c, last, -⟩ := closes.1
  cases last

end Meets

section Closing

variable {marker : Marker} {before passed text inner rest front behind : List Char}

end Closing

section Reads

variable {marker : Marker} {before text front behind : List Char} {pieces : List Piece}

theorem Reads.source (reads : Reads marker before text pieces) :
    pieces.flatMap (Piece.source marker) = text := by
  induction reads with
  | plain unopened => exact List.append_nil _
  | phrase met unopened isPhrase later ih =>
    rw [List.flatMap_cons, List.flatMap_cons, ih, met.source]
    simp [Piece.source]

theorem IsPhrase.unique {inner inner' after after' : List Char}
    (phrase : IsPhrase marker before inner after) (phrase' : IsPhrase marker before inner' after')
    (same : inner ++ marker.chars ++ after = inner' ++ marker.chars ++ after') :
    inner = inner' ∧ after = after' := by
  have met := same ▸ phrase.met
  have le := phrase'.first inner after met phrase.closed
  have ge := phrase.first inner' after' (same.symm ▸ phrase'.met) phrase'.closed
  exact met.eq_of_length phrase'.met (Nat.le_antisymm ge le)

/-- A text is read in one way only. -/
theorem Reads.unique {pieces' : List Piece} (reads : Reads marker before text pieces)
    (reads' : Reads marker before text pieces') : pieces = pieces' := by
  induction reads generalizing pieces' with
  | plain unopened =>
    cases reads' with
    | plain => rfl
    | phrase met _ isPhrase => exact absurd ⟨_, _, rfl, isPhrase⟩ (unopened _ _ met)
  | @phrase before text literal inner after pieces met unopened isPhrase later ih =>
    cases reads' with
    | plain unopened' => exact absurd ⟨_, _, rfl, isPhrase⟩ (unopened' _ _ met)
    | @phrase _ _ literal' inner' after' pieces' met' unopened' isPhrase' later' =>
      -- The longer of two first literals would hold a marker that begins a phrase.
      have opens : Opens marker (before ++ literal) (inner ++ marker.chars ++ after) :=
        ⟨inner, after, rfl, isPhrase⟩
      have opens' : Opens marker (before ++ literal') (inner' ++ marker.chars ++ after') :=
        ⟨inner', after', rfl, isPhrase'⟩
      have ge : ¬ literal.length < literal'.length := fun lt => unopened' _ _ met lt opens
      have le : ¬ literal'.length < literal.length := fun lt => unopened _ _ met' lt opens'
      obtain ⟨rfl, same⟩ := met.eq_of_length met' (by omega)
      obtain ⟨rfl, rfl⟩ := isPhrase.unique isPhrase' same
      rw [ih later']

theorem Reads.isPhrase {front back : List Piece} {inner : List Char}
    (reads : Reads marker before text pieces) (split : pieces = front ++ .phrase inner :: back) :
    IsPhrase marker (before ++ front.flatMap (Piece.source marker)) inner
      (back.flatMap (Piece.source marker)) := by
  induction reads generalizing front with
  | plain unopened =>
    have member : Piece.phrase inner ∈ front ++ .phrase inner :: back := by simp
    rw [← split] at member
    simp at member
  | @phrase before text literal inner' after pieces met unopened isPhrase later ih =>
    match front, split with
    | [.literal _], split =>
      simp only [List.singleton_append, List.cons.injEq, Piece.literal.injEq,
        Piece.phrase.injEq] at split
      obtain ⟨rfl, rfl, rfl⟩ := split
      rw [later.source]
      simpa [Piece.source] using isPhrase
    | .literal _ :: .phrase _ :: front, split =>
      simp only [List.cons_append, List.cons.injEq, Piece.literal.injEq,
        Piece.phrase.injEq] at split
      obtain ⟨rfl, rfl, rfl⟩ := split
      simpa [Piece.source] using ih rfl

end Reads

end TopicWiki.Textile
