import TopicWiki.Proofs.Textile.Nesting
import TopicWiki.Textile.Inline

namespace TopicWiki.Textile

open Text

section

variable {marker : Marker} {before : Option Char} {text front after inner rest : List Char}

theorem piecesAfter_of_absent (absent : cut? marker.chars text = none) :
    piecesAfter marker before text = [.literal text] := by
  rw [piecesAfter]
  split
  · rfl
  · rename_i found
    rw [absent] at found
    cases found

theorem piecesAfter_of_opened (found : cut? marker.chars text = some (front, after))
    (opened : openPhrase? marker (front.getLast?.or before) after = some (inner, rest)) :
    piecesAfter marker before text =
      .literal front :: .phrase inner :: piecesAfter marker marker.chars.getLast? rest := by
  rw [piecesAfter]
  split
  · rename_i absent
    rw [found] at absent
    cases absent
  · rename_i found'
    rw [found] at found'
    cases found'
    split
    · rename_i opened'
      rw [opened] at opened'
      cases opened'
      rfl
    · rename_i unopened
      rw [opened] at unopened
      cases unopened

theorem piecesAfter_of_unopened (found : cut? marker.chars text = some (front, after))
    (unopened : openPhrase? marker (front.getLast?.or before) after = none) :
    piecesAfter marker before text =
      .literal (front ++ marker.chars) :: piecesAfter marker marker.chars.getLast? after := by
  rw [piecesAfter]
  split
  · rename_i absent
    rw [found] at absent
    cases absent
  · rename_i found'
    rw [found] at found'
    cases found'
    split
    · rename_i opened
      rw [unopened] at opened
      cases opened
    · rfl

end

theorem piecesAfter_source (marker : Marker) (before : Option Char) (text : List Char) :
    (piecesAfter marker before text).flatMap (Piece.source marker) = text := by
  induction size : text.length using Nat.strongRecOn generalizing before text with
  | ind n ih =>
    cases found : cut? marker.chars text with
    | none =>
      rw [piecesAfter_of_absent found, List.flatMap_singleton]
      rfl
    | some parts =>
      obtain ⟨front, after⟩ := parts
      have afterShorter := cut?_after_lt found marker.nonempty
      have source := cut?_eq_some found
      cases opened : openPhrase? marker (front.getLast?.or before) after with
      | some parts =>
        obtain ⟨inner, rest⟩ := parts
        have closed := (openPhrase?_eq_some opened).2
        have restShorter := closePhrase?_rest_lt closed
        rw [piecesAfter_of_opened found opened, List.flatMap_cons, List.flatMap_cons,
          ih _ (by omega) _ rest rfl, source, closePhrase?_eq_some closed]
        simp only [Piece.source, List.append_assoc]
      | none =>
        rw [piecesAfter_of_unopened found opened, List.flatMap_cons, ih _ (by omega) _ after rfl,
          source]
        rfl

theorem infix_of_mem_pieces {marker : Marker} {part : Piece} {text : List Char}
    (member : part ∈ pieces marker text) : part.source marker <:+: text := by
  have source := piecesAfter_source marker none text
  obtain ⟨front, back, parts⟩ := List.append_of_mem member
  refine ⟨front.flatMap (Piece.source marker), back.flatMap (Piece.source marker), ?_⟩
  rw [pieces] at parts
  rw [parts, List.flatMap_append, List.flatMap_cons, ← List.append_assoc] at source
  exact source

theorem pieces_of_absent {c : Char} {text : List Char} (absent : c ∉ text) {nonempty : [c] ≠ []} :
    pieces ⟨[c], nonempty⟩ text = [.literal text] := by
  apply piecesAfter_of_absent
  rw [cut?_eq_none_iff]
  intro inside
  exact absent (inside.subset (List.mem_singleton_self c))

def openingTag (name : String) : List Char :=
  '<' :: name.toList ++ ['>']

def closingTag (name : String) : List Char :=
  "</".toList ++ name.toList ++ ['>']

theorem wrap_eq (name : String) (inner : List Char) :
    wrap name inner = openingTag name ++ (inner ++ closingTag name) := by
  unfold wrap openingTag closingTag
  generalize name.toList = letters
  have bracket : ">".toList = ['>'] := rfl
  have start : "<".toList = ['<'] := rfl
  rw [bracket, start]
  simp only [List.append_assoc, List.cons_append, List.nil_append]

theorem isOpening_isClosing_phrase :
    ∀ entry ∈ phraseElements,
      IsOpening entry.2 (openingTag entry.2) ∧ IsClosing entry.2 (closingTag entry.2) := by
  have checked : ∀ entry ∈ phraseElements,
      startsTag ('<' :: entry.2.toList) = true ∧ '>' ∉ '<' :: entry.2.toList ∧
      startsTag ("</".toList ++ entry.2.toList) = true ∧ '>' ∉ "</".toList ++ entry.2.toList ∧
      tagName? (openingTag entry.2) = some entry.2 ∧ tagName? (closingTag entry.2) = some entry.2 ∧
      isClosing (openingTag entry.2) = false ∧ isClosing (closingTag entry.2) = true ∧
      voidElements.contains entry.2 = false ∧
      '\n' ∉ openingTag entry.2 ∧ '\n' ∉ closingTag entry.2 := by
    decide
  intro entry listed
  obtain ⟨starts, single, startsEnd, singleEnd, named, namedEnd, opens, closing, container, line,
    lineEnd⟩ := checked entry listed
  exact ⟨⟨isTag_of_parts starts single, named, opens, container, line⟩,
    ⟨isTag_of_parts startsEnd singleEnd, namedEnd, closing, lineEnd⟩⟩

theorem phrases_woven (marker : Marker) {name : String}
    (opening : IsOpening name (openingTag name)) (closing : IsClosing name (closingTag name))
    (before : Option Char) (text : List Char) (plain : Plain text) :
    Woven text ((piecesAfter marker before text).flatMap (Piece.written (wrap name))) := by
  cases found : cut? marker.chars text with
  | none =>
    have single : [Piece.literal text].flatMap (Piece.written (wrap name)) = text :=
      List.append_nil text
    rw [piecesAfter_of_absent found, single]
    exact .refl plain
  | some parts =>
    obtain ⟨front, after⟩ := parts
    have afterShorter := cut?_after_lt found marker.nonempty
    have source := cut?_eq_some found
    rw [List.append_assoc] at source
    rw [source] at plain
    obtain ⟨-, markedPlain, -⟩ := plain_append_iff.mp plain
    obtain ⟨-, afterPlain, -⟩ := plain_append_iff.mp markedPlain
    cases opened : openPhrase? marker (front.getLast?.or before) after with
    | some parts =>
      obtain ⟨inner, rest⟩ := parts
      have closed := (openPhrase?_eq_some opened).2
      have restShorter := closePhrase?_rest_lt closed
      have inside := closePhrase?_eq_some closed
      rw [inside, List.append_assoc] at afterPlain
      obtain ⟨innerPlain, behindPlain, -⟩ := plain_append_iff.mp afterPlain
      obtain ⟨-, restPlain, -⟩ := plain_append_iff.mp behindPlain
      have later := phrases_woven marker opening closing marker.chars.getLast? rest restPlain
      rw [piecesAfter_of_opened found opened, List.flatMap_cons, List.flatMap_cons, Piece.written,
        Piece.written, wrap_eq, source]
      simp only [List.append_assoc]
      refine .behind plain (.of_tag opening.toIsTag ?_ _)
      exact .of_element opening (.plain innerPlain) closing later.nested
    | none =>
      have later := phrases_woven marker opening closing marker.chars.getLast? after afterPlain
      rw [piecesAfter_of_unopened found opened, List.flatMap_cons, Piece.written, source,
        List.append_assoc]
      exact .behind plain (.behind markedPlain later)
termination_by text.length

theorem Nested.phrases {text : List Char} (nested : Nested text) : Nested (phrases text) := by
  unfold Textile.phrases
  refine List.foldlRecOn phraseElements _ nested ?_
  intro text nested entry listed
  obtain ⟨opening, closing⟩ := isOpening_isClosing_phrase entry listed
  apply nested.mapRuns
  intro run plain
  exact (phrases_woven entry.1 opening closing none run plain).nested

end TopicWiki.Textile
