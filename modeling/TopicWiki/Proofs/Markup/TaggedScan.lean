import TopicWiki.Markup.Tagged
import TopicWiki.Proofs.Text.FirstOccurrence

namespace TopicWiki.Markup

open Text

variable {tag text : List Char}

def HoldsBlock (tag text : List Char) : Prop :=
  ∃ before body rest, text = before ++ openTag tag ++ body ++ closeTag tag ++ rest

structure TaggedBlock where
  before : List Char
  body : List Char
  deriving DecidableEq, Repr

/-- The blocks of a text, and the text behind the last. A block begins at the leftmost opening tag
    that a closing tag follows, its body runs to the first closing tag, and no block is left behind
    the last. -/
inductive Scanned (tag : List Char) : List Char → List TaggedBlock → List Char → Prop
  | none {text : List Char} : ¬ HoldsBlock tag text → Scanned tag text [] text
  | block {before body rest last : List Char} {blocks : List TaggedBlock} :
    (∀ before' body' rest', before ++ openTag tag ++ body ++ closeTag tag ++ rest =
      before' ++ openTag tag ++ body' ++ closeTag tag ++ rest' → before.length ≤ before'.length) →
    (∀ body' rest', body ++ closeTag tag ++ rest = body' ++ closeTag tag ++ rest' →
      body.length ≤ body'.length) →
    Scanned tag rest blocks last →
    Scanned tag (before ++ openTag tag ++ body ++ closeTag tag ++ rest) (⟨before, body⟩ :: blocks)
      last

def piecesOf (blocks : List TaggedBlock) (last : List Char) : List TaggedPiece :=
  (blocks.flatMap fun block => [.plain block.before, .body block.body]) ++ [.plain last]

theorem taggedPieces_of_none (unheld : ¬ HoldsBlock tag text) :
    taggedPieces tag text = [.plain text] := by
  rw [taggedPieces]
  split
  · rfl
  · rename_i before after opened
    split
    · rfl
    · rename_i body rest closed
      refine absurd ⟨before, body, rest, ?_⟩ unheld
      rw [cut?_eq_some opened, cut?_eq_some closed]
      simp only [List.append_assoc]

theorem taggedPieces_of_cuts {before after body rest : List Char}
    (opened : cut? (openTag tag) text = some (before, after))
    (closed : cut? (closeTag tag) after = some (body, rest)) :
    taggedPieces tag text = .plain before :: .body body :: taggedPieces tag rest := by
  rw [taggedPieces]
  split
  · rename_i absent
    rw [opened] at absent
    cases absent
  · rename_i opened'
    rw [opened] at opened'
    cases opened'
    split
    · rename_i absent
      rw [closed] at absent
      cases absent
    · rename_i closed'
      rw [closed] at closed'
      cases closed'
      rfl

theorem closeTag_behind_first {before after before' body rest : List Char}
    (opened : cut? (openTag tag) text = some (before, after))
    (held : text = before' ++ openTag tag ++ body ++ closeTag tag ++ rest) :
    ∃ front, after = front ++ closeTag tag ++ rest := by
  have parts := cut?_eq_some opened
  have place : text = before' ++ openTag tag ++ (body ++ closeTag tag ++ rest) := by
    simp only [held, List.append_assoc]
  have least := length_le_of_cut? opened place
  have begins : before ++ openTag tag <+: before' ++ openTag tag ++ body := by
    have front : before ++ openTag tag <+: text := ⟨after, parts.symm⟩
    have whole : before' ++ openTag tag ++ body <+: text :=
      ⟨closeTag tag ++ rest, by simp only [held, List.append_assoc]⟩
    apply List.prefix_of_prefix_length_le front whole
    simp only [List.length_append]
    omega
  obtain ⟨front, same⟩ := begins
  refine ⟨front, ?_⟩
  rw [held, ← same] at parts
  simp only [List.append_assoc, List.append_cancel_left_eq] at parts
  rw [List.append_assoc]
  exact parts.symm

theorem cuts_of_least {before body rest : List Char}
    (leftmost : ∀ before' body' rest', before ++ openTag tag ++ body ++ closeTag tag ++ rest =
      before' ++ openTag tag ++ body' ++ closeTag tag ++ rest' → before.length ≤ before'.length)
    (first : ∀ body' rest', body ++ closeTag tag ++ rest = body' ++ closeTag tag ++ rest' →
      body.length ≤ body'.length) :
    cut? (openTag tag) (before ++ openTag tag ++ body ++ closeTag tag ++ rest) =
        some (before, body ++ closeTag tag ++ rest) ∧
      cut? (closeTag tag) (body ++ closeTag tag ++ rest) = some (body, rest) := by
  refine ⟨?_, cut?_eq_some_iff_least.mpr ⟨rfl, first⟩⟩
  refine cut?_eq_some_iff_least.mpr ⟨by simp only [List.append_assoc], ?_⟩
  intro before' after' here
  cases opened : cut? (openTag tag) (before ++ openTag tag ++ body ++ closeTag tag ++ rest) with
  | none => exact absurd ⟨before', after', here.symm⟩ (cut?_eq_none_iff.mp opened)
  | some parts =>
    obtain ⟨front, after⟩ := parts
    obtain ⟨inside, rfl⟩ := closeTag_behind_first opened rfl
    have parts := cut?_eq_some opened
    calc before.length ≤ front.length :=
          leftmost front inside rest (by rw [parts]; simp only [List.append_assoc])
      _ ≤ before'.length := length_le_of_cut? opened here

theorem Scanned.taggedPieces {blocks : List TaggedBlock} {last : List Char}
    (scanned : Scanned tag text blocks last) : taggedPieces tag text = piecesOf blocks last := by
  induction scanned with
  | none unheld => exact taggedPieces_of_none unheld
  | block leftmost first _ ih =>
    obtain ⟨opened, closed⟩ := cuts_of_least leftmost first
    rw [taggedPieces_of_cuts opened closed, ih]
    rfl

theorem piecesOf_inj {blocks blocks' : List TaggedBlock} {last last' : List Char}
    (same : piecesOf blocks last = piecesOf blocks' last') : blocks = blocks' ∧ last = last' := by
  induction blocks generalizing blocks' with
  | nil =>
    cases blocks' with
    | nil => simpa [piecesOf] using same
    | cons block blocks' => simp [piecesOf] at same
  | cons block blocks ih =>
    cases blocks' with
    | nil => simp [piecesOf] at same
    | cons block' blocks' =>
      simp only [piecesOf, List.flatMap_cons, List.cons_append, List.nil_append, List.cons.injEq,
        TaggedPiece.plain.injEq, TaggedPiece.body.injEq] at same
      obtain ⟨rfl, rfl⟩ := ih same.2.2
      obtain ⟨before, body, -⟩ := same
      cases block
      cases block'
      obtain rfl : _ = _ := before
      obtain rfl : _ = _ := body
      exact ⟨rfl, rfl⟩

theorem exists_scanned (tag text : List Char) : ∃ blocks last, Scanned tag text blocks last := by
  induction size : text.length using Nat.strongRecOn generalizing text with
  | ind n ih =>
    by_cases held : HoldsBlock tag text
    · obtain ⟨before', body', rest', source⟩ := held
      cases opened : cut? (openTag tag) text with
      | none =>
        have inside : openTag tag <:+: text :=
          ⟨before', body' ++ closeTag tag ++ rest', by simp only [source, List.append_assoc]⟩
        exact absurd inside (cut?_eq_none_iff.mp opened)
      | some parts =>
        obtain ⟨before, after⟩ := parts
        obtain ⟨front, behind⟩ := closeTag_behind_first opened source
        cases closed : cut? (closeTag tag) after with
        | none => exact absurd ⟨front, rest', behind.symm⟩ (cut?_eq_none_iff.mp closed)
        | some parts =>
          obtain ⟨body, rest⟩ := parts
          have shorter : rest.length < n := by
            have afterShorter := cut?_after_lt opened (by simp [openTag])
            have restShorter := cut?_after_lt closed (by simp [closeTag])
            omega
          obtain ⟨blocks, last, later⟩ := ih _ shorter rest rfl
          have whole : text = before ++ openTag tag ++ body ++ closeTag tag ++ rest := by
            rw [cut?_eq_some opened, cut?_eq_some closed]
            simp only [List.append_assoc]
          refine ⟨⟨before, body⟩ :: blocks, last, ?_⟩
          rw [whole]
          refine .block ?_ ?_ later
          · intro before' body' rest' same
            have place : text = before' ++ openTag tag ++ (body' ++ closeTag tag ++ rest') := by
              rw [whole, same]
              simp only [List.append_assoc]
            exact length_le_of_cut? opened place
          · intro body' rest' same
            exact length_le_of_cut? closed ((cut?_eq_some closed).trans same)
    · exact ⟨[], text, .none held⟩

theorem Scanned.unique {blocks blocks' : List TaggedBlock} {last last' : List Char}
    (scanned : Scanned tag text blocks last) (scanned' : Scanned tag text blocks' last') :
    blocks = blocks' ∧ last = last' :=
  piecesOf_inj (scanned.taggedPieces.symm.trans scanned'.taggedPieces)

def TaggedBlock.source (tag : List Char) (block : TaggedBlock) : List Char :=
  block.before ++ openTag tag ++ block.body ++ closeTag tag

theorem Scanned.source {blocks : List TaggedBlock} {last : List Char}
    (scanned : Scanned tag text blocks last) :
    text = blocks.flatMap (TaggedBlock.source tag) ++ last := by
  induction scanned with
  | none => rfl
  | block _ _ _ ih =>
    rw [List.flatMap_cons, List.append_assoc (TaggedBlock.source tag _), ← ih]
    rfl

def paragraph (inner : List Char) : List Char :=
  "<p>".toList ++ inner ++ "</p>".toList

/-- What stands for converted HTML: the content of a paragraph that holds no further paragraph tag,
    and all other HTML itself. -/
inductive Unwraps : List Char → List Char → Prop
  | single {inner : List Char} : ¬ "<p>".toList <:+: inner → ¬ "</p>".toList <:+: inner →
    Unwraps (paragraph inner) inner
  | other {html : List Char} :
    (∀ inner, html = paragraph inner → "<p>".toList <:+: inner ∨ "</p>".toList <:+: inner) →
    Unwraps html html

theorem paragraph_inj {inner inner' : List Char} (same : paragraph inner = paragraph inner') :
    inner = inner' :=
  List.append_cancel_left (List.append_cancel_right same)

theorem unwrapParagraph_paragraph (inner : List Char) :
    unwrapParagraph (paragraph inner) =
      if contains "<p>".toList inner || contains "</p>".toList inner then paragraph inner
      else inner := by
  have front := isPrefixOf?_append "<p>".toList (inner ++ "</p>".toList)
  have back := isPrefixOf?_append "</p>".toList.reverse inner.reverse
  rw [← List.reverse_append] at back
  rw [← List.append_assoc] at front
  simp only [unwrapParagraph, paragraph, front, back, List.reverse_reverse]

theorem unwrapParagraph_other {html : List Char} (other : ∀ inner, html ≠ paragraph inner) :
    unwrapParagraph html = html := by
  unfold unwrapParagraph
  split
  · rfl
  · rename_i rest front
    split
    · rfl
    · rename_i reversed back
      have ends := congrArg List.reverse (isPrefixOf?_eq_some back)
      rw [List.reverse_reverse, List.reverse_append, List.reverse_reverse] at ends
      refine absurd ?_ (other reversed.reverse)
      rw [isPrefixOf?_eq_some front, ends, paragraph, List.append_assoc]

theorem unwrapParagraph_eq_iff {html placed : List Char} :
    unwrapParagraph html = placed ↔ Unwraps html placed := by
  constructor
  · rintro rfl
    by_cases wrapped : ∃ inner, html = paragraph inner
    · obtain ⟨inner, rfl⟩ := wrapped
      rw [unwrapParagraph_paragraph]
      split
      · rename_i further
        rw [Bool.or_eq_true] at further
        refine .other fun inner' same => ?_
        rw [← paragraph_inj same]
        exact further.imp contains_iff_infix.mp contains_iff_infix.mp
      · rename_i single
        rw [Bool.not_eq_true, Bool.or_eq_false_iff] at single
        exact .single (contains_eq_false_iff.mp single.1) (contains_eq_false_iff.mp single.2)
    · rw [not_exists] at wrapped
      rw [unwrapParagraph_other wrapped]
      exact .other fun inner same => absurd same (wrapped inner)
  · intro unwraps
    cases unwraps with
    | single opened closed =>
      rw [← contains_eq_false_iff] at opened closed
      rw [unwrapParagraph_paragraph, opened, closed]
      rfl
    | other further =>
      by_cases wrapped : ∃ inner, html = paragraph inner
      · obtain ⟨inner, rfl⟩ := wrapped
        have held := (further inner rfl).imp contains_iff_infix.mpr contains_iff_infix.mpr
        rw [unwrapParagraph_paragraph, if_pos (Bool.or_eq_true_iff.mpr held)]
      · exact unwrapParagraph_other (not_exists.mp wrapped)

def replaced (blocks : List TaggedBlock) (htmls : List String) (last : List Char) : List Char :=
  (List.zipWith (fun block html => block.before ++ unwrapParagraph (trim html.toList)) blocks
    htmls).flatten ++ last

section

variable {m : Type → Type} [Monad m] [LawfulMonad m]

def convertPiece (convert : String → m String) : TaggedPiece → m (List Char)
  | .plain text => pure text
  | .body text => do
    let html ← convert (String.ofList text)
    pure (unwrapParagraph (trim html.toList))

omit [LawfulMonad m] in
theorem convertTagged_eq (convert : String → m String) (tag text : String) :
    convertTagged convert tag text = (do
      let pieces ← (taggedPieces tag.toList text.toList).mapM (convertPiece convert)
      pure (String.ofList pieces.flatten)) :=
  rfl

theorem convertTagged_of_scanned (convert : String → m String) {tag text : String}
    {blocks : List TaggedBlock} {last : List Char}
    (scanned : Scanned tag.toList text.toList blocks last) :
    convertTagged convert tag text =
      (do
        let htmls ← blocks.mapM fun block => convert (String.ofList block.body)
        pure (String.ofList (replaced blocks htmls last))) := by
  rw [convertTagged_eq, scanned.taggedPieces]
  suffices assembled : ∀ f : List Char → String, (do
      let pieces ← (piecesOf blocks last).mapM (convertPiece convert)
      pure (f pieces.flatten)) =
      (do
        let htmls ← blocks.mapM fun block => convert (String.ofList block.body)
        pure (f (replaced blocks htmls last))) by
    exact assembled String.ofList
  clear scanned
  induction blocks with
  | nil => simp [piecesOf, convertPiece, replaced]
  | cons block blocks ih =>
    intro f
    have later := ih
    simp only [piecesOf, List.flatMap_cons, List.cons_append, List.nil_append, List.mapM_cons,
      convertPiece, bind_assoc, pure_bind, List.flatten_cons, replaced, List.zipWith_cons_cons,
      List.append_assoc] at later ⊢
    refine bind_congr fun html => ?_
    rw [later (fun text => f (block.before ++ (unwrapParagraph (trim html.toList) ++ text)))]

/-- The tagged blocks of a text are those of a scan from left to right. Each is converted once, in
    their order, and its HTML is put in its place; the texts around them stay as they are. -/
theorem convertTagged_scans (convert : String → m String) (tag text : String) :
    ∃ blocks last, Scanned tag.toList text.toList blocks last ∧
      (∀ blocks' last', Scanned tag.toList text.toList blocks' last' →
        blocks' = blocks ∧ last' = last) ∧
      text.toList = blocks.flatMap (TaggedBlock.source tag.toList) ++ last ∧
      convertTagged convert tag text =
        (do
          let htmls ← blocks.mapM fun block => convert (String.ofList block.body)
          pure (String.ofList (replaced blocks htmls last))) ∧
      ∀ html placed, unwrapParagraph html = placed ↔ Unwraps html placed := by
  obtain ⟨blocks, last, scanned⟩ := exists_scanned tag.toList text.toList
  exact ⟨blocks, last, scanned, fun _ _ other => other.unique scanned, scanned.source,
    convertTagged_of_scanned convert scanned, fun _ _ => unwrapParagraph_eq_iff⟩

end

def notedParagraph (body : String) : StateM (List String) String := do
  modify (· ++ [body])
  pure ("<p>" ++ body ++ "</p>\n")

/-- A tag with a full stop in its name: opened twice and closed twice, opened and closed, left open. -/
def crossedText : String :=
  "x<a.b><a.b>1</a.b>y</a.b> <a.b>2\n</a.b><a.b>z"

theorem convertTagged_scans_crossed :
    LawfulMonad (StateM (List String)) ∧
      Scanned "a.b".toList crossedText.toList
        [⟨"x".toList, "<a.b>1".toList⟩, ⟨"y</a.b> ".toList, "2\n".toList⟩] "<a.b>z".toList ∧
      (convertTagged notedParagraph "a.b" crossedText).run [] =
        ("x<a.b>1y</a.b> 2\n<a.b>z", ["<a.b>1", "2\n"]) := by
  obtain ⟨blocks, last, scanned, -, -, result, -⟩ :=
    convertTagged_scans notedParagraph "a.b" crossedText
  have pieces : taggedPieces "a.b".toList crossedText.toList =
      piecesOf [⟨"x".toList, "<a.b>1".toList⟩, ⟨"y</a.b> ".toList, "2\n".toList⟩]
        "<a.b>z".toList := by
    cbv
  obtain ⟨rfl, rfl⟩ := piecesOf_inj (scanned.taggedPieces.symm.trans pieces)
  refine ⟨inferInstance, scanned, ?_⟩
  rw [result]
  rfl

end TopicWiki.Markup
