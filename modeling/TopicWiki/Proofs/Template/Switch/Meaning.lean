import Mathlib.Data.List.Forall2
import TopicWiki.Proofs.Text.Trim
import TopicWiki.Proofs.Template.Switch.Branches

namespace TopicWiki.Template.Switch

open Text

structure Comparison where
  variable_ : List Char
  expression : List Char
  deriving DecidableEq, Repr

namespace Comparison

def source (c : Comparison) : List Char :=
  c.variable_ ++ " == (".toList ++ c.expression ++ ")".toList

def anySource : List Comparison → List Char
  | [] => []
  | [c] => c.source
  | c :: next :: rest => c.source ++ " or ".toList ++ anySource (next :: rest)

end Comparison

/-- A statement a switch is replaced by, or the text of a branch between two of them. -/
inductive Piece where
  | with_ (variable_ subject : List Char)
  | if_ (any : List Comparison)
  | elif (any : List Comparison)
  | else_
  | endif
  | endwith
  | body (text : List Char)
  deriving DecidableEq, Repr

namespace Piece

def signed (words : List Char) : List Char :=
  ['\x7b', '%', ' '] ++ words ++ [' ', '%', '\x7d']

def source : Piece → List Char
  | .with_ variable_ subject =>
    signed ("with ".toList ++ variable_ ++ " = (".toList ++ subject ++ ")".toList)
  | .if_ any => signed ("if ".toList ++ Comparison.anySource any)
  | .elif any => signed ("elif ".toList ++ Comparison.anySource any)
  | .else_ => signed "else".toList
  | .endif => signed "endif".toList
  | .endwith => signed "endwith".toList
  | .body text => text

theorem signed_eq (words : List Char) : signed words = statementText words := by
  simp [signed, statementText]

def body? : Piece → Option (List Char)
  | .body text => some text
  | _ => none

end Piece

abbrev Scope (V : Type) := List (List Char × V)

/-- What expressions and template texts mean, effects included. -/
structure Language (m : Type → Type) (V : Type) where
  evaluate : Scope V → List Char → m V
  equal : V → V → Bool
  undefined : V
  render : Scope V → List Char → m Unit

inductive Progress where
  | seeking
  | inside
  | done
  deriving DecidableEq, Repr

inductive Frame (V : Type) where
  | scope (variable_ : List Char) (value : V)
  | skipped
  | condition (progress : Progress)

namespace Frame

variable {V : Type}

def active : Frame V → Bool
  | .scope _ _ => true
  | .skipped => false
  | .condition progress => progress = .inside

def binding? : Frame V → Option (List Char × V)
  | .scope variable_ value => some (variable_, value)
  | _ => none

end Frame

section

variable {m : Type → Type} [Monad m] {V : Type} (language : Language m V)

def Language.lookup (scope : Scope V) (variable_ : List Char) : V :=
  (scope.lookup variable_).getD language.undefined

def Language.holds (scope : Scope V) (c : Comparison) : m Bool := do
  let other ← language.evaluate scope c.expression
  pure (language.equal (language.lookup scope c.variable_) other)

/-- Whether one of the comparisons holds. Those behind it are not made. -/
def Language.anyHolds (scope : Scope V) : List Comparison → m Bool
  | [] => pure false
  | c :: rest => do
    if ← language.holds scope c then pure true else Language.anyHolds scope rest

def Language.equalsAny (scope : Scope V) (value : V) : List (List Char) → m Bool
  | [] => pure false
  | expression :: rest => do
    let other ← language.evaluate scope expression
    if language.equal value other then pure true else Language.equalsAny scope value rest

/-- One statement or text of a template. Nothing is evaluated or rendered where a frame skips. -/
def Language.step (frames : List (Frame V)) : Piece → m (List (Frame V))
  | .body text => do
    if frames.all Frame.active then
      language.render (frames.filterMap Frame.binding?) text
    pure frames
  | .with_ variable_ subject =>
    if frames.all Frame.active then do
      let value ← language.evaluate (frames.filterMap Frame.binding?) subject
      pure (.scope variable_ value :: frames)
    else pure (.skipped :: frames)
  | .if_ any =>
    if frames.all Frame.active then do
      let holds ← language.anyHolds (frames.filterMap Frame.binding?) any
      pure (.condition (if holds then .inside else .seeking) :: frames)
    else pure (.condition .done :: frames)
  | .elif any =>
    match frames with
    | .condition .seeking :: outer => do
      let holds ← language.anyHolds (outer.filterMap Frame.binding?) any
      pure (.condition (if holds then .inside else .seeking) :: outer)
    | .condition _ :: outer => pure (.condition .done :: outer)
    | frames => pure frames
  | .else_ =>
    match frames with
    | .condition .seeking :: outer => pure (.condition .inside :: outer)
    | .condition _ :: outer => pure (.condition .done :: outer)
    | frames => pure frames
  | .endif => pure frames.tail
  | .endwith => pure frames.tail

def Language.interpret (frames : List (Frame V)) (pieces : List Piece) : m (List (Frame V)) :=
  pieces.foldlM language.step frames

/-- What a switch means: the first branch that holds, or nothing. -/
def Language.select (scope : Scope V) (subject : V) : List Branch → m Unit
  | [] => pure ()
  | ⟨some values, body⟩ :: rest => do
    if ← language.equalsAny scope subject values then language.render scope body
    else Language.select scope subject rest
  | ⟨none, body⟩ :: _ => language.render scope body

end

def comparisons (variable_ : List Char) (values : List (List Char)) : List Comparison :=
  values.map (Comparison.mk variable_)

def chainPieces (variable_ : List Char) (first : Bool) : List Branch → List Piece
  | [] => if first then [] else [.endif]
  | ⟨some values, body⟩ :: rest =>
    (if first then .if_ (comparisons variable_ values)
      else .elif (comparisons variable_ values)) :: .body body :: chainPieces variable_ false rest
  | ⟨none, body⟩ :: rest =>
    (if first then [] else [.else_]) ++ .body body :: chainPieces variable_ first rest

def pieces (serial : Nat) (subject : List Char) (branches : List Branch) : List Piece :=
  .with_ (subjectVariable serial) subject ::
    (chainPieces (subjectVariable serial) true branches ++ [.endwith])

theorem anySource_comparisons (variable_ : List Char) (values : List (List Char)) :
    Comparison.anySource (comparisons variable_ values) = condition variable_ values := by
  induction values with
  | nil => rfl
  | cons value rest ih =>
    cases rest with
    | nil => simp [comparisons, Comparison.anySource, Comparison.source, condition]
    | cons next rest =>
      have later : Comparison.anySource (comparisons variable_ (value :: next :: rest)) =
          (Comparison.mk variable_ value).source ++ " or ".toList ++
            Comparison.anySource (comparisons variable_ (next :: rest)) := by
        simp only [comparisons, List.map_cons, Comparison.anySource]
      rw [later, ih]
      simp [Comparison.source, condition, List.intercalate]

theorem chainPieces_source (variable_ : List Char) (first : Bool) (branches : List Branch) :
    (chainPieces variable_ first branches).flatMap Piece.source =
      chain variable_ first branches := by
  induction branches generalizing first with
  | nil => cases first <;> simp [chainPieces, chain, Piece.source, Piece.signed_eq]
  | cons branch rest ih =>
    obtain ⟨values?, body⟩ := branch
    cases values? with
    | none =>
      rw [chainPieces, chain, List.flatMap_append, List.flatMap_cons, ih]
      cases first <;> simp [Piece.source, Piece.signed_eq]
    | some values =>
      rw [chainPieces, chain, List.flatMap_cons, List.flatMap_cons, ih]
      cases first <;> simp [Piece.source, anySource_comparisons, Piece.signed_eq]

theorem pieces_source (serial : Nat) (subject : List Char) (branches : List Branch) :
    (pieces serial subject branches).flatMap Piece.source =
      replacement serial subject branches := by
  rw [pieces, replacement, List.flatMap_cons, List.flatMap_append, chainPieces_source]
  simp [Piece.source, Piece.signed_eq]

theorem chainPieces_bodies (variable_ : List Char) (first : Bool) (branches : List Branch) :
    (chainPieces variable_ first branches).filterMap Piece.body? = branches.map Branch.body := by
  induction branches generalizing first with
  | nil => cases first <;> rfl
  | cons branch rest ih =>
    obtain ⟨values?, body⟩ := branch
    cases values? with
    | none => cases first <;> simp [chainPieces, List.filterMap_cons, Piece.body?, ih]
    | some values => cases first <;> simp [chainPieces, List.filterMap_cons, Piece.body?, ih]

theorem pieces_bodies (serial : Nat) (subject : List Char) (branches : List Branch) :
    (pieces serial subject branches).filterMap Piece.body? = branches.map Branch.body := by
  simp [pieces, List.filterMap_cons, Piece.body?, chainPieces_bodies]

section

variable {m : Type → Type} [Monad m] {V : Type} (language : Language m V)

theorem interpret_cons (frames : List (Frame V)) (piece : Piece) (rest : List Piece) :
    language.interpret frames (piece :: rest) =
      language.step frames piece >>= fun frames => language.interpret frames rest :=
  List.foldlM_cons

theorem step_body_skipped {progress : Progress} (elsewhere : progress ≠ .inside)
    (frames : List (Frame V)) (text : List Char) :
    language.step (.condition progress :: frames) (.body text) =
      pure (.condition progress :: frames) := by
  simp [Language.step, Frame.active, elsewhere]

theorem step_body_inside {frames : List (Frame V)} (active : frames.all Frame.active = true)
    (text : List Char) :
    language.step (.condition .inside :: frames) (.body text) =
      language.render (frames.filterMap Frame.binding?) text >>= fun _ =>
        pure (.condition .inside :: frames) := by
  have active' : (Frame.condition .inside :: frames).all Frame.active = true := by
    rw [List.all_cons, active]
    rfl
  rw [Language.step, if_pos active', List.filterMap_cons]
  rfl

theorem step_elif_settled {progress : Progress} (settled : progress ≠ .seeking)
    (frames : List (Frame V)) (any : List Comparison) :
    language.step (.condition progress :: frames) (.elif any) =
      pure (.condition .done :: frames) := by
  cases progress with
  | seeking => exact absurd rfl settled
  | inside => rfl
  | done => rfl

theorem step_else_settled {progress : Progress} (settled : progress ≠ .seeking)
    (frames : List (Frame V)) :
    language.step (.condition progress :: frames) .else_ = pure (.condition .done :: frames) := by
  cases progress with
  | seeking => exact absurd rfl settled
  | inside => rfl
  | done => rfl

variable [LawfulMonad m]

theorem anyHolds_comparisons (scope : Scope V) (variable_ : List Char)
    (values : List (List Char)) :
    language.anyHolds scope (comparisons variable_ values) =
      language.equalsAny scope (language.lookup scope variable_) values := by
  induction values with
  | nil => rfl
  | cons value rest ih =>
    change (do
      if ← language.holds scope ⟨variable_, value⟩ then pure true
      else language.anyHolds scope (comparisons variable_ rest)) = _
    rw [Language.holds, Language.equalsAny, ih]
    simp only [bind_assoc, pure_bind]

theorem interpret_append (frames : List (Frame V)) (front back : List Piece) :
    language.interpret frames (front ++ back) =
      language.interpret frames front >>= fun frames => language.interpret frames back :=
  List.foldlM_append

theorem interpret_chainPieces_settled {progress : Progress} (settled : progress ≠ .seeking)
    (frames : List (Frame V)) (variable_ : List Char) (branches : List Branch) :
    language.interpret (.condition progress :: frames) (chainPieces variable_ false branches) =
      pure frames := by
  induction branches generalizing progress with
  | nil => simp [chainPieces, Language.interpret, Language.step]
  | cons branch rest ih =>
    obtain ⟨values?, body⟩ := branch
    have skipped : language.step (.condition .done :: frames) (.body body) =
        pure (.condition .done :: frames) :=
      step_body_skipped language (by decide) frames body
    cases values? with
    | none =>
      simp only [chainPieces, Bool.false_eq_true, if_false, List.singleton_append]
      rw [interpret_cons, step_else_settled language settled, pure_bind, interpret_cons, skipped,
        pure_bind, ih (by decide)]
    | some values =>
      simp only [chainPieces, Bool.false_eq_true, if_false]
      rw [interpret_cons, step_elif_settled language settled, pure_bind, interpret_cons, skipped,
        pure_bind, ih (by decide)]

theorem interpret_chainPieces_inside {frames : List (Frame V)}
    (active : frames.all Frame.active = true) (variable_ body : List Char) (rest : List Branch) :
    language.interpret (.condition .inside :: frames)
        (.body body :: chainPieces variable_ false rest) =
      language.render (frames.filterMap Frame.binding?) body >>= fun _ => pure frames := by
  rw [interpret_cons, step_body_inside language active, bind_assoc]
  simp only [pure_bind]
  rw [interpret_chainPieces_settled language (by decide)]

theorem interpret_chainPieces_seeking {frames : List (Frame V)}
    (active : frames.all Frame.active = true) (variable_ : List Char) (branches : List Branch) :
    language.interpret (.condition .seeking :: frames) (chainPieces variable_ false branches) =
      language.select (frames.filterMap Frame.binding?)
        (language.lookup (frames.filterMap Frame.binding?) variable_) branches >>= fun _ =>
          pure frames := by
  induction branches with
  | nil => simp [chainPieces, Language.interpret, Language.step, Language.select]
  | cons branch rest ih =>
    obtain ⟨values?, body⟩ := branch
    cases values? with
    | none =>
      simp only [chainPieces, Bool.false_eq_true, if_false, List.singleton_append]
      rw [interpret_cons]
      simp only [Language.step, pure_bind]
      rw [interpret_chainPieces_inside language active]
      rfl
    | some values =>
      simp only [chainPieces, Bool.false_eq_true, if_false]
      rw [interpret_cons]
      simp only [Language.step, anyHolds_comparisons, bind_assoc, pure_bind, Language.select]
      apply bind_congr
      intro holds
      cases holds with
      | true => exact interpret_chainPieces_inside language active variable_ body rest
      | false =>
        simp only [Bool.false_eq_true, if_false]
        rw [interpret_cons, step_body_skipped language (by decide), pure_bind, ih]

theorem interpret_chainPieces (frames : List (Frame V)) (active : frames.all Frame.active = true)
    (variable_ : List Char) {parts : List Part} (last : DefaultLast parts) :
    language.interpret frames (chainPieces variable_ true (branchesOf parts)) =
      language.select (frames.filterMap Frame.binding?)
        (language.lookup (frames.filterMap Frame.binding?) variable_) (branchesOf parts) >>=
          fun _ => pure frames := by
  cases parts with
  | nil => simp [branchesOf, chainPieces, Language.interpret, Language.select]
  | cons part rest =>
    rw [branchesOf, Part.branch]
    by_cases default : part.marker.name = "default"
    · obtain rfl := (defaultLast_cons.mp last).1 default
      simp only [default, if_true, branchesOf, chainPieces, List.nil_append, Language.select]
      rw [interpret_cons, Language.step, if_pos active]
      simp [Language.interpret]
    · simp only [default, if_false, if_true, chainPieces, Language.select]
      rw [interpret_cons, Language.step, if_pos active, anyHolds_comparisons]
      simp only [bind_assoc, pure_bind]
      apply bind_congr
      intro holds
      cases holds with
      | true => exact interpret_chainPieces_inside language active variable_ _ _
      | false =>
        simp only [Bool.false_eq_true, if_false]
        rw [interpret_cons, step_body_skipped language (by decide), pure_bind,
          interpret_chainPieces_seeking language active]

theorem interpret_pieces (serial : Nat) (subject : List Char) {parts : List Part}
    (last : DefaultLast parts) :
    language.interpret [] (pieces serial subject (branchesOf parts)) = (do
      let value ← language.evaluate [] subject
      language.select [(subjectVariable serial, value)] value (branchesOf parts)
      pure []) := by
  rw [pieces, interpret_cons]
  simp only [Language.step, List.all_nil, if_true, List.filterMap_nil, bind_assoc, pure_bind]
  apply bind_congr
  intro value
  have subject : language.lookup [(subjectVariable serial, value)] (subjectVariable serial) =
      value := by
    simp [Language.lookup]
  have chained := interpret_chainPieces language [.scope (subjectVariable serial) value] rfl
    (subjectVariable serial) last
  rw [interpret_append, chained]
  simp [Frame.binding?, subject, Language.interpret, Language.step]

end

def Trimmed (raw kept : List Char) : Prop :=
  ∃ front back, raw = front ++ kept ++ back ∧ allBlank front = true ∧ allBlank back = true

theorem Trimmed.trimStart {raw kept : List Char} (trimmed : Trimmed raw kept) :
    Trimmed raw (Text.trimStart kept) := by
  obtain ⟨front, back, rfl, before, behind⟩ := trimmed
  obtain ⟨blanks, same, blank⟩ := exists_blank_trimStart kept
  refine ⟨front ++ blanks, back, ?_, ?_, behind⟩
  · rw [List.append_assoc front blanks, ← same]
  · rw [allBlank, List.all_append, Bool.and_eq_true]
    exact ⟨before, blank⟩

theorem Trimmed.trimEnd {raw kept : List Char} (trimmed : Trimmed raw kept) :
    Trimmed raw (Text.trimEnd kept) := by
  obtain ⟨front, back, rfl, before, behind⟩ := trimmed
  obtain ⟨blanks, same, blank⟩ := exists_blank_trimEnd kept
  refine ⟨front, blanks ++ back, ?_, before, ?_⟩
  · rw [← List.append_assoc, List.append_assoc front (Text.trimEnd kept), ← same]
  · rw [allBlank, List.all_append, Bool.and_eq_true]
    exact ⟨blank, behind⟩

theorem Part.trimmed_kept (part : Part) (rest : List Part) :
    Trimmed part.body (part.kept rest) := by
  have whole : Trimmed part.body part.body := ⟨[], [], by simp, rfl, rfl⟩
  have front : Trimmed part.body
      (if part.marker.trimAfter then trimStart part.body else part.body) := by
    split
    · exact whole.trimStart
    · exact whole
  unfold Part.kept
  simp only
  split
  · exact front.trimEnd
  · exact front

theorem trimmed_bodies (parts : List Part) :
    List.Forall₂ Trimmed (parts.map Part.body) ((branchesOf parts).map Branch.body) := by
  induction parts with
  | nil => exact List.Forall₂.nil
  | cons part rest ih => exact List.Forall₂.cons (part.trimmed_kept rest) ih

inductive Refused (block : TagBlock) : Prop
  | noSubject (blank : allBlank block.arguments = true)
  | textBeforeCase (solid : allBlank (parts block.body).1 = false)
  | noValue (part : Part) (member : part ∈ (parts block.body).2)
      (case : part.marker.name = "case") (empty : caseValues part.marker.arguments = [])
  | afterDefault (before : List Part) (part next : Part) (after : List Part)
      (split : (parts block.body).2 = before ++ part :: next :: after)
      (default : part.marker.name = "default")

theorem not_refused_iff {block : TagBlock} :
    ¬ Refused block ↔ trim block.arguments ≠ [] ∧ allBlank (parts block.body).1 = true ∧
      (∀ part ∈ (parts block.body).2, HasValues part) ∧ DefaultLast (parts block.body).2 := by
  constructor
  · intro accepted
    refine ⟨?_, ?_, ?_, ?_⟩
    · intro blank
      exact accepted (.noSubject (trim_eq_nil_iff.mp blank))
    · rw [← Bool.not_eq_false]
      exact fun solid => accepted (.textBeforeCase solid)
    · intro part member other empty
      have case := (parts_markers member).1.resolve_right other
      exact accepted (.noValue part member case empty)
    · intro before part after split default
      cases after with
      | nil => rfl
      | cons next after =>
        exact absurd (.afterDefault before part next after split default) accepted
  · rintro ⟨subject, preamble, values, last⟩ refused
    cases refused with
    | noSubject blank => exact subject (trim_eq_nil_iff.mpr blank)
    | textBeforeCase solid => simp [preamble] at solid
    | noValue part member case empty =>
      refine values part member ?_ empty
      rw [case]
      decide
    | afterDefault before part next after split default =>
      cases last before part (next :: after) split default

theorem expand_eq_ok_iff {serial : Nat} {block : TagBlock} {text : List Char} :
    tag.expand serial block = .ok text ↔ ¬ Refused block ∧
      text = replacement serial (trim block.arguments) (branchesOf (parts block.body).2) := by
  have written : tag.expand serial block = .ok text ↔
      expandBlock serial block.arguments block.body = .ok text := by
    change (expandBlock serial block.arguments block.body).mapError _ = .ok text ↔ _
    cases expandBlock serial block.arguments block.body with
    | error fault => simp [Except.mapError]
    | ok result => simp [Except.mapError]
  rw [written, expandBlock_eq_ok_iff, not_refused_iff]
  simp only [and_assoc]

theorem expand_fails_iff {serial : Nat} {block : TagBlock} :
    (∃ e, tag.expand serial block = .error e) ↔ Refused block := by
  cases result : tag.expand serial block with
  | error e =>
    refine iff_of_true ⟨e, rfl⟩ ?_
    by_contra accepted
    rw [expand_eq_ok_iff.mpr ⟨accepted, rfl⟩] at result
    cases result
  | ok text =>
    refine iff_of_false ?_ (expand_eq_ok_iff.mp result).1
    rintro ⟨e, ⟨⟩⟩

/-- A switch is replaced unless it is refused; its markers are those of no inner switch, and what is
    written renders the first branch that holds. -/
theorem expand_preserves_meaning (serial : Nat) (block : TagBlock) :
    ((∃ e, tag.expand serial block = .error e) ↔ Refused block) ∧
      (parts block.body).1 ++ (parts block.body).2.flatMap Part.source = block.body ∧
      (∀ front l back, statements block.body = front ++ l :: back →
        (BeginsPart (parts block.body) (layout front ++ l.gap) l.statement ↔
          openSwitches front = 0 ∧ IsMarker l)) ∧
      ∀ text, tag.expand serial block = .ok text → ∃ pieces : List Piece,
        text = pieces.flatMap Piece.source ∧
        List.Forall₂ Trimmed ((parts block.body).2.map Part.body) (pieces.filterMap Piece.body?) ∧
        ∀ {m : Type → Type} [Monad m] [LawfulMonad m] {V : Type} (language : Language m V),
          language.interpret [] pieces = (do
            let value ← language.evaluate [] (trim block.arguments)
            language.select [(subjectVariable serial, value)] value
              (branchesOf (parts block.body).2)
            pure []) := by
  refine ⟨expand_fails_iff, parts_source block.body, ?_, ?_⟩
  · intro front l back split
    exact parts_beginsPart_iff split
  · intro text expanded
    obtain ⟨accepted, rfl⟩ := expand_eq_ok_iff.mp expanded
    obtain ⟨-, -, -, last⟩ := not_refused_iff.mp accepted
    refine ⟨pieces serial (trim block.arguments) (branchesOf (parts block.body).2),
      (pieces_source _ _ _).symm, ?_, ?_⟩
    · rw [pieces_bodies]
      exact trimmed_bodies _
    · intro m _ _ V language
      exact interpret_pieces language serial (trim block.arguments) last

theorem expand_preserves_meaning_of_nested :
    let inner := "\x7b% switch y %\x7d\x7b% case 1 %\x7dI\x7b% endswitch %\x7d".toList
    let block : TagBlock := ⟨"switch", "kind".toList,
      "\x7b% case 'a' or 'b' %\x7d".toList ++ inner ++ "\x7b%- default -%\x7d D".toList, "t"⟩
    let text :=
      "\x7b% with __switch_0 = (kind) %\x7d".toList ++
        "\x7b% if __switch_0 == ('a') or __switch_0 == ('b') %\x7d".toList ++ inner ++
          "\x7b% else %\x7dD\x7b% endif %\x7d\x7b% endwith %\x7d".toList
    tag.expand 0 block = .ok text ∧ ∃ pieces, text = pieces.flatMap Piece.source ∧
      List.Forall₂ Trimmed [inner, [' ', 'D']] (pieces.filterMap Piece.body?) ∧
      ∀ {m : Type → Type} [Monad m] [LawfulMonad m] {V : Type} (language : Language m V),
        language.interpret [] pieces = (do
          let value ← language.evaluate [] "kind".toList
          language.select [("__switch_0".toList, value)] value
            [⟨some ["'a'".toList, "'b'".toList], inner⟩, ⟨none, ['D']⟩]
          pure []) := by
  intro inner block text
  have bodies : (parts block.body).2.map Part.body = [inner, [' ', 'D']] := by
    decide +kernel
  have subject : trim block.arguments = "kind".toList := by
    decide +kernel
  have branches : branchesOf (parts block.body).2 =
      [⟨some ["'a'".toList, "'b'".toList], inner⟩, ⟨none, ['D']⟩] := by
    decide +kernel
  have variable_ : subjectVariable 0 = "__switch_0".toList := by
    decide +kernel
  have written : (tag.expand 0 block).toOption = some text := by
    decide +kernel
  have expanded := Except.eq_ok_of_toOption written
  obtain ⟨-, -, -, meaning⟩ := expand_preserves_meaning 0 block
  obtain ⟨pieces, same, trimmed, interpreted⟩ := meaning text expanded
  rw [bodies] at trimmed
  simp only [subject, branches, variable_] at interpreted
  exact ⟨expanded, pieces, same, trimmed, interpreted⟩

end TopicWiki.Template.Switch
