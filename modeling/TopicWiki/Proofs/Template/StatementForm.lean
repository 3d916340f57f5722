import TopicWiki.Template.Statement
import TopicWiki.Proofs.Text.FirstOccurrence
import TopicWiki.Proofs.Text.Trim

namespace TopicWiki.Template

open Text

theorem isBlank_of_isNameStart {c : Char} (start : isNameStart c = true) : isBlank c = false := by
  have code : c.val.toNat = c.toNat := rfl
  change (decide (c.val ≥ 'A'.val ∧ c.val ≤ 'Z'.val) ||
    (c.val ≥ 'a'.val && c.val ≤ 'z'.val) || c == '_') = true at start
  simp only [Bool.or_eq_true, Bool.and_eq_true, decide_eq_true_eq, beq_iff_eq, ge_iff_le,
    UInt32.le_iff_toNat_le] at start
  simp only [isBlank, blankRanges, List.any_cons, List.any_nil, Bool.or_false, Bool.or_eq_false_iff,
    Bool.and_eq_false_iff, decide_eq_false_iff_not]
  rcases start with (upper | lower) | rfl
  · simp at upper
    omega
  · simp at lower
    omega
  · decide

theorem isNameChar_of_isNameStart {c : Char} (start : isNameStart c = true) :
    isNameChar c = true := by
  simp only [isNameStart, isNameChar, Char.isAlphanum, Bool.or_eq_true] at start ⊢
  rcases start with alpha | underscore
  · exact Or.inl (Or.inl alpha)
  · exact Or.inr underscore

theorem ne_dash_of_isNameStart {c : Char} (start : isNameStart c = true) : c ≠ '-' := by
  rintro rfl
  exact absurd start (by decide)

theorem ne_dash_of_isBlank {c : Char} (blank : isBlank c = true) : c ≠ '-' := by
  rintro rfl
  exact absurd blank (by decide)

theorem takeWhile_append_of_head {p : Char → Bool} {front back : List Char}
    (all : ∀ c ∈ front, p c = true) (stop : ∀ c ∈ back.head?, p c = false) :
    (front ++ back).takeWhile p = front := by
  rw [List.takeWhile_append_of_pos all]
  cases back with
  | nil => simp
  | cons c back => simp [stop c (by simp)]

theorem dropWhile_append_of_head {p : Char → Bool} {front back : List Char}
    (all : ∀ c ∈ front, p c = true) (stop : ∀ c ∈ back.head?, p c = false) :
    (front ++ back).dropWhile p = back := by
  rw [List.dropWhile_append_of_pos all]
  cases back with
  | nil => rfl
  | cons c back => simp [stop c (by simp)]

theorem mem_takeWhile {p : Char → Bool} {text : List Char} {c : Char}
    (member : c ∈ text.takeWhile p) : p c = true := by
  induction text with
  | nil => cases member
  | cons d rest ih =>
    rw [List.takeWhile_cons] at member
    split at member
    · rcases List.mem_cons.mp member with rfl | member
      · assumption
      · exact ih member
    · cases member

/-- The parts of a block statement as it is written: the dash behind the opening brace, the blanks
    before the name, the name, and all up to the closing percent sign. -/
structure StatementForm where
  dash : Bool
  blanks : List Char
  head : Char
  tail : List Char
  inside : List Char
  blank : ∀ c ∈ blanks, isBlank c = true
  start : isNameStart head = true
  named : ∀ c ∈ tail, isNameChar c = true
  apart : ∀ c ∈ inside.head?, isNameChar c = false
  unclosed : ¬ statementClose <:+: inside

namespace StatementForm

def name (f : StatementForm) : List Char :=
  f.head :: f.tail

def dashText (f : StatementForm) : List Char :=
  if f.dash then ['-'] else []

def source (f : StatementForm) : List Char :=
  statementOpen ++ f.dashText ++ f.blanks ++ f.name ++ f.inside ++ statementClose

def statement (f : StatementForm) : Statement where
  name := String.ofList f.name
  arguments := trim (cutEndDash f.inside).2
  trimBefore := f.dash
  trimAfter := (cutEndDash f.inside).1
  source := f.source

theorem cutDash_dashText (f : StatementForm) (rest : List Char) :
    cutDash (f.dashText ++ (f.blanks ++ (f.name ++ rest))) =
      (f.dash, f.blanks ++ (f.name ++ rest)) := by
  cases dash : f.dash with
  | true => simp [dashText, dash, cutDash]
  | false =>
    simp only [dashText, dash, Bool.false_eq_true, if_false, List.nil_append]
    cases blanks : f.blanks with
    | nil =>
      have other := ne_dash_of_isNameStart f.start
      simp only [name, List.nil_append, List.cons_append]
      unfold cutDash
      split
      · rename_i same
        exact absurd (List.cons.inj same).1 other
      · rfl
    | cons c blanks' =>
      have other := ne_dash_of_isBlank (f.blank c (by simp [blanks]))
      simp only [List.cons_append]
      unfold cutDash
      split
      · rename_i same
        exact absurd (List.cons.inj same).1 other
      · rfl

theorem name_named (f : StatementForm) : ∀ c ∈ f.name, isNameChar c = true := by
  intro c member
  rcases List.mem_cons.mp member with rfl | member
  · exact isNameChar_of_isNameStart f.start
  · exact f.named c member

theorem closed_apart (f : StatementForm) (rest : List Char) :
    ∀ c ∈ (f.inside ++ (statementClose ++ rest)).head?, isNameChar c = false := by
  intro c head
  cases inside : f.inside with
  | nil =>
    simp only [inside, List.nil_append, statementClose, List.cons_append, List.head?_cons,
      Option.mem_def, Option.some.injEq] at head
    rw [← head]
    decide
  | cons d inside' =>
    apply f.apart c
    simpa [inside] using head

theorem cut?_inside (f : StatementForm) (rest : List Char) :
    cut? statementClose (f.inside ++ (statementClose ++ rest)) = some (f.inside, rest) := by
  rw [cut?_eq_some_iff (by simp [statementClose])]
  refine ⟨(List.append_assoc _ _ _).symm, ?_⟩
  change ¬ statementClose <:+: f.inside ++ ['%']
  rw [List.infix_concat_iff, not_or]
  refine ⟨?_, f.unclosed⟩
  rw [List.suffix_concat_iff]
  rintro (empty | ⟨front, same, -⟩)
  · cases empty
  · have last := congrArg List.getLast? same
    simp [statementClose] at last

theorem read?_source (f : StatementForm) (rest : List Char) :
    Statement.read? (f.source ++ rest) = some (f.statement, rest) := by
  have whole : f.source ++ rest = statementOpen ++ (f.dashText ++ (f.blanks ++
      (f.name ++ (f.inside ++ (statementClose ++ rest))))) := by
    simp [source]
  have blanks : trimStart (f.blanks ++ (f.name ++ (f.inside ++ (statementClose ++ rest)))) =
      f.name ++ (f.inside ++ (statementClose ++ rest)) := by
    apply dropWhile_append_of_head f.blank
    intro c head
    simp only [name, List.cons_append, List.head?_cons, Option.mem_def, Option.some.injEq] at head
    exact head ▸ isBlank_of_isNameStart f.start
  have names := takeWhile_append_of_head f.name_named (f.closed_apart rest)
  have behind := dropWhile_append_of_head f.name_named (f.closed_apart rest)
  have source : (f.source ++ rest).take ((f.source ++ rest).length - rest.length) = f.source := by
    rw [List.length_append, Nat.add_sub_cancel, List.take_left]
  rw [Statement.read?]
  simp only [whole, isPrefixOf?_append, cutDash_dashText, blanks]
  rw [show f.name ++ (f.inside ++ (statementClose ++ rest)) =
    f.head :: (f.tail ++ (f.inside ++ (statementClose ++ rest))) from rfl]
  simp only [f.start, if_true]
  rw [show f.head :: (f.tail ++ (f.inside ++ (statementClose ++ rest))) =
    f.name ++ (f.inside ++ (statementClose ++ rest)) from rfl]
  rw [names, behind, cut?_inside]
  simp only [← whole, source]
  rfl

theorem source_ends (f : StatementForm) : ∃ front, f.source = front ++ ['\x7d'] := by
  refine ⟨statementOpen ++ f.dashText ++ f.blanks ++ f.name ++ f.inside ++ ['%'], ?_⟩
  simp [source, statementClose]

theorem source_begins (f : StatementForm) : ∃ back, f.source = '\x7b' :: back := by
  refine ⟨'%' :: (f.dashText ++ f.blanks ++ f.name ++ f.inside ++ statementClose), ?_⟩
  simp [source, statementOpen]

end StatementForm

theorem dashText_of_cutDash (text : List Char) :
    text = (if (cutDash text).1 then ['-'] else []) ++ (cutDash text).2 := by
  unfold cutDash
  split <;> rfl

theorem exists_form_of_read? {text : List Char} (found : (Statement.read? text).isSome) :
    ∃ (f : StatementForm) (rest : List Char), text = f.source ++ rest := by
  rw [Statement.read?] at found
  cases opened : statementOpen.isPrefixOf? text with
  | none => simp [opened] at found
  | some inner =>
    simp only [opened] at found
    cases named : trimStart (cutDash inner).2 with
    | nil => simp [named] at found
    | cons c tail =>
      rw [named] at found
      simp only at found
      split at found
      · rename_i start
        split at found
        · cases found
        · rename_i inside rest closed
          have cut := (cut?_eq_some_iff (by simp [statementClose])).mp closed
          have behind : c :: tail = (c :: tail.takeWhile isNameChar) ++
              (inside ++ statementClose ++ rest) := by
            rw [← cut.1, ← List.takeWhile_cons_of_pos (isNameChar_of_isNameStart start),
              List.takeWhile_append_dropWhile]
          have blanks : (cutDash inner).2 = (cutDash inner).2.takeWhile isBlank ++ (c :: tail) := by
            rw [← named]
            exact List.takeWhile_append_dropWhile.symm
          have whole : text = statementOpen ++ ((if (cutDash inner).1 then ['-'] else []) ++
              ((cutDash inner).2.takeWhile isBlank ++
                ((c :: tail.takeWhile isNameChar) ++ (inside ++ statementClose ++ rest)))) := by
            rw [← behind, ← blanks, ← dashText_of_cutDash]
            exact isPrefixOf?_eq_some opened
          have apart : ∀ d ∈ inside.head?, isNameChar d = false := by
            intro d member
            apply head?_dropWhile (c :: tail)
            rw [cut.1]
            cases inside with
            | nil => simp at member
            | cons e inside => simpa using member
          have unclosed : ¬ statementClose <:+: inside := fun early =>
            cut.2 (early.trans (List.infix_append [] inside _))
          refine ⟨⟨(cutDash inner).1, (cutDash inner).2.takeWhile isBlank, c,
            tail.takeWhile isNameChar, inside, fun _ => mem_takeWhile, start,
            fun _ => mem_takeWhile, apart, unclosed⟩, rest, whole.trans ?_⟩
          simp [StatementForm.source, StatementForm.dashText, StatementForm.name]
      · cases found

/-- Reading accepts exactly what is written as a statement, whatever stands behind it. -/
theorem Statement.read?_eq_some_iff {text rest : List Char} {statement : Statement} :
    Statement.read? text = some (statement, rest) ↔
      ∃ f : StatementForm, statement = f.statement ∧ text = f.source ++ rest := by
  constructor
  · intro found
    obtain ⟨f, rest', rfl⟩ := exists_form_of_read? (Option.isSome_of_eq_some found)
    rw [f.read?_source] at found
    cases found
    exact ⟨f, rfl, rfl⟩
  · rintro ⟨f, rfl, rfl⟩
    exact f.read?_source rest

end TopicWiki.Template
