import TopicWiki.Proofs.Template.Scan

namespace TopicWiki.Text

/-- The text in front of a byte of the UTF-8 form and the text from it on, if the byte does not
    stand inside a character. -/
def cutAtByte? : Nat → List Char → Option (List Char × List Char)
  | 0, text => some ([], text)
  | _ + 1, [] => none
  | n + 1, c :: text =>
    if c.utf8Size ≤ n + 1 then
      (cutAtByte? (n + 1 - c.utf8Size) text).map fun (front, back) => (c :: front, back)
    else none

def slice? (start stop : Nat) (text : List Char) : Option (List Char) :=
  (cutAtByte? stop text).bind fun (front, _) => (cutAtByte? start front).map Prod.snd

section

variable (front middle back : List Char)

theorem utf8Length_cons (c : Char) : utf8Length (c :: front) = c.utf8Size + utf8Length front :=
  rfl

theorem utf8Length_append : utf8Length (front ++ back) = utf8Length front + utf8Length back := by
  induction front with
  | nil => exact (Nat.zero_add _).symm
  | cons c front ih =>
    rw [List.cons_append, utf8Length_cons, utf8Length_cons, ih]
    omega

theorem utf8Length_pos {text : List Char} (nonempty : text ≠ []) : 0 < utf8Length text := by
  obtain ⟨c, rest, rfl⟩ := List.exists_cons_of_ne_nil nonempty
  have := c.utf8Size_pos
  rw [utf8Length_cons]
  omega

theorem cutAtByte?_append : cutAtByte? (utf8Length front) (front ++ back) = some (front, back) := by
  induction front with
  | nil => simp [utf8Length, cutAtByte?]
  | cons c front ih =>
    have positive := c.utf8Size_pos
    obtain ⟨n, size⟩ : ∃ n, utf8Length (c :: front) = n + 1 :=
      ⟨utf8Length (c :: front) - 1, by rw [utf8Length_cons]; omega⟩
    have rest : n + 1 - c.utf8Size = utf8Length front := by
      rw [← size, utf8Length_cons]
      omega
    have fits : c.utf8Size ≤ n + 1 := by
      rw [← size, utf8Length_cons]
      omega
    rw [size, List.cons_append, cutAtByte?, if_pos fits, rest, ih]
    rfl

theorem slice?_append :
    slice? (utf8Length front) (utf8Length (front ++ middle)) (front ++ middle ++ back) =
      some middle := by
  simp only [slice?, cutAtByte?_append, Option.bind_some, Option.map_some]

end

end TopicWiki.Text

namespace TopicWiki.Template

open Text

def shifted (bytes : Nat) : Nat × Nat × Statement → Nat × Nat × Statement :=
  fun (start, stop, statement) => (bytes + start, bytes + stop, statement)

section Offsets

variable {located front back : List Located} {l : Located} {start stop : Nat}
  {statement : Statement}

theorem offsetsFrom_add (bytes : Nat) :
    offsetsFrom (bytes + start) located = (offsetsFrom start located).map (shifted bytes) := by
  induction located generalizing start with
  | nil => rfl
  | cons l located ih => simp only [offsetsFrom, List.map_cons, shifted, Nat.add_assoc, ih]

theorem length_offsetsFrom (start : Nat) (located : List Located) :
    (offsetsFrom start located).length = located.length := by
  induction located generalizing start with
  | nil => rfl
  | cons l located ih => simp [offsetsFrom, ih]

theorem offsetsFrom_append_cons :
    offsetsFrom start (front ++ l :: back) =
      offsetsFrom start front ++
        (start + utf8Length (layout front ++ l.gap), start + utf8Length (layout front ++ l.text),
          l.statement) ::
        (offsetsFrom 0 back).map (shifted (start + utf8Length (layout front ++ l.text))) := by
  induction front generalizing start with
  | nil =>
    rw [← offsetsFrom_add]
    simp only [List.nil_append, offsetsFrom, layout, List.flatMap_nil, Located.text,
      utf8Length_append, Nat.add_zero, Nat.add_assoc]
  | cons first front ih =>
    simp only [List.cons_append, offsetsFrom, ih, layout_cons, utf8Length_append, Nat.add_assoc]

theorem start_le_of_mem {place : Nat × Nat × Statement}
    (member : place ∈ offsetsFrom start located) : start ≤ place.1 := by
  induction located generalizing start with
  | nil => cases member
  | cons l located ih =>
    rcases List.mem_cons.mp member with rfl | member
    · exact Nat.le_add_right _ _
    · have later := ih member
      omega

theorem offsetsFrom_ordered :
    (offsetsFrom start located).Pairwise fun place later => place.2.1 ≤ later.1 := by
  induction located generalizing start with
  | nil => exact List.Pairwise.nil
  | cons l located ih => exact List.pairwise_cons.mpr ⟨fun _ => start_le_of_mem, ih⟩

end Offsets

theorem first?_isSome (before : List Char) (f : StatementForm) (after : List Char) :
    (Statement.first? (before ++ (f.source ++ after))).isSome := by
  induction before with
  | nil =>
    rw [List.nil_append, Statement.first?_source]
    rfl
  | cons c before ih =>
    rw [List.cons_append, Statement.first?]
    split
    · rfl
    · simpa using ih

theorem later_or_earlier {front back front' back' : List Char}
    (same : front ++ back = front' ++ back') :
    (∃ more, front' = front ++ more ∧ back = more ++ back') ∨
      ∃ more, more ≠ [] ∧ front = front' ++ more ∧ back' = more ++ back := by
  rcases List.append_eq_append_iff.mp same with later | ⟨more, rfl, rfl⟩
  · exact .inl later
  · cases more with
    | nil => exact .inl ⟨[], by simp, rfl⟩
    | cons c more => exact .inr ⟨c :: more, List.cons_ne_nil c more, rfl, rfl⟩

theorem exists_located {located : List Located} (proper : AllProper located) {tail : List Char}
    (last : Statement.first? tail = none) {before after : List Char} {f : StatementForm}
    (source : layout located ++ tail = before ++ (f.source ++ after)) :
    ∃ front l back, located = front ++ l :: back ∧
      utf8Length (layout front ++ l.gap) ≤ utf8Length before ∧
      utf8Length before < utf8Length (layout front ++ l.text) := by
  induction located generalizing before with
  | nil =>
    have found := first?_isSome before f after
    rw [← source, layout, List.flatMap_nil, List.nil_append, last] at found
    cases found
  | cons l located ih =>
    rw [layout_cons, List.append_assoc, List.append_assoc] at source
    rcases later_or_earlier source with ⟨inside, rfl, here⟩ | ⟨late, nonempty, gap, begins⟩
    · rcases later_or_earlier here with ⟨behind, rfl, later⟩ | ⟨late, nonempty, whole, -⟩
      · obtain ⟨front, l', back, rfl, lower, upper⟩ := ih proper.tail later
        have text : utf8Length l.text = utf8Length l.gap + utf8Length l.statement.source :=
          utf8Length_append _ _
        refine ⟨l :: front, l', back, rfl, ?_, ?_⟩
        · rw [utf8Length_append] at lower
          simp only [layout_cons, utf8Length_append]
          omega
        · rw [utf8Length_append] at upper
          simp only [layout_cons, utf8Length_append]
          omega
      · have positive := utf8Length_pos nonempty
        refine ⟨[], l, located, rfl, ?_, ?_⟩
        · simp only [layout, List.flatMap_nil, List.nil_append, utf8Length_append]
          omega
        · simp only [layout, List.flatMap_nil, List.nil_append, Located.text, whole,
            utf8Length_append]
          omega
    · -- It would begin in the gap, where none starts, and the brace behind the gap does not help it.
      exfalso
      obtain ⟨idle, g, same⟩ := proper l List.mem_cons_self
      obtain ⟨rest, brace⟩ := g.source_begins
      have opens : Opens (l.statement.source ++ (layout located ++ tail)) := by
        right
        exact ⟨rest ++ (layout located ++ tail), by rw [same]; exact congrArg (· ++ _) brace⟩
      have starts := f.starts after
      rw [begins] at starts
      exact idle late ⟨before, gap.symm⟩ (starts.of_append nonempty opens)

theorem statementOffsets_of_form (f : StatementForm) :
    statementOffsets f.source = [(0, utf8Length f.source, f.statement)] := by
  have found := Statement.first?_source f []
  rw [List.append_nil] at found
  rw [statementOffsets, statements_of_first? found, statements_nil_of_first? rfl]
  simp [offsetsFrom, utf8Length, StatementForm.statement]

theorem cutEndDash_fst_iff (text : List Char) :
    (cutEndDash text).1 = true ↔ ∃ front, text = front ++ ['-'] := by
  unfold cutEndDash
  split
  · rename_i last
    simpa using List.getLast?_eq_some_iff.mp last
  · rename_i other
    simpa [← List.getLast?_eq_some_iff] using other

section Split

variable {source : List Char} {front back : List Located} {l : Located}

theorem exists_form_of_split (split : statements source = front ++ l :: back) :
    ∃ (f : StatementForm) (rest : List Char), l.statement = f.statement ∧
      source = layout front ++ l.gap ++ f.source ++ rest ∧ statements rest = back := by
  obtain ⟨tail, whole, last⟩ := exists_tail source
  have proper := statements_proper source
  rw [split] at whole proper
  obtain ⟨idle, f, same⟩ := proper l (by simp)
  have later : AllProper back := fun other member => proper other (by simp [member])
  refine ⟨f, layout back ++ tail, same, ?_, ?_⟩
  · rw [whole, layout_append, layout_cons, same]
    simp [StatementForm.statement]
  · rw [statements_layout_append later, statements_nil_of_first? last, List.append_nil]

theorem statementOffsets_of_split (split : statements source = front ++ l :: back) :
    statementOffsets source = offsetsFrom 0 front ++
      (utf8Length (layout front ++ l.gap), utf8Length (layout front ++ l.text), l.statement) ::
        (offsetsFrom 0 back).map (shifted (utf8Length (layout front ++ l.text))) := by
  rw [statementOffsets, split, offsetsFrom_append_cons, Nat.zero_add, Nat.zero_add]

theorem drop_statementOffsets (split : statements source = front ++ l :: back) :
    (statementOffsets source).drop (front.length + 1) =
      (offsetsFrom 0 back).map (shifted (utf8Length (layout front ++ l.text))) := by
  have passed : (offsetsFrom 0 front).length = front.length := length_offsetsFrom 0 front
  rw [statementOffsets_of_split split, List.drop_append, List.drop_of_length_le (by omega), passed,
    Nat.add_sub_cancel_left]
  rfl

theorem exists_split {k : Nat} {place : Nat × Nat × Statement}
    (found : (statementOffsets source)[k]? = some place) :
    ∃ front l back, statements source = front ++ l :: back ∧ front.length = k ∧
      place =
        (utf8Length (layout front ++ l.gap), utf8Length (layout front ++ l.text), l.statement) := by
  have bound : k < (statements source).length := by
    rw [← length_offsetsFrom 0]
    exact (List.getElem?_eq_some_iff.mp found).1
  have split : statements source =
      (statements source).take k ++ (statements source)[k] :: (statements source).drop (k + 1) := by
    simp
  have size : ((statements source).take k).length = k := List.length_take_of_le (by omega)
  have passed : (offsetsFrom 0 ((statements source).take k)).length = k :=
    (length_offsetsFrom 0 _).trans size
  refine ⟨_, _, _, split, size, ?_⟩
  rw [statementOffsets_of_split split, List.getElem?_append_right (Nat.le_of_eq passed),
    passed] at found
  simpa using found.symm

end Split

/-- The statements of a source stand in order and apart, and each that is written in it begins at
    one of them or inside. What is found at a place is the text of the statement up to the first
    closing sign behind its name; alone it is that statement, and from its end on the later ones are
    found. -/
theorem statementOffsets_local (source : List Char) :
    (statementOffsets source).Pairwise (fun place later => place.2.1 ≤ later.1) ∧
      (∀ before after (f : StatementForm), source = before ++ (f.source ++ after) →
        ∃ place ∈ statementOffsets source,
          place.1 ≤ utf8Length before ∧ utf8Length before < place.2.1) ∧
      ∀ k start stop statement,
        (statementOffsets source)[k]? = some (start, stop, statement) →
        ∃ (f : StatementForm) (front rest : List Char),
          start < stop ∧ slice? start stop source = some f.source ∧ statement = f.statement ∧
            (statement.trimAfter = true ↔ ∃ text, f.inside = text ++ ['-']) ∧
            statementOffsets f.source = [(0, stop - start, statement)] ∧
            cutAtByte? stop source = some (front, rest) ∧
            (statementOffsets source).drop (k + 1) =
              (statementOffsets rest).map (shifted stop) := by
  refine ⟨offsetsFrom_ordered, ?_, ?_⟩
  · intro before after f written
    obtain ⟨tail, whole, last⟩ := exists_tail source
    obtain ⟨front, l, back, split, lower, upper⟩ :=
      exists_located (statements_proper source) last (whole.symm.trans written)
    rw [statementOffsets_of_split split]
    exact ⟨_, List.mem_append_right _ List.mem_cons_self, lower, upper⟩
  · intro k start stop statement found
    obtain ⟨front, l, back, split, rfl, place⟩ := exists_split found
    obtain ⟨f, rest, same, whole, later⟩ := exists_form_of_split split
    have text : l.text = l.gap ++ f.source := by
      rw [Located.text, same]
      rfl
    simp only [Prod.mk.injEq, text, same, ← List.append_assoc] at place
    obtain ⟨rfl, rfl, rfl⟩ := place
    have size : utf8Length (layout front ++ l.gap ++ f.source) =
        utf8Length (layout front ++ l.gap) + utf8Length f.source := utf8Length_append _ _
    have positive : 0 < utf8Length f.source := by
      obtain ⟨text, ends⟩ := f.source_ends
      exact utf8Length_pos (by simp [ends])
    refine ⟨f, layout front ++ l.gap ++ f.source, rest, by omega, ?_, rfl, cutEndDash_fst_iff _, ?_,
      ?_, ?_⟩
    · rw [whole]
      exact slice?_append _ _ _
    · rw [statementOffsets_of_form, size, Nat.add_sub_cancel_left]
    · rw [whole]
      exact cutAtByte?_append _ _
    · rw [drop_statementOffsets split, statementOffsets, later, text, ← List.append_assoc]

/-- Two candidates fail here, and the first statement ends inside a string. -/
def crowdedSource : List Char :=
  "é\x7b% %\x7d\x7b% \x7b%-if '%\x7d' -%\x7d\x7b%set y-%\x7d".toList

def crowdedStatement : Statement where
  name := "if"
  arguments := ['\'']
  trimBefore := true
  trimAfter := false
  source := "\x7b%-if '%\x7d".toList

theorem statementOffsets_local_among_candidates :
    (statementOffsets crowdedSource)[0]? = some (10, 19, crowdedStatement) ∧
      slice? 10 19 crowdedSource = some crowdedStatement.source ∧
      statementOffsets crowdedStatement.source = [(0, 9, crowdedStatement)] ∧
      ∃ front rest, cutAtByte? 19 crowdedSource = some (front, rest) ∧
        (statementOffsets crowdedSource).drop 1 = (statementOffsets rest).map (shifted 19) := by
  have first : Statement.first? crowdedSource =
      some (⟨"é\x7b% %\x7d\x7b% ".toList, crowdedStatement⟩, "' -%\x7d\x7b%set y-%\x7d".toList) :=
    rfl
  have found : (statementOffsets crowdedSource)[0]? = some (10, 19, crowdedStatement) := by
    rw [statementOffsets, statements_of_first? first]
    rfl
  obtain ⟨-, -, places⟩ := statementOffsets_local crowdedSource
  obtain ⟨f, front, rest, -, slice, same, -, alone, cut, later⟩ := places 0 10 19 _ found
  have source : crowdedStatement.source = f.source := congrArg Statement.source same
  rw [source]
  exact ⟨found, slice, alone, front, rest, cut, later⟩

end TopicWiki.Template
