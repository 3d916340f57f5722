import TopicWiki.Proofs.Template.Blocks

namespace TopicWiki.Template

open Text

def keptBefore (open_ : Statement) (text : List Char) : List Char :=
  if open_.trimBefore then trimEnd text else text

def leftBehind (close : Statement) (text : List Char) : List Char :=
  if close.trimAfter then trimStart text else text

/-- The expansions that succeed, block by block, with the number of blocks replaced before and
    after. -/
inductive Expands (tag : Tag) (template : String) : (levels : Nat) → (written source : List Char) →
    (serial : Nat) → (result : List Char) → (serial' : Nat) → Prop
  | done {levels serial : Nat} {written source : List Char} (none_ : opening? tag source = none) :
      Expands tag template levels written source serial (written ++ source) serial
  | block {levels serial middle serial' : Nat}
      {written source before inside body rest expansion inner result : List Char}
      {open_ close : Statement}
      (opened : opening? tag source = some (before, open_, inside))
      (closed : closing? tag 0 inside = some (body, close, rest))
      (replaced : tag.expand serial ⟨tag.name, open_.arguments, body, template⟩ = .ok expansion)
      (deeper : Expands tag template levels [] expansion (serial + 1) inner middle)
      (further : Expands tag template (levels + 1) (keptBefore open_ (written ++ before) ++ inner)
        (leftBehind close rest) middle result serial') :
      Expands tag template (levels + 1) written source serial result serial'

theorem Expanding.run_bind {α β : Type} (x : Expanding α) (f : α → Expanding β) (serial : Nat) :
    (x >>= f).run.run serial =
      match x.run.run serial with
      | (.ok a, middle) => (f a).run.run middle
      | (.error e, middle) => (.error e, middle) := by
  simp only [ExceptT.run_bind, StateT.run_bind]
  cases x.run.run serial with
  | mk outcome middle => cases outcome <;> rfl

theorem Expanding.bind_eq_ok_iff {α β : Type} {x : Expanding α} {f : α → Expanding β}
    {serial serial' : Nat} {b : β} :
    (x >>= f).run.run serial = (.ok b, serial') ↔
      ∃ a middle, x.run.run serial = (.ok a, middle) ∧
        (f a).run.run middle = (.ok b, serial') := by
  rw [Expanding.run_bind]
  cases first : x.run.run serial with
  | mk outcome middle =>
    cases outcome with
    | error e =>
      constructor
      · rintro ⟨⟩
      · rintro ⟨a, middle', ⟨⟩, -⟩
    | ok a =>
      constructor
      · exact fun run => ⟨a, middle, rfl, run⟩
      · rintro ⟨a', middle', same, run⟩
        cases same
        exact run

theorem Tag.run_run (tag : Tag) (block : TagBlock) (serial : Nat) :
    (tag.run block).run.run serial =
      match tag.expand serial block with
      | .ok expansion => (.ok expansion, serial + 1)
      | .error e => (.error e, serial) := by
  have counted : (get : Expanding Nat).run.run serial = (.ok serial, serial) := rfl
  rw [Tag.run, Expanding.run_bind, counted]
  simp only [Expanding.run_bind]
  cases tag.expand serial block <;> rfl

theorem Tag.run_eq_ok_iff {tag : Tag} {block : TagBlock} {serial serial' : Nat}
    {expansion : List Char} :
    (tag.run block).run.run serial = (.ok expansion, serial') ↔
      tag.expand serial block = .ok expansion ∧ serial' = serial + 1 := by
  rw [Tag.run_run]
  cases tag.expand serial block with
  | error e =>
    constructor
    · rintro ⟨⟩
    · rintro ⟨⟨⟩, -⟩
  | ok expansion' =>
    constructor
    · rintro ⟨⟩
      exact ⟨rfl, rfl⟩
    · rintro ⟨⟨⟩, rfl⟩
      rfl

section

variable {tag : Tag} {template : String} {levels : Nat} {written source : List Char}
  {before inside : List Char} {open_ : Statement}

theorem expandBlocks_of_no_opening (none_ : opening? tag source = none) :
    expandBlocks tag template levels written source = pure (written ++ source) := by
  rw [expandBlocks]
  split
  · rfl
  · simp_all

theorem expandBlocks_too_deep (opened : opening? tag source = some (before, open_, inside)) :
    expandBlocks tag template 0 written source =
      throw ⟨tag.name, template, s!"blocks nested deeper than {maxNesting} levels"⟩ := by
  rw [expandBlocks]
  split
  · simp_all
  · rfl

theorem expandBlocks_unclosed (opened : opening? tag source = some (before, open_, inside))
    (unclosed : closing? tag 0 inside = none) :
    expandBlocks tag template (levels + 1) written source =
      throw ⟨tag.name, template, "missing \x7b% " ++ tag.endName ++ " %\x7d"⟩ := by
  rw [expandBlocks]
  split
  · simp_all
  · rename_i opened'
    rw [opened] at opened'
    cases opened'
    simp only
    split
    · rfl
    · simp_all

theorem expandBlocks_block {body rest : List Char} {close : Statement}
    (opened : opening? tag source = some (before, open_, inside))
    (closed : closing? tag 0 inside = some (body, close, rest)) :
    expandBlocks tag template (levels + 1) written source = (do
      let expansion ← tag.run ⟨tag.name, open_.arguments, body, template⟩
      let inner ← expandBlocks tag template levels [] expansion
      expandBlocks tag template (levels + 1) (keptBefore open_ (written ++ before) ++ inner)
        (leftBehind close rest)) := by
  rw [expandBlocks]
  split
  · simp_all
  · rename_i opened'
    rw [opened] at opened'
    cases opened'
    simp only
    split
    · simp_all
    · rename_i closed'
      rw [closed] at closed'
      cases closed'
      rfl

end

theorem expandBlocks_eq_ok_iff {tag : Tag} {template : String} {levels serial serial' : Nat}
    {written source result : List Char} :
    (expandBlocks tag template levels written source).run.run serial = (.ok result, serial') ↔
      Expands tag template levels written source serial result serial' := by
  constructor
  · intro run
    induction levels, written, source using expandBlocks.induct tag
      generalizing serial serial' result with
    | case1 levels written source none_ =>
      rw [expandBlocks_of_no_opening none_] at run
      cases run
      exact Expands.done none_
    | case2 written source before open_ inside opened =>
      rw [expandBlocks_too_deep opened] at run
      cases run
    | case3 written source before open_ inside opened levels unclosed =>
      rw [expandBlocks_unclosed opened unclosed] at run
      cases run
    | case4 written source before open_ inside opened levels body close rest closed =>
      rename_i deeper further
      rw [expandBlocks_block opened closed, Expanding.bind_eq_ok_iff] at run
      obtain ⟨expansion, middle, once, behind⟩ := run
      obtain ⟨inner, middle', nested, later⟩ := Expanding.bind_eq_ok_iff.mp behind
      obtain ⟨replaced, rfl⟩ := Tag.run_eq_ok_iff.mp once
      exact Expands.block opened closed replaced (deeper expansion nested) (further inner later)
  · intro expands
    induction expands with
    | done none_ =>
      rw [expandBlocks_of_no_opening none_]
      rfl
    | block opened closed replaced _ _ deeperRun furtherRun =>
      rw [expandBlocks_block opened closed, Expanding.bind_eq_ok_iff]
      refine ⟨_, _, Tag.run_eq_ok_iff.mpr ⟨replaced, rfl⟩, ?_⟩
      rw [Expanding.bind_eq_ok_iff]
      exact ⟨_, _, deeperRun, furtherRun⟩

theorem keptBefore_isPrefix (open_ : Statement) (text : List Char) :
    keptBefore open_ text <+: text := by
  unfold keptBefore
  split
  · exact trimEnd_isPrefix text
  · exact List.prefix_rfl

theorem Settled.keptBefore {text : List Char} (settled : Settled text) (open_ : Statement) :
    Settled (keptBefore open_ text) := by
  unfold Template.keptBefore
  split
  · exact settled.trimEnd
  · exact settled

theorem names_keptBefore (open_ : Statement) (text : List Char) :
    names (keptBefore open_ text) = names text := by
  unfold keptBefore
  split
  · exact names_trimEnd text
  · rfl

theorem Ended.leftBehind {text : List Char} (ended : Ended text) (close : Statement) :
    Ended (leftBehind close text) := by
  unfold Template.leftBehind
  split
  · exact ended.trimStart
  · exact ended

theorem keptBefore_begins (open_ : Statement) {text more inner : List Char}
    (begins : ∃ rest, text ++ more = '\x7b' :: rest)
    (innerBegins : ∃ rest, inner = '\x7b' :: rest) :
    ∃ rest, Template.keptBefore open_ text ++ inner = '\x7b' :: rest := by
  obtain ⟨cut, kept⟩ := keptBefore_isPrefix open_ text
  cases first : Template.keptBefore open_ text with
  | nil => exact innerBegins
  | cons c front =>
    obtain ⟨all, begins⟩ := begins
    rw [← kept, first] at begins
    rw [(List.cons.inj begins).1]
    exact ⟨front ++ inner, rfl⟩

theorem Ended.behindBlock {before body rest : List Char} {f g : StatementForm}
    (settled : Settled before) (settledBody : Settled body)
    (ended : Ended (before ++ f.source ++ (body ++ g.source ++ rest))) (close : Statement) :
    Ended (Template.leftBehind close rest) := by
  have opening : Ended (before ++ f.source) := settled.append_form f
  have closing : Ended (body ++ g.source) := settledBody.append_form g
  exact (closing.of_append (opening.of_append ended)).leftBehind close

/-- A tag whose replacements start with a brace and end with a statement. -/
def Tag.Neat (tag : Tag) : Prop :=
  ∀ serial block expansion, Settled block.body → ¬ statementClose <:+: block.arguments →
    tag.expand serial block = .ok expansion →
      Ended expansion ∧ ∃ rest, expansion = '\x7b' :: rest

theorem StatementForm.unclosed_arguments (f : StatementForm) :
    ¬ statementClose <:+: f.statement.arguments := by
  intro early
  apply f.unclosed
  refine early.trans ((trim_inside _).trans ?_)
  unfold cutEndDash
  split
  · exact (List.dropLast_prefix _).isInfix
  · exact List.infix_rfl

theorem Expands.seams {tag : Tag} (neat : tag.Neat) {template : String}
    {levels serial serial' : Nat} {written source result : List Char}
    (expands : Expands tag template levels written source serial result serial')
    (ended : Ended written) (absent : tag.name ∉ names written) :
    tag.name ∉ names result ∧ (Ended source → Ended result) ∧
      ((∃ rest, written ++ source = '\x7b' :: rest) → ∃ rest, result = '\x7b' :: rest) := by
  induction expands with
  | done none_ =>
    refine ⟨?_, fun ended' => ended.append ended', id⟩
    rw [ended.names_append, List.mem_append, not_or]
    exact ⟨absent, opening?_eq_none_iff.mp none_⟩
  | block opened closed replaced deeper further deeperSeams furtherSeams =>
    rename_i levels serial middle serial' written source before inside body rest expansion inner
      result open_ close
    obtain ⟨whole, settled, absentBefore, f, rfl⟩ := opening?_eq_some opened
    obtain ⟨split, settledBody, g, rfl⟩ := closing?_eq_some closed
    have text : Ended expansion ∧ ∃ rest, expansion = '\x7b' :: rest :=
      neat _ _ _ settledBody f.unclosed_arguments replaced
    have nothing : tag.name ∉ names [] := by
      rw [names_nil_of_first? rfl]
      exact List.not_mem_nil
    obtain ⟨absentInner, endedInner, opensInner⟩ := deeperSeams Ended.nil nothing
    have front : Settled (written ++ before) := ended.append_settled settled
    have absentFront : tag.name ∉ names (keptBefore f.statement (written ++ before)) := by
      rw [names_keptBefore, ended.names_append, List.mem_append, not_or]
      exact ⟨absent, absentBefore⟩
    obtain ⟨innerRest, innerBegins⟩ := opensInner text.2
    have opens : Opens inner := Or.inr ⟨innerRest, innerBegins⟩
    have endedFront : Ended (keptBefore f.statement (written ++ before) ++ inner) := by
      apply (front.keptBefore f.statement).append_ended (endedInner text.1) opens
      rw [innerBegins]
      exact List.cons_ne_nil _ _
    have absentNext : tag.name ∉ names (keptBefore f.statement (written ++ before) ++ inner) := by
      rw [(front.keptBefore f.statement).names_append opens, List.mem_append, not_or]
      exact ⟨absentFront, absentInner⟩
    obtain ⟨absentResult, endedResult, opensResult⟩ := furtherSeams endedFront absentNext
    refine ⟨absentResult, fun endedSource => endedResult ?_, fun begins => opensResult ?_⟩
    · rw [whole, split] at endedSource
      exact Ended.behindBlock settled settledBody endedSource g.statement
    · rw [whole, List.append_assoc before, ← List.append_assoc written] at begins
      obtain ⟨frontRest, frontBegins⟩ :=
        keptBefore_begins f.statement begins ⟨innerRest, innerBegins⟩
      exact ⟨frontRest ++ leftBehind g.statement rest, by rw [frontBegins]; rfl⟩

end TopicWiki.Template
