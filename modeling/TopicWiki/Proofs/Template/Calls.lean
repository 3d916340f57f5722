import Mathlib.Logic.Relation
import TopicWiki.Proofs.Template.Expansion

namespace TopicWiki.Template

structure Stage where
  levels : Nat
  source : List Char
  serial : Nat

/-- One stage leads to another: to the replacement of its first block, or past that block once the
    replacement has been expanded. -/
inductive Calls (tag : Tag) (template : String) : Stage → Stage → Prop
  | within {levels serial : Nat} {source before inside body rest expansion : List Char}
      {open_ close : Statement}
      (opened : opening? tag source = some (before, open_, inside))
      (closed : closing? tag 0 inside = some (body, close, rest))
      (replaced : tag.expand serial ⟨tag.name, open_.arguments, body, template⟩ = .ok expansion) :
      Calls tag template ⟨levels + 1, source, serial⟩ ⟨levels, expansion, serial + 1⟩
  | behind {levels serial middle : Nat}
      {source before inside body rest expansion inner : List Char} {open_ close : Statement}
      (opened : opening? tag source = some (before, open_, inside))
      (closed : closing? tag 0 inside = some (body, close, rest))
      (replaced : tag.expand serial ⟨tag.name, open_.arguments, body, template⟩ = .ok expansion)
      (deeper : Expands tag template levels [] expansion (serial + 1) inner middle) :
      Calls tag template ⟨levels + 1, source, serial⟩
        ⟨levels + 1, leftBehind close rest, middle⟩

def Reaches (tag : Tag) (template : String) : Stage → Stage → Prop :=
  Relation.ReflTransGen (Calls tag template)

theorem leftBehind_le (close : Statement) (text : List Char) :
    (leftBehind close text).length ≤ text.length := by
  unfold leftBehind
  split
  · exact (Text.trimStart_suffix text).length_le
  · exact Nat.le_refl _

theorem leftBehind_lt {tag : Tag} {level : Nat} {source before inside body rest : List Char}
    {open_ close : Statement} (opened : opening? tag source = some (before, open_, inside))
    (closed : closing? tag level inside = some (body, close, rest)) :
    (leftBehind close rest).length < source.length := by
  have first := opening?_after_lt opened
  have second := closing?_after_lt closed
  have last := leftBehind_le close rest
  omega

section

variable {tag : Tag} {template : String} {stage next : Stage}

theorem Calls.smaller (calls : Calls tag template stage next) :
    Prod.Lex (· < ·) (· < ·) (next.levels, next.source.length)
      (stage.levels, stage.source.length) := by
  cases calls with
  | within => exact Prod.Lex.left _ _ (Nat.lt_succ_self _)
  | behind opened closed => exact Prod.Lex.right _ (leftBehind_lt opened closed)

/-- No expansion goes on for ever, whatever a tag writes. -/
theorem calls_wellFounded (tag : Tag) (template : String) :
    WellFounded fun next stage => Calls tag template stage next := by
  have lex : WellFounded (Prod.Lex (· < ·) (· < ·) : Nat × Nat → Nat × Nat → Prop) :=
    (Prod.lex Nat.lt_wfRel Nat.lt_wfRel).wf
  exact Subrelation.wf Calls.smaller
    (InvImage.wf (fun stage : Stage => (stage.levels, stage.source.length)) lex)

end

def Tag.tooDeep (tag : Tag) (template : String) : TagError :=
  ⟨tag.name, template, s!"blocks nested deeper than {maxNesting} levels"⟩

def Tag.missingEnd (tag : Tag) (template : String) : TagError :=
  ⟨tag.name, template, "missing \x7b% " ++ tag.endName ++ " %\x7d"⟩

inductive Breaks (tag : Tag) (template : String) : Stage → TagError → Prop
  | deep {serial : Nat} {source before inside : List Char} {open_ : Statement}
      (opened : opening? tag source = some (before, open_, inside)) :
      Breaks tag template ⟨0, source, serial⟩ (tag.tooDeep template)
  | unclosed {levels serial : Nat} {source before inside : List Char} {open_ : Statement}
      (opened : opening? tag source = some (before, open_, inside))
      (unclosed : closing? tag 0 inside = none) :
      Breaks tag template ⟨levels + 1, source, serial⟩ (tag.missingEnd template)
  | refused {levels serial : Nat} {source before inside body rest : List Char}
      {open_ close : Statement} {e : TagError}
      (opened : opening? tag source = some (before, open_, inside))
      (closed : closing? tag 0 inside = some (body, close, rest))
      (refused : tag.expand serial ⟨tag.name, open_.arguments, body, template⟩ = .error e) :
      Breaks tag template ⟨levels + 1, source, serial⟩ e

theorem Expanding.bind_eq_error_iff {α β : Type} {x : Expanding α} {f : α → Expanding β}
    {serial serial' : Nat} {e : TagError} :
    (x >>= f).run.run serial = (.error e, serial') ↔
      x.run.run serial = (.error e, serial') ∨
        ∃ a middle, x.run.run serial = (.ok a, middle) ∧
          (f a).run.run middle = (.error e, serial') := by
  rw [Expanding.run_bind]
  cases first : x.run.run serial with
  | mk outcome middle =>
    cases outcome with
    | error e' =>
      constructor
      · rintro ⟨⟩
        exact Or.inl rfl
      · rintro (same | ⟨a, middle', ⟨⟩, -⟩)
        cases same
        rfl
    | ok a =>
      constructor
      · exact fun run => Or.inr ⟨a, middle, rfl, run⟩
      · rintro (⟨⟨⟩⟩ | ⟨a', middle', same, run⟩)
        cases same
        exact run

theorem Tag.run_eq_error_iff {tag : Tag} {block : TagBlock} {serial serial' : Nat} {e : TagError} :
    (tag.run block).run.run serial = (.error e, serial') ↔
      tag.expand serial block = .error e ∧ serial' = serial := by
  rw [Tag.run_run]
  cases tag.expand serial block with
  | error e' =>
    constructor
    · rintro ⟨⟩
      exact ⟨rfl, rfl⟩
    · rintro ⟨⟨⟩, rfl⟩
      rfl
  | ok expansion =>
    constructor
    · rintro ⟨⟩
    · rintro ⟨⟨⟩, -⟩

section

variable {tag : Tag} {template : String} {levels serial serial' : Nat} {written source : List Char}
  {e : TagError}

theorem exists_break
    (run : (expandBlocks tag template levels written source).run.run serial =
      (.error e, serial')) :
    ∃ stage, Reaches tag template ⟨levels, source, serial⟩ stage ∧
      Breaks tag template stage e ∧ stage.serial = serial' := by
  induction levels, written, source using expandBlocks.induct tag generalizing serial with
  | case1 levels written source none_ =>
    rw [expandBlocks_of_no_opening none_] at run
    cases run
  | case2 written source before open_ inside opened =>
    rw [expandBlocks_too_deep opened] at run
    cases run
    exact ⟨_, Relation.ReflTransGen.refl, Breaks.deep opened, rfl⟩
  | case3 written source before open_ inside opened levels unclosed =>
    rw [expandBlocks_unclosed opened unclosed] at run
    cases run
    exact ⟨_, Relation.ReflTransGen.refl, Breaks.unclosed opened unclosed, rfl⟩
  | case4 written source before open_ inside opened levels body close rest closed =>
    rename_i deeper further
    rw [expandBlocks_block opened closed, Expanding.bind_eq_error_iff] at run
    rcases run with refused | ⟨expansion, middle, once, run⟩
    · obtain ⟨refused, rfl⟩ := Tag.run_eq_error_iff.mp refused
      exact ⟨_, Relation.ReflTransGen.refl, Breaks.refused opened closed refused, rfl⟩
    · obtain ⟨replaced, rfl⟩ := Tag.run_eq_ok_iff.mp once
      rcases Expanding.bind_eq_error_iff.mp run with nested | ⟨inner, middle, nested, later⟩
      · obtain ⟨stage, reaches, breaks, same⟩ := deeper expansion nested
        exact ⟨stage, reaches.head (Calls.within opened closed replaced), breaks, same⟩
      · obtain ⟨stage, reaches, breaks, same⟩ := further inner later
        have calls := Calls.behind opened closed replaced (expandBlocks_eq_ok_iff.mp nested)
        exact ⟨stage, reaches.head calls, breaks, same⟩

theorem Breaks.run {stage : Stage} (breaks : Breaks tag template stage e)
    (written : List Char) :
    (expandBlocks tag template stage.levels written stage.source).run.run stage.serial =
      (.error e, stage.serial) := by
  cases breaks with
  | deep opened =>
    rw [expandBlocks_too_deep opened]
    rfl
  | unclosed opened unclosed =>
    rw [expandBlocks_unclosed opened unclosed]
    rfl
  | refused opened closed refused =>
    rw [expandBlocks_block opened closed, Expanding.bind_eq_error_iff]
    exact Or.inl (Tag.run_eq_error_iff.mpr ⟨refused, rfl⟩)

theorem Calls.run {stage next : Stage} (calls : Calls tag template stage next)
    (run : ∀ written, (expandBlocks tag template next.levels written next.source).run.run
      next.serial = (.error e, serial')) (written : List Char) :
    (expandBlocks tag template stage.levels written stage.source).run.run stage.serial =
      (.error e, serial') := by
  cases calls with
  | within opened closed replaced =>
    rw [expandBlocks_block opened closed, Expanding.bind_eq_error_iff]
    refine Or.inr ⟨_, _, Tag.run_eq_ok_iff.mpr ⟨replaced, rfl⟩, ?_⟩
    exact Expanding.bind_eq_error_iff.mpr (Or.inl (run []))
  | behind opened closed replaced deeper =>
    rw [expandBlocks_block opened closed, Expanding.bind_eq_error_iff]
    refine Or.inr ⟨_, _, Tag.run_eq_ok_iff.mpr ⟨replaced, rfl⟩, ?_⟩
    exact Expanding.bind_eq_error_iff.mpr
      (Or.inr ⟨_, _, expandBlocks_eq_ok_iff.mpr deeper, run _⟩)

theorem Reaches.run {stage last : Stage} (reaches : Reaches tag template stage last)
    (breaks : Breaks tag template last e) (written : List Char) :
    (expandBlocks tag template stage.levels written stage.source).run.run stage.serial =
      (.error e, last.serial) := by
  induction reaches using Relation.ReflTransGen.head_induction_on generalizing written with
  | refl => exact breaks.run written
  | head calls _ later => exact calls.run later written

/-- An expansion fails exactly when it reaches a stage at which it stops. -/
theorem expandBlocks_eq_error_iff :
    (expandBlocks tag template levels written source).run.run serial = (.error e, serial') ↔
      ∃ stage, Reaches tag template ⟨levels, source, serial⟩ stage ∧
        Breaks tag template stage e ∧ stage.serial = serial' := by
  refine ⟨exists_break, ?_⟩
  rintro ⟨stage, reaches, breaks, rfl⟩
  exact reaches.run breaks written

end

end TopicWiki.Template
