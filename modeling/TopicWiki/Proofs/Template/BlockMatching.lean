import TopicWiki.Proofs.Template.Calls

namespace TopicWiki.Template

open Text

namespace Tag

def openings (tag : Tag) (names : List String) : Nat :=
  names.count tag.name

def closings (tag : Tag) (names : List String) : Nat :=
  names.count tag.endName

def ClosesWithin (tag : Tag) (level : Nat) (names : List String) : Prop :=
  ∀ front, front <+: names → tag.closings front ≤ level + tag.openings front

/-- Every block that is opened is closed, and none is closed before it is opened. -/
structure Balanced (tag : Tag) (names : List String) : Prop where
  within : tag.ClosesWithin 0 names
  even : tag.closings names = tag.openings names

end Tag

section Balance

variable {tag : Tag} {level : Nat} {name : String} {names : List String}

theorem closesWithin_nil (tag : Tag) (level : Nat) : tag.ClosesWithin level [] := by
  intro front start
  rw [List.prefix_nil.mp start]
  exact Nat.zero_le _

theorem Tag.ClosesWithin.mono {more : Nat} (within : tag.ClosesWithin level names)
    (le : level ≤ more) : tag.ClosesWithin more names :=
  fun front start => Nat.le_trans (within front start) (Nat.add_le_add_right le _)

theorem closesWithin_cons_iff :
    tag.ClosesWithin level (name :: names) ↔ ∀ front, front <+: names →
      tag.closings (name :: front) ≤ level + tag.openings (name :: front) := by
  constructor
  · intro within front start
    exact within (name :: front) ((List.prefix_cons_inj name).mpr start)
  · intro within front start
    cases front with
    | nil => exact Nat.zero_le _
    | cons other front =>
      obtain ⟨rfl, start'⟩ := List.cons_prefix_cons.mp start
      exact within front start'

theorem closesWithin_opening (different : tag.endName ≠ tag.name) :
    tag.ClosesWithin level (tag.name :: names) ↔ tag.ClosesWithin (level + 1) names := by
  rw [closesWithin_cons_iff]
  refine forall₂_congr fun front _ => ?_
  rw [Tag.closings, Tag.openings, List.count_cons_of_ne different.symm, List.count_cons_self]
  unfold Tag.closings Tag.openings
  omega

theorem not_closesWithin_closing (different : tag.endName ≠ tag.name) :
    ¬ tag.ClosesWithin 0 (tag.endName :: names) := by
  intro within
  have first := within [tag.endName] ⟨names, rfl⟩
  rw [Tag.closings, Tag.openings, List.count_cons_self, List.count_cons_of_ne different] at first
  exact absurd first (by simp)

theorem closesWithin_closing (different : tag.endName ≠ tag.name) :
    tag.ClosesWithin (level + 1) (tag.endName :: names) ↔ tag.ClosesWithin level names := by
  rw [closesWithin_cons_iff]
  refine forall₂_congr fun front _ => ?_
  rw [Tag.closings, Tag.openings, List.count_cons_self, List.count_cons_of_ne different]
  unfold Tag.closings Tag.openings
  omega

theorem closesWithin_other (other : name ≠ tag.name) (other' : name ≠ tag.endName) :
    tag.ClosesWithin level (name :: names) ↔ tag.ClosesWithin level names := by
  rw [closesWithin_cons_iff]
  refine forall₂_congr fun front _ => ?_
  rw [Tag.closings, Tag.openings, List.count_cons_of_ne other', List.count_cons_of_ne other]
  rfl

def Tag.ClosesAll (tag : Tag) (level : Nat) (names : List String) : Prop :=
  tag.ClosesWithin level names ∧ tag.closings names = level + tag.openings names

theorem closesAll_nil : tag.ClosesAll level [] ↔ level = 0 := by
  refine ⟨fun all => all.2.symm, ?_⟩
  rintro rfl
  exact ⟨closesWithin_nil tag 0, rfl⟩

theorem closesAll_opening (different : tag.endName ≠ tag.name) :
    tag.ClosesAll level (tag.name :: names) ↔ tag.ClosesAll (level + 1) names := by
  rw [Tag.ClosesAll, closesWithin_opening different, Tag.closings, Tag.openings,
    List.count_cons_of_ne different.symm, List.count_cons_self]
  refine and_congr_right fun _ => ?_
  unfold Tag.closings Tag.openings
  omega

theorem closesAll_closing (different : tag.endName ≠ tag.name) :
    tag.ClosesAll (level + 1) (tag.endName :: names) ↔ tag.ClosesAll level names := by
  rw [Tag.ClosesAll, closesWithin_closing different, Tag.closings, Tag.openings,
    List.count_cons_self, List.count_cons_of_ne different]
  refine and_congr_right fun _ => ?_
  unfold Tag.closings Tag.openings
  omega

theorem closesAll_other (other : name ≠ tag.name) (other' : name ≠ tag.endName) :
    tag.ClosesAll level (name :: names) ↔ tag.ClosesAll level names := by
  rw [Tag.ClosesAll, closesWithin_other other other', Tag.closings, Tag.openings,
    List.count_cons_of_ne other', List.count_cons_of_ne other]
  rfl

theorem closesAll_zero_iff : tag.ClosesAll 0 names ↔ tag.Balanced names := by
  constructor
  · rintro ⟨within, even⟩
    exact ⟨within, by rw [even, Nat.zero_add]⟩
  · rintro ⟨within, even⟩
    exact ⟨within, by rw [even, Nat.zero_add]⟩

end Balance

theorem opening?_name {tag : Tag} {text before inside : List Char} {open_ : Statement}
    (found : opening? tag text = some (before, open_, inside)) : open_.name = tag.name := by
  induction size : text.length using Nat.strongRecOn generalizing text before with
  | ind n ih =>
    cases first : Statement.first? text with
    | none =>
      have absent : tag.name ∉ names text := by
        rw [names_nil_of_first? first]
        exact List.not_mem_nil
      rw [opening?_eq_none_iff.mpr absent] at found
      cases found
    | some parts =>
      obtain ⟨l, rest⟩ := parts
      have shorter := Statement.first?_rest_lt first
      rw [opening?_of_first? first] at found
      split at found
      · rename_i opens
        simp only [Option.some.injEq, Prod.mk.injEq] at found
        obtain ⟨-, rfl, -⟩ := found
        exact opens
      · obtain ⟨⟨front, open', inside'⟩, later, same⟩ := Option.map_eq_some_iff.mp found
        simp only [Prod.mk.injEq] at same
        obtain ⟨-, rfl, rfl⟩ := same
        exact ih _ (by omega) later rfl

section Closing

variable {tag : Tag} {level : Nat} {text body rest : List Char} {close : Statement}

theorem closing?_eq_none_iff (different : tag.endName ≠ tag.name) :
    closing? tag level text = none ↔ tag.ClosesWithin level (names text) := by
  induction size : text.length using Nat.strongRecOn generalizing level text with
  | ind n ih =>
    cases found : Statement.first? text with
    | none =>
      have absent : tag.endName ∉ names text := by
        rw [names_nil_of_first? found]
        exact List.not_mem_nil
      rw [closing?_eq_none absent, names_nil_of_first? found]
      exact iff_of_true rfl (closesWithin_nil tag level)
    | some parts =>
      obtain ⟨l, rest⟩ := parts
      have shorter := Statement.first?_rest_lt found
      have later (level : Nat) : closing? tag level rest = none ↔ _ := ih _ (by omega) rfl
      rw [closing?_of_first? found, names_of_first? found]
      by_cases opens : l.name = tag.name
      · rw [if_pos opens, opens, closesWithin_opening different, ← later]
        exact Option.map_eq_none_iff
      · rw [if_neg opens]
        by_cases closes : l.name = tag.endName
        · rw [if_pos closes, closes]
          cases level with
          | zero => exact iff_of_false (by simp) (not_closesWithin_closing different)
          | succ level =>
            rw [closesWithin_closing different, ← later]
            exact Option.map_eq_none_iff
        · rw [if_neg closes, closesWithin_other opens closes, ← later]
          exact Option.map_eq_none_iff

theorem closing?_closesAll (different : tag.endName ≠ tag.name)
    (found : closing? tag level text = some (body, close, rest)) :
    close.name = tag.endName ∧ tag.ClosesAll level (names body) := by
  induction size : text.length using Nat.strongRecOn generalizing level text body with
  | ind n ih =>
    cases first : Statement.first? text with
    | none =>
      have absent : tag.endName ∉ names text := by
        rw [names_nil_of_first? first]
        exact List.not_mem_nil
      rw [closing?_eq_none absent] at found
      cases found
    | some parts =>
      obtain ⟨l, behind⟩ := parts
      have shorter := Statement.first?_rest_lt first
      obtain ⟨proper, -⟩ := Statement.first?_eq_some_iff.mp first
      have deeper {inner : Nat}
          (found : foundBehind (l.gap ++ l.statement.source) (closing? tag inner behind) =
            some (body, close, rest)) :
          ∃ more, names body = l.name :: names more ∧ close.name = tag.endName ∧
            tag.ClosesAll inner (names more) := by
        obtain ⟨⟨more, close', rest'⟩, later, same⟩ := Option.map_eq_some_iff.mp found
        simp only [Prod.mk.injEq] at same
        obtain ⟨rfl, rfl, rfl⟩ := same
        refine ⟨more, ?_, ih _ (by omega) later rfl⟩
        rw [proper.ended.names_append, proper.names]
        rfl
      rw [closing?_of_first? first] at found
      split at found
      · rename_i opens
        obtain ⟨more, same, closes, all⟩ := deeper found
        rw [same, opens, closesAll_opening different]
        exact ⟨closes, all⟩
      · rename_i other
        split at found
        · rename_i closes
          cases level with
          | zero =>
            simp only [Option.some.injEq, Prod.mk.injEq] at found
            obtain ⟨rfl, rfl, rfl⟩ := found
            rw [names_nil_of_first? (Statement.first?_of_idle proper.1), closesAll_nil]
            exact ⟨closes, rfl⟩
          | succ level =>
            obtain ⟨more, same, closes', all⟩ := deeper found
            rw [same, closes, closesAll_closing different]
            exact ⟨closes', all⟩
        · rename_i other'
          obtain ⟨more, same, closes, all⟩ := deeper found
          rw [same, closesAll_other other other']
          exact ⟨closes, all⟩

theorem closing?_of_closesAll (different : tag.endName ≠ tag.name) (settled : Settled body)
    (all : tag.ClosesAll level (names body)) {f : StatementForm}
    (closes : f.statement.name = tag.endName) (rest : List Char) :
    closing? tag level (body ++ f.source ++ rest) = some (body, f.statement, rest) := by
  obtain ⟨located, gap, proper, idle, rfl⟩ := settled
  induction located generalizing level with
  | nil =>
    have none_ : names gap = [] := names_nil_of_first? (Statement.first?_of_idle idle)
    rw [layout, List.flatMap_nil, List.nil_append] at all ⊢
    rw [none_, closesAll_nil] at all
    subst all
    rw [closing?_of_settled idle.settled (by simp [none_]) (by simp [none_]), closes,
      if_neg different, if_pos rfl]
  | cons l located ih =>
    have here : l.Proper := proper l List.mem_cons_self
    have found : Statement.first? (layout (l :: located) ++ gap ++ f.source ++ rest) =
        some (l, layout located ++ gap ++ f.source ++ rest) := by
      refine Statement.first?_eq_some_iff.mpr ⟨here, ?_⟩
      rw [layout_cons]
      simp only [List.append_assoc]
    have split : names (layout (l :: located) ++ gap) = l.name :: names (layout located ++ gap) := by
      rw [layout_cons, List.append_assoc _ _ gap, here.ended.names_append, here.names]
      rfl
    have behind {inner : Nat} (all : tag.ClosesAll inner (names (layout located ++ gap))) :
        foundBehind (l.gap ++ l.statement.source)
            (closing? tag inner (layout located ++ gap ++ f.source ++ rest)) =
          some (layout (l :: located) ++ gap, f.statement, rest) := by
      rw [ih proper.tail all, layout_cons]
      simp [foundBehind]
    rw [split] at all
    rw [closing?_of_first? found]
    by_cases opens : l.name = tag.name
    · rw [opens, closesAll_opening different] at all
      rw [if_pos opens, behind all]
    · rw [if_neg opens]
      by_cases ends : l.name = tag.endName
      · rw [ends] at all
        rw [if_pos ends]
        cases level with
        | zero => exact absurd all.1 (not_closesWithin_closing different)
        | succ level => exact behind ((closesAll_closing different).mp all)
      · rw [if_neg ends, behind ((closesAll_other opens ends).mp all)]

end Closing

structure Block where
  before : List Char
  opening : Statement
  body : List Char
  closing : Statement
  dropped : List Char
  deriving DecidableEq, Repr

namespace Block

def source (block : Block) : List Char :=
  block.before ++ block.opening.source ++ block.body ++ block.closing.source ++ block.dropped

/-- The block runs from the first opening statement of the tag to the first closing statement at
    which as many blocks are closed as are opened: up to the end of the body, its own is open. -/
structure Matches (tag : Tag) (block : Block) : Prop where
  settled : Settled block.before
  first : tag.name ∉ names block.before
  opens : ∃ f : StatementForm, block.opening = f.statement ∧ f.statement.name = tag.name
  inner : Settled block.body
  balanced : tag.Balanced (names block.body)
  closes : ∃ f : StatementForm, block.closing = f.statement ∧ f.statement.name = tag.endName
  blank : allBlank block.dropped = true
  kept : block.closing.trimAfter = false → block.dropped = []

variable {tag : Tag} {block : Block}

theorem Matches.opened (matched : block.Matches tag) (rest : List Char) :
    opening? tag (block.source ++ rest) = some (block.before, block.opening,
      block.body ++ block.closing.source ++ (block.dropped ++ rest)) := by
  obtain ⟨f, same, opens⟩ := matched.opens
  have found := opening?_of_settled matched.settled matched.first opens
    (block.body ++ block.closing.source ++ (block.dropped ++ rest))
  rw [same]
  convert found using 2
  rw [source, same]
  simp [StatementForm.statement]

theorem Matches.closed (different : tag.endName ≠ tag.name) (matched : block.Matches tag)
    (rest : List Char) :
    closing? tag 0 (block.body ++ block.closing.source ++ rest) =
      some (block.body, block.closing, rest) := by
  obtain ⟨f, same, closes⟩ := matched.closes
  have all := closesAll_zero_iff.mpr matched.balanced
  rw [same]
  exact closing?_of_closesAll different matched.inner all closes rest

end Block

def droppedBehind (close : Statement) (text : List Char) : List Char :=
  if close.trimAfter then text.takeWhile isBlank else []

theorem dropped_leftBehind (close : Statement) (text : List Char) :
    droppedBehind close text ++ leftBehind close text = text := by
  unfold droppedBehind leftBehind
  split
  · exact List.takeWhile_append_dropWhile
  · rfl

/-- The blocks of a source, one behind another, and what is behind the last of them: no block is
    opened there, or one that has no end. -/
def cutBlocks (tag : Tag) (source : List Char) : List Block × List Char :=
  match opened : opening? tag source with
  | none => ([], source)
  | some (before, open_, inside) =>
    match closed : closing? tag 0 inside with
    | none => ([], source)
    | some (body, close, rest) =>
      have := leftBehind_lt opened closed
      let (blocks, tail) := cutBlocks tag (leftBehind close rest)
      (⟨before, open_, body, close, droppedBehind close rest⟩ :: blocks, tail)
termination_by source.length

def replaceBlocks (tag : Tag) (template : String) (levels : Nat) (written : List Char) :
    List Block → Expanding (List Char)
  | [] => pure written
  | block :: rest => do
    let expansion ← tag.run ⟨tag.name, block.opening.arguments, block.body, template⟩
    let inner ← expandBlocks tag template levels [] expansion
    replaceBlocks tag template levels
      (keptBefore block.opening (written ++ block.before) ++ inner) rest

section Cutting

variable {tag : Tag} {source before inside body rest : List Char} {open_ close : Statement}

theorem cutBlocks_of_no_opening (none_ : opening? tag source = none) :
    cutBlocks tag source = ([], source) := by
  rw [cutBlocks]
  split
  · rfl
  · simp_all

theorem cutBlocks_unclosed (opened : opening? tag source = some (before, open_, inside))
    (unclosed : closing? tag 0 inside = none) : cutBlocks tag source = ([], source) := by
  rw [cutBlocks]
  split
  · rfl
  · rename_i opened'
    rw [opened] at opened'
    cases opened'
    split
    · rfl
    · simp_all

theorem cutBlocks_block (opened : opening? tag source = some (before, open_, inside))
    (closed : closing? tag 0 inside = some (body, close, rest)) :
    cutBlocks tag source =
      (⟨before, open_, body, close, droppedBehind close rest⟩ ::
        (cutBlocks tag (leftBehind close rest)).1, (cutBlocks tag (leftBehind close rest)).2) := by
  rw [cutBlocks]
  split
  · simp_all
  · rename_i opened'
    rw [opened] at opened'
    cases opened'
    split
    · simp_all
    · rename_i closed'
      rw [closed] at closed'
      cases closed'
      rfl

theorem source_of_closed (opened : opening? tag source = some (before, open_, inside))
    (closed : closing? tag 0 inside = some (body, close, rest)) :
    source = (⟨before, open_, body, close, droppedBehind close rest⟩ : Block).source ++
      leftBehind close rest := by
  rw [Block.source, (opening?_eq_some opened).1, (closing?_eq_some closed).1]
  simp only [List.append_assoc, dropped_leftBehind]

theorem cutBlocks_source (tag : Tag) (source : List Char) :
    (cutBlocks tag source).1.flatMap Block.source ++ (cutBlocks tag source).2 = source := by
  fun_induction cutBlocks tag source with
  | case1 => rfl
  | case2 => rfl
  | case3 source before open_ inside opened body close rest closed _ blocks tail same ih =>
    rw [same] at ih
    rw [List.flatMap_cons, List.append_assoc, ih, ← source_of_closed opened closed]

theorem matches_of_closed (different : tag.endName ≠ tag.name)
    (opened : opening? tag source = some (before, open_, inside))
    (closed : closing? tag 0 inside = some (body, close, rest)) :
    (⟨before, open_, body, close, droppedBehind close rest⟩ : Block).Matches tag := by
  obtain ⟨-, settled, first, f, form⟩ := opening?_eq_some opened
  obtain ⟨-, inner, g, form'⟩ := closing?_eq_some closed
  obtain ⟨closes, all⟩ := closing?_closesAll different closed
  have opens : open_.name = tag.name := opening?_name opened
  refine ⟨settled, first, ⟨f, form, form ▸ opens⟩, inner, closesAll_zero_iff.mp all,
    ⟨g, form', form' ▸ closes⟩, ?_, ?_⟩
  · unfold droppedBehind
    split
    · exact List.all_takeWhile
    · rfl
  · intro undashed
    rw [Bool.eq_false_iff] at undashed
    exact if_neg undashed

theorem cutBlocks_matches (different : tag.endName ≠ tag.name) :
    ∀ block ∈ (cutBlocks tag source).1, block.Matches tag := by
  fun_induction cutBlocks tag source with
  | case1 => simp
  | case2 => simp
  | case3 source before open_ inside opened body close rest closed _ blocks tail same ih =>
    rw [same] at ih
    exact List.forall_mem_cons.mpr ⟨matches_of_closed different opened closed, ih⟩

def Tag.LeavesOpen (tag : Tag) (text : List Char) : Prop :=
  ∃ (before : List Char) (f : StatementForm) (inside : List Char),
    text = before ++ f.source ++ inside ∧ Settled before ∧ tag.name ∉ names before ∧
      f.statement.name = tag.name ∧ tag.ClosesWithin 0 (names inside)

theorem leavesOpen_iff (different : tag.endName ≠ tag.name) :
    tag.LeavesOpen source ↔ ∃ before open_ inside,
      opening? tag source = some (before, open_, inside) ∧ closing? tag 0 inside = none := by
  constructor
  · rintro ⟨before, f, inside, rfl, settled, first, opens, within⟩
    exact ⟨before, f.statement, inside, opening?_of_settled settled first opens inside,
      (closing?_eq_none_iff different).mpr within⟩
  · rintro ⟨before, open_, inside, opened, unclosed⟩
    have opens := opening?_name opened
    obtain ⟨whole, settled, first, f, rfl⟩ := opening?_eq_some opened
    exact ⟨before, f, inside, whole, settled, first, opens,
      (closing?_eq_none_iff different).mp unclosed⟩

theorem Tag.LeavesOpen.mem_names (open_ : tag.LeavesOpen source) : tag.name ∈ names source := by
  obtain ⟨before, f, inside, rfl, settled, first, opens, within⟩ := open_
  by_contra absent
  have opened := opening?_of_settled settled first opens inside
  rw [opening?_eq_none_iff.mpr absent] at opened
  cases opened

theorem cutBlocks_tail (different : tag.endName ≠ tag.name) :
    tag.name ∈ names (cutBlocks tag source).2 ↔ tag.LeavesOpen (cutBlocks tag source).2 := by
  refine ⟨?_, Tag.LeavesOpen.mem_names⟩
  fun_induction cutBlocks tag source with
  | case1 source none_ => exact fun member => absurd member (opening?_eq_none_iff.mp none_)
  | case2 source before open_ inside opened unclosed =>
    exact fun _ => (leavesOpen_iff different).mpr ⟨before, open_, inside, opened, unclosed⟩
  | case3 source before open_ inside opened body close rest closed _ blocks tail same ih =>
    rw [same] at ih
    exact ih

end Cutting

section Replacing

variable {tag : Tag} {template : String} {levels serial serial' : Nat}
  {written source result : List Char} {blocks : List Block}

theorem expandBlocks_eq_replaceBlocks (tag : Tag) (template : String) (levels : Nat)
    (written source : List Char) :
    expandBlocks tag template (levels + 1) written source = (do
      let written ← replaceBlocks tag template levels written (cutBlocks tag source).1
      if tag.name ∈ names (cutBlocks tag source).2 then throw (tag.missingEnd template)
      else pure (written ++ (cutBlocks tag source).2)) := by
  fun_induction cutBlocks tag source generalizing written with
  | case1 source none_ =>
    rw [expandBlocks_of_no_opening none_, replaceBlocks, pure_bind,
      if_neg (opening?_eq_none_iff.mp none_)]
  | case2 source before open_ inside opened unclosed =>
    have member : tag.name ∈ names source := by
      by_contra absent
      rw [opening?_eq_none_iff.mpr absent] at opened
      cases opened
    rw [expandBlocks_unclosed opened unclosed, replaceBlocks, pure_bind, if_pos member]
    rfl
  | case3 source before open_ inside opened body close rest closed _ blocks tail same ih =>
    rw [same] at ih
    rw [expandBlocks_block opened closed, replaceBlocks]
    simp only [bind_assoc]
    refine bind_congr fun expansion => bind_congr fun inner => ?_
    exact ih _

inductive Replaces (tag : Tag) (template : String) (levels : Nat) :
    (serial : Nat) → List Block → (inners : List (List Char)) → (serial' : Nat) → Prop
  | done {serial : Nat} : Replaces tag template levels serial [] [] serial
  | block {serial middle serial' : Nat} {block : Block} {blocks : List Block}
      {expansion inner : List Char} {inners : List (List Char)}
      (replaced : tag.expand serial ⟨tag.name, block.opening.arguments, block.body, template⟩ =
        .ok expansion)
      (deeper : Expands tag template levels [] expansion (serial + 1) inner middle)
      (further : Replaces tag template levels middle blocks inners serial') :
      Replaces tag template levels serial (block :: blocks) (inner :: inners) serial'

def copied (written : List Char) : List Block → List (List Char) → List Char
  | block :: blocks, inner :: inners =>
    copied (keptBefore block.opening (written ++ block.before) ++ inner) blocks inners
  | _, _ => written

theorem replaceBlocks_eq_ok_iff :
    (replaceBlocks tag template levels written blocks).run.run serial = (.ok result, serial') ↔
      ∃ inners, Replaces tag template levels serial blocks inners serial' ∧
        result = copied written blocks inners := by
  induction blocks generalizing written serial with
  | nil =>
    constructor
    · rintro ⟨⟩
      exact ⟨[], .done, rfl⟩
    · rintro ⟨inners, replaces, rfl⟩
      cases replaces
      rfl
  | cons block blocks ih =>
    rw [replaceBlocks, Expanding.bind_eq_ok_iff]
    constructor
    · rintro ⟨expansion, middle, once, run⟩
      obtain ⟨inner, middle, nested, later⟩ := Expanding.bind_eq_ok_iff.mp run
      obtain ⟨replaced, rfl⟩ := Tag.run_eq_ok_iff.mp once
      obtain ⟨inners, further, rfl⟩ := ih.mp later
      exact ⟨inner :: inners, .block replaced (expandBlocks_eq_ok_iff.mp nested) further, rfl⟩
    · rintro ⟨inners, replaces, rfl⟩
      cases replaces with
      | block replaced deeper further =>
        refine ⟨_, _, Tag.run_eq_ok_iff.mpr ⟨replaced, rfl⟩, ?_⟩
        rw [Expanding.bind_eq_ok_iff]
        exact ⟨_, _, expandBlocks_eq_ok_iff.mpr deeper, ih.mpr ⟨_, further, rfl⟩⟩

theorem missingEnd_ne_tooDeep (tag : Tag) (template : String) :
    tag.missingEnd template ≠ tag.tooDeep template := by
  intro same
  have heads := congrArg (fun e : TagError => e.reason.toList.head?) same
  simp [Tag.missingEnd, Tag.tooDeep, toString] at heads

/-- The end of a block is missing where one was left open, or where the tag itself says so. -/
theorem breaks_missingEnd_iff (different : tag.endName ≠ tag.name) {stage : Stage} :
    Breaks tag template stage (tag.missingEnd template) ↔
      stage.levels ≠ 0 ∧ (tag.LeavesOpen stage.source ∨
        ∃ (block : Block) (rest : List Char), stage.source = block.source ++ rest ∧
          block.Matches tag ∧
          tag.expand stage.serial ⟨tag.name, block.opening.arguments, block.body, template⟩ =
            .error (tag.missingEnd template)) := by
  constructor
  · generalize same : tag.missingEnd template = e
    intro breaks
    cases breaks with
    | deep opened => exact absurd same (missingEnd_ne_tooDeep tag template)
    | unclosed opened unclosed =>
      exact ⟨Nat.succ_ne_zero _,
        Or.inl ((leavesOpen_iff different).mpr ⟨_, _, _, opened, unclosed⟩)⟩
    | refused opened closed refused =>
      exact ⟨Nat.succ_ne_zero _, Or.inr ⟨_, _, source_of_closed opened closed,
        matches_of_closed different opened closed, refused⟩⟩
  · obtain ⟨levels, source, serial⟩ := stage
    rintro ⟨left, unclosed | ⟨block, rest, rfl, matched, refused⟩⟩
    · obtain ⟨levels, rfl⟩ := Nat.exists_eq_succ_of_ne_zero left
      obtain ⟨before, open_, inside, opened, unclosed⟩ := (leavesOpen_iff different).mp unclosed
      exact Breaks.unclosed opened unclosed
    · obtain ⟨levels, rfl⟩ := Nat.exists_eq_succ_of_ne_zero left
      exact Breaks.refused (matched.opened rest) (matched.closed different _) refused

/-- What a level of the expansion does. The source is its blocks, each from an opening statement to
    the closing statement that balances it, and a tail in which no block is opened, or one that has
    no end. The bodies of the blocks are handed to the tag in order; the text around them is copied,
    but for the blanks at a dash on the outer side of a block. The end of a block is missing exactly
    where the expansion comes to a source, with a level to replace, whose first block has none. -/
theorem blocks_matched_exactly (different : tag.endName ≠ tag.name) (template : String)
    (levels : Nat) (written source : List Char) :
    (cutBlocks tag source).1.flatMap Block.source ++ (cutBlocks tag source).2 = source ∧
    (∀ block ∈ (cutBlocks tag source).1, block.Matches tag) ∧
    (tag.name ∈ names (cutBlocks tag source).2 ↔ tag.LeavesOpen (cutBlocks tag source).2) ∧
    expandBlocks tag template (levels + 1) written source = (do
      let written ← replaceBlocks tag template levels written (cutBlocks tag source).1
      if tag.name ∈ names (cutBlocks tag source).2 then throw (tag.missingEnd template)
      else pure (written ++ (cutBlocks tag source).2)) ∧
    (∀ serial result serial',
      (expandBlocks tag template (levels + 1) written source).run.run serial =
          (.ok result, serial') ↔
        tag.name ∉ names (cutBlocks tag source).2 ∧
          ∃ inners, Replaces tag template levels serial (cutBlocks tag source).1 inners serial' ∧
            result = copied written (cutBlocks tag source).1 inners ++ (cutBlocks tag source).2) ∧
    ∀ levels serial serial',
      (expandBlocks tag template levels written source).run.run serial =
          (.error (tag.missingEnd template), serial') ↔
        ∃ stage, Reaches tag template ⟨levels, source, serial⟩ stage ∧ stage.serial = serial' ∧
          stage.levels ≠ 0 ∧ (tag.LeavesOpen stage.source ∨
            ∃ (block : Block) (rest : List Char), stage.source = block.source ++ rest ∧
              block.Matches tag ∧
              tag.expand stage.serial ⟨tag.name, block.opening.arguments, block.body, template⟩ =
                .error (tag.missingEnd template)) := by
  refine ⟨cutBlocks_source tag source, cutBlocks_matches different, cutBlocks_tail different,
    expandBlocks_eq_replaceBlocks tag template levels written source, ?_, ?_⟩
  · intro serial result serial'
    rw [expandBlocks_eq_replaceBlocks, Expanding.bind_eq_ok_iff]
    by_cases member : tag.name ∈ names (cutBlocks tag source).2
    · simp only [member, not_true, false_and, iff_false]
      rintro ⟨text, middle, -, ⟨⟩⟩
    · simp only [member, not_false_iff, true_and]
      constructor
      · rintro ⟨text, middle, replaced, ⟨⟩⟩
        obtain ⟨inners, replaces, rfl⟩ := replaceBlocks_eq_ok_iff.mp replaced
        exact ⟨inners, replaces, rfl⟩
      · rintro ⟨inners, replaces, rfl⟩
        exact ⟨_, _, replaceBlocks_eq_ok_iff.mpr ⟨inners, replaces, rfl⟩, rfl⟩
  · intro levels serial serial'
    rw [expandBlocks_eq_error_iff]
    refine exists_congr fun stage => and_congr_right fun _ => ?_
    rw [breaks_missingEnd_iff different, and_comm]

theorem blocks_matched_exactly_of_nested :
    let tag : Tag := ⟨"w", "done", fun _ block => .ok (['<'] ++ block.body ++ ['>'])⟩
    let source := "a \x7b%- w %\x7dx\x7b% w %\x7dy\x7b% done %\x7d\x7b% done -%\x7d b".toList
    tag.endName ≠ tag.name ∧
      (expandTag tag "t" source).run.run 0 = (.ok "a<x<y>>b".toList, 2) := by
  intro tag source
  let inside := "x\x7b% w %\x7dy\x7b% done %\x7d".toList
  have cut : cutBlocks tag source =
      ([⟨"a ".toList, ⟨"w", [], true, false, "\x7b%- w %\x7d".toList⟩, inside,
        ⟨"done", [], false, true, "\x7b% done -%\x7d".toList⟩, [' ']⟩], ['b']) := by
    decide +kernel
  have innerOpened : opening? tag (['<'] ++ inside ++ ['>']) =
      some ("<x".toList, ⟨"w", [], false, false, "\x7b% w %\x7d".toList⟩,
        "y\x7b% done %\x7d>".toList) := by
    decide +kernel
  have innerClosed : closing? tag 0 "y\x7b% done %\x7d>".toList =
      some (['y'], ⟨"done", [], false, false, "\x7b% done %\x7d".toList⟩, ['>']) := by
    decide +kernel
  have deeper : Expands tag "t" 63 [] (['<'] ++ inside ++ ['>']) 1 "<x<y>>".toList 2 :=
    .block innerOpened innerClosed rfl (.done (by decide +kernel)) (.done (by decide +kernel))
  obtain ⟨-, -, -, -, succeeds, -⟩ :=
    blocks_matched_exactly (show tag.endName ≠ tag.name by decide) "t" 63 [] source
  refine ⟨by decide, (succeeds _ _ _).mpr ?_⟩
  rw [cut]
  exact ⟨by decide +kernel, _, .block rfl deeper .done, rfl⟩

end Replacing

end TopicWiki.Template
