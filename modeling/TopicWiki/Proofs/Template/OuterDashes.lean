import TopicWiki.Proofs.Template.BlockMatching

namespace TopicWiki.Template

open Text

namespace StatementForm

def undashed (f : StatementForm) : StatementForm :=
  { f with dash := false }

theorem cutEndDash_isPrefix (text : List Char) : (cutEndDash text).2 <+: text := by
  unfold cutEndDash
  split
  · exact List.dropLast_prefix text
  · exact List.prefix_rfl

def endUndashed (f : StatementForm) : StatementForm :=
  { f with
    inside := (cutEndDash f.inside).2
    apart := by
      intro c head
      obtain ⟨rest, whole⟩ := cutEndDash_isPrefix f.inside
      apply f.apart c
      rw [← whole, List.head?_append, Option.mem_def.mp head]
      rfl
    unclosed := fun early => f.unclosed (early.trans (cutEndDash_isPrefix f.inside).isInfix) }

def deletedBefore (f : StatementForm) (pre post : List Char) : List Char :=
  trimEnd pre ++ f.undashed.source ++ post

def deletedBehind (f : StatementForm) (pre post : List Char) : List Char :=
  pre ++ f.endUndashed.source ++ trimStart post

theorem undashed_name (f : StatementForm) : f.undashed.statement.name = f.statement.name :=
  rfl

theorem undashed_arguments (f : StatementForm) :
    f.undashed.statement.arguments = f.statement.arguments :=
  rfl

theorem endUndashed_name (f : StatementForm) : f.endUndashed.statement.name = f.statement.name :=
  rfl

theorem endUndashed_arguments {f : StatementForm}
    (single : f.endUndashed.statement.trimAfter = false) :
    f.endUndashed.statement.arguments = f.statement.arguments := by
  change (cutEndDash (cutEndDash f.inside).2).1 = false at single
  change trim (cutEndDash (cutEndDash f.inside).2).2 = trim (cutEndDash f.inside).2
  generalize (cutEndDash f.inside).2 = inside at single
  unfold cutEndDash at single ⊢
  split
  · rename_i last
    rw [last] at single
    cases single
  · rfl

end StatementForm

def Solid (text : List Char) : Prop :=
  ∀ c ∈ text.head?, isBlank c = false

section Solid

variable {text more : List Char}

theorem solid_trimStart (text : List Char) : Solid (trimStart text) :=
  fun _ => head?_dropWhile text

theorem Solid.trimStart (solid : Solid text) : trimStart text = text := by
  cases text with
  | nil => rfl
  | cons c text => exact trimStart_of_head (solid c rfl)

theorem Solid.trimEnd (solid : Solid text) : Solid (trimEnd text) := by
  obtain ⟨blanks, whole, -⟩ := exists_blank_trimEnd text
  intro c head
  apply solid c
  rw [whole, List.head?_append, Option.mem_def.mp head]
  rfl

theorem solid_append (nonempty : text ≠ []) : Solid (text ++ more) ↔ Solid text := by
  unfold Solid
  rw [List.head?_append_of_ne_nil text nonempty]

theorem solid_form_append (f : StatementForm) (rest : List Char) : Solid (f.source ++ rest) := by
  obtain ⟨back, begins⟩ := f.source_begins
  intro c head
  rw [begins] at head
  obtain rfl := Option.some.inj head
  decide

end Solid

namespace Block

variable {tag : Tag} {tail : List Char} {blocks front back : List Block} {block : Block}

def sources (blocks : List Block) (tail : List Char) : List Char :=
  blocks.flatMap Block.source ++ tail

def Chained (tag : Tag) (tail : List Char) : List Block → Prop
  | [] => cutBlocks tag tail = ([], tail)
  | block :: rest => block.Matches tag ∧
      (block.closing.trimAfter = true → Solid (sources rest tail)) ∧ Chained tag tail rest

theorem sources_cons (block : Block) (rest : List Block) (tail : List Char) :
    sources (block :: rest) tail = block.source ++ sources rest tail := by
  simp [sources]

theorem Matches.leftBehind (matched : block.Matches tag)
    (solid : block.closing.trimAfter = true → Solid tail) :
    leftBehind block.closing (block.dropped ++ tail) = tail := by
  unfold Template.leftBehind
  split
  · rename_i dashed
    rw [trimStart_append, if_pos matched.blank, (solid dashed).trimStart]
  · rename_i undashed
    rw [matched.kept (Bool.eq_false_iff.mpr undashed), List.nil_append]

theorem Chained.cut (different : tag.endName ≠ tag.name) (chained : Chained tag tail blocks) :
    cutBlocks tag (sources blocks tail) = (blocks, tail) := by
  induction blocks with
  | nil => exact chained
  | cons block rest ih =>
    obtain ⟨matched, solid, behind⟩ := chained
    have left := matched.leftBehind solid
    have dropped : droppedBehind block.closing (block.dropped ++ sources rest tail) =
        block.dropped := by
      have whole := dropped_leftBehind block.closing (block.dropped ++ sources rest tail)
      rw [left] at whole
      exact List.append_cancel_right whole
    rw [sources_cons, cutBlocks_block (matched.opened _) (matched.closed different _), left,
      dropped, ih behind]

theorem chained_of_cut (different : tag.endName ≠ tag.name) {source : List Char}
    (cut : cutBlocks tag source = (blocks, tail)) : Chained tag tail blocks := by
  fun_induction cutBlocks tag source generalizing blocks with
  | case1 source none_ =>
    cases cut
    exact cutBlocks_of_no_opening none_
  | case2 source before open_ inside opened unclosed =>
    cases cut
    exact cutBlocks_unclosed opened unclosed
  | case3 source before open_ inside opened body close rest closed _ blocks tail same ih =>
    cases cut
    refine ⟨matches_of_closed different opened closed, ?_, ih same⟩
    intro dashed
    have whole := cutBlocks_source tag (Template.leftBehind close rest)
    rw [same] at whole
    rw [sources, whole, Template.leftBehind, if_pos dashed]
    exact solid_trimStart rest

theorem Matches.opening_ne_nil (matched : block.Matches tag) : block.opening.source ≠ [] := by
  obtain ⟨f, same, -⟩ := matched.opens
  obtain ⟨back, begins⟩ := f.source_begins
  rw [same, show f.statement.source = f.source from rfl, begins]
  exact List.cons_ne_nil _ _

theorem Matches.solid_iff (matched : block.Matches tag) (rest : List Block) :
    Solid (sources (block :: rest) tail) ↔ Solid (block.before ++ block.opening.source) := by
  have nonempty : block.before ++ block.opening.source ≠ [] := by
    simp [matched.opening_ne_nil]
  have whole : sources (block :: rest) tail = block.before ++ block.opening.source ++
      (block.body ++ block.closing.source ++ block.dropped ++ sources rest tail) := by
    simp [sources, source]
  rw [whole, solid_append nonempty]

theorem Chained.of_append (chained : Chained tag tail (front ++ back)) : Chained tag tail back := by
  induction front with
  | nil => exact chained
  | cons first front ih => exact ih chained.2.2

theorem sources_append_cons (front : List Block) (block : Block) (back : List Block)
    (tail : List Char) :
    sources (front ++ block :: back) tail = front.flatMap Block.source ++ block.before ++
      block.opening.source ++ block.body ++ block.closing.source ++ block.dropped ++
        sources back tail := by
  simp [sources, source]

theorem Chained.swap {block' : Block} (chained : Chained tag tail (front ++ block :: back))
    (matched : block'.Matches tag)
    (begins : Solid (block.before ++ block.opening.source) →
      Solid (block'.before ++ block'.opening.source))
    (ends : block'.closing.trimAfter = true → block.closing.trimAfter = true) :
    Chained tag tail (front ++ block' :: back) := by
  induction front with
  | nil =>
    obtain ⟨-, solid, behind⟩ := chained
    exact ⟨matched, fun dashed => solid (ends dashed), behind⟩
  | cons first front ih =>
    rw [List.cons_append] at chained ⊢
    obtain ⟨here, solid, behind⟩ := chained
    refine ⟨here, fun dashed => ?_, ih behind⟩
    cases front with
    | nil =>
      rw [List.nil_append] at solid behind ⊢
      rw [matched.solid_iff]
      exact begins ((behind.1.solid_iff back).mp (solid dashed))
    | cons next front =>
      rw [List.cons_append] at solid behind ⊢
      rw [behind.1.solid_iff] at solid ⊢
      exact solid dashed

end Block

section Stripping

variable {tag : Tag} {template : String} {levels : Nat} {written : List Char}
  {front back : List Block} {block : Block} {tail : List Char}

theorem replaceBlocks_append :
    replaceBlocks tag template levels written (front ++ back) = (do
      let written ← replaceBlocks tag template levels written front
      replaceBlocks tag template levels written back) := by
  induction front generalizing written with
  | nil => rw [List.nil_append, replaceBlocks, pure_bind]
  | cons first front ih => simp only [List.cons_append, replaceBlocks, ih, bind_assoc]

def Block.strippedBefore (block : Block) (f : StatementForm) : Block :=
  { block with before := trimEnd block.before, opening := f.undashed.statement }

def Block.strippedBehind (block : Block) (f : StatementForm) : Block :=
  { block with closing := f.endUndashed.statement, dropped := [] }

theorem Block.Matches.strippedBefore {f : StatementForm} (same : block.opening = f.statement)
    (matched : block.Matches tag) : (block.strippedBefore f).Matches tag := by
  obtain ⟨settled, first, ⟨g, form, opens⟩, inner, balanced, closes, blank, kept⟩ := matched
  have name : f.undashed.statement.name = tag.name := by
    rw [f.undashed_name, ← same, form, opens]
  exact ⟨settled.trimEnd, by rwa [Block.strippedBefore, names_trimEnd], ⟨_, rfl, name⟩, inner,
    balanced, closes, blank, kept⟩

theorem Block.Matches.strippedBehind {f : StatementForm} (same : block.closing = f.statement)
    (matched : block.Matches tag) : (block.strippedBehind f).Matches tag := by
  obtain ⟨settled, first, opens, inner, balanced, ⟨g, form, closes⟩, blank, kept⟩ := matched
  have name : f.endUndashed.statement.name = tag.endName := by
    rw [f.endUndashed_name, ← same, form, closes]
  exact ⟨settled, first, opens, inner, balanced, ⟨_, rfl, name⟩, rfl, fun _ => rfl⟩

theorem Block.Chained.strippedBefore {f : StatementForm} (same : block.opening = f.statement)
    (chained : Block.Chained tag tail (front ++ block :: back)) :
    Block.Chained tag tail (front ++ block.strippedBefore f :: back) := by
  refine chained.swap (chained.of_append.1.strippedBefore same) (fun solid => ?_) id
  change Solid (trimEnd block.before ++ f.undashed.source)
  by_cases empty : trimEnd block.before = []
  · rw [empty, List.nil_append, ← List.append_nil f.undashed.source]
    exact solid_form_append _ []
  · have nonempty : block.before ≠ [] := by
      intro none_
      rw [none_] at empty
      exact empty rfl
    rw [solid_append nonempty] at solid
    exact (solid_append empty).mpr solid.trimEnd

theorem Block.Chained.strippedBehind {f : StatementForm} (same : block.closing = f.statement)
    (dashed : f.statement.trimAfter = true)
    (chained : Block.Chained tag tail (front ++ block :: back)) :
    Block.Chained tag tail (front ++ block.strippedBehind f :: back) :=
  chained.swap (chained.of_append.1.strippedBehind same) id fun _ => same ▸ dashed

theorem expandBlocks_zero {source : List Char} {blocks : List Block}
    (cut : cutBlocks tag source = (blocks, tail)) (nonempty : blocks ≠ []) :
    expandBlocks tag template 0 written source = throw (tag.tooDeep template) := by
  cases opened : opening? tag source with
  | none =>
    rw [cutBlocks_of_no_opening opened] at cut
    cases cut
    exact absurd rfl nonempty
  | some parts => exact expandBlocks_too_deep opened

theorem expandBlocks_of_cut {source source' : List Char} {blocks blocks' : List Block}
    (cut : cutBlocks tag source = (blocks, tail)) (cut' : cutBlocks tag source' = (blocks', tail))
    (nonempty : blocks ≠ []) (nonempty' : blocks' ≠ [])
    (same : ∀ levels, replaceBlocks tag template levels written blocks' =
      replaceBlocks tag template levels written blocks) :
    expandBlocks tag template levels written source' =
      expandBlocks tag template levels written source := by
  cases levels with
  | zero => rw [expandBlocks_zero cut nonempty, expandBlocks_zero cut' nonempty']
  | succ levels =>
    rw [expandBlocks_eq_replaceBlocks, expandBlocks_eq_replaceBlocks, cut, cut', same]

theorem replaceBlocks_strippedBefore {f : StatementForm} (same : block.opening = f.statement)
    (dashed : f.dash = true) (apart : written = [] ∨ allBlank block.before = false) :
    replaceBlocks tag template levels written (block.strippedBefore f :: back) =
      replaceBlocks tag template levels written (block :: back) := by
  have kept : keptBefore f.undashed.statement (written ++ trimEnd block.before) =
      keptBefore f.statement (written ++ block.before) := by
    rw [keptBefore, keptBefore, if_neg (by simp [StatementForm.statement, StatementForm.undashed]),
      if_pos (show f.statement.trimBefore = true from dashed)]
    rcases apart with rfl | solid
    · rfl
    · rw [trimEnd_append, if_neg (by simp [solid])]
  rw [replaceBlocks, replaceBlocks, same]
  simp only [Block.strippedBefore, kept, f.undashed_arguments]

theorem closing?_of_name_eq (same : tag.endName = tag.name) (level : Nat) (text : List Char) :
    closing? tag level text = none := by
  induction hn : text.length using Nat.strongRecOn generalizing level text with
  | ind n ih =>
    rw [closing?]
    split
    · rfl
    · rename_i located rest found
      have shorter := Statement.first?_rest_lt found
      have later (level : Nat) := ih rest.length (by omega) level rest rfl
      simp only [later, Option.map_none, same]
      split
      · rfl
      · rfl

theorem different_of_cut {source : List Char}
    (cut : cutBlocks tag source = (front ++ block :: back, tail)) : tag.endName ≠ tag.name := by
  intro same
  have nothing : (cutBlocks tag source).1 = [] := by
    cases opened : opening? tag source with
    | none => rw [cutBlocks_of_no_opening opened]
    | some parts => rw [cutBlocks_unclosed opened (closing?_of_name_eq same 0 _)]
  rw [cut] at nothing
  simp at nothing

variable {pre post : List Char} {f : StatementForm}

/-- A dash at the start of a block does as much as the deletion of the dash and of the blanks there,
    unless nothing but blanks stands between the block and the one before it. -/
theorem expandBlocks_deletedBefore
    (cut : cutBlocks tag (pre ++ f.source ++ post) = (front ++ block :: back, tail))
    (place : pre = front.flatMap Block.source ++ block.before)
    (opens : block.opening = f.statement) (dashed : f.dash = true)
    (apart : front = [] ∨ allBlank block.before = false) :
    expandBlocks tag template levels [] (f.deletedBefore pre post) =
      expandBlocks tag template levels [] (pre ++ f.source ++ post) := by
  have different := different_of_cut cut
  have chained := Block.chained_of_cut different cut
  have whole := cutBlocks_source tag (pre ++ f.source ++ post)
  rw [cut, ← Block.sources, Block.sources_append_cons, opens, place] at whole
  have behind : block.body ++ block.closing.source ++ block.dropped ++ Block.sources back tail =
      post := by
    simpa [show f.statement.source = f.source from rfl] using whole
  have trimmed : trimEnd pre = front.flatMap Block.source ++ trimEnd block.before := by
    rw [place]
    rcases apart with rfl | solid
    · rfl
    · rw [trimEnd_append, if_neg (by simp [solid])]
  have stripped : Block.sources (front ++ block.strippedBefore f :: back) tail =
      f.deletedBefore pre post := by
    rw [Block.sources_append_cons, StatementForm.deletedBefore, trimmed, ← behind]
    simp [Block.strippedBefore, show f.undashed.statement.source = f.undashed.source from rfl]
  rw [← stripped]
  refine expandBlocks_of_cut cut ((chained.strippedBefore opens).cut different) (by simp) (by simp)
    fun levels => ?_
  rw [replaceBlocks_append, replaceBlocks_append]
  rcases apart with rfl | solid
  · simp only [replaceBlocks, pure_bind]
    exact replaceBlocks_strippedBefore opens dashed (Or.inl rfl)
  · exact bind_congr fun written => replaceBlocks_strippedBefore opens dashed (Or.inr solid)

/-- A dash at the end of a block does as much as the deletion of the dash and of the blanks
    there. -/
theorem expandBlocks_deletedBehind
    (cut : cutBlocks tag (pre ++ f.source ++ post) = (front ++ block :: back, tail))
    (place : pre = front.flatMap Block.source ++ block.before ++ block.opening.source ++ block.body)
    (closes : block.closing = f.statement) (dashed : f.statement.trimAfter = true) :
    expandBlocks tag template levels written (f.deletedBehind pre post) =
      expandBlocks tag template levels written (pre ++ f.source ++ post) := by
  have different := different_of_cut cut
  have chained := Block.chained_of_cut different cut
  have whole := cutBlocks_source tag (pre ++ f.source ++ post)
  rw [cut, ← Block.sources, Block.sources_append_cons, closes, place] at whole
  have behind : block.dropped ++ Block.sources back tail = post := by
    simpa [show f.statement.source = f.source from rfl] using whole
  obtain ⟨matched, solid, -⟩ := chained.of_append
  have trimmed : trimStart post = Block.sources back tail := by
    have left := matched.leftBehind solid
    rwa [leftBehind, closes, if_pos dashed, behind] at left
  have stripped : Block.sources (front ++ block.strippedBehind f :: back) tail =
      f.deletedBehind pre post := by
    rw [Block.sources_append_cons, StatementForm.deletedBehind, trimmed, place]
    simp [Block.strippedBehind, show f.endUndashed.statement.source = f.endUndashed.source from rfl]
  rw [← stripped]
  refine expandBlocks_of_cut cut ((chained.strippedBehind closes dashed).cut different) (by simp)
    (by simp) fun levels => ?_
  rw [replaceBlocks_append, replaceBlocks_append]
  rfl

end Stripping

end TopicWiki.Template
