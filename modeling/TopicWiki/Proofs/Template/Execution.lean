import TopicWiki.Proofs.Template.Evaluation

namespace TopicWiki.Template

open Dialogue

variable {M : State → State → Prop} [IsPreorder State M] {shown : RenderScope}

/-- A run whose variables show the scope of the running render, with no template ahead that hides
    it. -/
structure Progress.Shows (shown : RenderScope) (p : Progress) : Prop where
  frames : FramesShow shown p.frames
  blocks : ∀ block ∈ p.blocks, spareAll block.2 = true
  parent : ∀ nodes ∈ p.parent?, spareAll nodes = true

def ShowsIn (shown : RenderScope) (count : Nat) (p : Progress) : Prop :=
  p.Shows shown ∧ p.frames.length = count

namespace ShowsIn

variable {count : Nat} {p q : Progress}

theorem positive (shows_ : ShowsIn shown count p) : 0 < count :=
  shows_.2 ▸ List.length_pos_iff.mpr shows_.1.frames.ne_nil

theorem write (shows_ : ShowsIn shown count p) (text : String) :
    ShowsIn shown count (p.write text) := by
  unfold Progress.write
  split
  · exact shows_
  · exact ⟨⟨shows_.1.frames, shows_.1.blocks, shows_.1.parent⟩, shows_.2⟩

theorem assign (shows_ : ShowsIn shown count p) {name : String} (other : name ≠ scopeVariable)
    (value : Value) : ShowsIn shown count (p.assign name value) := by
  obtain ⟨visible, length⟩ := shows_
  cases frames : p.frames with
  | nil => exact absurd frames visible.frames.ne_nil
  | cons frame rest =>
    have framesShow := visible.frames
    rw [frames] at framesShow length
    have assigned : p.assign name value = { p with frames := frame.insert name value :: rest } := by
      simp [Progress.assign, frames]
    rw [assigned]
    exact ⟨⟨framesShow.insert other value, visible.blocks, visible.parent⟩, length⟩

theorem pushFrame (shows_ : ShowsIn shown count p) (pushed : pushFrame p = .ok q) :
    ShowsIn shown (count + 1) q := by
  obtain ⟨visible, length⟩ := shows_
  unfold Template.pushFrame at pushed
  split at pushed
  · cases pushed
  · cases pushed
    exact ⟨⟨visible.frames.push, visible.blocks, visible.parent⟩, by simp [length]⟩

theorem popFrame (shows_ : ShowsIn shown (count + 1) q) (positive : 0 < count) :
    ShowsIn shown count (popFrame q) := by
  obtain ⟨visible, length⟩ := shows_
  refine ⟨⟨visible.frames.pop (by omega), visible.blocks, visible.parent⟩, ?_⟩
  rw [Template.popFrame, List.length_tail]
  omega

/-- The body a named block is run with is that of the template that extends the others most. -/
theorem block_spares (shows_ : ShowsIn shown count p) (name : String) (body : List Node)
    (spares : spareAll body = true) :
    spareAll (((p.blocks.find? fun entry => entry.1 = name).map Prod.snd).getD body) = true := by
  cases found : p.blocks.find? fun entry => entry.1 = name with
  | none => exact spares
  | some block => exact shows_.1.blocks block (List.mem_of_find?_eq_some found)

end ShowsIn

theorem pushFrame_told {pre : Prop} {count : Nat} {p : Progress}
    (shows_ : pre → ShowsIn shown count p) :
    Told M shown pre (ShowsIn shown (count + 1)) fun _ => liftM (pushFrame p) :=
  .ofExcept fun _ pushed holds => (shows_ holds).pushFrame pushed

def BlocksTold (M : State → State → Prop) (shown : RenderScope)
    (f : Services → List Node → Progress → EngineM Progress) : Prop :=
  ∀ count nodes p, Told M shown (spareAll nodes = true ∧ ShowsIn shown count p)
    (ShowsIn shown count) fun services => f services nodes p

def InclusionsTold (M : State → State → Prop) (shown : RenderScope) (f : Services → Inclusion) :
    Prop :=
  ∀ count name p, Told M shown (ShowsIn shown count p) (ShowsIn shown count) fun services =>
    f services name p

theorem extendTemplate_told (machine : Machine) (count : Nat) (p : Progress) (name : Value) :
    Told M shown (ShowsIn shown count p) (ShowsIn shown count) fun services =>
      extendTemplate (machine.serving services) p name := by
  unfold extendTemplate
  simp only
  split
  · exact .throw_bind
  · cases name.string? with
    | none => exact .throw
    | some name =>
      simp only
      split
      · exact .throw_bind
      · refine .bind (.load name) fun parent => .pure ?_
        rintro ⟨⟨visible, length⟩, spares⟩
        refine ⟨⟨visible.frames, ?_, ?_⟩, length⟩
        · intro block member
          rcases List.mem_append.mp member with member | member
          · exact visible.blocks block member
          · exact spareAll_blocks parent spares block member
        · rintro nodes ⟨⟩
          exact spares

section

set_option linter.unusedSectionVars false

variable {machine : Machine} {template : String} {f : Services → Inclusion}
  {runBlock : Services → List Node → Progress → EngineM Progress}
  (moves : machine.Moves M) (inclusions : InclusionsTold M shown f)
  (blocks : BlocksTold M shown runBlock)

include moves inclusions blocks

mutual
theorem run_told : (count : Nat) → (node : Node) → (p : Progress) →
    Told M shown (node.spares = true ∧ ShowsIn shown count p) (ShowsIn shown count) fun services =>
      run (machine.serving services) template (f services) (runBlock services) node p
  | count, .text source, p => by
    simp only [run]
    exact .pure fun given => given.2.write source
  | count, .print expr, p => by
    simp only [run, printValue, Machine.serving_autoescape]
    refine .bind ((Scope.eval_told moves expr).given fun given => given.2.1.frames) fun v => ?_
    exact .bind .get fun s => .pure fun given => given.1.1.2.write _
  | count, .ifElse condition then_ else_, p => by
    simp only [run, Node.spares, Bool.and_eq_true]
    refine .bind ((Scope.eval_told moves condition).given fun given => given.2.1.frames) fun v => ?_
    split
    · exact (runAll_told count then_ p).given fun given => ⟨given.1.1.1, given.1.2⟩
    · exact (runAll_told count else_ p).given fun given => ⟨given.1.1.2, given.1.2⟩
  | count, .forIn target items body else_, p => by
    simp only [run, Node.spares, Bool.and_eq_true, bne_iff_ne]
    refine .bind ((Scope.eval_told moves items).given fun given => given.2.1.frames) fun v => ?_
    cases v.items? with
    | none => exact .throw
    | some items =>
      refine .bind (.discard (pushFrame_told fun given => given.1.2)) fun _ => ?_
      refine .bind (.foldlM (ShowsIn shown count) ?_ fun given => given.1.1.2) ?_
      · intro q item
        refine .bind (pushFrame_told fun given => given.2) fun q' => ?_
        refine .bind ((runAll_told (count + 1) body (q'.assign target item)).given ?_) fun _ => ?_
        · rintro ⟨⟨⟨⟨⟨⟨⟨other, sparesBody⟩, -⟩, -⟩, -⟩, -⟩, -⟩, visible⟩
          exact ⟨sparesBody, visible.assign other item⟩
        · exact .pure fun given => given.2.popFrame given.1.1.2.positive
      · intro q
        split
        · exact (runAll_told count else_ q).given fun given => ⟨given.1.1.1.1.2, given.2⟩
        · exact .pure fun given => given.2
  | count, .assign target value, p => by
    simp only [run, Node.spares, bne_iff_ne]
    refine .bind ((Scope.eval_told moves value).given fun given => given.2.1.frames) fun v => ?_
    exact .pure fun given => given.1.2.assign given.1.1 v
  | count, .withNames bindings body, p => by
    simp only [run, Node.spares, Bool.and_eq_true]
    refine .bind (pushFrame_told fun given => given.2) fun q => ?_
    refine .bind ((bindAll_told (count + 1) bindings q).given ?_) fun q' => ?_
    · exact fun given => ⟨given.1.1.1, given.2⟩
    refine .bind ((runAll_told (count + 1) body q').given ?_) fun _ => ?_
    · exact fun given => ⟨given.1.1.1.2, given.2⟩
    · exact .pure fun given => given.2.popFrame given.1.1.1.2.positive
  | count, .insert expr, p => by
    simp only [run]
    refine .bind ((Scope.eval_told moves expr).given fun given => given.2.1.frames) fun v => ?_
    refine .bind (.of_quiet (Fallible.moves_ofExcept _)) fun name? => ?_
    cases name? with
    | none => exact .pure fun given => given.1.1.2
    | some name => exact (inclusions count name p).given fun given => given.1.1.2
  | count, .extend expr, p => by
    simp only [run]
    refine .bind ((Scope.eval_told moves expr).given fun given => given.2.1.frames) fun v => ?_
    exact (extendTemplate_told machine count p v).given fun given => given.1.2
  | count, .block name body, p => by
    simp only [run, Node.spares]
    split
    · exact .pure fun given => given.2
    · refine .bind (pushFrame_told fun given => given.2) fun q => ?_
      refine .bind ((blocks (count + 1) _ q).given ?_) fun q' => ?_
      · exact fun given => ⟨given.1.2.block_spares name body given.1.1, given.2⟩
      · exact .pure fun given => given.2.popFrame given.1.1.2.positive

theorem runAll_told : (count : Nat) → (nodes : List Node) → (p : Progress) →
    Told M shown (spareAll nodes = true ∧ ShowsIn shown count p) (ShowsIn shown count)
      fun services =>
        runAll (machine.serving services) template (f services) (runBlock services) nodes p
  | count, [], p => by
    simp only [runAll]
    exact .pure fun given => given.2
  | count, node :: rest, p => by
    simp only [runAll, spareAll, Bool.and_eq_true]
    refine .bind ((run_told count node p).given fun given => ⟨given.1.1, given.2⟩) fun q => ?_
    exact (runAll_told count rest q).given fun given => ⟨given.1.1.2, given.2⟩

theorem bindAll_told : (count : Nat) → (bindings : List (String × Expr)) → (p : Progress) →
    Told M shown ((bindings.all fun binding => binding.1 != scopeVariable) = true ∧
        ShowsIn shown count p) (ShowsIn shown count) fun services =>
      bindAll (machine.serving services) template (f services) bindings p
  | count, [], p => by
    simp only [bindAll]
    exact .pure fun given => given.2
  | count, (name, expr) :: rest, p => by
    simp only [bindAll, List.all_cons, Bool.and_eq_true, bne_iff_ne]
    refine .bind ((Scope.eval_told moves expr).given fun given => given.2.1.frames) fun v => ?_
    exact (bindAll_told count rest _).given fun given =>
      ⟨given.1.1.2, given.1.2.assign given.1.1.1 v⟩
end

end

section

set_option linter.unusedSectionVars false

variable {machine : Machine} {template : String} {f : Services → Inclusion}
  (moves : machine.Moves M) (inclusions : InclusionsTold M shown f)

include moves inclusions

theorem runNodes_told (levels : Nat) : BlocksTold M shown fun services =>
    runNodes (machine.serving services) template (f services) levels := by
  induction levels with
  | zero => exact fun count nodes p => .throw
  | succ levels ih => exact fun count nodes p => runAll_told moves inclusions ih count nodes p

theorem continueWith_told {g : Services → List Node → Progress → EngineM Progress}
    (next : BlocksTold M shown g) (count : Nat) (p : Progress) :
    Told M shown (ShowsIn shown count p) (ShowsIn shown count) fun services =>
      continueWith (g services) p := by
  unfold continueWith
  cases extended : p.parent? with
  | none => exact .pure fun visible => visible
  | some parent =>
    refine (next count parent { p with parent? := none }).given ?_
    rintro ⟨visible, length⟩
    exact ⟨visible.parent parent extended, ⟨visible.frames, visible.blocks, by simp⟩, length⟩

theorem runChain_told (extensions : Nat) : BlocksTold M shown fun services =>
    runChain (machine.serving services) template (f services) extensions := by
  induction extensions with
  | zero =>
    intro count nodes p
    simp only [runChain]
    refine .bind (runNodes_told moves inclusions _ count nodes p) fun q => ?_
    have stopped : BlocksTold M shown fun _ _ _ => throw tooDeep := fun _ _ _ => .throw
    exact (continueWith_told moves inclusions stopped count q).given And.right
  | succ extensions ih =>
    intro count nodes p
    simp only [runChain]
    refine .bind (runNodes_told moves inclusions _ count nodes p) fun q => ?_
    exact (continueWith_told moves inclusions ih count q).given And.right

end

theorem runIncluded_told {machine : Machine} (moves : machine.Moves M) (levels : Nat) :
    InclusionsTold M shown fun services => runIncluded (machine.serving services) levels := by
  induction levels with
  | zero => exact fun count name p => .throw
  | succ levels ih =>
    intro count name p
    simp only [runIncluded]
    refine .bind (.load name) fun nodes => ?_
    split
    · exact .throw_bind
    · refine .bind .get fun s => ?_
      refine .bind (.adapt ((runChain_told moves ih _ count nodes _).given ?_) ?_) fun q => .pure ?_
      · rintro ⟨⟨⟨visible, length⟩, spares⟩, -⟩
        exact ⟨spares, ⟨visible.frames, spareAll_blocks nodes spares, by simp⟩, length⟩
      · exact fun base e wrapped => .included name wrapped
      · rintro ⟨⟨⟨⟨visible, -⟩, -⟩, -⟩, included, length⟩
        have back : ShowsIn shown count { p with frames := q.frames } :=
          ⟨⟨included.frames, visible.blocks, visible.parent⟩, length⟩
        exact back.write q.written

/-- The run of a document is a dialogue. It asks for nothing but renders within the one that its
    variables show. -/
theorem runDocument_told {machine : Machine} (moves : machine.Moves M) (template : String)
    (nodes : List Node) (bindings : Dictionary Value) :
    Told M shown (spareAll nodes = true ∧
        bindings.find? scopeVariable = some (.view (.scope shown))) anything fun services =>
      runDocument (machine.serving services) template nodes bindings := by
  unfold runDocument
  refine .bind .get fun s => ?_
  have ran : BlocksTold M shown fun services => runChain (machine.serving services) template
      (runIncluded (machine.serving services) maxIncludes) (State.extensionBound s) :=
    runChain_told moves (runIncluded_told moves maxIncludes) _
  refine .bind ((ran 1 nodes _).given ?_) fun p => .value
  rintro ⟨⟨spares, bound⟩, -⟩
  exact ⟨spares, ⟨bound, spareAll_blocks nodes spares, by simp⟩, rfl⟩

end TopicWiki.Template
