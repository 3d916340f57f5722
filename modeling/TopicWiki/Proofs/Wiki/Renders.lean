import TopicWiki.Proofs.Extension.Installation

namespace TopicWiki

open Template Dialogue

namespace Renderer

variable {r : Renderer} {M : State → State → Prop}

structure Moves (M : State → State → Prop) (r : Renderer) : Prop where
  engine : r.engine.Moves M
  hooks : ∀ extension ∈ r.extensions, ∀ render bindings,
    Running.Moves M (extension.setupContext render bindings)

structure Calm (r : Renderer) : Prop where
  engine : r.engine.Calm
  hooks : ∀ extension ∈ r.extensions, ∀ render bindings,
    Running.Keeps r.engine (extension.setupContext render bindings)

theorem moves_setupAll [IsPreorder State M] {extensions : List Extension}
    (hooks : ∀ extension ∈ extensions, ∀ render bindings,
      Running.Moves M (extension.setupContext render bindings))
    (render : ActiveRender) (bindings : Dictionary Value) :
    Running.Moves M (setupAll render bindings extensions) := by
  induction extensions generalizing bindings with
  | nil => exact Running.moves_pure
  | cons extension rest ih =>
    refine Running.moves_bind (hooks extension List.mem_cons_self render bindings) fun changed => ?_
    exact ih (fun other member => hooks other (List.mem_cons_of_mem extension member)) changed

theorem moves_contextFor [IsPreorder State M] (quiet : ∀ s s', Undisturbed s s' → M s s')
    (hooks : ∀ extension ∈ r.extensions, ∀ render bindings,
      Running.Moves M (extension.setupContext render bindings)) (topic : TopicId) :
    Fallible.Moves M (r.contextFor topic) := by
  have looked : Fallible.Moves M (liftM (State.categoryOf topic) : RenderM (Option CategoryId)) :=
    Fallible.moves_lift ((State.quiet_categoryOf topic).mono quiet)
  refine Fallible.moves_bind looked ?_
  intro category?
  cases category? with
  | none => exact Fallible.moves_bind Fallible.moves_get fun _ => Fallible.moves_throw
  | some category =>
    refine Fallible.moves_bind (Fallible.moves_lift (moves_setupAll hooks _ _)) ?_
    exact fun _ => Fallible.moves_pure

/-- All that extensions and lookups may do to the state: whatever moves it as all of them do. -/
def Acts (r : Renderer) (s s' : State) : Prop :=
  ∀ M : State → State → Prop, IsPreorder State M → (∀ s s', Undisturbed s s' → M s s') →
    r.Moves M → M s s'

instance (r : Renderer) : IsPreorder State r.Acts where
  refl s _ preorder _ _ := preorder.refl s
  trans s s' s'' first second M preorder quiet moves :=
    preorder.trans s s' s'' (first M preorder quiet moves) (second M preorder quiet moves)

theorem acts_of_undisturbed {s s' : State} (undisturbed : Undisturbed s s') : r.Acts s s' :=
  fun _ _ quiet _ => quiet s s' undisturbed

theorem moves_acts (r : Renderer) : r.Moves r.Acts where
  engine :=
    { functions := fun entry member site arguments s _ _ _ moves =>
        moves.engine.functions entry member site arguments s
      filters := fun entry member site arguments s _ _ _ moves =>
        moves.engine.filters entry member site arguments s
      tests := fun entry member site arguments s _ _ _ moves =>
        moves.engine.tests entry member site arguments s }
  hooks extension member render bindings s _ _ _ moves :=
    moves.hooks extension member render bindings s

theorem Moves.machine (moves : r.Moves M) (quiet : ∀ s s', Undisturbed s s' → M s s')
    (nested : View.Nested) : (r.engine.machine r.site nested).Moves M where
  quiet := quiet
  functions _ _ found := moves.engine.functions.find? found
  filters _ _ found := moves.engine.filters.find? found
  tests _ _ found := moves.engine.tests.find? found

def renderVia (r : Renderer) (nested : View.Nested) : View.Nested := fun parent? topic => do
  let context ← r.contextFor topic
  let stack := (parent?.map RenderScope.stack).getD []
  r.renderContext nested { context with scope := { context.scope with stack } }

theorem renderWithin_succ (fuel : Nat) :
    r.renderWithin (fuel + 1) = r.renderVia (r.renderWithin fuel) :=
  rfl

/-- What becomes of a request until its document is known: its context, in the scope of the renders
    around it. -/
def Opens (r : Renderer) (q : Request) (context : Context) (s : State) : Prop :=
  ∃ fresh, (r.contextFor q.topic).run.run q.state = (.ok fresh, s) ∧
    context = { fresh with scope := { fresh.scope with stack := q.stack } }

theorem Opens.stack {q : Request} {context : Context} {s : State} (opens : r.Opens q context s) :
    context.scope.stack = q.stack := by
  obtain ⟨fresh, -, rfl⟩ := opens
  rfl

theorem Opens.answer {q : Request} {context : Context} {s : State} (opens : r.Opens q context s)
    (nested : View.Nested) :
    q.answer (r.renderVia nested) = (r.renderContext nested context).run.run s := by
  obtain ⟨fresh, opened, rfl⟩ := opens
  exact Fallible.run_bind_of_ok opened

theorem guard_of_mem {name : String} {stack : List String} (active : name ∈ stack) :
    guard name stack = .error (.cycle name) := by
  unfold guard
  rw [if_pos (List.contains_iff_mem.mpr active)]

theorem guard_of_full {name : String} {stack : List String} (fresh : name ∉ stack)
    (full : stack.length = maxRenderDepth) :
    guard name stack = .error (.depth name maxRenderDepth) := by
  unfold guard
  rw [if_neg (mt List.contains_iff_mem.mp fresh), if_pos (Nat.le_of_eq full.symm)]

theorem guard_passes {name : String} {stack : List String} (passed : guard name stack = .ok ()) :
    name ∉ stack ∧ stack.length < maxRenderDepth := by
  unfold guard at passed
  split at passed
  · cases passed
  · rename_i fresh
    split at passed
    · cases passed
    · rename_i few
      exact ⟨fun active => fresh (List.contains_iff_mem.mpr active), Nat.lt_of_not_le few⟩

theorem renderContext_of_unnamed {context : Context} {s : State} {fault : RenderError}
    (unnamed : contextName s context = .error fault) (nested : View.Nested) :
    (r.renderContext nested context).run.run s = (.error fault, s) := by
  have started : (get : RenderM State).run.run s = (.ok s, s) := rfl
  have stopped : (liftM (contextName s context) : RenderM String).run.run s =
      (.error fault, s) := by
    rw [unnamed]
    rfl
  unfold renderContext
  rw [Fallible.run_bind_of_ok started, Fallible.run_bind_of_error stopped]

theorem renderContext_of_known {context : Context} {s : State} {name output : String}
    (named : contextName s context = .ok name) (known : s.outputs.find? name = some output)
    (nested : View.Nested) :
    (r.renderContext nested context).run.run s =
      (.ok output,
        ((State.note .trace ("output cache hit for '" ++ name ++ "'")).run s).2) := by
  have started : (get : RenderM State).run.run s = (.ok s, s) := rfl
  have found : (liftM (contextName s context) : RenderM String).run.run s = (.ok name, s) := by
    rw [named]
    rfl
  unfold renderContext
  rw [Fallible.run_bind_of_ok started, Fallible.run_bind_of_ok found]
  simp only [known]
  rfl

theorem renderContext_of_refused {context : Context} {s : State} {name : String}
    {fault : RenderError} (named : contextName s context = .ok name)
    (unknown : s.outputs.find? name = none)
    (refused : guard name context.scope.stack = .error fault) (nested : View.Nested) :
    (r.renderContext nested context).run.run s = (.error fault, s) := by
  have started : (get : RenderM State).run.run s = (.ok s, s) := rfl
  have found : (liftM (contextName s context) : RenderM String).run.run s = (.ok name, s) := by
    rw [named]
    rfl
  have stopped : (liftM (guard name context.scope.stack) : RenderM Unit).run.run s =
      (.error fault, s) := by
    rw [refused]
    rfl
  unfold renderContext
  rw [Fallible.run_bind_of_ok started, Fallible.run_bind_of_ok found]
  simp only [unknown]
  rw [Fallible.run_bind_of_error stopped]

theorem quiet_documentSource (scope : RenderScope) : Fallible.Quiet (documentSource scope) := by
  refine Fallible.moves_bind Fallible.moves_get fun s => ?_
  refine Fallible.moves_bind (Fallible.moves_lift (State.quiet_readText _)) fun category => ?_
  refine Fallible.moves_bind (Fallible.moves_lift (State.quiet_reading _)) fun outcome => ?_
  cases outcome with
  | error fault => exact Fallible.moves_throw
  | ok text => exact Fallible.moves_pure

def sourceIn (s : State) (scope : RenderScope) : Option String :=
  (s.topicDocument scope.topic).text?.map
    (joinSource ((s.categoryDocument scope.category).text?.getD ""))

theorem documentSource_ok {scope : RenderScope} {s s' : State} {source : String}
    (found : (documentSource scope).run.run s = (.ok source, s')) :
    sourceIn s scope = some source := by
  let category := s.categoryDocument scope.category
  let topic := s.topicDocument scope.topic
  have started : (get : RenderM State).run.run s = (.ok s, s) := rfl
  have first : (liftM (State.readText category) : RenderM String).run.run s =
      (.ok (category.text?.getD ""), ((State.readText category).run s).2) := by
    rw [← State.readText_result category s]
    rfl
  have second (s : State) : (liftM (State.reading (topic.text .all .all)) :
      RenderM (Except ContentError String)).run.run s =
        (.ok (topic.text .all .all).1, ((State.reading (topic.text .all .all)).run s).2) := by
    rw [← State.reading_result (topic.text .all .all) s]
    rfl
  unfold documentSource at found
  rw [Fallible.run_bind_of_ok started, Fallible.run_bind_of_ok first,
    Fallible.run_bind_of_ok (second _)] at found
  cases held : topic.text? with
  | none =>
    have missing : (topic.text .all .all).1 =
        .error ⟨.missing, topic.ident, "no text has been set"⟩ := by
      rw [Document.text, held]
      rfl
    rw [missing] at found
    cases found
  | some text =>
    have present : (topic.text .all .all).1 = .ok text := by
      rw [Document.text, held]
    rw [present] at found
    have same : joinSource (category.text?.getD "") text = source :=
      Except.ok.inj (Prod.mk.inj found).1
    exact (congrArg (Option.map _) held).trans (congrArg some same)

theorem renderContext_of_sourceless {context : Context} {s s' : State} {name : String}
    {fault : RenderError} (named : contextName s context = .ok name)
    (unknown : s.outputs.find? name = none) (passed : guard name context.scope.stack = .ok ())
    (sourceless : (documentSource context.scope).run.run s = (.error fault, s'))
    (nested : View.Nested) :
    (r.renderContext nested context).run.run s = (.error fault, s') := by
  have started : (get : RenderM State).run.run s = (.ok s, s) := rfl
  have found : (liftM (contextName s context) : RenderM String).run.run s = (.ok name, s) := by
    rw [named]
    rfl
  have entered : (liftM (guard name context.scope.stack) : RenderM Unit).run.run s =
      (.ok (), s) := by
    rw [passed]
    rfl
  unfold renderContext
  rw [Fallible.run_bind_of_ok started, Fallible.run_bind_of_ok found]
  simp only [unknown]
  rw [Fallible.run_bind_of_ok entered, Fallible.run_bind_of_error sourceless]

/-- The render of a context gets as far as to give its document a source. -/
structure Drafts (context : Context) (name source : String) (s s' : State) : Prop where
  named : contextName s context = .ok name
  unknown : s.outputs.find? name = none
  passed : guard name context.scope.stack = .ok ()
  sourced : ∃ s₁, (documentSource context.scope).run.run s = (.ok source, s₁) ∧
    s' = { s₁ with sources := s₁.sources.insert name source }

def script (r : Renderer) (context : Context) (name : String) (nodes : List Node)
    (services : Services) : EngineM String :=
  runDocument ((r.engine.machine r.site services.nested).serving services) name nodes
    (context.bindings.insert scopeVariable (.view (.scope (context.scope.entered name))))

def finish (r : Renderer) (name text : String) : RenderM String := do
  let html := r.site.converters.apply (← get).format text
  if r.outputCache = .store then State.setOutput name html
  State.note .debug ("rendered '" ++ name ++ "' (" ++ toString html.utf8ByteSize ++ " bytes)")
  return html

theorem Drafts.answer {context : Context} {name source : String} {s s' : State}
    (drafts : Drafts context name source s s') (nested : View.Nested) :
    (r.renderContext nested context).run.run s =
      (r.engine.prepare name >>= fun nodes =>
        ExceptT.adapt .ofEngine (r.script context name nodes ⟨nested, r.engine.load⟩) >>=
          r.finish name).run.run s' := by
  obtain ⟨s₁, sourced, rfl⟩ := drafts.sourced
  have started : (get : RenderM State).run.run s = (.ok s, s) := rfl
  have found : (liftM (contextName s context) : RenderM String).run.run s = (.ok name, s) := by
    rw [drafts.named]
    rfl
  have passed : (liftM (guard name context.scope.stack) : RenderM Unit).run.run s =
      (.ok (), s) := by
    rw [drafts.passed]
    rfl
  have kept : (liftM (State.setSource name source) : RenderM Unit).run.run s₁ =
      (.ok (), { s₁ with sources := s₁.sources.insert name source }) := rfl
  unfold renderContext
  rw [Fallible.run_bind_of_ok started, Fallible.run_bind_of_ok found]
  simp only [drafts.unknown]
  rw [Fallible.run_bind_of_ok passed, Fallible.run_bind_of_ok sourced,
    Fallible.run_bind_of_ok kept, Engine.render_eq, bind_assoc]
  rfl

/-- A render that does not get that far gives the output that is known, or it fails and leaves the
    state undisturbed, whatever renders other documents. -/
theorem settled_of_undrafted {context : Context} {s : State}
    (undrafted : ∀ name source s', ¬ Drafts context name source s s') :
    (∃ name html, contextName s context = .ok name ∧ s.outputs.find? name = some html) ∨
      ∃ fault s', Undisturbed s s' ∧
        (∀ name, contextName s context = .ok name → s.outputs.find? name = none) ∧
        ∀ (r : Renderer) nested,
          (r.renderContext nested context).run.run s = (.error fault, s') := by
  cases named : contextName s context with
  | error fault =>
    refine .inr ⟨fault, s, refl_of Undisturbed s, nofun, ?_⟩
    exact fun r nested => renderContext_of_unnamed named nested
  | ok name =>
    cases unknown : s.outputs.find? name with
    | some html => exact .inl ⟨name, html, rfl, unknown⟩
    | none =>
      have all (name' : String) (same : Except.ok (ε := RenderError) name = .ok name') :
          s.outputs.find? name' = none := by
        cases same
        exact unknown
      cases passed : guard name context.scope.stack with
      | error fault =>
        refine .inr ⟨fault, s, refl_of Undisturbed s, all, ?_⟩
        exact fun r nested => renderContext_of_refused named unknown passed nested
      | ok entered =>
        cases sourced : (documentSource context.scope).run.run s with
        | mk outcome s' =>
          cases outcome with
          | ok source => exact absurd ⟨named, unknown, passed, s', sourced, rfl⟩ (undrafted _ _ _)
          | error fault =>
            have quiet := quiet_documentSource context.scope s
            change Undisturbed s ((documentSource context.scope).run.run s).2 at quiet
            rw [sourced] at quiet
            refine .inr ⟨fault, s', quiet, all, ?_⟩
            exact fun r nested => renderContext_of_sourceless named unknown passed sourced nested

theorem Drafts.undisturbed {context : Context} {name source : String} {s s' : State}
    (drafts : Drafts context name source s s') :
    ∃ s₁, Undisturbed s s₁ ∧ s' = { s₁ with sources := s₁.sources.insert name source } := by
  obtain ⟨s₁, sourced, same⟩ := drafts.sourced
  have quiet := quiet_documentSource context.scope s
  change Undisturbed s ((documentSource context.scope).run.run s).2 at quiet
  rw [sourced] at quiet
  exact ⟨s₁, quiet, same⟩

theorem Drafts.prepare_undisturbed {context : Context} {name source : String} {s s' : State}
    (drafts : Drafts context name source s s') (e : Engine) :
    Undisturbed s' ((e.prepare name).run.run s').2 := by
  obtain ⟨s₁, -, same⟩ := drafts.undisturbed
  have known : s'.sources.find? name = some source := by
    rw [same]
    exact Dictionary.find?_insert_self _ _ _
  exact Engine.prepare_undisturbed known

theorem Drafts.answer_of_unprepared {context : Context} {name source : String} {s s' s'' : State}
    {fault : RenderError} (drafts : Drafts context name source s s')
    (unprepared : (r.engine.prepare name).run.run s' = (.error fault, s''))
    (nested : View.Nested) :
    (r.renderContext nested context).run.run s = (.error fault, s'') := by
  rw [drafts.answer, Fallible.run_bind_of_error unprepared]

theorem Drafts.answer_of_failed {context : Context} {name source : String} {s s' s'' t : State}
    {nodes : List Node} {nested : View.Nested} {e : EngineError}
    (drafts : Drafts context name source s s')
    (prepared : (r.engine.prepare name).run.run s' = (.ok nodes, s''))
    (failed : (r.script context name nodes ⟨nested, r.engine.load⟩).run.run s'' = (.error e, t)) :
    (r.renderContext nested context).run.run s = (.error (.ofEngine e), t) := by
  rw [drafts.answer, Fallible.run_bind_of_ok prepared,
    Fallible.run_bind_of_error (Fallible.run_adapt_of_error failed _)]

theorem Drafts.answer_of_written {context : Context} {name source text : String}
    {s s' s'' t : State} {nodes : List Node} {nested : View.Nested}
    (drafts : Drafts context name source s s')
    (prepared : (r.engine.prepare name).run.run s' = (.ok nodes, s''))
    (written : (r.script context name nodes ⟨nested, r.engine.load⟩).run.run s'' = (.ok text, t)) :
    (r.renderContext nested context).run.run s = (r.finish name text).run.run t := by
  rw [drafts.answer, Fallible.run_bind_of_ok prepared,
    Fallible.run_bind_of_ok (Fallible.run_adapt_of_ok written _)]

def published (r : Renderer) (name html : String) (s : State) : State :=
  if r.outputCache = .store then { s with outputs := s.outputs.insert name html } else s

theorem finish_run (name text : String) (s : State) :
    ∃ s', (r.finish name text).run.run s = (.ok (r.site.converters.apply s.format text), s') ∧
      Undisturbed (r.published name (r.site.converters.apply s.format text) s) s' := by
  let html := r.site.converters.apply s.format text
  let message := "rendered '" ++ name ++ "' (" ++ toString html.utf8ByteSize ++ " bytes)"
  have noted := State.quiet_note .debug message (r.published name html s)
  refine ⟨((State.note .debug message).run (r.published name html s)).2, ?_, noted⟩
  have started : (get : RenderM State).run.run s = (.ok s, s) := rfl
  unfold finish
  rw [Fallible.run_bind_of_ok started]
  unfold published
  simp only
  split
  · rfl
  · rfl

end Renderer

end TopicWiki
