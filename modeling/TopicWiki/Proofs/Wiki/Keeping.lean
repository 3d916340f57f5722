import TopicWiki.Proofs.Template.Execution

namespace TopicWiki

open Template

theorem Fallible.adapt_bind {α β ε δ : Type} (x : Fallible ε α) (f : α → Fallible ε β)
    (g : ε → δ) : (x >>= f).adapt g = x.adapt g >>= fun a => (f a).adapt g := by
  funext s
  change ((x >>= f).adapt g).run.run s = (x.adapt g >>= fun a => (f a).adapt g).run.run s
  rw [run_adapt]
  cases ran : x.run.run s with
  | mk outcome s' =>
    cases outcome with
    | error fault =>
      rw [run_bind_of_error ran, run_bind_of_error (run_adapt_of_error ran g)]
      rfl
    | ok a =>
      rw [run_bind_of_ok ran, run_bind_of_ok (run_adapt_of_ok ran g)]
      rfl

namespace Engine

variable {e : Engine}

def prepare (e : Engine) (name : String) : RenderM (List Node) := do
  if !e.hasLoader then throw (.config .noLoader)
  let source ← (State.resolveSource name).adapt .loader
  let source ← (e.transform name source).adapt .tag
  (liftM (read source) : EngineM (List Node)).adapt .ofEngine

theorem render_eq (site : Site) (nested : View.Nested) (name : String)
    (bindings : Dictionary Value) (scope : RenderScope) :
    e.render site nested name bindings scope =
      e.prepare name >>= fun nodes => ExceptT.adapt .ofEngine
        (runDocument (e.machine site nested) name nodes
          (bindings.insert scopeVariable (.view (.scope scope)))) := by
  unfold render prepare
  simp only
  split
  · rfl
  · simp only [Fallible.adapt_bind, bind_assoc]

theorem quiet_transform (template source : String) :
    Fallible.Quiet (e.transform template source) :=
  fun _ => ⟨⟨rfl, rfl, fun _ => rfl, fun _ => rfl⟩, rfl, fun _ => rfl⟩

theorem prepare_undisturbed {name source : String} {s : State}
    (known : s.sources.find? name = some source) :
    Undisturbed s ((e.prepare name).run.run s).2 := by
  let noted := ((State.note .trace ("source cache hit for '" ++ name ++ "'")).run s).2
  have resolved : ((State.resolveSource name).adapt RenderError.loader).run.run s =
      (.ok source, noted) :=
    Fallible.run_adapt_of_ok (State.resolveSource_of_known known) _
  unfold prepare
  simp only
  split
  · exact refl_of Undisturbed s
  · rw [Fallible.run_bind_of_ok resolved]
    have first : Undisturbed s noted := State.quiet_note _ _ s
    refine trans_of Undisturbed first ?_
    refine Fallible.moves_bind (Fallible.moves_adapt (quiet_transform name source) _) ?_ noted
    intro text
    exact Fallible.moves_adapt (Fallible.moves_ofExcept _) _

/-- Finding a template resolves its name, if that template is not known, and then disturbs nothing
    but the templates that are. -/
theorem exists_load_moves {M : State → State → Prop} [IsPreorder State M]
    (quiet : ∀ s s', Undisturbed s s' → M s s')
    (templates : ∀ s name nodes, M s { s with templates := s.templates.insert name nodes })
    (name : String) (s : State) :
    ∃ t, (t = s ∨ t = ((State.resolveSource name).run.run s).2) ∧
      M t ((e.load name).run.run s).2 := by
  have started : (get : EngineM State).run.run s = (.ok s, s) := rfl
  unfold load
  rw [Fallible.run_bind_of_ok started]
  split
  · exact ⟨s, .inl rfl, refl_of M s⟩
  · refine ⟨((State.resolveSource name).run.run s).2, .inr rfl, ?_⟩
    cases resolved : (State.resolveSource name).run.run s with
    | mk outcome t =>
      cases outcome with
      | error fault =>
        rw [Fallible.run_bind_of_error (Fallible.run_adapt_of_error resolved _)]
        exact refl_of M t
      | ok source =>
        rw [Fallible.run_bind_of_ok (Fallible.run_adapt_of_ok resolved _)]
        have transformed := (quiet_transform (e := e) name source).mono quiet
        refine Fallible.moves_bind (Fallible.moves_adapt transformed _) (fun text => ?_) t
        refine Fallible.moves_bind (Fallible.moves_ofExcept _) fun nodes => ?_
        exact Fallible.moves_bind (fun s => templates s _ _) fun _ => Fallible.moves_pure

theorem load_moves {M : State → State → Prop} [IsPreorder State M]
    (quiet : ∀ s s', Undisturbed s s' → M s s')
    (sources : ∀ s name text, M s { s with sources := s.sources.insert name text })
    (templates : ∀ s name nodes, M s { s with templates := s.templates.insert name nodes })
    (name : String) : Fallible.Moves M (e.load name) := by
  intro s
  obtain ⟨t, rfl | rfl, moved⟩ := e.exists_load_moves quiet templates name s
  · exact moved
  · exact trans_of M (State.resolveSource_moves quiet sources name s) moved

structure Calm (e : Engine) : Prop where
  functions : ∀ name c, e.functions.find? name = some c → c.Calm e
  filters : ∀ name c, e.filters.find? name = some c → c.Calm e
  tests : ∀ name c, e.tests.find? name = some c → c.Calm e

theorem Calm.machine (calm : e.Calm) (site : Site) (nested : View.Nested) :
    (e.machine site nested).Moves (Sheltering e) where
  quiet _ _ undisturbed := undisturbed.sheltering e
  functions name c found site arguments := (calm.functions name c found site arguments).moves
  filters name c found site arguments := (calm.filters name c found site arguments).moves
  tests name c found site arguments := (calm.tests name c found site arguments).moves

/-- A text from which no template is read that hides the running render. -/
def ReadsSparing (text : String) : Prop :=
  ∀ nodes, read text = .ok nodes → spareAll nodes = true

theorem transform_agree (template : String) {source : String} (spares : e.Spares source) :
    Fallible.Agree (Sheltered e) ReadsSparing (e.transform template source)
      (e.transform template source) := by
  intro s sheltered
  refine ⟨rfl, sheltered.of_sameTexts (quiet_transform template source s).toSameTexts, ?_⟩
  intro result transformed nodes found
  obtain ⟨nodes', readable, spared⟩ := spares template s.serials result transformed
  have same : nodes' = nodes := Except.ok.inj (readable.symm.trans found)
  exact same ▸ spared

theorem load_agree (name : String) :
    Fallible.Agree (Sheltered e) (fun nodes => spareAll nodes = true) (e.load name)
      (e.load name) := by
  refine Fallible.agree_bind Fallible.agree_get fun s sheltered => ?_
  split
  · rename_i nodes found
    exact Fallible.agree_pure (sheltered.templates name nodes found)
  · refine Fallible.agree_bind (Fallible.agree_adapt (State.resolveSource_spares name) _) ?_
    intro source spares
    refine Fallible.agree_bind (Fallible.agree_adapt (transform_agree name spares) _) ?_
    intro text sparing
    refine Fallible.agree_bind (Fallible.agree_ofExcept sparing) fun nodes spared => ?_
    refine Fallible.agree_bind (Fallible.agree_modify ?_) fun _ _ => Fallible.agree_pure spared
    exact fun _ sheltered => sheltered.setTemplate spared

theorem prepare_agree (name : String) :
    Fallible.Agree (Sheltered e) (fun nodes => spareAll nodes = true) (e.prepare name)
      (e.prepare name) := by
  unfold prepare
  simp only
  split
  · exact Fallible.agree_throw_bind
  · refine Fallible.agree_bind (Fallible.agree_adapt (State.resolveSource_spares name) _) ?_
    intro source spares
    refine Fallible.agree_bind (Fallible.agree_adapt (transform_agree name spares) _) ?_
    intro text sparing
    exact Fallible.agree_adapt (Fallible.agree_ofExcept sparing) _

end Engine

/-- Two ways to render other documents answer alike within the render that is shown. -/
def SameAnswers (e : Engine) (shown : RenderScope) (x y : View.Nested) : Prop :=
  ∀ topic, Fallible.Agree (Sheltered e) anything (x (some shown) topic) (y (some shown) topic)

/-- A dialogue that asks for renders within the one that is shown ends alike where those are
    answered alike. -/
theorem Dialogue.Within.follow_agree {α : Type} {e : Engine} {shown : RenderScope}
    {x y : View.Nested} (same : SameAnswers e shown x y) {post : α → Prop} {d : Dialogue α}
    {s : State} (within : d.Within shown post) (moves : d.Moves (Sheltering e) s)
    (sheltered : Sheltered e s) :
    d.follow ⟨x, e.load⟩ = d.follow ⟨y, e.load⟩ ∧ Sheltered e (d.follow ⟨x, e.load⟩).2 := by
  induction d generalizing s with
  | done outcome s' => exact ⟨rfl, moves sheltered⟩
  | nest q next ih =>
    obtain ⟨parent?, topic, asked⟩ := q
    obtain ⟨rfl, later⟩ := within
    obtain ⟨alike, kept, -⟩ := same topic asked (moves.1 sheltered)
    let q : Request := ⟨some shown, topic, asked⟩
    have answered : q.answer x = q.answer y := alike
    have ends := ih (q.answer x).1 (q.answer x).2 (later _ _) (moves.2 _ _) kept
    refine ⟨?_, ends.2⟩
    refine ends.1.trans ?_
    rw [answered]
    rfl
  | load name asked next ih =>
    obtain ⟨-, kept, spares⟩ := Engine.load_agree name asked (moves.1 sheltered)
    exact ih _ _ (within _ _ spares) (moves.2 _ _) kept

namespace Engine

theorem render_agree (calm : e.Calm) (site : Site) {scope : RenderScope} {x y : View.Nested}
    (same : SameAnswers e scope x y) (name : String) (bindings : Dictionary Value) :
    Fallible.Agree (Sheltered e) anything (e.render site x name bindings scope)
      (e.render site y name bindings scope) := by
  rw [render_eq, render_eq]
  refine Fallible.agree_bind (prepare_agree name) fun nodes spares => ?_
  refine Fallible.agree_adapt ?_ _
  intro s sheltered
  have bound := bindings.find?_insert_self scopeVariable (.view (.scope scope))
  obtain ⟨d, tells, within⟩ := runDocument_told (calm.machine site x) name nodes _ s
  obtain ⟨same, kept⟩ := (within ⟨spares, bound⟩).follow_agree same tells.moves sheltered
  rw [← tells.follow] at same kept
  rw [← tells.follow] at same
  exact ⟨same, kept, fun _ _ => trivial⟩

end Engine

end TopicWiki
