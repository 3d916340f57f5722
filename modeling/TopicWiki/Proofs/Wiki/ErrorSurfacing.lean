import Mathlib
import TopicWiki.Proofs.Wiki.History
import TopicWiki.Proofs.Wiki.RenderChain

namespace TopicWiki

open Template Dialogue

/-- The errors of a render that keep their form on their way out of the renders around it. -/
def RenderError.Surfaces : RenderError → Prop
  | .loader _ | .cycle _ | .depth _ _ => True
  | _ => False

theorem View.nestedFault_inner? {fault : RenderError} (surfaces : fault.Surfaces) :
    (View.nestedFault fault).inner? = some fault := by
  cases fault with
  | loader | cycle | depth => rfl
  | _ => exact surfaces.elim

theorem RenderError.ofEngine_of_inner? {e : EngineError} {fault : RenderError}
    (inner : e.inner? = some fault) : RenderError.ofEngine e = fault := by
  unfold RenderError.ofEngine
  rw [inner]
  rfl

theorem Engine.load_kind {e : Engine} {template : String} {s s' : State} {fault : EngineError}
    (failed : (e.load template).run.run s = (.error fault, s')) : fault.kind ≠ .unknownMethod := by
  have started : (get : EngineM State).run.run s = (.ok s, s) := rfl
  unfold Engine.load at failed
  rw [Fallible.run_bind_of_ok started] at failed
  split at failed
  · cases failed
  · cases resolved : (State.resolveSource template).run.run s with
    | mk outcome t =>
      cases outcome with
      | error cause =>
        rw [Fallible.run_bind_of_error (Fallible.run_adapt_of_error resolved _)] at failed
        cases failed
        nofun
      | ok source =>
        rw [Fallible.run_bind_of_ok (Fallible.run_adapt_of_ok resolved _)] at failed
        cases transformed : (e.transform template source).run.run t with
        | mk outcome t' =>
          cases outcome with
          | error cause =>
            rw [Fallible.run_bind_of_error (Fallible.run_adapt_of_error transformed _)] at failed
            cases failed
            nofun
          | ok text =>
            rw [Fallible.run_bind_of_ok (Fallible.run_adapt_of_ok transformed _)] at failed
            unfold Engine.read at failed
            cases readable : Template.read text with
            | ok nodes =>
              rw [readable] at failed
              cases failed
            | error malformed =>
              rw [readable] at failed
              cases failed
              cases malformed <;> nofun

/-- An event fails: a render ends with an error that surfaces, or a template is not found. Then the
    error surfaces that is inside the one of the engine, but from more than `depth` renders inside
    each other only if it surfaces from renders. -/
inductive Event.Fails (r : Renderer) (depth : Nat) (fault : RenderError) : Event → Prop
  | rendered {x : Rendering} : x.outcome = .error fault → fault.Surfaces →
    Fails r depth fault (.rendered x)
  | loaded {active : List String} {template : String} {s : State} {e : EngineError} :
    ((r.engine.load template).run.run s).1 = .error e → e.inner? = some fault →
    (fault.Surfaces ∨ active.length ≤ depth) → Fails r depth fault (.loaded active template s)

def Event.Within (depth : Nat) : Event → Prop
  | .loaded active _ _ => depth ≤ active.length
  | _ => True

theorem Event.Within.mono {depth depth' : Nat} {e : Event} (within : e.Within depth')
    (less : depth ≤ depth') : e.Within depth := by
  cases e with
  | loaded => exact le_trans less within
  | _ => trivial

theorem Dialogue.Unfolds.within {α : Type} {services : Services}
    {during : Request → List Event → Prop} {active : List String} {d : Dialogue α}
    {events : List Event} (unfolds : d.Unfolds services during active events)
    (inner : ∀ q events, during q events → ∀ e ∈ events, e.Within active.length) :
    ∀ e ∈ events, e.Within active.length := by
  induction unfolds with
  | done => exact fun e member => absurd member List.not_mem_nil
  | @nest q next nested later asked _ ih =>
    intro e member
    rcases List.mem_append.mp member with member | member
    · exact inner q nested asked e member
    · exact ih e member
  | load _ ih =>
    intro e member
    rcases List.mem_cons.mp member with rfl | member
    · exact le_refl active.length
    · exact ih e member

theorem Dialogue.Unfolds.surfaces {α : Type} {r : Renderer} {services : Services}
    (finds : services.load = r.engine.load) {during : Request → List Event → Prop}
    {active : List String} {fault : RenderError} {d : Dialogue α} {events : List Event}
    (unfolds : d.Unfolds services during active events) (strict : d.Strict)
    (inner : ∀ q events, during q events → ∀ e ∈ events, e.Fails r active.length fault →
      fault.Surfaces ∧ (q.answer services.nested).1 = .error fault)
    {e : Event} (member : e ∈ events) (fails : e.Fails r active.length fault) :
    ∃ raised, (d.follow services).1 = .error raised ∧ raised.inner? = some fault := by
  induction unfolds with
  | done => exact absurd member List.not_mem_nil
  | @nest q next nested later asked _ ih =>
    rcases List.mem_append.mp member with member | member
    · obtain ⟨surfaces, failed⟩ := inner q nested asked e member fails
      obtain ⟨raised, wraps, ended⟩ := strict.2 fault (q.answer services.nested).2
      refine ⟨raised, ?_, wraps.inner?.trans (View.nestedFault_inner? surfaces)⟩
      rw [← failed] at ended
      exact congrArg (fun d => (d.follow services).1) ended
    · exact ih (strict.1 _ _) member
  | @load template s next later _ ih =>
    rcases List.mem_cons.mp member with rfl | member
    · cases fails with
      | @loaded _ _ _ e missed found _ =>
        have known : e.kind ≠ .unknownMethod :=
          Engine.load_kind (Prod.ext missed rfl)
        obtain ⟨raised, wraps, ended⟩ :=
          strict.2 e ((services.load template).run.run s).2 known
        refine ⟨raised, ?_, wraps.inner?.trans found⟩
        rw [← missed, ← finds] at ended
        exact congrArg (fun d => (d.follow services).1) ended
    · exact ih (strict.1 _ _) member

namespace Renderer

variable {r : Renderer} {nested : View.Nested} {active : List String} {context : Context}
  {s : State} {events : List Event} {fault : RenderError}

theorem Course.within {during : List String → Request → List Event → Prop}
    (course : r.Course nested during active context s events)
    (inner : ∀ active q events, during active q events → ∀ e ∈ events,
      e.Within (active.length + 1)) :
    ∀ e ∈ events, e.Within (active.length + 1) := by
  cases course with
  | settled =>
    intro e member
    cases List.mem_singleton.mp member
    trivial
  | unprepared =>
    intro e member
    rcases List.mem_cons.mp member with rfl | member
    · trivial
    · cases List.mem_singleton.mp member
      trivial
  | @ran name _ _ _ _ _ asked _ _ _ unfolds =>
    have entered : (active ++ [name]).length = active.length + 1 := by simp
    intro e member
    rcases List.mem_cons.mp member with rfl | member
    · trivial
    rcases List.mem_append.mp member with member | member
    · rw [← entered]
      refine unfolds.within ?_ e member
      intro q events asked e member
      exact (inner _ q events asked e member).mono (Nat.le_succ _)
    · cases List.mem_singleton.mp member
      trivial

theorem Timeline.within {fuel : Nat} {q : Request} (timeline : r.Timeline fuel active q events) :
    ∀ e ∈ events, e.Within (active.length + 1) := by
  induction fuel generalizing active q events with
  | zero =>
    cases timeline
    exact fun e member => absurd member List.not_mem_nil
  | succ fuel ih =>
    rcases timeline with ⟨fault, s, failed, rfl⟩ | ⟨context, s, opens, course⟩
    · exact fun e member => absurd member List.not_mem_nil
    · exact course.within fun active q events timeline => ih timeline

theorem Course.surfaces {during : List String → Request → List Event → Prop}
    (course : r.Course nested during active context s events)
    (inner : ∀ active q events, during active q events → ∀ e ∈ events,
      e.Fails r active.length fault → fault.Surfaces ∧ (q.answer nested).1 = .error fault)
    {e : Event} (member : e ∈ events) (fails : e.Fails r (active.length + 1) fault) :
    ((r.renderContext nested context).run.run s).1 = .error fault := by
  have own (ended : e = .rendered (r.rendering nested active context s)) :
      ((r.renderContext nested context).run.run s).1 = .error fault := by
    subst ended
    cases fails with
    | rendered outcome _ => exact outcome
  cases course with
  | settled => exact own (List.mem_singleton.mp member)
  | unprepared =>
    rcases List.mem_cons.mp member with rfl | member
    · cases fails
    · exact own (List.mem_singleton.mp member)
  | @ran name _ _ _ _ _ _ drafts prepared tells unfolds =>
    have entered : (active ++ [name]).length = active.length + 1 := by simp
    rcases List.mem_cons.mp member with rfl | member
    · cases fails
    rcases List.mem_append.mp member with member | member
    · rw [← entered] at fails
      obtain ⟨raised, failed, found⟩ := unfolds.surfaces rfl tells.strict (inner _) member fails
      rw [← tells.follow] at failed
      rw [drafts.answer_of_failed prepared (Prod.ext failed rfl)]
      exact congrArg Except.error (RenderError.ofEngine_of_inner? found)
    · exact own (List.mem_singleton.mp member)

theorem Timeline.surfaces {fuel : Nat} {q : Request} (timeline : r.Timeline fuel active q events)
    {e : Event} (member : e ∈ events) (fails : e.Fails r (active.length + 1) fault) :
    (q.answer (r.renderWithin fuel)).1 = .error fault := by
  induction fuel generalizing active q events e with
  | zero =>
    cases timeline
    exact absurd member List.not_mem_nil
  | succ fuel ih =>
    rcases timeline with ⟨fault', s, failed, rfl⟩ | ⟨context, s, opens, course⟩
    · exact absurd member List.not_mem_nil
    · rw [renderWithin_succ, opens.answer]
      refine course.surfaces ?_ member fails
      intro active q events timeline e member fails
      have deeper := timeline.within e member
      cases fails with
      | rendered outcome surfaces =>
        exact ⟨surfaces, ih timeline member (.rendered outcome surfaces)⟩
      | loaded missed found shallow =>
        rcases shallow with surfaces | shallow
        · exact ⟨surfaces, ih timeline member (.loaded missed found (.inl surfaces))⟩
        · exact absurd (le_trans deeper shallow) (Nat.not_succ_le_self _)

def alone (context : Context) : Context :=
  { context with scope := { context.scope with stack := [] } }

theorem Drafts.alone {name source : String} {s' : State}
    (drafts : Drafts context name source s s') : Drafts (alone context) name source s s' :=
  ⟨drafts.named, drafts.unknown, rfl, drafts.sourced⟩

/-- The error of a failing render is that of each render nested in it that fails with a loader
    error, a cycle or a depth error, and of each template that it or they fail to find; a tag error
    surfaces from the templates that the document itself asks for. A document that fails before its
    template runs does so in the same way on its own. So it is however much room there is. -/
theorem errors_surface {fuel : Nat} {parent? : Option RenderScope} {topic : TopicId}
    (timeline : r.Timeline fuel [] ⟨parent?, topic, s⟩ events) :
    (∀ x fault, .rendered x ∈ events → x.outcome = .error fault → fault.Surfaces →
        ((r.renderWithin fuel parent? topic).run.run s).1 = .error fault) ∧
      (∀ active template s' e fault, .loaded active template s' ∈ events →
        ((r.engine.load template).run.run s').1 = .error e → e.inner? = some fault →
        fault.Surfaces ∨ active.length ≤ 1 →
        ((r.renderWithin fuel parent? topic).run.run s).1 = .error fault) ∧
      ∀ context name source s₁ s₂ s₃ fault nested, Drafts context name source s₁ s₂ →
        (r.engine.prepare name).run.run s₂ = (.error fault, s₃) →
        (r.renderContext nested context).run.run s₁ = (.error fault, s₃) ∧
          (r.renderContext nested (alone context)).run.run s₁ = (.error fault, s₃) := by
  refine ⟨?_, ?_, ?_⟩
  · intro x fault member failed surfaces
    exact timeline.surfaces member (.rendered failed surfaces)
  · intro active template s' e fault member missed found shallow
    exact timeline.surfaces member (.loaded missed found shallow)
  · intro context name source s₁ s₂ s₃ fault nested drafts unprepared
    exact ⟨drafts.answer_of_unprepared unprepared nested,
      drafts.alone.answer_of_unprepared unprepared nested⟩

def selfishContext : Context where
  scope := { topic := ⟨0⟩, category := ⟨0⟩ }
  bindings := .ofList [("this", .view (.scope { topic := ⟨0⟩, category := ⟨0⟩ }))]

def selfishNodes : List Node :=
  [.print (.call (.attribute (.attribute (.name "this") "topic") "content") [])]

def selfishDialogue : Dialogue String :=
  .nest selfishRequest fun answer s =>
    .done ((answer.map fun html => "" ++ html).mapError View.nestedFault) s

theorem selfishScript_of_ok {services : Services} {html : String} {s : State}
    (answered : selfishRequest.answer services.nested = (.ok html, s)) :
    (bare.script selfishContext "c::a" selfishNodes services).run.run selfishRequest.state =
      (.ok ("" ++ html), s) := by
  obtain ⟨nested, load⟩ := services
  have there (s' : State) (same : s' = selfishRequest.state) :
      nested (some ⟨⟨0⟩, ⟨0⟩, ["c::a"]⟩) ⟨0⟩ s' = (.ok html, s) := by
    rw [same]
    exact answered
  conv => lhs; cbv
  rw [there]
  · cbv
  · rfl

theorem selfishScript_of_error {services : Services} {fault : RenderError} {s : State}
    (answered : selfishRequest.answer services.nested = (.error fault, s)) :
    (bare.script selfishContext "c::a" selfishNodes services).run.run selfishRequest.state =
      (.error (View.nestedFault fault), s) := by
  obtain ⟨nested, load⟩ := services
  have there (s' : State) (same : s' = selfishRequest.state) :
      nested (some ⟨⟨0⟩, ⟨0⟩, ["c::a"]⟩) ⟨0⟩ s' = (.error fault, s) := by
    rw [same]
    exact answered
  conv => lhs; cbv
  rw [there]
  · cbv
  · rfl

theorem selfish_tells : Tells bare.Acts (bare.script selfishContext "c::a" selfishNodes)
    selfishRequest.state selfishDialogue := by
  refine ⟨?_, ⟨refl_of bare.Acts _, ?_⟩, ?_, ?_⟩
  · intro services
    cases answered : selfishRequest.answer services.nested with
    | mk outcome s =>
      cases outcome with
      | ok html =>
        rw [selfishScript_of_ok answered, selfishDialogue, follow, answered]
        rfl
      | error fault =>
        rw [selfishScript_of_error answered, selfishDialogue, follow, answered]
        rfl
  · exact fun answer s => refl_of bare.Acts s
  · exact fun answer s => trivial
  · exact fun fault s => ⟨View.nestedFault fault, .itself, rfl⟩

theorem exists_selfish_timeline :
    ∃ events x, bare.Timeline bare.stackRoom [] selfishRender events ∧
      .rendered x ∈ events ∧ x.active = ["c::a"] ∧ x.outcome = .error (.cycle "c::a") := by
  let drafted : State :=
    { selfish with sources := .ofList [("c::a", "\x7b\x7bthis.topic.content()\x7d\x7d")] }
  have drafts : Drafts selfishContext "c::a" "\x7b\x7bthis.topic.content()\x7d\x7d" selfish
      drafted := ⟨by cbv, rfl, by cbv, selfish, by cbv, rfl⟩
  have prepared : (bare.engine.prepare "c::a").run.run drafted =
      (.ok selfishNodes, selfishRequest.state) := by cbv
  let inside : Context :=
    { selfishContext with scope := { selfishContext.scope with stack := ["c::a"] } }
  let x := bare.rendering (bare.renderWithin 14) ["c::a"] inside selfishRequest.state
  have named : contextName selfishRequest.state inside = .ok "c::a" := by cbv
  have refused : guard "c::a" inside.scope.stack = .error (.cycle "c::a") :=
    guard_of_mem (List.mem_singleton_self "c::a")
  have undrafted (name source : String) (s' : State) :
      ¬ Drafts inside name source selfishRequest.state s' := by
    intro drafts
    have same := named.symm.trans drafts.named
    cases same
    have passed := refused.symm.trans drafts.passed
    cases passed
  have answered : bare.Timeline 15 ["c::a"] selfishRequest [.rendered x] :=
    .inr ⟨inside, _, ⟨selfishContext, by cbv, rfl⟩, .settled undrafted⟩
  have asked : selfishDialogue.Unfolds ⟨bare.renderWithin 15, bare.engine.load⟩
      (bare.Timeline 15 ["c::a"]) ["c::a"] ([.rendered x] ++ []) := .nest answered (.done _ _)
  have opens : bare.Opens selfishRender selfishContext selfish := ⟨selfishContext, by cbv, rfl⟩
  have course : bare.Course (bare.renderWithin 15) (bare.Timeline 15) [] selfishContext selfish _ :=
    .ran drafts prepared selfish_tells asked
  refine ⟨_, x, .inr ⟨selfishContext, selfish, opens, course⟩, ?_, rfl, ?_⟩
  · simp
  · exact congrArg Prod.fst (renderContext_of_refused named rfl refused _)

theorem errors_surface_from_cycle :
    ∃ events x, bare.Timeline bare.stackRoom [] selfishRender events ∧
      .rendered x ∈ events ∧ x.active = ["c::a"] ∧ x.outcome = .error (.cycle "c::a") ∧
      ((bare.renderNested none ⟨0⟩).run.run selfish).1 = .error (.cycle "c::a") := by
  obtain ⟨events, x, timeline, member, inside, failed⟩ := exists_selfish_timeline
  refine ⟨events, x, timeline, member, inside, failed, ?_⟩
  exact (errors_surface timeline).1 x (.cycle "c::a") member failed trivial

/-- A renderer that refuses one document, and a wiki where another document asks for that one. -/
def refusing : Renderer :=
  let refuse : Visitor := fun template source =>
    if template = "c::b" then .error ⟨"draft", template, "not ready"⟩ else .ok source
  { bare with engine := { bare.engine with transforms := { visitors := [refuse] } } }

def asking : State :=
  wikiOf [("a", "\x7b\x7b this.parser.render('c', 'b') \x7d\x7d"), ("b", "")]

/-- A tag error does not surface from a nested render. -/
theorem tag_error_stays_inside :
    ((refusing.render ⟨1⟩).run.run asking).1.mapError RenderError.message =
        .error "draft tag in 'c::b': not ready" ∧
      ((refusing.render ⟨0⟩).run.run asking).1.mapError RenderError.message =
        .error "Template error" := by
  decide +kernel

end Renderer

end TopicWiki
