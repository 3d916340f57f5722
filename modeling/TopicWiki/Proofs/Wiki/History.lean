import TopicWiki.Proofs.Wiki.Renders

namespace TopicWiki

open Template Dialogue

structure Rendering where
  active : List String
  context : Context
  before : State
  outcome : Except RenderError String
  after : State

structure Rendering.Settles (x : Rendering) : Prop where
  undisturbed : Undisturbed x.before x.after
  outcome : (∃ name html, Renderer.contextName x.before x.context = .ok name ∧
      x.before.outputs.find? name = some html ∧ x.outcome = .ok html) ∨
    (∀ name, Renderer.contextName x.before x.context = .ok name →
      x.before.outputs.find? name = none) ∧ ∃ fault, x.outcome = .error fault

/-- What happens in a renderer. -/
inductive Event where
  | drafted (context : Context) (name source : String)
  | loaded (active : List String) (template : String) (s : State)
  | rendered (x : Rendering)
  | set (name html : String)
  | cleared (name? : Option String)

theorem split_concat {α : Type} {earlier later past : List α} {a last : α}
    (same : past ++ [last] = earlier ++ a :: later) :
    (later = [] ∧ a = last ∧ earlier = past) ∨
      ∃ between, later = between ++ [last] ∧ past = earlier ++ a :: between := by
  rcases List.eq_nil_or_concat later with rfl | ⟨between, last', rfl⟩
  · obtain ⟨before, last'⟩ := List.append_inj' same rfl
    cases last'
    exact .inl ⟨rfl, rfl, before.symm⟩
  · rw [List.concat_eq_append, ← List.cons_append, ← List.append_assoc] at same
    obtain ⟨before, last'⟩ := List.append_inj' same rfl
    cases last'
    exact .inr ⟨between, List.concat_eq_append, before⟩

/-- The events while a dialogue is followed; those of a request are as `during` says. -/
inductive Dialogue.Unfolds {α : Type} (services : Services)
    (during : Request → List Event → Prop) (active : List String) :
    Dialogue α → List Event → Prop
  | done (outcome : Except EngineError α) (s : State) :
    Unfolds services during active (.done outcome s) []
  | nest {q : Request} {next : Except RenderError String → State → Dialogue α}
    {inner later : List Event} : during q inner →
    Unfolds services during active
      (next (q.answer services.nested).1 (q.answer services.nested).2) later →
    Unfolds services during active (.nest q next) (inner ++ later)
  | load {template : String} {s : State}
    {next : Except EngineError (List Node) → State → Dialogue α} {later : List Event} :
    Unfolds services during active
      (next ((services.load template).run.run s).1 ((services.load template).run.run s).2) later →
    Unfolds services during active (.load template s next) (.loaded active template s :: later)

theorem Dialogue.exists_unfolds {α : Type} {services : Services}
    {during : Request → List Event → Prop} (each : ∀ q, ∃ events, during q events)
    (active : List String) (d : Dialogue α) :
    ∃ events, d.Unfolds services during active events := by
  induction d with
  | done outcome s => exact ⟨[], .done outcome s⟩
  | nest q next ih =>
    obtain ⟨inner, unfolds⟩ := each q
    obtain ⟨later, goes⟩ := ih (q.answer services.nested).1 (q.answer services.nested).2
    exact ⟨inner ++ later, .nest unfolds goes⟩
  | load template s next ih =>
    obtain ⟨later, goes⟩ := ih ((services.load template).run.run s).1
      ((services.load template).run.run s).2
    exact ⟨.loaded active template s :: later, .load goes⟩

namespace Renderer

variable {r : Renderer} {nested : View.Nested} {active : List String} {context : Context}
  {s : State}

def rendering (r : Renderer) (nested : View.Nested) (active : List String) (context : Context)
    (s : State) : Rendering where
  active
  context
  before := s
  outcome := ((r.renderContext nested context).run.run s).1
  after := ((r.renderContext nested context).run.run s).2

/-- The events of the render of a context; those of the requests that its template makes are as
    `during` says. -/
inductive Course (r : Renderer) (nested : View.Nested)
    (during : List String → Request → List Event → Prop) (active : List String)
    (context : Context) (s : State) : List Event → Prop
  | settled : (∀ name source s', ¬ Drafts context name source s s') →
    Course r nested during active context s [.rendered (r.rendering nested active context s)]
  | unprepared {name source : String} {s' s'' : State} {fault : RenderError} :
    Drafts context name source s s' → (r.engine.prepare name).run.run s' = (.error fault, s'') →
    Course r nested during active context s
      [.drafted context name source, .rendered (r.rendering nested active context s)]
  | ran {name source : String} {s' s'' : State} {nodes : List Node} {d : Dialogue String}
    {inner : List Event} :
    Drafts context name source s s' → (r.engine.prepare name).run.run s' = (.ok nodes, s'') →
    Tells r.Acts (r.script context name nodes) s'' d →
    d.Unfolds ⟨nested, r.engine.load⟩ (during (active ++ [name])) (active ++ [name]) inner →
    Course r nested during active context s
      (.drafted context name source ::
        (inner ++ [.rendered (r.rendering nested active context s)]))

theorem Course.ends {during : List String → Request → List Event → Prop} {events : List Event}
    (course : r.Course nested during active context s events) :
    ∃ inner, events = inner ++ [.rendered (r.rendering nested active context s)] := by
  cases course with
  | settled => exact ⟨[], rfl⟩
  | @unprepared name source => exact ⟨[.drafted context name source], rfl⟩
  | @ran name source s' s'' nodes d inner =>
    exact ⟨.drafted context name source :: inner, rfl⟩

/-- The events of the answer to a request, while the renders of the documents whose names are active
    are around it. At most `fuel` renders are nested. -/
def Timeline (r : Renderer) : (fuel : Nat) → List String → Request → List Event → Prop
  | 0, _, _, events => events = []
  | fuel + 1, active, q, events =>
    (∃ fault s, (r.contextFor q.topic).run.run q.state = (.error fault, s) ∧ events = []) ∨
      ∃ context s, r.Opens q context s ∧
        r.Course (r.renderWithin fuel) (r.Timeline fuel) active context s events

theorem rendering_settles
    (undrafted : ∀ name source s', ¬ Drafts context name source s s') :
    (r.rendering nested active context s).Settles := by
  rcases settled_of_undrafted undrafted with ⟨name, html, named, known⟩ |
    ⟨fault, s', undisturbed, unknown, failed⟩
  · have answer := renderContext_of_known (r := r) named known nested
    refine ⟨?_, .inl ⟨name, html, named, known, congrArg Prod.fst answer⟩⟩
    change Undisturbed s ((r.renderContext nested context).run.run s).2
    rw [answer]
    exact State.quiet_note _ _ s
  · refine ⟨?_, .inr ⟨unknown, fault, congrArg Prod.fst (failed r nested)⟩⟩
    change Undisturbed s ((r.renderContext nested context).run.run s).2
    rw [failed r nested]
    exact undisturbed

theorem opens_or_fails (r : Renderer) (q : Request) :
    (∃ fault s, (r.contextFor q.topic).run.run q.state = (.error fault, s)) ∨
      ∃ context s, r.Opens q context s := by
  cases opened : (r.contextFor q.topic).run.run q.state with
  | mk outcome s =>
    cases outcome with
    | error fault => exact .inl ⟨fault, s, rfl⟩
    | ok fresh => exact .inr ⟨_, s, fresh, opened, rfl⟩

theorem exists_course {during : List String → Request → List Event → Prop}
    (each : ∀ active q, ∃ events, during active q events) (active : List String)
    (context : Context) (s : State) :
    ∃ events, r.Course nested during active context s events := by
  by_cases drafted : ∃ name source s', Drafts context name source s s'
  · obtain ⟨name, source, s', drafts⟩ := drafted
    cases prepared : (r.engine.prepare name).run.run s' with
    | mk outcome s'' =>
      cases outcome with
      | error fault => exact ⟨_, .unprepared drafts prepared⟩
      | ok nodes =>
        let bindings := context.bindings.insert scopeVariable
          (.view (.scope (context.scope.entered name)))
        have moves := (moves_acts r).machine (fun _ _ => acts_of_undisturbed) nested
        have told : Told r.Acts context.scope _ anything (r.script context name nodes) :=
          runDocument_told moves name nodes bindings
        obtain ⟨d, tells, -⟩ := told s''
        obtain ⟨inner, unfolds⟩ := d.exists_unfolds (each (active ++ [name])) (active ++ [name])
        exact ⟨_, .ran drafts prepared tells unfolds⟩
  · refine ⟨_, .settled fun name source s' drafts => ?_⟩
    exact drafted ⟨name, source, s', drafts⟩

theorem exists_timeline (r : Renderer) (fuel : Nat) (active : List String) (q : Request) :
    ∃ events, r.Timeline fuel active q events := by
  induction fuel generalizing active q with
  | zero => exact ⟨[], rfl⟩
  | succ fuel ih =>
    rcases r.opens_or_fails q with ⟨fault, s, failed⟩ | ⟨context, s, opens⟩
    · exact ⟨[], .inl ⟨fault, s, failed, rfl⟩⟩
    · obtain ⟨events, course⟩ := exists_course ih active context s
      exact ⟨events, .inr ⟨context, s, opens, course⟩⟩

def Closes (r : Renderer) (name : String) (s : State) (outcome : Except RenderError String)
    (s' : State) : Prop :=
  (∃ fault, outcome = .error fault ∧ s' = s) ∨
    ∃ text, (r.finish name text).run.run s = (outcome, s')

/-- What each step of a render keeps, of the active documents, the past events and the state. -/
structure Kept (r : Renderer) (inv : List String → List Event → State → Prop) : Prop where
  acts {active : List String} {past : List Event} {s s' : State} : r.Acts s s' →
    inv active past s → inv active past s'
  drafts {active : List String} {past : List Event} {context : Context} {name source : String}
    {s s' : State} : Drafts context name source s s' → inv active past s →
    inv (active ++ [name]) (past ++ [.drafted context name source]) s'
  loads {active : List String} {past : List Event} {template : String} {s : State} :
    inv active past s →
    inv active (past ++ [.loaded active template s]) ((r.engine.load template).run.run s).2
  settles {past : List Event} {x : Rendering} : x.Settles →
    inv x.active past x.before → inv x.active (past ++ [.rendered x]) x.after
  closes {past : List Event} {x : Rendering} {name : String} {s : State} :
    contextName x.before x.context = .ok name → r.Closes name s x.outcome x.after →
    inv (x.active ++ [name]) past s → inv x.active (past ++ [.rendered x]) x.after

section

variable {inv : List String → List Event → State → Prop}

theorem Kept.unfolds (kept : r.Kept inv) {α : Type} {services : Services}
    {during : Request → List Event → Prop} (loads : services.load = r.engine.load)
    (answered : ∀ q events past, during q events → inv active past q.state →
      inv active (past ++ events) (q.answer services.nested).2)
    {d : Dialogue α} {events past : List Event}
    (unfolds : d.Unfolds services during active events) (moves : d.Moves r.Acts s)
    (holds : inv active past s) : inv active (past ++ events) (d.follow services).2 := by
  induction unfolds generalizing s past with
  | done outcome s' =>
    rw [List.append_nil]
    exact kept.acts moves holds
  | @nest q next inner later asked _ ih =>
    rw [← List.append_assoc]
    exact ih (moves.2 _ _) (answered q inner past asked (kept.acts moves.1 holds))
  | @load template s' next later _ ih =>
    rw [List.append_cons]
    refine ih (moves.2 _ _) ?_
    rw [loads]
    exact kept.loads (kept.acts moves.1 holds)

theorem Kept.course (kept : r.Kept inv) {during : List String → Request → List Event → Prop}
    (answered : ∀ active q events past, during active q events → inv active past q.state →
      inv active (past ++ events) (q.answer nested).2)
    {events past : List Event} (course : r.Course nested during active context s events)
    (holds : inv active past s) :
    inv active (past ++ events) ((r.renderContext nested context).run.run s).2 := by
  cases course with
  | settled undrafted =>
    exact kept.settles (rendering_settles undrafted) holds
  | @unprepared name source s' s'' fault drafts unprepared =>
    have moved := drafts.prepare_undisturbed r.engine
    rw [unprepared] at moved
    have answer := drafts.answer_of_unprepared unprepared nested
    have ends : r.Closes name s'' (r.rendering nested active context s).outcome
        (r.rendering nested active context s).after := by
      refine .inl ⟨fault, ?_, ?_⟩
      · exact congrArg Prod.fst answer
      · exact congrArg Prod.snd answer
    rw [List.append_cons]
    refine kept.closes (x := r.rendering nested active context s) drafts.named ends ?_
    exact kept.acts (acts_of_undisturbed moved) (kept.drafts drafts holds)
  | @ran name source s' s'' nodes d inner drafts prepared tells unfolds =>
    have moved := drafts.prepare_undisturbed r.engine
    rw [prepared] at moved
    have start : inv (active ++ [name]) (past ++ [.drafted context name source]) s'' :=
      kept.acts (acts_of_undisturbed moved) (kept.drafts drafts holds)
    have followed := kept.unfolds rfl (answered (active ++ [name])) unfolds tells.moves start
    rw [← tells.follow] at followed
    have ends : r.Closes name ((r.script context name nodes ⟨nested, r.engine.load⟩).run.run s'').2
        (r.rendering nested active context s).outcome
        (r.rendering nested active context s).after := by
      cases ran : (r.script context name nodes ⟨nested, r.engine.load⟩).run.run s'' with
      | mk outcome t =>
        cases outcome with
        | error e =>
          have answer := drafts.answer_of_failed prepared ran
          refine .inl ⟨.ofEngine e, ?_, ?_⟩
          · exact congrArg Prod.fst answer
          · exact congrArg Prod.snd answer
        | ok text => exact .inr ⟨text, (drafts.answer_of_written prepared ran).symm⟩
    rw [List.append_cons, ← List.append_assoc]
    exact kept.closes (x := r.rendering nested active context s) drafts.named ends followed

theorem Kept.timeline (kept : r.Kept inv) {fuel : Nat} {q : Request} {events : List Event}
    (timeline : r.Timeline fuel active q events) (past : List Event)
    (holds : inv active past q.state) :
    inv active (past ++ events) (q.answer (r.renderWithin fuel)).2 := by
  induction fuel generalizing active q events past with
  | zero =>
    cases timeline
    rw [List.append_nil]
    exact holds
  | succ fuel ih =>
    have moved : r.Acts q.state ((r.contextFor q.topic).run.run q.state).2 :=
      moves_contextFor (fun _ _ => acts_of_undisturbed) (moves_acts r).hooks q.topic q.state
    rw [renderWithin_succ]
    rcases timeline with ⟨fault, s, failed, rfl⟩ | ⟨context, s, opens, course⟩
    · have answer : q.answer (r.renderVia (r.renderWithin fuel)) = (.error fault, s) :=
        Fallible.run_bind_of_error failed
      rw [failed] at moved
      rw [List.append_nil, answer]
      exact kept.acts moved holds
    · rw [opens.answer]
      obtain ⟨fresh, opened, -⟩ := opens
      rw [opened] at moved
      exact kept.course (fun _ _ _ past timeline => ih timeline past) course (kept.acts moved holds)

end

/-- What may happen from a state on: topics and contexts are rendered, each with room for some number
    of renders, the output cache is changed, and in between the state changes in other ways, as
    `Aside` allows. -/
inductive History (r : Renderer) (Aside : State → State → Prop) (s₀ : State) :
    List Event → State → Prop
  | start : History r Aside s₀ [] s₀
  | aside {past : List Event} {s s' : State} : History r Aside s₀ past s → Aside s s' →
    History r Aside s₀ past s'
  | render {past events : List Event} {s : State} {fuel : Nat} {parent? : Option RenderScope}
    {topic : TopicId} :
    History r Aside s₀ past s → r.Timeline fuel [] ⟨parent?, topic, s⟩ events →
    History r Aside s₀ (past ++ events) ((r.renderWithin fuel parent? topic).run.run s).2
  | renderIn {past events : List Event} {s : State} {fuel : Nat} {context : Context} :
    History r Aside s₀ past s →
    r.Course (r.renderWithin fuel) (r.Timeline fuel) [] context s events →
    History r Aside s₀ (past ++ events)
      ((r.renderContext (r.renderWithin fuel) context).run.run s).2
  | setOutput {past : List Event} {s : State} (name html : String) : History r Aside s₀ past s →
    History r Aside s₀ (past ++ [.set name html]) ((State.setOutput name html).run s).2
  | clearOutput {past : List Event} {s : State} (name? : Option String) :
    History r Aside s₀ past s →
    History r Aside s₀ (past ++ [.cleared name?]) ((State.clearOutput name?).run s).2

theorem Kept.history {inv : List String → List Event → State → Prop} (kept : r.Kept inv)
    {Aside : State → State → Prop}
    (aside : ∀ past s s', Aside s s' → inv [] past s → inv [] past s')
    (setOutput : ∀ past s name html, inv [] past s →
      inv [] (past ++ [.set name html]) ((State.setOutput name html).run s).2)
    (clearOutput : ∀ past s name?, inv [] past s →
      inv [] (past ++ [.cleared name?]) ((State.clearOutput name?).run s).2)
    {s₀ : State} (start : inv [] [] s₀) {past : List Event}
    (history : r.History Aside s₀ past s) : inv [] past s := by
  induction history with
  | start => exact start
  | aside _ change ih => exact aside _ _ _ change ih
  | render _ timeline ih => exact kept.timeline timeline _ ih
  | renderIn _ course ih =>
    exact kept.course (fun _ _ _ past timeline => kept.timeline timeline past) course ih
  | setOutput name html _ ih => exact setOutput _ _ name html ih
  | clearOutput name? _ ih => exact clearOutput _ _ name? ih

end Renderer

end TopicWiki
