import Mathlib.Tactic.Choose
import TopicWiki.Proofs.Wiki.Sheltered

namespace TopicWiki

open Template

/-- A request to render a topic, within a render if there is one, in a state. -/
structure Request where
  parent? : Option RenderScope
  topic : TopicId
  state : State

namespace Request

def stack (q : Request) : List String :=
  (q.parent?.map RenderScope.stack).getD []

def answer (q : Request) (nested : View.Nested) : Except RenderError String × State :=
  (nested q.parent? q.topic).run.run q.state

end Request

structure Services where
  nested : View.Nested
  load : String → EngineM (List Node)

def View.nestedFault (fault : RenderError) : EngineError :=
  .mk .invalidOperation (some "failed to render document") (some (.render fault))

/-- The errors that an error becomes on its way out of included templates. -/
inductive EngineError.Wraps (base : EngineError) : EngineError → Prop
  | itself : Wraps base base
  | included {e : EngineError} (template : String) : Wraps base e →
    Wraps base (.mk .badInclude (some ("error in \"" ++ template ++ "\"")) (some (.engine e)))

theorem EngineError.Wraps.kind_ne {base e : EngineError} (wraps : base.Wraps e)
    (known : base.kind ≠ .unknownMethod) : e.kind ≠ .unknownMethod := by
  cases wraps with
  | itself => exact known
  | included template _ =>
    intro same
    cases same

theorem EngineError.Wraps.inner? {base e : EngineError} (wraps : base.Wraps e) :
    e.inner? = base.inner? := by
  induction wraps with
  | itself => rfl
  | included template _ ih => exact ih

/-- A computation of the engine, as far as it can be told without the services it calls on: it ends,
    or it asks for a render or for a template and goes on with the answer. -/
inductive Dialogue (α : Type) where
  | done (outcome : Except EngineError α) (s : State)
  | nest (q : Request) (next : Except RenderError String → State → Dialogue α)
  | load (name : String) (s : State) (next : Except EngineError (List Node) → State → Dialogue α)

namespace Dialogue

variable {α β : Type}

def follow (services : Services) : Dialogue α → Except EngineError α × State
  | done outcome s => (outcome, s)
  | nest q next =>
    (next (q.answer services.nested).1 (q.answer services.nested).2).follow services
  | load name s next =>
    (next ((services.load name).run.run s).1 ((services.load name).run.run s).2).follow services

def andThen (k : Except EngineError α → State → Dialogue β) : Dialogue α → Dialogue β
  | done outcome s => k outcome s
  | nest q next => nest q fun answer s => (next answer s).andThen k
  | load name s next => load name s fun answer s => (next answer s).andThen k

/-- From the state a dialogue starts in to the first question, and from each answer to the next
    question or the end, the state moves as `M` allows. -/
def Moves (M : State → State → Prop) : Dialogue α → State → Prop
  | done _ s', s => M s s'
  | nest q next, s => M s q.state ∧ ∀ answer s', (next answer s').Moves M s'
  | load _ asked next, s => M s asked ∧ ∀ answer s', (next answer s').Moves M s'

def Fails (base : EngineError) (s : State) (d : Dialogue α) : Prop :=
  ∃ e, base.Wraps e ∧ d = done (.error e) s

/-- Where a service fails, the dialogue fails with an error that wraps the one of the service. -/
def Strict : Dialogue α → Prop
  | done _ _ => True
  | nest _ next =>
    (∀ answer s, (next answer s).Strict) ∧
      ∀ fault s, (next (.error fault) s).Fails (View.nestedFault fault) s
  | load _ _ next =>
    (∀ answer s, (next answer s).Strict) ∧
      ∀ fault s, fault.kind ≠ .unknownMethod → (next (.error fault) s).Fails fault s

/-- As long as the templates that are found leave the render `shown` to be seen, all renders are
    asked for within it, and a result is as `post` says. -/
def Within (shown : RenderScope) (post : α → Prop) : Dialogue α → Prop
  | done outcome _ => ∀ a, outcome = .ok a → post a
  | nest q next => q.parent? = some shown ∧ ∀ answer s, (next answer s).Within shown post
  | load _ _ next => ∀ answer s, (∀ nodes, answer = .ok nodes → spareAll nodes = true) →
    (next answer s).Within shown post

theorem follow_andThen (services : Services) (k : Except EngineError α → State → Dialogue β)
    (d : Dialogue α) : (d.andThen k).follow services =
      (k (d.follow services).1 (d.follow services).2).follow services := by
  induction d with
  | done outcome s => rfl
  | nest q next ih => exact ih _ _
  | load name s next ih => exact ih _ _

section

variable {M : State → State → Prop} [IsPreorder State M]

theorem Moves.after {d : Dialogue α} {s s' : State} (start : M s s') (moves : d.Moves M s') :
    d.Moves M s := by
  cases d with
  | done outcome s'' => exact trans_of M start moves
  | nest q next => exact ⟨trans_of M start moves.1, moves.2⟩
  | load name asked next => exact ⟨trans_of M start moves.1, moves.2⟩

theorem Moves.andThen {k : Except EngineError α → State → Dialogue β}
    (later : ∀ outcome s, (k outcome s).Moves M s) {d : Dialogue α} {s : State}
    (moves : d.Moves M s) : (d.andThen k).Moves M s := by
  induction d generalizing s with
  | done outcome s' => exact (later outcome s').after moves
  | nest q next ih => exact ⟨moves.1, fun answer s' => ih answer s' (moves.2 answer s')⟩
  | load name asked next ih => exact ⟨moves.1, fun answer s' => ih answer s' (moves.2 answer s')⟩

end

theorem Strict.andThen {k : Except EngineError α → State → Dialogue β}
    (later : ∀ outcome s, (k outcome s).Strict)
    (passed : ∀ (base e : EngineError) s, base.kind ≠ .unknownMethod → base.Wraps e →
      (k (.error e) s).Fails base s)
    {d : Dialogue α} (strict : d.Strict) : (d.andThen k).Strict := by
  induction d with
  | done outcome s => exact later outcome s
  | nest q next ih =>
    refine ⟨fun answer s => ih answer s (strict.1 answer s), ?_⟩
    intro fault s
    obtain ⟨e, wrapped, ended⟩ := strict.2 fault s
    have known : (View.nestedFault fault).kind ≠ .unknownMethod := nofun
    simp only [ended]
    exact passed _ e s known wrapped
  | load name asked next ih =>
    refine ⟨fun answer s => ih answer s (strict.1 answer s), ?_⟩
    intro fault s known
    obtain ⟨e, wrapped, ended⟩ := strict.2 fault s known
    simp only [ended]
    exact passed _ e s known wrapped

theorem Within.andThen {shown : RenderScope} {post : α → Prop} {post' : β → Prop}
    {k : Except EngineError α → State → Dialogue β}
    (result : ∀ a s, post a → (k (.ok a) s).Within shown post')
    (failure : ∀ e s, (k (.error e) s).Within shown post') {d : Dialogue α}
    (within : d.Within shown post) : (d.andThen k).Within shown post' := by
  induction d with
  | done outcome s =>
    cases outcome with
    | error e => exact failure e s
    | ok a => exact result a s (within a rfl)
  | nest q next ih => exact ⟨within.1, fun answer s => ih answer s (within.2 answer s)⟩
  | load name asked next ih =>
    exact fun answer s spares => ih answer s (within answer s spares)

structure Tells (M : State → State → Prop) (c : Services → EngineM α) (s : State)
    (d : Dialogue α) : Prop where
  follow : ∀ services, (c services).run.run s = d.follow services
  moves : d.Moves M s
  strict : d.Strict

/-- Whatever state a computation of the engine starts in, a dialogue tells what it does, and if
    `pre` holds, all renders are asked for within `shown` and the result is as `post` says. -/
def Told (M : State → State → Prop) (shown : RenderScope) (pre : Prop) (post : α → Prop)
    (c : Services → EngineM α) : Prop :=
  ∀ s, ∃ d, Tells M c s d ∧ (pre → d.Within shown post)

namespace Told

variable {M : State → State → Prop} {shown : RenderScope} {pre : Prop} {post : α → Prop}
  {post' : β → Prop}

theorem given {pre' : Prop} {c : Services → EngineM α} (told : Told M shown pre' post c)
    (implied : pre → pre') : Told M shown pre post c := by
  intro s
  obtain ⟨d, tells, within⟩ := told s
  exact ⟨d, tells, fun holds => within (implied holds)⟩

theorem of_moves {x : EngineM α} (moves : Fallible.Moves M x)
    (result : ∀ s a, (x.run.run s).1 = .ok a → pre → post a) :
    Told M shown pre post fun _ => x := by
  intro s
  refine ⟨.done (x.run.run s).1 (x.run.run s).2, ⟨fun _ => rfl, moves s, trivial⟩, ?_⟩
  exact fun holds a found => result s a found holds

theorem of_quiet {x : EngineM α} (moves : Fallible.Moves M x) :
    Told M shown pre anything fun _ => x :=
  of_moves moves fun _ _ _ _ => trivial

variable [IsPreorder State M]

theorem pure {a : α} (holds : pre → post a) : Told M shown pre post fun _ => Pure.pure a := by
  refine of_moves Fallible.moves_pure ?_
  rintro s a' ⟨⟩
  exact holds

theorem value {a : α} : Told M shown pre anything fun _ => Pure.pure a :=
  of_quiet Fallible.moves_pure

theorem throw {e : EngineError} : Told M shown pre post fun _ => MonadExcept.throw e := by
  refine of_moves Fallible.moves_throw ?_
  rintro s a ⟨⟩

theorem throw_bind {e : EngineError} {f : α → Services → EngineM β} :
    Told M shown pre post' fun services => MonadExcept.throw e >>= fun a => f a services :=
  throw

theorem ofExcept {outcome : Except EngineError α}
    (result : ∀ a, outcome = .ok a → pre → post a) :
    Told M shown pre post fun _ => liftM outcome :=
  of_moves (Fallible.moves_ofExcept outcome) fun _ => result

theorem get : Told M shown pre anything fun _ => MonadState.get :=
  of_quiet Fallible.moves_get

/-- A computation that goes on with the outcome of another one. It may go on behind a failure only
    if that is no failure of a service. -/
theorem resume {c : Services → EngineM α} {c' : Services → EngineM β}
    {g : Except EngineError α → Services → EngineM β}
    (runs : ∀ services s, (c' services).run.run s =
      (g ((c services).run.run s).1 services).run.run ((c services).run.run s).2)
    (first : Told M shown pre post c) (result : ∀ a, Told M shown (pre ∧ post a) post' (g (.ok a)))
    (failure : ∀ e, (∃ e', (∀ services, g (.error e) services = MonadExcept.throw e') ∧
        ∀ base : EngineError, base.Wraps e → base.Wraps e') ∨
      e.kind = .unknownMethod ∧ Told M shown pre post' (g (.error e))) :
    Told M shown pre post' c' := by
  have behind (outcome : Except EngineError α) (s : State) :
      ∃ d : Dialogue β, Tells M (g outcome) s d ∧
        (pre → (∀ a, outcome = .ok a → post a) → d.Within shown post') ∧
        ∀ e, outcome = .error e → ∀ base : EngineError, base.kind ≠ .unknownMethod →
          base.Wraps e → d.Fails base s := by
    cases outcome with
    | ok a =>
      obtain ⟨d, tells, within⟩ := result a s
      refine ⟨d, tells, fun holds found => within ⟨holds, found a rfl⟩, ?_⟩
      rintro e ⟨⟩
    | error e =>
      rcases failure e with ⟨e', thrown, wraps⟩ | ⟨unknown, told⟩
      · refine ⟨.done (.error e') s, ⟨?_, refl_of M s, trivial⟩, ?_, ?_⟩
        · intro services
          rw [thrown services]
          rfl
        · rintro - - b ⟨⟩
        · rintro _ ⟨⟩ base - wrapped
          exact ⟨e', wraps base wrapped, rfl⟩
      · obtain ⟨d, tells, within⟩ := told s
        refine ⟨d, tells, fun holds _ => within holds, ?_⟩
        rintro _ ⟨⟩ base known wrapped
        exact absurd unknown (wrapped.kind_ne known)
  choose k tells within fails using behind
  intro s
  obtain ⟨d, tells', within'⟩ := first s
  refine ⟨d.andThen k, ⟨?_, ?_, ?_⟩, fun holds => ?_⟩
  · intro services
    rw [runs, follow_andThen, ← tells'.follow services]
    exact (tells _ _).follow services
  · exact Moves.andThen (fun outcome s' => (tells outcome s').moves) tells'.moves
  · refine Strict.andThen (fun outcome s' => (tells outcome s').strict) ?_ tells'.strict
    exact fun base e s' known wrapped => fails (.error e) s' e rfl base known wrapped
  · refine Within.andThen ?_ ?_ (within' holds)
    · rintro a s' found
      refine within (.ok a) s' holds ?_
      rintro _ ⟨⟩
      exact found
    · rintro e s'
      refine within (.error e) s' holds ?_
      rintro _ ⟨⟩

theorem bind {c : Services → EngineM α} {f : α → Services → EngineM β}
    (first : Told M shown pre post c) (next : ∀ a, Told M shown (pre ∧ post a) post' (f a)) :
    Told M shown pre post' fun services => c services >>= fun a => f a services := by
  let g (outcome : Except EngineError α) (services : Services) : EngineM β :=
    match outcome with
    | .ok a => f a services
    | .error e => MonadExcept.throw e
  refine resume (g := g) ?_ first next ?_
  · intro services s
    rw [ExceptT.run_bind, StateT.run_bind]
    cases (c services).run.run s with
    | mk outcome s' => cases outcome <;> rfl
  · exact fun e => .inl ⟨e, fun _ => rfl, fun _ wrapped => wrapped⟩

theorem tryCatch {c : Services → EngineM α} {f : EngineError → Services → EngineM α}
    (first : Told M shown pre post c)
    (next : ∀ e, e.kind = .unknownMethod → Told M shown pre post (f e))
    (passed : ∀ e, e.kind ≠ .unknownMethod → ∀ services, f e services = MonadExcept.throw e) :
    Told M shown pre post fun services =>
      MonadExcept.tryCatch (c services) fun e => f e services := by
  let g (outcome : Except EngineError α) (services : Services) : EngineM α :=
    match outcome with
    | .ok a => Pure.pure a
    | .error e => f e services
  refine resume (g := g) ?_ first (fun a => pure fun holds => holds.2) ?_
  · intro services s
    rw [ExceptT.run_tryCatch, StateT.run_bind]
    cases (c services).run.run s with
    | mk outcome s' => cases outcome <;> rfl
  · intro e
    by_cases unknown : e.kind = .unknownMethod
    · exact .inr ⟨unknown, next e unknown⟩
    · exact .inl ⟨e, passed e unknown, fun _ wrapped => wrapped⟩

theorem adapt {c : Services → EngineM α} {f : EngineError → EngineError}
    (first : Told M shown pre post c)
    (wraps : ∀ base e : EngineError, base.Wraps e → base.Wraps (f e)) :
    Told M shown pre post fun services => (c services).adapt f := by
  let g (outcome : Except EngineError α) (_ : Services) : EngineM α :=
    match outcome with
    | .ok a => Pure.pure a
    | .error e => MonadExcept.throw (f e)
  refine resume (g := g) ?_ first (fun a => pure fun holds => holds.2) ?_
  · intro services s
    change (((c services).run.run s).1.mapError f, ((c services).run.run s).2) = _
    cases ((c services).run.run s).1 <;> rfl
  · exact fun e => .inl ⟨f e, fun _ => rfl, fun base wrapped => wraps base e wrapped⟩

theorem discard {c : Services → EngineM α} (first : Told M shown pre post c) :
    Told M shown pre anything fun services => Functor.discard (c services) := by
  have step (services : Services) : Functor.discard (c services) =
      c services >>= fun _ => Pure.pure () := by
    rw [bind_pure_comp]
    rfl
  simp only [step]
  exact bind first fun _ => pure fun _ => trivial

theorem foldlM {γ : Type} (post : α → Prop) {f : α → γ → Services → EngineM α} {items : List γ}
    (step : ∀ a item, Told M shown (pre ∧ post a) post (f a item)) {a : α} (holds : pre → post a) :
    Told M shown pre post fun services => items.foldlM (fun a item => f a item services) a := by
  induction items generalizing a pre with
  | nil => exact pure holds
  | cons item rest ih =>
    simp only [List.foldlM_cons]
    refine bind ((step a item).given fun start => ⟨start, holds start⟩) fun a' => ?_
    exact ih (fun a item => (step a item).given fun found => ⟨found.1.1, found.2⟩)
      fun found => found.2

theorem renderNested (scope? : Option RenderScope) (topic : TopicId) :
    Told M shown (scope? = some shown) anything fun services =>
      View.renderNested services.nested scope? topic := by
  intro s
  let q : Request := ⟨scope?, topic, s⟩
  let answered : Except RenderError String → Except EngineError Value
    | .ok html => .ok (.safe html)
    | .error fault => .error (View.nestedFault fault)
  refine ⟨.nest q fun answer s' => .done (answered answer) s', ⟨?_, ?_, ?_⟩, ?_⟩
  · intro services
    have asked : (View.renderNested services.nested scope? topic).run.run s =
        (answered (q.answer services.nested).1, (q.answer services.nested).2) := by
      have same : (services.nested scope? topic).run s = q.answer services.nested := rfl
      change View.renderNested services.nested scope? topic s = _
      rw [View.renderNested, same]
      cases q.answer services.nested with
      | mk outcome s' => cases outcome <;> rfl
    exact asked
  · exact ⟨refl_of M s, fun _ s' => refl_of M s'⟩
  · exact ⟨fun _ _ => trivial, fun fault s' => ⟨View.nestedFault fault, .itself, rfl⟩⟩
  · exact fun seen => ⟨seen, fun _ _ _ _ => trivial⟩

theorem load (name : String) :
    Told M shown pre (fun nodes => spareAll nodes = true) fun services => services.load name := by
  intro s
  refine ⟨.load name s fun answer s' => .done answer s', ⟨fun _ => rfl, ?_, ?_⟩, ?_⟩
  · exact ⟨refl_of M s, fun _ s' => refl_of M s'⟩
  · exact ⟨fun _ _ => trivial, fun fault s' _ => ⟨fault, .itself, rfl⟩⟩
  · exact fun _ _ _ spares => spares

end Told

end Dialogue

end TopicWiki
