import TopicWiki.Wiki.State

namespace TopicWiki

abbrev Fallible (ε : Type) := ExceptT ε Running

/-- Two computations do the same in every state that an invariant allows. They keep the invariant,
    and their results are as `post` says. -/
def Running.Agree {α : Type} (inv : State → Prop) (post : α → Prop) (x y : Running α) : Prop :=
  ∀ s, inv s → x.run s = y.run s ∧ inv (x.run s).2 ∧ post (x.run s).1

/-- Agreement of computations that may fail; `post` is about the results of those that do not. -/
def Fallible.Agree {α ε : Type} (inv : State → Prop) (post : α → Prop) (x y : Fallible ε α) :
    Prop :=
  Running.Agree inv (fun outcome => ∀ a, outcome = .ok a → post a) x.run y.run

def anything {α : Type} (_ : α) : Prop :=
  True

section

variable {inv : State → Prop} {α β ε : Type} {post : α → Prop} {post' : β → Prop}

namespace Running

theorem agree_pure {a : α} (holds : post a) : Agree inv post (pure a) (pure a) :=
  fun _ allowed => ⟨rfl, allowed, holds⟩

theorem agree_bind {x y : Running α} {f g : α → Running β} (first : Agree inv post x y)
    (next : ∀ a, post a → Agree inv post' (f a) (g a)) : Agree inv post' (x >>= f) (y >>= g) := by
  intro s allowed
  obtain ⟨same, allowed', holds⟩ := first s allowed
  obtain ⟨same', allowed'', holds'⟩ := next (x.run s).1 holds (x.run s).2 allowed'
  have left : (x >>= f).run s = (f (x.run s).1).run (x.run s).2 := rfl
  have right : (y >>= g).run s = (g (x.run s).1).run (x.run s).2 := by
    rw [same]
    rfl
  rw [left, right]
  exact ⟨same', allowed'', holds'⟩

theorem agree_get : Agree inv inv get get :=
  fun _ allowed => ⟨rfl, allowed, allowed⟩

theorem agree_modify {f : State → State} (keeps : ∀ s, inv s → inv (f s)) :
    Agree inv anything (modify f) (modify f) :=
  fun s allowed => ⟨rfl, keeps s allowed, trivial⟩

end Running

namespace Fallible

theorem agree_pure {a : α} (holds : post a) : Agree inv post (pure a : Fallible ε α) (pure a) := by
  refine Running.agree_pure ?_
  rintro a' ⟨⟩
  exact holds

theorem agree_throw {e : ε} : Agree inv post (throw e : Fallible ε α) (throw e) := by
  refine Running.agree_pure ?_
  rintro a ⟨⟩

theorem agree_bind {x y : Fallible ε α} {f g : α → Fallible ε β} (first : Agree inv post x y)
    (next : ∀ a, post a → Agree inv post' (f a) (g a)) : Agree inv post' (x >>= f) (y >>= g) := by
  unfold Agree
  rw [ExceptT.run_bind, ExceptT.run_bind]
  refine Running.agree_bind first ?_
  intro outcome holds
  cases outcome with
  | error e =>
    refine Running.agree_pure ?_
    rintro b ⟨⟩
  | ok a => exact next a (holds a rfl)

theorem agree_throw_bind {e : ε} {f g : α → Fallible ε β} :
    Agree inv post' (throw e >>= f) (throw e >>= g) := by
  have thrown : Agree inv (fun _ => False) (throw e : Fallible ε α) (throw e) := agree_throw
  exact agree_bind thrown fun _ impossible => impossible.elim

theorem agree_lift {x y : Running α} (agree : Running.Agree inv post x y) :
    Agree inv post (liftM x : Fallible ε α) (liftM y) := by
  let passed (a : α) : Running (Except ε α) := pure (.ok a)
  change Running.Agree inv _ (x >>= passed) (y >>= passed)
  refine Running.agree_bind agree ?_
  intro a holds
  refine Running.agree_pure ?_
  rintro a' ⟨⟩
  exact holds

theorem agree_ofExcept {e : Except ε α} (holds : ∀ a, e = .ok a → post a) :
    Agree inv post (liftM e : Fallible ε α) (liftM e) :=
  Running.agree_pure holds

theorem agree_ofExcept_self (outcome : Except ε α) :
    Agree inv (fun a => outcome = .ok a) (liftM outcome : Fallible ε α) (liftM outcome) :=
  agree_ofExcept fun _ found => found

theorem agree_adapt {δ : Type} {x y : Fallible ε α} (agree : Agree inv post x y) (f : ε → δ) :
    Agree inv post (x.adapt f) (y.adapt f) := by
  let adapted (outcome : Except ε α) : Running (Except δ α) := pure (outcome.mapError f)
  change Running.Agree inv _ (x.run >>= adapted) (y.run >>= adapted)
  refine Running.agree_bind agree ?_
  intro outcome holds
  refine Running.agree_pure ?_
  cases outcome with
  | error e => rintro a ⟨⟩
  | ok a =>
    rintro a' ⟨⟩
    exact holds a rfl

theorem agree_get : Agree inv inv (get : Fallible ε State) get :=
  agree_lift Running.agree_get

theorem agree_modify {f : State → State} (keeps : ∀ s, inv s → inv (f s)) :
    Agree inv anything (modify f : Fallible ε Unit) (modify f) :=
  agree_lift (Running.agree_modify keeps)

theorem run_bind_of_ok {x : Fallible ε α} {f : α → Fallible ε β} {s s' : State} {a : α}
    (done : x.run.run s = (.ok a, s')) : (x >>= f).run.run s = (f a).run.run s' := by
  rw [ExceptT.run_bind, StateT.run_bind, done]
  rfl

theorem run_bind_of_error {x : Fallible ε α} {f : α → Fallible ε β} {s s' : State} {e : ε}
    (failed : x.run.run s = (.error e, s')) : (x >>= f).run.run s = (.error e, s') := by
  rw [ExceptT.run_bind, StateT.run_bind, failed]
  rfl

theorem run_lift {x : Running α} {s s' : State} {a : α} (ran : x.run s = (a, s')) :
    (liftM x : Fallible ε α).run.run s = (.ok a, s') := by
  change (x >>= fun a => pure (Except.ok a)).run s = _
  rw [StateT.run_bind, ran]
  rfl

theorem run_adapt {δ : Type} (x : Fallible ε α) (f : ε → δ) (s : State) :
    (x.adapt f).run.run s = ((x.run.run s).1.mapError f, (x.run.run s).2) :=
  rfl

theorem run_adapt_of_ok {δ : Type} {x : Fallible ε α} {s s' : State} {a : α}
    (done : x.run.run s = (.ok a, s')) (f : ε → δ) : (x.adapt f).run.run s = (.ok a, s') := by
  rw [run_adapt, done]
  rfl

theorem run_adapt_of_error {δ : Type} {x : Fallible ε α} {s s' : State} {e : ε}
    (failed : x.run.run s = (.error e, s')) (f : ε → δ) :
    (x.adapt f).run.run s = (.error (f e), s') := by
  rw [run_adapt, failed]
  rfl

/-- What starts by reading the state may agree in that one state only. -/
theorem agree_from {f g : State → Fallible ε α} {s : State} (allowed : inv s)
    (next : Agree inv anything (f s) (g s)) :
    (get >>= f).run.run s = (get >>= g).run.run s ∧ inv ((get >>= g).run.run s).2 := by
  obtain ⟨same, allowed', -⟩ := next s allowed
  refine ⟨same, ?_⟩
  change inv ((g s).run.run s).2
  rw [← same]
  exact allowed'

end Fallible

end

end TopicWiki
