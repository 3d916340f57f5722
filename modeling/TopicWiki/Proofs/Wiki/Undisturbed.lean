import Mathlib.Order.Defs.Unbundled
import TopicWiki.Proofs.Wiki.Agreement
import TopicWiki.Wiki.Renderer

namespace TopicWiki

def Running.Moves {α : Type} (M : State → State → Prop) (x : Running α) : Prop :=
  ∀ s, M s (x.run s).2

def Fallible.Moves {α ε : Type} (M : State → State → Prop) (x : Fallible ε α) : Prop :=
  Running.Moves M x.run

section

variable {M : State → State → Prop} {α β ε : Type}

theorem Running.Moves.mono {M' : State → State → Prop} {x : Running α} (moves : Running.Moves M x)
    (wider : ∀ s s', M s s' → M' s s') : Running.Moves M' x :=
  fun s => wider _ _ (moves s)

theorem Fallible.moves_lift {x : Running α} (moves : Running.Moves M x) :
    Fallible.Moves M (liftM x : Fallible ε α) :=
  moves

theorem Fallible.moves_adapt {δ : Type} {x : Fallible ε α} (moves : Fallible.Moves M x)
    (f : ε → δ) : Fallible.Moves M (x.adapt f) :=
  fun s => moves s

variable [IsPreorder State M]

namespace Running

theorem moves_pure {a : α} : Moves M (pure a) :=
  refl_of M

theorem moves_bind {x : Running α} {f : α → Running β} (first : Moves M x)
    (next : ∀ a, Moves M (f a)) : Moves M (x >>= f) :=
  fun s => trans_of M (first s) (next (x.run s).1 (x.run s).2)

theorem moves_get : Moves M (get : Running State) :=
  refl_of M

end Running

namespace Fallible

theorem moves_pure {a : α} : Moves M (pure a : Fallible ε α) :=
  refl_of M

theorem moves_throw {e : ε} : Moves M (throw e : Fallible ε α) :=
  refl_of M

theorem moves_ofExcept (outcome : Except ε α) : Moves M (liftM outcome : Fallible ε α) :=
  refl_of M

theorem moves_get : Moves M (get : Fallible ε State) :=
  refl_of M

theorem moves_bind {x : Fallible ε α} {f : α → Fallible ε β} (first : Moves M x)
    (next : ∀ a, Moves M (f a)) : Moves M (x >>= f) := by
  unfold Moves
  rw [ExceptT.run_bind]
  refine Running.moves_bind first ?_
  intro outcome
  cases outcome with
  | error e => exact Running.moves_pure
  | ok a => exact next a

end Fallible

end

structure SameTexts (s s' : State) : Prop where
  sources : s'.sources = s.sources
  templates : s'.templates = s.templates
  categories : ∀ id, s'.categoryDocument id = s.categoryDocument id
  topics : ∀ id, s'.topicDocument id = s.topicDocument id

structure SameDocuments (store store' : Store) : Prop where
  categories : ∀ id, (store'.categoryAt id).document = (store.categoryAt id).document
  topics : ∀ id, (store'.topicAt id).document = (store.topicAt id).document

theorem SameDocuments.refl (store : Store) : SameDocuments store store :=
  ⟨fun _ => rfl, fun _ => rfl⟩

theorem SameDocuments.trans {store store' store'' : Store} (first : SameDocuments store store')
    (second : SameDocuments store' store'') : SameDocuments store store'' where
  categories id := (second.categories id).trans (first.categories id)
  topics id := (second.topics id).trans (first.topics id)

theorem sameDocuments_modifyCategory (store : Store) (id : CategoryId) (f : Category → Category)
    (keeps : ∀ c, (f c).document = c.document) :
    SameDocuments store (store.modifyCategory id f) := by
  refine ⟨fun id' => ?_, fun _ => rfl⟩
  simp only [Store.modifyCategory, Store.categoryAt, List.getD_eq_getElem?_getD,
    List.getElem?_modify]
  split
  · cases store.categories[id'.index]? with
    | none => rfl
    | some category => exact keeps category
  · simp

theorem Store.topicAt_modifyTopic (store : Store) (id other : TopicId) (f : Topic → Topic) :
    (store.modifyTopic id f).topicAt other =
      if id = other ∧ other.index < store.topics.length then f (store.topicAt other)
      else store.topicAt other := by
  obtain ⟨place⟩ := id
  obtain ⟨index⟩ := other
  simp only [Store.modifyTopic, Store.topicAt, List.getD_eq_getElem?_getD, List.getElem?_modify]
  by_cases same : place = index
  · by_cases present : index < store.topics.length <;> simp [same, present]
  · simp [same]

theorem sameDocuments_modifyTopic (store : Store) (id : TopicId) (f : Topic → Topic)
    (keeps : ∀ t, (f t).document = t.document) : SameDocuments store (store.modifyTopic id f) := by
  refine ⟨fun _ => rfl, fun other => ?_⟩
  rw [Store.topicAt_modifyTopic]
  split
  · exact keeps _
  · rfl

theorem sameDocuments_topicOf? (store : Store) (category : CategoryId) (ident : String) :
    SameDocuments store (store.topicOf? category ident).1 := by
  have fresh : SameDocuments store (Store.topicOf?.fresh store category ident).1 := by
    unfold Store.topicOf?.fresh
    split
    · exact SameDocuments.refl store
    · refine SameDocuments.trans ?_ (sameDocuments_modifyCategory _ _ _ (by intro c; rfl))
      exact sameDocuments_modifyTopic store _ _ (by intro t; rfl)
  unfold Store.topicOf?
  split
  · split
    · exact SameDocuments.refl store
    · exact fresh
  · exact fresh

theorem sameDocuments_categoryOf? (store : Store) (topic : TopicId) :
    SameDocuments store (store.categoryOf? topic).1 := by
  unfold Store.categoryOf?
  simp only
  split
  · exact SameDocuments.refl store
  · split
    · exact SameDocuments.refl store
    · split
      · exact SameDocuments.refl store
      · exact sameDocuments_modifyTopic store topic _ (by intro t; rfl)

theorem category?_topicOf? (store : Store) (category : CategoryId) (ident : String) :
    (store.topicOf? category ident).1.category? = store.category? := by
  unfold Store.topicOf? Store.topicOf?.fresh
  repeat' split
  all_goals rfl

theorem category?_categoryOf? (store : Store) (topic : TopicId) :
    (store.categoryOf? topic).1.category? = store.category? := by
  unfold Store.categoryOf?
  simp only
  repeat' split
  all_goals rfl

/-- The category that is found under an ident: one that is known, or else one of the store. -/
def State.category? (s : State) (ident : String) : Option CategoryId :=
  (s.knownCategories.find? ident).or (s.store.category? ident)

/-- What lookups, elements and the log have no part in. -/
structure Undisturbed (s s' : State) : Prop extends SameTexts s s' where
  outputs : s'.outputs = s.outputs
  found : ∀ ident, s'.category? ident = s.category? ident

instance : IsPreorder State Undisturbed where
  refl _ := ⟨⟨rfl, rfl, fun _ => rfl, fun _ => rfl⟩, rfl, fun _ => rfl⟩
  trans _ _ _ first second :=
    { sources := second.sources.trans first.sources
      templates := second.templates.trans first.templates
      categories := fun id => (second.categories id).trans (first.categories id)
      topics := fun id => (second.topics id).trans (first.topics id)
      outputs := second.outputs.trans first.outputs
      found := fun ident => (second.found ident).trans (first.found ident) }

def Running.Quiet {α : Type} (x : Running α) : Prop :=
  Running.Moves Undisturbed x

def Fallible.Quiet {α ε : Type} (x : Fallible ε α) : Prop :=
  Fallible.Moves Undisturbed x

namespace State

theorem quiet_note (level : LogLevel) (message : String) : Running.Quiet (note level message) :=
  fun _ => ⟨⟨rfl, rfl, fun _ => rfl, fun _ => rfl⟩, rfl, fun _ => rfl⟩

theorem quiet_reading (outcome : Except ContentError String × Option String) :
    Running.Quiet (reading outcome) := by
  unfold reading
  split
  · exact Running.moves_bind (quiet_note _ _) fun _ => Running.moves_pure
  · exact Running.moves_pure

theorem reading_result (outcome : Except ContentError String × Option String) (s : State) :
    ((reading outcome).run s).1 = outcome.1 := by
  unfold reading
  split <;> rfl

theorem quiet_readText (document : Document) : Running.Quiet (readText document) :=
  Running.moves_bind (quiet_reading _) fun _ => Running.moves_pure

theorem readText_result (document : Document) (s : State) :
    ((readText document).run s).1 = document.text?.getD "" := by
  have read := reading_result (document.text .none .all) s
  unfold readText
  rw [StateT.run_bind]
  cases ran : (reading (document.text .none .all)).run s with
  | mk outcome s' =>
    rw [ran] at read
    subst read
    unfold Document.text
    cases document.text? <;> rfl

theorem quiet_onStore {α : Type} {f : Store → Store × α}
    (same : ∀ store, SameDocuments store (f store).1)
    (found : ∀ store, (f store).1.category? = store.category?) : Running.Quiet (onStore f) := by
  intro s
  refine ⟨⟨rfl, rfl, (same s.store).categories, (same s.store).topics⟩, rfl, ?_⟩
  intro ident
  have index := congrFun (found s.store) ident
  exact congrArg (fun id? => (s.knownCategories.find? ident).or id?) index

theorem quiet_topicOf (category : CategoryId) (ident : String) :
    Running.Quiet (topicOf category ident) :=
  quiet_onStore (fun store => sameDocuments_topicOf? store category ident)
    fun store => category?_topicOf? store category ident

theorem quiet_categoryOf (topic : TopicId) : Running.Quiet (categoryOf topic) :=
  quiet_onStore (fun store => sameDocuments_categoryOf? store topic)
    fun store => category?_categoryOf? store topic

theorem category?_insert {s : State} {ident : String} {id : CategoryId}
    (unknown : s.knownCategories.find? ident = none) (present : s.store.category? ident = some id)
    (other : String) :
    { s with knownCategories := s.knownCategories.insert ident id }.category? other =
      s.category? other := by
  unfold State.category?
  by_cases same : other = ident
  · subst same
    rw [Dictionary.find?_insert_self, unknown, present]
    rfl
  · rw [Dictionary.find?_insert_of_ne _ same]

theorem findCategory_run (ident : String) (s : State) :
    ((findCategory ident).run s).1 = s.category? ident ∧
      Undisturbed s ((findCategory ident).run s).2 := by
  unfold findCategory
  rw [StateT.run_bind, StateT.run_get]
  cases known : s.knownCategories.find? ident with
  | some id =>
    simp only [pure_bind, known, State.category?, Option.some_or]
    exact ⟨rfl, refl_of Undisturbed s⟩
  | none =>
    cases present : s.store.category? ident with
    | none =>
      simp only [pure_bind, known, present, State.category?, Option.none_or]
      exact ⟨rfl, refl_of Undisturbed s⟩
    | some id =>
      simp only [pure_bind, known, present]
      have found := category?_insert known present
      refine ⟨?_, ⟨rfl, rfl, fun _ => rfl, fun _ => rfl⟩, rfl, found⟩
      rw [State.category?, known, present]
      rfl

theorem findCategory_store (ident : String) (s : State) :
    ((findCategory ident).run s).2.store = s.store := by
  unfold findCategory
  rw [StateT.run_bind, StateT.run_get, pure_bind]
  split
  · rfl
  · split <;> rfl

theorem quiet_findCategory (ident : String) : Running.Quiet (findCategory ident) :=
  fun s => (findCategory_run ident s).2

theorem quiet_topicIn (category ident : String) : Running.Quiet (topicIn category ident) := by
  refine Running.moves_bind (quiet_findCategory category) ?_
  intro found?
  cases found? with
  | none => exact Running.moves_pure
  | some id => exact quiet_topicOf id ident

theorem quiet_newElement (element : Element) : Running.Quiet (newElement element) :=
  fun _ => ⟨⟨rfl, rfl, fun _ => rfl, fun _ => rfl⟩, rfl, fun _ => rfl⟩

theorem quiet_changeElement (id : ElementId) (f : Element → Element) :
    Running.Quiet (changeElement id f) :=
  fun _ => ⟨⟨rfl, rfl, fun _ => rfl, fun _ => rfl⟩, rfl, fun _ => rfl⟩

theorem resolveSource_of_known {name source : String} {s : State}
    (known : s.sources.find? name = some source) :
    (resolveSource name).run.run s =
      (.ok source, ((note .trace ("source cache hit for '" ++ name ++ "'")).run s).2) := by
  have started : (get : ExceptT LoaderError Running State).run.run s = (.ok s, s) := rfl
  unfold resolveSource
  rw [Fallible.run_bind_of_ok started]
  simp only [known]
  rfl

theorem resolveSource_moves {M : State → State → Prop} [IsPreorder State M]
    (quiet : ∀ s s', Undisturbed s s' → M s s')
    (sources : ∀ s name text, M s { s with sources := s.sources.insert name text })
    (name : String) : Fallible.Moves M (resolveSource name) := by
  refine Fallible.moves_bind Fallible.moves_get fun s => ?_
  split
  · refine Fallible.moves_bind (Fallible.moves_lift ((quiet_note _ _).mono quiet)) ?_
    exact fun _ => Fallible.moves_pure
  · split
    · exact Fallible.moves_throw
    · refine Fallible.moves_bind (Fallible.moves_lift ((quiet_findCategory _).mono quiet)) ?_
      intro found?
      cases found? with
      | none => exact Fallible.moves_throw
      | some id =>
        refine Fallible.moves_bind Fallible.moves_get fun s' => ?_
        refine Fallible.moves_bind (Fallible.moves_lift ((quiet_reading _).mono quiet)) ?_
        intro outcome
        cases outcome with
        | error fault => exact Fallible.moves_throw
        | ok text =>
          refine Fallible.moves_bind (Fallible.moves_lift ((quiet_note _ _).mono quiet)) ?_
          intro _
          exact Fallible.moves_bind (fun s => sources s _ _) fun _ => Fallible.moves_pure

end State

end TopicWiki
