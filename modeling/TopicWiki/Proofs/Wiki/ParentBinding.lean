import TopicWiki.Proofs.Wiki.Filing

namespace TopicWiki

namespace Store

def cached? (store : Store) (category : CategoryId) (ident : String) : Option TopicId :=
  ((store.categoryAt category).lookups.find? ident).filter store.isAlive

def named? (store : Store) (topic : TopicId) : Option CategoryId :=
  if (store.topicAt topic).categoryIdent.isAllBlank then none
  else store.category? (store.topicAt topic).categoryIdent

variable {store : Store} {category : CategoryId} {ident : String} {id : TopicId}

theorem topicOf?_of_cached (cached : store.cached? category ident = some id) :
    store.topicOf? category ident = (store, some id) := by
  obtain ⟨known, alive⟩ := Option.filter_eq_some_iff.mp cached
  unfold topicOf?
  rw [known]
  exact if_pos alive

theorem topicOf?_of_uncached (uncached : store.cached? category ident = none) :
    store.topicOf? category ident = Store.topicOf?.fresh store category ident := by
  unfold topicOf?
  split
  · rename_i id known
    refine if_neg fun alive => ?_
    rw [cached?, known, Option.filter_some_pos alive] at uncached
    cases uncached
  · rfl

theorem topicAt_of_absent (absent : store.topics.length ≤ id.index) :
    store.topicAt id = default := by
  rw [topicAt, List.getD_eq_getElem?_getD, List.getElem?_eq_none absent, Option.getD_none]

theorem parent?_insertTopic (store : Store) (category : String) (document : Document)
    (id : TopicId) :
    ((store.insertTopic category document).1.topicAt id).parent? = (store.topicAt id).parent? := by
  rcases Nat.lt_or_ge id.index store.topics.length with old | new
  · simp only [insertTopic, topicAt, List.getD_eq_getElem?_getD]
    rw [List.getElem?_append_left old]
  · rw [topicAt_of_absent new]
    simp only [insertTopic, topicAt, List.getD_eq_getElem?_getD]
    rw [List.getElem?_append_right new]
    cases id.index - store.topics.length <;> rfl

theorem present_of_topicIdent? (named : store.topicIdent? id = some ident) :
    id.index < store.topics.length := by
  obtain ⟨topic, present, -⟩ := Option.map_eq_some_iff.mp named
  exact (List.getElem?_eq_some_iff.mp present).1

theorem present_of_named? (named : store.named? id = some category) :
    id.index < store.topics.length := by
  rcases Nat.lt_or_ge id.index store.topics.length with present | absent
  · exact present
  · rw [named?, topicAt_of_absent absent] at named
    cases named

theorem categoryOf?_eq (store : Store) (id : TopicId) :
    store.categoryOf? id =
      match (store.topicAt id).parent?, store.named? id with
      | some parent, _ => (store, some parent)
      | none, none => (store, none)
      | none, some category =>
        (store.modifyTopic id fun t => { t with parent? := some category }, some category) := by
  unfold categoryOf? named?
  simp only
  cases (store.topicAt id).parent? with
  | some parent => rfl
  | none =>
    simp only
    split
    · rfl
    · cases store.category? (store.topicAt id).categoryIdent <;> rfl

theorem categoryOf?_snd (store : Store) (id : TopicId) :
    (store.categoryOf? id).2 = (store.topicAt id).parent?.or (store.named? id) := by
  rw [categoryOf?_eq]
  split <;> simp [*]

theorem parent?_categoryOf? (store : Store) (id other : TopicId) :
    ((store.categoryOf? id).1.topicAt other).parent? =
      if id = other then (store.categoryOf? id).2 else (store.topicAt other).parent? := by
  rw [categoryOf?_eq]
  by_cases same : id = other
  · subst same
    rw [if_pos rfl]
    split
    · assumption
    · assumption
    · rename_i named
      -- only a topic of the store has an ident to resolve, so the change reaches it
      rw [topicAt_modifyTopic, if_pos ⟨rfl, present_of_named? named⟩]
  · rw [if_neg same]
    split
    · rfl
    · rfl
    · rw [topicAt_modifyTopic, if_neg fun both => same both.1]

theorem Filed.parent?_topicOf? (filed : store.Filed) (category : CategoryId) (ident : String)
    (id : TopicId) :
    ((store.topicOf? category ident).1.topicAt id).parent? =
      if store.cached? category ident = none ∧ (store.topicOf? category ident).2 = some id
      then some category else (store.topicAt id).parent? := by
  cases cached : store.cached? category ident with
  | some known => rw [topicOf?_of_cached cached, if_neg (by simp)]
  | none =>
    have named := (filed.topicOf? category ident).2
    rw [topicOf?_of_uncached cached] at named ⊢
    unfold Store.topicOf?.fresh at named ⊢
    cases found : store.topic? (store.categoryAt category).document.ident ident with
    | none => simp
    | some topic =>
      rw [found] at named
      have present := present_of_topicIdent? (named topic rfl)
      change ((store.modifyTopic topic _).topicAt id).parent? = _
      rw [topicAt_modifyTopic]
      by_cases same : topic = id
      · subst same
        simp [present]
      · simp [same]

end Store

inductive Handling where
  | file (step : Filing)
  | hold (topics : List TopicId)

namespace Handling

def run (s : State) : Handling → State
  | file step => step.run s
  | hold topics => { s with store := { s.store with held := topics } }

/-- A step makes a topic a child of a category, or makes it forget its parent. -/
inductive Settles (s : State) (id : TopicId) : Handling → Option CategoryId → Prop where
  | moved (category : CategoryId) (parentOnly : Bool) (present : id.index < s.store.topics.length) :
    Settles s id (.file (.setCategory id category parentOnly)) (some category)
  | forgotten (present : id.index < s.store.topics.length) :
    Settles s id (.file (.resetCategory id)) none
  | found (category : CategoryId) (ident : String)
      (uncached : s.store.cached? category ident = none)
      (found : (s.store.topicOf? category ident).2 = some id) :
    Settles s id (.file (.topicOf category ident)) (some category)
  | asked (category : CategoryId) (orphan : (s.store.topicAt id).parent? = none)
      (named : s.store.named? id = some category) :
    Settles s id (.file (.categoryOf id)) (some category)

def Untouched (id : TopicId) : State → List Handling → Prop
  | _, [] => True
  | s, step :: rest => (∀ parent?, ¬ Settles s id step parent?) ∧ Untouched id (step.run s) rest

def LastSettled (s : State) (steps : List Handling) (id : TopicId) (parent? : Option CategoryId) :
    Prop :=
  ∃ before step after, steps = before ++ step :: after ∧
    Settles (before.foldl run s) id step parent? ∧
    Untouched id (step.run (before.foldl run s)) after

variable {s : State} {step : Handling} {steps : List Handling} {id : TopicId}
  {parent? : Option CategoryId}

theorem run_filed (filed : s.Filed) (step : Handling) : (step.run s).Filed := by
  cases step with
  | file step => exact Filing.run_filed filed step
  | hold topics =>
    exact filed.ofStore ⟨filed.store.categories, filed.store.topics, filed.store.lookups⟩
      fun _ _ named => named

theorem runs_filed (filed : s.Filed) (steps : List Handling) : (steps.foldl run s).Filed :=
  List.foldlRecOn steps run filed fun _ filed step _ => run_filed filed step

theorem Settles.parent?_run (filed : s.Filed) (settles : Settles s id step parent?) :
    ((step.run s).store.topicAt id).parent? = parent? := by
  cases settles with
  | moved category parentOnly present =>
    change ((s.store.modifyTopic id _).topicAt id).parent? = _
    rw [Store.topicAt_modifyTopic, if_pos ⟨rfl, present⟩]
  | forgotten present =>
    change ((s.store.modifyTopic id _).topicAt id).parent? = _
    rw [Store.topicAt_modifyTopic, if_pos ⟨rfl, present⟩]
  | found category ident uncached found =>
    change ((s.store.topicOf? category ident).1.topicAt id).parent? = _
    rw [filed.store.parent?_topicOf?, if_pos ⟨uncached, found⟩]
  | asked category orphan named =>
    change ((s.store.categoryOf? id).1.topicAt id).parent? = _
    rw [Store.parent?_categoryOf?, if_pos rfl, Store.categoryOf?_snd, orphan, named, Option.none_or]

theorem parent?_run_of_unsettled (filed : s.Filed)
    (unsettled : ∀ parent?, ¬ Settles s id step parent?) :
    ((step.run s).store.topicAt id).parent? = (s.store.topicAt id).parent? := by
  cases step with
  | hold topics => rfl
  | file step =>
    cases step with
    | insertCategory document => rfl
    | setCategoryText category text file? => rfl
    | drop held => rfl
    | insertTopic category document => exact Store.parent?_insertTopic s.store category document id
    | setTopicText topic text file? =>
      change ((s.store.modifyTopic topic _).topicAt id).parent? = _
      rw [Store.topicAt_modifyTopic]
      split <;> rfl
    | setCategory topic category parentOnly =>
      change ((s.store.modifyTopic topic _).topicAt id).parent? = _
      rw [Store.topicAt_modifyTopic, if_neg]
      rintro ⟨rfl, present⟩
      exact unsettled _ (.moved category parentOnly present)
    | resetCategory topic =>
      change ((s.store.modifyTopic topic _).topicAt id).parent? = _
      rw [Store.topicAt_modifyTopic, if_neg]
      rintro ⟨rfl, present⟩
      exact unsettled _ (.forgotten present)
    | findCategory ident =>
      change (((State.findCategory ident).run s).2.store.topicAt id).parent? = _
      rw [State.findCategory_store]
    | topicOf category ident =>
      change ((s.store.topicOf? category ident).1.topicAt id).parent? = _
      rw [filed.store.parent?_topicOf?, if_neg]
      rintro ⟨uncached, found⟩
      exact unsettled _ (.found category ident uncached found)
    | categoryOf topic =>
      change ((s.store.categoryOf? topic).1.topicAt id).parent? = _
      rw [Store.parent?_categoryOf?]
      split
      · rename_i same
        subst same
        rw [Store.categoryOf?_snd]
        cases orphan : (s.store.topicAt topic).parent? with
        | some parent => rfl
        | none =>
          cases named : s.store.named? topic with
          | none => rfl
          | some category => exact absurd (.asked category orphan named) (unsettled _)
      · rfl

theorem Untouched.parent?_runs (filed : s.Filed) (untouched : Untouched id s steps) :
    ((steps.foldl run s).store.topicAt id).parent? = (s.store.topicAt id).parent? := by
  induction steps generalizing s with
  | nil => rfl
  | cons step rest ih =>
    obtain ⟨unsettled, untouched⟩ := untouched
    exact (ih (run_filed filed step) untouched).trans (parent?_run_of_unsettled filed unsettled)

theorem LastSettled.parent?_runs (filed : s.Filed) (settled : LastSettled s steps id parent?) :
    ((steps.foldl run s).store.topicAt id).parent? = parent? := by
  obtain ⟨before, step, after, rfl, settles, untouched⟩ := settled
  have filed := runs_filed filed before
  rw [List.foldl_append, List.foldl_cons, untouched.parent?_runs (run_filed filed step)]
  exact settles.parent?_run filed

theorem LastSettled.cons (settled : LastSettled (step.run s) steps id parent?) :
    LastSettled s (step :: steps) id parent? := by
  obtain ⟨before, last, after, rfl, settles, untouched⟩ := settled
  exact ⟨step :: before, last, after, rfl, settles, untouched⟩

theorem lastSettled_or_untouched (s : State) (steps : List Handling) (id : TopicId) :
    (∃ parent?, LastSettled s steps id parent?) ∨ Untouched id s steps := by
  induction steps generalizing s with
  | nil => exact .inr trivial
  | cons step rest ih =>
    rcases ih (step.run s) with ⟨parent?, settled⟩ | untouched
    · exact .inl ⟨parent?, settled.cons⟩
    · by_cases settles : ∃ parent?, Settles s id step parent?
      · obtain ⟨parent?, settles⟩ := settles
        exact .inl ⟨parent?, [], step, rest, rfl, settles, untouched⟩
      · exact .inr ⟨not_exists.mp settles, untouched⟩

theorem filed_init : State.Filed {} :=
  Filing.runs_filed []

theorem parent?_eq_some_iff {category : CategoryId} :
    ((steps.foldl run {}).store.topicAt id).parent? = some category ↔
      LastSettled {} steps id (some category) := by
  constructor
  · intro parent
    rcases lastSettled_or_untouched {} steps id with ⟨parent?, settled⟩ | untouched
    · rw [settled.parent?_runs filed_init] at parent
      exact parent ▸ settled
    · rw [untouched.parent?_runs filed_init, Store.topicAt_of_absent (Nat.zero_le _)] at parent
      cases parent
  · exact fun settled => settled.parent?_runs filed_init

/-- The category of a topic that a category has looked up is that category exactly if the topic was
    not in the cache, or was bound to the category last, or is bound to none and resolves to it. -/
theorem lookup_binds_iff (steps : List Handling) (category : CategoryId) (ident : String)
    (id : TopicId) :
    let store := (steps.foldl run {}).store
    (store.topicOf? category ident).2 = some id →
      (((store.topicOf? category ident).1.categoryOf? id).2 = some category ↔
        store.cached? category ident = none ∨ LastSettled {} steps id (some category) ∨
          (∀ other, ¬ LastSettled {} steps id (some other)) ∧ store.named? id = some category) := by
  intro store found
  cases cached : store.cached? category ident with
  | none =>
    have bound : ((store.topicOf? category ident).1.topicAt id).parent? = some category := by
      rw [(runs_filed filed_init steps).store.parent?_topicOf?, if_pos ⟨cached, found⟩]
    rw [Store.categoryOf?_snd, bound]
    simp
  | some known =>
    -- the cache answers before the topic is bound, so its parent is what the history left
    have orphan : (store.topicAt id).parent? = none ↔
        ∀ other, ¬ LastSettled {} steps id (some other) := by
      rw [Option.eq_none_iff_forall_ne_some]
      exact forall_congr' fun other => not_congr parent?_eq_some_iff
    rw [Store.topicOf?_of_cached cached, Store.categoryOf?_snd, Option.or_eq_some_iff,
      parent?_eq_some_iff, orphan]
    simp

def movedAway : List Handling :=
  [.file (.insertCategory { ident := "guide", name := "Guide" }),
    .file (.insertCategory { ident := "other", name := "Other" }),
    .file (.insertTopic "guide" { ident := "intro", name := "Introduction" }),
    .file (.topicOf ⟨0⟩ "intro"), .file (.setCategory ⟨0⟩ ⟨1⟩ true)]

theorem lookup_binds_iff_when_moved_away :
    let store := (movedAway.foldl run {}).store
    (store.topicOf? ⟨0⟩ "intro").2 = some ⟨0⟩ ∧
      (((store.topicOf? ⟨0⟩ "intro").1.categoryOf? ⟨0⟩).2 = some ⟨0⟩ ↔
        store.cached? ⟨0⟩ "intro" = none ∨ LastSettled {} movedAway ⟨0⟩ (some ⟨0⟩) ∨
          (∀ other, ¬ LastSettled {} movedAway ⟨0⟩ (some other)) ∧
            store.named? ⟨0⟩ = some ⟨0⟩) :=
  ⟨by rfl, lookup_binds_iff movedAway ⟨0⟩ "intro" ⟨0⟩ (by rfl)⟩

/-- The lookup finds the topic again, and it is the child of the other category. -/
theorem lookup_leaves_moved_away :
    let store := (movedAway.foldl run {}).store
    (store.topicOf? ⟨0⟩ "intro").2 = some ⟨0⟩ ∧
      ((store.topicOf? ⟨0⟩ "intro").1.categoryOf? ⟨0⟩).2 = some ⟨1⟩ :=
  ⟨by rfl, by rfl⟩

end Handling

end TopicWiki
