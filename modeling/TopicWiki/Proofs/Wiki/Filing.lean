import TopicWiki.Proofs.Wiki.Undisturbed

namespace TopicWiki

namespace Store

def categoryIdent? (store : Store) (id : CategoryId) : Option String :=
  store.categories[id.index]?.map fun category => category.document.ident

def topicIdent? (store : Store) (id : TopicId) : Option String :=
  store.topics[id.index]?.map fun topic => topic.document.ident

structure Filed (store : Store) : Prop where
  categories : ∀ ident id, store.categoryIndex.find? ident = some id →
    store.categoryIdent? id = some ident
  topics : ∀ category index ident id, store.topicIndex.find? category = some index →
    index.find? ident = some id → store.topicIdent? id = some ident
  lookups : ∀ category ident id, (store.categoryAt category).lookups.find? ident = some id →
    store.topicIdent? id = some ident

theorem filed_empty : Filed {} where
  categories _ _ found := by cases found
  topics _ _ _ _ found := by cases found
  lookups category _ _ found := by
    have none : (({} : Store).categoryAt category).lookups = {} := by
      unfold categoryAt
      rw [List.getD_nil]
      rfl
    rw [none] at found
    cases found

theorem categoryIdent?_of_append {store store' : Store} {more : List Category}
    (grown : store'.categories = store.categories ++ more) {id : CategoryId} {ident : String}
    (named : store.categoryIdent? id = some ident) : store'.categoryIdent? id = some ident := by
  obtain ⟨category, found, same⟩ := Option.map_eq_some_iff.mp named
  unfold categoryIdent?
  rw [grown, List.getElem?_append_left (List.getElem?_eq_some_iff.mp found).1, found]
  exact congrArg some same

theorem topicIdent?_of_append {store store' : Store} {more : List Topic}
    (grown : store'.topics = store.topics ++ more) {id : TopicId} {ident : String}
    (named : store.topicIdent? id = some ident) : store'.topicIdent? id = some ident := by
  obtain ⟨topic, found, same⟩ := Option.map_eq_some_iff.mp named
  unfold topicIdent?
  rw [grown, List.getElem?_append_left (List.getElem?_eq_some_iff.mp found).1, found]
  exact congrArg some same

theorem grown_insertCategory (store : Store) (document : Document) :
    (store.insertCategory document).1.categories = store.categories ++ [⟨document, {}⟩] :=
  rfl

theorem lookups_append {store store' : Store} {document : Document}
    (grown : store'.categories = store.categories ++ [⟨document, {}⟩]) (category : CategoryId) :
    (store'.categoryAt category).lookups = (store.categoryAt category).lookups := by
  unfold categoryAt
  rw [grown, List.getD_eq_getElem?_getD, List.getD_eq_getElem?_getD]
  by_cases present : category.index < store.categories.length
  · rw [List.getElem?_append_left present]
  · have absent : store.categories[category.index]? = none := by
      rw [List.getElem?_eq_none_iff]
      omega
    rw [List.getElem?_append_right (by omega), absent]
    cases category.index - store.categories.length <;> rfl

theorem categoryIdent?_modifyCategory (store : Store) (id other : CategoryId)
    {f : Category → Category} (keeps : ∀ c, (f c).document.ident = c.document.ident) :
    (store.modifyCategory id f).categoryIdent? other = store.categoryIdent? other := by
  unfold categoryIdent? modifyCategory
  simp only [List.getElem?_modify]
  cases store.categories[other.index]? with
  | none => rfl
  | some category => by_cases same : id.index = other.index <;> simp [same, keeps]

theorem categoryIdent?_topicOf? (store : Store) (category id : CategoryId) (ident : String) :
    (store.topicOf? category ident).1.categoryIdent? id = store.categoryIdent? id := by
  have fresh : (Store.topicOf?.fresh store category ident).1.categoryIdent? id =
      store.categoryIdent? id := by
    unfold Store.topicOf?.fresh
    split
    · rfl
    · rw [categoryIdent?_modifyCategory _ _ _ (by intro c; rfl)]
      rfl
  unfold Store.topicOf?
  split
  · split
    · rfl
    · exact fresh
  · exact fresh

theorem categoryIdent?_categoryOf? (store : Store) (topic : TopicId) (id : CategoryId) :
    (store.categoryOf? topic).1.categoryIdent? id = store.categoryIdent? id := by
  unfold Store.categoryOf?
  simp only
  repeat' split
  all_goals rfl

theorem topicIdent?_modifyTopic (store : Store) (id other : TopicId)
    {f : Topic → Topic} (keeps : ∀ t, (f t).document.ident = t.document.ident) :
    (store.modifyTopic id f).topicIdent? other = store.topicIdent? other := by
  unfold topicIdent? modifyTopic
  simp only [List.getElem?_modify]
  cases store.topics[other.index]? with
  | none => rfl
  | some topic => by_cases same : id.index = other.index <;> simp [same, keeps]

namespace Filed

variable {store : Store}

theorem insertCategory (filed : Filed store) (document : Document) :
    Filed (store.insertCategory document).1 where
  categories ident id found := by
    change (store.categoryIndex.insert document.ident ⟨store.categories.length⟩).find? ident = _
      at found
    by_cases same : ident = document.ident
    · subst same
      rw [Dictionary.find?_insert_self] at found
      cases found
      simp [Store.insertCategory, categoryIdent?]
    · rw [Dictionary.find?_insert_of_ne _ same] at found
      exact categoryIdent?_of_append (grown_insertCategory store document)
        (filed.categories ident id found)
  topics := filed.topics
  lookups category ident id found := by
    rw [lookups_append (grown_insertCategory store document)] at found
    exact filed.lookups category ident id found

theorem insertTopic (filed : Filed store) (category : String) (document : Document) :
    Filed (store.insertTopic category document).1 where
  categories := filed.categories
  topics category' index ident id listed found := by
    have kept : ∀ {id ident}, store.topicIdent? id = some ident →
        (store.insertTopic category document).1.topicIdent? id = some ident :=
      fun named => topicIdent?_of_append rfl named
    have siblings : ∀ ident id, ((store.topicIndex.find? category).getD {}).find? ident = some id →
        store.topicIdent? id = some ident := by
      intro ident id found
      cases present : store.topicIndex.find? category with
      | none =>
        rw [present] at found
        cases found
      | some index =>
        rw [present] at found
        exact filed.topics category index ident id present found
    change (store.topicIndex.insert category _).find? category' = _ at listed
    by_cases same : category' = category
    · subst same
      rw [Dictionary.find?_insert_self] at listed
      cases listed
      by_cases self : ident = document.ident
      · subst self
        rw [Dictionary.find?_insert_self] at found
        cases found
        simp [Store.insertTopic, topicIdent?]
      · rw [Dictionary.find?_insert_of_ne _ self] at found
        exact kept (siblings ident id found)
    · rw [Dictionary.find?_insert_of_ne _ same] at listed
      exact kept (filed.topics category' index ident id listed found)
  lookups category ident id found :=
    topicIdent?_of_append rfl (filed.lookups category ident id found)

theorem modifyTopic (filed : Filed store) (id : TopicId) {f : Topic → Topic}
    (keeps : ∀ t, (f t).document.ident = t.document.ident) : Filed (store.modifyTopic id f) where
  categories := filed.categories
  topics category index ident id' listed found := by
    rw [topicIdent?_modifyTopic _ _ _ keeps]
    exact filed.topics category index ident id' listed found
  lookups category ident id' found := by
    rw [topicIdent?_modifyTopic _ _ _ keeps]
    exact filed.lookups category ident id' found

theorem topic? (filed : Filed store) {category ident : String} {id : TopicId}
    (found : store.topic? category ident = some id) : store.topicIdent? id = some ident := by
  unfold Store.topic? at found
  split at found
  · cases found
  · obtain ⟨index, listed, inIndex⟩ := Option.bind_eq_some_iff.mp found
    exact filed.topics category index ident id listed inIndex

theorem category? (filed : Filed store) {ident : String} {id : CategoryId}
    (found : store.category? ident = some id) : store.categoryIdent? id = some ident := by
  unfold Store.category? at found
  split at found
  · cases found
  · exact filed.categories ident id found

theorem modifyCategory (filed : Filed store) (id : CategoryId) {f : Category → Category}
    (keeps : ∀ c, (f c).document.ident = c.document.ident)
    (filedLookups : ∀ c ident topic, (f c).lookups.find? ident = some topic →
      c.lookups.find? ident = some topic ∨ store.topicIdent? topic = some ident) :
    Filed (store.modifyCategory id f) where
  categories ident id' found := by
    rw [categoryIdent?_modifyCategory _ _ _ keeps]
    exact filed.categories ident id' found
  topics := filed.topics
  lookups category ident topic found := by
    have before := filed.lookups category ident topic
    unfold categoryAt at before found
    unfold Store.modifyCategory at found
    rw [List.getD_eq_getElem?_getD] at before
    rw [List.getD_eq_getElem?_getD, List.getElem?_modify] at found
    cases present : store.categories[category.index]? with
    | none =>
      rw [present] at found before
      exact before found
    | some c =>
      rw [present] at found before
      by_cases here : id.index = category.index
      · simp only [Option.map_eq_map, Option.map_some, Option.getD_some, if_pos here] at found
        rcases filedLookups c ident topic found with known | named
        · exact before known
        · exact named
      · simp only [Option.map_eq_map, Option.map_some, Option.getD_some, if_neg here] at found
        exact before found

theorem topicOf? (filed : Filed store) (category : CategoryId) (ident : String) :
    Filed (store.topicOf? category ident).1 ∧
      ∀ id, (store.topicOf? category ident).2 = some id → store.topicIdent? id = some ident := by
  have fresh : Filed (Store.topicOf?.fresh store category ident).1 ∧
      ∀ id, (Store.topicOf?.fresh store category ident).2 = some id →
        store.topicIdent? id = some ident := by
    unfold Store.topicOf?.fresh
    split
    · exact ⟨filed, fun _ none => by cases none⟩
    · rename_i id found
      have named := filed.topic? found
      refine ⟨?_, fun id' same => by cases same; exact named⟩
      refine (filed.modifyTopic id (by intro t; rfl)).modifyCategory category (by intro c; rfl) ?_
      intro c ident' topic listed
      by_cases same : ident' = ident
      · subst same
        rw [Dictionary.find?_insert_self] at listed
        cases listed
        rw [topicIdent?_modifyTopic _ _ _ (by intro t; rfl)]
        exact .inr named
      · rw [Dictionary.find?_insert_of_ne _ same] at listed
        exact .inl listed
  unfold Store.topicOf?
  split
  · rename_i id known
    split
    · exact ⟨filed, fun id' same => by cases same; exact filed.lookups category ident id known⟩
    · exact fresh
  · exact fresh

theorem categoryOf? (filed : Filed store) (topic : TopicId) :
    Filed (store.categoryOf? topic).1 := by
  unfold Store.categoryOf?
  simp only
  split
  · exact filed
  · split
    · exact filed
    · split
      · exact filed
      · exact filed.modifyTopic topic (by intro t; rfl)

theorem setCategory (filed : Filed store) (topic : TopicId) (category : CategoryId)
    (parentOnly : Bool) : Filed (store.setCategory topic category parentOnly) :=
  filed.modifyTopic topic (by intro t; rfl)

theorem resetCategory (filed : Filed store) (topic : TopicId) :
    Filed (store.resetCategory topic) :=
  filed.modifyTopic topic (by intro t; rfl)

theorem drop (filed : Filed store) (held : List TopicId) : Filed (store.drop held) :=
  ⟨filed.categories, filed.topics, filed.lookups⟩

end Filed

end Store

/-- Documents are filed in the store, and the categories that were found before under their own
    idents too. -/
structure State.Filed (s : State) : Prop where
  store : s.store.Filed
  known : ∀ ident id, s.knownCategories.find? ident = some id →
    s.store.categoryIdent? id = some ident

namespace State.Filed

variable {s : State}

theorem found (filed : s.Filed) {ident : String} {id : CategoryId}
    (found : s.category? ident = some id) : s.store.categoryIdent? id = some ident := by
  unfold State.category? at found
  cases known : s.knownCategories.find? ident with
  | some id' =>
    rw [known] at found
    cases found
    exact filed.known ident id known
  | none =>
    rw [known, Option.none_or] at found
    exact filed.store.category? found

theorem category_ident (filed : s.Filed) {ident : String} {id : CategoryId}
    (found : s.category? ident = some id) : (s.categoryDocument id).ident = ident := by
  obtain ⟨category, present, same⟩ := Option.map_eq_some_iff.mp (filed.found found)
  unfold categoryDocument Store.categoryAt
  rw [List.getD_eq_getElem?_getD, present]
  exact same

theorem topic_ident (filed : s.Filed) {category : CategoryId} {ident : String} {id : TopicId}
    (found : (s.store.topicOf? category ident).2 = some id) : (s.topicDocument id).ident = ident := by
  have named := (filed.store.topicOf? category ident).2 id found
  obtain ⟨topic, present, same⟩ := Option.map_eq_some_iff.mp named
  unfold topicDocument Store.topicAt
  rw [List.getD_eq_getElem?_getD, present]
  exact same

theorem findCategory (filed : s.Filed) (ident : String) :
    ((State.findCategory ident).run s).2.Filed := by
  unfold State.findCategory
  rw [StateT.run_bind, StateT.run_get, pure_bind]
  split
  · exact filed
  · rename_i unknown
    split
    · exact filed
    · rename_i id present
      refine ⟨filed.store, ?_⟩
      intro ident' id' listed
      change (s.knownCategories.insert ident id).find? ident' = _ at listed
      by_cases same : ident' = ident
      · subst same
        rw [Dictionary.find?_insert_self] at listed
        cases listed
        exact filed.store.category? present
      · rw [Dictionary.find?_insert_of_ne _ same] at listed
        exact filed.known ident' id' listed

theorem ofStore {store : Store} (filed : s.Filed) (keeps : store.Filed)
    (named : ∀ id ident, s.store.categoryIdent? id = some ident →
      store.categoryIdent? id = some ident) : State.Filed { s with store } :=
  ⟨keeps, fun ident id listed => named id ident (filed.known ident id listed)⟩

end State.Filed

inductive Filing where
  | insertCategory (document : Document)
  | insertTopic (category : String) (document : Document)
  | setCategory (topic : TopicId) (category : CategoryId) (parentOnly : Bool)
  | resetCategory (topic : TopicId)
  | setTopicText (topic : TopicId) (text : String) (file? : Option String)
  | setCategoryText (category : CategoryId) (text : String) (file? : Option String)
  | drop (held : List TopicId)
  | findCategory (ident : String)
  | topicOf (category : CategoryId) (ident : String)
  | categoryOf (topic : TopicId)

namespace Filing

def run (s : State) : Filing → State
  | insertCategory document => { s with store := (s.store.insertCategory document).1 }
  | insertTopic category document => { s with store := (s.store.insertTopic category document).1 }
  | setCategory topic category parentOnly =>
    { s with store := s.store.setCategory topic category parentOnly }
  | resetCategory topic => { s with store := s.store.resetCategory topic }
  | setTopicText topic text file? =>
    { s with
      store := s.store.modifyTopic topic fun t =>
        { t with document := t.document.setText text file? } }
  | setCategoryText category text file? =>
    { s with
      store := s.store.modifyCategory category fun c =>
        { c with document := c.document.setText text file? } }
  | drop held => { s with store := s.store.drop held }
  | findCategory ident => ((State.findCategory ident).run s).2
  | topicOf category ident => ((State.topicOf category ident).run s).2
  | categoryOf topic => ((State.categoryOf topic).run s).2

theorem run_filed {s : State} (filed : s.Filed) (step : Filing) : (step.run s).Filed := by
  cases step with
  | insertCategory document =>
    refine filed.ofStore (filed.store.insertCategory document) fun id ident named => ?_
    exact Store.categoryIdent?_of_append (Store.grown_insertCategory s.store document) named
  | insertTopic category document =>
    exact filed.ofStore (filed.store.insertTopic category document) fun _ _ named => named
  | setCategory topic category parentOnly =>
    exact filed.ofStore (filed.store.setCategory topic category parentOnly) fun _ _ named => named
  | resetCategory topic =>
    exact filed.ofStore (filed.store.resetCategory topic) fun _ _ named => named
  | setTopicText topic text file? =>
    exact filed.ofStore (filed.store.modifyTopic topic (by intro t; rfl)) fun _ _ named => named
  | setCategoryText category text file? =>
    refine filed.ofStore (filed.store.modifyCategory category (by intro c; rfl)
      fun _ _ _ listed => .inl listed) fun id ident named => ?_
    exact (Store.categoryIdent?_modifyCategory s.store category id (by intro c; rfl)).trans named
  | drop held => exact filed.ofStore (filed.store.drop held) fun _ _ named => named
  | findCategory ident => exact filed.findCategory ident
  | topicOf category ident =>
    refine filed.ofStore (filed.store.topicOf? category ident).1 fun id ident' named => ?_
    exact (Store.categoryIdent?_topicOf? s.store category id ident).trans named
  | categoryOf topic =>
    refine filed.ofStore (filed.store.categoryOf? topic) fun id ident named => ?_
    exact (Store.categoryIdent?_categoryOf? s.store topic id).trans named

/-- Whatever has been inserted, moved and looked up, documents are found under their own idents. -/
theorem runs_filed (steps : List Filing) : (steps.foldl run {}).Filed := by
  refine List.foldlRecOn steps run ⟨Store.filed_empty, ?_⟩ fun s filed step _ => run_filed filed step
  intro ident id found
  cases found

end Filing

end TopicWiki
