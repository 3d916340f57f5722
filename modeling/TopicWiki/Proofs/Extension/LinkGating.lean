import Mathlib
import TopicWiki.Proofs.Extension.Builtin
import TopicWiki.Proofs.Wiki.Filing

namespace TopicWiki

namespace RenderScope

def category? (scope : RenderScope) (s : State) : Option String → Option CategoryId
  | none => some scope.category
  | some ident => s.category? ident

def topic? (scope : RenderScope) (s : State) (ident : String) (category? : Option String) :
    Option TopicId :=
  (scope.category? s category?).bind fun category => (s.store.topicOf? category ident).2

theorem findCategory_value (scope : RenderScope) (ident? : Option String) (s : State) :
    ((scope.findCategory ident?).run s).1 = scope.category? s ident? := by
  cases ident? with
  | none => rfl
  | some ident => exact (State.findCategory_run ident s).1

theorem findCategory_store (scope : RenderScope) (ident? : Option String) (s : State) :
    ((scope.findCategory ident?).run s).2.store = s.store := by
  cases ident? with
  | none => rfl
  | some ident => exact State.findCategory_store ident s

theorem findTopic_value (scope : RenderScope) (ident : String) (category? : Option String)
    (s : State) :
    ((scope.findTopic (some ident) category?).run s).1 = scope.topic? s ident category? := by
  have value := scope.findCategory_value category? s
  have store := scope.findCategory_store category? s
  unfold findTopic topic?
  simp only
  rw [StateT.run_bind]
  cases ran : (scope.findCategory category?).run s with
  | mk found? s' =>
    rw [ran] at value store
    simp only at value store
    rw [← value]
    cases found? with
    | none => rfl
    | some category =>
      change (s'.store.topicOf? category ident).2 = _
      rw [store]
      rfl

end RenderScope

def Running.Gives {α : Type} (x : Running α) (s : State) (a : α) : Prop :=
  ∃ s', x.run s = (a, s') ∧ Undisturbed s s'

theorem Running.Quiet.gives {α : Type} {x : Running α} {s : State} {a : α}
    (quiet : Running.Quiet x) (value : (x.run s).1 = a) : Running.Gives x s a := by
  refine ⟨(x.run s).2, ?_, quiet s⟩
  rw [← value]
  rfl

/-- A call that gives an element, as an object or as markup, and leaves all documents as they are. -/
def Fallible.Shows (x : EngineM Value) (s : State) (element : Element) (asObject : Bool) : Prop :=
  ∃ value s', x.run.run s = (.ok value, s') ∧ Undisturbed s s' ∧
    if asObject then ∃ id, value = .view (.element id) ∧ s'.element id = element
    else value = .safe element.html

namespace LinkHelpers

/-- An argument in its printed form, unless it is left out, undefined or none. -/
def textAt (s : State) (arguments : List Value) (index : Nat) : Option String :=
  match arguments[index]? with
  | none | some .undefined | some .none => none
  | some value => some (s.printed value)

theorem argumentText?_eq_textAt (s : State) (arguments : List Value) (index : Nat) :
    Value.argumentText? s arguments index = textAt s arguments index := by
  unfold Value.argumentText? Value.argument? textAt
  cases arguments[index]? with
  | none => rfl
  | some value => cases value <;> rfl

theorem linkText_eq_textAt (s : State) (arguments : List Value) (first : Nat) :
    linkText s arguments first =
      { text := textAt s arguments first
        description := textAt s arguments (first + 1)
        className := textAt s arguments (first + 2) } := by
  simp only [linkText, argumentText?_eq_textAt]

/-- What a link leads to: nowhere, or to the document that is found under an ident, if any, which has
    its own address. -/
inductive Destination where
  | nowhere
  | document (found? : Option Document) (ident uri : String)

def named (name : String) (value? : Option String) : List (String × String) :=
  (value?.map fun value => (name, value)).toList

def Destination.element (options : LinkSettings) (attributes : LinkText) : Destination → Element
  | .nowhere => { tag := "a" }
  | .document found? ident uri =>
    let name := (found?.map Document.name).getD ident
    let inner := some (attributes.text.getD name)
    if found?.any Document.published then
      { tag := "a", inner
        attributes := ("href", uri) ::
          (named "title" attributes.description ++ named "class" attributes.className) }
    else
      { tag := "a", inner, attributes := [("href", options.todoHref), ("class", options.todoClass)] }

section

variable (options : LinkSettings) (attributes : LinkText)

theorem documentLink_eq (found? : Option Document) (ident uri : String) :
    documentLink options found? ident uri attributes =
      (Destination.document found? ident uri).element options attributes := by
  cases found? with
  | none => rfl
  | some document =>
    unfold documentLink Destination.element
    simp only [Option.any_some]
    split
    · obtain ⟨text, description, className⟩ := attributes
      cases description <;> cases className <;> rfl
    · rfl

variable (s : State) (render : ActiveRender)

def topicDestination (topic : String) (category? : Option String) : Destination :=
  .document ((render.scope.topic? s topic category?).map s.topicDocument) topic
    (render.site.controller.uri render.site.routes.topic
      [(render.site.routes.categoryPlaceholder,
          category?.getD (s.categoryDocument render.scope.category).ident),
        (render.site.routes.topicPlaceholder, topic)])

def categoryDestination (category : String) : Option String → Destination
  | some topic => topicDestination s render topic (some category)
  | none => .document ((s.category? category).map s.categoryDocument) category
      (render.site.controller.uri render.site.routes.category
        [(render.site.routes.categoryPlaceholder, category)])

def indexDestination : Option ActiveRender → Destination
  | some render =>
    categoryDestination s render (s.categoryDocument render.scope.category).ident none
  | none => .nowhere

def statementDestination : LinkTarget → Destination
  | .invalid _ => .nowhere
  | .index => indexDestination s (some render)
  | .topic topic => topicDestination s render topic none
  | .categoryTopic category topic => categoryDestination s render category (some topic)

theorem topicLink_gives (topic : String) (category? : Option String) :
    Running.Gives (topicLink options render topic category? attributes) s
      ((topicDestination s render topic category?).element options attributes) := by
  apply (quiet_topicLink options render topic category? attributes).gives
  have value := render.scope.findTopic_value topic category? s
  have quiet := render.scope.quiet_findTopic (some topic) category? s
  unfold topicLink topicDestination
  rw [StateT.run_bind]
  cases ran : (render.scope.findTopic (some topic) category?).run s with
  | mk found? s' =>
    rw [ran] at value quiet
    simp only at value quiet
    change documentLink options (found?.map s'.topicDocument) topic (topicUri render.site
      (category?.getD (s'.categoryDocument render.scope.category).ident) topic) attributes = _
    rw [documentLink_eq, ← value, quiet.categories, funext quiet.topics]
    rfl

theorem categoryLink_gives (category : String) (topic? : Option String) :
    Running.Gives (categoryLink options render category topic? attributes) s
      ((categoryDestination s render category topic?).element options attributes) := by
  cases topic? with
  | some topic => exact topicLink_gives options attributes s render topic (some category)
  | none =>
    apply (quiet_categoryLink options render category none attributes).gives
    obtain ⟨value, quiet⟩ := State.findCategory_run category s
    unfold categoryLink categoryDestination
    simp only
    rw [StateT.run_bind]
    cases ran : (render.scope.findCategory (some category)).run s with
    | mk found? s' =>
      change (State.findCategory category).run s = _ at ran
      rw [ran] at value quiet
      simp only at value quiet
      change documentLink options (found?.map s'.categoryDocument) category
        (categoryUri render.site category) attributes = _
      rw [documentLink_eq, ← value, funext quiet.categories]
      rfl

theorem indexLink_gives (render? : Option ActiveRender) :
    Running.Gives (indexLink options render? attributes) s
      ((indexDestination s render?).element options attributes) := by
  cases render? with
  | some render =>
    obtain ⟨s', ran, undisturbed⟩ := categoryLink_gives options attributes s render
      (s.categoryDocument render.scope.category).ident none
    refine ⟨s', ?_, undisturbed⟩
    unfold indexLink
    simp only
    rw [StateT.run_bind, StateT.run_get, pure_bind]
    exact ran
  | none =>
    apply (quiet_indexLink options none attributes).gives
    unfold indexLink
    simp only
    rw [StateT.run_bind]
    rfl

def statementText (statement : LinkStatement) : LinkText where
  text := statement.text.or attributes.text
  description := statement.description.or attributes.description
  className := statement.className.or attributes.className

theorem statementLink_gives (input : String) :
    Running.Gives (statementLink options render input attributes) s
      ((statementDestination s render (LinkStatement.parse input).target).element options
        (statementText attributes (LinkStatement.parse input)), (LinkStatement.parse input).asObject) := by
  apply (quiet_statementLink options render input attributes).gives
  unfold statementLink
  generalize LinkStatement.parse input = statement
  obtain ⟨asObject, target, text, description, className⟩ := statement
  have paired : ∀ {link : Running Element} {element : Element}, Running.Gives link s element →
      ((do let link ← link; return (link, asObject) : Running (Element × Bool)).run s).1 =
        (element, asObject) := by
    rintro link element ⟨s', ran, -⟩
    rw [StateT.run_bind, ran]
    rfl
  cases target with
  | invalid reason =>
    simp only
    rw [StateT.run_bind]
    rfl
  | index => exact paired (indexLink_gives options _ s (some render))
  | topic topic => exact paired (topicLink_gives options _ s render topic none)
  | categoryTopic category topic =>
    exact paired (categoryLink_gives options _ s render category (some topic))

theorem emit_shows (element : Element) (asObject : Bool) :
    Fallible.Shows (emit element asObject) s element asObject := by
  cases asObject with
  | false => exact ⟨_, s, rfl, refl_of Undisturbed s, rfl⟩
  | true =>
    refine ⟨_, _, rfl, State.quiet_newElement element s, ⟨s.elements.length⟩, rfl, ?_⟩
    change (s.elements ++ [element]).getD s.elements.length _ = element
    simp

theorem shows_after {α : Type} {x : Running α} {f : α → EngineM Value} {a : α} {element : Element}
    {asObject : Bool} (gives : Running.Gives x s a)
    (shows : ∀ s', Fallible.Shows (f a) s' element asObject) :
    Fallible.Shows (liftM x >>= f) s element asObject := by
  obtain ⟨s', ran, undisturbed⟩ := gives
  obtain ⟨value, s'', ran', undisturbed', isElement⟩ := shows s'
  refine ⟨value, s'', ?_, trans_of Undisturbed undisturbed undisturbed', isElement⟩
  rw [Fallible.run_bind_of_ok (Fallible.run_lift ran)]
  exact ran'

variable {s} {render} {site : CallSite} {arguments : List Value} {what : String}

theorem requireRender_of_render (rendering : site.render? = some render) :
    (liftM site.requireRender : EngineM ActiveRender).run.run s = (.ok render, s) := by
  rw [CallSite.requireRender, rendering]
  rfl

/-- The handlers that link to a target, their first argument, start alike. -/
def withTarget (site : CallSite) (arguments : List Value) (what : String)
    (f : ActiveRender → State → String → EngineM Value) : EngineM Value := do
  let render ← site.requireRender
  let s ← get
  let target ← Value.requiredText s arguments 0 what
  f render s target

theorem withTarget_shows {f : ActiveRender → State → String → EngineM Value} {target : String}
    {element : Element} {asObject : Bool} (rendering : site.render? = some render)
    (given : textAt s arguments 0 = some target)
    (shows : Fallible.Shows (f render s target) s element asObject) :
    Fallible.Shows (withTarget site arguments what f) s element asObject := by
  have argument : Value.requiredText s arguments 0 what = .ok target := by
    rw [Value.requiredText, argumentText?_eq_textAt, given]
  have started : (get : EngineM State).run.run s = (.ok s, s) := rfl
  have same : (withTarget site arguments what f).run.run s = (f render s target).run.run s := by
    unfold withTarget
    rw [Fallible.run_bind_of_ok (requireRender_of_render rendering),
      Fallible.run_bind_of_ok started, argument]
    rfl
  unfold Fallible.Shows
  rw [same]
  exact shows

theorem withTarget_refused (f : ActiveRender → State → String → EngineM Value)
    (missing : site.render? = none ∨ textAt s arguments 0 = none) :
    ∃ e, (withTarget site arguments what f).run.run s = (.error e, s) := by
  unfold withTarget
  cases rendering : site.render? with
  | none =>
    rw [CallSite.requireRender, rendering]
    exact ⟨_, rfl⟩
  | some render =>
    have absent := missing.resolve_left (rendering ▸ Option.some_ne_none render)
    have started : (get : EngineM State).run.run s = (.ok s, s) := rfl
    rw [Fallible.run_bind_of_ok (requireRender_of_render rendering),
      Fallible.run_bind_of_ok started, Value.requiredText, argumentText?_eq_textAt, absent]
    exact ⟨_, rfl⟩

theorem callAt_shows {topic : String} (rendering : site.render? = some render)
    (given : textAt s arguments 0 = some topic) :
    Fallible.Shows (callAt options site arguments) s
      ((topicDestination s render topic (textAt s arguments 1)).element options
        ⟨textAt s arguments 2, textAt s arguments 3, textAt s arguments 4⟩)
      (Value.argumentFlag arguments 5) := by
  refine withTarget_shows rendering given ?_
  rw [argumentText?_eq_textAt, linkText_eq_textAt]
  exact shows_after s (topicLink_gives options _ s render topic _) fun s' => emit_shows s' _ _

theorem callAc_shows {category : String} (rendering : site.render? = some render)
    (given : textAt s arguments 0 = some category) :
    Fallible.Shows (callAc options site arguments) s
      ((categoryDestination s render category (textAt s arguments 1)).element options
        ⟨textAt s arguments 2, textAt s arguments 3, textAt s arguments 4⟩)
      (Value.argumentFlag arguments 5) := by
  refine withTarget_shows rendering given ?_
  rw [argumentText?_eq_textAt, linkText_eq_textAt]
  exact shows_after s (categoryLink_gives options _ s render category _) fun s' => emit_shows s' _ _

theorem callAi_shows (site : CallSite) (arguments : List Value) (s : State) :
    Fallible.Shows (callAi options site arguments) s
      ((indexDestination s site.render?).element options
        ⟨textAt s arguments 0, textAt s arguments 1, textAt s arguments 2⟩)
      (Value.argumentFlag arguments 3) := by
  have started : (get : EngineM State).run.run s = (.ok s, s) := rfl
  unfold Fallible.Shows callAi
  rw [Fallible.run_bind_of_ok started, linkText_eq_textAt]
  exact shows_after s (indexLink_gives options _ s site.render?) fun s' => emit_shows s' _ _

theorem filterLink_shows {input : String} (rendering : site.render? = some render)
    (given : textAt s arguments 0 = some input) :
    Fallible.Shows (filterLink options site arguments) s
      ((statementDestination s render (LinkStatement.parse input).target).element options
        (statementText ⟨textAt s arguments 1, textAt s arguments 2, textAt s arguments 3⟩
          (LinkStatement.parse input)))
      ((LinkStatement.parse input).asObject || Value.argumentFlag arguments 4) := by
  refine withTarget_shows rendering given ?_
  rw [linkText_eq_textAt]
  exact shows_after s (statementLink_gives options _ s render input) fun s' => emit_shows s' _ _

theorem setHome_gives (render : ActiveRender) (bindings : Dictionary Value) (s : State) :
    Running.Gives (setHome options render bindings) s (bindings.insert "home"
      (.safe ((indexDestination s (some render)).element options {}).html)) := by
  obtain ⟨s', ran, undisturbed⟩ := indexLink_gives options {} s (some render)
  refine ⟨s', ?_, undisturbed⟩
  unfold setHome
  rw [StateT.run_bind, ran]
  rfl

theorem refused (missing : site.render? = none ∨ textAt s arguments 0 = none) :
    ∀ handler ∈ [callAt options, callAc options, filterLink options],
      ∃ e, (handler site arguments).run.run s = (.error e, s) := by
  simp only [List.forall_mem_cons]
  exact ⟨withTarget_refused _ missing, withTarget_refused _ missing, withTarget_refused _ missing,
    fun _ none => absurd none List.not_mem_nil⟩

end

theorem topicDestination_filed {s : State} (filed : s.Filed) {render : ActiveRender} {topic : String}
    {category? : Option String} {category : CategoryId} {id : TopicId}
    (inCategory : render.scope.category? s category? = some category)
    (found : (s.store.topicOf? category topic).2 = some id) :
    topicDestination s render topic category? =
      .document (some (s.topicDocument id)) (s.topicDocument id).ident
        (render.site.controller.uri render.site.routes.topic
          [(render.site.routes.categoryPlaceholder, (s.categoryDocument category).ident),
            (render.site.routes.topicPlaceholder, (s.topicDocument id).ident)]) := by
  have ident : category?.getD (s.categoryDocument render.scope.category).ident =
      (s.categoryDocument category).ident := by
    cases category? with
    | none =>
      cases inCategory
      rfl
    | some name => exact (filed.category_ident inCategory).symm
  unfold topicDestination RenderScope.topic?
  rw [inCategory, Option.bind_some, found, ident, filed.topic_ident found]
  rfl

theorem categoryDestination_filed {s : State} (filed : s.Filed) {render : ActiveRender}
    {category : String} {id : CategoryId} (found : s.category? category = some id) :
    categoryDestination s render category none =
      .document (some (s.categoryDocument id)) (s.categoryDocument id).ident
        (render.site.controller.uri render.site.routes.category
          [(render.site.routes.categoryPlaceholder, (s.categoryDocument id).ident)]) := by
  unfold categoryDestination
  rw [found, filed.category_ident found]
  rfl

/-- Every way to link gives the element for its destination, and only a published document has a real
    link. Its address is that of the route of the document with its own idents, as far as documents
    are filed. -/
theorem links_gated (options : LinkSettings) (s : State) (site : CallSite) (arguments : List Value) :
    (∀ render target, site.render? = some render → textAt s arguments 0 = some target →
      Fallible.Shows (callAt options site arguments) s
        ((topicDestination s render target (textAt s arguments 1)).element options
          ⟨textAt s arguments 2, textAt s arguments 3, textAt s arguments 4⟩)
        (Value.argumentFlag arguments 5) ∧
      Fallible.Shows (callAc options site arguments) s
        ((categoryDestination s render target (textAt s arguments 1)).element options
          ⟨textAt s arguments 2, textAt s arguments 3, textAt s arguments 4⟩)
        (Value.argumentFlag arguments 5) ∧
      Fallible.Shows (filterLink options site arguments) s
        ((statementDestination s render (LinkStatement.parse target).target).element options
          (statementText ⟨textAt s arguments 1, textAt s arguments 2, textAt s arguments 3⟩
            (LinkStatement.parse target)))
        ((LinkStatement.parse target).asObject || Value.argumentFlag arguments 4)) ∧
      Fallible.Shows (callAi options site arguments) s
        ((indexDestination s site.render?).element options
          ⟨textAt s arguments 0, textAt s arguments 1, textAt s arguments 2⟩)
        (Value.argumentFlag arguments 3) ∧
      (∀ render bindings, Running.Gives (setHome options render bindings) s (bindings.insert "home"
        (.safe ((indexDestination s (some render)).element options ⟨none, none, none⟩).html))) ∧
      (site.render? = none ∨ textAt s arguments 0 = none →
        ∀ handler ∈ [callAt options, callAc options, filterLink options],
          ∃ e, (handler site arguments).run.run s = (.error e, s)) ∧
      (s.Filed → ∀ render : ActiveRender,
        (∀ topic category? category id, render.scope.category? s category? = some category →
          (s.store.topicOf? category topic).2 = some id →
            topicDestination s render topic category? =
              .document (some (s.topicDocument id)) (s.topicDocument id).ident
                (render.site.controller.uri render.site.routes.topic
                  [(render.site.routes.categoryPlaceholder, (s.categoryDocument category).ident),
                    (render.site.routes.topicPlaceholder, (s.topicDocument id).ident)])) ∧
        ∀ category id, s.category? category = some id →
          categoryDestination s render category none =
            .document (some (s.categoryDocument id)) (s.categoryDocument id).ident
              (render.site.controller.uri render.site.routes.category
                [(render.site.routes.categoryPlaceholder, (s.categoryDocument id).ident)])) := by
  refine ⟨?_, callAi_shows options site arguments s, fun render bindings =>
    setHome_gives options render bindings s, refused options, ?_⟩
  · intro render target rendering given
    exact ⟨callAt_shows options rendering given, callAc_shows options rendering given,
      filterLink_shows options rendering given⟩
  · intro filed render
    exact ⟨fun topic category? category id inCategory found =>
      topicDestination_filed filed inCategory found,
      fun category id found => categoryDestination_filed filed found⟩

def partlyPublished : State :=
  [Filing.insertCategory { ident := "c", name := "C" },
    .insertTopic "c" { ident := "p", name := "P" },
    .insertTopic "c" { ident := "t", name := "T", published := false }].foldl Filing.run {}

def renderOfPublished : ActiveRender where
  site :=
    { controller := {}
      routes := {}
      converters := ⟨⟨"markdown", fun text => text⟩, ⟨"textile", fun text => text⟩⟩ }
  scope := { topic := ⟨0⟩, category := ⟨0⟩ }

def linkSite : CallSite :=
  ⟨"a", none, some renderOfPublished⟩

theorem markup_of_shows {x : EngineM Value} {s : State} {element : Element} {asObject : Bool}
    (shows : Fallible.Shows x s element asObject) (asMarkup : asObject = false) :
    (x.run.run s).1.toOption = some (.safe element.html) := by
  obtain ⟨value, s', ran, -, isElement⟩ := shows
  rw [asMarkup] at isElement
  rw [ran, Except.toOption, ← isElement]

theorem links_gated_in_category :
    let statement := [.plain "p == Page := Tip"]
    let ident := [.plain "t"]
    let category := [.plain "c", .none, .plain "All", .plain "Tip", .plain "big"]
    textAt partlyPublished statement 0 = some "p == Page := Tip" ∧
      textAt partlyPublished ident 0 = some "t" ∧ textAt partlyPublished category 0 = some "c" ∧
      partlyPublished.Filed ∧
      ((filterLink {} linkSite statement).run.run partlyPublished).1.toOption =
        some (.safe "<a href=\"/wiki/c/p\" title=\"Tip\">Page</a>") ∧
      ((callAt {} linkSite ident).run.run partlyPublished).1.toOption =
        some (.safe "<a href=\"#todo\" class=\"todo\">T</a>") ∧
      ((callAc {} linkSite category).run.run partlyPublished).1.toOption =
        some (.safe "<a href=\"/wiki/c\" title=\"Tip\" class=\"big\">All</a>") ∧
      ((callAi {} linkSite []).run.run partlyPublished).1.toOption =
        some (.safe "<a href=\"/wiki/c\">C</a>") ∧
      topicDestination partlyPublished renderOfPublished "p" none =
        .document (some (partlyPublished.topicDocument ⟨0⟩)) "p" "/wiki/c/p" := by
  intro statement ident category
  have input : textAt partlyPublished statement 0 = some "p == Page := Tip" := by
    cbv
  have topic : textAt partlyPublished ident 0 = some "t" := by
    cbv
  have listed : textAt partlyPublished category 0 = some "c" := by
    cbv
  have filed : partlyPublished.Filed := Filing.runs_filed _
  obtain ⟨linked, -⟩ := links_gated {} partlyPublished linkSite statement
  obtain ⟨todo, -, -, -, own⟩ := links_gated {} partlyPublished linkSite ident
  obtain ⟨list, -⟩ := links_gated {} partlyPublished linkSite category
  obtain ⟨-, index, -⟩ := links_gated {} partlyPublished linkSite []
  obtain ⟨-, -, page⟩ := linked renderOfPublished "p == Page := Tip" rfl input
  obtain ⟨missing, -, -⟩ := todo renderOfPublished "t" rfl topic
  obtain ⟨-, all, -⟩ := list renderOfPublished "c" rfl listed
  refine ⟨input, topic, listed, filed, ?_, ?_, ?_, ?_, ?_⟩
  · rw [markup_of_shows page (by cbv)]
    cbv
  · rw [markup_of_shows missing (by cbv)]
    cbv
  · rw [markup_of_shows all (by cbv)]
    cbv
  · rw [markup_of_shows index (by cbv)]
    cbv
  · rw [(own filed renderOfPublished).1 "p" none ⟨0⟩ ⟨0⟩ rfl rfl]
    cbv

end LinkHelpers

end TopicWiki
