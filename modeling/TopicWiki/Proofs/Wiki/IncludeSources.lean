import Mathlib
import TopicWiki.Proofs.Wiki.History
import TopicWiki.Proofs.Wiki.RenderChain

namespace TopicWiki

namespace State

variable {name category includeName : String} {s : State}

def includeText (s : State) (id : CategoryId) (includeName : String) : String :=
  ((s.categoryDocument id).includes.find? includeName).getD ""

theorem included_eq (s : State) (id : CategoryId) (includeName : String) :
    ((s.categoryDocument id).included includeName .none .all).1 =
      .ok (s.includeText id includeName) := by
  unfold Document.included includeText
  cases (s.categoryDocument id).includes.find? includeName <;> rfl

theorem resolveSource_of_include {id : CategoryId} (unknown : s.sources.find? name = none)
    (parts : Name.split? name = some (category, includeName))
    (found : s.category? category = some id) :
    ∃ s₁, Undisturbed s s₁ ∧ (resolveSource name).run.run s =
      (.ok (s.includeText id includeName),
        { s₁ with sources := s₁.sources.insert name (s.includeText id includeName) }) := by
  obtain ⟨given, undisturbed⟩ := findCategory_run category s
  generalize looked : ((findCategory category).run s).2 = s₁ at undisturbed
  let outcome := (s₁.categoryDocument id).included includeName .none .all
  let s₂ := ((reading outcome).run s₁).2
  let s₃ := ((note .trace ("resolved include '" ++ name ++ "'")).run s₂).2
  have read : outcome.1 = .ok (s.includeText id includeName) := by
    have same : s₁.includeText id includeName = s.includeText id includeName := by
      unfold includeText
      rw [undisturbed.categories id]
    rw [← same]
    exact included_eq s₁ id includeName
  have started : (get : ExceptT LoaderError Running State).run.run s = (.ok s, s) := rfl
  have lookup : (liftM (findCategory category) :
      ExceptT LoaderError Running (Option CategoryId)).run.run s = (.ok (some id), s₁) := by
    rw [← found, ← given, ← looked]
    rfl
  have current : (get : ExceptT LoaderError Running State).run.run s₁ = (.ok s₁, s₁) := rfl
  have opened : (liftM (reading outcome) :
      ExceptT LoaderError Running (Except ContentError String)).run.run s₁ =
        (.ok (.ok (s.includeText id includeName)), s₂) := by
    rw [← read, ← reading_result outcome s₁]
    rfl
  have noted : Undisturbed s s₃ := by
    refine trans_of Undisturbed undisturbed (trans_of Undisturbed (quiet_reading outcome s₁) ?_)
    exact quiet_note _ _ s₂
  refine ⟨s₃, noted, ?_⟩
  unfold resolveSource
  rw [Fallible.run_bind_of_ok started]
  simp only [unknown, parts]
  rw [Fallible.run_bind_of_ok lookup]
  simp only
  rw [Fallible.run_bind_of_ok current, Fallible.run_bind_of_ok opened]
  rfl

theorem resolveSource_of_unknown (unknown : s.sources.find? name = none)
    (nowhere : ∀ category includeName, Name.split? name = some (category, includeName) →
      s.category? category = none) :
    Undisturbed s ((resolveSource name).run.run s).2 := by
  have started : (get : ExceptT LoaderError Running State).run.run s = (.ok s, s) := rfl
  unfold resolveSource
  rw [Fallible.run_bind_of_ok started]
  simp only [unknown]
  split
  · exact refl_of Undisturbed s
  · rename_i category includeName parts
    obtain ⟨given, undisturbed⟩ := findCategory_run category s
    have lookup : (liftM (findCategory category) :
        ExceptT LoaderError Running (Option CategoryId)).run.run s =
          (.ok none, ((findCategory category).run s).2) := by
      rw [← nowhere category includeName parts, ← given]
      rfl
    rw [Fallible.run_bind_of_ok lookup]
    exact undisturbed

end State

structure SameSite (s s' : State) : Prop where
  categories : ∀ id, s'.categoryDocument id = s.categoryDocument id
  topics : ∀ id, s'.topicDocument id = s.topicDocument id
  found : ∀ ident, s'.category? ident = s.category? ident

instance : IsPreorder State SameSite where
  refl _ := ⟨fun _ => rfl, fun _ => rfl, fun _ => rfl⟩
  trans _ _ _ first second :=
    { categories := fun id => (second.categories id).trans (first.categories id)
      topics := fun id => (second.topics id).trans (first.topics id)
      found := fun ident => (second.found ident).trans (first.found ident) }

theorem Undisturbed.sameSite {s s' : State} (undisturbed : Undisturbed s s') : SameSite s s' :=
  ⟨undisturbed.categories, undisturbed.topics, undisturbed.found⟩

structure SameSources (s s' : State) : Prop where
  site : SameSite s s'
  sources : s'.sources = s.sources

instance : IsPreorder State SameSources where
  refl s := ⟨refl_of SameSite s, rfl⟩
  trans _ _ _ first second :=
    ⟨trans_of SameSite first.site second.site, second.sources.trans first.sources⟩

theorem Undisturbed.sameSources {s s' : State} (undisturbed : Undisturbed s s') :
    SameSources s s' :=
  ⟨undisturbed.sameSite, undisturbed.sources⟩

theorem SameSources.of_same_store {s s' : State} (store : s'.store = s.store)
    (known : s'.knownCategories = s.knownCategories) (sources : s'.sources = s.sources) :
    SameSources s s' := by
  refine ⟨⟨?_, ?_, ?_⟩, sources⟩
  · intro id
    unfold State.categoryDocument
    rw [store]
  · intro id
    unfold State.topicDocument
    rw [store]
  · intro ident
    unfold State.category?
    rw [store, known]

theorem State.clearOutput_sameSources (name? : Option String) (s : State) :
    SameSources s ((clearOutput name?).run s).2 := by
  cases name? <;> exact .of_same_store rfl rfl rfl

theorem SameSite.includeText {s s' : State} (same : SameSite s s') (id : CategoryId)
    (includeName : String) : s'.includeText id includeName = s.includeText id includeName := by
  unfold State.includeText
  rw [same.categories id]

theorem SameSite.sourceIn {s s' : State} (same : SameSite s s') (scope : RenderScope) :
    Renderer.sourceIn s' scope = Renderer.sourceIn s scope := by
  unfold Renderer.sourceIn
  rw [same.categories, same.topics]

theorem SameSite.contextName {s s' : State} (same : SameSite s s') (context : Context) :
    Renderer.contextName s' context = Renderer.contextName s context := by
  unfold Renderer.contextName
  rw [same.categories, same.topics]

def Event.drafts (name : String) (source? : Option String) : Event → Option String
  | .drafted _ name' source => if name' = name then some source else source?
  | _ => source?

def lastDraft (name : String) (past : List Event) : Option String :=
  past.foldl (Event.drafts name) none

theorem lastDraft_concat (name : String) (past : List Event) (e : Event) :
    lastDraft name (past ++ [e]) = e.drafts name (lastDraft name past) := by
  unfold lastDraft
  rw [List.foldl_concat]

/-- A name is known by the source that it has been given last, or by the text of an include. -/
def KnownBy (name text : String) (source? : Option String) (s : State) : Prop :=
  s.sources.find? name = source? ∨ source? = none ∧ s.sources.find? name = some text

theorem KnownBy.of_sameSources {name text : String} {source? : Option String} {s s' : State}
    (known : KnownBy name text source? s) (same : s'.sources = s.sources) :
    KnownBy name text source? s' := by
  unfold KnownBy
  rw [same]
  exact known

def IsInclude (s₀ : State) (name : String) (id : CategoryId) (includeName : String) : Prop :=
  ∃ category, Name.split? name = some (category, includeName) ∧ s₀.category? category = some id

section

variable {s₀ s : State} {name includeName : String} {id : CategoryId} {source? : Option String}

theorem KnownBy.resolves (known : KnownBy name (s₀.includeText id includeName) source? s)
    (isInclude : IsInclude s₀ name id includeName) (same : SameSite s₀ s) :
    ((State.resolveSource name).run.run s).1 =
      .ok (source?.getD (s₀.includeText id includeName)) := by
  obtain ⟨category, parts, found⟩ := isInclude
  rcases known with given | ⟨rfl, given⟩
  · cases source? with
    | some source =>
      rw [State.resolveSource_of_known given]
      rfl
    | none =>
      rw [← same.found category] at found
      obtain ⟨s₁, -, resolved⟩ := State.resolveSource_of_include given parts found
      rw [resolved, same.includeText id includeName]
      rfl
  · rw [State.resolveSource_of_known given]
    rfl

theorem KnownBy.resolve (known : KnownBy name (s₀.includeText id includeName) source? s)
    (isInclude : IsInclude s₀ name id includeName) (same : SameSite s₀ s) (other : String) :
    KnownBy name (s₀.includeText id includeName) source?
        ((State.resolveSource other).run.run s).2 ∧
      SameSite s₀ ((State.resolveSource other).run.run s).2 := by
  cases given : s.sources.find? other with
  | some source =>
    rw [State.resolveSource_of_known given]
    refine ⟨known.of_sameSources rfl, trans_of SameSite same ?_⟩
    exact (State.quiet_note _ _ s).sameSite
  | none =>
    by_cases somewhere : ∃ category otherName id', Name.split? other = some (category, otherName) ∧
      s.category? category = some id'
    · obtain ⟨category, otherName, id', parts, found⟩ := somewhere
      obtain ⟨s₁, undisturbed, resolved⟩ := State.resolveSource_of_include given parts found
      have there := trans_of SameSite same undisturbed.sameSite
      rw [resolved]
      refine ⟨?_, ⟨there.categories, there.topics, there.found⟩⟩
      unfold KnownBy
      simp only [Dictionary.find?_insert, undisturbed.sources]
      by_cases this : other = name
      · subst this
        obtain ⟨category', parts', found'⟩ := isInclude
        rw [parts] at parts'
        cases parts'
        rw [same.found category, found'] at found
        cases found
        rw [if_pos rfl, same.includeText id includeName]
        rcases known with draft | ⟨none_, -⟩
        · exact .inr ⟨draft.symm.trans given, rfl⟩
        · exact .inr ⟨none_, rfl⟩
      · rw [if_neg this]
        exact known
    · have nowhere (category otherName : String)
          (parts : Name.split? other = some (category, otherName)) :
          s.category? category = none := by
        cases found : s.category? category with
        | none => rfl
        | some id' => exact absurd ⟨category, otherName, id', parts, found⟩ somewhere
      have undisturbed := State.resolveSource_of_unknown given nowhere
      exact ⟨known.of_sameSources undisturbed.sources,
        trans_of SameSite same undisturbed.sameSite⟩

end

namespace Renderer

variable {r : Renderer} {s₀ s : State} {name includeName : String} {id : CategoryId}

/-- What is known of the name of an include in the course of renders: what it stands for, now and
    whenever a template has asked for it, and where the sources come from that documents are
    given. -/
structure Including (s₀ : State) (name : String) (id : CategoryId) (includeName : String)
    (past : List Event) (s : State) : Prop where
  site : SameSite s₀ s
  known : KnownBy name (s₀.includeText id includeName) (lastDraft name past) s
  loaded : ∀ earlier active s' later, past = earlier ++ .loaded active name s' :: later →
    ((State.resolveSource name).run.run s').1 =
      .ok ((lastDraft name earlier).getD (s₀.includeText id includeName))
  drafted : ∀ earlier context name' source later,
    past = earlier ++ .drafted context name' source :: later →
      contextName s₀ context = .ok name' ∧ sourceIn s₀ context.scope = some source

theorem Including.of_undisturbed {past : List Event} {s s' : State}
    (including : Including s₀ name id includeName past s) (undisturbed : Undisturbed s s') :
    Including s₀ name id includeName past s' where
  site := trans_of SameSite including.site undisturbed.sameSite
  known := including.known.of_sameSources undisturbed.sources
  loaded := including.loaded
  drafted := including.drafted

theorem Including.concat {past : List Event} {s s' : State} {e : Event}
    (including : Including s₀ name id includeName past s) (site : SameSite s₀ s')
    (known : KnownBy name (s₀.includeText id includeName) (e.drafts name (lastDraft name past)) s')
    (loaded : ∀ active s', e = .loaded active name s' →
      ((State.resolveSource name).run.run s').1 =
        .ok ((lastDraft name past).getD (s₀.includeText id includeName)))
    (drafted : ∀ context name' source, e = .drafted context name' source →
      contextName s₀ context = .ok name' ∧ sourceIn s₀ context.scope = some source) :
    Including s₀ name id includeName (past ++ [e]) s' where
  site := site
  known := by
    rw [lastDraft_concat]
    exact known
  loaded earlier active s' later split := by
    rcases split_concat split with ⟨-, same, rfl⟩ | ⟨between, -, split⟩
    · exact loaded active s' same.symm
    · exact including.loaded earlier active s' between split
  drafted earlier context name' source later split := by
    rcases split_concat split with ⟨-, same, -⟩ | ⟨between, -, split⟩
    · exact drafted context name' source same.symm
    · exact including.drafted earlier context name' source between split

theorem undisturbed_of_acts (moves : r.Moves Undisturbed) {s s' : State} (acts : r.Acts s s') :
    Undisturbed s s' :=
  acts _ inferInstance (fun _ _ undisturbed => undisturbed) moves

theorem published_sameSources (r : Renderer) (closed html : String) (s : State) :
    SameSources s (r.published closed html s) := by
  unfold published
  split
  · exact .of_same_store rfl rfl rfl
  · exact refl_of SameSources s

theorem Closes.sameSources {closed : String} {s s' : State} {outcome : Except RenderError String}
    (closes : r.Closes closed s outcome s') : SameSources s s' := by
  rcases closes with ⟨fault, -, rfl⟩ | ⟨text, finished⟩
  · exact refl_of SameSources s'
  · obtain ⟨s'', finished', undisturbed⟩ := r.finish_run closed text s
    obtain ⟨-, rfl⟩ := Prod.mk.inj (finished.symm.trans finished')
    exact trans_of SameSources (r.published_sameSources closed _ s) undisturbed.sameSources

theorem kept_including (moves : r.Moves Undisturbed)
    (isInclude : IsInclude s₀ name id includeName) :
    r.Kept fun _ => Including s₀ name id includeName where
  acts acts including := including.of_undisturbed (undisturbed_of_acts moves acts)
  drafts {active past context drafted source s s'} drafts including := by
    obtain ⟨s₁, undisturbed, rfl⟩ := drafts.undisturbed
    have site := trans_of SameSite including.site undisturbed.sameSite
    refine including.concat ⟨site.categories, site.topics, site.found⟩ ?_ (by rintro _ _ ⟨⟩) ?_
    · unfold KnownBy Event.drafts
      simp only [Dictionary.find?_insert, undisturbed.sources]
      split
      · exact .inl rfl
      · exact including.known
    · rintro _ _ _ ⟨⟩
      obtain ⟨s₂, sourced, -⟩ := drafts.sourced
      rw [← including.site.contextName, ← including.site.sourceIn]
      exact ⟨drafts.named, documentSource_ok sourced⟩
  loads {active past template s} including := by
    obtain ⟨t, there, same⟩ : ∃ t, (t = s ∨ t = ((State.resolveSource template).run.run s).2) ∧
        SameSources t ((r.engine.load template).run.run s).2 :=
      Engine.exists_load_moves (fun _ _ undisturbed => undisturbed.sameSources)
        (fun _ _ _ => .of_same_store rfl rfl rfl) template s
    have resolved : KnownBy name (s₀.includeText id includeName) (lastDraft name past) t ∧
        SameSite s₀ t := by
      rcases there with rfl | rfl
      · exact ⟨including.known, including.site⟩
      · exact including.known.resolve isInclude including.site template
    refine including.concat (trans_of SameSite resolved.2 same.site) ?_ ?_ (by rintro _ _ _ ⟨⟩)
    · exact resolved.1.of_sameSources same.sources
    · rintro _ _ ⟨⟩
      exact including.known.resolves isInclude including.site
  settles {past x} settles including := by
    have later := including.of_undisturbed settles.undisturbed
    exact later.concat later.site later.known (by rintro _ _ ⟨⟩) (by rintro _ _ _ ⟨⟩)
  closes {past x own s} named closes including := by
    have same := closes.sameSources
    refine including.concat (trans_of SameSite including.site same.site) ?_ (by rintro _ _ ⟨⟩)
      (by rintro _ _ _ ⟨⟩)
    exact including.known.of_sameSources same.sources

/-- In a site whose documents stay the same, the name of an include stands for the text of that
    include until a render gives a source to a document of the same name, and from then on for the
    source that has been given last; so it is whenever a template asks for it. Nothing else of what
    has happened matters. -/
theorem includes_resolve (moves : r.Moves Undisturbed) (fresh : s₀.sources.find? name = none)
    (isInclude : IsInclude s₀ name id includeName) {past : List Event}
    (history : r.History Undisturbed s₀ past s) :
    ((State.resolveSource name).run.run s).1 =
        .ok ((lastDraft name past).getD (s₀.includeText id includeName)) ∧
      (∀ earlier active s' later, past = earlier ++ .loaded active name s' :: later →
        ((State.resolveSource name).run.run s').1 =
          .ok ((lastDraft name earlier).getD (s₀.includeText id includeName))) ∧
      ∀ earlier context name' source later,
        past = earlier ++ .drafted context name' source :: later →
          contextName s₀ context = .ok name' ∧ sourceIn s₀ context.scope = some source := by
  have start : Including s₀ name id includeName [] s₀ := by
    refine ⟨refl_of SameSite s₀, .inl fresh, ?_, ?_⟩
    · rintro earlier active s' later impossible
      simp at impossible
    · rintro earlier context name' source later impossible
      simp at impossible
  have including : Including s₀ name id includeName past s := by
    refine (kept_including moves isInclude).history
      (fun _ _ _ undisturbed including => including.of_undisturbed undisturbed) ?_ ?_ start history
    · intro past s name' html including
      have site := including.site
      exact including.concat ⟨site.categories, site.topics, site.found⟩ including.known
        (by rintro _ _ ⟨⟩) (by rintro _ _ _ ⟨⟩)
    · intro past s name? including
      have site := including.site
      have cleared := State.clearOutput_sameSources name? s
      refine including.concat (trans_of SameSite site cleared.site) ?_ (by rintro _ _ ⟨⟩)
        (by rintro _ _ _ ⟨⟩)
      exact including.known.of_sameSources cleared.sources
  refine ⟨?_, including.loaded, including.drafted⟩
  exact including.known.resolves isInclude including.site

def shadowed : State :=
  let wiki := wikiOf [("t", "topic"), ("p", "\x7b% include 'c::t' %\x7d")]
  let change (c : Category) : Category :=
    { c with document :=
        { c.document with text? := some " head ", includes := .ofList [("t", "include")] } }
  { wiki with store := wiki.store.modifyCategory ⟨0⟩ change }

def shadowedParts : RendererParts where
  config :=
    { format := shadowed.format
      setExtensions? := some [.string "wiki", .string "formatting"] }
  controller? := some {}
  store? := some shadowed.store

theorem shadowed_built : ∃ r s log, shadowedParts.build.run.run [] = (.ok (r, s), log) ∧
    s.sources.find? "c::t" = none ∧ s.category? "c" = some ⟨0⟩ ∧
      s.includeText ⟨0⟩ "t" = "include" ∧
        ((State.resolveSource "c::t").run.run ((r.render ⟨0⟩).run.run s).2).1.toOption =
          some "head\ntopic" := by
  have seen : ((shadowedParts.build.run.run []).1.toOption.map fun (r, s) =>
      (s.sources.find? "c::t", s.category? "c", s.includeText ⟨0⟩ "t",
        ((State.resolveSource "c::t").run.run ((r.render ⟨0⟩).run.run s).2).1.toOption)) =
      some (none, some ⟨0⟩, "include", some "head\ntopic") := by
    decide +kernel
  cases built : shadowedParts.build.run.run [] with
  | mk outcome log =>
    rw [built] at seen
    cases outcome with
    | error fault => cases seen
    | ok rendering =>
      obtain ⟨r, s⟩ := rendering
      simp only [Except.toOption, Option.map_some, Option.some.injEq, Prod.mk.injEq] at seen
      exact ⟨r, s, log, rfl, seen⟩

theorem includes_resolve_behind_render :
    ∃ r s log past, shadowedParts.build.run.run [] = (.ok (r, s), log) ∧
      r.Moves Undisturbed ∧ s.sources.find? "c::t" = none ∧ IsInclude s "c::t" ⟨0⟩ "t" ∧
      r.History Undisturbed s past ((r.render ⟨0⟩).run.run s).2 ∧
      lastDraft "c::t" past = some "head\ntopic" := by
  obtain ⟨r, s, log, built, fresh, found, text, given⟩ := shadowed_built
  have moves : r.Moves Undisturbed :=
    RendererParts.build_moves (fun _ _ undisturbed => undisturbed) rfl rfl
      (fun _ given => by cases given) (fun _ member => by cases member) built
  have isInclude : IsInclude s "c::t" ⟨0⟩ "t" := ⟨"c", by decide +kernel, found⟩
  obtain ⟨events, timeline⟩ := r.exists_timeline r.stackRoom [] ⟨none, ⟨0⟩, s⟩
  have history : r.History Undisturbed s ([] ++ events) ((r.render ⟨0⟩).run.run s).2 :=
    .render .start timeline
  refine ⟨r, s, log, [] ++ events, built, moves, fresh, isInclude, history, ?_⟩
  obtain ⟨resolved, -, -⟩ := includes_resolve moves fresh isInclude history
  rw [resolved, text] at given
  cases drafted : lastDraft "c::t" ([] ++ events) with
  | none =>
    rw [drafted] at given
    exact absurd given (by decide)
  | some source =>
    rw [drafted] at given
    exact given

/-- What an include stands for depends on what has been rendered before. -/
theorem includes_follow_renders :
    ((State.resolveSource "c::t").run.run shadowed).1.toOption = some "include" ∧
      ((State.resolveSource "c::t").run.run
        ((bare.render ⟨0⟩).run.run shadowed).2).1.toOption = some "head\ntopic" := by
  decide +kernel

end Renderer

end TopicWiki
