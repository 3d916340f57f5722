import Mathlib
import TopicWiki.Proofs.Wiki.Assembly

namespace TopicWiki

open Template

namespace Renderer

variable {r : Renderer}

theorem Calm.keeps_contextFor (calm : r.Calm) (topic : TopicId) :
    Fallible.Keeps r.engine (r.contextFor topic) := by
  have quiet (s s' : State) (undisturbed : Undisturbed s s') : Sheltering r.engine s s' :=
    undisturbed.sheltering r.engine
  refine (moves_contextFor quiet ?_ topic).keeps
  exact fun extension member render bindings => (calm.hooks extension member render bindings).moves

theorem documentSource_spares {e : Engine} (scope : RenderScope) :
    Fallible.Agree (Sheltered e) e.Spares (documentSource scope) (documentSource scope) := by
  intro s sheltered
  refine ⟨rfl, sheltered.of_sameTexts (quiet_documentSource scope s).toSameTexts, ?_⟩
  intro source found
  obtain ⟨text, held, rfl⟩ := Option.map_eq_some_iff.mp (documentSource_ok (Prod.ext found rfl))
  exact sheltered.documents scope.category scope.topic text held

/-- Rendering a context leads to the same where those renders are answered alike that the document
    may ask for: its output is not known, and the guard lets it pass. -/
theorem Calm.renderContext_agree (calm : r.Calm) {x y : View.Nested} {context : Context} {s : State}
    (sheltered : Sheltered r.engine s)
    (same : ∀ name, contextName s context = .ok name → s.outputs.find? name = none →
      guard name context.scope.stack = .ok () →
      SameAnswers r.engine (context.scope.entered name) x y) :
    (r.renderContext x context).run.run s = (r.renderContext y context).run.run s ∧
      Sheltered r.engine ((r.renderContext y context).run.run s).2 := by
  unfold renderContext
  refine Fallible.agree_from sheltered ?_
  refine Fallible.agree_bind (Fallible.agree_ofExcept_self _) ?_
  intro name named
  cases unknown : s.outputs.find? name with
  | some output =>
    refine Fallible.agree_bind (Fallible.agree_lift ((State.quiet_note _ _).keeps _)) ?_
    exact fun _ _ => Fallible.agree_pure trivial
  | none =>
    refine Fallible.agree_bind (Fallible.agree_ofExcept_self _) ?_
    rintro ⟨⟩ passed
    refine Fallible.agree_bind (documentSource_spares context.scope) ?_
    intro source spares
    refine Fallible.agree_bind (Fallible.agree_modify fun _ allowed => allowed.setSource spares) ?_
    intro _ _
    have alike := same name named unknown passed
    refine Fallible.agree_bind
      (Engine.render_agree calm.engine r.site alike name context.bindings) ?_
    intro text _
    refine Fallible.agree_bind Fallible.agree_get ?_
    intro s' _
    simp only
    split
    · refine Fallible.agree_bind (Fallible.agree_modify ?_) fun _ _ => ?_
      · exact fun _ allowed => allowed.of_sameTexts ⟨rfl, rfl, fun _ => rfl, fun _ => rfl⟩
      · exact Fallible.agree_bind (Fallible.agree_lift ((State.quiet_note _ _).keeps _)) fun _ _ =>
          Fallible.agree_pure trivial
    · exact Fallible.agree_bind (Fallible.agree_lift ((State.quiet_note _ _).keeps _)) fun _ _ =>
        Fallible.agree_pure trivial

theorem Opens.sheltered (calm : r.Calm) {q : Request} {context : Context} {s : State}
    (opens : r.Opens q context s) (sheltered : Sheltered r.engine q.state) :
    Sheltered r.engine s := by
  obtain ⟨fresh, opened, -⟩ := opens
  have kept := (calm.keeps_contextFor q.topic q.state sheltered).2.1
  change Sheltered r.engine ((r.contextFor q.topic).run.run q.state).2 at kept
  rw [opened] at kept
  exact kept

def Pending (r : Renderer) (q : Request) (name : String) (s : State) : Prop :=
  ∃ context, r.Opens q context s ∧ contextName s context = .ok name ∧ s.outputs.find? name = none

theorem Pending.refused {q : Request} {name : String} {s : State} {fault : RenderError}
    (pending : r.Pending q name s) (refused : guard name q.stack = .error fault)
    (nested : View.Nested) : q.answer (r.renderVia nested) = (.error fault, s) := by
  obtain ⟨context, opens, named, unknown⟩ := pending
  rw [opens.answer]
  apply renderContext_of_refused named unknown
  rw [opens.stack]
  exact refused

/-- The render that answers a request asks for `q'` while other documents are rendered by `nested`:
    another answer to `q'` alone makes a difference. -/
def Asks (r : Renderer) (nested : View.Nested) (q q' : Request) : Prop :=
  ∃ other : View.Nested, (∀ q'', q'' ≠ q' → q''.answer other = q''.answer nested) ∧
    q.answer (r.renderVia other) ≠ q.answer (r.renderVia nested)

theorem pending_of_asks {nested : View.Nested} {q q' : Request} (asks : r.Asks nested q q') :
    ∃ name s, r.Pending q name s := by
  obtain ⟨other, -, differ⟩ := asks
  cases opened : (r.contextFor q.topic).run.run q.state with
  | mk outcome s =>
    cases outcome with
    | error fault =>
      refine absurd ?_ differ
      exact (Fallible.run_bind_of_error opened).trans (Fallible.run_bind_of_error opened).symm
    | ok fresh =>
      have opens : r.Opens q { fresh with scope := { fresh.scope with stack := q.stack } } s :=
        ⟨fresh, opened, rfl⟩
      rw [opens.answer, opens.answer] at differ
      cases named : contextName s { fresh with scope := { fresh.scope with stack := q.stack } } with
      | error fault =>
        rw [renderContext_of_unnamed named, renderContext_of_unnamed named] at differ
        exact absurd rfl differ
      | ok name =>
        cases unknown : s.outputs.find? name with
        | some output =>
          rw [renderContext_of_known named unknown, renderContext_of_known named unknown] at differ
          exact absurd rfl differ
        | none => exact ⟨name, s, _, opens, named, unknown⟩

theorem Calm.asks_within (calm : r.Calm) {nested : View.Nested}
    (keeps : ∀ parent? topic, Fallible.Keeps r.engine (nested parent? topic)) {q q' : Request}
    {name : String} {s : State} (sheltered : Sheltered r.engine q.state)
    (pending : r.Pending q name s) (asks : r.Asks nested q q') :
    guard name q.stack = .ok () ∧ q'.stack = q.stack ++ [name] ∧ Sheltered r.engine q'.state := by
  obtain ⟨context, opens, named, unknown⟩ := pending
  obtain ⟨other, alike, differ⟩ := asks
  rw [opens.answer, opens.answer] at differ
  have within : ∃ topic s', q' = ⟨some (context.scope.entered name), topic, s'⟩ ∧
      Sheltered r.engine s' ∧ guard name context.scope.stack = .ok () := by
    apply Classical.byContradiction
    intro elsewhere
    refine differ (calm.renderContext_agree (opens.sheltered calm sheltered) ?_).1
    intro name' named' _ passed topic s' sheltered'
    have same : name' = name := Except.ok.inj (named'.symm.trans named)
    subst same
    have different : (⟨some (context.scope.entered name'), topic, s'⟩ : Request) ≠ q' :=
      fun found => elsewhere ⟨topic, s', found.symm, sheltered', passed⟩
    obtain ⟨-, kept, -⟩ := keeps (some (context.scope.entered name')) topic s' sheltered'
    have answered := alike _ different
    change (other (some (context.scope.entered name')) topic).run.run s' =
      (nested (some (context.scope.entered name')) topic).run.run s' at answered
    refine ⟨answered, ?_, fun _ _ => trivial⟩
    rw [answered]
    exact kept
  obtain ⟨topic, s', rfl, sheltered', passed⟩ := within
  rw [opens.stack] at passed
  refine ⟨passed, ?_, sheltered'⟩
  rw [← opens.stack]
  rfl

theorem Calm.keeps_renderWithin (calm : r.Calm) (fuel : Nat) (parent? : Option RenderScope)
    (topic : TopicId) : Fallible.Keeps r.engine (r.renderWithin fuel parent? topic) := by
  induction fuel generalizing parent? topic with
  | zero => exact Fallible.agree_throw
  | succ fuel ih =>
    rw [renderWithin_succ]
    refine Fallible.agree_bind (calm.keeps_contextFor topic) ?_
    intro context _ s sheltered
    have same (scope : RenderScope) :
        SameAnswers r.engine scope (r.renderWithin fuel) (r.renderWithin fuel) :=
      fun topic => ih (some scope) topic
    obtain ⟨-, kept⟩ := calm.renderContext_agree sheltered fun name _ _ _ => same _
    exact ⟨rfl, kept, fun _ _ => trivial⟩

/-- The requests that one call of `render` leads to: with the renders that may still be nested, and
    the names of the documents whose renders are active around the request, the outermost first. -/
inductive Chain (r : Renderer) (s₀ : State) : (fuel : Nat) → (active : List String) → Request → Prop
  | start (topic : TopicId) : Chain r s₀ r.stackRoom [] ⟨none, topic, s₀⟩
  | nest {fuel : Nat} {active : List String} {q q' : Request} {name : String} {s : State} :
    Chain r s₀ (fuel + 1) active q → r.Pending q name s → r.Asks (r.renderWithin fuel) q q' →
      Chain r s₀ fuel (active ++ [name]) q'

/-- Nothing that a render asks for is left out of the chains. -/
theorem Chain.continues {s₀ : State} {fuel : Nat} {active : List String} {q q' : Request}
    (chain : r.Chain s₀ (fuel + 1) active q) (asks : r.Asks (r.renderWithin fuel) q q') :
    ∃ name, r.Chain s₀ fuel (active ++ [name]) q' := by
  obtain ⟨name, s, pending⟩ := pending_of_asks asks
  exact ⟨name, Chain.nest chain pending asks⟩

structure Guarded (r : Renderer) (s₀ : State) (fuel : Nat) (active : List String) (q : Request) :
    Prop where
  stack : q.stack = active
  distinct : active.Nodup
  few : active.length ≤ maxRenderDepth
  room : fuel + active.length = r.stackRoom
  sheltered : Sheltered r.engine q.state

theorem Chain.guarded {s₀ : State} {fuel : Nat} {active : List String} {q : Request} (calm : r.Calm)
    (sheltered : Sheltered r.engine s₀) (chain : r.Chain s₀ fuel active q) :
    r.Guarded s₀ fuel active q := by
  induction chain with
  | start topic => exact ⟨rfl, List.nodup_nil, Nat.zero_le _, rfl, sheltered⟩
  | @nest fuel active q q' name s chain pending asks ih =>
    obtain ⟨passed, entered, sheltered'⟩ :=
      calm.asks_within (calm.keeps_renderWithin fuel) ih.sheltered pending asks
    rw [ih.stack] at passed entered
    obtain ⟨fresh, few⟩ := guard_passes passed
    refine ⟨entered, ?_, ?_, ?_, sheltered'⟩
    · refine List.nodup_append.mpr ⟨ih.distinct, List.pairwise_singleton _ name, ?_⟩
      rintro other member name' found rfl
      exact fresh (List.mem_singleton.mp found ▸ member)
    · rw [List.length_append]
      exact few
    · have room := ih.room
      rw [List.length_append, List.length_singleton]
      omega

/-- As long as no text hides the running render, a document is not rendered within itself, and at
    most eight renders are active at a time, the one that a request asks for among them: further
    requests are refused, so that the limit alone ends every chain. -/
theorem chain_refuses_cycles {s₀ : State} {fuel : Nat} {active : List String} {q : Request}
    (calm : r.Calm) (sheltered : Sheltered r.engine s₀) (roomy : 8 < r.stackRoom)
    (chain : r.Chain s₀ fuel active q) :
    active.Nodup ∧ active.length ≤ 8 ∧ 0 < fuel ∧
      ∀ name s, r.Pending q name s →
        if name ∈ active then q.answer (r.renderWithin fuel) = (.error (.cycle name), s)
        else if active.length = 8 then q.answer (r.renderWithin fuel) = (.error (.depth name 8), s)
        else (active ++ [name]).Nodup ∧ (active ++ [name]).length ≤ 8 := by
  have guarded := chain.guarded calm sheltered
  have few : active.length ≤ 8 := guarded.few
  have room := guarded.room
  have positive : 0 < fuel := by omega
  refine ⟨guarded.distinct, few, positive, ?_⟩
  intro name s pending
  obtain ⟨rest, rfl⟩ := Nat.exists_eq_succ_of_ne_zero (Nat.ne_of_gt positive)
  rw [renderWithin_succ]
  split
  · rename_i inside
    exact pending.refused (guarded.stack ▸ guard_of_mem inside) _
  · rename_i fresh
    split
    · rename_i full
      exact pending.refused (guarded.stack ▸ guard_of_full fresh full) _
    · rename_i free
      have distinct := List.Nodup.concat fresh guarded.distinct
      rw [List.concat_eq_append] at distinct
      refine ⟨distinct, ?_⟩
      rw [List.length_append, List.length_singleton]
      omega

def bare : Renderer where
  site := { controller := {}, routes := {}, converters := ⟨⟨"markdown", id⟩, ⟨"textile", id⟩⟩ }
  engine := Engine.attachLoader {}
  extensions := []
  globals := {}
  context := {}
  outputCache := .store
  defaults := { primary := .none }
  stackRoom := 16

def wikiOf (topics : List (String × String)) : State where
  store :=
    { categories := [{ document := { ident := "c", name := "", text? := some "" } }]
      topics := topics.map fun topic =>
        { document := { ident := topic.1, name := "", text? := some topic.2 }
          categoryIdent := "c"
          parent? := some ⟨0⟩ }
      categoryIndex := .ofList [("c", ⟨0⟩)]
      topicIndex := .ofList
        [("c", .ofList (topics.zipIdx.map fun topic => (topic.1.1, ⟨topic.2⟩)))] }
  format := { primary := .none }

def firstContext : Context where
  scope := { topic := ⟨0⟩, category := ⟨0⟩ }
  bindings := {}

theorem bare_moves (M : State → State → Prop) : bare.Moves M where
  engine :=
    { functions := fun _ member => by cases member
      filters := fun _ member => by cases member
      tests := fun _ member => by cases member }
  hooks _ member := by cases member

def bareParts (wiki : State) : RendererParts where
  config := { format := wiki.format, setExtensions? := some [] }
  controller? := some bare.site.controller
  store? := some wiki.store
  converters? := some bare.site.converters
  stackRoom := bare.stackRoom

theorem bare_built (topics : List (String × String)) : ∃ log,
    (bareParts (wikiOf topics)).build.run.run [] = (.ok (bare, wikiOf topics), log) :=
  ⟨_, rfl⟩

theorem bare_calm : bare.Calm := by
  obtain ⟨log, built⟩ := bare_built []
  exact RendererParts.build_calm rfl rfl (fun _ given => by cases given)
    (fun _ member => by cases member) built

theorem bare_spares {text : String}
    (spares : ((Template.read text).toOption.any spareAll) = true) : bare.engine.Spares text := by
  intro template serials result applied
  have unchanged : result = String.ofList text.toList := (Except.ok.inj applied).symm
  rw [unchanged, String.ofList_toList, Engine.read]
  cases readable : Template.read text with
  | error fault =>
    rw [readable] at spares
    cases spares
  | ok nodes =>
    rw [readable] at spares
    exact ⟨nodes, rfl, spares⟩

def selfish : State :=
  wikiOf [("a", "\x7b\x7bthis.topic.content()\x7d\x7d")]

def selfishRender : Request :=
  ⟨none, ⟨0⟩, selfish⟩

def selfishRequest : Request where
  parent? := some ⟨⟨0⟩, ⟨0⟩, ["c::a"]⟩
  topic := ⟨0⟩
  state :=
    { selfish with
      sources := .ofList [("c::a", "\x7b\x7bthis.topic.content()\x7d\x7d")]
      log := [⟨.trace, "source cache hit for 'c::a'"⟩] }

theorem selfish_sheltered : Sheltered bare.engine selfish := by
  have silent : bare.engine.Spares "" := bare_spares (by decide +kernel)
  have asking : bare.engine.Spares "\x7b\x7bthis.topic.content()\x7d\x7d" :=
    bare_spares (by decide +kernel)
  refine
    { sources := fun _ _ found => by cases found
      templates := fun _ _ found => by cases found
      includes := ?_
      missing := silent
      documents := ?_ }
  · rintro ⟨_ | index⟩ name text found <;> cases found
  · rintro ⟨_ | index⟩ ⟨_ | index'⟩ text found <;> cases found <;> exact asking

theorem selfishRender_answered {nested : View.Nested}
    (answered : selfishRequest.answer nested = (.ok "", selfishRequest.state)) :
    (selfishRender.answer (bare.renderVia nested)).1.toOption = some "" := by
  have there (s : State) (same : s = selfishRequest.state) :
      nested (some ⟨⟨0⟩, ⟨0⟩, ["c::a"]⟩) ⟨0⟩ s = (.ok "", selfishRequest.state) := by
    rw [same]
    exact answered
  conv => lhs; cbv
  rw [there]
  · cbv
  · rfl

theorem selfish_chain : bare.Chain selfish 15 ["c::a"] selfishRequest := by
  have pending : bare.Pending selfishRender "c::a" selfish := ⟨_, ⟨_, rfl, rfl⟩, by cbv, rfl⟩
  refine Chain.nest (Chain.start ⟨0⟩) pending ?_
  classical
  let other : View.Nested := fun parent? topic s =>
    if (⟨parent?, topic, s⟩ : Request) = selfishRequest then (.ok "", selfishRequest.state)
    else bare.renderWithin 15 parent? topic s
  have changed : selfishRequest.answer other = (.ok "", selfishRequest.state) := if_pos rfl
  have refused :
      (selfishRender.answer (bare.renderVia (bare.renderWithin 15))).1.toOption = none := by
    decide +kernel
  have differ : selfishRender.answer (bare.renderVia other) ≠
      selfishRender.answer (bare.renderVia (bare.renderWithin 15)) := by
    intro same
    rw [← same, selfishRender_answered changed] at refused
    cases refused
  exact ⟨other, fun q different => if_neg different, differ⟩

theorem chain_refuses_cycles_of_selfish :
    (∃ log, (bareParts selfish).build.run.run [] = (.ok (bare, selfish), log)) ∧
      bare.Calm ∧ Sheltered bare.engine selfish ∧ bare.Chain selfish 15 ["c::a"] selfishRequest ∧
      selfishRequest.answer (bare.renderWithin 15) =
        (.error (.cycle "c::a"), selfishRequest.state) := by
  have pending : bare.Pending selfishRequest "c::a" selfishRequest.state :=
    ⟨_, ⟨_, rfl, rfl⟩, by cbv, rfl⟩
  obtain ⟨-, -, -, refuses⟩ :=
    chain_refuses_cycles bare_calm selfish_sheltered (by decide) selfish_chain
  refine ⟨bare_built _, bare_calm, selfish_sheltered, selfish_chain, ?_⟩
  have refused := refuses "c::a" selfishRequest.state pending
  rwa [if_pos (List.mem_singleton_self "c::a")] at refused

def secretive : State :=
  wikiOf
    [("0", "0\x7b\x7bthis.parser.render('c', '1')\x7d\x7d"),
    ("1", "1\x7b\x7bthis.parser.render('c', '2')\x7d\x7d"),
    ("2", "2\x7b\x7bthis.parser.render('c', '3')\x7d\x7d"),
    ("3", "3\x7b\x7bthis.parser.render('c', '4')\x7d\x7d"),
    ("4", "4\x7b% set __folio_scope = 0 %\x7d\x7b\x7bthis.parser.render('c', '5')\x7d\x7d"),
    ("5", "5\x7b\x7bthis.parser.render('c', '6')\x7d\x7d"),
    ("6", "6\x7b\x7bthis.parser.render('c', '7')\x7d\x7d"),
    ("7", "7\x7b\x7bthis.parser.render('c', '8')\x7d\x7d"), ("8", "8")]

/-- Behind a text that hides its render, more renders are active than the limit allows. -/
theorem chain_outgrows_limit :
    ((bare.render ⟨0⟩).run.run secretive).1.toOption = some "012345678" := by
  decide +kernel

end Renderer

end TopicWiki
