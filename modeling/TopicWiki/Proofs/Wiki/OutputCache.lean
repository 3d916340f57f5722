import Mathlib
import TopicWiki.Proofs.Wiki.History
import TopicWiki.Proofs.Wiki.RenderChain

namespace TopicWiki

def Rendering.name? (x : Rendering) : Option String :=
  (Renderer.contextName x.before x.context).toOption

namespace Event

/-- The output of a name that is held after an event, if `held?` was before it: the one that has
    been rendered or set last, unless it has been cleared. Only some renderers store outputs. -/
def holds (caching : OutputCaching) (name : String) (held? : Option String) : Event → Option String
  | .rendered x =>
    if caching = .store ∧ x.name? = some name then x.outcome.toOption.or held? else held?
  | .set name' html => if name' = name then some html else held?
  | .cleared name? => if name?.getD name = name then none else held?
  | _ => held?

theorem holds_rendered (caching : OutputCaching) (name : String) (held? : Option String)
    (x : Rendering) : (Event.rendered x).holds caching name held? =
      if caching = .store ∧ x.name? = some name then x.outcome.toOption.or held? else held? :=
  rfl

def Resets (name : String) : Event → Prop
  | .set name' _ => name' = name
  | .cleared name? => name?.getD name = name
  | _ => False

theorem holds_of_kept {name : String} {e : Event} (keeps : ¬ e.Resets name)
    (plain : ∀ x, e ≠ .rendered x) (caching : OutputCaching) (held? : Option String) :
    e.holds caching name held? = held? := by
  cases e with
  | rendered x => exact absurd rfl (plain x)
  | set name' html => exact if_neg keeps
  | cleared name? => exact if_neg keeps
  | drafted | loaded => rfl

end Event

/-- A render of a document has given `html`, not within another render of that document, and its
    output has not been set or cleared since. -/
def Settled (name html : String) (past : List Event) : Prop :=
  ∃ earlier x later, past = earlier ++ .rendered x :: later ∧ x.name? = some name ∧
    x.outcome = .ok html ∧ name ∉ x.active ∧ ∀ e ∈ later, ¬ e.Resets name

theorem Settled.of_concat {name html : String} {past : List Event} {e : Event}
    (settled : Settled name html (past ++ [e])) :
    (Settled name html past ∧ ¬ e.Resets name) ∨
      ∃ x, e = .rendered x ∧ x.name? = some name ∧ x.outcome = .ok html ∧ name ∉ x.active := by
  obtain ⟨earlier, x, later, same, named, given, free, kept⟩ := settled
  rcases split_concat same with ⟨rfl, rfl, rfl⟩ | ⟨between, rfl, rfl⟩
  · exact .inr ⟨x, rfl, named, given, free⟩
  · refine .inl ⟨⟨earlier, x, between, rfl, named, given, free, ?_⟩, ?_⟩
    · exact fun e member => kept e (List.mem_append_left _ member)
    · exact kept e (List.mem_append_right _ (List.mem_singleton_self e))

def SameOutput (name : String) (s s' : State) : Prop :=
  s'.outputs.find? name = s.outputs.find? name

instance (name : String) : IsPreorder State (SameOutput name) where
  refl _ := rfl
  trans _ _ _ first second := second.trans first

theorem Undisturbed.sameOutput {s s' : State} (undisturbed : Undisturbed s s') (name : String) :
    SameOutput name s s' := by
  unfold SameOutput
  rw [undisturbed.outputs]

def Rendering.Repeats (x : Rendering) (name html : String) : Prop :=
  x.outcome = .ok html ∧ ∀ (r : Renderer) nested,
    (r.renderContext nested x.context).run.run x.before =
      (.ok html, ((State.note .trace ("output cache hit for '" ++ name ++ "'")).run x.before).2)

def outputAfter (caching : OutputCaching) (name : String) (held? : Option String)
    (past : List Event) : Option String :=
  past.foldl (Event.holds caching name) held?

theorem outputAfter_concat (caching : OutputCaching) (name : String) (held? : Option String)
    (past : List Event) (e : Event) :
    outputAfter caching name held? (past ++ [e]) =
      e.holds caching name (outputAfter caching name held? past) := by
  unfold outputAfter
  rw [List.foldl_concat]

namespace Renderer

variable {r : Renderer} {name : String} {s₀ s : State}

theorem sameOutput_of_acts (moves : r.Moves (SameOutput name)) {s s' : State}
    (acts : r.Acts s s') : SameOutput name s s' :=
  acts _ inferInstance (fun _ _ undisturbed => undisturbed.sameOutput name) moves

theorem load_sameOutput (e : Engine) (template : String) :
    Fallible.Moves (SameOutput name) (e.load template) :=
  Engine.load_moves (fun _ _ undisturbed => undisturbed.sameOutput name) (fun _ _ _ => rfl)
    (fun _ _ _ => rfl) template

theorem Drafts.sameOutput {context : Context} {drafted source : String} {s s' : State}
    (drafts : Drafts context drafted source s s') : SameOutput name s s' := by
  obtain ⟨s₁, undisturbed, rfl⟩ := drafts.undisturbed
  exact undisturbed.sameOutput name

theorem Closes.held {closed : String} {s s' : State} {outcome : Except RenderError String}
    (closes : r.Closes closed s outcome s') :
    s'.outputs.find? name =
      if r.outputCache = .store ∧ closed = name then outcome.toOption.or (s.outputs.find? name)
      else s.outputs.find? name := by
  rcases closes with ⟨fault, rfl, rfl⟩ | ⟨text, finished⟩
  · simp [Except.toOption]
  · obtain ⟨s'', finished', undisturbed⟩ := r.finish_run closed text s
    obtain ⟨rfl, rfl⟩ := Prod.mk.inj (finished.symm.trans finished')
    rw [undisturbed.outputs]
    unfold published
    by_cases stores : r.outputCache = .store
    · rw [if_pos stores, Dictionary.find?_insert]
      simp only [stores, true_and]
      rfl
    · rw [if_neg stores, if_neg fun both => stores both.1]

/-- What is known of the output of a name in the course of renders: where it comes from, and, if
    outputs are stored, that a render that has succeeded settles all later ones. -/
structure Cached (r : Renderer) (name : String) (s₀ : State) (active : List String)
    (past : List Event) (s : State) : Prop where
  held : s.outputs.find? name = outputAfter r.outputCache name (s₀.outputs.find? name) past
  settled : r.outputCache = .store → ∀ html, Settled name html past →
    s.outputs.find? name = some html ∧ name ∉ active
  repeats : r.outputCache = .store → ∀ earlier x later html,
    past = earlier ++ .rendered x :: later → x.name? = some name → Settled name html earlier →
      x.Repeats name html

theorem Cached.of_sameOutput {active : List String} {past : List Event} {s s' : State}
    (cached : Cached r name s₀ active past s) (same : SameOutput name s s') :
    Cached r name s₀ active past s' where
  held := Eq.trans same cached.held
  settled stores html settled := by
    obtain ⟨held, free⟩ := cached.settled stores html settled
    exact ⟨Eq.trans same held, free⟩
  repeats := cached.repeats

theorem Cached.concat {active active' : List String} {past : List Event} {s s' : State} {e : Event}
    (cached : Cached r name s₀ active past s)
    (held : s'.outputs.find? name = e.holds r.outputCache name (s.outputs.find? name))
    (plain : ∀ x, e ≠ .rendered x)
    (free : ∀ html, s.outputs.find? name = some html → name ∉ active → name ∉ active') :
    Cached r name s₀ active' (past ++ [e]) s' where
  held := by rw [held, cached.held, outputAfter_concat]
  settled stores html settled := by
    rcases settled.of_concat with ⟨before, keeps⟩ | ⟨x, rfl, -⟩
    · obtain ⟨known, unused⟩ := cached.settled stores html before
      refine ⟨?_, free html known unused⟩
      rw [held, Event.holds_of_kept keeps plain, known]
    · exact absurd rfl (plain x)
  repeats stores earlier x later html split := by
    rcases split_concat split with ⟨-, rfl, -⟩ | ⟨between, -, split⟩
    · exact absurd rfl (plain x)
    · exact cached.repeats stores earlier x between html split

theorem Cached.rendered {active : List String} {past : List Event} {s : State} {x : Rendering}
    (cached : Cached r name s₀ active past s)
    (held : x.after.outputs.find? name =
      (Event.rendered x).holds r.outputCache name (s.outputs.find? name))
    (free : name ∉ active → name ∉ x.active)
    (again : ∀ html, x.name? = some name → s.outputs.find? name = some html → name ∉ active →
      x.Repeats name html) :
    Cached r name s₀ x.active (past ++ [.rendered x]) x.after where
  held := by rw [held, cached.held, outputAfter_concat]
  settled stores html settled := by
    rcases settled.of_concat with ⟨before, -⟩ | ⟨x', same, named, given, unused⟩
    · obtain ⟨known, unused⟩ := cached.settled stores html before
      refine ⟨?_, free unused⟩
      rw [held, Event.holds_rendered]
      split
      · rename_i own
        rw [(again html own.2 known unused).1]
        rfl
      · exact known
    · cases same
      refine ⟨?_, unused⟩
      rw [held, Event.holds_rendered, if_pos ⟨stores, named⟩, given]
      rfl
  repeats stores earlier y later html split named settled := by
    rcases split_concat split with ⟨-, same, rfl⟩ | ⟨between, -, split⟩
    · cases same
      obtain ⟨known, unused⟩ := cached.settled stores html settled
      exact again html named known unused
    · exact cached.repeats stores earlier y between html split named settled

theorem Rendering.name?_eq_some_iff {x : Rendering} :
    x.name? = some name ↔ contextName x.before x.context = .ok name :=
  Except.toOption_eq_some_iff

theorem kept_cached (moves : r.Moves (SameOutput name)) (s₀ : State) :
    r.Kept (Cached r name s₀) where
  acts acts cached := cached.of_sameOutput (sameOutput_of_acts moves acts)
  drafts {active past context drafted source s s'} drafts cached := by
    refine cached.concat drafts.sameOutput ?_ ?_
    · rintro x ⟨⟩
    intro html known unused member
    rcases List.mem_append.mp member with member | member
    · exact unused member
    · cases List.mem_singleton.mp member
      rw [drafts.unknown] at known
      cases known
  loads {active past template s} cached := by
    have same : SameOutput name s ((r.engine.load template).run.run s).2 :=
      load_sameOutput r.engine template s
    generalize ((r.engine.load template).run.run s).2 = s' at same ⊢
    refine cached.concat same ?_ fun _ _ unused => unused
    rintro x ⟨⟩
  settles {past x} settles cached := by
    have same := settles.undisturbed.sameOutput name
    rcases settles.outcome with ⟨own, html, named, known, outcome⟩ | ⟨unknown, fault, outcome⟩
    · have mine (named' : x.name? = some name) : own = name :=
        Option.some.inj ((Rendering.name?_eq_some_iff.mpr named).symm.trans named')
      refine cached.rendered ?_ id ?_
      · rw [same, Event.holds_rendered]
        split
        · rename_i stored
          rw [← mine stored.2, outcome, known]
          rfl
        · rfl
      · intro html' named' known' _
        cases mine named'
        rw [known] at known'
        cases known'
        exact ⟨outcome, fun r nested => renderContext_of_known named known nested⟩
    · refine cached.rendered ?_ id ?_
      · rw [same, Event.holds_rendered, outcome]
        split <;> rfl
      · intro html named known _
        rw [unknown name (Rendering.name?_eq_some_iff.mp named)] at known
        cases known
  closes {past x own s} named closes cached := by
    have mine : x.name? = some name ↔ own = name := by
      rw [Rendering.name?_eq_some_iff.mpr named, Option.some.injEq]
    refine cached.rendered ?_ (fun unused member => unused (List.mem_append_left _ member)) ?_
    · rw [closes.held, Event.holds_rendered]
      simp only [mine]
    · intro html named' _ unused
      cases mine.mp named'
      exact absurd (List.mem_append_right _ (List.mem_singleton_self _)) unused

theorem kept_sameOutput (moves : r.Moves (SameOutput name)) (external : r.outputCache = .external)
    (s₀ : State) : r.Kept fun _ _ s => SameOutput name s₀ s where
  acts acts same := (sameOutput_of_acts moves acts).trans same
  drafts drafts same := drafts.sameOutput.trans same
  loads same := Eq.trans (load_sameOutput r.engine _ _) same
  settles settles same := (settles.undisturbed.sameOutput name).trans same
  closes {past x own s} named closes same := by
    have held : x.after.outputs.find? name = _ := closes.held
    rw [if_neg fun stores => by rw [external] at stores; cases stores.1] at held
    exact held.trans same

/-- As long as nothing else changes the output of a name: what is held of it is what has been
    rendered or set last. If outputs are stored, each render of the document gives what an earlier
    one has given that was not within a render of the same document, and runs nothing, until the
    output is set or cleared. If outputs are kept elsewhere, no render changes what is held. -/
theorem outputs_settle (moves : r.Moves (SameOutput name)) {past : List Event}
    (history : r.History (SameOutput name) s₀ past s) :
    s.outputs.find? name = outputAfter r.outputCache name (s₀.outputs.find? name) past ∧
      (r.outputCache = .store → ∀ earlier x later html, past = earlier ++ .rendered x :: later →
        x.name? = some name → Settled name html earlier → x.Repeats name html) ∧
      (r.outputCache = .external → ∀ fuel (q : Request),
        SameOutput name q.state (q.answer (r.renderWithin fuel)).2) := by
  have start : Cached r name s₀ [] [] s₀ := by
    refine ⟨rfl, ?_, ?_⟩
    · rintro - html ⟨earlier, x, later, impossible, -⟩
      simp at impossible
    · rintro - earlier x later html impossible
      simp at impossible
  have cached : Cached r name s₀ [] past s := by
    refine (kept_cached moves s₀).history (fun _ _ _ same cached => cached.of_sameOutput same)
      ?_ ?_ start history
    · intro past s name' html cached
      refine cached.concat ?_ (by rintro x ⟨⟩) fun _ _ unused => unused
      exact Dictionary.find?_insert s.outputs name' html name
    · intro past s name? cached
      refine cached.concat ?_ (by rintro x ⟨⟩) fun _ _ unused => unused
      cases name? with
      | none => exact (if_pos rfl).symm
      | some name' => exact Dictionary.find?_erase s.outputs name' name
  refine ⟨cached.held, cached.repeats, ?_⟩
  intro external fuel q
  obtain ⟨events, timeline⟩ := r.exists_timeline fuel [] q
  have kept := kept_sameOutput moves external q.state
  exact kept.timeline timeline [] rfl

theorem onStore_sameOutput {α : Type} (f : Store → Store × α) :
    Running.Moves (SameOutput name) (State.onStore f) :=
  fun _ => rfl

theorem changeFormat_sameOutput (change : Markup.Settings → Markup.Settings) :
    Running.Moves (SameOutput name) (State.changeFormat change) :=
  fun _ => rfl

def plain : State :=
  wikiOf [("a", "A")]

def edited : State :=
  let rendered := ((bare.renderIn firstContext).run.run plain).2
  let setText (t : Topic) : Topic := { t with document := t.document.setText "B" none }
  let changed := ((State.onStore fun store => (store.modifyTopic ⟨0⟩ setText, ())).run rendered).2
  ((State.changeFormat (·.usePrimary .textile)).run changed).2

theorem edited_undrafted (name source : String) (s' : State) :
    ¬ Drafts firstContext name source edited s' := by
  intro drafts
  have named : (contextName edited firstContext).toOption = some "c::a" := by decide +kernel
  rw [drafts.named] at named
  cases named
  have known : edited.outputs.find? "c::a" = some "A" := by decide +kernel
  rw [drafts.unknown] at known
  cases known

theorem outputs_settle_behind_edit :
    ∃ past x s, bare.Moves (SameOutput "c::a") ∧
      bare.History (SameOutput "c::a") plain (past ++ [.rendered x]) s ∧
      Settled "c::a" "A" past ∧ (x.before.topicDocument ⟨0⟩).text? = some "B" ∧
      x.Repeats "c::a" "A" := by
  have moves := bare_moves (SameOutput "c::a")
  obtain ⟨events, course⟩ := exists_course (bare.exists_timeline bare.stackRoom) []
    firstContext plain
  obtain ⟨inner, rfl⟩ := course.ends
  let past := [] ++ (inner ++ [.rendered (bare.rendering (bare.renderWithin bare.stackRoom) []
    firstContext plain)])
  let x := bare.rendering (bare.renderWithin bare.stackRoom) [] firstContext edited
  have first : bare.History (SameOutput "c::a") plain past edited :=
    ((History.renderIn .start course).aside (onStore_sameOutput _ _)).aside
      (changeFormat_sameOutput _ _)
  have again : bare.Course (bare.renderWithin bare.stackRoom) (bare.Timeline bare.stackRoom) []
      firstContext edited [.rendered x] :=
    .settled edited_undrafted
  have second := first.renderIn again
  have settled : Settled "c::a" "A" past := by
    refine ⟨inner, _, [], rfl, ?_, ?_, List.not_mem_nil, ?_⟩
    · decide +kernel
    · exact Except.eq_ok_of_toOption (by decide +kernel)
    · exact fun e member => absurd member List.not_mem_nil
  have named : x.name? = some "c::a" := by decide +kernel
  refine ⟨past, x, _, moves, second, settled, ?_, ?_⟩
  · decide +kernel
  · exact (outputs_settle moves second).2.1 rfl past x [] "A" rfl named settled

end Renderer

end TopicWiki
