import TopicWiki.Proofs.Extension.Installation
import TopicWiki.Proofs.Wiki.ExtensionTable

namespace TopicWiki

structure HookRun where
  extension : Extension
  found : Dictionary Value
  before : State
  left : Dictionary Value
  after : State

inductive HooksRun (render : ActiveRender) :
    Dictionary Value → State → List HookRun → Dictionary Value → State → Prop
  | nil (bindings : Dictionary Value) (s : State) : HooksRun render bindings s [] bindings s
  | cons {run : HookRun} {runs : List HookRun} {bindings : Dictionary Value} {s : State}
    (ran : (run.extension.setupContext render run.found).run run.before = (run.left, run.after))
    (rest : HooksRun render run.left run.after runs bindings s) :
    HooksRun render run.found run.before (run :: runs) bindings s

/-- Someone who writes variables: which ones, and what is left of each. -/
structure Writer where
  writes : String → Prop
  value? : String → Option Value

inductive SelfReference.Exposes (own : String) : SelfReference → String → Prop
  | standard : Exposes own .standard own
  | named (name : String) : Exposes own (.named name) name

theorem SelfReference.variableName?_eq_some_iff {own name : String} {selected : SelfReference} :
    selected.variableName? own = some name ↔ selected.Exposes own name := by
  constructor
  · intro found
    cases selected with
    | off => cases found
    | standard =>
      cases found
      exact .standard
    | named other =>
      cases found
      exact .named name
  · rintro (_ | _) <;> rfl

namespace Writer

def globals (values : Dictionary Value) : Writer where
  writes name := (values.find? name).isSome = true
  value? := values.find?

def reference (own : String) (selected : SelfReference) (value : Value) : Writer where
  writes name := selected.Exposes own name
  value? _ := some value

/-- A hook writes the variables that it leaves otherwise than it finds them. -/
def hook (run : HookRun) : Writer where
  writes name := run.left.find? name ≠ run.found.find? name
  value? := run.left.find?

end Writer

/-- A variable is as its last writer left it, and there is none without a writer. -/
def LastWritten (writers : List Writer) (name : String) (value? : Option Value) : Prop :=
  (∃ before w after, writers = before ++ w :: after ∧ w.writes name ∧
      (∀ later ∈ after, ¬ later.writes name) ∧ value? = w.value? name) ∨
    (∀ w ∈ writers, ¬ w.writes name) ∧ value? = none

def AllLastWritten (writers : List Writer) (bindings : Dictionary Value) : Prop :=
  ∀ name, LastWritten writers name (bindings.find? name)

section

variable {writers : List Writer} {w : Writer} {name : String} {bindings bindings' : Dictionary Value}
  {value? : Option Value}

theorem lastWritten_of_writes (writes : w.writes name) :
    LastWritten (writers ++ [w]) name (w.value? name) :=
  .inl ⟨writers, w, [], rfl, writes, nofun, rfl⟩

theorem LastWritten.kept (last : LastWritten writers name value?) (keeps : ¬ w.writes name) :
    LastWritten (writers ++ [w]) name value? := by
  rcases last with ⟨before, w', after, rfl, writes, others, same⟩ | ⟨others, same⟩
  · refine .inl ⟨before, w', after ++ [w], by simp, writes, ?_, same⟩
    rw [List.forall_mem_append, List.forall_mem_singleton]
    exact ⟨others, keeps⟩
  · refine .inr ⟨?_, same⟩
    rw [List.forall_mem_append, List.forall_mem_singleton]
    exact ⟨others, keeps⟩

theorem AllLastWritten.snoc (last : AllLastWritten writers bindings)
    (written : ∀ name, w.writes name → bindings'.find? name = w.value? name)
    (kept : ∀ name, ¬ w.writes name → bindings'.find? name = bindings.find? name) :
    AllLastWritten (writers ++ [w]) bindings' := by
  intro name
  by_cases writes : w.writes name
  · rw [written name writes]
    exact lastWritten_of_writes writes
  · rw [kept name writes]
    exact (last name).kept writes

theorem allLastWritten_globals (values : Dictionary Value) :
    AllLastWritten [.globals values] values := by
  intro name
  cases found : values.find? name with
  | some value => exact .inl ⟨[], .globals values, [], rfl, by simp [Writer.globals, found], nofun,
      found.symm⟩
  | none => exact .inr ⟨by simp [Writer.globals, found], rfl⟩

theorem AllLastWritten.reference (last : AllLastWritten writers bindings) (own : String)
    (selected : SelfReference) (value : Value) :
    AllLastWritten (writers ++ [.reference own selected value])
      (match selected.variableName? own with
        | some name => bindings.insert name value
        | none => bindings) := by
  cases named : selected.variableName? own with
  | none =>
    refine last.snoc (fun name writes => ?_) fun name _ => rfl
    cases named.symm.trans (SelfReference.variableName?_eq_some_iff.mpr writes)
  | some name' =>
    refine last.snoc (fun name writes => ?_) fun name keeps => ?_
    · have found := SelfReference.variableName?_eq_some_iff.mpr writes
      obtain rfl := Option.some.inj (named.symm.trans found)
      exact Dictionary.find?_insert_self bindings name' value
    · refine Dictionary.find?_insert_of_ne bindings ?_ value
      rintro rfl
      exact keeps (SelfReference.variableName?_eq_some_iff.mp named)

theorem HooksRun.allLastWritten {render : ActiveRender} {s s' : State} {runs : List HookRun}
    (ran : HooksRun render bindings s runs bindings' s') (last : AllLastWritten writers bindings) :
    AllLastWritten (writers ++ runs.map .hook) bindings' := by
  induction ran generalizing writers with
  | nil =>
    rw [List.map_nil, List.append_nil]
    exact last
  | @cons run runs bindings s ran rest ih =>
    have here : AllLastWritten (writers ++ [.hook run]) run.left :=
      last.snoc (fun _ _ => rfl) fun _ keeps => Classical.not_not.mp keeps
    rw [List.map_cons, ← List.singleton_append, ← List.append_assoc]
    exact ih here

end

namespace ContextReferences

def seeders (o : ContextReferences) (scope : RenderScope) (values : Dictionary Value) :
    List Writer :=
  [.globals values, .reference "this" o.this (.view (.scope scope)),
    .reference "parser" o.parser (.view .renderer),
    .reference "category" o.category (.view (.category scope.category)),
    .reference "topic" o.topic (.view (.topic scope.topic))]

theorem seed_allLastWritten (o : ContextReferences) (scope : RenderScope)
    (values : Dictionary Value) :
    AllLastWritten (o.seeders scope values) (o.seed scope values) :=
  ((((allLastWritten_globals values).reference "this" o.this (.view (.scope scope))).reference
    "parser" o.parser (.view .renderer)).reference "category" o.category
      (.view (.category scope.category))).reference "topic" o.topic (.view (.topic scope.topic))

end ContextReferences

namespace Renderer

theorem setupAll_hooksRun (render : ActiveRender) (extensions : List Extension)
    (bindings : Dictionary Value) (s : State) :
    ∃ runs, runs.map HookRun.extension = extensions ∧
      HooksRun render bindings s runs ((setupAll render bindings extensions).run s).1
        ((setupAll render bindings extensions).run s).2 := by
  induction extensions generalizing bindings s with
  | nil => exact ⟨[], rfl, .nil bindings s⟩
  | cons extension others ih =>
    cases ran : (extension.setupContext render bindings).run s with
    | mk left after =>
      obtain ⟨runs, same, rest⟩ := ih left after
      have next : (setupAll render bindings (extension :: others)).run s =
          (setupAll render left others).run after := by
        rw [setupAll, StateT.run_bind, ran]
        rfl
      rw [next]
      let first : HookRun := ⟨extension, bindings, s, left, after⟩
      have ranFirst : (first.extension.setupContext render first.found).run first.before =
          (first.left, first.after) := ran
      exact ⟨first :: runs, congrArg (extension :: ·) same, .cons ranFirst rest⟩

/-- A fresh context of a topic is made by the hooks of all extensions, once globals and references
    are set: each hook runs once, in order, and each variable is as its last writer left it. Without
    a category there is no context, and no hook runs. -/
def MakesContext (r : Renderer) (values : Dictionary Value) (o : ContextReferences)
    (topic : TopicId) (s : State) : Prop :=
  match (State.categoryOf topic).run s with
  | (none, found) => (r.contextFor topic).run.run s =
    (.error (.missingCategory (found.topicDocument topic).ident), found)
  | (some category, found) =>
    ∃ context made seeded runs, (r.contextFor topic).run.run s = (.ok context, made) ∧
      context.scope = { topic, category } ∧
      AllLastWritten (o.seeders context.scope values) seeded ∧
      runs.map HookRun.extension = r.extensions ∧
      HooksRun ⟨r.site, context.scope⟩ seeded found runs context.bindings made ∧
      AllLastWritten (o.seeders context.scope values ++ runs.map .hook) context.bindings

theorem makesContext (r : Renderer) (topic : TopicId) (s : State) :
    r.MakesContext r.globals r.context topic s := by
  unfold MakesContext
  cases looked : (State.categoryOf topic).run s with
  | mk category? found =>
    unfold contextFor
    rw [Fallible.run_bind_of_ok (Fallible.run_lift looked)]
    cases category? with
    | none => rfl
    | some category =>
      let scope : RenderScope := { topic, category }
      obtain ⟨runs, same, ran⟩ := setupAll_hooksRun ⟨r.site, scope⟩ r.extensions
        (r.context.seed scope r.globals) found
      have seeded := r.context.seed_allLastWritten scope r.globals
      exact ⟨⟨scope, _⟩, _, _, runs, rfl, rfl, seeded, same, ran, ran.allLastWritten seeded⟩

end Renderer

namespace RendererParts

open Building

variable {parts : RendererParts} {log log' : List LogEntry}

def withoutExtra (parts : RendererParts) : RendererParts :=
  { parts with extra := [] }

theorem chosenExtensions_eq (parts : RendererParts) : parts.chosenExtensions =
    parts.withoutExtra.chosenExtensions >>= fun configured => pure (configured ++ parts.extra) := by
  unfold chosenExtensions withoutExtra
  cases parts.extensions? <;> simp only [bind_assoc, pure_bind, List.append_nil]

theorem configured_eq {configured given : List Extension} (replaced : parts.extensions? = some given)
    (done : parts.withoutExtra.chosenExtensions.run.run log = (.ok configured, log')) :
    configured = given := by
  obtain ⟨definitions, log₁, -, done⟩ := bind_ok done
  rw [show parts.withoutExtra.extensions? = some given from replaced] at done
  cases done
  exact List.append_nil given

/-- Every renderer that is built has a table of the configured extensions and the extra ones, and
    makes its contexts from the configuration by the hooks in this table. -/
theorem built_in_layers (parts : RendererParts) {r : Renderer} {s : State}
    (built : parts.build.run.run log = (.ok (r, s), log')) :
    (∃ configured chosenLog,
      parts.withoutExtra.chosenExtensions.run.run log = (.ok configured, chosenLog) ∧
      (∀ given, parts.extensions? = some given → configured = given) ∧
      Tabulates (configured ++ parts.extra) r.extensions) ∧
    ∀ topic now, r.MakesContext (parts.config.globals.map Value.ofJson) parts.config.context topic
      now := by
  obtain ⟨controller, log₁, provided, built⟩ := bind_ok built
  obtain ⟨store, log₂, provided', built⟩ := bind_ok built
  obtain ⟨chosen, log₃, done, built⟩ := bind_ok built
  obtain ⟨engine, log₄, -, built⟩ := bind_ok built
  obtain ⟨-, log₅, -, built⟩ := bind_ok built
  cases built
  have start : log₂ = log := (Prod.mk.inj provided').2.symm.trans (Prod.mk.inj provided).2.symm
  rw [chosenExtensions_eq, start] at done
  obtain ⟨configured, log₆, made, done⟩ := bind_ok done
  cases done
  exact ⟨⟨configured, _, made, fun given replaced => configured_eq replaced made,
    foldl_addExtension_tabulates _⟩, Renderer.makesContext _⟩

/-- An extension that comes up twice keeps its place in the table, so that the hook of the other one
    runs behind its own. References are set behind globals and before hooks. -/
theorem built_in_layers_of_repeated :
    let hook (value : Int) : ContextHook := fun _ bindings => pure (bindings.insert "x" (.int value))
    let first : Extension := { name := "a", setupContext := hook 1 }
    let other : Extension := { name := "b", setupContext := hook 2 }
    let last : Extension := { name := "a", setupContext := hook 3 }
    let globals : Dictionary Json := .ofList [("this", .bool true), ("topic", .bool true)]
    let context : ContextReferences :=
      { parser := .named "p", category := .named "x", topic := .named "t" }
    let store : Store :=
      { categories := [{ document := { ident := "c", name := "" } }]
        topics := [⟨{ ident := "d", name := "" }, "c", some ⟨0⟩⟩] }
    let parts : RendererParts :=
      { config := { globals, context }, controller? := some {}, store? := some store,
        extensions? := some [first, other], extra := [last] }
    ∃ r s log, parts.build.run.run [] = (.ok (r, s), log) ∧ r.extensions = [last, other] ∧
      Tabulates [first, other, last] r.extensions ∧
      (∀ topic now, r.MakesContext (globals.map Value.ofJson) context topic now) ∧
      ∃ made s', (r.contextFor ⟨0⟩).run.run s = (.ok made, s') ∧
        ["this", "parser", "p", "category", "x", "topic", "t"].map made.bindings.find? =
          [some (.view (.scope ⟨⟨0⟩, ⟨0⟩, []⟩)), none, some (.view .renderer), none, some (.int 2),
            some (.bool true), some (.view (.topic ⟨0⟩))] := by
  intro hook first other last globals context store parts
  refine ⟨_, _, _, rfl, rfl, ?_⟩
  obtain ⟨⟨configured, -, -, given, tabulates⟩, contexts⟩ :=
    built_in_layers parts (show parts.build.run.run [] = _ from rfl)
  rw [given _ rfl] at tabulates
  exact ⟨tabulates, contexts, _, _, rfl, rfl⟩

end RendererParts

end TopicWiki
