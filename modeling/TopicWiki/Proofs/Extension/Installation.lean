import TopicWiki.Proofs.Extension.Builtin
import TopicWiki.Proofs.Outcome
import TopicWiki.Proofs.Wiki.Keeping

namespace TopicWiki

variable {M : State → State → Prop}

def Dictionary.All {α : Type} (holds : α → Prop) (d : Dictionary α) : Prop :=
  ∀ entry ∈ d.entries, holds entry.2

namespace Dictionary

variable {α : Type} {holds : α → Prop}

theorem All.find? {d : Dictionary α} (all : d.All holds) {name : String} {a : α}
    (found : d.find? name = some a) : holds a := by
  obtain ⟨entry, found', rfl⟩ := Option.map_eq_some_iff.mp found
  exact all entry (List.mem_of_find?_eq_some found')

theorem mem_insertEntry {name : String} {a : α} {entries : List (String × α)} {entry : String × α}
    (member : entry ∈ insertEntry name a entries) : entry = (name, a) ∨ entry ∈ entries := by
  induction entries with
  | nil =>
    rw [insertEntry, List.mem_singleton] at member
    exact .inl member
  | cons first rest ih =>
    obtain ⟨key, old⟩ := first
    unfold insertEntry at member
    split at member
    · rename_i same
      rw [same]
      exact (List.mem_cons.mp member).imp_right (List.mem_cons_of_mem _)
    · split at member
      · exact List.mem_cons.mp member
      · rcases List.mem_cons.mp member with rfl | member
        · exact .inr List.mem_cons_self
        · exact (ih member).imp_right (List.mem_cons_of_mem _)

theorem All.insert {d : Dictionary α} (all : d.All holds) (name : String) {a : α} (new : holds a) :
    (d.insert name a).All holds := by
  intro entry member
  rcases mem_insertEntry member with rfl | member
  · exact new
  · exact all entry member

theorem All.foldl_insert {entries : List (String × α)} {d : Dictionary α} (all : d.All holds)
    (new : ∀ entry ∈ entries, holds entry.2) :
    (entries.foldl (fun d entry => d.insert entry.1 entry.2) d).All holds := by
  induction entries generalizing d with
  | nil => exact all
  | cons entry rest ih =>
    rw [List.foldl_cons]
    refine ih (all.insert entry.1 (new entry List.mem_cons_self)) ?_
    exact fun other member => new other (List.mem_cons_of_mem entry member)

end Dictionary

theorem Dictionary.all_empty {α : Type} (holds : α → Prop) : ({} : Dictionary α).All holds :=
  fun _ member => absurd member List.not_mem_nil

structure SymbolTable.Moves (M : State → State → Prop) (t : SymbolTable) : Prop where
  functions : t.functions.All fun c => Handler.Moves M c.handler
  filters : t.filters.All fun c => Handler.Moves M c.handler
  tests : t.tests.All fun c => Handler.Moves M c.handler

structure Extension.Moves (M : State → State → Prop) (x : Extension) : Prop where
  symbols : x.symbols.Moves M
  hook : ∀ render bindings, Running.Moves M (x.setupContext render bindings)

def Extension.Calm (x : Extension) : Prop :=
  ∀ e, x.Moves (Sheltering e)

def Registration.Moves (M : State → State → Prop) : Registration → Prop
  | .callable _ _ _ (some handler) => Handler.Moves M handler
  | _ => True

theorem Handler.Moves.mono {M' : State → State → Prop} {handler : Handler}
    (moves : Handler.Moves M handler) (wider : ∀ s s', M s s' → M' s s') :
    Handler.Moves M' handler :=
  fun site arguments s => wider _ _ (moves site arguments s)

theorem Extension.Moves.mono {M' : State → State → Prop} {x : Extension} (moves : x.Moves M)
    (wider : ∀ s s', M s s' → M' s s') : x.Moves M' where
  symbols :=
    { functions := fun entry member => (moves.symbols.functions entry member).mono wider
      filters := fun entry member => (moves.symbols.filters entry member).mono wider
      tests := fun entry member => (moves.symbols.tests entry member).mono wider }
  hook render bindings := (moves.hook render bindings).mono wider

namespace SymbolTable

theorem Moves.register {t t' : SymbolTable} (moves : t.Moves M) {registration : Registration}
    (handled : registration.Moves M) (registered : t.register registration = .ok t') :
    t'.Moves M := by
  unfold SymbolTable.register at registered
  split at registered
  · rename_i kind name options handler
    cases registered
    have movesHere : Handler.Moves M handler := handled
    unfold addCallable
    cases kind with
    | function => exact ⟨moves.functions.insert name movesHere, moves.filters, moves.tests⟩
    | filter => exact ⟨moves.functions, moves.filters.insert name movesHere, moves.tests⟩
    | test => exact ⟨moves.functions, moves.filters, moves.tests.insert name movesHere⟩
  · cases registered
  · cases registered
    unfold addOperator
    split
    · exact ⟨moves.functions, moves.filters, moves.tests⟩
    · exact ⟨moves.functions, moves.filters, moves.tests⟩
  · cases registered
  · cases registered
    exact ⟨moves.functions, moves.filters, moves.tests⟩
  · cases registered
    exact ⟨moves.functions, moves.filters, moves.tests⟩

theorem Moves.registerAll {registrations : List Registration} {t t' : SymbolTable}
    (moves : t.Moves M) (handled : ∀ registration ∈ registrations, registration.Moves M)
    (registered : registrations.foldlM SymbolTable.register t = .ok t') : t'.Moves M := by
  refine foldlM_keeps ?_ moves registered
  intro registration member t t' moves once
  exact moves.register (handled registration member) once

end SymbolTable

namespace Building

theorem bind_ok {α β : Type} {x : Building α} {f : α → Building β} {log log' : List LogEntry}
    {b : β} (done : (x >>= f).run.run log = (.ok b, log')) :
    ∃ a log₁, x.run.run log = (.ok a, log₁) ∧ (f a).run.run log₁ = (.ok b, log') := by
  rw [ExceptT.run_bind, StateT.run_bind] at done
  cases first : x.run.run log with
  | mk outcome log₁ =>
    rw [first] at done
    cases outcome with
    | error fault => cases done
    | ok a => exact ⟨a, log₁, rfl, done⟩

theorem lift_ok {α : Type} {outcome : Except ConfigError α} {log log' : List LogEntry} {a : α}
    (done : (liftM outcome : Building α).run.run log = (.ok a, log')) : outcome = .ok a :=
  (Prod.mk.inj done).1

def GivesQuiet (x : Building Extension) : Prop :=
  ∀ log extension log', x.run.run log = (.ok extension, log') → extension.Moves Undisturbed

theorem build_givesQuiet {name : String} {registrations : List Registration} {hook : ContextHook}
    {settings? : Option LinkSettings}
    (handled : ∀ registration ∈ registrations, registration.Moves Undisturbed)
    (hooked : ∀ render bindings, Running.Quiet (hook render bindings)) :
    GivesQuiet (Extension.build name registrations hook settings?) := by
  intro log extension log' built
  obtain ⟨symbols, log₁, registered, rest⟩ := bind_ok built
  have found : registrations.foldlM SymbolTable.register {} = .ok symbols := lift_ok registered
  cases rest
  have empty : SymbolTable.Moves Undisturbed {} :=
    ⟨Dictionary.all_empty _, Dictionary.all_empty _, Dictionary.all_empty _⟩
  exact ⟨empty.registerAll handled found, hooked⟩

end Building

namespace ExtensionCatalog

open Building

theorem withoutOptions_givesQuiet {name : String} {x : Building Extension} (quiet : GivesQuiet x)
    (options : List (String × Json)) : GivesQuiet (withoutOptions name x options) := by
  cases options with
  | nil => exact quiet
  | cons option rest =>
    intro log extension log' built
    cases built

theorem formatting_givesQuiet : GivesQuiet MarkupFilters.extension := by
  refine build_givesQuiet ?_ fun _ _ => Running.moves_pure
  intro registration member
  simp only [MarkupFilters.registrations, List.mem_cons, List.not_mem_nil, or_false] at member
  rcases member with rfl | rfl
  · exact MarkupFilters.filterWith_quiet _
  · exact MarkupFilters.filterWith_quiet _

theorem switch_givesQuiet : GivesQuiet switch := by
  refine build_givesQuiet ?_ fun _ _ => Running.moves_pure
  intro registration member
  cases List.mem_singleton.mp member
  trivial

theorem links_givesQuiet (settings : LinkSettings) :
    GivesQuiet (LinkHelpers.extension settings) := by
  refine build_givesQuiet ?_ (LinkHelpers.quiet_setHome settings)
  intro registration member
  simp only [LinkHelpers.registrations, List.mem_cons, List.not_mem_nil, or_false] at member
  rcases member with rfl | rfl | rfl | rfl | rfl | rfl | rfl | rfl | rfl | rfl | rfl | rfl
  · exact LinkHelpers.callAt_quiet settings
  · exact LinkHelpers.callAc_quiet settings
  · exact LinkHelpers.callAi_quiet settings
  · exact LinkHelpers.callTodo_quiet settings
  · exact LinkHelpers.callIcon_quiet settings
  · exact LinkHelpers.callTopic_quiet
  · exact LinkHelpers.callCategory_quiet
  · exact LinkHelpers.callText_quiet
  · exact LinkHelpers.filterLink_quiet settings
  · exact LinkHelpers.filterIcon_quiet settings
  · exact LinkHelpers.filterTopic_quiet
  · exact LinkHelpers.callTodo_quiet settings

theorem wiki_givesQuiet (options : List (String × Json)) : GivesQuiet (wiki options) := by
  intro log extension log' built
  obtain ⟨settings, log₁, -, rest⟩ := bind_ok built
  exact links_givesQuiet settings log₁ extension log' rest

/-- The extensions that come with the library leave the state undisturbed, with any options. -/
theorem standard_givesQuiet (definition : ExtensionDefinition) :
    GivesQuiet (standard.build definition) := by
  have all : standard.All fun factory => ∀ options, GivesQuiet (factory options) := by
    refine (Dictionary.all_empty _).foldl_insert ?_
    intro entry member
    simp only [List.mem_cons, List.not_mem_nil, or_false] at member
    rcases member with rfl | rfl | rfl
    · exact wiki_givesQuiet
    · exact withoutOptions_givesQuiet formatting_givesQuiet
    · exact withoutOptions_givesQuiet switch_givesQuiet
  intro log extension log' built
  unfold build at built
  cases found : standard.find? definition.name with
  | none =>
    rw [found] at built
    cases built
  | some factory =>
    rw [found] at built
    exact all.find? found definition.options log extension log' built

end ExtensionCatalog

namespace Engine

structure Moves (M : State → State → Prop) (e : Engine) : Prop where
  functions : e.functions.All fun c => Handler.Moves M c.handler
  filters : e.filters.All fun c => Handler.Moves M c.handler
  tests : e.tests.All fun c => Handler.Moves M c.handler

theorem Moves.calm {e : Engine} (moves : e.Moves (Sheltering e)) : e.Calm where
  functions _ _ found site arguments := (moves.functions.find? found site arguments).keeps
  filters _ _ found site arguments := (moves.filters.find? found site arguments).keeps
  tests _ _ found site arguments := (moves.tests.find? found site arguments).keeps

theorem Moves.install {e e' : Engine} (moves : e.Moves M) {extension : Extension}
    (added : extension.Moves M) (installed : e.install extension = .ok e') : e'.Moves M := by
  unfold Engine.install at installed
  simp only at installed
  split at installed
  · cases installed
  · cases installed
    have symbols := added.symbols
    exact ⟨moves.functions.foldl_insert symbols.functions,
      moves.filters.foldl_insert symbols.filters, moves.tests.foldl_insert symbols.tests⟩

theorem Moves.installAll {e e' : Engine} (moves : e.Moves M) {extensions : List Extension}
    (added : ∀ extension ∈ extensions, extension.Moves M)
    (installed : extensions.foldlM Engine.install e = .ok e') : e'.Moves M := by
  refine foldlM_keeps ?_ moves installed
  intro extension member e e' moves once
  exact moves.install (added extension member) once

end Engine

end TopicWiki
