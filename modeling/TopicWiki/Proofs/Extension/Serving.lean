import Mathlib.Data.String.Basic
import TopicWiki.Proofs.Extension.Installation

namespace TopicWiki

namespace Dictionary

variable {α : Type}

def Ordered (d : Dictionary α) : Prop :=
  d.entries.Pairwise fun first second => first.1 < second.1

theorem ordered_empty : ({} : Dictionary α).Ordered :=
  List.Pairwise.nil

theorem ordered_insertEntry {entries : List (String × α)} (name : String) (value : α)
    (ordered : entries.Pairwise fun first second => first.1 < second.1) :
    (insertEntry name value entries).Pairwise fun first second => first.1 < second.1 := by
  induction entries with
  | nil => exact List.pairwise_singleton _ _
  | cons entry rest ih =>
    obtain ⟨key, old⟩ := entry
    obtain ⟨before, later⟩ := List.pairwise_cons.mp ordered
    unfold insertEntry
    split
    · exact List.pairwise_cons.mpr ⟨before, later⟩
    · rename_i other
      split
      · rename_i less
        refine List.pairwise_cons.mpr ⟨?_, ordered⟩
        intro next member
        rcases List.mem_cons.mp member with rfl | member
        · exact less
        · exact lt_trans less (before next member)
      · rename_i notLess
        have greater : key < name := lt_of_le_of_ne (not_lt.mp notLess) (Ne.symm other)
        refine List.pairwise_cons.mpr ⟨?_, ih later⟩
        intro next member
        rcases mem_insertEntry member with rfl | member
        · exact greater
        · exact before next member

theorem Ordered.insert {d : Dictionary α} (ordered : d.Ordered) (name : String) (value : α) :
    (d.insert name value).Ordered :=
  ordered_insertEntry name value ordered

theorem find?_foldl_insert {entries : List (String × α)}
    (ordered : entries.Pairwise fun first second => first.1 < second.1) (d : Dictionary α)
    (name : String) :
    (entries.foldl (fun d entry => d.insert entry.1 entry.2) d).find? name =
      ((entries.find? fun entry => entry.1 = name).map Prod.snd).or (d.find? name) := by
  induction entries generalizing d with
  | nil => rfl
  | cons entry rest ih =>
    obtain ⟨before, later⟩ := List.pairwise_cons.mp ordered
    rw [List.foldl_cons, ih later, find?_insert, List.find?_cons]
    by_cases same : entry.1 = name
    · have absent : rest.find? (fun entry => entry.1 = name) = none := by
        rw [List.find?_eq_none]
        intro next member
        simpa using (same ▸ before next member).ne'
      simp [same, absent]
    · simp [same]

/-- What is laid over a dictionary goes before what is in it. -/
theorem find?_overlay (base : Dictionary α) {added : Dictionary α} (ordered : added.Ordered)
    {name : String} {value : α} (found : added.find? name = some value) :
    (Engine.overlay base added).find? name = some value := by
  have overlaid := find?_foldl_insert ordered base name
  rw [show (added.entries.find? fun entry => entry.1 = name).map Prod.snd = _ from found]
    at overlaid
  exact overlaid

theorem find?_foldl_insert_names (f : String → α) {names : List String} (d : Dictionary α)
    {name : String} (member : name ∈ names ∨ d.find? name = some (f name)) :
    (names.foldl (fun d name => d.insert name (f name)) d).find? name = some (f name) := by
  induction names generalizing d with
  | nil => exact member.resolve_left List.not_mem_nil
  | cons first rest ih =>
    refine ih _ ?_
    rw [find?_insert]
    by_cases same : first = name
    · simp [same]
    · rw [if_neg same]
      exact member.imp_left fun member => (List.mem_cons.mp member).resolve_left (Ne.symm same)

theorem mem_keys_of_find? {d : Dictionary α} {name : String} {value : α}
    (found : d.find? name = some value) : name ∈ d.keys := by
  obtain ⟨entry, inside, -⟩ := Option.map_eq_some_iff.mp found
  have same : entry.1 = name := by simpa using List.find?_some inside
  exact List.mem_map.mpr ⟨entry, List.mem_of_find?_eq_some inside, same⟩

end Dictionary

def Registration.symbol? : Registration → Option (CallableKind × String)
  | .callable kind name _ _ => some (kind, name)
  | _ => none

namespace SymbolTable

def Ordered (t : SymbolTable) : Prop :=
  ∀ kind, (t.callables kind).Ordered

theorem ordered_empty : ({} : SymbolTable).Ordered := by
  intro kind
  cases kind <;> exact Dictionary.ordered_empty

variable {t t' : SymbolTable} {registration : Registration} {registrations : List Registration}

theorem callables_addCallable (t : SymbolTable) (c : Callable) (kind : CallableKind) :
    (t.addCallable c).callables kind =
      if c.kind = kind then (t.callables kind).insert c.name c else t.callables kind := by
  unfold addCallable
  cases own : c.kind <;> cases kind <;> rfl

theorem callables_register (registered : t.register registration = .ok t') (kind : CallableKind) :
    t'.callables kind = t.callables kind ∨ ∃ name rules handler,
      registration = .callable kind name rules (some handler) ∧
        t'.callables kind =
          (t.callables kind).insert name ⟨name, kind, handler, rules.forKind kind⟩ := by
  unfold register at registered
  split at registered
  · rename_i own name rules handler
    cases registered
    rw [callables_addCallable]
    by_cases same : own = kind
    · subst same
      exact .inr ⟨name, rules, handler, rfl, if_pos rfl⟩
    · exact .inl (if_neg same)
  · cases registered
  · rename_i symbol precedence associativity? handler
    cases registered
    unfold addOperator
    split <;> exact .inl (by cases kind <;> rfl)
  · cases registered
  · cases registered
    exact .inl (by cases kind <;> rfl)
  · cases registered
    exact .inl (by cases kind <;> rfl)

theorem Ordered.register (ordered : t.Ordered) (registered : t.register registration = .ok t') :
    t'.Ordered := by
  intro kind
  rcases callables_register registered kind with same | ⟨name, rules, handler, -, added⟩
  · exact same ▸ ordered kind
  · exact added ▸ (ordered kind).insert name _

theorem Ordered.registerAll (ordered : t.Ordered)
    (registered : registrations.foldlM SymbolTable.register t = .ok t') : t'.Ordered :=
  foldlM_keeps (fun _ _ _ _ ordered once => ordered.register once) ordered registered

theorem find?_register_of_ne {kind : CallableKind} {name : String}
    (registered : t.register registration = .ok t')
    (other : registration.symbol? ≠ some (kind, name)) :
    (t'.callables kind).find? name = (t.callables kind).find? name := by
  rcases callables_register registered kind with same | ⟨own, rules, handler, rfl, added⟩
  · rw [same]
  · rw [added]
    refine Dictionary.find?_insert_of_ne _ ?_ _
    rintro rfl
    exact other rfl

theorem find?_registerAll_of_not_mem {kind : CallableKind} {name : String}
    (registered : registrations.foldlM SymbolTable.register t = .ok t')
    (absent : (kind, name) ∉ registrations.filterMap Registration.symbol?) :
    (t'.callables kind).find? name = (t.callables kind).find? name := by
  let Same (after : SymbolTable) : Prop :=
    (after.callables kind).find? name = (t.callables kind).find? name
  have step : ∀ registration ∈ registrations, ∀ after after', Same after →
      after.register registration = .ok after' → Same after' := by
    intro registration member after after' same once
    refine (find?_register_of_ne once ?_).trans same
    exact fun symbol => absent (List.mem_filterMap.mpr ⟨registration, member, symbol⟩)
  have kept : Same t' := foldlM_keeps step (rfl : Same t) registered
  exact kept

theorem find?_registerAll {kind : CallableKind} {name : String} {rules : CallRules}
    {handler : Handler} (registered : registrations.foldlM SymbolTable.register t = .ok t')
    (distinct : (registrations.filterMap Registration.symbol?).Nodup)
    (member : .callable kind name rules (some handler) ∈ registrations) :
    (t'.callables kind).find? name = some ⟨name, kind, handler, rules.forKind kind⟩ := by
  induction registrations generalizing t with
  | nil => exact absurd member List.not_mem_nil
  | cons first rest ih =>
    rw [List.foldlM_cons] at registered
    cases once : t.register first with
    | error fault =>
      rw [once] at registered
      cases registered
    | ok next =>
      rw [once] at registered
      change rest.foldlM SymbolTable.register next = .ok t' at registered
      rcases List.mem_cons.mp member with rfl | member
      · have apart : (kind, name) ∉ rest.filterMap Registration.symbol? :=
          (List.nodup_cons.mp (distinct : ((kind, name) :: _).Nodup)).1
        rw [find?_registerAll_of_not_mem registered apart]
        cases once
        rw [callables_addCallable, if_pos rfl, Dictionary.find?_insert_self]
      · exact ih registered (distinct.sublist ((List.sublist_cons_self _ _).filterMap _)) member

end SymbolTable

structure Engine.Serves (e : Engine) (registrations : List Registration) : Prop where
  functions : ∀ name rules handler,
    .callable .function name rules (some handler) ∈ registrations →
      e.globals.find? name = some (.view (.function name)) ∧
        e.functions.find? name = some ⟨name, .function, handler, rules.forKind .function⟩
  filters : ∀ name rules handler,
    .callable .filter name rules (some handler) ∈ registrations →
      e.filters.find? name = some ⟨name, .filter, handler, rules.forKind .filter⟩

theorem Engine.serves_of_install {e e' : Engine} {name : String}
    {registrations : List Registration} {hook : ContextHook} {settings? : Option LinkSettings}
    {extension : Extension} {log log' : List LogEntry}
    (distinct : (registrations.filterMap Registration.symbol?).Nodup)
    (built : (Extension.build name registrations hook settings?).run.run log =
      (.ok extension, log'))
    (installed : e.install extension = .ok e') : e'.Serves registrations := by
  obtain ⟨symbols, log₁, registered, rest⟩ := Building.bind_ok built
  have registered : registrations.foldlM SymbolTable.register {} = .ok symbols :=
    Building.lift_ok registered
  cases rest
  have ordered := SymbolTable.ordered_empty.registerAll registered
  unfold Engine.install at installed
  simp only at installed
  split at installed
  · cases installed
  · cases installed
    constructor
    · intro name rules handler member
      have found := SymbolTable.find?_registerAll registered distinct member
      exact ⟨Dictionary.find?_foldl_insert_names _ _ (.inl (Dictionary.mem_keys_of_find? found)),
        Dictionary.find?_overlay _ (ordered .function) found⟩
    · intro name rules handler member
      have found := SymbolTable.find?_registerAll registered distinct member
      exact Dictionary.find?_overlay _ (ordered .filter) found

end TopicWiki
