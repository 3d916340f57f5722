import TopicWiki.Extension.Callable
import TopicWiki.Proofs.Wiki.Agreement

namespace TopicWiki.Callable

structure Call where
  engine? : Option EngineView
  render? : Option ActiveRender
  arguments : List Value
  state : State

def site (c : Callable) (call : Call) : CallSite where
  name := c.name
  engine? := if c.options.needsEngine then call.engine? else none
  render? := if c.options.needsContext then call.render? else none

def noticed (c : Callable) (s : State) : State :=
  match c.options.deprecated? with
  | some d => ((State.warn (c.deprecationNotice d)).run s).2
  | none => s

def answer (c : Callable) (call : Call) (handler : Handler) : Except EngineError Value × State :=
  (({ c with handler } : Callable).invoke call.engine? call.render? call.arguments).run.run
    call.state

def finish (c : Callable) (call : Call) (handler : Handler) (given : List Value) :
    EngineM Value := do
  let result ← handler (c.site call) given
  return if c.marksSafe given then result.markSafe else result

def received (c : Callable) (call : Call) : Except EngineError (List Value) := do
  let packed ← c.pack call.arguments
  c.checkMandatory packed
  return c.escapeInput call.state.describe packed

theorem describe_noticed (c : Callable) (s : State) : (c.noticed s).describe = s.describe := by
  funext v
  unfold noticed
  cases c.options.deprecated? <;> cases v <;> rfl

section

variable {c : Callable} {call : Call} {packed given : List Value} {e : EngineError}

theorem received_of_pack (packs : c.pack call.arguments = .ok packed) : c.received call =
    (c.checkMandatory packed).map fun _ => c.escapeInput call.state.describe packed := by
  rw [received, packs]
  change (c.checkMandatory packed >>= fun _ => pure (c.escapeInput _ packed)) = _
  cases c.checkMandatory packed <;> rfl

theorem received_of_unpackable (packs : c.pack call.arguments = .error e) :
    c.received call = .error e := by
  rw [received, packs]
  rfl

end

theorem answer_eq (c : Callable) (call : Call) (handler : Handler) : c.answer call handler =
    match c.received call with
    | .ok given => (c.finish call handler given).run.run (c.noticed call.state)
    | .error e => (.error e, c.noticed call.state) := by
  have warned : c.answer call handler = (show EngineM Value from do
      let packed ← c.pack call.arguments
      c.checkMandatory packed
      c.finish call handler (c.escapeInput (← get).describe packed)).run.run
        (c.noticed call.state) := by
    unfold answer invoke noticed
    cases c.options.deprecated? <;> rfl
  have lifted {α : Type} (x : Except EngineError α) :
      (liftM x : EngineM α).run.run (c.noticed call.state) = (x, c.noticed call.state) := rfl
  have found : (get : EngineM State).run.run (c.noticed call.state) =
      (.ok (c.noticed call.state), c.noticed call.state) := rfl
  rw [warned]
  cases packs : c.pack call.arguments with
  | error e => rw [Fallible.run_bind_of_error (lifted (.error e)), received_of_unpackable packs]
  | ok packed =>
    rw [Fallible.run_bind_of_ok (lifted (.ok packed)), received_of_pack packs]
    cases c.checkMandatory packed with
    | error e =>
      rw [Fallible.run_bind_of_error (lifted (.error e))]
      rfl
    | ok checked =>
      rw [Fallible.run_bind_of_ok (lifted (.ok checked)), Fallible.run_bind_of_ok found,
        describe_noticed]
      rfl

/-- Whatever the handler does, a call passes these arguments to it and answers with its result. -/
def Calls (c : Callable) (call : Call) (given : List Value) : Prop :=
  ∀ handler, c.answer call handler =
    (c.finish call handler given).run.run (c.noticed call.state)

def Refuses (c : Callable) (call : Call) (e : EngineError) : Prop :=
  ∀ handler, c.answer call handler = (.error e, c.noticed call.state)

section

variable {c : Callable} {call : Call} {given : List Value} {e : EngineError}

theorem refuses_iff : c.Refuses call e ↔ c.received call = .error e := by
  constructor
  · intro refuses
    have answer := answer_eq c call fun _ _ => pure .none
    rw [refuses] at answer
    cases received : c.received call with
    | error e' =>
      rw [received] at answer
      cases answer
      rfl
    | ok given =>
      rw [received] at answer
      cases congrArg Prod.fst answer
  · intro received handler
    rw [answer_eq, received]

theorem calls_iff : c.Calls call given ↔ c.received call = .ok given := by
  constructor
  · intro calls
    cases received : c.received call with
    | error e =>
      have answer := answer_eq c call fun _ _ => pure .none
      rw [calls, received] at answer
      cases congrArg Prod.fst answer
    | ok given' =>
      -- A handler that fails on all arguments but those tells them apart.
      classical
      let picky : Handler := fun _ arguments =>
        if arguments = given then pure .none else throw (.plain .invalidOperation "")
      have answer := answer_eq c call picky
      rw [calls, received] at answer
      by_cases same : given' = given
      · rw [same]
      · simp only [finish, picky, same, if_true, if_false] at answer
        cases congrArg Prod.fst answer
  · intro received handler
    rw [answer_eq, received]

end

def WithinLimit (c : Callable) (count : Nat) : Prop :=
  ∀ most, c.options.maxArgs? = some most → count ≤ most ∨ c.options.variadic = true

def HasMandatory (c : Callable) (count : Nat) : Prop :=
  c.kind = .test → c.options.oneMandatoryArgument = true → count = 2

def tooMany (c : Callable) (most : Nat) : EngineError :=
  .plain .tooManyArguments
    (c.kind.label ++ " '" ++ c.name ++ "' takes at most " ++ toString most ++ " arguments")

def missing (c : Callable) : EngineError :=
  .plain .missingArgument ("test '" ++ c.name ++ "' takes exactly one argument")

/-- The arguments of a handler, with the list of those beyond the limit spliced in again. -/
def spliced (c : Callable) (count : Nat) (given : List Value) : Option (List Value) :=
  match c.options.maxArgs? with
  | none => some given
  | some most =>
    if count ≤ most then some given
    else
      match given.getLast? with
      | some (.list items) => some (given.dropLast ++ items)
      | _ => none

def shownInput (c : Callable) (describe : View → String) (input : Value) : Value :=
  if c.kind = .filter ∧ c.options.preEscape = true ∧ input.isSafe = false then
    .safe (String.ofList (Text.escapeText (input.printed describe).toList))
  else input

/-- A call goes by the arguments that are passed: by their number it gets to the handler or fails,
    and all of them get there, in order, the first one escaped if the callable escapes its input. -/
structure KeepsArity (c : Callable) (call : Call) : Prop where
  called_iff : (∃ given, c.Calls call given) ↔
    c.WithinLimit call.arguments.length ∧ c.HasMandatory call.arguments.length
  refused (most : Nat) (limited : c.options.maxArgs? = some most)
    (beyond : ¬ c.WithinLimit call.arguments.length) : c.Refuses call (c.tooMany most)
  unmatched (within : c.WithinLimit call.arguments.length)
    (lacking : ¬ c.HasMandatory call.arguments.length) : c.Refuses call c.missing
  complete (given : List Value) (calls : c.Calls call given) :
    c.spliced call.arguments.length given =
      some (call.arguments.modifyHead (c.shownInput call.state.describe))

/-- The list of the arguments beyond the limit is taken for an argument: it is the one behind the
    tested value, or it hides that one, or it is the input that is printed and escaped. -/
def Miscounts (c : Callable) (count : Nat) : Prop :=
  c.options.variadic = true ∧
    (c.kind = .test ∧ c.options.oneMandatoryArgument = true ∧
        (c.options.maxArgs? = some 1 ∧ 2 < count ∨ c.options.maxArgs? = some 0 ∧ count = 2) ∨
      c.kind = .filter ∧ c.options.preEscape = true ∧ c.options.maxArgs? = some 0 ∧ 0 < count)

section

variable {c : Callable} {call : Call} {arguments packed given : List Value} {most : Nat}

theorem pack_whole (whole : ∀ most, c.options.maxArgs? = some most → arguments.length ≤ most) :
    c.pack arguments = .ok arguments := by
  unfold pack
  cases limited : c.options.maxArgs? with
  | none => rfl
  | some most => exact if_pos (whole most limited)

theorem pack_excess (limited : c.options.maxArgs? = some most) (more : most < arguments.length)
    (variadic : c.options.variadic = true) :
    c.pack arguments = .ok (arguments.take most ++ [.list (arguments.drop most)]) := by
  simp [pack, limited, Nat.not_le.mpr more, variadic]

theorem pack_refused (limited : c.options.maxArgs? = some most) (more : most < arguments.length)
    (fixed : c.options.variadic = false) : c.pack arguments = .error (c.tooMany most) := by
  simp [pack, limited, Nat.not_le.mpr more, fixed, tooMany]

theorem checkMandatory_of_has (has : c.HasMandatory packed.length) :
    c.checkMandatory packed = .ok () := by
  unfold checkMandatory
  rw [if_neg]
  rintro ⟨test, mandatory, other⟩
  exact other (has test mandatory)

theorem checkMandatory_of_lacks (lacks : ¬ c.HasMandatory packed.length) :
    c.checkMandatory packed = .error c.missing := by
  simp only [HasMandatory, Classical.not_imp] at lacks
  exact if_pos lacks

theorem escapeInput_eq (c : Callable) (describe : View → String) (arguments : List Value) :
    c.escapeInput describe arguments = arguments.modifyHead (c.shownInput describe) := by
  cases arguments with
  | nil => rfl
  | cons first rest =>
    rw [List.modifyHead_cons, escapeInput, shownInput]
    simp only [Bool.not_eq_true']
    split <;> rfl

theorem calls_iff_of_pack (packs : c.pack call.arguments = .ok packed) : c.Calls call given ↔
    c.HasMandatory packed.length ∧
      given = packed.modifyHead (c.shownInput call.state.describe) := by
  rw [calls_iff, received_of_pack packs, escapeInput_eq]
  by_cases has : c.HasMandatory packed.length
  · rw [checkMandatory_of_has has]
    simp [Except.map, has, eq_comm]
  · rw [checkMandatory_of_lacks has]
    simp [Except.map, has]

theorem keepsArity_iff_of_pack (within : c.WithinLimit call.arguments.length)
    (packs : c.pack call.arguments = .ok packed) : c.KeepsArity call ↔
      (c.HasMandatory packed.length ↔ c.HasMandatory call.arguments.length) ∧
        (c.HasMandatory packed.length → c.spliced call.arguments.length
          (packed.modifyHead (c.shownInput call.state.describe)) =
            some (call.arguments.modifyHead (c.shownInput call.state.describe))) := by
  constructor
  · rintro ⟨called_iff, -, -, complete⟩
    refine ⟨?_, fun has => complete _ ((calls_iff_of_pack packs).mpr ⟨has, rfl⟩)⟩
    simpa [calls_iff_of_pack packs, within] using called_iff
  · rintro ⟨same, complete⟩
    refine ⟨?_, fun most limited beyond => absurd within beyond, fun _ lacking => ?_, ?_⟩
    · simpa [calls_iff_of_pack packs, within] using same
    · rw [refuses_iff, received_of_pack packs, checkMandatory_of_lacks (mt same.mp lacking)]
      rfl
    · intro given calls
      obtain ⟨has, rfl⟩ := (calls_iff_of_pack packs).mp calls
      exact complete has

theorem spliced_of_le {count : Nat}
    (whole : ∀ most, c.options.maxArgs? = some most → count ≤ most) (given : List Value) :
    c.spliced count given = some given := by
  unfold spliced
  cases limited : c.options.maxArgs? with
  | none => rfl
  | some most => exact if_pos (whole most limited)

theorem spliced_excess (limited : c.options.maxArgs? = some most) {count : Nat}
    (more : most < count) (front items : List Value) :
    c.spliced count (front ++ [.list items]) = some (front ++ items) := by
  simp [spliced, limited, Nat.not_le.mpr more]

theorem shownInput_of_not {describe : View → String}
    (plain : ¬ (c.kind = .filter ∧ c.options.preEscape = true)) (input : Value) :
    c.shownInput describe input = input :=
  if_neg fun escapes => plain ⟨escapes.1, escapes.2.1⟩

/-- What is packed can be spliced in again, unless the list of the arguments beyond the limit stands
    first and is escaped. -/
theorem spliced_packed_iff (limited : c.options.maxArgs? = some most)
    (more : most < arguments.length) (describe : View → String) :
    c.spliced arguments.length ((arguments.take most ++
        [Value.list (arguments.drop most)]).modifyHead (c.shownInput describe)) =
      some (arguments.modifyHead (c.shownInput describe)) ↔
      ¬ (c.kind = .filter ∧ c.options.preEscape = true ∧ most = 0) := by
  cases arguments with
  | nil => cases more
  | cons first rest =>
    cases most with
    | succ most =>
      rw [List.take_succ_cons, List.drop_succ_cons, List.cons_append, List.modifyHead_cons,
        List.modifyHead_cons, ← List.cons_append, spliced_excess limited more, List.cons_append,
        List.take_append_drop]
      simp
    | zero =>
      -- Nothing stands in front of the list, so the list is what is taken for the input.
      rw [List.take_zero, List.drop_zero, List.nil_append, List.modifyHead_cons]
      by_cases escapes : c.kind = .filter ∧ c.options.preEscape = true
      · have printed : c.shownInput describe (.list (first :: rest)) = .safe (String.ofList
            (Text.escapeText ((Value.list (first :: rest)).printed describe).toList)) :=
          if_pos ⟨escapes.1, escapes.2, rfl⟩
        refine iff_of_false ?_ fun other => other ⟨escapes.1, escapes.2, rfl⟩
        rw [printed]
        simp [spliced, limited, Value.safe]
      · refine iff_of_true ?_ fun both => escapes ⟨both.1, both.2.1⟩
        rw [List.modifyHead_cons, shownInput_of_not escapes, shownInput_of_not escapes]
        exact spliced_excess limited more [] (first :: rest)

theorem hasMandatory_succ_iff {count : Nat} (more : most < count) :
    (c.HasMandatory (most + 1) ↔ c.HasMandatory count) ↔
      ¬ (c.kind = .test ∧ c.options.oneMandatoryArgument = true ∧
        (most = 1 ∧ 2 < count ∨ most = 0 ∧ count = 2)) := by
  unfold HasMandatory
  by_cases test : c.kind = .test
  · by_cases mandatory : c.options.oneMandatoryArgument = true
    · simp only [test, mandatory, true_imp_iff, true_and]
      omega
    · simp [mandatory]
  · simp [test]

theorem keepsArity_of_whole
    (whole : ∀ most, c.options.maxArgs? = some most → call.arguments.length ≤ most) :
    c.KeepsArity call := by
  have within : c.WithinLimit call.arguments.length :=
    fun most limited => .inl (whole most limited)
  refine (keepsArity_iff_of_pack within (pack_whole whole)).mpr ⟨Iff.rfl, fun _ => ?_⟩
  exact spliced_of_le whole _

theorem keepsArity_of_refused (limited : c.options.maxArgs? = some most)
    (more : most < call.arguments.length) (fixed : c.options.variadic = false) :
    c.KeepsArity call := by
  have unpacked := received_of_unpackable (pack_refused limited more fixed)
  have uncalled (given : List Value) : ¬ c.Calls call given := by
    rw [calls_iff, unpacked]
    exact nofun
  have beyond : ¬ c.WithinLimit call.arguments.length := by
    intro within
    rcases within most limited with few | variadic
    · exact absurd more (Nat.not_lt.mpr few)
    · cases fixed.symm.trans variadic
  refine ⟨iff_of_false (fun calls => calls.elim uncalled) fun within => beyond within.1,
    fun most' limited' _ => ?_, fun within => absurd within beyond,
    fun given calls => absurd calls (uncalled given)⟩
  obtain rfl := Option.some.inj (limited.symm.trans limited')
  exact refuses_iff.mpr unpacked

theorem keepsArity_iff_of_excess (limited : c.options.maxArgs? = some most)
    (more : most < call.arguments.length) (variadic : c.options.variadic = true) :
    c.KeepsArity call ↔ ¬ c.Miscounts call.arguments.length := by
  have within : c.WithinLimit call.arguments.length := fun _ _ => .inr variadic
  have packedLength : (call.arguments.take most ++
      [Value.list (call.arguments.drop most)]).length = most + 1 := by
    simp [Nat.min_eq_left (Nat.le_of_lt more)]
  have nonempty : 0 < call.arguments.length := Nat.zero_lt_of_lt more
  rw [keepsArity_iff_of_pack within (pack_excess limited more variadic), packedLength,
    hasMandatory_succ_iff more, spliced_packed_iff limited more]
  simp only [Miscounts, limited, variadic, Option.some.injEq, nonempty, true_and, and_true, not_or]
  refine and_congr_right fun _ => ⟨fun spliced prints => ?_, fun spliced _ => spliced⟩
  have has : c.HasMandatory (most + 1) := fun test => nomatch prints.1.symm.trans test
  exact spliced has prints

theorem not_miscounts_of_whole {count : Nat}
    (whole : ∀ most, c.options.maxArgs? = some most → count ≤ most) : ¬ c.Miscounts count := by
  rintro ⟨-, ⟨-, -, ⟨limited, more⟩ | ⟨limited, two⟩⟩ | ⟨-, -, limited, more⟩⟩
  all_goals
    have few := whole _ limited
    omega

end

/-- A call goes by the arguments that are passed unless it counts the list of those beyond the limit
    as one. -/
theorem keepsArity_iff (c : Callable) (call : Call) :
    c.KeepsArity call ↔ ¬ c.Miscounts call.arguments.length := by
  -- Only a list of arguments beyond the limit can be taken for an argument.
  by_cases whole : ∀ most, c.options.maxArgs? = some most → call.arguments.length ≤ most
  · exact iff_of_true (keepsArity_of_whole whole) (not_miscounts_of_whole whole)
  · simp only [Classical.not_forall, Nat.not_le] at whole
    obtain ⟨most, limited, more⟩ := whole
    cases variadic : c.options.variadic with
    | true => exact keepsArity_iff_of_excess limited more variadic
    | false =>
      refine iff_of_true (keepsArity_of_refused limited more variadic) fun miscounts => ?_
      cases variadic.symm.trans miscounts.1

/-- A test that should take exactly one argument is called with two of them: the limit leaves room
    for the tested value, and both go into the list behind it. -/
theorem test_called_with_two :
    let options : CallRules :=
      { variadic := true, maxArgs? := some 1, oneMandatoryArgument := true }
    let probe : Callable :=
      { name := "probe", kind := .test, handler := fun _ given => pure (.list given), options }
    let call : Call :=
      { engine? := none, render? := none, arguments := [.int 1, .int 2, .int 3], state := {} }
    ¬ probe.KeepsArity call := by
  intro options probe call keeps
  have calls : probe.Calls call [.int 1, .list [.int 2, .int 3]] := fun _ => rfl
  have matched := (keeps.called_iff.mp ⟨_, calls⟩).2
  cases matched rfl rfl

end TopicWiki.Callable
