import TopicWiki.Proofs.Extension.Arity

namespace TopicWiki

def Safety.CoversHtml : Safety → Prop
  | .none => False
  | .all => True
  | .contexts names => "html" ∈ names ∨ "all" ∈ names

theorem Safety.coversHtml_iff {safety : Safety} :
    safety.coversHtml = true ↔ safety.CoversHtml := by
  cases safety with
  | none => simp [coversHtml, CoversHtml]
  | all => simp [coversHtml, CoversHtml]
  | contexts names =>
    simp only [coversHtml, CoversHtml, List.any_eq_true, Bool.or_eq_true, beq_iff_eq]
    constructor
    · rintro ⟨name, member, rfl | rfl⟩
      · exact .inl member
      · exact .inr member
    · rintro (member | member)
      · exact ⟨_, member, .inl rfl⟩
      · exact ⟨_, member, .inr rfl⟩

namespace Value

def escapedOnce (describe : View → String) (v : Value) : Value :=
  .safe (String.ofList (Text.escapeText (v.printed describe).toList))

theorem markSafe_eq (v : Value) :
    v.markSafe = v ∨ ∃ text, v = .plain text ∧ v.markSafe = .safe text := by
  cases v with
  | text text safe =>
    cases safe with
    | true => exact .inl rfl
    | false => exact .inr ⟨text, rfl, rfl⟩
  | _ => exact .inl rfl

theorem isSafe_markSafe_iff {v : Value} :
    v.markSafe.isSafe = true ↔ ∃ text, v.string? = some text := by
  cases v <;> simp [markSafe, isSafe, string?]

theorem exists_string_of_isSafe {v : Value} (safe : v.isSafe = true) :
    ∃ text, v.string? = some text := by
  cases v <;> simp_all [isSafe, string?]

end Value

namespace Callable

/-- A filter that keeps the safety of its input, when the input comes to the handler safe. -/
def KeepsSafety (c : Callable) (given : List Value) : Prop :=
  c.kind = .filter ∧ c.options.preservesSafety = true ∧ ∃ input ∈ given.head?, input.isSafe = true

def withFlags (c : Callable) (escape keep : Bool) : Callable :=
  { c with options := { c.options with preEscape := escape, preservesSafety := keep } }

/-- An answer to a call whose handler gave a result: the result, or the same text marked safe. It is
    safe if the result is, and of the other texts if the callable is declared safe for HTML or keeps
    the safety of its input. -/
structure Marked (c : Callable) (given : List Value) (result answer : Value) : Prop where
  same : answer = result ∨ ∃ text, result = .plain text ∧ answer = .safe text
  safe_iff : answer.isSafe = true ↔ result.isSafe = true ∨
    (∃ text, result.string? = some text) ∧ (c.options.safety.CoversHtml ∨ c.KeepsSafety given)

def AnswersMarked (c : Callable) (call : Call) (given : List Value) (handler : Handler) : Prop :=
  match (handler (c.site call) given).run.run (c.noticed call.state) with
  | (.ok result, after) =>
    ∃ answer, c.answer call handler = (.ok answer, after) ∧ c.Marked given result answer
  | (.error e, after) => c.answer call handler = (.error e, after)

/-- What makes the answer of a call safe when its input was not: the input was escaped before the
    handler got it, or the callable is declared safe for HTML, or the handler marked its result. -/
def SafeByRule (c : Callable) (call : Call) (given : List Value) (handler : Handler)
    (after : State) : Prop :=
  (∃ input ∈ call.arguments.head?, given.head? = some (input.escapedOnce call.state.describe)) ∨
    c.options.safety.CoversHtml ∨
    ∃ result, (handler (c.site call) given).run.run (c.noticed call.state) = (.ok result, after) ∧
      result.isSafe = true

structure PassesSafely (c : Callable) (call : Call) (given : List Value) : Prop where
  escaped (escapes : c.kind = .filter ∧ c.options.preEscape = true) :
    given.head? = call.arguments.head?.map fun input =>
      if input.isSafe then input else input.escapedOnce call.state.describe
  safe (escapes : c.kind = .filter ∧ c.options.preEscape = true) :
    ∀ input ∈ given.head?, input.isSafe = true
  unchanged (plain : ¬ (c.kind = .filter ∧ c.options.preEscape = true)) :
    given.head? = call.arguments.head?
  packed : ∃ packed, c.pack call.arguments = .ok packed ∧ given.tail = packed.tail
  others : (c.spliced call.arguments.length given).map List.tail = some call.arguments.tail

section

variable {c : Callable} {call : Call} {arguments packed given : List Value}

theorem marksSafe_iff :
    c.marksSafe given = true ↔ c.options.safety.CoversHtml ∨ c.KeepsSafety given := by
  rw [marksSafe, Bool.or_eq_true, Safety.coversHtml_iff, Bool.and_eq_true, Bool.and_eq_true,
    beq_iff_eq, and_assoc, KeepsSafety, Option.any_eq_true]
  rfl

theorem marked (c : Callable) (given : List Value) (result : Value) :
    c.Marked given result (if c.marksSafe given then result.markSafe else result) := by
  split <;> rename_i marks
  · refine ⟨result.markSafe_eq, ?_⟩
    rw [Value.isSafe_markSafe_iff]
    have declared := marksSafe_iff.mp marks
    exact ⟨fun text => .inr ⟨text, declared⟩, fun safe => safe.elim
      Value.exists_string_of_isSafe And.left⟩
  · rw [marksSafe_iff] at marks
    exact ⟨.inl rfl, .inl, fun safe => safe.elim id fun declared => absurd declared.2 marks⟩

theorem Calls.answersMarked (calls : c.Calls call given) (handler : Handler) :
    c.AnswersMarked call given handler := by
  unfold AnswersMarked
  rw [calls handler]
  cases handled : (handler (c.site call) given).run.run (c.noticed call.state) with
  | mk outcome after =>
    cases outcome with
    | error e => exact Fallible.run_bind_of_error handled
    | ok result => exact ⟨_, Fallible.run_bind_of_ok handled, c.marked given result⟩

/-- Packing leaves all arguments, or it leaves those up to the limit and puts the others into one
    list behind them. -/
theorem pack_cases (packs : c.pack arguments = .ok packed) :
    packed = arguments ∧ (∀ most, c.options.maxArgs? = some most → arguments.length ≤ most) ∨
      ∃ most, c.options.maxArgs? = some most ∧ most < arguments.length ∧
        packed = arguments.take most ++ [.list (arguments.drop most)] := by
  by_cases whole : ∀ most, c.options.maxArgs? = some most → arguments.length ≤ most
  · rw [pack_whole whole] at packs
    exact .inl ⟨(Except.ok.inj packs).symm, whole⟩
  · simp only [Classical.not_forall, Nat.not_le] at whole
    obtain ⟨most, limited, more⟩ := whole
    cases variadic : c.options.variadic with
    | true =>
      rw [pack_excess limited more variadic] at packs
      exact .inr ⟨most, limited, more, (Except.ok.inj packs).symm⟩
    | false =>
      rw [pack_refused limited more variadic] at packs
      cases packs

theorem exists_packed (calls : c.Calls call given) :
    ∃ packed, c.pack call.arguments = .ok packed ∧
      given = packed.modifyHead (c.shownInput call.state.describe) := by
  cases packs : c.pack call.arguments with
  | error e =>
    rw [calls_iff, received_of_unpackable packs] at calls
    cases calls
  | ok packed => exact ⟨packed, rfl, ((calls_iff_of_pack packs).mp calls).2⟩

theorem shownInput_of_escapes {describe : View → String}
    (escapes : c.kind = .filter ∧ c.options.preEscape = true) (input : Value) :
    c.shownInput describe input =
      if input.isSafe then input else input.escapedOnce describe := by
  unfold shownInput
  cases input.isSafe <;> simp [escapes, Value.escapedOnce]

theorem isSafe_shownInput {describe : View → String}
    (escapes : c.kind = .filter ∧ c.options.preEscape = true) (input : Value) :
    (c.shownInput describe input).isSafe = true := by
  rw [shownInput_of_escapes escapes]
  split <;> rename_i safe
  · exact safe
  · rfl

theorem passes_of_pack (room : c.options.maxArgs? ≠ some 0)
    (packs : c.pack call.arguments = .ok packed) :
    packed.head? = call.arguments.head? ∧
      c.spliced call.arguments.length (packed.modifyHead (c.shownInput call.state.describe)) =
        some (call.arguments.modifyHead (c.shownInput call.state.describe)) := by
  rcases pack_cases packs with ⟨rfl, whole⟩ | ⟨most, limited, more, rfl⟩
  · exact ⟨rfl, spliced_of_le whole _⟩
  · have some : most ≠ 0 := by
      rintro rfl
      exact room limited
    refine ⟨?_, (spliced_packed_iff limited more _).mpr fun none => some none.2.2⟩
    obtain ⟨first, rest, split⟩ := List.exists_cons_of_length_pos (Nat.zero_lt_of_lt more)
    obtain ⟨less, rfl⟩ := Nat.exists_eq_succ_of_ne_zero some
    rw [split]
    rfl

theorem Calls.passesSafely (calls : c.Calls call given) (room : c.options.maxArgs? ≠ some 0) :
    c.PassesSafely call given := by
  obtain ⟨packed, packs, rfl⟩ := exists_packed calls
  obtain ⟨first, spliced⟩ := passes_of_pack room packs
  have head : (packed.modifyHead (c.shownInput call.state.describe)).head? =
      call.arguments.head?.map (c.shownInput call.state.describe) := by
    rw [← first, List.head?_modifyHead]
  refine ⟨fun escapes => ?_, fun escapes input here => ?_, fun plain => ?_,
    ⟨packed, packs, List.tail_modifyHead⟩, ?_⟩
  · rw [head, funext (shownInput_of_escapes escapes)]
  · rw [head] at here
    obtain ⟨passed, -, rfl⟩ := Option.map_eq_some_iff.mp here
    exact isSafe_shownInput escapes passed
  · rw [head]
    cases call.arguments.head? with
    | none => rfl
    | some input => exact congrArg some (shownInput_of_not plain input)
  · rw [spliced, Option.map_some, List.tail_modifyHead]

theorem escapeInput_of_other (other : c.kind ≠ .filter) (describe : View → String) :
    c.escapeInput describe arguments = arguments := by
  cases arguments <;> simp [escapeInput, other]

theorem marksSafe_of_other (other : c.kind ≠ .filter) :
    c.marksSafe given = c.options.safety.coversHtml := by
  simp [marksSafe, other]

theorem answer_withFlags (other : c.kind ≠ .filter) (escape keep : Bool) (handler : Handler) :
    (c.withFlags escape keep).answer call handler = c.answer call handler := by
  have received : (c.withFlags escape keep).received call = c.received call := by
    simp only [Callable.received, escapeInput_of_other other,
      escapeInput_of_other (c := c.withFlags escape keep) other]
    rfl
  have finished (given : List Value) :
      (c.withFlags escape keep).finish call handler given = c.finish call handler given := by
    simp only [finish, marksSafe_of_other other,
      marksSafe_of_other (c := c.withFlags escape keep) other]
    rfl
  rw [answer_eq, answer_eq, received]
  simp only [finished]
  rfl

theorem Calls.safeByRule (calls : c.Calls call given) (room : c.options.maxArgs? ≠ some 0)
    (filter : c.kind = .filter) (unsafeInput : ∀ input ∈ call.arguments.head?, input.isSafe = false)
    {handler : Handler} {answer : Value} {after : State}
    (answers : c.answer call handler = (.ok answer, after)) (safe : answer.isSafe = true) :
    c.SafeByRule call given handler after := by
  have passes := calls.passesSafely room
  have made := calls.answersMarked handler
  unfold AnswersMarked at made
  split at made
  · rename_i result after' handled
    obtain ⟨answer', answers', marked⟩ := made
    rw [answers] at answers'
    cases answers'
    rcases marked.safe_iff.mp safe with own | ⟨-, declared | ⟨-, -, input, here, inputSafe⟩⟩
    · exact .inr (.inr ⟨result, handled, own⟩)
    · exact .inr (.inl declared)
    · by_cases escapes : c.options.preEscape = true
      · have reached := passes.escaped ⟨filter, escapes⟩
        rw [here] at reached
        obtain ⟨passed, first, shown⟩ := Option.map_eq_some_iff.mp reached.symm
        refine .inl ⟨passed, first, ?_⟩
        rw [here, ← shown, unsafeInput passed first]
        rfl
      · have kept := passes.unchanged fun both => escapes both.2
        rw [kept] at here
        rw [unsafeInput input here] at inputSafe
        cases inputSafe
  · rw [answers] at made
    cases made

end

/-- For every callable that has room for its input: a call answers with the result of the handler,
    at most marked safe, and it is safe exactly if the result is or the rules say so; the input of a
    filter that escapes it comes to the handler safe, and all else as it is passed. So no text gets
    safe through a filter that did not escape it, unless the filter is declared safe for HTML or its
    handler marks the text. -/
theorem answers_marked (c : Callable) (call : Call) (given : List Value)
    (room : c.options.maxArgs? ≠ some 0) (calls : c.Calls call given) :
    (∀ handler, c.AnswersMarked call given handler) ∧ c.PassesSafely call given ∧
      (c.kind ≠ .filter → ∀ escape keep handler,
        (c.withFlags escape keep).answer call handler = c.answer call handler) ∧
      (c.kind = .filter → (∀ input ∈ call.arguments.head?, input.isSafe = false) →
        ∀ handler answer after, c.answer call handler = (.ok answer, after) →
          answer.isSafe = true → c.SafeByRule call given handler after) :=
  ⟨calls.answersMarked, calls.passesSafely room, answer_withFlags,
    fun filter unsafeInput _ _ _ => calls.safeByRule room filter unsafeInput⟩

theorem answers_marked_of_escaped_input :
    let options : CallRules :=
      { variadic := true, maxArgs? := some 1, preEscape := true, preservesSafety := true }
    let wrap : Callable :=
      { name := "wrap", kind := .filter, handler := fun _ _ => pure (.plain "<i>"), options }
    let call : Call :=
      { engine? := none, render? := none, arguments := [.plain "<b>", .int 2, .int 3], state := {} }
    let given : List Value := [.safe "&lt;b&gt;", .list [.int 2, .int 3]]
    wrap.options.maxArgs? ≠ some 0 ∧ wrap.Calls call given ∧ wrap.PassesSafely call given ∧
      wrap.answer call wrap.handler = (.ok (.safe "<i>"), {}) ∧
      wrap.SafeByRule call given wrap.handler {} := by
  intro options wrap call given
  have room : wrap.options.maxArgs? ≠ some 0 := by decide
  have escaped : (Value.plain "<b>").escapedOnce call.state.describe = .safe "&lt;b&gt;" := by
    cbv
  have calls : wrap.Calls call given := by
    refine (calls_iff_of_pack rfl).mpr ⟨fun test => absurd test (by decide), ?_⟩
    rw [List.take_succ_cons, List.cons_append, List.modifyHead_cons,
      shownInput_of_escapes ⟨rfl, rfl⟩]
    exact congrArg (· :: _) escaped.symm
  obtain ⟨-, passes, -, guarded⟩ := answers_marked wrap call given room calls
  have answers : wrap.answer call wrap.handler = (.ok (.safe "<i>"), {}) := by
    rw [calls]
    rfl
  refine ⟨room, calls, passes, answers, guarded rfl ?_ _ _ _ answers rfl⟩
  rintro input ⟨⟩
  rfl

end Callable

end TopicWiki
