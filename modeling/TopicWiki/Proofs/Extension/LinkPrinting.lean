import TopicWiki.Proofs.Extension.LinkGating
import TopicWiki.Proofs.Extension.Serving
import TopicWiki.Proofs.Link.RoundTrip

namespace TopicWiki

namespace LinkStatement

theorem parse_sigil {text : String} (noSigil : text.toList.head? ≠ some '$')
    (noSpace : text.toList.head? ≠ some ' ') :
    (parse text).asObject = false ∧
      parse ("$" ++ text) = { parse text with asObject := true } := by
  have cut : cutSigil text.toList = (false, text.toList) :=
    cutSigil_sigil false text.toList noSigil noSpace
  have cut' : cutSigil ("$" ++ text).toList = (true, text.toList) := by
    rw [String.toList_append]
    exact cutSigil_sigil true text.toList noSigil noSpace
  unfold parse ofChars
  rw [cut, cut']
  exact ⟨rfl, rfl⟩

end LinkStatement

theorem Element.escapePrinted_html_ne (element : Element) :
    element.html.escapePrinted ≠ element.html := by
  intro same
  have begins : ∃ rest, element.html.toList = '<' :: rest := by
    unfold Element.html
    simp only [String.toList_append]
    exact ⟨_, rfl⟩
  obtain ⟨rest, begins⟩ := begins
  have escaped := congrArg String.toList same
  rw [String.escapePrinted, String.toList_ofList, begins] at escaped
  cases escaped

namespace Template

def written (autoescape : Bool) : Except EngineError Value × State → Except EngineError String
  | (.ok value, s) => .ok (value.emitted s.describe autoescape)
  | (.error e, _) => .error e

def printed (machine : Machine) (template : String) (bindings : Dictionary Value) (e : Expr)
    (s : State) : Except EngineError String :=
  ((runDocument machine template [.print e] bindings).run.run s).1

theorem runNodes_print (machine : Machine) (template : String) (inclusion : Inclusion)
    (levels : Nat) (e : Expr) (p : Progress) :
    runNodes machine template inclusion (levels + 1) [.print e] p = do
      let value ← (p.scope machine template).eval e
      return p.write (value.emitted (← get).describe machine.autoescape) := by
  simp [runNodes, runAll, run, printValue]

theorem runChain_print (machine : Machine) (template : String) (inclusion : Inclusion)
    (bound : Nat) (e : Expr) {p : Progress} (last : p.parent? = none) :
    runChain machine template inclusion bound [.print e] p = do
      let value ← (p.scope machine template).eval e
      return p.write (value.emitted (← get).describe machine.autoescape) := by
  have kept (text : String) : (p.write text).parent? = none := by
    unfold Progress.write
    split <;> exact last
  have done (next : List Node → Progress → EngineM Progress) (text : String) :
      continueWith next (p.write text) = pure (p.write text) := by
    rw [continueWith, kept]
  cases bound <;> simp [runChain, runNodes_print, done]

theorem printed_eq (machine : Machine) (template : String) (bindings : Dictionary Value) (e : Expr)
    (s : State) : printed machine template bindings e s =
      written machine.autoescape (((Scope.mk machine template [bindings]).eval e).run.run s) := by
  have counted : (get : EngineM State).run.run s = (.ok s, s) := rfl
  unfold printed runDocument
  simp only
  rw [Fallible.run_bind_of_ok counted, runChain_print _ _ _ _ _ rfl]
  simp only [Progress.scope, bind_assoc, pure_bind]
  cases evaluated : ((Scope.mk machine template [bindings]).eval e).run.run s with
  | mk outcome s' =>
    cases outcome with
    | error fault => rw [Fallible.run_bind_of_error evaluated, written]
    | ok value =>
      rw [Fallible.run_bind_of_ok evaluated]
      exact congrArg Except.ok (String.empty_append)

section

variable {scope : Scope} {name : String} {callable : Callable} {e : Expr} {arguments : List Expr}
  {values : List Value} {s s₁ : State}

theorem Scope.eval_call (evaluated : (scope.evalAll arguments).run.run s = (.ok values, s₁))
    (known : scope.lookup? name = some (.view (.function name)))
    (served : scope.machine.functions.find? name = some callable) :
    (scope.eval (.call (.name name) arguments)).run.run s =
      (scope.invoke callable values).run.run s₁ := by
  rw [Scope.eval, Fallible.run_bind_of_ok evaluated, Scope.callNamed, known]
  simp only [Scope.callValue, served]

theorem Scope.eval_filter
    (evaluated : (scope.evalAll (e :: arguments)).run.run s = (.ok values, s₁))
    (served : scope.machine.filters.find? name = some callable) :
    (scope.eval (.filter e name arguments)).run.run s =
      (scope.invoke callable values).run.run s₁ := by
  have joined : scope.eval (.filter e name arguments) =
      (scope.evalAll (e :: arguments) >>= fun values => scope.applyFilter name values) := by
    simp [Scope.eval, Scope.evalAll]
  rw [joined, Fallible.run_bind_of_ok evaluated, Scope.applyFilter, served]

end

end Template

namespace LinkHelpers

open Template

def Agree (place : Nat) (arguments arguments' : List Value) : Prop :=
  ∀ index < place, Value.argument? arguments index = Value.argument? arguments' index

/-- Two calls that give the same element, each in its own form, or that fail in the same way. -/
def SameElement (s : State) (x x' : EngineM Value) (asObject asObject' : Bool) : Prop :=
  (∃ e, x.run.run s = (.error e, s) ∧ x'.run.run s = (.error e, s)) ∨
    ∃ element, Fallible.Shows x s element asObject ∧ Fallible.Shows x' s element asObject'

/-- A handler to which an argument says only in which form to give its element. -/
def Flagged (place : Nat) (handler : Handler) : Prop :=
  ∀ site s arguments arguments', Agree place arguments arguments' →
    SameElement s (handler site arguments) (handler site arguments')
      (Value.argumentFlag arguments place) (Value.argumentFlag arguments' place)

section

variable {s : State} {site : CallSite} {arguments arguments' : List Value} {what : String}
  {place index : Nat} {asObject asObject' : Bool} {x x' y y' : EngineM Value}

theorem Agree.text (agree : Agree place arguments arguments') (s : State) (index : Nat)
    (below : index < place) :
    Value.argumentText? s arguments index = Value.argumentText? s arguments' index := by
  unfold Value.argumentText?
  rw [agree index below]

theorem Agree.textAt (agree : Agree place arguments arguments') (s : State) (index : Nat)
    (below : index < place) : textAt s arguments index = textAt s arguments' index := by
  rw [← argumentText?_eq_textAt, agree.text s index below, argumentText?_eq_textAt]

theorem Agree.linkText (agree : Agree place arguments arguments') (s : State) (index : Nat)
    (below : index + 2 < place) :
    linkText s arguments index = linkText s arguments' index := by
  unfold LinkHelpers.linkText
  rw [agree.text s index (by omega), agree.text s (index + 1) (by omega), agree.text s _ below]

theorem Agree.requiredText (agree : Agree place arguments arguments') (below : 0 < place) :
    Value.requiredText s arguments 0 what = Value.requiredText s arguments' 0 what := by
  unfold Value.requiredText
  rw [agree.text s 0 below]

theorem SameElement.of_run (same : SameElement s x x' asObject asObject')
    (run : y.run.run s = x.run.run s) (run' : y'.run.run s = x'.run.run s) :
    SameElement s y y' asObject asObject' := by
  unfold SameElement Fallible.Shows at same ⊢
  rwa [run, run']

theorem SameElement.emit (s : State) (element : Element) (asObject asObject' : Bool) :
    SameElement s (emit element asObject) (emit element asObject') asObject asObject' :=
  .inr ⟨element, emit_shows s element asObject, emit_shows s element asObject'⟩

theorem withTarget_run (site : CallSite) (arguments : List Value) (what : String)
    (f : ActiveRender → State → String → EngineM Value) (s : State) :
    (withTarget site arguments what f).run.run s =
      match site.requireRender, Value.requiredText s arguments 0 what with
      | .error e, _ => (.error e, s)
      | .ok _, .error e => (.error e, s)
      | .ok render, .ok target => (f render s target).run.run s := by
  unfold withTarget
  have started : (get : EngineM State).run.run s = (.ok s, s) := rfl
  cases rendering : site.requireRender with
  | error e => rfl
  | ok render =>
    have running : (liftM (Except.ok render : Except EngineError ActiveRender) :
        EngineM ActiveRender).run.run s = (.ok render, s) := rfl
    rw [Fallible.run_bind_of_ok running, Fallible.run_bind_of_ok started]
    cases Value.requiredText s arguments 0 what <;> rfl

theorem withTarget_same {f f' : ActiveRender → State → String → EngineM Value}
    (agree : Agree (place + 1) arguments arguments')
    (same : ∀ render target,
      SameElement s (f render s target) (f' render s target) asObject asObject') :
    SameElement s (withTarget site arguments what f) (withTarget site arguments' what f') asObject
      asObject' := by
  have run := withTarget_run site arguments what f s
  have run' := withTarget_run site arguments' what f' s
  rw [← agree.requiredText (Nat.succ_pos place)] at run'
  cases rendering : site.requireRender with
  | error e =>
    rw [rendering] at run run'
    exact .inl ⟨e, run, run'⟩
  | ok render =>
    rw [rendering] at run run'
    cases given : Value.requiredText s arguments 0 what with
    | error e =>
      rw [given] at run run'
      exact .inl ⟨e, run, run'⟩
    | ok target =>
      rw [given] at run run'
      exact (same render target).of_run run run'

variable (options : LinkSettings)

theorem callAt_flagged : Flagged 5 (callAt options) := by
  intro site s arguments arguments' agree
  refine withTarget_same agree fun render topic => ?_
  rw [agree.text s 1 (by decide), agree.linkText s 2 (by decide)]
  have gives := topicLink_gives options (linkText s arguments' 2) s render topic
    (Value.argumentText? s arguments' 1)
  exact .inr ⟨_, shows_after s gives fun s' => emit_shows s' _ _,
    shows_after s gives fun s' => emit_shows s' _ _⟩

theorem callAc_flagged : Flagged 5 (callAc options) := by
  intro site s arguments arguments' agree
  refine withTarget_same agree fun render category => ?_
  rw [agree.text s 1 (by decide), agree.linkText s 2 (by decide)]
  have gives := categoryLink_gives options (linkText s arguments' 2) s render category
    (Value.argumentText? s arguments' 1)
  exact .inr ⟨_, shows_after s gives fun s' => emit_shows s' _ _,
    shows_after s gives fun s' => emit_shows s' _ _⟩

theorem callAi_flagged : Flagged 3 (callAi options) := by
  intro site s arguments arguments' agree
  have shows_ := callAi_shows options site arguments s
  rw [agree.textAt s 0 (by decide), agree.textAt s 1 (by decide),
    agree.textAt s 2 (by decide)] at shows_
  exact .inr ⟨_, shows_, callAi_shows options site arguments' s⟩

theorem callTodo_flagged : Flagged 1 (callTodo options) := by
  intro site s arguments arguments' agree
  have run (arguments : List Value) : (callTodo options site arguments).run.run s =
      match Value.requiredText s arguments 0 "text" with
      | .error e => (.error e, s)
      | .ok text => (emit (todo options text) (Value.argumentFlag arguments 1)).run.run s := by
    have started : (get : EngineM State).run.run s = (.ok s, s) := rfl
    unfold callTodo
    rw [Fallible.run_bind_of_ok started]
    cases Value.requiredText s arguments 0 "text" <;> rfl
  have first := run arguments
  have second := run arguments'
  rw [← agree.requiredText (by decide)] at second
  cases given : Value.requiredText s arguments 0 "text" with
  | error e =>
    rw [given] at first second
    exact .inl ⟨e, first, second⟩
  | ok text =>
    rw [given] at first second
    exact (SameElement.emit s (todo options text) _ _).of_run first second

theorem callIcon_flagged : Flagged 3 (callIcon options) := by
  intro site s arguments arguments' agree
  refine withTarget_same agree fun render id => ?_
  rw [agree.text s 1 (by decide), agree.text s 2 (by decide)]
  exact SameElement.emit s _ _ _

theorem filterIcon_flagged : Flagged 3 (filterIcon options) := by
  intro site s arguments arguments' agree
  refine withTarget_same agree fun render input => ?_
  rw [agree.text s 1 (by decide), agree.text s 2 (by decide)]
  exact SameElement.emit s _ _ _

theorem filterLink_sigil {text : String} (noSigil : text.toList.head? ≠ some '$')
    (noSpace : text.toList.head? ≠ some ' ') (site : CallSite) (s : State) (safe safe' : Bool) :
    SameElement s (filterLink options site [.text ("$" ++ text) safe])
      (filterLink options site [.text text safe']) true false := by
  obtain ⟨plain, marked⟩ := LinkStatement.parse_sigil noSigil noSpace
  cases rendering : site.render? with
  | none =>
    have refusal : ∃ e, site.requireRender = .error e := by
      rw [CallSite.requireRender, rendering]
      exact ⟨_, rfl⟩
    obtain ⟨e, refusal⟩ := refusal
    have refused (arguments : List Value) :
        (filterLink options site arguments).run.run s = (.error e, s) := by
      refine (withTarget_run site arguments "link" _ s).trans ?_
      rw [refusal]
    exact .inl ⟨e, refused _, refused _⟩
  | some render =>
    have shows_ := filterLink_shows options (s := s) rendering
      (show textAt s [.text ("$" ++ text) safe] 0 = some ("$" ++ text) from rfl)
    have shows' := filterLink_shows options (s := s) rendering
      (show textAt s [.text text safe'] 0 = some text from rfl)
    rw [marked] at shows_
    rw [plain] at shows'
    exact .inr ⟨_, shows_, shows'⟩

end

structure Open (rules : CallRules) : Prop where
  current : rules.deprecated? = none
  unlimited : rules.maxArgs? = none
  untouched : rules.preEscape = false
  safe : rules.safety = .all

theorem invoke_run {c : Callable} (open_ : Open c.options) (other : c.kind ≠ .test)
    (engine? : Option EngineView) (render? : Option ActiveRender) :
    ∃ site, ∀ arguments s, (c.invoke engine? render? arguments).run.run s =
      match (c.handler site arguments).run.run s with
      | (.ok value, s') => (.ok value.markSafe, s')
      | (.error e, s') => (.error e, s') := by
  refine ⟨⟨c.name, if c.options.needsEngine then engine? else none,
    if c.options.needsContext then render? else none⟩, fun arguments s => ?_⟩
  have packed : c.pack arguments = .ok arguments := by
    rw [Callable.pack, open_.unlimited]
  have checked : c.checkMandatory arguments = .ok () := by
    simp [Callable.checkMandatory, other]
  have given (describe : View → String) : c.escapeInput describe arguments = arguments := by
    cases arguments <;> simp [Callable.escapeInput, open_.untouched]
  have safe : c.marksSafe arguments = true := by
    simp [Callable.marksSafe, open_.safe, Safety.coversHtml]
  have lifted {α : Type} (a : α) :
      (liftM (Except.ok a : Except EngineError α) : EngineM α).run.run s = (.ok a, s) := rfl
  have started : (get : EngineM State).run.run s = (.ok s, s) := rfl
  unfold Callable.invoke
  simp only [open_.current, packed]
  rw [Fallible.run_bind_of_ok (lifted arguments), checked, Fallible.run_bind_of_ok (lifted ()),
    Fallible.run_bind_of_ok started]
  simp only [given, safe, if_true]
  cases called : (c.handler ⟨c.name, if c.options.needsEngine then engine? else none,
      if c.options.needsContext then render? else none⟩ arguments).run.run s with
  | mk outcome s' =>
    cases outcome with
    | ok value => rw [Fallible.run_bind_of_ok called]; rfl
    | error e => rw [Fallible.run_bind_of_error called]

/-- The template prints the element with the markup that it prints without, but the engine escapes
    it: so they print the same exactly if it does not. -/
structure PrintsEscaped (autoescape : Bool) (object markup : Except EngineError String) : Prop where
  escaped : object = markup.map fun html => if autoescape then html.escapePrinted else html
  same_iff : ∀ html, markup = .ok html → (object = markup ↔ autoescape = false)

theorem SameElement.prints {s : State} {x x' y y' : EngineM Value}
    (same : SameElement s x x' true false) (autoescape : Bool)
    (run : y.run.run s = match x.run.run s with
      | (.ok value, s') => (.ok value.markSafe, s')
      | (.error e, s') => (.error e, s'))
    (run' : y'.run.run s = match x'.run.run s with
      | (.ok value, s') => (.ok value.markSafe, s')
      | (.error e, s') => (.error e, s')) :
    PrintsEscaped autoescape (written autoescape (y.run.run s))
      (written autoescape (y'.run.run s)) := by
  rcases same with ⟨e, fails, fails'⟩ | ⟨element, ⟨value, after, ran, -, isElement⟩,
    ⟨value', after', ran', -, isElement'⟩⟩
  · rw [run, run', fails, fails']
    exact ⟨rfl, fun html given => by cases given⟩
  · obtain ⟨id, rfl, held⟩ : ∃ id, value = .view (.element id) ∧ after.element id = element :=
      isElement
    obtain rfl : value' = .safe element.html := isElement'
    rw [run, run', ran, ran']
    have object : written autoescape (.ok (Value.view (.element id)).markSafe, after) =
        .ok (if autoescape then element.html.escapePrinted else element.html) := by
      rw [← held]
      cases autoescape <;> rfl
    have markup : written autoescape (.ok (Value.safe element.html).markSafe, after') =
        .ok element.html := by
      cases autoescape <;> rfl
    refine ⟨by rw [object, markup]; rfl, fun html _ => ?_⟩
    rw [object, markup]
    cases autoescape with
    | false => simp
    | true => simp [element.escapePrinted_html_ne]

theorem SameElement.prints_invoked {c : Callable} (open_ : Open c.options) (other : c.kind ≠ .test)
    {values values' : List Value} {s : State}
    (same : ∀ site, SameElement s (c.handler site values) (c.handler site values') true false)
    (scope : Scope) (autoescape : Bool) :
    PrintsEscaped autoescape (written autoescape ((scope.invoke c values).run.run s))
      (written autoescape ((scope.invoke c values').run.run s)) := by
  obtain ⟨site, run⟩ := invoke_run open_ other (some ⟨scope.template, scope.lookup?⟩)
    (scope.renderScope?.map fun running => ⟨scope.machine.site, running⟩)
  exact (same site).prints autoescape (run values s) (run values' s)

def elementFunctions : List (String × Nat) :=
  [("at", 5), ("ac", 5), ("ai", 3), ("todo", 1), ("i", 3)]

def elementFilters : List (String × Nat) :=
  [("i", 3), ("todo", 1)]

theorem elementFunctions_registered (options : LinkSettings) :
    ∀ entry ∈ elementFunctions, ∃ rules handler, Open (rules.forKind .function) ∧
      Flagged entry.2 handler ∧
        .callable .function entry.1 rules (some handler) ∈ registrations options := by
  simp only [elementFunctions, List.forall_mem_cons]
  refine ⟨⟨_, _, ?_, callAt_flagged options, List.mem_of_getElem? (i := 0) rfl⟩,
    ⟨_, _, ?_, callAc_flagged options, List.mem_of_getElem? (i := 1) rfl⟩,
    ⟨_, _, ?_, callAi_flagged options, List.mem_of_getElem? (i := 2) rfl⟩,
    ⟨_, _, ?_, callTodo_flagged options, List.mem_of_getElem? (i := 3) rfl⟩,
    ⟨_, _, ?_, callIcon_flagged options, List.mem_of_getElem? (i := 4) rfl⟩, by simp⟩
  all_goals exact ⟨rfl, rfl, rfl, rfl⟩

theorem elementFilters_registered (options : LinkSettings) :
    ∀ entry ∈ elementFilters, ∃ rules handler, Open (rules.forKind .filter) ∧
      Flagged entry.2 handler ∧
        .callable .filter entry.1 rules (some handler) ∈ registrations options := by
  simp only [elementFilters, List.forall_mem_cons]
  refine ⟨⟨_, _, ?_, filterIcon_flagged options, List.mem_of_getElem? (i := 9) rfl⟩,
    ⟨_, _, ?_, callTodo_flagged options, List.mem_of_getElem? (i := 11) rfl⟩, by simp⟩
  all_goals exact ⟨rfl, rfl, rfl, rfl⟩

theorem filterLink_registered (options : LinkSettings) : ∃ rules, Open (rules.forKind .filter) ∧
    .callable .filter "a" rules (some (filterLink options)) ∈ registrations options :=
  ⟨_, ⟨rfl, rfl, rfl, rfl⟩, List.mem_of_getElem? (i := 8) rfl⟩

section

variable {options : LinkSettings} {e : Engine} (serves : e.Serves (registrations options))
  (site : Site) (nested : View.Nested) (template : String) {bindings : Dictionary Value}
  {s s₁ : State}

include serves

theorem filterLink_prints {object markup : Expr} {text : String} {safe safe' : Bool}
    (noSigil : text.toList.head? ≠ some '$') (noSpace : text.toList.head? ≠ some ' ')
    (evaluated : ((Scope.mk (e.machine site nested) template [bindings]).eval object).run.run s =
      (.ok (.text ("$" ++ text) safe), s₁))
    (evaluated' : ((Scope.mk (e.machine site nested) template [bindings]).eval markup).run.run s =
      (.ok (.text text safe'), s₁)) :
    PrintsEscaped e.autoescape
      (printed (e.machine site nested) template bindings (.filter object "a" []) s)
      (printed (e.machine site nested) template bindings (.filter markup "a" []) s) := by
  obtain ⟨rules, open_, registered⟩ := filterLink_registered options
  have served := serves.filters _ _ _ registered
  have given {scope : Scope} {expr : Expr} {value : Value}
      (evaluated : (scope.eval expr).run.run s = (.ok value, s₁)) :
      (scope.evalAll [expr]).run.run s = (.ok [value], s₁) := by
    rw [Scope.evalAll, Fallible.run_bind_of_ok evaluated]
    rfl
  rw [printed_eq, printed_eq, Scope.eval_filter (given evaluated) served,
    Scope.eval_filter (given evaluated') served]
  exact SameElement.prints_invoked open_ (by simp)
    (fun site => filterLink_sigil options noSigil noSpace site s₁ safe safe') _ _

theorem function_prints {entry : String × Nat} (member : entry ∈ elementFunctions)
    (visible : bindings.find? entry.1 = none) {arguments arguments' : List Expr}
    {values values' : List Value}
    (evaluated : ((Scope.mk (e.machine site nested) template [bindings]).evalAll
      arguments).run.run s = (.ok values, s₁))
    (evaluated' : ((Scope.mk (e.machine site nested) template [bindings]).evalAll
      arguments').run.run s = (.ok values', s₁))
    (agree : Agree entry.2 values values') (set_ : Value.argumentFlag values entry.2 = true)
    (unset : Value.argumentFlag values' entry.2 = false) :
    PrintsEscaped e.autoescape
      (printed (e.machine site nested) template bindings (.call (.name entry.1) arguments) s)
      (printed (e.machine site nested) template bindings (.call (.name entry.1) arguments') s) := by
  obtain ⟨rules, handler, open_, flagged, registered⟩ :=
    elementFunctions_registered options entry member
  obtain ⟨known, served⟩ := serves.functions _ _ _ registered
  have found : (Scope.mk (e.machine site nested) template [bindings]).lookup? entry.1 =
      some (.view (.function entry.1)) := by
    simp [Scope.lookup?, visible, Engine.machine, known]
  rw [printed_eq, printed_eq, Scope.eval_call evaluated found served,
    Scope.eval_call evaluated' found served]
  refine SameElement.prints_invoked open_ (by simp) (fun site => ?_) _ _
  have same := flagged site s₁ values values' agree
  rwa [set_, unset] at same

theorem filter_prints {entry : String × Nat} (member : entry ∈ elementFilters)
    {input input' : Expr} {arguments arguments' : List Expr} {values values' : List Value}
    (evaluated : ((Scope.mk (e.machine site nested) template [bindings]).evalAll
      (input :: arguments)).run.run s = (.ok values, s₁))
    (evaluated' : ((Scope.mk (e.machine site nested) template [bindings]).evalAll
      (input' :: arguments')).run.run s = (.ok values', s₁))
    (agree : Agree entry.2 values values') (set_ : Value.argumentFlag values entry.2 = true)
    (unset : Value.argumentFlag values' entry.2 = false) :
    PrintsEscaped e.autoescape
      (printed (e.machine site nested) template bindings (.filter input entry.1 arguments) s)
      (printed (e.machine site nested) template bindings
        (.filter input' entry.1 arguments') s) := by
  obtain ⟨rules, handler, open_, flagged, registered⟩ :=
    elementFilters_registered options entry member
  have served := serves.filters _ _ _ registered
  rw [printed_eq, printed_eq, Scope.eval_filter evaluated served,
    Scope.eval_filter evaluated' served]
  refine SameElement.prints_invoked open_ (by simp) (fun site => ?_) _ _
  have same := flagged site s₁ values values' agree
  rwa [set_, unset] at same

end

/-- Printing an element writes its markup, which the engine escapes if it escapes at all; the markup
    that the string forms give is never escaped. This holds of a link statement behind a dollar sign
    and of every symbol with an argument that asks for the element. -/
theorem elements_print_escaped (options : LinkSettings) {e : Engine}
    (serves : e.Serves (registrations options)) (site : Site) (nested : View.Nested)
    (template : String) {bindings : Dictionary Value}
    (visible : ∀ entry ∈ elementFunctions, bindings.find? entry.1 = none) (s s₁ : State) :
    let scope : Scope := ⟨e.machine site nested, template, [bindings]⟩
    let PrintsAs := fun object markup =>
      PrintsEscaped e.autoescape (printed (e.machine site nested) template bindings object s)
        (printed (e.machine site nested) template bindings markup s)
    (∀ object markup text safe safe', text.toList.head? ≠ some '$' →
      text.toList.head? ≠ some ' ' →
        (scope.eval object).run.run s = (.ok (.text ("$" ++ text) safe), s₁) →
          (scope.eval markup).run.run s = (.ok (.text text safe'), s₁) →
            PrintsAs (.filter object "a" []) (.filter markup "a" [])) ∧
      (∀ entry ∈ elementFunctions, ∀ arguments arguments' values values',
        (scope.evalAll arguments).run.run s = (.ok values, s₁) →
          (scope.evalAll arguments').run.run s = (.ok values', s₁) →
            Agree entry.2 values values' → Value.argumentFlag values entry.2 = true →
              Value.argumentFlag values' entry.2 = false →
                PrintsAs (.call (.name entry.1) arguments) (.call (.name entry.1) arguments')) ∧
      ∀ entry ∈ elementFilters, ∀ input input' arguments arguments' values values',
        (scope.evalAll (input :: arguments)).run.run s = (.ok values, s₁) →
          (scope.evalAll (input' :: arguments')).run.run s = (.ok values', s₁) →
            Agree entry.2 values values' → Value.argumentFlag values entry.2 = true →
              Value.argumentFlag values' entry.2 = false →
                PrintsAs (.filter input entry.1 arguments) (.filter input' entry.1 arguments') := by
  intro scope PrintsAs
  refine ⟨?_, ?_, ?_⟩
  · intro object markup text safe safe' noSigil noSpace evaluated evaluated'
    exact filterLink_prints serves site nested template noSigil noSpace evaluated evaluated'
  · intro entry member arguments arguments' values values' evaluated evaluated' agree set_ unset
    exact function_prints serves site nested template member (visible entry member) evaluated
      evaluated' agree set_ unset
  · intro entry member input input' arguments arguments' values values' evaluated evaluated' agree
      set_ unset
    exact filter_prints serves site nested template member evaluated evaluated' agree set_ unset

def withLinks (options : LinkSettings) (e : Engine) : Option Engine :=
  ((extension options).run.run []).1.toOption.bind fun x => (e.install x).toOption

theorem registrations_distinct (options : LinkSettings) :
    ((registrations options).filterMap Registration.symbol?).Nodup := by
  simp [registrations, Registration.symbol?]

theorem exists_withLinks (options : LinkSettings) (e : Engine) :
    ∃ e', withLinks options e = some e' ∧ e'.autoescape = e.autoescape ∧
      e'.Serves (registrations options) := by
  have built : (extension options).run.run [] = (.ok _, _) := rfl
  exact ⟨_, rfl, rfl, Engine.serves_of_install (registrations_distinct options) built rfl⟩

def renderNone : View.Nested :=
  fun _ _ => throw (.config .noLoader)

def bindingsOfPublished : Dictionary Value :=
  .ofList [(scopeVariable, .view (.scope renderOfPublished.scope))]

theorem elements_print_escaped_in_category :
    ∃ e, withLinks {} { autoescape := true } = some e ∧ e.autoescape = true ∧
      let printed (expr : Expr) := printed (e.machine renderOfPublished.site renderNone) "c::t"
        bindingsOfPublished expr partlyPublished
      let absent : Expr := .literal .none
      PrintsEscaped e.autoescape (printed (.filter (.literal (.plain "$p")) "a" []))
          (printed (.filter (.literal (.plain "p")) "a" [])) ∧
        PrintsEscaped e.autoescape
          (printed (.call (.name "at") [.literal (.plain "p"), absent, absent, absent, absent,
            .literal (.bool true)]))
          (printed (.call (.name "at") [.literal (.plain "p")])) ∧
        PrintsEscaped e.autoescape
          (printed (.filter (.literal (.plain "star")) "i" [absent, absent, .literal (.bool true)]))
          (printed (.filter (.literal (.plain "star")) "i" [])) := by
  obtain ⟨e, installed, escapes, serves⟩ := exists_withLinks {} { autoescape := true }
  have visible : ∀ entry ∈ elementFunctions, bindingsOfPublished.find? entry.1 = none := by
    decide +kernel
  obtain ⟨links, functions, filters⟩ := elements_print_escaped {} serves renderOfPublished.site
    renderNone "c::t" visible partlyPublished partlyPublished
  refine ⟨e, installed, escapes, ?_, ?_, ?_⟩
  · exact links _ _ "p" false false (by decide) (by decide) rfl rfl
  · refine functions ("at", 5) (by simp [elementFunctions]) _ _ _ _ rfl rfl ?_ rfl rfl
    intro index below
    interval_cases index <;> rfl
  · refine filters ("i", 3) (by simp [elementFilters]) _ _ _ _ _ _ rfl rfl ?_ rfl rfl
    intro index below
    interval_cases index <;> rfl

/-- With automatic escaping an element does not print as the markup that the statement gives. -/
theorem element_prints_unlike_markup :
    (withLinks {} { autoescape := true }).map (fun e =>
      let printed (text : String) := (printed (e.machine renderOfPublished.site renderNone) "c::t"
        bindingsOfPublished (.filter (.literal (.plain text)) "a" []) partlyPublished).toOption
      (printed "$p", printed "p")) =
        some (some "&lt;a href=&quot;&#x2f;wiki&#x2f;c&#x2f;p&quot;&gt;P&lt;&#x2f;a&gt;",
          some "<a href=\"/wiki/c/p\">P</a>") := by
  decide +kernel

end LinkHelpers

end TopicWiki
