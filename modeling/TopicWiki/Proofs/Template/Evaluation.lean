import TopicWiki.Proofs.Template.Showing
import TopicWiki.Proofs.Wiki.Dialogue

namespace TopicWiki

open Template Dialogue

def Handler.Moves (M : State → State → Prop) (handler : Handler) : Prop :=
  ∀ site arguments, Fallible.Moves M (handler site arguments)

namespace View

theorem quiet_documentAttribute? (document : Document) (name : String) :
    Running.Quiet (documentAttribute? document name) := by
  unfold documentAttribute?
  split
  · exact Running.moves_pure
  · exact Running.moves_pure
  · exact Running.moves_pure
  · exact Running.moves_bind (State.quiet_readText document) fun _ => Running.moves_pure
  · exact Running.moves_pure

theorem quiet_attribute? (view : View) (name : String) : Running.Quiet (attribute? view name) := by
  refine Running.moves_bind Running.moves_get ?_
  intro s
  cases view with
  | topic id =>
    simp only
    split
    · exact Running.moves_bind (State.quiet_categoryOf id) fun _ => Running.moves_pure
    · exact quiet_documentAttribute? _ name
  | category id => exact quiet_documentAttribute? _ name
  | renderer =>
    simp only
    split <;> exact Running.moves_pure
  | scope running =>
    simp only
    split <;> exact Running.moves_pure
  | element id =>
    simp only
    split <;> exact Running.moves_pure
  | function _ => exact Running.moves_pure

theorem quiet_callCategory (id : CategoryId) (method : String) (arguments : List Value) :
    Fallible.Quiet (callCategory id method arguments) := by
  unfold callCategory
  split
  · refine Fallible.moves_bind (Fallible.moves_ofExcept _) fun ident => ?_
    exact Fallible.moves_bind (Fallible.moves_lift (State.quiet_topicOf id ident)) fun _ =>
      Fallible.moves_pure
  · exact Fallible.moves_bind Fallible.moves_get fun _ => Fallible.moves_pure
  · exact Fallible.moves_throw

theorem quiet_callElement (id : ElementId) (method : String) (arguments : List Value) :
    Fallible.Quiet (callElement id method arguments) := by
  unfold callElement
  simp only
  split
  · refine Fallible.moves_bind (Fallible.moves_ofExcept _) fun name => ?_
    exact Fallible.moves_bind Fallible.moves_get fun _ => Fallible.moves_pure
  · refine Fallible.moves_bind (Fallible.moves_ofExcept _) fun name => ?_
    refine Fallible.moves_bind Fallible.moves_get fun s => ?_
    exact Fallible.moves_bind (Fallible.moves_lift (State.quiet_changeElement id _)) fun _ =>
      Fallible.moves_pure
  · refine Fallible.moves_bind (Fallible.moves_ofExcept _) fun name => ?_
    exact Fallible.moves_bind (Fallible.moves_lift (State.quiet_changeElement id _)) fun _ =>
      Fallible.moves_pure
  · exact Fallible.moves_throw

section

variable {M : State → State → Prop} [IsPreorder State M] {shown : RenderScope}

theorem callTopic_told (scope? : Option RenderScope) (id : TopicId) (method : String) :
    Told M shown (scope? = some shown) anything fun services =>
      callTopic services.nested scope? id method := by
  unfold callTopic
  split
  · exact Told.renderNested scope? id
  · exact Told.throw

variable (quiet : ∀ s s', Undisturbed s s' → M s s')

include quiet

theorem callRenderer_told (scope? : Option RenderScope) (method : String)
    (arguments : List Value) :
    Told M shown (scope? = some shown) anything fun services =>
      callRenderer services.nested scope? method arguments := by
  unfold callRenderer
  simp only
  split
  · refine Told.of_quiet (Fallible.moves_bind (Fallible.moves_ofExcept _) fun ident => ?_)
    exact Fallible.moves_bind (Fallible.moves_lift ((State.quiet_findCategory ident).mono quiet))
      fun _ => Fallible.moves_pure
  · refine Told.of_quiet (Fallible.moves_bind (Fallible.moves_ofExcept _) fun category => ?_)
    refine Fallible.moves_bind (Fallible.moves_ofExcept _) fun ident => ?_
    exact Fallible.moves_bind
      (Fallible.moves_lift ((State.quiet_topicIn category ident).mono quiet)) fun _ =>
        Fallible.moves_pure
  · refine Told.bind (Told.of_quiet (Fallible.moves_ofExcept _)) fun category => ?_
    refine Told.bind (Told.of_quiet (Fallible.moves_ofExcept _)) fun ident => ?_
    refine Told.bind (Told.of_quiet
      (Fallible.moves_lift ((State.quiet_topicIn category ident).mono quiet))) fun found? => ?_
    cases found? with
    | none => exact Told.throw
    | some found => exact (Told.renderNested scope? found).given fun given => given.1.1.1
  · exact Told.throw

end

end View

theorem Callable.invoke_moves {M : State → State → Prop} [IsPreorder State M]
    (quiet : ∀ s s', Undisturbed s s' → M s s') {c : Callable} (moves : Handler.Moves M c.handler)
    (engine? : Option EngineView) (render? : Option ActiveRender) (arguments : List Value) :
    Fallible.Moves M (c.invoke engine? render? arguments) := by
  have rest : Fallible.Moves M (do
      let packed ← (c.pack arguments : Except EngineError (List Value))
      c.checkMandatory packed
      let given := c.escapeInput (← get).describe packed
      let site : CallSite :=
        { name := c.name
          engine? := if c.options.needsEngine then engine? else none
          render? := if c.options.needsContext then render? else none }
      let result ← c.handler site given
      return if c.marksSafe given then result.markSafe else result : EngineM Value) := by
    refine Fallible.moves_bind (Fallible.moves_ofExcept _) fun packed => ?_
    refine Fallible.moves_bind (Fallible.moves_ofExcept _) fun _ => ?_
    refine Fallible.moves_bind Fallible.moves_get fun s => ?_
    exact Fallible.moves_bind (moves _ _) fun _ => Fallible.moves_pure
  unfold Callable.invoke
  simp only
  split
  · refine Fallible.moves_bind (Fallible.moves_lift ?_) fun _ => rest
    exact (State.quiet_note _ _).mono quiet
  · exact rest

namespace Template

structure Machine.Moves (M : State → State → Prop) (machine : Machine) : Prop where
  quiet : ∀ s s', Undisturbed s s' → M s s'
  functions : ∀ name c, machine.functions.find? name = some c → Handler.Moves M c.handler
  filters : ∀ name c, machine.filters.find? name = some c → Handler.Moves M c.handler
  tests : ∀ name c, machine.tests.find? name = some c → Handler.Moves M c.handler

def Machine.serving (machine : Machine) (services : Services) : Machine :=
  { machine with nested := services.nested, load := services.load }

theorem Machine.serving_autoescape (machine : Machine) (services : Services) :
    (machine.serving services).autoescape = machine.autoescape := rfl

namespace Scope

variable {M : State → State → Prop} [IsPreorder State M] {machine : Machine} {shown : RenderScope}
  {template : String} {frames : Frames}

theorem lookup?_serving (services : Services) (name : String) :
    lookup? ⟨machine.serving services, template, frames⟩ name =
      lookup? ⟨machine, template, frames⟩ name := rfl

theorem callValue_serving (services : Services) (callee : Value) (arguments : List Value) :
    callValue ⟨machine.serving services, template, frames⟩ callee arguments =
      callValue ⟨machine, template, frames⟩ callee arguments := rfl

theorem callNamed_serving (services : Services) (name : String) (arguments : List Value) :
    callNamed ⟨machine.serving services, template, frames⟩ name arguments =
      callNamed ⟨machine, template, frames⟩ name arguments := rfl

theorem applyFilter_serving (services : Services) (name : String) (arguments : List Value) :
    applyFilter ⟨machine.serving services, template, frames⟩ name arguments =
      applyFilter ⟨machine, template, frames⟩ name arguments := rfl

theorem performTest_serving (services : Services) (name : String) (arguments : List Value) :
    performTest ⟨machine.serving services, template, frames⟩ name arguments =
      performTest ⟨machine, template, frames⟩ name arguments := rfl

theorem quiet_member? (target key : Value) : Running.Quiet (member? target key) := by
  unfold member?
  split
  · split
    · exact View.quiet_attribute? _ _
    · exact Running.moves_pure
  · exact Running.moves_bind Running.moves_get fun _ => Running.moves_pure
  · exact Running.moves_pure
  · exact Running.moves_pure
  · exact Running.moves_pure

theorem quiet_member (target key : Value) : Fallible.Quiet (member target key) := by
  refine Fallible.moves_bind (Fallible.moves_lift (quiet_member? target key)) ?_
  intro found?
  cases found? with
  | some v => exact Fallible.moves_pure
  | none =>
    simp only
    split
    · exact Fallible.moves_throw
    · exact Fallible.moves_pure

theorem quiet_unaided {α : Type} (arguments : List Value) (answer : Except EngineError α) :
    Fallible.Quiet (unaided arguments answer) := by
  unfold unaided
  split
  · exact Fallible.moves_throw
  · exact Fallible.moves_ofExcept answer

section

set_option linter.unusedSectionVars false

variable (moves : machine.Moves M)

include moves

theorem callValue_moves (callee : Value) (arguments : List Value) :
    Fallible.Moves M (callValue ⟨machine, template, frames⟩ callee arguments) := by
  unfold callValue
  split
  · rename_i name
    cases found : machine.functions.find? name with
    | none =>
      exact Fallible.moves_throw
    | some c =>
      exact Callable.invoke_moves moves.quiet (moves.functions name c found) _ _ arguments
  · exact Fallible.moves_throw
  · exact Fallible.moves_throw
  · exact Fallible.moves_throw
  · exact Fallible.moves_throw

theorem callNamed_moves (name : String) (arguments : List Value) :
    Fallible.Moves M (callNamed ⟨machine, template, frames⟩ name arguments) := by
  unfold callNamed
  split
  · exact callValue_moves moves _ arguments
  · exact Fallible.moves_throw

theorem applyFilter_moves (name : String) (arguments : List Value) :
    Fallible.Moves M (applyFilter ⟨machine, template, frames⟩ name arguments) := by
  unfold applyFilter
  simp only
  split
  · rename_i c found
    exact Callable.invoke_moves moves.quiet (moves.filters name c found) _ _ arguments
  · split
    · exact (quiet_unaided _ _).mono moves.quiet
    · exact Fallible.moves_throw

theorem performTest_moves (name : String) (arguments : List Value) :
    Fallible.Moves M (performTest ⟨machine, template, frames⟩ name arguments) := by
  unfold performTest
  simp only
  split
  · rename_i c found
    refine Fallible.moves_bind ?_ fun _ => Fallible.moves_pure
    exact Callable.invoke_moves moves.quiet (moves.tests name c found) _ _ arguments
  · split
    · exact (quiet_unaided _ _).mono moves.quiet
    · exact (quiet_unaided _ _).mono moves.quiet
    · exact (quiet_unaided _ _).mono moves.quiet
    · exact Fallible.moves_throw

theorem callMember_moves (target : Value) (method : String) (arguments : List Value)
    (e : EngineError) :
    Fallible.Moves M (do
      match ← member? target (.plain method) with
      | some callee => callValue ⟨machine, template, frames⟩ callee arguments
      | none => throw e : EngineM Value) := by
  have looked := (quiet_member? target (.plain method)).mono moves.quiet
  refine Fallible.moves_bind (Fallible.moves_lift looked) ?_
  intro found?
  cases found? with
  | none => exact Fallible.moves_throw
  | some callee => exact callValue_moves moves callee arguments

theorem callOwnMethod_told (target : Value) (method : String) (arguments : List Value) :
    Told M shown (FramesShow shown frames) anything fun services =>
      callOwnMethod ⟨machine.serving services, template, frames⟩ target method arguments := by
  have scope_eq (services : Services) :
      renderScope? ⟨machine.serving services, template, frames⟩ =
        renderScope? ⟨machine, template, frames⟩ := rfl
  have seen (shows_ : FramesShow shown frames) :
      renderScope? ⟨machine, template, frames⟩ = some shown := renderScope?_of_shown shows_
  unfold callOwnMethod
  simp only [scope_eq]
  split
  · exact (View.callTopic_told _ _ method).given seen
  · exact .of_quiet ((View.quiet_callCategory _ method arguments).mono moves.quiet)
  · exact (View.callRenderer_told moves.quiet _ method arguments).given seen
  · exact .of_quiet ((View.quiet_callElement _ method arguments).mono moves.quiet)
  · exact Told.throw

theorem callMethod_told (target : Value) (method : String) (arguments : List Value) :
    Told M shown (FramesShow shown frames) anything fun services =>
      callMethod ⟨machine.serving services, template, frames⟩ target method arguments := by
  refine Told.tryCatch (callOwnMethod_told moves target method arguments) ?_ ?_
  · intro e unknown
    simp only [ne_eq, unknown, not_true_eq_false, if_false, callValue_serving]
    exact .of_quiet (callMember_moves moves target method arguments e)
  · intro e known services
    simp only [if_pos known]
    rfl

mutual
/-- An expression is a dialogue: it asks for nothing but renders within the one that is shown. -/
theorem eval_told : (expr : Expr) →
    Told M shown (FramesShow shown frames) anything fun services =>
      eval ⟨machine.serving services, template, frames⟩ expr
  | .literal v => by
    simp only [eval]
    exact .value
  | .name name => by
    simp only [eval, lookup?_serving]
    exact .value
  | .attribute target name => by
    simp only [eval]
    exact .bind (eval_told target) fun v => .of_quiet ((quiet_member v _).mono moves.quiet)
  | .item target key => by
    simp only [eval]
    refine .bind (eval_told target) fun target => ?_
    refine .bind ((eval_told key).given And.left) fun key => ?_
    exact .of_quiet ((quiet_member target key).mono moves.quiet)
  | .call (.name name) arguments => by
    simp only [eval, callNamed_serving]
    exact .bind (evalAll_told arguments) fun arguments =>
      .of_quiet (callNamed_moves moves name arguments)
  | .call (.attribute target method) arguments => by
    simp only [eval]
    refine .bind (eval_told target) fun target => ?_
    refine .bind ((evalAll_told arguments).given And.left) fun arguments => ?_
    exact (callMethod_told moves target method arguments).given fun given => given.1.1
  | .call (.literal _) arguments | .call (.item _ _) arguments
  | .call (.call _ _) arguments | .call (.filter _ _ _) arguments
  | .call (.test _ _ _ _) arguments | .call (.choose _ _ _) arguments
  | .call (.compare _ _) arguments | .call (.or _ _) arguments
  | .call (.and _ _) arguments | .call (.not _) arguments
  | .call (.negate _) arguments | .call (.list _) arguments
  | .call (.map _) arguments => by
    refine .bind (eval_told _) fun callee => ?_
    refine .bind ((evalAll_told arguments).given And.left) fun arguments => ?_
    simp only [callValue_serving]
    exact .of_quiet (callValue_moves moves callee arguments)
  | .filter input name arguments => by
    simp only [eval, applyFilter_serving]
    refine .bind (eval_told input) fun input => ?_
    exact .bind ((evalAll_told arguments).given And.left) fun arguments =>
      .of_quiet (applyFilter_moves moves name _)
  | .test input name arguments negated => by
    simp only [eval, performTest_serving]
    refine .bind (eval_told input) fun input => ?_
    refine .bind ((evalAll_told arguments).given And.left) fun arguments => ?_
    exact .bind (.of_quiet (performTest_moves moves name _)) fun _ => .value
  | .choose condition then_ else_ => by
    simp only [eval]
    refine .bind (eval_told condition) fun chosen => ?_
    split
    · exact (eval_told then_).given And.left
    · exact (evalOption_told else_).given And.left
  | .compare first links => by
    simp only [eval]
    refine .bind (eval_told first) fun first => ?_
    exact .bind ((evalLinks_told first links).given And.left) fun _ => .value
  | .or left right => by
    simp only [eval]
    refine .bind (eval_told left) fun left => ?_
    split
    · exact .value
    · exact (eval_told right).given And.left
  | .and left right => by
    simp only [eval]
    refine .bind (eval_told left) fun left => ?_
    split
    · exact (eval_told right).given And.left
    · exact .value
  | .not operand => by
    simp only [eval]
    exact .bind (eval_told operand) fun _ => .value
  | .negate operand => by
    simp only [eval]
    exact .bind (eval_told operand) fun _ => .of_quiet (Fallible.moves_ofExcept _)
  | .list items => by
    simp only [eval]
    exact .bind (evalAll_told items) fun _ => .value
  | .map entries => by
    simp only [eval]
    exact .bind (evalEntries_told entries) fun entries => .bind .get fun _ => .value

theorem evalOption_told : (expr? : Option Expr) →
    Told M shown (FramesShow shown frames) anything fun services =>
      evalOption ⟨machine.serving services, template, frames⟩ expr?
  | none => by
    simp only [evalOption]
    exact .value
  | some expr => by
    simp only [evalOption]
    exact eval_told expr

theorem evalLinks_told (left : Value) : (links : List (Bool × Expr)) →
    Told M shown (FramesShow shown frames) anything fun services =>
      evalLinks ⟨machine.serving services, template, frames⟩ left links
  | [] => by
    simp only [evalLinks]
    exact .value
  | (negated, operand) :: rest => by
    simp only [evalLinks]
    refine .bind (eval_told operand) fun right => .bind .get fun s => ?_
    split
    · exact (evalLinks_told right rest).given fun given => given.1.1
    · exact .value

theorem evalAll_told : (exprs : List Expr) →
    Told M shown (FramesShow shown frames) anything fun services =>
      evalAll ⟨machine.serving services, template, frames⟩ exprs
  | [] => by
    simp only [evalAll]
    exact .value
  | expr :: rest => by
    simp only [evalAll]
    refine .bind (eval_told expr) fun v => ?_
    exact .bind ((evalAll_told rest).given And.left) fun _ => .value

theorem evalEntries_told : (entries : List (Expr × Expr)) →
    Told M shown (FramesShow shown frames) anything fun services =>
      evalEntries ⟨machine.serving services, template, frames⟩ entries
  | [] => by
    simp only [evalEntries]
    exact .value
  | (key, value) :: rest => by
    simp only [evalEntries]
    refine .bind (eval_told key) fun key => .bind ((eval_told value).given And.left) fun value => ?_
    exact .bind ((evalEntries_told rest).given fun given => given.1.1) fun _ => .value
end

end

end Scope

end Template

end TopicWiki
