import TopicWiki.Extension.Catalog
import TopicWiki.Proofs.Template.Evaluation

namespace TopicWiki

namespace RenderScope

theorem quiet_findCategory (scope : RenderScope) (ident? : Option String) :
    Running.Quiet (scope.findCategory ident?) := by
  cases ident? with
  | none => exact Running.moves_pure
  | some ident => exact State.quiet_findCategory ident

theorem quiet_findTopic (scope : RenderScope) (ident? category? : Option String) :
    Running.Quiet (scope.findTopic ident? category?) := by
  cases ident? with
  | none => exact Running.moves_pure
  | some ident =>
    refine Running.moves_bind (scope.quiet_findCategory category?) ?_
    intro found?
    cases found? with
    | none => exact Running.moves_pure
    | some category => exact State.quiet_topicOf category ident

end RenderScope

theorem quiet_inRender {α : Type} {site : CallSite} {f : ActiveRender → State → EngineM α}
    (body : ∀ render s, Fallible.Quiet (f render s)) :
    Fallible.Quiet (do
      let render ← site.requireRender
      let s ← get
      f render s : EngineM α) := by
  refine Fallible.moves_bind (Fallible.moves_ofExcept _) fun render => ?_
  exact Fallible.moves_bind Fallible.moves_get fun s => body render s

namespace MarkupFilters

theorem filterWith_quiet (converter : Site → Markup.Converter Id) :
    Handler.Moves Undisturbed (filterWith converter) := by
  intro site arguments
  refine quiet_inRender fun render s => ?_
  exact Fallible.moves_bind (Fallible.moves_ofExcept _) fun _ => Fallible.moves_pure

end MarkupFilters

namespace LinkHelpers

variable (options : LinkSettings)

theorem quiet_topicLink (render : ActiveRender) (topic : String) (category? : Option String)
    (attributes : LinkText) :
    Running.Quiet (topicLink options render topic category? attributes) := by
  refine Running.moves_bind (render.scope.quiet_findTopic (some topic) category?) fun _ => ?_
  exact Running.moves_bind Running.moves_get fun _ => Running.moves_pure

theorem quiet_categoryLink (render : ActiveRender) (category : String) (topic? : Option String)
    (attributes : LinkText) :
    Running.Quiet (categoryLink options render category topic? attributes) := by
  cases topic? with
  | some topic => exact quiet_topicLink options render topic (some category) attributes
  | none =>
    refine Running.moves_bind (render.scope.quiet_findCategory (some category)) fun _ => ?_
    exact Running.moves_bind Running.moves_get fun _ => Running.moves_pure

theorem quiet_indexLink (render? : Option ActiveRender) (attributes : LinkText) :
    Running.Quiet (indexLink options render? attributes) := by
  cases render? with
  | none =>
    exact Running.moves_bind (State.quiet_note _ _) fun _ => Running.moves_pure
  | some render =>
    refine Running.moves_bind Running.moves_get fun s => ?_
    exact quiet_categoryLink options render _ none attributes

theorem quiet_statementLink (render : ActiveRender) (input : String) (attributes : LinkText) :
    Running.Quiet (statementLink options render input attributes) := by
  unfold statementLink
  simp only
  split
  · refine Running.moves_bind (State.quiet_note _ _) fun _ => ?_
    exact Running.moves_pure
  · exact Running.moves_bind (quiet_indexLink options _ _) fun _ => Running.moves_pure
  · exact Running.moves_bind (quiet_topicLink options _ _ _ _) fun _ => Running.moves_pure
  · exact Running.moves_bind (quiet_categoryLink options _ _ _ _) fun _ =>
      Running.moves_pure

theorem quiet_emit (element : Element) (asObject : Bool) :
    Fallible.Quiet (emit element asObject) := by
  unfold emit
  split
  · exact Fallible.moves_bind (Fallible.moves_lift (State.quiet_newElement element)) fun _ =>
      Fallible.moves_pure
  · exact Fallible.moves_pure

theorem callAt_quiet : Handler.Moves Undisturbed (callAt options) := by
  intro site arguments
  refine quiet_inRender fun render s => ?_
  refine Fallible.moves_bind (Fallible.moves_ofExcept _) fun topic => ?_
  refine Fallible.moves_bind (Fallible.moves_lift (quiet_topicLink options _ _ _ _)) ?_
  exact fun link => quiet_emit link _

theorem callAc_quiet : Handler.Moves Undisturbed (callAc options) := by
  intro site arguments
  refine quiet_inRender fun render s => ?_
  refine Fallible.moves_bind (Fallible.moves_ofExcept _) fun category => ?_
  refine Fallible.moves_bind (Fallible.moves_lift (quiet_categoryLink options _ _ _ _)) ?_
  exact fun link => quiet_emit link _

theorem callAi_quiet : Handler.Moves Undisturbed (callAi options) := by
  intro site arguments
  refine Fallible.moves_bind Fallible.moves_get fun s => ?_
  refine Fallible.moves_bind (Fallible.moves_lift (quiet_indexLink options _ _)) ?_
  exact fun link => quiet_emit link _

theorem callTodo_quiet : Handler.Moves Undisturbed (callTodo options) := by
  intro site arguments
  refine Fallible.moves_bind Fallible.moves_get fun s => ?_
  exact Fallible.moves_bind (Fallible.moves_ofExcept _) fun text => quiet_emit _ _

theorem callIcon_quiet : Handler.Moves Undisturbed (callIcon options) := by
  intro site arguments
  refine quiet_inRender fun render s => ?_
  exact Fallible.moves_bind (Fallible.moves_ofExcept _) fun id => quiet_emit _ _

theorem callTopic_quiet : Handler.Moves Undisturbed callTopic := by
  intro site arguments
  refine quiet_inRender fun render s => ?_
  refine Fallible.moves_bind (Fallible.moves_lift (render.scope.quiet_findTopic _ none)) ?_
  exact fun _ => Fallible.moves_pure

theorem callCategory_quiet : Handler.Moves Undisturbed callCategory := by
  intro site arguments
  refine quiet_inRender fun render s => ?_
  refine Fallible.moves_bind (Fallible.moves_lift (render.scope.quiet_findCategory _)) ?_
  exact fun _ => Fallible.moves_pure

theorem quiet_placeholders (vars : Value) : Fallible.Quiet (placeholders vars) := by
  unfold placeholders
  split
  · exact Fallible.moves_throw
  · exact Fallible.moves_bind Fallible.moves_get fun _ => Fallible.moves_pure

theorem callText_quiet : Handler.Moves Undisturbed callText := by
  intro site arguments
  refine quiet_inRender fun render s => ?_
  refine Fallible.moves_bind (Fallible.moves_ofExcept _) fun key => ?_
  simp only
  split
  · exact Fallible.moves_bind (quiet_placeholders _) fun _ => Fallible.moves_pure
  · exact Fallible.moves_pure

theorem filterLink_quiet : Handler.Moves Undisturbed (filterLink options) := by
  intro site arguments
  refine quiet_inRender fun render s => ?_
  refine Fallible.moves_bind (Fallible.moves_ofExcept _) fun input => ?_
  refine Fallible.moves_bind (Fallible.moves_lift (quiet_statementLink options _ _ _)) ?_
  exact fun link => quiet_emit link.1 _

theorem filterIcon_quiet : Handler.Moves Undisturbed (filterIcon options) := by
  intro site arguments
  refine quiet_inRender fun render s => ?_
  exact Fallible.moves_bind (Fallible.moves_ofExcept _) fun input => quiet_emit _ _

theorem filterTopic_quiet : Handler.Moves Undisturbed filterTopic := by
  intro site arguments
  refine quiet_inRender fun render s => ?_
  refine Fallible.moves_bind (Fallible.moves_ofExcept _) fun ident => ?_
  have found (id : CategoryId) :
      Fallible.Quiet (do return topicView (← State.topicOf id ident) : EngineM Value) :=
    Fallible.moves_bind (Fallible.moves_lift (State.quiet_topicOf id ident)) fun _ =>
      Fallible.moves_pure
  simp only
  split
  · rename_i id _
    exact found id
  · refine Fallible.moves_bind (Fallible.moves_lift (State.quiet_findCategory _)) ?_
    intro id?
    cases id? with
    | none => exact Fallible.moves_pure
    | some id => exact found id
  · exact Fallible.moves_pure

theorem quiet_setHome (render : ActiveRender) (bindings : Dictionary Value) :
    Running.Quiet (setHome options render bindings) :=
  Running.moves_bind (quiet_indexLink options (some render) {}) fun _ =>
    Running.moves_pure

end LinkHelpers

end TopicWiki
