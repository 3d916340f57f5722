import TopicWiki.Proofs.Wiki.Sheltered

namespace TopicWiki.Template

/-- The variables show the scope of the running render: it stands in the outermost frame, and no
    frame hides it. -/
def FramesShow (shown : RenderScope) : Frames → Prop
  | [] => False
  | [frame] => frame.find? scopeVariable = some (.view (.scope shown))
  | frame :: next :: rest => frame.find? scopeVariable = none ∧ FramesShow shown (next :: rest)

variable {shown : RenderScope}

theorem framesShow_cons {frame : Dictionary Value} {frames : Frames} (nonempty : frames ≠ []) :
    FramesShow shown (frame :: frames) ↔
      frame.find? scopeVariable = none ∧ FramesShow shown frames := by
  cases frames with
  | nil => contradiction
  | cons next rest => rfl

theorem FramesShow.ne_nil {frames : Frames} (shows_ : FramesShow shown frames) : frames ≠ [] := by
  rintro rfl
  exact shows_

theorem FramesShow.findSome? {frames : Frames} (shows_ : FramesShow shown frames) :
    (frames.findSome? fun frame => frame.find? scopeVariable) = some (.view (.scope shown)) := by
  induction frames with
  | nil => exact shows_.elim
  | cons frame rest ih =>
    cases rest with
    | nil =>
      rw [List.findSome?_cons, show frame.find? scopeVariable = _ from shows_]
    | cons next rest =>
      rw [List.findSome?_cons, shows_.1]
      exact ih shows_.2

theorem FramesShow.insert {frame : Dictionary Value} {rest : Frames} {name : String}
    (shows_ : FramesShow shown (frame :: rest)) (other : name ≠ scopeVariable) (value : Value) :
    FramesShow shown (frame.insert name value :: rest) := by
  have kept := frame.find?_insert_of_ne (Ne.symm other) value
  cases rest with
  | nil => exact kept.trans shows_
  | cons next rest => exact ⟨kept.trans shows_.1, shows_.2⟩

theorem FramesShow.push {frames : Frames} (shows_ : FramesShow shown frames) :
    FramesShow shown ({} :: frames) :=
  (framesShow_cons shows_.ne_nil).mpr ⟨rfl, shows_⟩

theorem FramesShow.pop {frames : Frames} (shows_ : FramesShow shown frames)
    (deep : 1 < frames.length) : FramesShow shown frames.tail := by
  cases frames with
  | nil => simp at deep
  | cons frame rest =>
    have nonempty : rest ≠ [] := by
      rintro rfl
      simp at deep
    exact ((framesShow_cons nonempty).mp shows_).2

theorem Scope.renderScope?_of_shown {scope : Scope} (shows_ : FramesShow shown scope.frames) :
    scope.renderScope? = some shown := by
  rw [Scope.renderScope?, Scope.lookup?, shows_.findSome?]
  rfl

end TopicWiki.Template
