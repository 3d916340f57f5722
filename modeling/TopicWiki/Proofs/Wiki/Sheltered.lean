import TopicWiki.Proofs.Wiki.Undisturbed

namespace TopicWiki

namespace Template

mutual
/-- Whether a template leaves the scope of the running render to be seen: no node binds the variable
    that holds it. -/
def Node.spares : Node → Bool
  | .ifElse _ then_ else_ => spareAll then_ && spareAll else_
  | .forIn target _ body else_ => target != scopeVariable && spareAll body && spareAll else_
  | .assign target _ => target != scopeVariable
  | .withNames bindings body =>
    (bindings.all fun binding => binding.1 != scopeVariable) && spareAll body
  | .block _ body => spareAll body
  | _ => true

def spareAll : List Node → Bool
  | [] => true
  | node :: rest => node.spares && spareAll rest
end

mutual
theorem Node.spares_blocks (node : Node) (spares : node.spares = true) :
    ∀ block ∈ node.blocks, spareAll block.2 = true := by
  cases node with
  | ifElse condition then_ else_ =>
    simp only [Node.spares, Bool.and_eq_true] at spares
    intro block member
    rcases List.mem_append.mp member with member | member
    · exact spareAll_blocks then_ spares.1 block member
    · exact spareAll_blocks else_ spares.2 block member
  | forIn target items body else_ =>
    simp only [Node.spares, Bool.and_eq_true] at spares
    intro block member
    rcases List.mem_append.mp member with member | member
    · exact spareAll_blocks body spares.1.2 block member
    · exact spareAll_blocks else_ spares.2 block member
  | withNames bindings body =>
    simp only [Node.spares, Bool.and_eq_true] at spares
    exact spareAll_blocks body spares.2
  | block name body =>
    simp only [Node.spares] at spares
    intro block member
    rcases List.mem_cons.mp member with rfl | member
    · exact spares
    · exact spareAll_blocks body spares block member
  | text | print | assign | insert | extend => simp [Node.blocks]

theorem spareAll_blocks (nodes : List Node) (spares : spareAll nodes = true) :
    ∀ block ∈ blocksOf nodes, spareAll block.2 = true := by
  cases nodes with
  | nil => simp [blocksOf]
  | cons node rest =>
    simp only [spareAll, Bool.and_eq_true] at spares
    intro block member
    rcases List.mem_append.mp member with member | member
    · exact node.spares_blocks spares.1 block member
    · exact spareAll_blocks rest spares.2 block member
end

end Template

open Template

/-- Whatever the tags of an engine make of a text, it is a template that leaves the scope of the
    running render to be seen. A text that cannot be read is none: what the reader refuses, such as
    a macro, may hide the scope as well. -/
def Engine.Spares (e : Engine) (text : String) : Prop :=
  ∀ template serials result, (e.transforms.apply template text serials).1 = .ok result →
    ∃ nodes, Engine.read result = .ok nodes ∧ spareAll nodes = true

/-- No text that templates are made from hides the scope of the running render: no text that is
    known by a name, no include, and no text of a topic behind that of a category. -/
structure Sheltered (e : Engine) (s : State) : Prop where
  sources : ∀ name text, s.sources.find? name = some text → e.Spares text
  templates : ∀ name nodes, s.templates.find? name = some nodes → spareAll nodes = true
  includes : ∀ id name text, (s.categoryDocument id).includes.find? name = some text → e.Spares text
  missing : e.Spares ""
  documents : ∀ category topic text, (s.topicDocument topic).text? = some text →
    e.Spares (Renderer.joinSource ((s.categoryDocument category).text?.getD "") text)

theorem Sheltered.of_sameTexts {e : Engine} {s s' : State} (sheltered : Sheltered e s)
    (same : SameTexts s s') : Sheltered e s' where
  sources name text found := sheltered.sources name text (same.sources ▸ found)
  templates name nodes found := sheltered.templates name nodes (same.templates ▸ found)
  includes id name text found := sheltered.includes id name text (same.categories id ▸ found)
  missing := sheltered.missing
  documents category topic text found := by
    rw [same.categories category]
    exact sheltered.documents category topic text (same.topics topic ▸ found)

theorem Sheltered.included_spares {e : Engine} {s : State} (sheltered : Sheltered e s)
    (id : CategoryId) {name text : String}
    (read : ((s.categoryDocument id).included name .none .all).1 = .ok text) : e.Spares text := by
  unfold Document.included at read
  split at read
  · rename_i text' found
    cases read
    exact sheltered.includes id name text found
  · cases read
    exact sheltered.missing

theorem Sheltered.setSource {e : Engine} {s : State} (sheltered : Sheltered e s)
    {name text : String} (spares : e.Spares text) :
    Sheltered e { s with sources := s.sources.insert name text } where
  sources name' text' found := by
    by_cases same : name' = name
    · subst same
      rw [Dictionary.find?_insert_self] at found
      exact Option.some.inj found ▸ spares
    · rw [Dictionary.find?_insert_of_ne _ same] at found
      exact sheltered.sources name' text' found
  templates := sheltered.templates
  includes := sheltered.includes
  missing := sheltered.missing
  documents := sheltered.documents

theorem Sheltered.setTemplate {e : Engine} {s : State} (sheltered : Sheltered e s) {name : String}
    {nodes : List Node} (spares : spareAll nodes = true) :
    Sheltered e { s with templates := s.templates.insert name nodes } where
  sources := sheltered.sources
  templates name' nodes' found := by
    by_cases same : name' = name
    · subst same
      rw [Dictionary.find?_insert_self] at found
      exact Option.some.inj found ▸ spares
    · rw [Dictionary.find?_insert_of_ne _ same] at found
      exact sheltered.templates name' nodes' found
  includes := sheltered.includes
  missing := sheltered.missing
  documents := sheltered.documents

def Running.Keeps {α : Type} (e : Engine) (x : Running α) : Prop :=
  Running.Agree (Sheltered e) anything x x

def Fallible.Keeps {α ε : Type} (e : Engine) (x : Fallible ε α) : Prop :=
  Fallible.Agree (Sheltered e) anything x x

def Callable.Calm (e : Engine) (c : Callable) : Prop :=
  ∀ site arguments, Fallible.Keeps e (c.handler site arguments)

theorem Running.Quiet.keeps {α : Type} {x : Running α} (quiet : Running.Quiet x) (e : Engine) :
    Running.Keeps e x :=
  fun s sheltered => ⟨rfl, sheltered.of_sameTexts (quiet s).toSameTexts, trivial⟩

theorem Running.Quiet.agree {α : Type} {x : Running α} (quiet : Running.Quiet x) {e : Engine}
    {post : α → Prop} (result : ∀ s, post (x.run s).1) :
    Running.Agree (Sheltered e) post x x :=
  fun s sheltered => ⟨rfl, sheltered.of_sameTexts (quiet s).toSameTexts, result s⟩

def Sheltering (e : Engine) (s s' : State) : Prop :=
  Sheltered e s → Sheltered e s'

instance (e : Engine) : IsPreorder State (Sheltering e) where
  refl _ sheltered := sheltered
  trans _ _ _ first second sheltered := second (first sheltered)

theorem Undisturbed.sheltering {s s' : State} (undisturbed : Undisturbed s s') (e : Engine) :
    Sheltering e s s' :=
  fun sheltered => sheltered.of_sameTexts undisturbed.toSameTexts

theorem Running.Keeps.moves {α : Type} {e : Engine} {x : Running α} (keeps : Running.Keeps e x) :
    Running.Moves (Sheltering e) x :=
  fun s sheltered => (keeps s sheltered).2.1

theorem Fallible.Keeps.moves {α ε : Type} {e : Engine} {x : Fallible ε α}
    (keeps : Fallible.Keeps e x) : Fallible.Moves (Sheltering e) x :=
  fun s sheltered => (keeps s sheltered).2.1

theorem Running.Moves.keeps {α : Type} {e : Engine} {x : Running α}
    (moves : Running.Moves (Sheltering e) x) : Running.Keeps e x :=
  fun s sheltered => ⟨rfl, moves s sheltered, trivial⟩

theorem Fallible.Moves.keeps {α ε : Type} {e : Engine} {x : Fallible ε α}
    (moves : Fallible.Moves (Sheltering e) x) : Fallible.Keeps e x :=
  fun s sheltered => ⟨rfl, moves s sheltered, fun _ _ => trivial⟩

namespace State

variable {e : Engine}

theorem reading_agree (outcome : Except ContentError String × Option String) :
    Running.Agree (Sheltered e) (fun read => read = outcome.1) (reading outcome)
      (reading outcome) :=
  (quiet_reading outcome).agree (reading_result outcome)

theorem resolveSource_spares (name : String) :
    Fallible.Agree (Sheltered e) e.Spares (resolveSource name) (resolveSource name) := by
  refine Fallible.agree_bind Fallible.agree_get ?_
  intro s sheltered
  split
  · rename_i source found
    refine Fallible.agree_bind (Fallible.agree_lift ((quiet_note _ _).keeps e)) fun _ _ => ?_
    exact Fallible.agree_pure (sheltered.sources name source found)
  · split
    · exact Fallible.agree_throw
    · rename_i category includeName parts
      refine Fallible.agree_bind (Fallible.agree_lift ((quiet_findCategory _).keeps e)) ?_
      intro found? _
      cases found? with
      | none => exact Fallible.agree_throw
      | some id =>
        refine Fallible.agree_bind Fallible.agree_get ?_
        intro s' sheltered'
        refine Fallible.agree_bind (Fallible.agree_lift (reading_agree _)) ?_
        rintro outcome read
        cases outcome with
        | error fault => exact Fallible.agree_throw
        | ok text =>
          have spares : e.Spares text := sheltered'.included_spares id read.symm
          refine Fallible.agree_bind (Fallible.agree_lift ((quiet_note _ _).keeps e)) fun _ _ => ?_
          refine Fallible.agree_bind (Fallible.agree_modify ?_) fun _ _ =>
            Fallible.agree_pure spares
          exact fun _ sheltered => sheltered.setSource spares

end State

end TopicWiki
