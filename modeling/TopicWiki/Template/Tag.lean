import TopicWiki.Template.Statement

namespace TopicWiki.Template

structure TagError where
  tag : String
  template : String
  reason : String
  deriving DecidableEq, Repr

def TagError.message (e : TagError) : String :=
  e.tag ++ " tag in '" ++ e.template ++ "': " ++ e.reason

structure TagBlock where
  name : String
  arguments : List Char
  body : List Char
  template : String
  deriving DecidableEq, Repr

/-- A custom block tag. It writes the source that replaces a block; `serial` is the number of
    blocks it has replaced before. -/
structure Tag where
  name : String
  endName : String
  expand : (serial : Nat) → TagBlock → Except TagError (List Char)

abbrev Expanding := ExceptT TagError (StateM Nat)

/-- Replaces one block. Only a block that was replaced counts. -/
def Tag.run (tag : Tag) (block : TagBlock) : Expanding (List Char) := do
  let serial ← get
  let expansion ← tag.expand serial block
  set (serial + 1)
  return expansion

def maxNesting : Nat := 64

/-- The text before the statement that closes the innermost open block, that statement, and the text
    behind it. `level` more blocks are open around it. -/
def closing? (tag : Tag) (level : Nat) (text : List Char) :
    Option (List Char × Statement × List Char) :=
  match found : Statement.first? text with
  | none => none
  | some (located, rest) =>
    have := Statement.first?_rest_lt found
    let deeper (level : Nat) :=
      (closing? tag level rest).map fun (before, close, after) =>
        (located.gap ++ located.statement.source ++ before, close, after)
    if located.statement.name = tag.name then deeper (level + 1)
    else if located.statement.name = tag.endName then
      match level with
      | 0 => some (located.gap, located.statement, rest)
      | level + 1 => deeper level
    else deeper level
termination_by text.length

theorem closing?_after_lt {tag : Tag} {level : Nat} {text before after : List Char}
    {close : Statement} (h : closing? tag level text = some (before, close, after)) :
    after.length < text.length := by
  induction hn : text.length using Nat.strongRecOn generalizing level text before with
  | ind n ih =>
    rw [closing?] at h
    split at h
    · cases h
    · rename_i located rest found
      have shorter := Statement.first?_rest_lt found
      have deeper {level : Nat} {front : List Char}
          (h : (closing? tag level rest).map (fun (before, close, after) =>
            (located.gap ++ located.statement.source ++ before, close, after)) =
              some (front, close, after)) : after.length < n := by
        cases later : closing? tag level rest with
        | none => simp [later] at h
        | some result =>
          obtain ⟨inner, last, tail⟩ := result
          simp only [later, Option.map_some, Option.some.injEq, Prod.mk.injEq] at h
          obtain ⟨-, rfl, rfl⟩ := h
          have := ih _ (by omega) later rfl
          omega
      simp only at h
      split at h
      · exact deeper h
      · split at h
        · split at h
          · simp only [Option.some.injEq, Prod.mk.injEq] at h
            rw [← h.2.2, ← hn]
            exact shorter
          · exact deeper h
        · exact deeper h

def opening? (tag : Tag) (text : List Char) : Option (List Char × Statement × List Char) :=
  match found : Statement.first? text with
  | none => none
  | some (located, rest) =>
    have := Statement.first?_rest_lt found
    if located.statement.name = tag.name then some (located.gap, located.statement, rest)
    else
      (opening? tag rest).map fun (before, open_, after) =>
        (located.gap ++ located.statement.source ++ before, open_, after)
termination_by text.length

theorem opening?_after_lt {tag : Tag} {text before after : List Char} {open_ : Statement}
    (h : opening? tag text = some (before, open_, after)) : after.length < text.length := by
  induction hn : text.length using Nat.strongRecOn generalizing text before with
  | ind n ih =>
    rw [opening?] at h
    split at h
    · cases h
    · rename_i located rest found
      have shorter := Statement.first?_rest_lt found
      split at h
      · simp only [Option.some.injEq, Prod.mk.injEq] at h
        rw [← h.2.2, ← hn]
        exact shorter
      · cases later : opening? tag rest with
        | none => simp [later] at h
        | some result =>
          obtain ⟨inner, first, tail⟩ := result
          simp only [later, Option.map_some, Option.some.injEq, Prod.mk.injEq] at h
          obtain ⟨-, rfl, rfl⟩ := h
          have := ih _ (by omega) later rfl
          omega

/-- Replaces the blocks of a tag behind the text written so far, the outermost first, and the blocks
    of each replacement in turn. At most `levels` levels may be replaced. A dash on the outer side of
    a block removes the blanks there. -/
def expandBlocks (tag : Tag) (template : String) (levels : Nat) (written source : List Char) :
    Expanding (List Char) :=
  match opened : opening? tag source with
  | none => pure (written ++ source)
  | some (before, open_, inside) =>
    match levels with
    | 0 => throw ⟨tag.name, template, s!"blocks nested deeper than {maxNesting} levels"⟩
    | levels + 1 =>
      match closed : closing? tag 0 inside with
      | none => throw ⟨tag.name, template, "missing \x7b% " ++ tag.endName ++ " %\x7d"⟩
      | some (body, close, rest) => do
        let written := written ++ before
        let written := if open_.trimBefore then Text.trimEnd written else written
        let expansion ← tag.run ⟨tag.name, open_.arguments, body, template⟩
        let inner ← expandBlocks tag template levels [] expansion
        have : (if close.trimAfter then Text.trimStart rest else rest).length < source.length := by
          have first := opening?_after_lt opened
          have second := closing?_after_lt closed
          have : (Text.trimStart rest).length ≤ rest.length := (List.dropWhile_suffix _).length_le
          split <;> omega
        expandBlocks tag template (levels + 1) (written ++ inner)
          (if close.trimAfter then Text.trimStart rest else rest)
termination_by (levels, source.length)

def expandTag (tag : Tag) (template : String) (source : List Char) : Expanding (List Char) :=
  expandBlocks tag template maxNesting [] source

end TopicWiki.Template
