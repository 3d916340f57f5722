namespace TopicWiki.Text

def cut? (pattern : List Char) : List Char → Option (List Char × List Char)
  | [] => if pattern.isEmpty then some ([], []) else none
  | c :: rest =>
    match pattern.isPrefixOf? (c :: rest) with
    | some after => some ([], after)
    | none => (cut? pattern rest).map fun (before, after) => (c :: before, after)

theorem isPrefixOf?_eq_some {pattern text after : List Char}
    (h : pattern.isPrefixOf? text = some after) : text = pattern ++ after := by
  induction pattern generalizing text with
  | nil => exact Option.some.inj h
  | cons p pattern ih =>
    cases text with
    | nil => cases h
    | cons c text =>
      change (if p == c then pattern.isPrefixOf? text else none) = some after at h
      split at h
      · rename_i same
        rw [ih h, eq_of_beq same]
        rfl
      · cases h

theorem isPrefixOf?_append (pattern after : List Char) :
    pattern.isPrefixOf? (pattern ++ after) = some after := by
  induction pattern with
  | nil => rfl
  | cons p pattern ih =>
    change (if p == p then pattern.isPrefixOf? (pattern ++ after) else none) = some after
    rw [if_pos (beq_self_eq_true p), ih]

theorem cut?_eq_some {pattern text before after : List Char}
    (h : cut? pattern text = some (before, after)) : text = before ++ pattern ++ after := by
  induction text generalizing before with
  | nil =>
    simp only [cut?] at h
    split at h
    · rename_i empty
      cases h
      simp_all
    · cases h
  | cons c rest ih =>
    simp only [cut?] at h
    split at h
    · rename_i here
      cases h
      simpa using isPrefixOf?_eq_some here
    · cases found : cut? pattern rest with
      | none => simp [found] at h
      | some parts =>
        obtain ⟨front, back⟩ := parts
        simp only [found, Option.map_some, Option.some.injEq, Prod.mk.injEq] at h
        obtain ⟨rfl, rfl⟩ := h
        simp [ih found]

theorem cut?_length {pattern text before after : List Char}
    (h : cut? pattern text = some (before, after)) :
    before.length + pattern.length + after.length = text.length := by
  rw [cut?_eq_some h]
  simp [Nat.add_assoc]

theorem cut?_after_lt {pattern text before after : List Char}
    (h : cut? pattern text = some (before, after)) (nonempty : pattern ≠ []) :
    after.length < text.length := by
  have whole := cut?_length h
  have := List.length_pos_iff.mpr nonempty
  omega

/-- Replaces every occurrence of a pattern, from left to right and without overlap. An empty
    pattern occurs before each character and at the end. -/
def replaceAll (pattern replacement text : List Char) : List Char :=
  if nonempty : pattern = [] then
    replacement ++ text.flatMap fun c => c :: replacement
  else
    match found : cut? pattern text with
    | none => text
    | some (before, after) =>
      have := cut?_after_lt found nonempty
      before ++ replacement ++ replaceAll pattern replacement after
termination_by text.length

def splitOnChar (sep : Char) : List Char → List (List Char)
  | [] => [[]]
  | c :: rest =>
    if c = sep then [] :: splitOnChar sep rest
    else
      match splitOnChar sep rest with
      | [] => [[c]]
      | piece :: pieces => (c :: piece) :: pieces

def contains (pattern text : List Char) : Bool :=
  (cut? pattern text).isSome

def utf8Length (text : List Char) : Nat :=
  text.foldr (fun c length => c.utf8Size + length) 0

end TopicWiki.Text

namespace String

def replaceEach (s pattern replacement : String) : String :=
  String.ofList (TopicWiki.Text.replaceAll pattern.toList replacement.toList s.toList)

end String
