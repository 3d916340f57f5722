import TopicWiki.Text.Occurrence

namespace TopicWiki.Textile

/-- A text is cut into tags of embedded markup and the runs between them. -/
inductive Segment where
  | run (text : List Char)
  | tag (text : List Char)
  deriving DecidableEq, Repr

def Segment.text : Segment → List Char
  | .run text => text
  | .tag text => text

/-- A tag starts with an angle bracket before an ASCII letter, a slash or an exclamation mark. -/
def startsTag : List Char → Bool
  | '<' :: c :: _ => c.isAlpha || c == '/' || c == '!'
  | _ => false

def cutTag? : List Char → Option (List Char × List Char)
  | [] => none
  | c :: rest =>
    if startsTag (c :: rest) then some ([], c :: rest)
    else (cutTag? rest).map fun (before, tail) => (c :: before, tail)

theorem cutTag?_eq_some {text before tail : List Char} (h : cutTag? text = some (before, tail)) :
    text = before ++ tail := by
  induction text generalizing before with
  | nil => cases h
  | cons c rest ih =>
    simp only [cutTag?] at h
    split at h
    · cases h
      rfl
    · cases found : cutTag? rest with
      | none => simp [found] at h
      | some parts =>
        obtain ⟨front, back⟩ := parts
        simp only [found, Option.map_some, Option.some.injEq, Prod.mk.injEq] at h
        obtain ⟨rfl, rfl⟩ := h
        simp [ih found]

theorem cutTag?_close_lt {text before tail inside rest : List Char}
    (start : cutTag? text = some (before, tail)) (close : Text.cut? ['>'] tail = some (inside, rest)) :
    rest.length < text.length := by
  have shorter := Text.cut?_after_lt close (List.cons_ne_nil _ _)
  have whole := congrArg List.length (cutTag?_eq_some start)
  simp only [List.length_append] at whole
  omega

/-- A tag runs to the next closing bracket; one that never closes is an ordinary run. -/
def segments (text : List Char) : List Segment :=
  match start : cutTag? text with
  | none => [.run text]
  | some (before, tail) =>
    match close : Text.cut? ['>'] tail with
    | none => [.run before, .run tail]
    | some (inside, rest) =>
      have := cutTag?_close_lt start close
      .run before :: .tag (inside ++ ['>']) :: segments rest
termination_by text.length

def mapRuns (f : List Char → List Char) (text : List Char) : List Char :=
  (segments text).flatMap fun
    | .run text => if text.isEmpty then [] else f text
    | .tag text => text

end TopicWiki.Textile
