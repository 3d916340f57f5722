import TopicWiki.Text.Blank
import TopicWiki.Text.Occurrence

namespace TopicWiki.Template

structure Statement where
  name : String
  arguments : List Char
  trimBefore : Bool
  trimAfter : Bool
  source : List Char
  deriving DecidableEq, Repr

def isNameStart (c : Char) : Bool :=
  c.isAlpha || c == '_'

def isNameChar (c : Char) : Bool :=
  c.isAlphanum || c == '_'

def statementOpen : List Char := ['\x7b', '%']

def statementClose : List Char := ['%', '\x7d']

def cutDash : List Char → Bool × List Char
  | '-' :: rest => (true, rest)
  | text => (false, text)

def cutEndDash (text : List Char) : Bool × List Char :=
  match text.getLast? with
  | some '-' => (true, text.dropLast)
  | _ => (false, text)

/-- Reads a statement at the start of a text: an opening brace and percent sign, an optional dash,
    blanks, a name of ASCII letters, digits and underscores, and the arguments up to the next percent
    sign and brace, a dash before these being a mark of its own. -/
def Statement.read? (text : List Char) : Option (Statement × List Char) :=
  match statementOpen.isPrefixOf? text with
  | none => none
  | some opened =>
    let (trimBefore, opened) := cutDash opened
    let named := Text.trimStart opened
    match named with
    | [] => none
    | c :: _ =>
      if isNameStart c then
        let name := named.takeWhile isNameChar
        match Text.cut? statementClose (named.dropWhile isNameChar) with
        | none => none
        | some (inside, rest) =>
          let (trimAfter, arguments) := cutEndDash inside
          some ({ name := String.ofList name
                  arguments := Text.trim arguments
                  trimBefore
                  trimAfter
                  source := text.take (text.length - rest.length) }, rest)
      else none

theorem cutDash_le (text : List Char) : (cutDash text).2.length ≤ text.length := by
  unfold cutDash
  split <;> simp

theorem Statement.read?_rest_lt {text rest : List Char} {statement : Statement}
    (h : Statement.read? text = some (statement, rest)) : rest.length < text.length := by
  unfold Statement.read? at h
  split at h
  · cases h
  · rename_i opened start
    have first := Text.isPrefixOf?_eq_some start
    have dash := cutDash_le opened
    have blanks : (Text.trimStart (cutDash opened).2).length ≤ (cutDash opened).2.length :=
      (List.dropWhile_suffix _).length_le
    simp only at h
    split at h
    · cases h
    · rename_i c tail namedEq
      split at h
      · split at h
        · cases h
        · rename_i inside after closed
          have past := Text.cut?_length closed
          have names : ((Text.trimStart (cutDash opened).2).dropWhile isNameChar).length ≤
              (Text.trimStart (cutDash opened).2).length := (List.dropWhile_suffix _).length_le
          simp only [Option.some.injEq, Prod.mk.injEq] at h
          rw [first, ← h.2, List.length_append]
          rw [namedEq] at names blanks past
          simp only [statementOpen, statementClose, List.length_cons, List.length_nil] at *
          omega
      · cases h

/-- A statement behind a gap of other text. -/
structure Located where
  gap : List Char
  statement : Statement
  deriving DecidableEq, Repr

def Statement.first? : List Char → Option (Located × List Char)
  | [] => none
  | c :: text =>
    match Statement.read? (c :: text) with
    | some (statement, rest) => some (⟨[], statement⟩, rest)
    | none => (first? text).map fun (located, rest) => ({ located with gap := c :: located.gap }, rest)

theorem Statement.first?_rest_lt {text rest : List Char} {located : Located}
    (h : Statement.first? text = some (located, rest)) : rest.length < text.length := by
  induction text generalizing located with
  | nil => cases h
  | cons c text ih =>
    simp only [Statement.first?] at h
    split at h
    · rename_i statement rest' found
      have := Statement.read?_rest_lt found
      simp_all
    · cases later : Statement.first? text with
      | none => simp [later] at h
      | some result =>
        obtain ⟨front, back⟩ := result
        simp only [later, Option.map_some, Option.some.injEq, Prod.mk.injEq] at h
        obtain ⟨-, rfl⟩ := h
        have := ih later
        simp only [List.length_cons]
        omega

def statements (source : List Char) : List Located :=
  match found : Statement.first? source with
  | none => []
  | some (located, rest) =>
    have := Statement.first?_rest_lt found
    located :: statements rest
termination_by source.length

/-- The places of statements as byte offsets of the UTF-8 form, from `start` on. -/
def offsetsFrom (start : Nat) : List Located → List (Nat × Nat × Statement)
  | [] => []
  | located :: rest =>
    let begins := start + Text.utf8Length located.gap
    let ends := begins + Text.utf8Length located.statement.source
    (begins, ends, located.statement) :: offsetsFrom ends rest

def statementOffsets (source : List Char) : List (Nat × Nat × Statement) :=
  offsetsFrom 0 (statements source)

end TopicWiki.Template
