import TopicWiki.Proofs.Text.FirstOccurrence
import TopicWiki.Proofs.Text.Trim
import TopicWiki.Template.Lexer

namespace TopicWiki.Template

open Text

def regionBehind? : List Char → Option (List Char)
  | '\x7b' :: '#' :: rest => (cut? ['#', '\x7d'] (cutTrimMark rest).2).map Prod.snd
  | '\x7b' :: '%' :: rest =>
    (cutWordTag? "raw" (cutTrimMark rest).2).bind fun (_, inside) =>
      (cutVerbatim? inside).map fun (_, _, _, behind) => behind
  | _ => none

/-- A comment or a verbatim block, from its first brace to its last. -/
def IsRegion (text : List Char) : Prop :=
  regionBehind? text = some []

instance (text : List Char) : Decidable (IsRegion text) :=
  inferInstanceAs (Decidable (_ = _))

/-- Texts that are the same but for some regions, each of them next to its substitute. -/
inductive Swaps : List (List Char × List Char) → List Char → List Char → Prop
  | same (text : List Char) : Swaps [] text text
  | region {pairs : List (List Char × List Char)} {region region' text text' : List Char}
    (before : List Char) (isRegion : IsRegion region) (isRegion' : IsRegion region')
    (later : Swaps pairs text text') :
    Swaps ((region, region') :: pairs) (before ++ (region ++ text)) (before ++ (region' ++ text'))

def Stand : List (List Char) → List Char → Prop
  | [], _ => True
  | region :: regions, text =>
    IsRegion region ∧ ∃ before after, text = before ++ (region ++ after) ∧ Stand regions after

def Braced (text : List Char) : Prop :=
  (∃ back, text = '\x7b' :: back) ∧ ∃ front, text = front ++ ['\x7d']

theorem cutTrimMark_suffix (text : List Char) : (cutTrimMark text).2 <:+ text := by
  unfold cutTrimMark
  split
  · exact List.suffix_cons _ _
  · exact List.suffix_cons _ _
  · exact List.suffix_rfl

theorem cutClose?_ends {text rest : List Char} {mark : TrimMark}
    (found : cutClose? statementClose text = some (mark, rest)) :
    ∃ front, text = front ++ '\x7d' :: rest := by
  obtain ⟨front, split⟩ := cutTrimMark_suffix text
  obtain ⟨rest', start, same⟩ := Option.map_eq_some_iff.mp found
  obtain rfl : rest' = rest := congrArg Prod.snd same
  have behind : (cutTrimMark text).2 = statementClose ++ rest' := isPrefixOf?_eq_some start
  refine ⟨front ++ ['%'], ?_⟩
  rw [← split, behind]
  simp [statementClose]

theorem cutWordTag?_ends {word : String} {text rest : List Char} {mark : TrimMark}
    (found : cutWordTag? word text = some (mark, rest)) :
    ∃ front, text = front ++ '\x7d' :: rest := by
  obtain ⟨inside, start, closed⟩ := Option.bind_eq_some_iff.mp found
  obtain ⟨front, split⟩ := List.dropWhile_suffix isAsciiSpace (l := text)
  obtain ⟨middle, split'⟩ := List.dropWhile_suffix isAsciiSpace (l := inside)
  obtain ⟨back, ends⟩ := cutClose?_ends closed
  refine ⟨front ++ word.toList ++ middle ++ back, ?_⟩
  rw [← split, show text.dropWhile isAsciiSpace = _ from isPrefixOf?_eq_some start, ← split',
    show inside.dropWhile isAsciiSpace = _ from ends]
  simp

theorem cutVerbatim?_ends {text inside rest : List Char} {before after : TrimMark}
    (found : cutVerbatim? text = some (inside, before, after, rest)) :
    ∃ front, text = front ++ '\x7d' :: rest := by
  induction text generalizing inside with
  | nil => cases found
  | cons c text ih =>
    have later (found : (cutVerbatim? text).map (fun (inside, parts) => (c :: inside, parts)) =
        some (inside, before, after, rest)) : ∃ front, c :: text = front ++ '\x7d' :: rest := by
      obtain ⟨⟨inside', parts⟩, found, same⟩ := Option.map_eq_some_iff.mp found
      obtain ⟨-, rfl⟩ := Prod.mk.inj same
      obtain ⟨front, rfl⟩ := ih found
      exact ⟨c :: front, rfl⟩
    rw [cutVerbatim?] at found
    cases opened : statementOpen.isPrefixOf? (c :: text) with
    | none =>
      rw [opened] at found
      exact later found
    | some inner =>
      rw [opened] at found
      simp only at found
      cases word : cutWordTag? "endraw" (cutTrimMark inner).2 with
      | none =>
        rw [word] at found
        exact later found
      | some parts =>
        obtain ⟨mark, tail⟩ := parts
        rw [word] at found
        obtain rfl : tail = rest := congrArg (fun parts => parts.2.2.2) (Option.some.inj found)
        obtain ⟨front, split⟩ := cutTrimMark_suffix inner
        obtain ⟨back, ends⟩ := cutWordTag?_ends word
        refine ⟨statementOpen ++ front ++ back, ?_⟩
        rw [isPrefixOf?_eq_some opened, ← split, ends]
        simp

theorem IsRegion.braced {text : List Char} (isRegion : IsRegion text) : Braced text := by
  unfold IsRegion regionBehind? at isRegion
  split at isRegion
  · rename_i rest
    obtain ⟨⟨inside, behind⟩, found, same⟩ := Option.map_eq_some_iff.mp isRegion
    obtain rfl : behind = [] := same
    obtain ⟨front, split⟩ := cutTrimMark_suffix rest
    refine ⟨⟨_, rfl⟩, '\x7b' :: '#' :: (front ++ inside ++ ['#']), ?_⟩
    rw [← split, cut?_eq_some found]
    simp
  · rename_i rest
    obtain ⟨⟨mark, inside⟩, opened, found⟩ := Option.bind_eq_some_iff.mp isRegion
    obtain ⟨⟨_, _, _, behind⟩, closed, same⟩ := Option.map_eq_some_iff.mp found
    obtain rfl : behind = [] := same
    obtain ⟨front, split⟩ := cutTrimMark_suffix rest
    obtain ⟨middle, split'⟩ := cutWordTag?_ends opened
    obtain ⟨back, ends⟩ := cutVerbatim?_ends closed
    refine ⟨⟨_, rfl⟩, '\x7b' :: '%' :: (front ++ middle ++ '\x7d' :: back), ?_⟩
    rw [← split, split', ends]
    simp
  · cases isRegion

section Braced

variable {middle : List Char} (braced : Braced middle) (before after : List Char)

include braced

theorem Braced.allBlank_append : allBlank (before ++ (middle ++ after)) = false := by
  obtain ⟨⟨back, rfl⟩, -⟩ := braced
  simp [allBlank, show isBlank '\x7b' = false by decide]

theorem Braced.trimStart_append :
    trimStart (before ++ (middle ++ after)) = trimStart before ++ (middle ++ after) := by
  obtain ⟨⟨back, rfl⟩, -⟩ := braced
  rw [Text.trimStart_append]
  split
  · rename_i blank
    have whole := Text.trimStart_append before []
    rw [if_pos blank, List.append_nil] at whole
    rw [whole]
    exact trimStart_of_head (by decide)
  · rfl

theorem Braced.trimEnd_append :
    trimEnd (before ++ (middle ++ after)) = before ++ (middle ++ trimEnd after) := by
  obtain ⟨-, front, rfl⟩ := braced
  rw [← List.append_assoc, Text.trimEnd_append]
  split
  · rename_i blank
    have whole := Text.trimEnd_append [] after
    rw [if_pos blank, List.nil_append] at whole
    rw [whole, ← List.append_assoc, trimEnd_of_last (by decide)]
    simp [trimEnd]
  · rw [List.append_assoc]

end Braced

namespace Swaps

variable {pairs others : List (List Char × List Char)} {text text' : List Char}

theorem stand (swaps : Swaps pairs text text') : Stand (pairs.map Prod.fst) text := by
  induction swaps with
  | same => trivial
  | region before isRegion _ _ ih => exact ⟨isRegion, before, _, rfl, ih⟩

theorem behind (swaps : Swaps pairs text text') (front : List Char) :
    Swaps pairs (front ++ text) (front ++ text') := by
  cases swaps with
  | same => exact .same _
  | region before isRegion isRegion' later =>
    rw [← List.append_assoc, ← List.append_assoc front]
    exact .region _ isRegion isRegion' later

theorem append {back back' : List Char} (first : Swaps pairs text text')
    (second : Swaps others back back') :
    Swaps (pairs ++ others) (text ++ back) (text' ++ back') := by
  induction first with
  | same text => exact second.behind text
  | region before isRegion isRegion' _ ih =>
    simp only [List.cons_append, List.append_assoc]
    exact .region before isRegion isRegion' ih

theorem trimStart (swaps : Swaps pairs text text') :
    Swaps pairs (trimStart text) (trimStart text') := by
  cases swaps with
  | same => exact .same _
  | region before isRegion isRegion' later =>
    rw [isRegion.braced.trimStart_append, isRegion'.braced.trimStart_append]
    exact .region _ isRegion isRegion' later

theorem trimEnd (swaps : Swaps pairs text text') : Swaps pairs (trimEnd text) (trimEnd text') := by
  induction swaps with
  | same => exact .same _
  | region before isRegion isRegion' _ ih =>
    rw [isRegion.braced.trimEnd_append, isRegion'.braced.trimEnd_append]
    exact .region before isRegion isRegion' ih

theorem allBlank_eq (swaps : Swaps pairs text text') : allBlank text = allBlank text' := by
  cases swaps with
  | same => rfl
  | region before isRegion isRegion' later =>
    rw [isRegion.braced.allBlank_append, isRegion'.braced.allBlank_append]

theorem eq_nil_of_allBlank (swaps : Swaps pairs text text') (blank : allBlank text = true) :
    pairs = [] := by
  cases swaps with
  | same => rfl
  | region before isRegion isRegion' later =>
    rw [isRegion.braced.allBlank_append] at blank
    cases blank

end Swaps

end TopicWiki.Template
