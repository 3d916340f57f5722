import Mathlib.Data.List.Basic
import Mathlib.Data.List.Sort
import TopicWiki.Link.Statement
import TopicWiki.Proofs.Text.FirstOccurrence

namespace TopicWiki

namespace LinkOption

def all : List LinkOption := [.text, .description, .className]

theorem mem_all (option : LinkOption) : option ∈ all := by
  cases option <;> decide

theorem delimiter_injective {option other : LinkOption}
    (same : option.delimiter = other.delimiter) : option = other := by
  cases option <;> cases other <;> first | rfl | cases same

@[simp] theorem delimiter_length (option : LinkOption) : option.delimiter.length = 2 := by
  cases option <;> rfl

theorem delimiter_ne_nil (option : LinkOption) : option.delimiter ≠ [] := by
  cases option <;> exact List.cons_ne_nil _ _

theorem exists_delimiter (option : LinkOption) : ∃ mark, option.delimiter = [mark, '='] := by
  cases option <;> exact ⟨_, rfl⟩

end LinkOption

namespace LinkStatement

open Text

/-- Reads a text from its front to its end, and takes each delimiter of the open options where it
    meets it first: the text before the first one, and the text behind each one up to the next. -/
def scan (remaining : List LinkOption) : List Char → List Char × List (LinkOption × List Char)
  | first :: second :: rest =>
    match remaining.find? fun option => option.delimiter = [first, second] with
    | some option =>
      let (value, later) := scan (remaining.erase option) rest
      ([], (option, value) :: later)
    | none =>
      let (before, later) := scan remaining (second :: rest)
      (first :: before, later)
  | short => (short, [])

def valueOf (entries : List (LinkOption × List Char)) (option : LinkOption) : Option String :=
  (entries.find? fun entry => entry.1 = option).bind fun entry =>
    (nonBlank? entry.2).map String.ofList

def ofScan (asObject : Bool) (parts : List Char × List (LinkOption × List Char)) : LinkStatement :=
  { asObject
    target := .ofPath parts.1
    text := valueOf parts.2 .text
    description := valueOf parts.2 .description
    className := valueOf parts.2 .className }

/-- The statement that is read in strict order. -/
def scanned (input : String) : LinkStatement :=
  let (asObject, body) := cutSigil input.toList
  ofScan asObject (scan LinkOption.all body)

theorem valueOf_cons (option other : LinkOption) (value : List Char)
    (entries : List (LinkOption × List Char)) :
    valueOf ((option, value) :: entries) other =
      if option = other then (nonBlank? value).map String.ofList else valueOf entries other := by
  rw [valueOf, List.find?_cons]
  split
  · next same => rw [if_pos (of_decide_eq_true same)]; rfl
  · next different => rw [if_neg (of_decide_eq_false different)]; rfl

theorem valueOf_eq_none {entries : List (LinkOption × List Char)} {option : LinkOption}
    (absent : option ∉ entries.map Prod.fst) : valueOf entries option = none := by
  rw [valueOf, List.find?_eq_none.mpr]
  · rfl
  · intro entry member same
    obtain rfl := of_decide_eq_true same
    exact absent (List.mem_map_of_mem member)

def firstPlace? (option : LinkOption) (text : List Char) : Option Nat :=
  (cut? option.delimiter text).map fun parts => parts.1.length

section Places

theorem firstPlace?_eq_zero_iff {option : LinkOption} {text : List Char} :
    firstPlace? option text = some 0 ↔ option.delimiter <+: text := by
  constructor
  · intro found
    obtain ⟨⟨before, after⟩, cut, empty⟩ := Option.map_eq_some_iff.mp found
    obtain rfl : before = [] := List.eq_nil_of_length_eq_zero empty
    exact ⟨after, (cut?_eq_some cut).symm⟩
  · rintro ⟨after, rfl⟩
    have first : ¬ option.delimiter <:+: [] ++ option.delimiter.dropLast := by
      intro inside
      have bound := inside.length_le
      simp at bound
    have cut := cut?_of_not_early option.delimiter_ne_nil after first
    rw [List.nil_append] at cut
    rw [firstPlace?, cut]
    rfl

theorem firstPlace?_cons {option : LinkOption} {c : Char} {rest : List Char}
    (elsewhere : ¬ option.delimiter <+: c :: rest) :
    firstPlace? option (c :: rest) = (firstPlace? option rest).map (· + 1) := by
  rw [firstPlace?, firstPlace?, cut?, isPrefixOf?_eq_none_iff.mpr elsewhere]
  simp [Function.comp_def]

theorem firstPlace?_behind {option other : LinkOption} {rest : List Char}
    (different : other ≠ option) (clear : ¬ other.delimiter <+: '=' :: rest) :
    firstPlace? other (option.delimiter ++ rest) = (firstPlace? other rest).map (· + 2) := by
  obtain ⟨mark, form⟩ := option.exists_delimiter
  have elsewhere : ¬ other.delimiter <+: option.delimiter ++ rest := by
    intro start
    apply different
    apply LinkOption.delimiter_injective
    exact (List.prefix_of_prefix_length_le start ⟨rest, rfl⟩ (by simp)).eq_of_length (by simp)
  simp only [form, List.cons_append, List.nil_append] at elsewhere ⊢
  rw [firstPlace?_cons elsewhere, firstPlace?_cons clear]
  simp [Function.comp_def]

theorem firstPlace?_second {rest : List Char} {option : LinkOption}
    (overlapped : LinkOption.text.delimiter <+: '=' :: rest) (different : option ≠ .text) :
    firstPlace? .text (option.delimiter ++ rest) = some 1 := by
  obtain ⟨mark, form⟩ := option.exists_delimiter
  have elsewhere : ¬ LinkOption.text.delimiter <+: option.delimiter ++ rest := by
    intro start
    apply different
    apply LinkOption.delimiter_injective
    exact (List.prefix_of_prefix_length_le ⟨rest, rfl⟩ start (by simp)).eq_of_length (by simp)
  simp only [form, List.cons_append, List.nil_append] at elsewhere ⊢
  rw [firstPlace?_cons elsewhere, firstPlace?_eq_zero_iff.mpr overlapped]
  rfl

theorem eq_text_of_second {option : LinkOption} {rest : List Char}
    (start : option.delimiter <+: '=' :: rest) : option = .text := by
  cases option <;> simp_all [LinkOption.delimiter]

theorem option_eq_of_firstPlace? {option other : LinkOption} {text : List Char} {place : Nat}
    (found : firstPlace? option text = some place) (found' : firstPlace? other text = some place) :
    option = other := by
  obtain ⟨⟨before, after⟩, cut, length⟩ := Option.map_eq_some_iff.mp found
  obtain ⟨⟨before', after'⟩, cut', length'⟩ := Option.map_eq_some_iff.mp found'
  have same := (cut?_eq_some cut).symm.trans (cut?_eq_some cut')
  rw [List.append_assoc, List.append_assoc] at same
  have behind := (List.append_inj same (length.trans length'.symm)).2
  exact LinkOption.delimiter_injective (List.append_inj behind (by simp)).1

end Places

section Scan

theorem find?_eq_none_iff {remaining : List LinkOption} {first second : Char} {rest : List Char} :
    (remaining.find? fun option => option.delimiter = [first, second]) = none ↔
      ∀ option ∈ remaining, ¬ option.delimiter <+: first :: second :: rest := by
  rw [List.find?_eq_none]
  refine forall₂_congr fun option _ => ?_
  obtain ⟨mark, form⟩ := option.exists_delimiter
  rw [form, decide_eq_true_eq, List.cons_prefix_cons, List.cons_prefix_cons, List.cons.injEq,
    List.cons.injEq]
  simp

theorem scan_cons {remaining : List LinkOption} {c : Char} {rest : List Char}
    (nothing : ∀ option ∈ remaining, ¬ option.delimiter <+: c :: rest) :
    scan remaining (c :: rest) = (c :: (scan remaining rest).1, (scan remaining rest).2) := by
  cases rest with
  | nil => rfl
  | cons d rest => rw [scan, find?_eq_none_iff.mpr nothing]

theorem scan_delimiter {remaining : List LinkOption} {option : LinkOption} {rest : List Char}
    (here : option ∈ remaining) :
    scan remaining (option.delimiter ++ rest) =
      ([], (option, (scan (remaining.erase option) rest).1) ::
        (scan (remaining.erase option) rest).2) := by
  obtain ⟨mark, form⟩ := option.exists_delimiter
  rw [form, List.cons_append, List.cons_append, List.nil_append, scan]
  cases found : remaining.find? fun option => option.delimiter = [mark, '='] with
  | none =>
    have opens : option.delimiter <+: mark :: '=' :: rest := form ▸ ⟨rest, rfl⟩
    exact absurd opens (find?_eq_none_iff.mp found option here)
  | some other =>
    have same : other.delimiter = [mark, '='] := by simpa using List.find?_some found
    obtain rfl : other = option := LinkOption.delimiter_injective (same.trans form.symm)
    rfl

/-- A text is read by single characters and whole delimiters, and each delimiter only once. -/
@[elab_as_elim]
theorem scanInduction {motive : List LinkOption → List Char → Prop}
    (nil : ∀ remaining, motive remaining [])
    (character : ∀ remaining c rest, (∀ option ∈ remaining, ¬ option.delimiter <+: c :: rest) →
      motive remaining rest → motive remaining (c :: rest))
    (delimiter : ∀ remaining option rest, option ∈ remaining →
      motive (remaining.erase option) rest → motive remaining (option.delimiter ++ rest))
    (remaining : List LinkOption) (text : List Char) : motive remaining text := by
  induction size : text.length using Nat.strongRecOn generalizing remaining text with
  | _ size ih =>
    cases text with
    | nil => exact nil remaining
    | cons c rest =>
      by_cases nothing : ∀ option ∈ remaining, ¬ option.delimiter <+: c :: rest
      · exact character remaining c rest nothing (ih _ (by simp [← size]) remaining rest rfl)
      · simp only [not_forall, not_not] at nothing
        obtain ⟨option, here, after, same⟩ := nothing
        rw [← same] at size ⊢
        refine delimiter remaining option after here (ih _ ?_ _ after rfl)
        simp only [List.length_append, LinkOption.delimiter_length] at size
        omega

theorem scan_source (remaining : List LinkOption) (text : List Char) :
    text = (scan remaining text).1 ++
      (scan remaining text).2.flatMap fun (option, value) => option.delimiter ++ value := by
  induction remaining, text using scanInduction with
  | nil remaining => rfl
  | character remaining c rest nothing ih =>
    rw [scan_cons nothing, List.cons_append, ← ih]
  | delimiter remaining option rest here ih =>
    rw [scan_delimiter here, List.nil_append, List.flatMap_cons, List.append_assoc, ← ih]

theorem scan_options (remaining : List LinkOption) (text : List Char) :
    ((scan remaining text).2.map Prod.fst).Subperm remaining := by
  induction remaining, text using scanInduction with
  | nil remaining => exact List.nil_subperm
  | character remaining c rest nothing ih =>
    rw [scan_cons nothing]
    exact ih
  | delimiter remaining option rest here ih =>
    rw [scan_delimiter here, List.map_cons]
    exact (List.subperm_cons option).mpr ih |>.trans (List.perm_cons_erase here).symm.subperm

theorem scan_erase {remaining : List LinkOption} {text : List Char} {option : LinkOption}
    (untaken : option ∉ (scan remaining text).2.map Prod.fst) :
    scan (remaining.erase option) text = scan remaining text := by
  induction remaining, text using scanInduction with
  | nil remaining => rfl
  | character remaining c rest nothing ih =>
    rw [scan_cons nothing] at untaken ⊢
    rw [scan_cons fun other member => nothing other (List.mem_of_mem_erase member), ih untaken]
  | delimiter remaining other rest here ih =>
    rw [scan_delimiter here, List.map_cons, List.mem_cons, not_or] at untaken
    rw [scan_delimiter here, scan_delimiter ((List.mem_erase_of_ne (Ne.symm untaken.1)).mpr here),
      List.erase_comm, ih untaken.2]

theorem scan_front_le {remaining : List LinkOption} {text : List Char} {option : LinkOption}
    {place : Nat} (member : option ∈ remaining) (found : firstPlace? option text = some place) :
    (scan remaining text).1.length ≤ place := by
  induction remaining, text using scanInduction generalizing place with
  | nil remaining => exact Nat.zero_le _
  | character remaining c rest nothing ih =>
    rw [firstPlace?_cons (nothing option member)] at found
    obtain ⟨before, here, rfl⟩ := Option.map_eq_some_iff.mp found
    rw [scan_cons nothing]
    exact Nat.succ_le_succ (ih member here)
  | delimiter remaining option rest here ih =>
    rw [scan_delimiter here]
    exact Nat.zero_le _

theorem scan_first {remaining : List LinkOption} {text value : List Char} {option : LinkOption}
    {later : List (LinkOption × List Char)}
    (entries : (scan remaining text).2 = (option, value) :: later) :
    option ∈ remaining ∧ firstPlace? option text = some (scan remaining text).1.length := by
  induction remaining, text using scanInduction with
  | nil remaining => cases entries
  | character remaining c rest nothing ih =>
    rw [scan_cons nothing] at entries ⊢
    obtain ⟨member, found⟩ := ih entries
    rw [firstPlace?_cons (nothing option member), found]
    exact ⟨member, rfl⟩
  | delimiter remaining other rest here ih =>
    rw [scan_delimiter here] at entries ⊢
    obtain rfl : other = option := congrArg Prod.fst (List.cons.inj entries).1
    exact ⟨here, firstPlace?_eq_zero_iff.mpr ⟨rest, rfl⟩⟩

theorem scan_options_nodup {remaining : List LinkOption} (distinct : remaining.Nodup)
    (text : List Char) : ((scan remaining text).2.map Prod.fst).Nodup := by
  obtain ⟨options, same, inside⟩ := scan_options remaining text
  exact same.nodup_iff.mp (distinct.sublist inside)

theorem scan_front_isPrefix (remaining : List LinkOption) (text : List Char) :
    (scan remaining text).1 <+: text :=
  ⟨_, (scan_source remaining text).symm⟩

end Scan

end LinkStatement

end TopicWiki
