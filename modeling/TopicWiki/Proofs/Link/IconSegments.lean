import Mathlib.Data.List.Forall2
import TopicWiki.Link.Icon
import TopicWiki.Proofs.Text.Lines
import TopicWiki.Proofs.Text.Trim

namespace TopicWiki.IconStatement

open Text

structure Segment where
  text : String
  trimmed : Trimmed text.toList
  unslashed : '/' ∉ text.toList

structure Parts where
  id : Segment
  description : Option Segment
  classes : List Segment

namespace Parts

/-- A description that is absent leaves its place empty, if there is a class behind it. -/
def segments (parts : Parts) : List String :=
  parts.id.text ::
    match parts.description, parts.classes with
    | none, [] => []
    | description, classes => description.elim "" Segment.text :: classes.map Segment.text

def print (parts : Parts) : String :=
  "/".intercalate parts.segments

def statement (parts : Parts) : IconStatement where
  id := parts.id.text
  description := parts.description.map Segment.text
  className :=
    match parts.classes with
    | [] => none
    | classes => some (" ".intercalate (classes.map Segment.text))

end Parts

def Padded (segment padded : List Char) : Prop :=
  ∃ m n, padded = List.replicate m ' ' ++ segment ++ List.replicate n ' '

/-- A text with spaces added around its segments, and with spaces and slashes at either end. -/
def Respaced (text respaced : List Char) : Prop :=
  ∃ segments padded front back, (∀ segment ∈ segments, '/' ∉ segment) ∧
    text = ['/'].intercalate segments ∧ List.Forall₂ Padded segments padded ∧
    (∀ c ∈ front ++ back, c = ' ' ∨ c = '/') ∧
    respaced = front ++ ['/'].intercalate padded ++ back

def Alike (text text' : List Char) : Prop :=
  ∃ core m n m' n', text = List.replicate m ' ' ++ core ++ List.replicate n ' ' ∧
    text' = List.replicate m' ' ' ++ core ++ List.replicate n' ' '

inductive SegmentsAlike : List Char → List Char → Prop
  | last {text text' : List Char} (whole : '/' ∉ text) (alike : Alike text text') :
    SegmentsAlike text text'
  | more {text text' rest rest' : List Char} (whole : '/' ∉ text) (alike : Alike text text')
    (later : SegmentsAlike rest rest') :
    SegmentsAlike (text ++ '/' :: rest) (text' ++ '/' :: rest')

/-- A text without spaces and slashes at its ends. -/
def stripped (text : List Char) : List Char :=
  dropEndWhile isEdge (text.dropWhile isEdge)

section Alike

variable {text text' rest rest' front back : List Char}

theorem isEdge_iff {c : Char} : isEdge c = true ↔ c = ' ' ∨ c = '/' := by
  simp [isEdge]

theorem dropWhile_spaces (n : Nat) (text : List Char) :
    (List.replicate n ' ' ++ text).dropWhile isEdge = text.dropWhile isEdge := by
  apply List.dropWhile_append_of_pos
  intro c member
  rw [List.eq_of_mem_replicate member]
  rfl

theorem Alike.reverse (alike : Alike text text') : Alike text.reverse text'.reverse := by
  obtain ⟨core, m, n, m', n', rfl, rfl⟩ := alike
  exact ⟨core.reverse, n, m, n', m', by simp, by simp⟩

theorem Alike.not_mem (alike : Alike text text') (whole : '/' ∉ text) : '/' ∉ text' := by
  obtain ⟨core, m, n, m', n', rfl, rfl⟩ := alike
  simp_all

theorem Alike.dropEdge (alike : Alike text text') :
    Alike (text.dropWhile isEdge) (text'.dropWhile isEdge) ∧
      (text.dropWhile isEdge = [] ↔ text'.dropWhile isEdge = []) := by
  obtain ⟨core, m, n, m', n', rfl, rfl⟩ := alike
  have spaces (n : Nat) : (List.replicate n ' ').dropWhile isEdge = [] := by
    simpa using dropWhile_spaces n []
  rw [List.append_assoc, List.append_assoc, dropWhile_spaces, dropWhile_spaces,
    List.dropWhile_append, List.dropWhile_append, spaces, spaces]
  cases edge : core.dropWhile isEdge with
  | nil => exact ⟨⟨[], 0, 0, 0, 0, rfl, rfl⟩, Iff.rfl⟩
  | cons c core => exact ⟨⟨c :: core, 0, n, 0, n', by simp, by simp⟩, by simp⟩

theorem trim_padded (m n : Nat) (core : List Char) :
    trim (List.replicate m ' ' ++ core ++ List.replicate n ' ') = trim core := by
  have blank (n : Nat) : allBlank (List.replicate n ' ') = true := by
    simp [allBlank, isBlank_space]
  have empty : trimStart (List.replicate n ' ') = [] := by
    have dropped := trimStart_append (List.replicate n ' ') []
    rwa [List.append_nil, if_pos (blank n)] at dropped
  rw [trim, List.append_assoc, trimStart_append, if_pos (blank m), trimStart_append]
  split
  · rename_i allBlank
    rw [empty, trim_eq_nil_iff.mpr allBlank]
    rfl
  · rw [trimEnd_append, if_pos (blank n), trim]

theorem Alike.trim (alike : Alike text text') : trim text = trim text' := by
  obtain ⟨core, m, n, m', n', rfl, rfl⟩ := alike
  rw [trim_padded, trim_padded]

theorem SegmentsAlike.mem (alike : SegmentsAlike text text') (slash : '/' ∈ text) :
    '/' ∈ text' := by
  cases alike with
  | last whole alike => exact absurd slash whole
  | more whole alike later => simp

theorem SegmentsAlike.append (alike : SegmentsAlike text text') (whole : '/' ∉ rest)
    (behind : Alike rest rest') : SegmentsAlike (text ++ '/' :: rest) (text' ++ '/' :: rest') := by
  induction alike with
  | last whole' alike => exact .more whole' alike (.last whole behind)
  | more whole' alike _ ih =>
    rw [List.append_assoc, List.append_assoc]
    exact .more whole' alike ih

theorem SegmentsAlike.reverse (alike : SegmentsAlike text text') :
    SegmentsAlike text.reverse text'.reverse := by
  induction alike with
  | last whole alike => exact .last (by simpa using whole) alike.reverse
  | more whole alike _ ih => simpa using ih.append (by simpa using whole) alike.reverse

theorem SegmentsAlike.dropEdge (alike : SegmentsAlike text text') :
    SegmentsAlike (text.dropWhile isEdge) (text'.dropWhile isEdge) := by
  induction alike with
  | @last text text' whole alike =>
    exact .last (fun slash => whole ((List.dropWhile_suffix _).subset slash)) alike.dropEdge.1
  | @more text text' rest rest' whole alike later ih =>
    have whole' : '/' ∉ text.dropWhile isEdge :=
      fun slash => whole ((List.dropWhile_suffix _).subset slash)
    obtain ⟨alike', empty⟩ := alike.dropEdge
    rw [List.dropWhile_append, List.dropWhile_append]
    -- A segment of nothing but spaces goes with the slash behind it, in both texts.
    by_cases edge : text.dropWhile isEdge = []
    · rw [edge, empty.mp edge]
      exact ih
    · have edge' := mt empty.mpr edge
      rw [← List.isEmpty_iff] at edge edge'
      rw [if_neg edge, if_neg edge']
      exact .more whole' alike' later

theorem SegmentsAlike.stripped (alike : SegmentsAlike text text') :
    SegmentsAlike (stripped text) (stripped text') :=
  alike.dropEdge.reverse.dropEdge.reverse

theorem SegmentsAlike.split (alike : SegmentsAlike text text') :
    (splitOnChar '/' text).map Text.trim = (splitOnChar '/' text').map Text.trim := by
  induction alike with
  | last whole alike =>
    rw [splitOnChar_of_absent whole, splitOnChar_of_absent (alike.not_mem whole),
      List.map_singleton, List.map_singleton, alike.trim]
  | more whole alike _ ih =>
    rw [splitOnChar_append, splitOnChar_append, splitOnChar_of_absent whole,
      splitOnChar_of_absent (alike.not_mem whole), List.map_append, List.map_append, ih,
      List.map_singleton, List.map_singleton, alike.trim]

theorem stripped_edges (edges : ∀ c ∈ front ++ back, c = ' ' ∨ c = '/') (text : List Char) :
    stripped (front ++ text ++ back) = stripped text := by
  have edge (c : Char) (member : c ∈ front ++ back) : isEdge c = true :=
    isEdge_iff.mpr (edges c member)
  have frontEdge (c : Char) (member : c ∈ front) := edge c (List.mem_append_left back member)
  have backEdge (c : Char) (member : c ∈ back) := edge c (List.mem_append_right front member)
  have none : back.dropWhile isEdge = [] := by simpa using backEdge
  have backEdge' (c : Char) (member : c ∈ back.reverse) : isEdge c = true :=
    backEdge c (List.mem_reverse.mp member)
  rw [stripped, stripped, List.append_assoc, List.dropWhile_append_of_pos frontEdge,
    List.dropWhile_append, none]
  cases text.dropWhile isEdge with
  | nil => rfl
  | cons c text =>
    change dropEndWhile isEdge (c :: text ++ back) = _
    rw [dropEndWhile, List.reverse_append, List.dropWhile_append_of_pos backEdge', dropEndWhile]

theorem ofChars_congr (slash : '/' ∈ text) (slash' : '/' ∈ text')
    (same : (splitOnChar '/' (stripped text)).map Text.trim =
      (splitOnChar '/' (stripped text')).map Text.trim) : ofChars text = ofChars text' := by
  have slashed : text.contains '/' = true := by simpa using slash
  have slashed' : text'.contains '/' = true := by simpa using slash'
  unfold stripped at same
  simp only [ofChars, slashed, slashed', same, Bool.not_true, Bool.false_eq_true, if_false]

theorem segmentsAlike_intercalate {segments padded : List (List Char)}
    (whole : ∀ segment ∈ segments, '/' ∉ segment) (spaced : List.Forall₂ Padded segments padded) :
    SegmentsAlike (['/'].intercalate segments) (['/'].intercalate padded) := by
  induction spaced with
  | nil => exact .last List.not_mem_nil ⟨[], 0, 0, 0, 0, rfl, rfl⟩
  | @cons segment segment' segments padded here later ih =>
    obtain ⟨m, n, rfl⟩ := here
    have alike : Alike segment (List.replicate m ' ' ++ segment ++ List.replicate n ' ') :=
      ⟨segment, 0, 0, m, n, by simp, rfl⟩
    have first := whole segment List.mem_cons_self
    have rest := ih fun other member => whole other (List.mem_cons_of_mem _ member)
    cases later with
    | nil =>
      rw [List.intercalate_singleton, List.intercalate_singleton]
      exact .last first alike
    | cons here' later =>
      rw [List.intercalate_cons_cons, List.intercalate_cons_cons, List.append_assoc,
        List.append_assoc]
      exact .more first alike rest

theorem ofChars_respaced (slash : '/' ∈ text) (respaced : Respaced text text') :
    ofChars text' = ofChars text := by
  obtain ⟨segments, padded, front, back, whole, rfl, spaced, edges, rfl⟩ := respaced
  have alike := segmentsAlike_intercalate whole spaced
  have slash' : '/' ∈ front ++ ['/'].intercalate padded ++ back :=
    List.mem_append_left back (List.mem_append_right front (alike.mem slash))
  apply ofChars_congr slash' slash
  rw [stripped_edges edges]
  exact alike.stripped.split.symm

end Alike

section Parts

variable {text : List Char}

theorem stripped_eq_self (first : ∀ c ∈ text.head?, isEdge c = false)
    (last : ∀ c ∈ text.getLast?, isEdge c = false) : stripped text = text := by
  have kept : text.dropWhile isEdge = text := by
    cases text with
    | nil => rfl
    | cons c text => exact List.dropWhile_cons_of_neg (by simp [first c rfl])
  rw [stripped, kept]
  rcases List.eq_nil_or_concat text with rfl | ⟨front, c, rfl⟩
  · rfl
  · have solid : isEdge c = false := last c (by simp)
    simp [dropEndWhile, solid]

theorem Segment.edgeless (segment : Segment) {c : Char} (member : c ∈ segment.text.toList)
    (other : c ≠ ' ') : isEdge c = false := by
  rw [Bool.eq_false_iff, ne_eq, isEdge_iff, not_or]
  exact ⟨other, ne_of_mem_of_not_mem member segment.unslashed⟩

theorem Segment.head_solid (segment : Segment) :
    ∀ c ∈ segment.text.toList.head?, isEdge c = false := by
  intro c head
  refine segment.edgeless (List.mem_of_mem_head? head) ?_
  rintro rfl
  exact segment.trimmed.head_ne_space head

theorem Segment.last_solid (segment : Segment) :
    ∀ c ∈ segment.text.toList.getLast?, isEdge c = false := by
  intro c last
  refine segment.edgeless (List.mem_of_getLast? last) ?_
  rintro rfl
  exact segment.trimmed.last_ne_space last

theorem getLast?_intercalate (sep : List Char) {pieces : List (List Char)} {last : List Char}
    (ends : pieces.getLast? = some last) (nonempty : last ≠ []) :
    (sep.intercalate pieces).getLast? = last.getLast? := by
  induction pieces with
  | nil => cases ends
  | cons piece pieces ih =>
    cases pieces with
    | nil =>
      obtain rfl : piece = last := Option.some.inj ends
      rw [List.intercalate_singleton]
    | cons next pieces =>
      rw [List.getLast?_cons_cons] at ends
      rw [List.intercalate_cons_cons, List.getLast?_append, ih ends, Option.or_of_isSome]
      simpa using nonempty

theorem ofChars_described (id last : Segment) {description : List Char} {classes : List (List Char)}
    (kept : ∀ piece ∈ description :: classes, trim piece = piece ∧ '/' ∉ piece)
    (solid : ∀ piece ∈ classes, piece ≠ [])
    (ends : (description :: classes).getLast? = some last.text.toList) :
    ofChars (['/'].intercalate (id.text.toList :: description :: classes)) =
      { id := id.text
        description := (nonBlank? description).map String.ofList
        className :=
          if classes.isEmpty then none
          else some (String.ofList ([' '].intercalate classes)) } := by
  have slash :
      (['/'].intercalate (id.text.toList :: description :: classes)).contains '/' = true := by
    rw [List.intercalate_cons_cons]
    simp
  have strips : stripped (['/'].intercalate (id.text.toList :: description :: classes)) =
      ['/'].intercalate (id.text.toList :: description :: classes) := by
    apply stripped_eq_self
    · rw [List.intercalate_cons_cons, List.append_assoc, List.head?_append_of_ne_nil _ id.trimmed.2]
      exact id.head_solid
    · rw [getLast?_intercalate _ (List.getLast?_cons_cons.trans ends) last.trimmed.2]
      exact last.last_solid
  have whole : ∀ piece ∈ id.text.toList :: description :: classes,
      trim piece = piece ∧ '/' ∉ piece :=
    List.forall_mem_cons.mpr ⟨⟨id.trimmed.1, id.unslashed⟩, kept⟩
  have split : (splitOnChar '/' (['/'].intercalate (id.text.toList :: description :: classes))).map
      trim = id.text.toList :: description :: classes := by
    rw [splitOnChar_intercalate (List.cons_ne_nil _ _) fun piece member => (whole piece member).2]
    exact (List.map_congr_left fun piece member => (whole piece member).1).trans (List.map_id _)
  have filled : classes.filter (fun piece => !piece.isEmpty) = classes := by
    rw [List.filter_eq_self]
    intro piece member
    simpa using solid piece member
  unfold stripped at strips
  simp only [ofChars, slash, strips, split, filled, Bool.not_true, Bool.false_eq_true, if_false,
    String.ofList_toList]

namespace Parts

variable {parts : Parts}

theorem segments_of_described (described : parts.description ≠ none ∨ parts.classes ≠ []) :
    parts.segments = parts.id.text :: parts.description.elim "" Segment.text ::
      parts.classes.map Segment.text := by
  obtain ⟨id, description, classes⟩ := parts
  cases description <;> cases classes <;> simp_all [segments]

theorem exists_last (described : parts.description ≠ none ∨ parts.classes ≠ []) :
    ∃ last : Segment, ((parts.description.elim "" Segment.text).toList ::
      parts.classes.map fun segment => segment.text.toList).getLast? = some last.text.toList := by
  obtain ⟨id, description, classes⟩ := parts
  rcases List.eq_nil_or_concat classes with rfl | ⟨front, last, rfl⟩
  · cases description with
    | none => simp at described
    | some last => exact ⟨last, rfl⟩
  · exact ⟨last, by simp [List.getLast?_cons]⟩

theorem kept_described (parts : Parts) :
    ∀ piece ∈ (parts.description.elim "" Segment.text).toList ::
      parts.classes.map (fun segment => segment.text.toList), trim piece = piece ∧ '/' ∉ piece := by
  rw [List.forall_mem_cons, List.forall_mem_map]
  refine ⟨?_, fun segment _ => ⟨segment.trimmed.1, segment.unslashed⟩⟩
  cases parts.description with
  | none => exact ⟨rfl, List.not_mem_nil⟩
  | some segment => exact ⟨segment.trimmed.1, segment.unslashed⟩

theorem statement_described (parts : Parts) :
    parts.statement =
      { id := parts.id.text
        description :=
          (nonBlank? (parts.description.elim "" Segment.text).toList).map String.ofList
        className :=
          if (parts.classes.map fun segment => segment.text.toList).isEmpty then none
          else some (String.ofList
            ([' '].intercalate (parts.classes.map fun segment => segment.text.toList))) } := by
  have description : parts.description.map Segment.text =
      (nonBlank? (parts.description.elim "" Segment.text).toList).map String.ofList := by
    cases parts.description with
    | none => rfl
    | some segment => simp [segment.trimmed.nonBlank?_eq_self]
  have joined : " ".intercalate (parts.classes.map Segment.text) = String.ofList
      ([' '].intercalate (parts.classes.map fun segment => segment.text.toList)) := by
    rw [← String.toList_inj, String.toList_intercalate, List.map_map]
    exact String.toList_ofList.symm
  rw [statement, description, ← joined]
  cases parts.classes <;> rfl

theorem parse_written (parts : Parts) : parse parts.print = parts.statement := by
  by_cases described : parts.description ≠ none ∨ parts.classes ≠ []
  · obtain ⟨last, ends⟩ := exists_last described
    have solid : ∀ piece ∈ parts.classes.map fun segment => segment.text.toList, piece ≠ [] :=
      List.forall_mem_map.mpr fun segment _ => segment.trimmed.2
    have read := ofChars_described parts.id last (kept_described parts) solid ends
    rw [parse, print, segments_of_described described, String.toList_intercalate, List.map_cons,
      List.map_cons, List.map_map]
    exact read.trans parts.statement_described.symm
  · obtain ⟨absent, none⟩ := not_or.mp described
    obtain ⟨id, description, classes⟩ := parts
    obtain rfl : description = .none := not_not.mp absent
    obtain rfl : classes = [] := not_not.mp none
    have slash : id.text.toList.contains '/' = false := by simpa using id.unslashed
    simp only [parse, ofChars, print, segments, String.intercalate_singleton, slash, statement,
      String.ofList_toList, Option.map_none, Bool.not_false, if_true]

end Parts

end Parts

/-- Each segment of an icon statement keeps its role: the id, the description and the classes are
    read back as they were written, and spaces around the segments, or spaces and slashes at the
    ends, change nothing if there is a slash. -/
theorem segments_keep_roles (parts : Parts) (input respaced : String) :
    parse parts.print = parts.statement ∧
      ('/' ∈ input.toList → Respaced input.toList respaced.toList →
        parse respaced = parse input) :=
  ⟨parts.parse_written, ofChars_respaced⟩

theorem segments_keep_roles_around_absent :
    '/' ∈ "star//big red/gold".toList ∧
      Respaced "star//big red/gold".toList "/ star / /  big red/gold //".toList ∧
      parse "/ star / /  big red/gold //" = ⟨"star", none, some "big red gold"⟩ := by
  let parts : Parts :=
    { id := ⟨"star", by decide, by decide⟩
      description := none
      classes := [⟨"big red", by decide, by decide⟩, ⟨"gold", by decide, by decide⟩] }
  have slash : '/' ∈ "star//big red/gold".toList := by decide
  have respaced :
      Respaced "star//big red/gold".toList "/ star / /  big red/gold //".toList := by
    refine ⟨["star".toList, [], "big red".toList, "gold".toList],
      [" star ".toList, " ".toList, "  big red".toList, "gold ".toList], ['/'], ['/', '/'],
      by decide, by decide, ?_, by simp, by decide⟩
    exact .cons ⟨1, 1, by decide⟩ (.cons ⟨1, 0, by decide⟩
      (.cons ⟨2, 0, by decide⟩ (.cons ⟨0, 1, by decide⟩ .nil)))
  obtain ⟨read, same⟩ :=
    segments_keep_roles parts "star//big red/gold" "/ star / /  big red/gold //"
  exact ⟨slash, respaced, (same slash respaced).trans read⟩

end TopicWiki.IconStatement
