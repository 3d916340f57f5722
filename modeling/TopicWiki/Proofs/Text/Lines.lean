import Mathlib.Data.List.TakeWhile
import TopicWiki.Proofs.Text.FirstOccurrence
import TopicWiki.Proofs.Text.Replacement
import TopicWiki.Text.Lines

namespace TopicWiki.Text

def unifyBreaks (text : List Char) : List Char :=
  replaceAll ['\r', '\n'] ['\n'] text

theorem unifyBreaks_nil : unifyBreaks [] = [] :=
  replaceAll_nil (by simp) _

theorem unifyBreaks_break (text : List Char) :
    unifyBreaks ('\r' :: '\n' :: text) = '\n' :: unifyBreaks text := by
  have nonempty : ['\r', '\n'] ≠ [] := by simp
  exact replaceAll_append_pattern nonempty ['\n'] text

theorem unifyBreaks_cons {c : Char} {text : List Char}
    (unbroken : c = '\r' → text.head? ≠ some '\n') :
    unifyBreaks (c :: text) = c :: unifyBreaks text := by
  refine replaceAll_cons (by simp) (isPrefixOf?_eq_none_iff.mpr ?_) _
  rintro ⟨after, here⟩
  obtain ⟨rfl, rfl⟩ := List.cons_eq_cons.mp here
  exact unbroken rfl rfl

theorem unifyBreaks_append : (front back : List Char) →
    (front.getLast? = some '\r' → back.head? ≠ some '\n') →
    unifyBreaks (front ++ back) = unifyBreaks front ++ unifyBreaks back
  | [], back, _ => by rw [unifyBreaks_nil, List.nil_append, List.nil_append]
  | [c], back, apart => by
    have alone : unifyBreaks [c] = [c] := by
      rw [unifyBreaks_cons (by simp), unifyBreaks_nil]
    rw [alone, List.singleton_append, unifyBreaks_cons, List.singleton_append]
    rintro rfl
    exact apart rfl
  | c :: d :: front, back, apart => by
    have apart' : (d :: front).getLast? = some '\r' → back.head? ≠ some '\n' := by
      rwa [List.getLast?_cons_cons] at apart
    by_cases broken : c = '\r' ∧ d = '\n'
    · obtain ⟨rfl, rfl⟩ := broken
      have behind : front.getLast? = some '\r' → back.head? ≠ some '\n' := by
        cases front with
        | nil => simp
        | cons e front => rwa [List.getLast?_cons_cons] at apart'
      rw [List.cons_append, List.cons_append, unifyBreaks_break, unifyBreaks_break,
        unifyBreaks_append front back behind, List.cons_append]
    · have unbroken : ∀ text : List Char, c = '\r' → (d :: text).head? ≠ some '\n' := by
        intro _ back same
        exact broken ⟨back, Option.some.inj same⟩
      rw [List.cons_append, List.cons_append, unifyBreaks_cons (unbroken _), ← List.cons_append,
        unifyBreaks_append (d :: front) back apart', unifyBreaks_cons (unbroken _),
        List.cons_append]

theorem unifyBreaks_of_unbroken {text : List Char} (line : '\n' ∉ text) :
    unifyBreaks text = text := by
  induction text with
  | nil => exact unifyBreaks_nil
  | cons c text ih =>
    rw [List.mem_cons, not_or] at line
    rw [unifyBreaks_cons, ih line.2]
    intro _ same
    exact line.2 (List.mem_of_mem_head? same)

theorem mem_unifyBreaks : (text : List Char) → (c : Char) → c ≠ '\r' →
    (c ∈ unifyBreaks text ↔ c ∈ text)
  | [], c, _ => by rw [unifyBreaks_nil]
  | [d], c, _ => by rw [unifyBreaks_cons (by simp), unifyBreaks_nil]
  | d :: e :: text, c, other => by
    by_cases broken : d = '\r' ∧ e = '\n'
    · obtain ⟨rfl, rfl⟩ := broken
      rw [unifyBreaks_break, List.mem_cons, List.mem_cons, List.mem_cons,
        mem_unifyBreaks text c other]
      simp [other]
    · have unbroken : d = '\r' → (e :: text).head? ≠ some '\n' := by
        intro back same
        exact broken ⟨back, Option.some.inj same⟩
      rw [unifyBreaks_cons unbroken, List.mem_cons, mem_unifyBreaks (e :: text) c other,
        List.mem_cons (a := c) (b := d)]

theorem subset_unifyBreaks (text : List Char) : unifyBreaks text ⊆ text := by
  intro c member
  rcases mem_of_mem_replaceAll member with inside | broken
  · exact inside
  · obtain rfl := List.mem_singleton.mp broken
    exact (mem_unifyBreaks text '\n' (by decide)).mp member

theorem getLast?_unifyBreaks : (text : List Char) →
    (unifyBreaks text).getLast? = text.getLast?
  | [] => by rw [unifyBreaks_nil]
  | [c] => by rw [unifyBreaks_cons (by simp), unifyBreaks_nil]
  | c :: d :: text => by
    by_cases broken : c = '\r' ∧ d = '\n'
    · obtain ⟨rfl, rfl⟩ := broken
      rw [unifyBreaks_break, List.getLast?_cons, getLast?_unifyBreaks text, List.getLast?_cons_cons,
        List.getLast?_cons]
    · have unbroken : c = '\r' → (d :: text).head? ≠ some '\n' := by
        intro back same
        exact broken ⟨back, Option.some.inj same⟩
      rw [unifyBreaks_cons unbroken, List.getLast?_cons, getLast?_unifyBreaks (d :: text),
        List.getLast?_cons_cons, List.getLast?_cons]
      rfl

theorem splitOnChar_ne_nil (sep : Char) (text : List Char) : splitOnChar sep text ≠ [] := by
  cases text with
  | nil => simp [splitOnChar]
  | cons c text =>
    rw [splitOnChar]
    split
    · simp
    · split <;> simp

theorem splitOnChar_append (sep : Char) (front back : List Char) :
    splitOnChar sep (front ++ sep :: back) = splitOnChar sep front ++ splitOnChar sep back := by
  induction front with
  | nil => simp [splitOnChar]
  | cons c front ih =>
    rw [List.cons_append, splitOnChar, splitOnChar, ih]
    split
    · rfl
    · cases pieces : splitOnChar sep front with
      | nil => exact absurd pieces (splitOnChar_ne_nil sep front)
      | cons piece pieces => rfl

theorem splitOnChar_of_absent {sep : Char} {text : List Char} (absent : sep ∉ text) :
    splitOnChar sep text = [text] := by
  induction text with
  | nil => rfl
  | cons c text ih =>
    rw [List.mem_cons, not_or] at absent
    rw [splitOnChar, if_neg (Ne.symm absent.1), ih absent.2]

theorem splitOnChar_intercalate {sep : Char} {pieces : List (List Char)} (nonempty : pieces ≠ [])
    (absent : ∀ piece ∈ pieces, sep ∉ piece) :
    splitOnChar sep ([sep].intercalate pieces) = pieces := by
  induction pieces with
  | nil => contradiction
  | cons piece pieces ih =>
    have first := splitOnChar_of_absent (absent piece List.mem_cons_self)
    cases pieces with
    | nil => rw [List.intercalate_singleton, first]
    | cons next pieces =>
      have later := ih (List.cons_ne_nil next pieces)
        fun other member => absent other (List.mem_cons_of_mem piece member)
      rw [List.intercalate_cons_cons, List.append_assoc, List.singleton_append,
        splitOnChar_append, first, later, List.singleton_append]

theorem exists_splitOnChar_last (sep : Char) (text : List Char) :
    ∃ front pieces last, text = front ++ last ∧ splitOnChar sep text = pieces ++ [last] := by
  have parted : sep ∉ text ∨ ∃ front last, text = front ++ sep :: last ∧ sep ∉ last := by
    induction text with
    | nil => exact .inl List.not_mem_nil
    | cons c text ih =>
      rcases ih with absent | ⟨front, last, rfl, absent⟩
      · by_cases same : c = sep
        · exact .inr ⟨[], text, by rw [same, List.nil_append], absent⟩
        · exact .inl fun member => (List.mem_cons.mp member).elim (fun h => same h.symm) absent
      · exact .inr ⟨c :: front, last, rfl, absent⟩
  rcases parted with absent | ⟨front, last, rfl, absent⟩
  · exact ⟨[], [], text, rfl, splitOnChar_of_absent absent⟩
  · refine ⟨front ++ [sep], splitOnChar sep front, last, by simp, ?_⟩
    rw [splitOnChar_append, splitOnChar_of_absent absent]

theorem lines_of_split {text last : List Char} {pieces : List (List Char)}
    (cut : splitOnChar '\n' text = pieces ++ [last]) :
    lines text = pieces.map dropReturn ++ if last = [] then [] else [last] := by
  cases text with
  | nil =>
    have alone : [[]] = pieces ++ [last] := cut
    obtain ⟨rfl, rfl⟩ : pieces = [] ∧ last = [] := by
      rcases pieces with _ | ⟨piece, pieces⟩ <;> simp_all
    rfl
  | cons c text =>
    rw [lines, cut]
    cases last with
    | nil => simp
    | cons d last => simp

theorem lines_append (front back : List Char) :
    lines (front ++ '\n' :: back) = (splitOnChar '\n' front).map dropReturn ++ lines back := by
  obtain ⟨-, pieces, last, -, cut⟩ := exists_splitOnChar_last '\n' back
  have whole : splitOnChar '\n' (front ++ '\n' :: back) =
      (splitOnChar '\n' front ++ pieces) ++ [last] := by
    rw [splitOnChar_append, cut, List.append_assoc]
  rw [lines_of_split whole, lines_of_split cut, List.map_append, List.append_assoc]

theorem dropReturn_concat (line : List Char) : dropReturn (line ++ ['\r']) = line := by
  simp [dropReturn]

theorem dropReturn_of_unreturned {line : List Char} (unreturned : line.getLast? ≠ some '\r') :
    dropReturn line = line := by
  unfold dropReturn
  split
  · contradiction
  · rfl

theorem dropReturn_isPrefix (line : List Char) : dropReturn line <+: line := by
  unfold dropReturn
  split
  · exact List.dropLast_prefix line
  · exact List.prefix_rfl

theorem allBlank_dropReturn {line : List Char} (blank : allBlank line = true) :
    allBlank (dropReturn line) = true := by
  rw [allBlank, List.all_eq_true] at blank ⊢
  exact fun c member => blank c ((dropReturn_isPrefix line).subset member)

theorem unifyBreaks_line {line : List Char} (unbroken : '\n' ∉ line) (text : List Char) :
    unifyBreaks (line ++ '\n' :: text) = dropReturn line ++ '\n' :: unifyBreaks text := by
  by_cases returned : line.getLast? = some '\r'
  · obtain ⟨front, rfl⟩ := List.getLast?_eq_some_iff.mp returned
    rw [List.mem_append, not_or] at unbroken
    rw [List.append_assoc, List.singleton_append, unifyBreaks_append _ _ (by simp),
      unifyBreaks_break, unifyBreaks_of_unbroken unbroken.1, dropReturn_concat]
  · rw [unifyBreaks_append _ _ fun h => absurd h returned, unifyBreaks_cons (by simp),
      unifyBreaks_of_unbroken unbroken, dropReturn_of_unreturned returned]

theorem mem_splitOnChar {sep c : Char} {text : List Char} (member : c ∈ text) (other : c ≠ sep) :
    ∃ piece ∈ splitOnChar sep text, c ∈ piece := by
  obtain ⟨front, back, rfl⟩ := List.append_of_mem member
  induction front with
  | nil =>
    rw [List.nil_append, splitOnChar, if_neg other]
    cases splitOnChar sep back <;> simp
  | cons d front ih =>
    obtain ⟨piece, found, inside⟩ := ih (by simp)
    rw [List.cons_append, splitOnChar]
    split
    · exact ⟨piece, List.mem_cons_of_mem _ found, inside⟩
    · cases pieces : splitOnChar sep (front ++ c :: back) with
      | nil =>
        rw [pieces] at found
        cases found
      | cons first pieces =>
        rw [pieces] at found
        rcases List.mem_cons.mp found with rfl | found
        · exact ⟨d :: piece, List.mem_cons_self, List.mem_cons_of_mem _ inside⟩
        · exact ⟨piece, List.mem_cons_of_mem _ found, inside⟩

theorem subset_of_mem_splitOnChar {sep : Char} {text piece : List Char}
    (member : piece ∈ splitOnChar sep text) : piece ⊆ text := by
  induction text generalizing piece with
  | nil =>
    obtain rfl := List.mem_singleton.mp member
    exact List.Subset.refl _
  | cons c text ih =>
    have later (other : List Char) (found : other ∈ splitOnChar sep text) : other ⊆ c :: text :=
      List.subset_cons_of_subset c (ih found)
    rw [splitOnChar] at member
    split at member
    · rcases List.mem_cons.mp member with rfl | found
      · exact List.nil_subset _
      · exact later piece found
    · cases pieces : splitOnChar sep text with
      | nil => exact absurd pieces (splitOnChar_ne_nil sep text)
      | cons first pieces =>
        rw [pieces] at member later
        rcases List.mem_cons.mp member with rfl | found
        · exact List.cons_subset_cons c (ih (pieces ▸ List.mem_cons_self))
        · exact later piece (List.mem_cons_of_mem _ found)

theorem mem_lines {c : Char} {text : List Char} (member : c ∈ text) (other : c ≠ '\n')
    (other' : c ≠ '\r') : ∃ line ∈ lines text, c ∈ line := by
  obtain ⟨piece, found, inside⟩ := mem_splitOnChar member other
  obtain ⟨-, pieces, last, -, cut⟩ := exists_splitOnChar_last '\n' text
  rw [cut, List.mem_append, List.mem_singleton] at found
  rw [lines_of_split cut]
  rcases found with found | rfl
  · refine ⟨dropReturn piece, ?_, ?_⟩
    · exact List.mem_append_left _ (List.mem_map_of_mem found)
    · unfold dropReturn
      split
      · rename_i returned
        obtain ⟨front, rfl⟩ := List.getLast?_eq_some_iff.mp returned
        rw [List.dropLast_concat]
        simpa [other'] using inside
      · exact inside
  · refine ⟨piece, ?_, inside⟩
    rw [if_neg (List.ne_nil_of_mem inside)]
    simp

theorem subset_of_mem_lines {text line : List Char} (member : line ∈ lines text) :
    line ⊆ text := by
  obtain ⟨-, pieces, last, -, cut⟩ := exists_splitOnChar_last '\n' text
  have inside (piece : List Char) (found : piece ∈ pieces ++ [last]) : piece ⊆ text :=
    subset_of_mem_splitOnChar (cut ▸ found)
  rw [lines_of_split cut] at member
  rcases List.mem_append.mp member with closed | ended
  · obtain ⟨piece, found, rfl⟩ := List.mem_map.mp closed
    have kept := (dropReturn_isPrefix piece).subset
    exact List.Subset.trans kept (inside piece (List.mem_append_left _ found))
  · split at ended
    · cases ended
    · obtain rfl := List.mem_singleton.mp ended
      exact inside line (List.mem_append_right _ (List.mem_singleton_self _))

theorem nonBlankRuns_cons_blank {line : List Char} (blank : allBlank line = true)
    (rest : List (List Char)) : nonBlankRuns (line :: rest) = nonBlankRuns rest := by
  rw [nonBlankRuns.eq_def]
  simp [blank]

theorem nonBlankRuns_run {run back : List (List Char)} (nonempty : run ≠ [])
    (solid : ∀ line ∈ run, allBlank line = false)
    (ended : ∀ line ∈ back.head?, allBlank line = true) :
    nonBlankRuns (run ++ back) = run :: nonBlankRuns back := by
  induction run with
  | nil => contradiction
  | cons line run ih =>
    have lineSolid : ¬ allBlank line = true := by simp [solid line List.mem_cons_self]
    cases run with
    | nil =>
      cases back with
      | nil => simp [nonBlankRuns, lineSolid]
      | cons next back =>
        have nextBlank : allBlank next = true := ended next rfl
        simp [nonBlankRuns.eq_def (line :: _), lineSolid, nextBlank]
    | cons next run =>
      have nextSolid : ¬ allBlank next = true := by simp [solid next (by simp)]
      have later := ih (List.cons_ne_nil next run)
        fun other member => solid other (List.mem_cons_of_mem line member)
      rw [List.cons_append] at later
      rw [List.cons_append, List.cons_append, nonBlankRuns.eq_def]
      simp only [lineSolid, nextSolid, later, Bool.false_eq_true, if_false]

theorem exists_run {first : List Char} (solid : allBlank first = false)
    (front : List (List Char)) :
    ∃ run rest, first :: front = run ++ rest ∧ run ≠ [] ∧
      (∀ line ∈ run, allBlank line = false) ∧ (∀ line ∈ rest.head?, allBlank line = true) := by
  let isSolid (line : List Char) : Bool := !allBlank line
  refine ⟨first :: front.takeWhile isSolid, front.dropWhile isSolid, ?_, List.cons_ne_nil _ _,
    ?_, ?_⟩
  · rw [List.cons_append, List.takeWhile_append_dropWhile]
  · intro line member
    rcases List.mem_cons.mp member with rfl | member
    · exact solid
    · simpa [isSolid] using List.mem_takeWhile_imp member
  · intro line found
    have stopped := List.head?_dropWhile_not isSolid front
    rw [Option.mem_def.mp found] at stopped
    simpa [isSolid] using stopped

theorem nonBlankRuns_append_blank {line : List Char} (blank : allBlank line = true)
    (back : List (List Char)) : (front : List (List Char)) →
    nonBlankRuns (front ++ line :: back) = nonBlankRuns front ++ nonBlankRuns back
  | [] => nonBlankRuns_cons_blank blank back
  | first :: front => by
    by_cases firstBlank : allBlank first = true
    · rw [List.cons_append, nonBlankRuns_cons_blank firstBlank,
        nonBlankRuns_append_blank blank back front, nonBlankRuns_cons_blank firstBlank]
    · obtain ⟨run, rest, whole, nonempty, solid, ended⟩ :=
        exists_run (Bool.eq_false_iff.mpr firstBlank) front
      have ended' : ∀ other ∈ (rest ++ line :: back).head?, allBlank other = true := by
        intro other found
        cases rest with
        | nil => exact Option.some.inj found ▸ blank
        | cons next rest => exact ended other found
      have shorter : rest.length ≤ front.length := by
        have positive := List.length_pos_iff.mpr nonempty
        have lengths := congrArg List.length whole
        rw [List.length_append, List.length_cons] at lengths
        omega
      rw [whole, List.append_assoc, nonBlankRuns_run nonempty solid ended',
        nonBlankRuns_run nonempty solid ended, nonBlankRuns_append_blank blank back rest,
        List.cons_append]
termination_by front => front.length
decreasing_by
  · exact Nat.lt_succ_self _
  · exact Nat.lt_succ_of_le shorter

theorem nonBlankRuns_ne_nil {lines : List (List Char)} {line : List Char} (member : line ∈ lines)
    (solid : allBlank line = false) : nonBlankRuns lines ≠ [] := by
  induction lines with
  | nil => cases member
  | cons first lines ih =>
    by_cases blank : allBlank first = true
    · rw [nonBlankRuns_cons_blank blank]
      rcases List.mem_cons.mp member with rfl | member
      · rw [blank] at solid
        contradiction
      · exact ih member
    · obtain ⟨run, rest, whole, nonempty, solid', ended⟩ :=
        exists_run (Bool.eq_false_iff.mpr blank) lines
      rw [whole, nonBlankRuns_run nonempty solid' ended]
      exact List.cons_ne_nil _ _

theorem subset_of_mem_nonBlankRuns {run lines : List (List Char)}
    (member : run ∈ nonBlankRuns lines) : run ⊆ lines := by
  induction lines generalizing run with
  | nil => cases member
  | cons line rest ih =>
    have later (other : List (List Char)) (found : other ∈ nonBlankRuns rest) :
        other ⊆ line :: rest :=
      List.subset_cons_of_subset line (ih found)
    have alone : [line] ⊆ line :: rest := by simp
    rw [nonBlankRuns.eq_def] at member
    simp only at member
    split at member
    · exact later run member
    · split at member
      · obtain rfl := List.mem_singleton.mp member
        exact alone
      · split at member
        · rcases List.mem_cons.mp member with rfl | found
          · exact alone
          · exact later run found
        · split at member
          · obtain rfl := List.mem_singleton.mp member
            exact alone
          · rename_i first runs cut
            rcases List.mem_cons.mp member with rfl | found
            · exact List.cons_subset_cons line (ih (by rw [cut]; exact List.mem_cons_self))
            · exact later run (by rw [cut]; exact List.mem_cons_of_mem _ found)

/-- A maximal run of lines that are not blank: it has a line, and blank lines or the ends of the
    lines are about it. -/
def IsRun (run lines : List (List Char)) : Prop :=
  ∃ front back, lines = front ++ run ++ back ∧ run ≠ [] ∧ (∀ line ∈ run, allBlank line = false) ∧
    (∀ line ∈ front.getLast?, allBlank line = true) ∧ ∀ line ∈ back.head?, allBlank line = true

theorem IsRun.mem_nonBlankRuns {run lines : List (List Char)} (isRun : IsRun run lines) :
    run ∈ nonBlankRuns lines := by
  obtain ⟨front, back, rfl, nonempty, solid, started, ended⟩ := isRun
  have here : run ∈ nonBlankRuns (run ++ back) := by
    rw [nonBlankRuns_run nonempty solid ended]
    exact List.mem_cons_self
  rcases List.eq_nil_or_concat front with rfl | ⟨front, line, rfl⟩
  · exact here
  · have blank : allBlank line = true := started line (by simp)
    rw [List.concat_eq_append, List.append_assoc, List.append_assoc, List.singleton_append,
      nonBlankRuns_append_blank blank]
    exact List.mem_append_right _ here

theorem nonBlankRuns_ended {text : List Char} (unreturned : text.getLast? ≠ some '\r') :
    nonBlankRuns ((splitOnChar '\n' text).map dropReturn) = nonBlankRuns (lines text) := by
  obtain ⟨front, pieces, last, whole, cut⟩ := exists_splitOnChar_last '\n' text
  rw [lines_of_split cut, cut, List.map_append, List.map_singleton]
  cases last with
  | nil =>
    rw [if_pos rfl, List.append_nil]
    exact (nonBlankRuns_append_blank (by rfl) [] _).trans (List.append_nil _)
  | cons c last =>
    have kept : (c :: last).getLast? ≠ some '\r' := by
      rw [whole, List.getLast?_append, List.getLast?_cons, Option.some_or] at unreturned
      rwa [List.getLast?_cons]
    rw [dropReturn_of_unreturned kept, if_neg (List.cons_ne_nil c last)]

end TopicWiki.Text
