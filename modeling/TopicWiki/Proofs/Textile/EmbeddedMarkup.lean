import TopicWiki.Proofs.Textile.Prose

namespace TopicWiki.Textile

open Text

theorem unifyBreaks_of_unreturned {text : List Char} (unreturned : '\r' ∉ text) :
    unifyBreaks text = text := by
  induction text with
  | nil => exact unifyBreaks_nil
  | cons c text ih =>
    rw [List.mem_cons, not_or] at unreturned
    rw [unifyBreaks_cons, ih unreturned.2]
    intro same
    exact absurd same.symm unreturned.1

theorem prefix_joinLines (line : List Char) (lines : List (List Char)) :
    line <+: joinLines (line :: lines) := by
  cases lines with
  | nil => simp only [joinLines_singleton, List.prefix_rfl]
  | cons next lines =>
    rw [joinLines_cons _ (List.cons_ne_nil _ _)]
    exact List.prefix_append _ _

theorem exists_lines_append {text : List Char} (nonempty : text ≠ []) (line : '\n' ∉ text)
    (unreturned : '\r' ∉ text) (back : List Char) :
    ∃ first rest, lines (text ++ back) = first :: rest ∧ text <+: first := by
  by_cases broken : '\n' ∈ back
  · obtain ⟨front, back, rfl, frontLine⟩ := List.eq_append_cons_of_mem broken
    have whole : '\n' ∉ text ++ front := by
      rw [List.mem_append, not_or]
      exact ⟨line, frontLine⟩
    rw [← List.append_assoc, lines_append, splitOnChar_of_absent whole]
    refine ⟨dropReturn (text ++ front), lines back, rfl, ?_⟩
    unfold dropReturn
    split
    · rename_i returned
      cases front with
      | nil =>
        rw [List.append_nil] at returned
        exact absurd (List.mem_of_getLast? returned) unreturned
      | cons c front =>
        rw [List.dropLast_append_cons]
        exact List.prefix_append _ _
    · exact List.prefix_append _ _
  · have whole : '\n' ∉ text ++ back := by
      rw [List.mem_append, not_or]
      exact ⟨line, broken⟩
    have cut : splitOnChar '\n' (text ++ back) = [] ++ [text ++ back] := splitOnChar_of_absent whole
    refine ⟨text ++ back, [], ?_, List.prefix_append _ _⟩
    rw [lines_of_split cut, if_neg]
    · rfl
    · simp [nonempty]

theorem exists_run_append {text : List Char} (back : List Char) (unreturned : '\r' ∉ text)
    (solid : ∀ line ∈ splitOnChar '\n' text, allBlank line = false) :
    ∃ run rest, lines (text ++ back) = run ++ rest ∧ run ≠ [] ∧
      (∀ line ∈ run, allBlank line = false) ∧ (∀ line ∈ rest.head?, allBlank line = true) ∧
      text <+: joinLines run := by
  -- The induction is on the lines of the text; its last line is the first of a run that goes on in
  -- what is behind.
  induction size : text.length using Nat.strongRecOn generalizing text with
  | ind n ih =>
    by_cases broken : '\n' ∈ text
    · obtain ⟨first, behind, rfl, line⟩ := List.eq_append_cons_of_mem broken
      rw [splitOnChar_append, splitOnChar_of_absent line, List.singleton_append] at solid
      rw [List.mem_append, not_or, List.mem_cons, not_or] at unreturned
      have shorter : behind.length < n := by
        rw [← size, List.length_append, List.length_cons]
        omega
      obtain ⟨run, rest, same, nonempty, solidRun, ended, begins⟩ :=
        ih _ shorter unreturned.2.2 (fun line member => solid line (List.mem_cons_of_mem _ member)) rfl
      have kept : dropReturn first = first := by
        apply dropReturn_of_unreturned
        exact fun returned => unreturned.1 (List.mem_of_getLast? returned)
      refine ⟨first :: run, rest, ?_, List.cons_ne_nil _ _, ?_, ended, ?_⟩
      · rw [List.append_assoc, List.cons_append, lines_append, splitOnChar_of_absent line,
          List.map_singleton, kept, same]
        rfl
      · rintro line (_ | ⟨_, member⟩)
        · exact solid first (List.mem_cons_self ..)
        · exact solidRun line member
      · rw [joinLines_cons _ nonempty, List.prefix_append_right_inj, List.prefix_cons_inj]
        exact begins
    · rw [splitOnChar_of_absent broken] at solid
      have textSolid := solid text (List.mem_singleton_self text)
      have nonempty : text ≠ [] := by
        rintro rfl
        cases textSolid
      obtain ⟨first, others, same, begins⟩ := exists_lines_append nonempty broken unreturned back
      have firstSolid : allBlank first = false := by
        obtain ⟨tail, rfl⟩ := begins
        rw [allBlank, List.all_append]
        exact Bool.and_eq_false_imp.mpr fun blank => absurd blank (by simpa [allBlank] using textSolid)
      obtain ⟨run, rest, parted, runNonempty, solidRun, ended⟩ := exists_run firstSolid others
      refine ⟨run, rest, same.trans parted, runNonempty, solidRun, ended, ?_⟩
      cases run with
      | nil => contradiction
      | cons line run =>
        obtain ⟨rfl, -⟩ := List.cons_eq_cons.mp parted
        exact begins.trans (prefix_joinLines first run)

theorem exists_block_append {text : List Char} (back : List Char) (unreturned : '\r' ∉ text)
    (solid : ∀ line ∈ splitOnChar '\n' text, allBlank line = false) :
    ∃ block ∈ blocks (text ++ back), text <+: block := by
  have unified : unifyBreaks (text ++ back) = text ++ unifyBreaks back := by
    rw [unifyBreaks_append, unifyBreaks_of_unreturned unreturned]
    exact fun returned => absurd (List.mem_of_getLast? returned) unreturned
  obtain ⟨run, rest, same, nonempty, solidRun, ended, begins⟩ :=
    exists_run_append (unifyBreaks back) unreturned solid
  refine ⟨joinLines run, ?_, begins⟩
  apply mem_blocks
  rw [unified]
  exact ⟨[], rest, same, nonempty, solidRun, by simp, ended⟩

/-- A text at whose end a block may start: nothing, or what ends in a blank line. -/
inductive EndsBlock : List Char → Prop
  | start : EndsBlock []
  | blankLine {before line : List Char} : before.getLast? ≠ some '\r' → '\n' ∉ line →
    allBlank line = true → EndsBlock (before ++ '\n' :: (line ++ ['\n']))

theorem EndsBlock.mem_blocks {before back block : List Char} (ends : EndsBlock before)
    (member : block ∈ blocks back) : block ∈ blocks (before ++ back) := by
  cases ends with
  | start => exact member
  | blankLine unreturned line blank =>
    have shape := blocks_append unreturned line blank back
    simp only [List.append_assoc, List.cons_append, List.nil_append]
    rw [shape]
    exact List.mem_append_right _ member

theorem BeginsWithMarkup.append {text : List Char} (begins : BeginsWithMarkup text)
    (closed : text.getLast? = some '>') (back : List Char) : BeginsWithMarkup (text ++ back) := by
  cases begins with
  | comment rest blank =>
    rw [List.append_assoc]
    exact .comment (rest ++ back) blank
  | @tag blanks slash name rest blank slashed known ended =>
    cases rest with
    | nil =>
      obtain ⟨signs, starts⟩ := blockTags_letters _ known
      rw [String.toList_ofList] at signs starts
      rcases List.eq_nil_or_concat name with rfl | ⟨front, c, rfl⟩
      · simp at starts
      · have whole : blanks ++ '<' :: (slash ++ (front.concat c ++ [])) =
            (blanks ++ '<' :: (slash ++ front)) ++ [c] := by
          simp
        rw [whole, List.getLast?_concat, Option.some.injEq] at closed
        subst closed
        have sign := List.all_eq_true.mp signs '>'.toLower (by simp)
        have bracket : Char.isAlphanum '>'.toLower = false := by decide
        rw [bracket] at sign
        cases sign
    | cons c rest =>
      have whole : blanks ++ '<' :: (slash ++ (name ++ c :: rest)) ++ back =
          blanks ++ '<' :: (slash ++ (name ++ c :: (rest ++ back))) := by
        simp only [List.append_assoc, List.cons_append]
      rw [whole]
      exact .tag blank slashed known ended

end TopicWiki.Textile
