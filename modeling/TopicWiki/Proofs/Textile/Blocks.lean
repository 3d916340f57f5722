import TopicWiki.Proofs.Text.Lines
import TopicWiki.Proofs.Text.Trim
import TopicWiki.Textile.Document

namespace TopicWiki.Textile

open Text

theorem joinLines_append {front back : List (List Char)} (before : front ≠ []) (after : back ≠ []) :
    joinLines (front ++ back) = joinLines front ++ '\n' :: joinLines back := by
  induction front with
  | nil => contradiction
  | cons part front ih =>
    cases front with
    | nil =>
      cases back with
      | nil => contradiction
      | cons next back => simp [joinLines, List.intercalate]
    | cons next front =>
      have later := ih (List.cons_ne_nil next front)
      simp only [joinLines, List.intercalate, List.cons_append, List.intersperse_cons_cons,
        List.flatten_cons] at later ⊢
      rw [later]
      simp

theorem joinLines_singleton (part : List Char) : joinLines [part] = part := by
  simp [joinLines, List.intercalate]

theorem joinLines_cons (part : List Char) {parts : List (List Char)} (later : parts ≠ []) :
    joinLines (part :: parts) = part ++ '\n' :: joinLines parts := by
  rw [← List.singleton_append, joinLines_append (List.cons_ne_nil _ _) later, joinLines_singleton]

theorem infix_joinLines {part : List Char} {parts : List (List Char)} (member : part ∈ parts) :
    part <:+: joinLines parts := by
  induction parts with
  | nil => cases member
  | cons first parts ih =>
    cases parts with
    | nil =>
      rw [List.mem_singleton.mp member]
      simp [joinLines, List.intercalate]
    | cons next parts =>
      rw [← List.singleton_append, joinLines_append (List.cons_ne_nil _ _) (List.cons_ne_nil _ _)]
      rcases List.mem_cons.mp member with rfl | member
      · have whole : joinLines [part] = part := by simp [joinLines, List.intercalate]
        rw [whole]
        exact (List.prefix_append _ _).isInfix
      · exact (ih member).trans ((List.suffix_cons _ _).trans (List.suffix_append _ _)).isInfix

theorem mem_of_mem_joinLines {c : Char} {parts : List (List Char)}
    (member : c ∈ joinLines parts) : c = '\n' ∨ ∃ part ∈ parts, c ∈ part := by
  induction parts with
  | nil => cases member
  | cons part parts ih =>
    by_cases last : parts = []
    · rw [last, joinLines_singleton] at member
      exact .inr ⟨part, List.mem_cons_self, member⟩
    · rw [joinLines_cons part last, List.mem_append, List.mem_cons] at member
      rcases member with here | same | later
      · exact .inr ⟨part, List.mem_cons_self, here⟩
      · exact .inl same
      · rcases ih later with same | ⟨other, listed, inside⟩
        · exact .inl same
        · exact .inr ⟨other, List.mem_cons_of_mem _ listed, inside⟩

theorem mem_of_mem_blocks {c : Char} {text block : List Char} (listed : block ∈ blocks text)
    (member : c ∈ block) (other : c ≠ '\n') : c ∈ text := by
  obtain ⟨run, isRun, rfl⟩ := List.mem_map.mp listed
  obtain ⟨line, inRun, inside⟩ := (mem_of_mem_joinLines member).resolve_left other
  have ofText := subset_of_mem_lines (subset_of_mem_nonBlankRuns isRun inRun)
  exact subset_unifyBreaks text (ofText inside)

theorem blocks_ne_nil {text : List Char} (solid : allBlank text = false) : blocks text ≠ [] := by
  obtain ⟨c, member, visible⟩ := List.all_eq_false.mp solid
  have notNewline : c ≠ '\n' := by
    rintro rfl
    exact visible (by decide)
  have notReturn : c ≠ '\r' := by
    rintro rfl
    exact visible (by decide)
  have kept := (mem_unifyBreaks text c notReturn).mpr member
  obtain ⟨line, found, inside⟩ := mem_lines kept notNewline notReturn
  have lineSolid : allBlank line = false := List.all_eq_false.mpr ⟨c, inside, visible⟩
  unfold blocks
  rw [ne_eq, List.map_eq_nil_iff]
  exact nonBlankRuns_ne_nil found lineSolid

theorem blocks_append {a w : List Char} (unreturned : a.getLast? ≠ some '\r')
    (unbroken : '\n' ∉ w) (blank : allBlank w = true) (b : List Char) :
    blocks (a ++ '\n' :: (w ++ '\n' :: b)) = blocks a ++ blocks b := by
  have unified : unifyBreaks (a ++ '\n' :: (w ++ '\n' :: b)) =
      unifyBreaks a ++ '\n' :: (dropReturn w ++ '\n' :: unifyBreaks b) := by
    rw [unifyBreaks_append _ _ fun h => absurd h unreturned, unifyBreaks_cons (by simp),
      unifyBreaks_line unbroken]
  have unbroken' : '\n' ∉ dropReturn w := fun member =>
    unbroken ((dropReturn_isPrefix w).subset member)
  have unreturned' : (unifyBreaks a).getLast? ≠ some '\r' := by rwa [getLast?_unifyBreaks]
  have runs : nonBlankRuns (lines (unifyBreaks (a ++ '\n' :: (w ++ '\n' :: b)))) =
      nonBlankRuns (lines (unifyBreaks a)) ++ nonBlankRuns (lines (unifyBreaks b)) := by
    rw [unified, lines_append, lines_append, splitOnChar_of_absent unbroken', List.map_singleton,
      List.singleton_append,
      nonBlankRuns_append_blank (allBlank_dropReturn (allBlank_dropReturn blank)),
      nonBlankRuns_ended unreturned']
  rw [blocks, blocks, blocks, ← List.map_append]
  exact congrArg (List.map joinLines) runs

/-- A block that begins, behind blanks, with a comment or with the tag of a block element. -/
inductive BeginsWithMarkup : List Char → Prop
  | comment {blanks : List Char} (rest : List Char) :
    allBlank blanks = true → BeginsWithMarkup (blanks ++ "<!--".toList ++ rest)
  | tag {blanks slash name rest : List Char} :
    allBlank blanks = true → slash = [] ∨ slash = ['/'] →
      String.ofList (name.map Char.toLower) ∈ blockTags → (∀ c ∈ rest.head?, c.isAlphanum = false) →
      BeginsWithMarkup (blanks ++ '<' :: (slash ++ (name ++ rest)))

theorem blockTags_letters : ∀ tag ∈ blockTags,
    tag.toList.all Char.isAlphanum = true ∧ tag.toList.head?.any Char.isAlpha = true := by
  decide

theorem isUpper_or_toLower_eq (c : Char) : c.isUpper = true ∨ c.toLower = c := by
  unfold Char.toLower
  split
  · rename_i upper
    exact .inl (decide_eq_true upper)
  · exact .inr rfl

theorem isAlpha_of_toLower {c : Char} (letter : c.toLower.isAlpha = true) : c.isAlpha = true := by
  rcases isUpper_or_toLower_eq c with upper | same
  · change (c.isUpper || c.isLower) = true
    rw [upper, Bool.true_or]
  · rwa [same] at letter

theorem isAlphanum_of_toLower {c : Char} (sign : c.toLower.isAlphanum = true) :
    c.isAlphanum = true := by
  rcases isUpper_or_toLower_eq c with upper | same
  · change (c.isUpper || c.isLower || c.isDigit) = true
    rw [upper, Bool.true_or, Bool.true_or]
  · rwa [same] at sign

theorem trimStart_blanks {blanks : List Char} (blank : allBlank blanks = true) (rest : List Char) :
    trimStart (blanks ++ '<' :: rest) = '<' :: rest := by
  rw [trimStart_append, if_pos blank]
  exact trimStart_of_head (by decide)

theorem tagName?_tag {slash name rest : List Char} (slashed : slash = [] ∨ slash = ['/'])
    (known : String.ofList (name.map Char.toLower) ∈ blockTags)
    (ended : ∀ c ∈ rest.head?, c.isAlphanum = false) :
    tagName? ('<' :: (slash ++ (name ++ rest))) = some (String.ofList (name.map Char.toLower)) := by
  obtain ⟨signs, starts⟩ := blockTags_letters _ known
  rw [String.toList_ofList] at signs starts
  have nameSigns : ∀ c ∈ name, c.isAlphanum = true := by
    intro c member
    exact isAlphanum_of_toLower (List.all_eq_true.mp signs _ (List.mem_map_of_mem member))
  have taken : (name ++ rest).takeWhile Char.isAlphanum = name := by
    rw [List.takeWhile_append_of_pos nameSigns]
    cases rest with
    | nil => simp
    | cons c rest => simp [ended c rfl]
  cases name with
  | nil => simp at starts
  | cons c name =>
    have letter : c.isAlpha = true := isAlpha_of_toLower (by simpa using starts)
    have other : c ≠ '/' := by
      rintro rfl
      revert letter
      decide
    rw [List.cons_append] at taken
    rcases slashed with rfl | rfl
    · simp [tagName?, letter, taken, other]
    · simp [tagName?, letter, taken]

theorem isMarkup_of_begins {block : List Char} (begins : BeginsWithMarkup block) :
    isMarkup block = true := by
  cases begins with
  | @comment blanks rest blank =>
    have trimmed : trimStart (blanks ++ "<!--".toList ++ rest) = "<!--".toList ++ rest := by
      rw [List.append_assoc]
      exact trimStart_blanks blank _
    rw [isMarkup, trimmed]
    simp
  | tag blank slashed known ended =>
    rw [isMarkup, trimStart_blanks blank, tagName?_tag slashed known ended]
    simp [known]

theorem blockHtml_of_begins {block : List Char} (begins : BeginsWithMarkup block)
    (settings : Settings) : blockHtml settings block = block := by
  rw [blockHtml, if_pos (isMarkup_of_begins begins)]

theorem mem_blocks {run : List (List Char)} {text : List Char}
    (isRun : IsRun run (lines (unifyBreaks text))) : joinLines run ∈ blocks text :=
  List.mem_map_of_mem isRun.mem_nonBlankRuns

/-- Documents are converted block by block: texts with a blank line between them are converted as if
    each stood alone. A block of embedded markup is not converted. -/
theorem toHtml_blockwise (settings : Settings) :
    (∀ a b w : String, a.isAllBlank = false → b.isAllBlank = false →
      a.toList.getLast? ≠ some '\r' → '\n' ∉ w.toList → w.isAllBlank = true →
      toHtml settings (a ++ "\n" ++ w ++ "\n" ++ b) =
        toHtml settings a ++ "\n" ++ toHtml settings b) ∧
      ∀ (text : String) (run : List (List Char)), IsRun run (lines (unifyBreaks text.toList)) →
        BeginsWithMarkup (joinLines run) → joinLines run <:+: (toHtml settings text).toList := by
  refine ⟨?_, ?_⟩
  · intro a b w solid solid' unreturned unbroken blank
    have whole : (a ++ "\n" ++ w ++ "\n" ++ b).toList =
        a.toList ++ '\n' :: (w.toList ++ '\n' :: b.toList) := by
      simp
    have front : (blocks a.toList).map (blockHtml settings) ≠ [] := by
      simpa using blocks_ne_nil solid
    have back : (blocks b.toList).map (blockHtml settings) ≠ [] := by
      simpa using blocks_ne_nil solid'
    rw [← String.toList_inj, toHtml, whole, document, blocks_append unreturned unbroken blank,
      List.map_append, joinLines_append front back]
    simp [toHtml, document]
  · intro text run isRun begins
    have kept : joinLines run ∈ (blocks text.toList).map (blockHtml settings) := by
      rw [← blockHtml_of_begins begins settings]
      exact List.mem_map_of_mem (mem_blocks isRun)
    rw [toHtml, String.toList_ofList]
    exact infix_joinLines kept

/-- A line with no more than a space and a carriage return parts a phrase from a division, whose
    lines are parted by a break of two characters. -/
theorem toHtml_blockwise_before_division :
    ("*a*".isAllBlank = false ∧ "\t<Div>*b*\r\n</div>".isAllBlank = false ∧
      "*a*".toList.getLast? ≠ some '\r' ∧ '\n' ∉ " \r".toList ∧ " \r".isAllBlank = true ∧
      IsRun ["\t<Div>*b*".toList, "</div>".toList]
        (lines (unifyBreaks "*a*\n \r\n\t<Div>*b*\r\n</div>".toList)) ∧
      BeginsWithMarkup (joinLines ["\t<Div>*b*".toList, "</div>".toList])) ∧
      toHtml {} ("*a*" ++ "\n" ++ " \r" ++ "\n" ++ "\t<Div>*b*\r\n</div>") =
        toHtml {} "*a*" ++ "\n" ++ toHtml {} "\t<Div>*b*\r\n</div>" ∧
      joinLines ["\t<Div>*b*".toList, "</div>".toList] <:+:
        (toHtml {} "*a*\n \r\n\t<Div>*b*\r\n</div>").toList := by
  have cut : lines (unifyBreaks "*a*\n \r\n\t<Div>*b*\r\n</div>".toList) =
      ["*a*".toList, " ".toList] ++ ["\t<Div>*b*".toList, "</div>".toList] ++ [] := by
    decide +kernel
  have isRun : IsRun ["\t<Div>*b*".toList, "</div>".toList]
      (lines (unifyBreaks "*a*\n \r\n\t<Div>*b*\r\n</div>".toList)) :=
    ⟨_, _, cut, by decide, by decide, by decide, by decide⟩
  have begins : BeginsWithMarkup
      (['\t'] ++ '<' :: ([] ++ ("Div".toList ++ '>' :: "*b*\n</div>".toList))) := by
    refine .tag (by decide) (.inl rfl) (by decide) ?_
    intro c found
    cases found
    decide
  obtain ⟨parted, unchanged⟩ := toHtml_blockwise {}
  refine ⟨⟨by decide, by decide, by decide, by decide, by decide, isRun, begins⟩, ?_,
    unchanged _ _ isRun begins⟩
  exact parted "*a*" "\t<Div>*b*\r\n</div>" " \r" (by decide) (by decide) (by decide) (by decide)
    (by decide)

end TopicWiki.Textile
