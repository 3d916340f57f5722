import TopicWiki.Markup.Blank
import TopicWiki.Proofs.Text.Trim

namespace TopicWiki.Markup

open Text

def EmptyParagraph (text : List Char) : Prop :=
  ∃ inside, allBlank inside = true ∧ text = "<p>".toList ++ inside ++ "</p>".toList

/-- Blanks and empty paragraphs in any order. -/
inductive BlankRun : List Char → Prop
  | nil : BlankRun []
  | blank {c : Char} {run : List Char} (blank : isBlank c = true) (more : BlankRun run) :
    BlankRun (c :: run)
  | paragraph {front run : List Char} (empty : EmptyParagraph front) (more : BlankRun run) :
    BlankRun (front ++ run)

/-- A text that begins neither with a blank nor with an empty paragraph. -/
structure Begun (text : List Char) : Prop where
  solid : ∀ c ∈ text.head?, isBlank c = false
  filled : ∀ front, EmptyParagraph front → ¬ front <+: text

section

variable {text front run rest : List Char}

theorem BlankRun.append (first : BlankRun front) (later : BlankRun run) :
    BlankRun (front ++ run) := by
  induction first with
  | nil => exact later
  | blank blank more ih => exact .blank blank ih
  | paragraph empty more ih =>
    rw [List.append_assoc]
    exact .paragraph empty ih

theorem blankRun_of_allBlank (blank : allBlank run = true) : BlankRun run := by
  induction run with
  | nil => exact .nil
  | cons c run ih =>
    rw [allBlank, List.all_cons, Bool.and_eq_true] at blank
    exact .blank blank.1 (ih blank.2)

theorem Begun.trimStart (begun : Begun text) : trimStart text = text := by
  cases text with
  | nil => rfl
  | cons c text => exact trimStart_of_head (begun.solid c rfl)

theorem EmptyParagraph.trimStart_append (empty : EmptyParagraph front) (rest : List Char) :
    trimStart (front ++ rest) = front ++ rest := by
  obtain ⟨inside, -, rfl⟩ := empty
  exact trimStart_of_head (by decide)

theorem emptyParagraph?_eq_some_iff : emptyParagraph? text = some rest ↔
    ∃ front after, EmptyParagraph front ∧ text = front ++ after ∧ rest = trimStart after := by
  constructor
  · intro read
    simp only [emptyParagraph?, Option.bind_eq_bind, Option.bind_eq_some_iff] at read
    obtain ⟨inside, opened, after, closed, found⟩ := read
    obtain ⟨blanks, split, blank⟩ := exists_blank_trimStart inside
    refine ⟨_, after, ⟨blanks, blank, rfl⟩, ?_, (Option.some.inj found).symm⟩
    rw [isPrefixOf?_eq_some opened, split, isPrefixOf?_eq_some closed]
    simp only [List.append_assoc]
  · rintro ⟨front, after, ⟨inside, blank, rfl⟩, rfl, rfl⟩
    have closed : trimStart (inside ++ ("</p>".toList ++ after)) = "</p>".toList ++ after := by
      rw [Text.trimStart_append, if_pos blank]
      exact trimStart_of_head (by decide)
    simp only [emptyParagraph?, List.append_assoc, isPrefixOf?_append, closed, Option.bind_eq_bind,
      Option.bind_some, Option.pure_def]

theorem begun_iff : Begun text ↔
    (∀ c ∈ text.head?, isBlank c = false) ∧ emptyParagraph? text = none := by
  rw [Option.eq_none_iff_forall_not_mem]
  constructor
  · rintro ⟨solid, filled⟩
    refine ⟨solid, fun rest read => ?_⟩
    obtain ⟨front, after, empty, rfl, -⟩ := emptyParagraph?_eq_some_iff.mp read
    exact filled front empty (List.prefix_append front after)
  · rintro ⟨solid, unread⟩
    refine ⟨solid, fun front empty ⟨after, here⟩ => ?_⟩
    exact unread _ (emptyParagraph?_eq_some_iff.mpr ⟨front, after, empty, here.symm, rfl⟩)

theorem stripParagraphs_paragraph (empty : EmptyParagraph front) (rest : List Char) :
    stripParagraphs (front ++ rest) = stripParagraphs (trimStart rest) := by
  have read := emptyParagraph?_eq_some_iff.mpr ⟨front, rest, empty, rfl, rfl⟩
  rw [stripParagraphs]
  split <;> rename_i found
  · rw [read] at found
    rw [Option.some.inj found]
  · rw [read] at found
    cases found

theorem Begun.stripParagraphs (begun : Begun text) : stripParagraphs text = text := by
  rw [Markup.stripParagraphs]
  split <;> rename_i found
  · rw [(begun_iff.mp begun).2] at found
    cases found
  · rfl

theorem BlankRun.strip_append (blank : BlankRun run) (rest : List Char) :
    Markup.stripParagraphs (trimStart (run ++ rest)) =
      Markup.stripParagraphs (trimStart rest) := by
  induction blank with
  | nil => rfl
  | @blank c run blank more ih =>
    rw [← ih, List.cons_append]
    exact congrArg _ (List.dropWhile_cons_of_pos blank)
  | @paragraph front run empty more ih =>
    rw [List.append_assoc, empty.trimStart_append, stripParagraphs_paragraph empty, ih]

theorem exists_run_trimmed (text : List Char) :
    ∃ run, BlankRun run ∧ text = run ++ trimStart text := by
  obtain ⟨blanks, split, blank⟩ := exists_blank_trimStart text
  exact ⟨blanks, blankRun_of_allBlank blank, split⟩

theorem exists_run_stripped (text : List Char) (solid : ∀ c ∈ text.head?, isBlank c = false) :
    ∃ run, BlankRun run ∧ text = run ++ Markup.stripParagraphs text ∧
      Begun (Markup.stripParagraphs text) := by
  fun_induction Markup.stripParagraphs text with
  | case1 text rest found shorter ih =>
    obtain ⟨front, after, empty, rfl, rfl⟩ := emptyParagraph?_eq_some_iff.mp found
    obtain ⟨blanks, blank, split⟩ := exists_run_trimmed after
    obtain ⟨run, more, stripped, begun⟩ := ih (fun _ => head?_dropWhile after)
    refine ⟨front ++ (blanks ++ run), .paragraph empty (blank.append more), ?_, begun⟩
    rw [List.append_assoc, List.append_assoc, ← stripped, ← split]
  | case2 text none =>
    exact ⟨[], .nil, rfl, begun_iff.mpr ⟨solid, none⟩⟩

theorem stripLeadingBlanks_run (text : String) :
    ∃ run, BlankRun run ∧ text.toList = run ++ (stripLeadingBlanks text).toList ∧
      Begun (stripLeadingBlanks text).toList := by
  obtain ⟨blanks, blank, split⟩ := exists_run_trimmed text.toList
  obtain ⟨run, more, stripped, begun⟩ :=
    exists_run_stripped (trimStart text.toList) fun _ => head?_dropWhile text.toList
  rw [stripLeadingBlanks, String.toList_ofList]
  refine ⟨blanks ++ run, blank.append more, ?_, begun⟩
  rw [List.append_assoc, ← stripped, ← split]

theorem BlankRun.stripLeadingBlanks_append (blank : BlankRun run) (rest : List Char) :
    stripLeadingBlanks (String.ofList (run ++ rest)) = stripLeadingBlanks (String.ofList rest) := by
  simp only [stripLeadingBlanks, String.toList_ofList, blank.strip_append]

theorem Begun.stripLeadingBlanks (begun : Begun text) :
    stripLeadingBlanks (String.ofList text) = String.ofList text := by
  rw [Markup.stripLeadingBlanks, String.toList_ofList, begun.trimStart, begun.stripParagraphs]

end

/-- Stripping takes away the longest leading run of blanks and empty paragraphs, and nothing else. -/
theorem stripLeadingBlanks_strips_run (text : String) :
    (∃ run, BlankRun run ∧ text.toList = run ++ (stripLeadingBlanks text).toList) ∧
      Begun (stripLeadingBlanks text).toList ∧
      stripLeadingBlanks (stripLeadingBlanks text) = stripLeadingBlanks text ∧
      (Begun text.toList → stripLeadingBlanks text = text) ∧
      ∀ run rest, BlankRun run → text.toList = run ++ rest →
        stripLeadingBlanks text = stripLeadingBlanks (String.ofList rest) ∧
          (Begun rest → stripLeadingBlanks text = String.ofList rest) := by
  obtain ⟨run, blank, split, begun⟩ := stripLeadingBlanks_run text
  refine ⟨⟨run, blank, split⟩, begun, ?_, fun begun' => ?_, fun run' rest blank' split' => ?_⟩
  · rw [← String.ofList_toList (s := stripLeadingBlanks text), begun.stripLeadingBlanks]
  · rw [← String.ofList_toList (s := text), begun'.stripLeadingBlanks]
  · rw [← String.ofList_toList (s := text), split', blank'.stripLeadingBlanks_append]
    exact ⟨rfl, fun begun' => begun'.stripLeadingBlanks⟩

theorem stripLeadingBlanks_strips_run_before_paragraph :
    stripLeadingBlanks " \n<p> </p>\n<p>x</p><p></p>" = "<p>x</p><p></p>" := by
  have empty : EmptyParagraph "<p> </p>".toList := ⟨[' '], by decide, by decide⟩
  have run : BlankRun (' ' :: '\n' :: ("<p> </p>".toList ++ ['\n'])) :=
    .blank (by decide) (.blank (by decide) (.paragraph empty (.blank (by decide) .nil)))
  have begun : Begun "<p>x</p><p></p>".toList := by
    refine begun_iff.mpr ⟨fun c first => ?_, by decide⟩
    cases first
    decide
  exact ((stripLeadingBlanks_strips_run _).2.2.2.2 _ _ run (by decide)).2 begun

end TopicWiki.Markup
