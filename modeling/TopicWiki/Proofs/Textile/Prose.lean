import TopicWiki.Proofs.Textile.Blocks
import TopicWiki.Proofs.Textile.ListStructure
import TopicWiki.Proofs.Textile.TagOrder

namespace TopicWiki.Textile

open Text

/-- The texts of a block that the inline rules are applied to, from left to right. -/
def prose (block : List Char) : List (List Char) :=
  match Signed.ofBlock? block with
  | some signed =>
    match signed.signature with
    | .heading _ | .paragraph | .quote => [signed.content]
    | .code | .preformatted | .verbatim => []
  | none =>
    match listItems? block with
    | some items => items.map ListItem.text
    | none =>
      match tableRows? block with
      | some rows => rows.flatten.map Cell.text
      | none => [block]

theorem cutModifier_suffix (text : List Char) : (cutModifier text).2 <:+ text := by
  unfold cutModifier
  split
  · rename_i inside
    simp only
    split
    · rename_i after closed
      have behind := List.dropWhile_suffix (fun c => c != ')' && c != '\n') (l := inside)
      rw [show inside.dropWhile _ = _ from closed] at behind
      exact ((List.suffix_cons _ _).trans behind).trans (List.suffix_cons _ _)
    · exact List.suffix_rfl
  · exact List.suffix_rfl

theorem Signed.ofBlock?_eq_some {block : List Char} {signed : Signed}
    (found : Signed.ofBlock? block = some signed) :
    (∃ word, (word, signed.signature) ∈ signatureWords) ∧ signed.content <:+ block := by
  obtain ⟨⟨word, signature⟩, listed, read⟩ := List.exists_of_findSome?_eq_some found
  obtain ⟨rest, start, read⟩ := Option.bind_eq_some_iff.mp read
  have behind : rest <:+ block := ⟨_, (isPrefixOf?_eq_some start).symm⟩
  simp only at read
  split at read
  · rename_i c content stop
    split at read
    · cases read
      have inside := (cutModifier_suffix rest).trans behind
      rw [stop] at inside
      refine ⟨⟨word, listed⟩, ?_⟩
      exact (List.suffix_cons _ _).trans ((List.suffix_cons _ _).trans inside)
    · cases read
  · cases read

theorem Cell.subset_ofText (text : List Char) : (Cell.ofText text).text ⊆ text := by
  unfold Cell.ofText
  split
  · rename_i header
    intro c member
    exact List.mem_cons_of_mem _ (List.mem_cons_of_mem _ ((trim_inside header).subset member))
  · exact (trim_inside text).subset

theorem subset_of_mem_rowCells {cell : Cell} {line : List Char} (member : cell ∈ rowCells line) :
    cell.text ⊆ line := by
  obtain ⟨piece, listed, rfl⟩ := List.mem_map.mp member
  refine List.Subset.trans (Cell.subset_ofText piece) ?_
  refine List.Subset.trans (subset_of_mem_splitOnChar listed) ?_
  refine List.Subset.trans ?_ (trim_inside line).subset
  have tail : ∀ row : List Char, (if row.head? = some '|' then row.tail else row) ⊆ row := by
    intro row
    split
    · exact (List.tail_suffix row).subset
    · exact List.Subset.refl row
  have init : ∀ row : List Char, (if row.getLast? = some '|' then row.dropLast else row) ⊆ row := by
    intro row
    split
    · exact (List.dropLast_prefix row).subset
    · exact List.Subset.refl row
  exact List.Subset.trans (init _) (tail _)

theorem subset_of_mem_prose {block part : List Char} (member : part ∈ prose block) :
    part ⊆ block := by
  unfold prose at member
  split at member
  · rename_i signed found
    obtain ⟨-, content⟩ := Signed.ofBlock?_eq_some found
    split at member
    · exact List.mem_singleton.mp member ▸ content.subset
    · exact List.mem_singleton.mp member ▸ content.subset
    · exact List.mem_singleton.mp member ▸ content.subset
    all_goals cases member
  · split at member
    · rename_i items listed
      rw [texts_of_listItems? listed] at member
      obtain ⟨line, ofBlock, rfl⟩ := List.mem_map.mp member
      have behind : lineText line <:+ line :=
        (trimStart_suffix _).trans (List.dropWhile_suffix _)
      exact List.Subset.trans behind.subset (subset_of_mem_lines ofBlock)
    · split at member
      · rename_i rows tabled
        obtain ⟨cell, inRows, rfl⟩ := List.mem_map.mp member
        unfold tableRows? at tabled
        simp only at tabled
        split at tabled
        · cases tabled
          obtain ⟨row, listed, inRow⟩ := List.mem_flatten.mp inRows
          obtain ⟨line, ofBlock, rfl⟩ := List.mem_map.mp listed
          exact List.Subset.trans (subset_of_mem_rowCells inRow) (subset_of_mem_lines ofBlock)
        · cases tabled
      · exact List.mem_singleton.mp member ▸ List.Subset.refl _
/-- Tags of a text that the inline rules leave as they are. -/
structure Untouched (settings : Settings) (tags : List (List Char)) (text : List Char) : Prop
    extends OutsideCode tags text where
  lines : settings.lineBreaks = true → ∀ tag ∈ tags, '\n' ∉ tag

theorem Untouched.inOrder {settings : Settings} {tags : List (List Char)} {text : List Char}
    (untouched : Untouched settings tags text) : InOrder tags (inline settings text) :=
  untouched.inOrder_inline untouched.lines

/-- Tags of a block that it is written with: any tags of embedded markup and of a verbatim block, and
    those that the inline rules leave as they are. -/
inductive StandIn (settings : Settings) : List (List Char) → List Char → Prop
  | markup {tags : List (List Char)} {block : List Char} : isMarkup block = true →
    InOrder tags block → StandIn settings tags block
  | verbatim {tags : List (List Char)} {block content : List Char} {modifier : Modifier} :
    isMarkup block = false → Signed.ofBlock? block = some ⟨.verbatim, modifier, content⟩ →
    InOrder tags content → StandIn settings tags block
  | prose {tags : List (List Char)} {block : List Char} : isMarkup block = false →
    Across (Untouched settings) tags (prose block) → StandIn settings tags block

section

variable {settings : Settings} {tags : List (List Char)}

theorem across_isTag {texts : List (List Char)} (across : Across (Untouched settings) tags texts) :
    ∀ tag ∈ tags, IsTag tag := by
  induction across with
  | nil => exact fun _ none => absurd none List.not_mem_nil
  | cons here _ ih =>
    intro tag member
    rcases List.mem_append.mp member with member | member
    · exact here.areTags tag member
    · exact ih tag member

theorem infix_wrap (name : String) (inner : List Char) : inner <:+: wrap name inner :=
  ⟨openingTag name, closingTag name, by rw [wrap_eq, List.append_assoc]⟩

theorem infix_between (front inner back back' back'' : List Char) :
    inner <:+: front ++ inner ++ back ++ back' ++ back'' :=
  ⟨front, back ++ back' ++ back'', by simp only [List.append_assoc]⟩

theorem across_singleton {text whole : List Char}
    (inside : inline settings text <:+: whole) (across : Across (Untouched settings) tags [text]) :
    InOrder tags whole := by
  cases across with
  | cons here none =>
    cases none
    rw [List.append_nil]
    exact here.inOrder.inside inside

theorem inOrder_listFrom {items : List ListItem} (opened : List ListKind)
    (across : Across (Untouched settings) tags (items.map ListItem.text)) :
    InOrder tags (listFrom settings opened items) := by
  induction items generalizing opened tags with
  | nil =>
    cases across
    exact .nil _
  | cons item items ih =>
    rw [List.map_cons] at across
    cases across with
    | cons here later =>
      have entry := here.inOrder.behind "\t<li>".toList
      rw [listFrom]
      split
      · exact (entry.behind _).append (ih _ later)
      · exact (entry.behind _).append (ih _ later)

theorem inOrder_cell {cell : Cell} (untouched : Untouched settings tags cell.text) :
    InOrder tags (Cell.html settings cell) := by
  have inside : inline settings cell.text <:+: Cell.html settings cell :=
    (infix_wrap _ _).trans ⟨"\t\t".toList, ['\n'], rfl⟩
  exact untouched.inOrder.inside inside

theorem inOrder_tableHtml {rows : List (List Cell)}
    (across : Across (Untouched settings) tags (rows.flatten.map Cell.text)) :
    InOrder tags (tableHtml settings rows) := by
  unfold tableHtml
  apply InOrder.inside _ ⟨_, _, rfl⟩
  induction rows generalizing tags with
  | nil =>
    cases across
    exact .nil _
  | cons row rows ih =>
    rw [List.flatten_cons, List.map_append] at across
    obtain ⟨first, second, rfl, inRow, inRows⟩ := across.split
    rw [List.flatMap_cons]
    have here := inRow.flatMap inOrder_cell
    exact (here.inside ⟨"\t<tr>\n".toList, "\t</tr>\n".toList, rfl⟩).append (ih inRows)

theorem inOrder_signed {signed : Signed}
    (across : Across (Untouched settings) tags (match signed.signature with
      | .heading _ | .paragraph | .quote => [signed.content]
      | .code | .preformatted | .verbatim => [])) :
    InOrder tags (signed.html settings) := by
  obtain ⟨signature, modifier, content⟩ := signed
  cases signature with
  | heading level => exact across_singleton (infix_between _ _ _ _ _) across
  | paragraph => exact across_singleton (infix_between _ _ _ _ _) across
  | quote =>
    have inside : wrap "p" (inline settings content) <:+: _ := ⟨['\n'], ['\n'], rfl⟩
    exact across_singleton (((infix_wrap "p" _).trans inside).trans (infix_between _ _ _ _ _)) across
  | code => cases across; exact .nil _
  | preformatted => cases across; exact .nil _
  | verbatim => cases across; exact .nil _

theorem inOrder_blockHtml {block : List Char} (standing : StandIn settings tags block) :
    InOrder tags (blockHtml settings block) := by
  cases standing with
  | markup isMarkup inOrder =>
    rw [blockHtml, if_pos isMarkup]
    exact inOrder
  | verbatim other signed inOrder =>
    simp only [blockHtml, other, Bool.false_eq_true, if_false, signed]
    exact inOrder
  | prose other across =>
    have solid : ∀ tag ∈ tags, ∃ c ∈ tag.getLast?, isBlank c = false := by
      intro tag member
      obtain ⟨-, inside, rfl, -⟩ := across_isTag across tag member
      exact ⟨'>', by simp, by decide⟩
    simp only [blockHtml, other, Bool.false_eq_true, if_false]
    unfold prose at across
    cases signing : Signed.ofBlock? block with
    | some signed =>
      rw [signing] at across
      exact inOrder_signed across
    | none =>
      rw [signing] at across
      cases listing : listItems? block with
      | some items =>
        rw [listing] at across
        exact (inOrder_listFrom [] across).trimEnd solid
      | none =>
        rw [listing] at across
        cases tabling : tableRows? block with
        | some rows =>
          rw [tabling] at across
          exact inOrder_tableHtml across
        | none =>
          rw [tabling] at across
          exact across_singleton (infix_wrap _ _) across

theorem across_joinLines {texts : List (List Char)} {f : List Char → List Char}
    {holds : List (List Char) → List Char → Prop}
    (kept : ∀ {parts text}, holds parts text → InOrder parts (f text))
    (across : Across holds tags texts) : InOrder tags (joinLines (texts.map f)) := by
  induction across with
  | nil => exact .nil _
  | @cons parts more text texts here later ih =>
    cases texts with
    | nil =>
      cases later
      rw [List.append_nil, List.map_singleton, joinLines_singleton]
      exact kept here
    | cons next texts =>
      have later : (next :: texts).map f ≠ [] := by simp
      rw [List.map_cons, joinLines_cons _ later]
      exact (kept here).append (ih.behind ['\n'])

theorem inOrder_document {text : List Char} (across : Across (StandIn settings) tags (blocks text)) :
    InOrder tags (document settings text) :=
  across_joinLines inOrder_blockHtml across

end

end TopicWiki.Textile
