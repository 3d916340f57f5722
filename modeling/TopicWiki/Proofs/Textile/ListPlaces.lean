import Mathlib.Data.List.Induction
import TopicWiki.Proofs.Textile.ListStructure

namespace TopicWiki.Textile

open Text

/-- The lists that are open behind a part, the innermost first. A closing tag ends the innermost list
    of its kind. -/
def ListPart.listsAfter (opened : List ListKind) : ListPart → List ListKind
  | .openList kind => kind :: opened
  | .closeList kind => opened.erase kind
  | _ => opened

def listsBehind (parts : List ListPart) : List ListKind :=
  parts.foldl ListPart.listsAfter []

theorem foldl_openListParts (kind : ListKind) (inItem : Bool) (count : Nat)
    (opened : List ListKind) :
    (openListParts kind inItem count).foldl ListPart.listsAfter opened =
      List.replicate count kind ++ opened := by
  induction count generalizing inItem opened with
  | zero => rfl
  | succ count ih =>
    have moved : List.replicate (count + 1) kind ++ opened =
        List.replicate count kind ++ kind :: opened := by
      rw [List.replicate_succ', List.append_assoc, List.singleton_append]
    rw [openListParts, moved, ← ih true (kind :: opened)]
    cases inItem <;> rfl

theorem foldl_closeListParts (kinds below : List ListKind) :
    (closeListParts kinds).foldl ListPart.listsAfter (kinds ++ below) = below := by
  induction kinds with
  | nil => rfl
  | cons kind kinds ih =>
    have closed : ((kind :: kinds) ++ below).erase kind = kinds ++ below :=
      List.erase_cons_head kind (kinds ++ below)
    rw [closeListParts_cons]
    simp only [List.foldl_cons, ListPart.listsAfter, closed, ih]

theorem foldl_partsBefore (opened : List ListKind) (item : ListItem) :
    (partsBefore opened item).foldl ListPart.listsAfter opened = openedAt opened item := by
  rw [partsBefore, openedAt]
  split
  · rw [List.foldl_append, foldl_openListParts]
    rfl
  · have closed := foldl_closeListParts (opened.take (opened.length - item.depth))
      (opened.drop (opened.length - item.depth))
    rw [List.take_append_drop] at closed
    rw [List.foldl_append, closed]
    rfl

def openedBehind (items : List ListItem) : List ListKind :=
  items.foldl openedAt []

theorem openedBehind_concat (items : List ListItem) (item : ListItem) :
    openedBehind (items ++ [item]) = openedAt (openedBehind items) item := by
  rw [openedBehind, List.foldl_append]
  rfl

theorem length_openedBehind_concat (items : List ListItem) (item : ListItem) :
    (openedBehind (items ++ [item])).length = item.depth := by
  rw [openedBehind_concat, length_openedAt]

theorem exists_listParts_split (opened : List ListKind) (above : List ListItem) (item : ListItem)
    (below : List ListItem) :
    ∃ front back, listParts opened (above ++ item :: below) = front ++ .openItem item.text :: back ∧
      itemTexts front = above.map ListItem.text ∧
      front.foldl ListPart.listsAfter opened = openedAt (above.foldl openedAt opened) item := by
  induction above generalizing opened with
  | nil =>
    exact ⟨partsBefore opened item, _, rfl, itemTexts_partsBefore opened item,
      foldl_partsBefore opened item⟩
  | cons first above ih =>
    obtain ⟨front, back, same, texts, lists⟩ := ih (openedAt opened first)
    refine ⟨partsBefore opened first ++ .openItem first.text :: front, back, ?_, ?_, ?_⟩
    · rw [List.cons_append, listParts, same, List.append_assoc, List.cons_append]
    · rw [itemTexts_append, itemTexts_partsBefore, List.nil_append, List.map_cons, ← texts]
      rfl
    · rw [List.foldl_append, foldl_partsBefore]
      exact lists

/-- The first of the last items that are all so deep: the one that has opened the list of this depth
    that the last of them is in. -/
def opener? (depth : Nat) (items : List ListItem) : Option ListItem :=
  (items.reverse.takeWhile (depth ≤ ·.depth)).getLast?

theorem opener?_concat {depth : Nat} {item : ListItem} (reached : depth ≤ item.depth)
    (items : List ListItem) :
    opener? depth (items ++ [item]) = some ((opener? depth items).getD item) := by
  rw [opener?, List.reverse_append, List.reverse_singleton, List.singleton_append,
    List.takeWhile_cons_of_pos (by simpa using reached), List.getLast?_cons]
  rfl

theorem opener?_eq_none {depth : Nat} {items : List ListItem}
    (shallow : (openedBehind items).length < depth) : opener? depth items = none := by
  rcases List.eq_nil_or_concat items with rfl | ⟨others, last, rfl⟩
  · rfl
  · rw [List.concat_eq_append] at shallow ⊢
    rw [length_openedBehind_concat] at shallow
    rw [opener?, List.reverse_append, List.reverse_singleton, List.singleton_append,
      List.takeWhile_cons_of_neg (by simpa using shallow)]
    rfl

theorem getElem?_openedBehind {depth : Nat} {items : List ListItem} (pos : 0 < depth)
    (reached : depth ≤ (openedBehind items).length) :
    (openedBehind items)[(openedBehind items).length - depth]? =
      (opener? depth items).map ListItem.kind := by
  induction items using List.reverseRecOn with
  | nil => exact absurd (Nat.le_zero.mp reached) pos.ne'
  | append_singleton items item ih =>
    rw [length_openedBehind_concat] at reached ⊢
    rw [opener?_concat reached, openedBehind_concat]
    by_cases opens : (openedBehind items).length < depth
    · have deeper : (openedBehind items).length < item.depth := by omega
      have inside : item.depth - depth < item.depth - (openedBehind items).length := by omega
      rw [opener?_eq_none opens, openedAt, if_pos deeper, List.getElem?_append_left (by simpa),
        List.getElem?_replicate_of_lt inside]
      rfl
    · have kept := ih (Nat.not_lt.mp opens)
      obtain ⟨opener, found⟩ : ∃ opener, opener? depth items = some opener := by
        have inside : (openedBehind items).length - depth < (openedBehind items).length := by omega
        rw [List.getElem?_eq_getElem inside] at kept
        cases found : opener? depth items with
        | none =>
          rw [found] at kept
          cases kept
        | some opener => exact ⟨opener, rfl⟩
      rw [found] at kept ⊢
      rw [Option.getD_some, ← kept, openedAt]
      split
      · rw [List.getElem?_append_right (by simp; omega), List.length_replicate]
        congr 1
        omega
      · rw [List.getElem?_drop]
        congr 1
        omega

theorem exists_place (above : List ListItem) {item : ListItem} (deep : 0 < item.depth)
    (below : List ListItem) :
    ∃ front back opener,
      listParts [] (above ++ item :: below) = front ++ .openItem item.text :: back ∧
      itemTexts front = above.map ListItem.text ∧ itemTexts back = below.map ListItem.text ∧
      (listsBehind front).length = item.depth ∧
      opener? item.depth (above ++ [item]) = some opener ∧
      (listsBehind front).head? = some opener.kind := by
  obtain ⟨front, back, same, textsFront, lists⟩ := exists_listParts_split [] above item below
  have behind : listsBehind front = openedBehind (above ++ [item]) :=
    lists.trans (openedBehind_concat above item).symm
  have size := length_openedBehind_concat above item
  have opening := opener?_concat (le_refl item.depth) above
  have innermost := getElem?_openedBehind deep size.ge
  rw [size, Nat.sub_self, ← List.head?_eq_getElem?, opening] at innermost
  have textsBack := itemTexts_listParts [] (above ++ item :: below)
  rw [same, itemTexts_append, textsFront, List.map_append, List.append_right_inj] at textsBack
  refine ⟨front, back, _, same, textsFront, (List.cons_eq_cons.mp textsBack).2, ?_, opening, ?_⟩
  · rw [behind, size]
  · rw [behind, innermost]
    rfl

theorem exists_items_split {block : List Char} {items : List ListItem}
    (listed : listItems? block = some items) {above below : List (List Char)} {line : List Char}
    (split : lines block = above ++ line :: below) :
    ∃ itemsAbove item itemsBelow, items = itemsAbove ++ item :: itemsBelow ∧
      ListItem.ofLine? line = some item ∧ itemsAbove.length = above.length ∧
      itemsAbove.map ListItem.text = above.map lineText ∧
      itemsBelow.map ListItem.text = below.map lineText := by
  have texts := texts_of_listItems? listed
  have read := map_ofLine?_of_listItems? listed
  rw [split, List.map_append, List.map_cons] at read
  obtain ⟨itemsAbove, others, rfl, readAbove, readOthers⟩ := List.map_eq_append_iff.mp read.symm
  obtain ⟨item, itemsBelow, rfl, readItem, -⟩ := List.map_eq_cons_iff.mp readOthers
  have sizes : itemsAbove.length = above.length := by
    simpa using congrArg List.length readAbove
  rw [split, List.map_append, List.map_append, List.map_cons, List.map_cons] at texts
  obtain ⟨textsAbove, textsOthers⟩ := List.append_inj texts (by simpa using sizes)
  exact ⟨itemsAbove, item, itemsBelow, rfl, readItem.symm, sizes, textsAbove,
    (List.cons_eq_cons.mp textsOthers).2⟩

/-- Each item stands in as many lists as its line has marks. The innermost of them is of the kind of
    the line that has opened it: the first of the lines, up to that of the item, that all have so many
    marks. -/
theorem listHtml_places_items (settings : Settings) {block : List Char} {items : List ListItem}
    (listed : listItems? block = some items) {above below : List (List Char)}
    {marks rest : List Char} {mark : Char}
    (line : lines block = above ++ (marks ++ mark :: rest) :: below)
    (marked : ∀ c ∈ marks ++ [mark], isListMark c = true) (gap : rest.head?.any isBlank = true) :
    listHtml settings items ++ ['\n'] =
        (listParts [] items).flatMap (ListPart.written settings) ∧
      ∃ front back opener,
        listParts [] items = front ++ .openItem (trimStart rest) :: back ∧
        itemTexts front = above.map lineText ∧ itemTexts back = below.map lineText ∧
        (listsBehind front).length = (marks ++ [mark]).length ∧
        opener? (marks ++ [mark]).length (items.take (above.length + 1)) = some opener ∧
        (listsBehind front).head? = some opener.kind := by
  have deep := depth_pos_of_listItems? listed
  obtain ⟨itemsAbove, item, itemsBelow, rfl, read, sizes, textsAbove, textsBelow⟩ :=
    exists_items_split listed line
  rw [ListItem.ofLine?_marks marked gap, Option.some.injEq] at read
  obtain ⟨front, back, opener, same, textsFront, textsBack, depth, opening, kind⟩ :=
    exists_place itemsAbove (deep item (by simp)) itemsBelow
  have size : item.depth = (marks ++ [mark]).length := by
    rw [← read, List.length_append, List.length_singleton]
  have text : item.text = trimStart rest := by rw [← read]
  have taken : (itemsAbove ++ item :: itemsBelow).take (above.length + 1) = itemsAbove ++ [item] := by
    rw [← sizes, List.take_length_add_append, List.take_succ_cons, List.take_zero]
  refine ⟨listHtml_concat settings deep (by simp), front, back, opener, ?_, ?_, ?_, ?_, ?_, kind⟩
  · rw [same, text]
  · rw [textsFront, textsAbove]
  · rw [textsBack, textsBelow]
  · rw [depth, size]
  · rw [taken, ← size, opening]

/-- A numbered line behind a bulleted one stands in the list of the bulleted one. -/
theorem numbered_line_in_bulleted_list :
    listItems? "* a\n# b".toList = some [⟨1, .bulleted, "a".toList⟩, ⟨1, .ordered, "b".toList⟩] ∧
      listHtml {} [⟨1, .bulleted, "a".toList⟩, ⟨1, .ordered, "b".toList⟩] =
        "<ul>\n\t<li>a</li>\n\t<li>b</li>\n</ul>".toList ∧
      listParts [] [⟨1, .bulleted, "a".toList⟩, ⟨1, .ordered, "b".toList⟩] =
        [.openList .bulleted, .lineFeed, .tab, .openItem "a".toList, .closeItem, .lineFeed, .tab] ++
          .openItem "b".toList :: [.closeItem, .lineFeed, .closeList .bulleted, .lineFeed] ∧
      listsBehind [.openList .bulleted, .lineFeed, .tab, .openItem "a".toList, .closeItem, .lineFeed,
        .tab] = [.bulleted] ∧
      ListKind.ofMark '#' ≠ .bulleted :=
  ⟨rfl, by cbv, rfl, rfl, by decide⟩

theorem listHtml_places_items_of_inner_line :
    listItems? "# a\n#* b\n#* c\n# d".toList = some [⟨1, .ordered, "a".toList⟩,
        ⟨2, .bulleted, "b".toList⟩, ⟨2, .bulleted, "c".toList⟩, ⟨1, .ordered, "d".toList⟩] ∧
      lines "# a\n#* b\n#* c\n# d".toList =
        ["# a".toList, "#* b".toList] ++ ("#".toList ++ '*' :: " c".toList) :: ["# d".toList] ∧
      (∀ c ∈ "#".toList ++ ['*'], isListMark c = true) ∧ " c".toList.head?.any isBlank = true ∧
      ∃ front back, listParts [] [⟨1, .ordered, "a".toList⟩, ⟨2, .bulleted, "b".toList⟩,
          ⟨2, .bulleted, "c".toList⟩, ⟨1, .ordered, "d".toList⟩] =
            front ++ .openItem "c".toList :: back ∧
        itemTexts front = ["a".toList, "b".toList] ∧ (listsBehind front).length = 2 ∧
        (listsBehind front).head? = some .bulleted := by
  have listed : listItems? "# a\n#* b\n#* c\n# d".toList = some [⟨1, .ordered, "a".toList⟩,
      ⟨2, .bulleted, "b".toList⟩, ⟨2, .bulleted, "c".toList⟩, ⟨1, .ordered, "d".toList⟩] := rfl
  have line : lines "# a\n#* b\n#* c\n# d".toList =
      ["# a".toList, "#* b".toList] ++ ("#".toList ++ '*' :: " c".toList) :: ["# d".toList] := rfl
  have marked : ∀ c ∈ "#".toList ++ ['*'], isListMark c = true := List.all_eq_true.mp rfl
  have gap : " c".toList.head?.any isBlank = true := by decide
  obtain ⟨-, front, back, opener, same, texts, -, depth, opening, kind⟩ :=
    listHtml_places_items {} listed line marked gap
  cases opening
  exact ⟨listed, line, marked, gap, front, back, same, texts, depth, kind⟩

end TopicWiki.Textile
