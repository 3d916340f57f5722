import Mathlib.Data.List.Basic
import TopicWiki.Proofs.Text.Lines
import TopicWiki.Proofs.Text.Trim
import TopicWiki.Textile.Listing

namespace TopicWiki.Textile

open Text

inductive ListPart where
  | openList (kind : ListKind)
  | openItem (text : List Char)
  | closeItem
  | closeList (kind : ListKind)
  | lineFeed
  | tab
  deriving DecidableEq, Repr

def ListPart.written (settings : Settings) : ListPart → List Char
  | .openList kind => ['<'] ++ kind.tag ++ ['>']
  | .openItem text => "<li>".toList ++ inline settings text
  | .closeItem => "</li>".toList
  | .closeList kind => "</".toList ++ kind.tag ++ ['>']
  | .lineFeed => ['\n']
  | .tab => ['\t']

def openListParts (kind : ListKind) (inItem : Bool) : Nat → List ListPart
  | 0 => []
  | count + 1 =>
    (if inItem then [.lineFeed] else []) ++ [.openList kind, .lineFeed] ++
      openListParts kind true count

def closeListParts (kinds : List ListKind) : List ListPart :=
  kinds.flatMap fun kind => [.closeItem, .lineFeed, .closeList kind, .lineFeed]

def openedAt (opened : List ListKind) (item : ListItem) : List ListKind :=
  if opened.length < item.depth then
    List.replicate (item.depth - opened.length) item.kind ++ opened
  else opened.drop (opened.length - item.depth)

def partsBefore (opened : List ListKind) (item : ListItem) : List ListPart :=
  if opened.length < item.depth then
    openListParts item.kind (!opened.isEmpty) (item.depth - opened.length) ++ [.tab]
  else closeListParts (opened.take (opened.length - item.depth)) ++ [.closeItem, .lineFeed, .tab]

def listParts (opened : List ListKind) : List ListItem → List ListPart
  | [] => closeListParts opened
  | item :: rest =>
    partsBefore opened item ++ .openItem item.text :: listParts (openedAt opened item) rest

theorem openLists_eq_written (settings : Settings) (kind : ListKind) (inItem : Bool) (count : Nat) :
    openLists kind inItem count =
      (openListParts kind inItem count).flatMap (ListPart.written settings) := by
  induction count generalizing inItem with
  | zero => rfl
  | succ count ih =>
    rw [openLists, openListParts, List.flatMap_append, ← ih]
    cases inItem <;> cases kind <;> rfl

theorem closeLists_eq_written (settings : Settings) (kinds : List ListKind) :
    closeLists kinds = (closeListParts kinds).flatMap (ListPart.written settings) := by
  induction kinds with
  | nil => rfl
  | cons kind kinds ih =>
    rw [closeLists, closeListParts, List.flatMap_cons, List.flatMap_cons, List.flatMap_append]
    rw [closeLists, closeListParts] at ih
    rw [ih]
    cases kind <;> rfl

theorem listFrom_eq_written (settings : Settings) (opened : List ListKind)
    (items : List ListItem) :
    listFrom settings opened items =
      (listParts opened items).flatMap (ListPart.written settings) := by
  induction items generalizing opened with
  | nil => exact closeLists_eq_written settings opened
  | cons item rest ih =>
    have entry : "\t<li>".toList ++ inline settings item.text =
        [ListPart.tab, .openItem item.text].flatMap (ListPart.written settings) := by
      change _ = ['\t'] ++ ("<li>".toList ++ inline settings item.text ++ [])
      rw [List.append_nil]
      rfl
    rw [listFrom, listParts, partsBefore, openedAt]
    split
    · simp only [entry, ih, openLists_eq_written settings, ← List.flatMap_append, List.append_assoc,
        List.cons_append, List.nil_append]
    · have step : "</li>\n".toList = [ListPart.closeItem, .lineFeed].flatMap (ListPart.written settings) :=
        rfl
      simp only [entry, step, ih, closeLists_eq_written settings, ← List.flatMap_append,
        List.append_assoc, List.cons_append, List.nil_append]

theorem length_openedAt (opened : List ListKind) (item : ListItem) :
    (openedAt opened item).length = item.depth := by
  unfold openedAt
  split
  · rw [List.length_append, List.length_replicate]
    omega
  · rw [List.length_drop]
    omega

theorem openedAt_ne_nil {item : ListItem} (deep : 0 < item.depth) (opened : List ListKind) :
    openedAt opened item ≠ [] := by
  rw [← List.length_pos_iff, length_openedAt]
  exact deep

theorem closeListParts_append (front back : List ListKind) :
    closeListParts (front ++ back) = closeListParts front ++ closeListParts back :=
  List.flatMap_append

theorem exists_listParts_concat {opened : List ListKind} {items : List ListItem}
    (deep : ∀ item ∈ items, 0 < item.depth) (some : opened ≠ [] ∨ items ≠ []) :
    ∃ front kind, listParts opened items = front ++ [.closeList kind, .lineFeed] := by
  induction items generalizing opened with
  | nil =>
    obtain ⟨inner, outermost, rfl⟩ :=
      (List.eq_nil_or_concat opened).resolve_left (some.resolve_right fun none => none rfl)
    refine ⟨closeListParts inner ++ [.closeItem, .lineFeed], outermost, ?_⟩
    rw [listParts, List.concat_eq_append, closeListParts_append, List.append_assoc]
    rfl
  | cons item rest ih =>
    obtain ⟨deepItem, deepRest⟩ := List.forall_mem_cons.mp deep
    obtain ⟨front, kind, same⟩ := ih deepRest (.inl (openedAt_ne_nil deepItem opened))
    refine ⟨partsBefore opened item ++ .openItem item.text :: front, kind, ?_⟩
    rw [listParts, same, List.append_assoc, List.cons_append]

theorem listHtml_concat (settings : Settings) {items : List ListItem}
    (deep : ∀ item ∈ items, 0 < item.depth) (nonempty : items ≠ []) :
    listHtml settings items ++ ['\n'] =
      (listParts [] items).flatMap (ListPart.written settings) := by
  obtain ⟨front, kind, same⟩ := @exists_listParts_concat [] items deep (.inr nonempty)
  have ends : (listParts [] items).flatMap (ListPart.written settings) =
      front.flatMap (ListPart.written settings) ++ ("</".toList ++ kind.tag) ++ ['>'] ++ ['\n'] := by
    rw [same, List.flatMap_append]
    simp only [List.append_assoc, List.append_right_inj]
    cases kind <;> rfl
  have blank : allBlank ['\n'] = true := rfl
  have solid : isBlank '>' = false := by decide
  rw [listHtml, listFrom_eq_written, ends, trimEnd_append, if_pos blank, trimEnd_of_last solid]

inductive ListElement where
  | list (kind : ListKind)
  | item
  deriving DecidableEq, Repr

/-- The elements that are open behind the closing tag of an element, the innermost first. It is refused
    unless it is that of the innermost. -/
def closing? (element : ListElement) : List ListElement → Option (List ListElement)
  | [] => none
  | innermost :: opened => if innermost = element then some opened else none

def ListPart.after (opened : List ListElement) : ListPart → Option (List ListElement)
  | .openList kind => some (.list kind :: opened)
  | .openItem _ => some (.item :: opened)
  | .closeItem => closing? .item opened
  | .closeList kind => closing? (.list kind) opened
  | .lineFeed => some opened
  | .tab => some opened

def elementsBehind (opened : List ListElement) (parts : List ListPart) :
    Option (List ListElement) :=
  parts.foldlM ListPart.after opened

/-- Read from left to right, every closing tag is that of the element opened last, and no element is
    left open. -/
def WellFormed (parts : List ListPart) : Prop :=
  elementsBehind [] parts = some []

instance (parts : List ListPart) : Decidable (WellFormed parts) :=
  inferInstanceAs (Decidable (_ = _))

theorem elementsBehind_cons (opened : List ListElement) (part : ListPart) (parts : List ListPart) :
    elementsBehind opened (part :: parts) =
      (part.after opened).bind fun opened => elementsBehind opened parts :=
  rfl

theorem elementsBehind_append (opened : List ListElement) (front back : List ListPart) :
    elementsBehind opened (front ++ back) =
      (elementsBehind opened front).bind fun opened => elementsBehind opened back :=
  List.foldlM_append

def occupied (opened : List ListKind) : List ListElement :=
  opened.flatMap fun kind => [.item, .list kind]

theorem occupied_cons (kind : ListKind) (opened : List ListKind) :
    occupied (kind :: opened) = .item :: .list kind :: occupied opened :=
  rfl

theorem closing?_self (element : ListElement) (opened : List ListElement) :
    closing? element (element :: opened) = some opened :=
  if_pos rfl

theorem closeListParts_cons (kind : ListKind) (kinds : List ListKind) :
    closeListParts (kind :: kinds) =
      .closeItem :: .lineFeed :: .closeList kind :: .lineFeed :: closeListParts kinds :=
  rfl

theorem elementsBehind_closeListParts (kinds : List ListKind) (below : List ListElement) :
    elementsBehind (occupied kinds ++ below) (closeListParts kinds) = some below := by
  induction kinds with
  | nil => rfl
  | cons kind kinds ih =>
    simp only [closeListParts_cons, occupied_cons, List.cons_append, elementsBehind_cons,
      ListPart.after, closing?_self, Option.bind_some, ih]

/-- The closing tag of an item is refused where the innermost element is a list. -/
theorem elementsBehind_of_bare (kinds : List ListKind) (kind : ListKind) (below : List ListElement)
    (parts : List ListPart) :
    elementsBehind (.list kind :: below) (closeListParts kinds ++ .closeItem :: parts) = none := by
  cases kinds <;> rfl

theorem elementsBehind_openListParts (kind : ListKind) (inItem : Bool) (count : Nat)
    (opened : List ListElement) :
    elementsBehind opened (openListParts kind inItem count) =
      some (List.replicate count (.list kind) ++ opened) := by
  induction count generalizing inItem opened with
  | zero => rfl
  | succ count ih =>
    have rest := ih true (.list kind :: opened)
    have moved : List.replicate (count + 1) (ListElement.list kind) ++ opened =
        List.replicate count (.list kind) ++ .list kind :: opened := by
      rw [List.replicate_succ', List.append_assoc, List.singleton_append]
    rw [openListParts, moved, ← rest]
    cases inItem <;> rfl

theorem elementsBehind_startedLists (kind : ListKind) (inItem : Bool) (count : Nat)
    (text : List Char) (below : List ListElement) :
    elementsBehind below (openListParts kind inItem count ++ [.tab] ++ [.openItem text]) =
      some (.item :: (List.replicate count (.list kind) ++ below)) := by
  rw [List.append_assoc, elementsBehind_append, elementsBehind_openListParts]
  rfl

theorem elementsBehind_endedLists {opened : List ListKind} {count : Nat}
    (remains : count < opened.length) (text : List Char) (below : List ListElement) :
    elementsBehind (occupied opened ++ below)
        (closeListParts (opened.take count) ++ [.closeItem, .lineFeed, .tab] ++ [.openItem text]) =
      some (occupied (opened.drop count) ++ below) := by
  have kept : opened.drop count ≠ [] := by
    rw [← List.length_pos_iff, List.length_drop]
    omega
  obtain ⟨kind, outer, same⟩ := List.exists_cons_of_ne_nil kept
  have whole : occupied opened = occupied (opened.take count) ++ occupied (kind :: outer) := by
    rw [← same, occupied, occupied, occupied, ← List.flatMap_append, List.take_append_drop]
  rw [whole, same, List.append_assoc, List.append_assoc, elementsBehind_append,
    elementsBehind_closeListParts, Option.bind_some]
  rfl

theorem elementsBehind_item {opened : List ListKind} {item : ListItem} (deep : 0 < item.depth)
    (gradual : item.depth ≤ opened.length + 1) :
    elementsBehind (occupied opened) (partsBefore opened item ++ [.openItem item.text]) =
      some (occupied (openedAt opened item)) := by
  rw [partsBefore, openedAt]
  split
  · have single : item.depth - opened.length = 1 := by omega
    rw [single, elementsBehind_startedLists]
    rfl
  · have remains : opened.length - item.depth < opened.length := by omega
    have kept := elementsBehind_endedLists remains item.text []
    rwa [List.append_nil, List.append_nil] at kept

theorem elementsBehind_listParts_cons (opened : List ListKind) (item : ListItem)
    (rest : List ListItem) (elements : List ListElement) :
    elementsBehind elements (listParts opened (item :: rest)) =
      (elementsBehind elements (partsBefore opened item ++ [.openItem item.text])).bind
        fun elements => elementsBehind elements (listParts (openedAt opened item) rest) := by
  rw [listParts, ← List.singleton_append, ← List.append_assoc, elementsBehind_append]

theorem elementsBehind_listParts_of_bare {inner outer : List ListKind} {kind : ListKind}
    {below : List ListElement} {items : List ListItem} (deep : ∀ item ∈ items, 0 < item.depth)
    (nonempty : inner ≠ []) :
    elementsBehind (occupied inner ++ .list kind :: below)
      (listParts (inner ++ kind :: outer) items) = none := by
  induction items generalizing inner outer kind below with
  | nil =>
    rw [listParts, closeListParts_append, elementsBehind_append, elementsBehind_closeListParts]
    rfl
  | cons item rest ih =>
    obtain ⟨deepItem, deepRest⟩ := List.forall_mem_cons.mp deep
    rw [elementsBehind_listParts_cons, partsBefore, openedAt]
    split
    · rename_i deeper
      obtain ⟨count, missing⟩ : ∃ count, item.depth - (inner ++ kind :: outer).length = count + 1 :=
        Nat.exists_eq_add_one.mpr (by omega)
      rw [missing, elementsBehind_startedLists]
      cases count with
      | zero => exact @ih (item.kind :: inner) _ _ _ deepRest (List.cons_ne_nil _ _)
      | succ count => exact @ih [item.kind] _ _ _ deepRest (List.cons_ne_nil _ _)
    · generalize (inner ++ kind :: outer).length - item.depth = ended
      by_cases within : ended < inner.length
      · have kept : inner.drop ended ≠ [] := by
          rw [← List.length_pos_iff, List.length_drop]
          omega
        rw [List.take_append_of_le_length within.le, List.drop_append_of_le_length within.le,
          elementsBehind_endedLists within]
        exact ih deepRest kept
      · rw [List.take_append, List.take_of_length_le (Nat.not_lt.mp within), closeListParts_append]
        simp only [List.append_assoc]
        rw [elementsBehind_append, elementsBehind_closeListParts, Option.bind_some,
          List.cons_append, elementsBehind_of_bare, Option.bind_none]

/-- Each item is at most one list deeper than the one before, the first of all in a single list. -/
def Gradual (items : List ListItem) : Prop :=
  List.IsChain (fun depth next => next ≤ depth + 1) (0 :: items.map ListItem.depth)

instance (items : List ListItem) : Decidable (Gradual items) :=
  inferInstanceAs (Decidable (List.IsChain _ _))

theorem elementsBehind_listParts_iff (opened : List ListKind) {items : List ListItem}
    (deep : ∀ item ∈ items, 0 < item.depth) :
    elementsBehind (occupied opened) (listParts opened items) = some [] ↔
      List.IsChain (fun depth next => next ≤ depth + 1)
        (opened.length :: items.map ListItem.depth) := by
  induction items generalizing opened with
  | nil =>
    have closed := elementsBehind_closeListParts opened []
    rw [List.append_nil] at closed
    exact iff_of_true closed (.singleton _)
  | cons item rest ih =>
    obtain ⟨deepItem, deepRest⟩ := List.forall_mem_cons.mp deep
    rw [elementsBehind_listParts_cons, List.map_cons, List.isChain_cons_cons]
    by_cases gradual : item.depth ≤ opened.length + 1
    · have later := ih (openedAt opened item) deepRest
      rw [length_openedAt] at later
      rw [elementsBehind_item deepItem gradual, Option.bind_some, later]
      exact (and_iff_right gradual).symm
    · have deeper : opened.length < item.depth := by omega
      obtain ⟨count, missing⟩ : ∃ count, item.depth - opened.length = count + 2 :=
        Nat.exists_eq_add_of_le' (by omega)
      let outer := List.replicate count item.kind ++ opened
      let below := List.replicate count (.list item.kind) ++ occupied opened
      have bare := @elementsBehind_listParts_of_bare [item.kind] outer item.kind below rest deepRest
        (List.cons_ne_nil _ _)
      rw [partsBefore, openedAt, if_pos deeper, if_pos deeper, missing, elementsBehind_startedLists]
      exact iff_of_false (fun closed => Option.some_ne_none _ (closed.symm.trans bare))
        fun chain => gradual chain.1

theorem wellFormed_listParts_iff {items : List ListItem} (deep : ∀ item ∈ items, 0 < item.depth) :
    WellFormed (listParts [] items) ↔ Gradual items :=
  elementsBehind_listParts_iff [] deep

def ListPart.itemText? : ListPart → Option (List Char)
  | .openItem text => some text
  | _ => none

def itemTexts (parts : List ListPart) : List (List Char) :=
  parts.filterMap ListPart.itemText?

theorem itemTexts_append (front back : List ListPart) :
    itemTexts (front ++ back) = itemTexts front ++ itemTexts back :=
  List.filterMap_append

theorem itemTexts_openListParts (kind : ListKind) (inItem : Bool) (count : Nat) :
    itemTexts (openListParts kind inItem count) = [] := by
  induction count generalizing inItem with
  | zero => rfl
  | succ count ih =>
    rw [openListParts, itemTexts_append, ih]
    cases inItem <;> rfl

theorem itemTexts_closeListParts (kinds : List ListKind) : itemTexts (closeListParts kinds) = [] := by
  induction kinds with
  | nil => rfl
  | cons kind kinds ih => exact ih

theorem itemTexts_partsBefore (opened : List ListKind) (item : ListItem) :
    itemTexts (partsBefore opened item) = [] := by
  rw [partsBefore]
  split
  · rw [itemTexts_append, itemTexts_openListParts]
    rfl
  · rw [itemTexts_append, itemTexts_closeListParts]
    rfl

theorem itemTexts_listParts (opened : List ListKind) (items : List ListItem) :
    itemTexts (listParts opened items) = items.map ListItem.text := by
  induction items generalizing opened with
  | nil => exact itemTexts_closeListParts opened
  | cons item rest ih =>
    rw [listParts, itemTexts_append, itemTexts_partsBefore, List.nil_append, List.map_cons,
      ← ih (openedAt opened item)]
    rfl

def ListKind.ofMark (mark : Char) : ListKind :=
  if mark = '#' then .ordered else .bulleted

theorem ListItem.ofLine?_marks {marks rest : List Char} {mark : Char}
    (marked : ∀ c ∈ marks ++ [mark], isListMark c = true) (gap : rest.head?.any isBlank = true) :
    ListItem.ofLine? (marks ++ mark :: rest) =
      some ⟨marks.length + 1, .ofMark mark, trimStart rest⟩ := by
  obtain ⟨c, after, rfl, blank⟩ : ∃ c after, rest = c :: after ∧ isBlank c = true := by
    cases rest with
    | nil => cases gap
    | cons c after => exact ⟨c, after, rfl, gap⟩
  have unmarked : isListMark c = false := by
    rw [isListMark, Bool.or_eq_false_iff]
    constructor <;> apply beq_false_of_ne <;> rintro rfl <;> revert blank <;> decide
  have whole : marks ++ mark :: c :: after = (marks ++ [mark]) ++ c :: after := by simp
  have taken : (marks ++ mark :: c :: after).takeWhile isListMark = marks ++ [mark] := by
    rw [whole, List.takeWhile_append_of_pos marked, List.takeWhile_cons_of_neg (by simp [unmarked]),
      List.append_nil]
  have dropped : (marks ++ mark :: c :: after).dropWhile isListMark = c :: after := by
    rw [whole, List.dropWhile_append_of_pos marked, List.dropWhile_cons_of_neg (by simp [unmarked])]
  simp only [ListItem.ofLine?, spanWhile, taken, dropped, List.getLast?_concat, blank, if_true,
    List.length_append, List.length_singleton, ListKind.ofMark]

theorem ListItem.ofLine?_eq_some {line : List Char} {item : ListItem}
    (read : ListItem.ofLine? line = some item) :
    0 < item.depth ∧ item.text = trimStart (line.dropWhile isListMark) := by
  simp only [ListItem.ofLine?, spanWhile] at read
  split at read
  · rename_i mark c rest last same
    split at read
    · cases read
      refine ⟨List.length_pos_iff.mpr ?_, by rw [same]⟩
      intro none
      rw [none] at last
      cases last
    · cases read
  · cases read

theorem lines_ne_nil {text : List Char} (nonempty : text ≠ []) : lines text ≠ [] := by
  by_cases broken : '\n' ∈ text
  · obtain ⟨front, back, rfl⟩ := List.append_of_mem broken
    rw [lines_append]
    simp [splitOnChar_ne_nil]
  · have cut : splitOnChar '\n' text = [] ++ [text] := splitOnChar_of_absent broken
    rw [lines_of_split cut, if_neg nonempty]
    simp

section

variable {block : List Char} {items : List ListItem}

theorem map_ofLine?_of_listItems? (listed : listItems? block = some items) :
    (lines block).map ListItem.ofLine? = items.map some := by
  unfold listItems? at listed
  generalize lines block = lines at listed ⊢
  induction lines generalizing items with
  | nil =>
    cases listed
    rfl
  | cons line lines ih =>
    rw [List.mapM_cons] at listed
    cases read : ListItem.ofLine? line with
    | none =>
      rw [read] at listed
      cases listed
    | some item =>
      cases later : lines.mapM ListItem.ofLine? with
      | none =>
        rw [read, later] at listed
        cases listed
      | some rest =>
        rw [read, later] at listed
        cases listed
        rw [List.map_cons, List.map_cons, read, ih later]

theorem listItems?_ne_nil (listed : listItems? block = some items) (nonempty : block ≠ []) :
    items ≠ [] := by
  rintro rfl
  have same := map_ofLine?_of_listItems? listed
  exact lines_ne_nil nonempty (List.map_eq_nil_iff.mp same)

theorem depth_pos_of_listItems? (listed : listItems? block = some items) :
    ∀ item ∈ items, 0 < item.depth := by
  intro item member
  have read := List.mem_map_of_mem (f := some) member
  rw [← map_ofLine?_of_listItems? listed] at read
  obtain ⟨line, -, same⟩ := List.mem_map.mp read
  exact (ListItem.ofLine?_eq_some same).1

def lineText (line : List Char) : List Char :=
  trimStart (line.dropWhile isListMark)

theorem texts_of_listItems? (listed : listItems? block = some items) :
    items.map ListItem.text = (lines block).map lineText := by
  have same := map_ofLine?_of_listItems? listed
  clear listed
  generalize lines block = lines at same ⊢
  induction lines generalizing items with
  | nil =>
    rw [List.map_eq_nil_iff.mp same.symm]
    rfl
  | cons line lines ih =>
    cases items with
    | nil => cases same
    | cons item rest =>
      obtain ⟨read, later⟩ := List.cons_eq_cons.mp same
      rw [List.map_cons, List.map_cons, (ListItem.ofLine?_eq_some read).2, ih later]
      rfl

/-- A list has one item for each line, in order. Its elements are closed in the reverse of the order
    they are opened in, exactly when no line has more than one mark more than the line before: where
    several lists are opened at once, only the innermost has an item to be closed. -/
theorem listHtml_wellFormed_iff (settings : Settings) (listed : listItems? block = some items)
    (nonempty : block ≠ []) :
    listHtml settings items ++ ['\n'] =
        (listParts [] items).flatMap (ListPart.written settings) ∧
      itemTexts (listParts [] items) = (lines block).map lineText ∧
      (WellFormed (listParts [] items) ↔ Gradual items) := by
  have deep := depth_pos_of_listItems? listed
  refine ⟨listHtml_concat settings deep (listItems?_ne_nil listed nonempty), ?_,
    wellFormed_listParts_iff deep⟩
  rw [itemTexts_listParts, texts_of_listItems? listed]

end

/-- A first line with two marks opens two lists and one item, and two items are closed. -/
theorem two_marks_not_wellFormed :
    listItems? "** a".toList = some [⟨2, .bulleted, "a".toList⟩] ∧
      listHtml {} [⟨2, .bulleted, "a".toList⟩] =
        "<ul>\n\n<ul>\n\t<li>a</li>\n</ul>\n</li>\n</ul>".toList ∧
      ¬ WellFormed (listParts [] [⟨2, .bulleted, "a".toList⟩]) :=
  ⟨rfl, by cbv, by decide⟩

def threeDeep : List Char :=
  "# a\n#* b\n#*# c\n* d".toList

theorem listHtml_wellFormed_three_deep :
    listItems? threeDeep = some [⟨1, .ordered, "a".toList⟩, ⟨2, .bulleted, "b".toList⟩,
        ⟨3, .ordered, "c".toList⟩, ⟨1, .bulleted, "d".toList⟩] ∧ threeDeep ≠ [] ∧
      WellFormed (listParts [] [⟨1, .ordered, "a".toList⟩, ⟨2, .bulleted, "b".toList⟩,
        ⟨3, .ordered, "c".toList⟩, ⟨1, .bulleted, "d".toList⟩]) := by
  have listed : listItems? threeDeep = some [⟨1, .ordered, "a".toList⟩,
      ⟨2, .bulleted, "b".toList⟩, ⟨3, .ordered, "c".toList⟩, ⟨1, .bulleted, "d".toList⟩] := by
    rfl
  have nonempty : threeDeep ≠ [] := by decide
  exact ⟨listed, nonempty, (listHtml_wellFormed_iff {} listed nonempty).2.2.mpr (by decide)⟩

end TopicWiki.Textile
