import TopicWiki.Proofs.Element.AttributeChanges
import TopicWiki.Proofs.Text.Escaping
import TopicWiki.Text.Blank

namespace TopicWiki

namespace Text

/-- Reads the entities of an attribute value from left to right. What is no entity stands for
    itself. -/
def undoEntities : List Char → List Char
  | '&' :: 'a' :: 'm' :: 'p' :: ';' :: rest => '&' :: undoEntities rest
  | '&' :: 'l' :: 't' :: ';' :: rest => '<' :: undoEntities rest
  | '&' :: 'g' :: 't' :: ';' :: rest => '>' :: undoEntities rest
  | '&' :: 'q' :: 'u' :: 'o' :: 't' :: ';' :: rest => '"' :: undoEntities rest
  | c :: rest => c :: undoEntities rest
  | [] => []

theorem undoEntities_cons {c : Char} (plain : c ≠ '&') (rest : List Char) :
    undoEntities (c :: rest) = c :: undoEntities rest := by
  rw [undoEntities] <;> exact fun _ same => absurd same plain

theorem undoEntities_escapeAttribute (text : List Char) :
    undoEntities (escapeAttribute text) = text := by
  induction text with
  | nil => rfl
  | cons c rest ih =>
    cases written : attributeEntity? c with
    | none =>
      -- Ampersands are always written as entities, so this character begins none.
      have plain := not_special_of_unwritten written
      have other : c ≠ '&' := fun same => plain (by simp [same, attributeSpecials])
      have kept : escapeAttribute (c :: rest) = c :: escapeAttribute rest := by
        simp [escapeAttribute, escapeWith, written]
      rw [kept, undoEntities_cons other, ih]
    | some entity =>
      unfold attributeEntity? textEntity? at written
      split at written
      · exact congrArg _ ih
      · split at written
        all_goals first | exact congrArg _ ih | cases written

end Text

/-- A start tag at the head of a text, as it is read, and the text behind it. -/
structure StartTag where
  tag : String
  attributes : List (String × String)
  closesItself : Bool
  behind : List Char
  deriving DecidableEq, Repr

namespace StartTag

open Text

def isNameChar (c : Char) : Bool :=
  !(isBlank c || ['"', '=', '<', '>', '/'].contains c)

def attribute? (text : List Char) : Option ((String × String) × List Char) :=
  match text.dropWhile isNameChar with
  | '=' :: '"' :: quoted =>
    match quoted.dropWhile (· ≠ '"') with
    | '"' :: rest =>
      let value := undoEntities (quoted.takeWhile (· ≠ '"'))
      some ((String.ofList (text.takeWhile isNameChar), String.ofList value), rest)
    | _ => none
  | _ => none

def close? : List Char → Option (Bool × List Char)
  | '>' :: rest => some (false, rest)
  | '/' :: '>' :: rest => some (true, rest)
  | _ => none

theorem attribute?_shorter {text rest : List Char} {entry : String × String}
    (read : attribute? text = some (entry, rest)) : rest.length < text.length := by
  unfold attribute? at read
  split at read
  · rename_i quoted named
    split at read
    · rename_i rest' valued
      cases read
      have first := (List.dropWhile_suffix isNameChar (l := text)).length_le
      have second := (List.dropWhile_suffix (· ≠ '"') (l := quoted)).length_le
      rw [named] at first
      rw [valued] at second
      simp only [List.length_cons] at first second
      omega
    · cases read
  · cases read

def attributes? (text : List Char) : Option (List (String × String) × Bool × List Char) :=
  match close? (text.dropWhile isBlank) with
  | some (closesItself, behind) => some ([], closesItself, behind)
  | none =>
    match _read : attribute? (text.dropWhile isBlank) with
    | some (entry, rest) =>
      (attributes? rest).map fun (entries, closing) => (entry :: entries, closing)
    | none => none
termination_by text.length
decreasing_by
  have shorter := attribute?_shorter _read
  have trimmed := (List.dropWhile_suffix isBlank (l := text)).length_le
  omega

def read? : List Char → Option StartTag
  | '<' :: text =>
    (attributes? (text.dropWhile isNameChar)).map fun (attributes, closesItself, behind) =>
      { tag := String.ofList (text.takeWhile isNameChar), attributes, closesItself, behind }
  | _ => none

section

variable {name value text rest : List Char}

theorem dropWhile_isBlank_name (named : name.all isNameChar = true) (rest : List Char) :
    (name ++ '=' :: rest).dropWhile isBlank = name ++ '=' :: rest := by
  cases name with
  | nil => rfl
  | cons c name =>
    rw [List.all_cons, Bool.and_eq_true, isNameChar, Bool.not_eq_true', Bool.or_eq_false_iff] at named
    rw [List.cons_append, List.dropWhile_cons_of_neg (by simp [named.1.1])]

theorem close?_name (named : name.all isNameChar = true) (rest : List Char) :
    close? (name ++ '=' :: rest) = none := by
  cases name with
  | nil => rfl
  | cons c name =>
    rw [List.all_cons, Bool.and_eq_true] at named
    unfold close?
    split
    · rename_i same
      obtain ⟨rfl, -⟩ := List.cons.inj same
      cases named.1
    · rename_i same
      obtain ⟨rfl, -⟩ := List.cons.inj same
      cases named.1
    · rfl

theorem attribute?_written (named : name.all isNameChar = true) (unquoted : '"' ∉ value)
    (rest : List Char) : attribute? (name ++ '=' :: '"' :: (value ++ '"' :: rest)) =
      some ((String.ofList name, String.ofList (undoEntities value)), rest) := by
  have inName : ∀ c ∈ name, isNameChar c = true := List.all_eq_true.mp named
  have inValue : ∀ c ∈ value, (c ≠ '"' : Bool) = true :=
    fun c member => decide_eq_true (ne_of_mem_of_not_mem member unquoted)
  have nameEnds : isNameChar '=' = false := by decide
  unfold attribute?
  rw [List.dropWhile_append_of_pos inName, List.takeWhile_append_of_pos inName,
    List.dropWhile_cons_of_neg (by simp [nameEnds]),
    List.takeWhile_cons_of_neg (by simp [nameEnds])]
  simp only
  rw [List.dropWhile_append_of_pos inValue, List.takeWhile_append_of_pos inValue]
  simp

theorem attributes?_of_attribute? {entry : String × String}
    (unclosed : close? (text.dropWhile isBlank) = none)
    (read : attribute? (text.dropWhile isBlank) = some (entry, rest)) :
    attributes? text =
      (attributes? rest).map fun (entries, closing) => (entry :: entries, closing) := by
  rw [attributes?]
  split <;> rename_i found
  · rw [unclosed] at found
    cases found
  · split <;> rename_i found'
    · rw [read] at found'
      cases found'
      rfl
    · rw [read] at found'
      cases found'

theorem attributes?_attributeHtml {name : String} (named : name.toList.all isNameChar = true)
    (value : String) (rest : List Char) :
    attributes? ((Element.attributeHtml name value).toList ++ rest) =
      (attributes? rest).map fun (entries, closing) => ((name, value) :: entries, closing) := by
  have unquoted : '"' ∉ escapeAttribute value.toList :=
    not_mem_escapeAttribute (by decide) (by decide) value.toList
  let after := '"' :: (escapeAttribute value.toList ++ '"' :: rest)
  have written : (Element.attributeHtml name value).toList ++ rest =
      ' ' :: (name.toList ++ '=' :: after) := by
    simp [Element.attributeHtml, String.escapeAttribute, after]
  have start : (' ' :: (name.toList ++ '=' :: after)).dropWhile isBlank =
      name.toList ++ '=' :: after := by
    rw [List.dropWhile_cons_of_pos (by decide), dropWhile_isBlank_name named]
  rw [written]
  apply attributes?_of_attribute?
  · rw [start, close?_name named]
  · rw [start, attribute?_written named unquoted, undoEntities_escapeAttribute,
      String.ofList_toList, String.ofList_toList]

theorem attributes?_of_close? {closesItself : Bool} {behind : List Char}
    (closed : close? (text.dropWhile isBlank) = some (closesItself, behind)) :
    attributes? text = some ([], closesItself, behind) := by
  rw [attributes?]
  split <;> rename_i found
  · rw [closed] at found
    cases found
    rfl
  · rw [closed] at found
    cases found

theorem attributes?_written {entries : List (String × String)}
    (named : ∀ entry ∈ entries, entry.1.toList.all isNameChar = true) {closesItself : Bool}
    {behind : List Char} (closed : close? (text.dropWhile isBlank) = some (closesItself, behind)) :
    attributes? ((entries.flatMap fun entry => (Element.attributeHtml entry.1 entry.2).toList) ++
      text) = some (entries, closesItself, behind) := by
  induction entries with
  | nil => exact attributes?_of_close? closed
  | cons entry entries ih =>
    rw [List.forall_mem_cons] at named
    rw [List.flatMap_cons, List.append_assoc, attributes?_attributeHtml named.1, ih named.2]
    rfl

end

end StartTag

namespace Element

open StartTag Text

def closing (e : Element) : List Char × List Char :=
  match e.inner with
  | some inner => (['>'], (inner ++ "</" ++ e.tag ++ ">").toList)
  | none => (['/', '>'], [])

def behindTag (e : Element) : List Char :=
  (e.attributes.flatMap fun entry => (attributeHtml entry.1 entry.2).toList) ++
    (e.closing.1 ++ e.closing.2)

theorem html_toList (e : Element) : e.html.toList = '<' :: (e.tag.toList ++ e.behindTag) := by
  obtain ⟨tag, attributes, inner⟩ := e
  cases inner <;> simp [html, behindTag, closing, String.toList_join, List.flatMap_map]

theorem exists_behindTag (e : Element) :
    ∃ c rest, e.behindTag = c :: rest ∧ isNameChar c = false := by
  obtain ⟨tag, attributes, inner⟩ := e
  cases attributes with
  | cons entry attributes =>
    have written : (attributeHtml entry.1 entry.2).toList =
        ' ' :: (entry.1 ++ "=\"" ++ entry.2.escapeAttribute ++ "\"").toList := by
      simp [attributeHtml]
    simp only [behindTag, List.flatMap_cons, written, List.cons_append]
    exact ⟨' ', _, rfl, by decide⟩
  | nil =>
    cases inner with
    | some inner => exact ⟨'>', _, rfl, by decide⟩
    | none => exact ⟨'/', _, rfl, by decide⟩

theorem close?_closing (e : Element) :
    close? ((e.closing.1 ++ e.closing.2).dropWhile isBlank) =
      some (e.inner.isNone, e.closing.2) := by
  obtain ⟨tag, attributes, inner⟩ := e
  cases inner <;> rfl

theorem read?_html {e : Element} (tagged : e.tag.toList.all isNameChar = true)
    (named : ∀ name ∈ e.names, name.toList.all isNameChar = true) :
    StartTag.read? e.html.toList = some
      { tag := e.tag, attributes := e.attributes, closesItself := e.inner.isNone
        behind := e.closing.2 } := by
  have inTag : ∀ c ∈ e.tag.toList, isNameChar c = true := List.all_eq_true.mp tagged
  have attributes : attributes? e.behindTag =
      some (e.attributes, e.inner.isNone, e.closing.2) :=
    attributes?_written (fun entry member => named entry.1 (List.mem_map_of_mem member))
      e.close?_closing
  obtain ⟨c, rest, behind, ended⟩ := e.exists_behindTag
  rw [html_toList, read?, List.dropWhile_append_of_pos inTag, List.takeWhile_append_of_pos inTag]
  rw [behind] at attributes ⊢
  rw [List.dropWhile_cons_of_neg (by simp [ended]), List.takeWhile_cons_of_neg (by simp [ended]),
    attributes, List.append_nil, String.ofList_toList]
  rfl

theorem changeAll_frame (e : Element) (changes : List Change) :
    (e.changeAll changes).tag = e.tag ∧ (e.changeAll changes).inner = e.inner := by
  induction changes generalizing e with
  | nil => exact ⟨rfl, rfl⟩
  | cons change changes ih =>
    cases change with
    | set name value => exact ih (e.setAttr name value)
    | remove name => exact ih (e.removeAttr name)

/-- Whatever changes are made to an element, each name has one value, the one that was set last, and
    the names stand in the order in which they came in. Where its tag and its names are fit for a
    start tag, its attributes are read back from its markup, whatever their values are. -/
theorem changed_attributes_read_back (tag : String) (inner : Option String)
    (changes : List Change) :
    let e := ({ tag, inner } : Element).changeAll changes
    Follows changes e ∧ (∀ name, name ∈ e.names ↔ ∃ place, InsertedAt changes name place) ∧
      (tag.toList.all isNameChar = true → (∀ name ∈ e.names, name.toList.all isNameChar = true) →
        StartTag.read? e.html.toList = some
          { tag, attributes := e.attributes, closesItself := inner.isNone
            behind := match inner with
              | some inner => (inner ++ "</" ++ tag ++ ">").toList
              | none => [] }) := by
  intro e
  have follows : Follows changes e := changeAll_follows tag inner changes
  have tagSame : e.tag = tag := (changeAll_frame _ changes).1
  have innerSame : e.inner = inner := (changeAll_frame _ changes).2
  refine ⟨follows, fun name => follows.mem_names_iff.trans exists_insertedAt_iff.symm, ?_⟩
  intro tagged named
  rw [read?_html (tagSame.symm ▸ tagged) named, closing, tagSame, innerSame]
  cases inner <;> rfl

theorem changed_attributes_read_back_in_link :
    let changes : List Change := [.set "href" "/a", .set "class" "c", .set "title" "\"&lt;b> & c",
      .remove "href", .set "class" "d", .set "href" "/b"]
    let attributes := [("class", "d"), ("title", "\"&lt;b> & c"), ("href", "/b")]
    let e := ({ tag := "a", inner := some "Go" } : Element).changeAll changes
    "a".toList.all isNameChar = true ∧ (∀ name ∈ e.names, name.toList.all isNameChar = true) ∧
      e.names = ["class", "title", "href"] ∧ LastSet changes "class" "d" ∧
      StartTag.read? e.html.toList = some
        { tag := "a", attributes, closesItself := false, behind := "Go</a>".toList } := by
  intro changes attributes e
  have tagged : "a".toList.all isNameChar = true := by decide
  have named : ∀ name ∈ e.names, name.toList.all isNameChar = true := by decide
  obtain ⟨follows, -, read⟩ := changed_attributes_read_back "a" (some "Go") changes
  exact ⟨tagged, named, rfl, (follows.value_iff "class" "d").mp rfl, read tagged named⟩

end Element

end TopicWiki
