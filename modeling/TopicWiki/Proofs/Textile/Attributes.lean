import TopicWiki.Proofs.Textile.ProperNesting

namespace TopicWiki.Textile

open Text

inductive AttributeName where
  | href | title | src | alt | className | id
  deriving DecidableEq, Repr

namespace AttributeName

def text : AttributeName → List Char
  | href => "href".toList
  | title => "title".toList
  | src => "src".toList
  | alt => "alt".toList
  | className => "class".toList
  | id => "id".toList

def isInline : AttributeName → Bool
  | href | title | src | alt => true
  | className | id => false

end AttributeName

structure Attribute where
  name : AttributeName
  value : List Char
  deriving DecidableEq, Repr

def Attribute.html (a : Attribute) : List Char :=
  ' ' :: a.name.text ++ "=\"".toList ++ a.value ++ ['"']

def isTagLetter (c : Char) : Bool :=
  c.isAlphanum || c == '/' || c == ' '

/-- A tag: its name, behind a slash if it closes an element, its attributes, and what stands before
    its closing bracket. -/
structure HtmlTag where
  name : List Char
  attributes : List Attribute := []
  ending : List Char := []
  starts : name.head?.any isTagSign = true
  letters : (name ++ ending).all isTagLetter = true

def HtmlTag.html (tag : HtmlTag) : List Char :=
  '<' :: (tag.name ++ (tag.attributes.flatMap Attribute.html ++ (tag.ending ++ ['>'])))

def Unbracketed (text : List Char) : Prop :=
  '<' ∉ text ∧ '>' ∉ text

instance (text : List Char) : Decidable (Unbracketed text) :=
  inferInstanceAs (Decidable (_ ∧ _))

/-- A text whose angle brackets all belong to tags, in which all attributes have a property. -/
inductive Tagged (P : Attribute → Prop) : List Char → Prop
  | run {text : List Char} : Unbracketed text → Tagged P text
  | tag {run rest : List Char} (tag : HtmlTag) : Unbracketed run → (∀ a ∈ tag.attributes, P a) →
    Tagged P rest → Tagged P (run ++ (tag.html ++ rest))

section Unbracketed

variable {text front back : List Char}

theorem unbracketed_nil : Unbracketed [] :=
  ⟨List.not_mem_nil, List.not_mem_nil⟩

theorem Unbracketed.append (unbracketed : Unbracketed front) (unbracketed' : Unbracketed back) :
    Unbracketed (front ++ back) := by
  unfold Unbracketed
  rw [List.mem_append, not_or, List.mem_append, not_or]
  exact ⟨⟨unbracketed.1, unbracketed'.1⟩, ⟨unbracketed.2, unbracketed'.2⟩⟩

theorem Unbracketed.of_subset (unbracketed : Unbracketed text) (inside : front ⊆ text) :
    Unbracketed front :=
  ⟨fun member => unbracketed.1 (inside member), fun member => unbracketed.2 (inside member)⟩

theorem Unbracketed.of_infix (unbracketed : Unbracketed text) (inside : front <:+: text) :
    Unbracketed front :=
  unbracketed.of_subset inside.subset

theorem unbracketed_escapeAttribute (text : List Char) : Unbracketed (escapeAttribute text) :=
  ⟨not_mem_escapeAttribute (by decide) (by decide) text,
    not_mem_escapeAttribute (by decide) (by decide) text⟩

theorem unbracketed_escapeText (text : List Char) : Unbracketed (escapeText text) :=
  ⟨not_mem_escapeText (.inl rfl) text, not_mem_escapeText (.inr rfl) text⟩

theorem unbracketed_of_letters (letters : text.all isTagLetter = true) : Unbracketed text := by
  rw [List.all_eq_true] at letters
  exact ⟨fun member => absurd (letters _ member) (by decide),
    fun member => absurd (letters _ member) (by decide)⟩

theorem letters_text (name : AttributeName) : name.text.all isTagLetter = true := by
  cases name <;> decide

theorem Attribute.unbracketed {a : Attribute} (value : Unbracketed a.value) :
    Unbracketed a.html := by
  have name := unbracketed_of_letters (letters_text a.name)
  have start : Unbracketed [' '] := by decide
  have middle : Unbracketed "=\"".toList := by decide
  have stop : Unbracketed ['"'] := by decide
  exact (((start.append name).append middle).append value).append stop

end Unbracketed

theorem HtmlTag.isTag (tag : HtmlTag) (values : ∀ a ∈ tag.attributes, Unbracketed a.value) :
    IsTag tag.html := by
  obtain ⟨name, attributes, ending, starts, letters⟩ := tag
  rw [List.all_append, Bool.and_eq_true] at letters
  have whole : HtmlTag.html ⟨name, attributes, ending, starts, by simp [letters]⟩ =
      '<' :: (name ++ attributes.flatMap Attribute.html ++ ending) ++ ['>'] := by
    simp [HtmlTag.html]
  rw [whole]
  refine isTag_of_parts ?_ ?_
  · rw [startsTag_cons, beq_self_eq_true, Bool.true_and, List.append_assoc]
    cases name with
    | nil => cases starts
    | cons c name => exact starts
  · have inside : Unbracketed (attributes.flatMap Attribute.html) := by
      constructor <;> rw [List.mem_flatMap]
      · rintro ⟨a, member, here⟩
        exact (Attribute.unbracketed (values a member)).1 here
      · rintro ⟨a, member, here⟩
        exact (Attribute.unbracketed (values a member)).2 here
    have all := ((unbracketed_of_letters letters.1).append inside).append
      (unbracketed_of_letters letters.2)
    rw [List.mem_cons, not_or]
    exact ⟨by decide, all.2⟩

namespace Tagged

variable {P Q : Attribute → Prop} {text front back run : List Char}

theorem nil : Tagged P [] :=
  .run unbracketed_nil

theorem behind (unbracketed : Unbracketed run) (tagged : Tagged P text) :
    Tagged P (run ++ text) := by
  cases tagged with
  | run unbracketed' => exact .run (unbracketed.append unbracketed')
  | tag tag unbracketed' attributes rest =>
    rw [← List.append_assoc]
    exact .tag tag (unbracketed.append unbracketed') attributes rest

theorem of_tag (tag : HtmlTag) (attributes : ∀ a ∈ tag.attributes, P a) (tagged : Tagged P text) :
    Tagged P (tag.html ++ text) :=
  .tag tag unbracketed_nil attributes tagged

theorem single (tag : HtmlTag) (attributes : ∀ a ∈ tag.attributes, P a) : Tagged P tag.html := by
  rw [← List.append_nil tag.html]
  exact .of_tag tag attributes .nil

theorem append (tagged : Tagged P front) (tagged' : Tagged P back) : Tagged P (front ++ back) := by
  induction tagged with
  | run unbracketed => exact tagged'.behind unbracketed
  | tag tag unbracketed attributes _ ih =>
    rw [List.append_assoc, List.append_assoc]
    exact .tag tag unbracketed attributes ih

theorem flatMap {α : Type} {f : α → List Char} {parts : List α}
    (each : ∀ part ∈ parts, Tagged P (f part)) : Tagged P (parts.flatMap f) := by
  induction parts with
  | nil => exact .nil
  | cons part parts ih =>
    obtain ⟨here, later⟩ := List.forall_mem_cons.mp each
    exact here.append (ih later)

theorem mono (tagged : Tagged P text) (weaker : ∀ a, P a → Q a) : Tagged Q text := by
  induction tagged with
  | run unbracketed => exact .run unbracketed
  | tag tag unbracketed attributes _ ih =>
    exact .tag tag unbracketed (fun a member => weaker a (attributes a member)) ih

theorem element {name inner : List Char} (attributes : List Attribute)
    (starts : name.head?.any isTagSign = true) (letters : name.all isTagLetter = true)
    (each : ∀ a ∈ attributes, P a) (tagged : Tagged P inner) :
    Tagged P (['<'] ++ name ++ attributes.flatMap Attribute.html ++ ['>'] ++ inner ++ ['<', '/'] ++
      name ++ ['>']) := by
  let opening : HtmlTag := ⟨name, attributes, [], starts, by rwa [List.append_nil]⟩
  let closing : HtmlTag :=
    ⟨'/' :: name, [], [], rfl, by rw [List.append_nil, List.all_cons, letters]; rfl⟩
  have whole : ['<'] ++ name ++ attributes.flatMap Attribute.html ++ ['>'] ++ inner ++ ['<', '/'] ++
      name ++ ['>'] = opening.html ++ (inner ++ closing.html) := by
    simp [opening, closing, HtmlTag.html]
  rw [whole]
  exact .of_tag opening each (tagged.append (.single closing (by simp [closing])))

theorem wrap {inner : List Char} (tagged : Tagged P inner) (name : String)
    (starts : name.toList.head?.any isTagSign = true)
    (letters : name.toList.all isTagLetter = true) : Tagged P (Textile.wrap name inner) := by
  have whole := tagged.element [] starts letters (by simp)
  rw [wrap_eq, openingTag, closingTag]
  simpa using whole

theorem mapRuns {f : List Char → List Char} (values : ∀ a, P a → Unbracketed a.value)
    (rule : ∀ run, Unbracketed run → Tagged P (f run)) (tagged : Tagged P text) :
    Tagged P (Textile.mapRuns f text) := by
  have mapped {run : List Char} (unbracketed : Unbracketed run) :
      Tagged P (Textile.mapRuns f run) := by
    rw [mapRuns_plain f (plain_of_absent unbracketed.1)]
    split
    · exact .nil
    · exact rule run unbracketed
  induction tagged with
  | run unbracketed => exact mapped unbracketed
  | tag tag unbracketed attributes _ ih =>
    have isTag := tag.isTag fun a member => values a (attributes a member)
    rw [mapRuns_tag f (plain_of_absent unbracketed.1) isTag]
    exact (mapped unbracketed).append (.of_tag tag attributes ih)

end Tagged

/-- An attribute as it is first written: its value is escaped. Only an alternative text has line
    feeds. -/
def Escaped (a : Attribute) : Prop :=
  a.name.isInline = true ∧
    ∃ source, a.value = escapeAttribute source ∧ (a.name ≠ .alt → '\n' ∉ source)

theorem Escaped.unbracketed {a : Attribute} (escaped : Escaped a) : Unbracketed a.value := by
  obtain ⟨-, source, same, -⟩ := escaped
  rw [same]
  exact unbracketed_escapeAttribute source

def Image.tag (image : Image) : HtmlTag where
  name := "img".toList
  attributes := [⟨.src, escapeAttribute image.src⟩, ⟨.alt, escapeAttribute image.alt⟩]
  ending := " /".toList
  starts := rfl
  letters := by decide

theorem Image.tag_html (image : Image) : image.tag.html = image.html := by
  have start : "<img src=\"".toList =
      '<' :: ("img".toList ++ ' ' :: ("src".toList ++ "=\"".toList)) :=
    rfl
  have middle : "\" alt=\"".toList = '"' :: ' ' :: ("alt".toList ++ "=\"".toList) := rfl
  have stop : "\" />".toList = '"' :: (" /".toList ++ ['>']) := rfl
  unfold Image.html HtmlTag.html Image.tag
  rw [start, middle, stop]
  simp only [Attribute.html, AttributeName.text, List.flatMap_cons, List.flatMap_nil,
    List.append_assoc, List.cons_append, List.nil_append]

def Link.startTag (link : Link) : HtmlTag where
  name := ['a']
  attributes := ⟨.href, escapeAttribute link.url⟩ ::
    (link.title?.map fun title => ⟨.title, escapeAttribute title⟩).toList
  starts := rfl
  letters := by decide

theorem Link.startTag_html (link : Link) : link.startTag.html = link.start ++ ['>'] := by
  have start : "<a href=\"".toList = '<' :: 'a' :: ' ' :: ("href".toList ++ "=\"".toList) := rfl
  have title : " title=\"".toList = ' ' :: ("title".toList ++ "=\"".toList) := rfl
  unfold HtmlTag.html Link.startTag Link.start Link.titleAttribute
  rw [start, title]
  cases link.title? <;>
    simp only [Attribute.html, AttributeName.text, Option.map_none, Option.map_some,
      Option.toList_none, Option.toList_some, List.flatMap_cons, List.flatMap_nil,
      List.append_assoc, List.cons_append, List.nil_append, List.append_nil]

def anchorEnd : HtmlTag where
  name := "/a".toList
  starts := rfl
  letters := by decide

theorem Image.escaped {image : Image} (line : '\n' ∉ image.src) :
    ∀ a ∈ image.tag.attributes, Escaped a := by
  simp only [Image.tag, List.forall_mem_cons, List.not_mem_nil, false_implies, implies_true,
    and_true]
  exact ⟨⟨rfl, image.src, rfl, fun _ => line⟩, ⟨rfl, image.alt, rfl, fun other => absurd rfl other⟩⟩

theorem Link.escaped {link : Link} (url : '\n' ∉ link.url)
    (title : ∀ title, link.title? = some title → '\n' ∉ title) :
    ∀ a ∈ link.startTag.attributes, Escaped a := by
  simp only [Link.startTag, List.forall_mem_cons, Option.mem_toList,
    Option.map_eq_some_iff]
  refine ⟨⟨rfl, link.url, rfl, fun _ => url⟩, ?_⟩
  rintro a ⟨text, given, rfl⟩
  exact ⟨rfl, text, rfl, fun _ => title text given⟩

theorem Image.read?_line {text rest : List Char} {image : Image}
    (found : Image.read? text = some (image, rest)) : '\n' ∉ image.src := by
  unfold Image.read? at found
  split at found
  · rename_i text
    have line : '\n' ∉ (spanWhile
        (fun c => !Text.isBlank c && c != '!' && c != '(' && c != ')') text).1 := fun member =>
      absurd (List.mem_takeWhile_imp member) (by decide)
    simp only at found
    split at found
    · cases found
    · split at found
      · cases found
        exact line
      · split at found
        · cases found
          exact line
        · cases found
      · cases found
  · cases found

section Rules

variable {P : Attribute → Prop} {text : List Char}

theorem images_tagged (unbracketed : Unbracketed text) : Tagged Escaped (images text) := by
  fun_induction images text with
  | case1 => exact .nil
  | case2 c text image rest found shorter ih =>
    have later := ih (unbracketed.of_infix (Image.read?_suffix found).isInfix)
    rw [← image.tag_html]
    exact .of_tag image.tag (Image.escaped (Image.read?_line found)) later
  | case3 c text unread ih =>
    have later := ih (unbracketed.of_infix (List.suffix_cons c text).isInfix)
    have here : Unbracketed [c] := unbracketed.of_subset (by simp)
    exact later.behind here

theorem links_tagged (unbracketed : Unbracketed text) : Tagged Escaped (links text) := by
  fun_induction links text with
  | case1 => exact .nil
  | case2 c text link rest found shorter ih =>
    obtain ⟨label, behind⟩ := Link.read?_inside found
    obtain ⟨url, title⟩ := Link.read?_lines found
    have behind := unbracketed.of_infix behind.isInfix
    have later := ih (behind.of_infix (List.suffix_append _ _).isInfix)
    have whole : link.html ++ links rest = link.startTag.html ++
        (link.label ++ (anchorEnd.html ++ (link.trailing ++ links rest))) := by
      rw [Link.html_eq, link.startTag_html]
      simp [anchorEnd, HtmlTag.html]
    rw [whole]
    refine .of_tag link.startTag (Link.escaped url title) ?_
    refine .behind (unbracketed.of_infix label) (.of_tag anchorEnd (by simp [anchorEnd]) ?_)
    exact later.behind (behind.of_infix (List.prefix_append _ _).isInfix)
  | case3 c text unread ih =>
    have later := ih (unbracketed.of_infix (List.suffix_cons c text).isInfix)
    have here : Unbracketed [c] := unbracketed.of_subset (by simp)
    exact later.behind here

theorem unbracketed_glyphs (unbracketed : Unbracketed text) : Unbracketed (glyphs text) := by
  have table : ∀ entry ∈ glyphTable, '<' ∉ entry.2.toList ∧ '>' ∉ entry.2.toList := by
    decide
  unfold glyphs
  refine List.foldlRecOn glyphTable _ unbracketed ?_
  intro text unbracketed entry listed
  obtain ⟨first, second⟩ := table entry listed
  exact ⟨fun member => (mem_of_mem_replaceAll member).elim unbracketed.1 first,
    fun member => (mem_of_mem_replaceAll member).elim unbracketed.2 second⟩

theorem phrases_tagged (values : ∀ a, P a → Unbracketed a.value) (tagged : Tagged P text) :
    Tagged P (phrases text) := by
  have names : ∀ entry ∈ phraseElements, entry.2.toList.head?.any isTagSign = true ∧
      entry.2.toList.all isTagLetter = true := by
    decide
  unfold phrases
  refine List.foldlRecOn phraseElements _ tagged ?_
  intro text tagged entry listed
  obtain ⟨starts, letters⟩ := names entry listed
  refine tagged.mapRuns values fun run unbracketed => .flatMap ?_
  intro part member
  have inside := unbracketed.of_infix (infix_of_mem_pieces member)
  cases part with
  | literal text => exact .run inside
  | phrase inner =>
    refine Tagged.wrap (.run (inside.of_subset ?_)) _ starts letters
    simp [Piece.source]

theorem formatted_tagged (settings : Settings) (unbracketed : Unbracketed text) :
    Tagged Escaped (formatted settings text) := by
  have values : ∀ a, Escaped a → Unbracketed a.value := fun _ escaped => escaped.unbracketed
  have linked : Tagged Escaped (mapRuns links (mapRuns images text)) :=
    ((Tagged.run unbracketed).mapRuns values fun _ => images_tagged).mapRuns values
      fun _ => links_tagged
  unfold formatted
  apply phrases_tagged values
  split
  · exact linked.mapRuns values fun run unbracketed => .run (unbracketed_glyphs unbracketed)
  · exact linked

end Rules

end TopicWiki.Textile
