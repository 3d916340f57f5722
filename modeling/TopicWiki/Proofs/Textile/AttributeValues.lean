import TopicWiki.Proofs.Textile.Attributes
import TopicWiki.Proofs.Textile.CodeSpans

namespace TopicWiki.Textile

open Text

def valueOf (broken : Bool) (text : List Char) : List Char :=
  if broken then breakLines (escapeAttribute text) else escapeAttribute text

def Piece.inValue (broken : Bool) : Piece → List Char
  | .literal text => valueOf broken text
  | .phrase inner => codeElement inner

def Broken (settings : Settings) (a : Attribute) : Prop :=
  a.name.isInline = true ∧
    ∃ source, a.value = valueOf (settings.lineBreaks && a.name == .alt) source

/-- An attribute as it stands in the output of a text: made of escaped text and, inline, of code
    spans. -/
structure Made (settings : Settings) (text : List Char) (a : Attribute) (source : List Piece) :
    Prop where
  value : a.value = source.flatMap (Piece.inValue (settings.lineBreaks && a.name == .alt))
  inline : a.name.isInline = false → ∀ inner, .phrase inner ∉ source
  spans : ∀ inner, .phrase inner ∈ source → '@' ∈ text

def Written (settings : Settings) (text : List Char) (a : Attribute) : Prop :=
  ∃ source, Made settings text a source

def HtmlTag.withValues (rule : List Char → List Char) (tag : HtmlTag) : HtmlTag :=
  { tag with attributes := tag.attributes.map fun a => { a with value := rule a.value } }

section Values

variable {broken : Bool} {text : List Char}

theorem escapeAttribute_append (front back : List Char) :
    escapeAttribute (front ++ back) = escapeAttribute front ++ escapeAttribute back :=
  List.flatMap_append

theorem valueOf_append (broken : Bool) (front back : List Char) :
    valueOf broken (front ++ back) = valueOf broken front ++ valueOf broken back := by
  unfold valueOf
  rw [escapeAttribute_append, breakLines_append]
  split <;> rfl

theorem valueOf_unbroken (line : '\n' ∉ text) (broken : Bool) :
    valueOf broken text = escapeAttribute text := by
  unfold valueOf
  split
  · exact breakLines_line fun member => line (mem_of_mem_escapeAttribute member (by decide))
  · rfl

theorem valueOf_slot (broken : Bool) (index : Nat) : valueOf broken (slot index) = slot index := by
  unfold valueOf
  rw [escapeAttribute_slot, breakLines_slot]
  split <;> rfl

theorem Slotted.valueOf {indices : Multiset Nat} (slotted : Slotted indices text)
    (broken : Bool) : Slotted indices (Textile.valueOf broken text) := by
  unfold Textile.valueOf
  split
  · exact slotted.escapeAttribute.breakLines
  · exact slotted.escapeAttribute

end Values

section Letters

variable {text : List Char}

theorem unslotted_of_letters (letters : text.all isTagLetter = true) :
    slotOpen ∉ text ∧ slotClose ∉ text := by
  rw [List.all_eq_true] at letters
  exact ⟨fun member => absurd (letters _ member) (by decide),
    fun member => absurd (letters _ member) (by decide)⟩

theorem line_of_letters (letters : text.all isTagLetter = true) : '\n' ∉ text := by
  rw [List.all_eq_true] at letters
  exact fun member => absurd (letters _ member) (by decide)

theorem HtmlTag.letters_parts (tag : HtmlTag) :
    tag.name.all isTagLetter = true ∧ tag.ending.all isTagLetter = true := by
  rw [← Bool.and_eq_true, ← List.all_append]
  exact tag.letters

theorem Attribute.breakLines_html (a : Attribute) :
    breakLines a.html = Attribute.html { a with value := breakLines a.value } := by
  have start : ' ' :: a.name.text ++ "=\"".toList = [' '] ++ a.name.text ++ "=\"".toList := rfl
  have named := breakLines_line (line_of_letters (letters_text a.name))
  unfold Attribute.html
  rw [start]
  simp only [breakLines_append, named]
  rfl

theorem flatMap_html_values {f : List Char → List Char} {attributes : List Attribute}
    (each : ∀ a ∈ attributes, ∀ rest,
      f (a.html ++ rest) = Attribute.html { a with value := f a.value } ++ f rest)
    (rest : List Char) :
    f (attributes.flatMap Attribute.html ++ rest) =
      (attributes.map fun a => { a with value := f a.value }).flatMap Attribute.html ++ f rest := by
  induction attributes with
  | nil => rfl
  | cons a attributes ih =>
    obtain ⟨here, later⟩ := List.forall_mem_cons.mp each
    rw [List.flatMap_cons, List.append_assoc, here, ih later, List.map_cons, List.flatMap_cons,
      List.append_assoc]

theorem HtmlTag.breakLines_html (tag : HtmlTag) :
    breakLines tag.html = (tag.withValues breakLines).html := by
  obtain ⟨named, ended⟩ := tag.letters_parts
  have each : ∀ a ∈ tag.attributes, ∀ rest, breakLines (a.html ++ rest) =
      Attribute.html { a with value := breakLines a.value } ++ breakLines rest := by
    intro a _ rest
    rw [breakLines_append, a.breakLines_html]
  unfold html withValues
  rw [breakLines_cons (by decide), breakLines_append, flatMap_html_values each, breakLines_append,
    breakLines_line (line_of_letters named), breakLines_line (line_of_letters ended)]
  rfl

end Letters

theorem Tagged.breakLines {settings : Settings} (breaking : settings.lineBreaks = true)
    {text : List Char} (tagged : Tagged Escaped text) :
    Tagged (Broken settings) (Textile.breakLines text) := by
  have run {text : List Char} (unbracketed : Unbracketed text) :
      Tagged (Broken settings) (Textile.breakLines text) := by
    refine .flatMap fun c member => ?_
    split
    · let tag : HtmlTag := ⟨"br".toList, [], " /".toList, by decide, by decide⟩
      have line : Tagged (Broken settings) ['\n'] := .run (by decide)
      exact .of_tag tag (by simp [tag]) line
    · exact .run (unbracketed.of_subset (by simpa using member))
  induction tagged with
  | run unbracketed => exact run unbracketed
  | tag tag unbracketed attributes _ ih =>
    rw [breakLines_append, breakLines_append, tag.breakLines_html]
    refine (run unbracketed).append (.of_tag (tag.withValues Textile.breakLines) ?_ ih)
    simp only [HtmlTag.withValues, List.forall_mem_map]
    intro a member
    obtain ⟨isInline, source, same, line⟩ := attributes a member
    refine ⟨isInline, source, ?_⟩
    simp only [same, breaking, Bool.true_and]
    by_cases alternative : a.name = .alt
    · rw [alternative]
      rfl
    · have unbroken := breakLines_line fun inside : '\n' ∈ escapeAttribute source =>
        line alternative (mem_of_mem_escapeAttribute inside (by decide))
      rw [unbroken, valueOf_unbroken (line alternative)]

theorem Escaped.broken {settings : Settings} (unbroken : settings.lineBreaks = false)
    {a : Attribute} (escaped : Escaped a) : Broken settings a := by
  obtain ⟨isInline, source, same, -⟩ := escaped
  refine ⟨isInline, source, ?_⟩
  rw [same, unbroken]
  rfl

def Fillable (fragments : List (List Char)) (text : List Char) : Prop :=
  ∃ indices, Slotted indices text ∧ ∀ index ∈ indices, index < fragments.length

namespace Fillable

variable {fragments : List (List Char)} {text front back : List Char}

theorem of_unslotted (unopened : slotOpen ∉ text) (unclosed : slotClose ∉ text) :
    Fillable fragments text :=
  ⟨0, .of_unslotted unopened unclosed, by simp⟩

theorem of_slot {index : Nat} (bound : index < fragments.length) :
    Fillable fragments (slot index) :=
  ⟨{index}, by simpa using Slotted.code index .nil, by simpa using bound⟩

theorem cutAt {c : Char} (fillable : Fillable fragments (front ++ c :: back))
    (sign : isSlotSign c = false) : Fillable fragments front ∧ Fillable fragments back := by
  obtain ⟨indices, slotted, bound⟩ := fillable
  obtain ⟨first, second, rfl, inFront, inBack⟩ := slotted.cutAt sign
  exact ⟨⟨first, inFront, fun index member => bound index (Multiset.mem_add.mpr (.inl member))⟩,
    ⟨second, inBack, fun index member => bound index (Multiset.mem_add.mpr (.inr member))⟩⟩

theorem of_append (fillable : Fillable fragments (front ++ back)) (unopened : slotOpen ∉ front) :
    Fillable fragments back := by
  obtain ⟨indices, slotted, bound⟩ := fillable
  exact ⟨indices, slotted.of_append_unopened unopened, bound⟩

theorem fillSlots_nil : fillSlots fragments [] = [] := by
  apply fillSlots_of_absent
  rfl

theorem restoreCode_append (fillable : Fillable fragments front) (back : List Char) :
    restoreCode fragments (front ++ back) =
      restoreCode fragments front ++ restoreCode fragments back := by
  obtain ⟨indices, slotted, bound⟩ := fillable
  unfold restoreCode
  split
  · rfl
  · induction slotted with
    | nil => rw [List.nil_append, fillSlots_nil, List.nil_append]
    | char unopened _ _ ih =>
      rw [List.cons_append, fillSlots_char unopened, fillSlots_char unopened, ih bound]
      rfl
    | code index _ ih =>
      obtain ⟨here, later⟩ := Multiset.forall_mem_cons.mp bound
      rw [List.append_assoc, fillSlots_slot here, fillSlots_slot here, ih later, List.append_assoc]

theorem of_valueOf {broken : Bool} (fillable : Fillable fragments (valueOf broken text)) :
    Fillable fragments text := by
  obtain ⟨indices, slotted, bound⟩ := fillable
  refine ⟨indices, ?_, bound⟩
  unfold valueOf at slotted
  split at slotted
  · exact slotted.of_breakLines.of_escapeAttribute
  · exact slotted.of_escapeAttribute

end Fillable

section Restoring

variable {fragments spans : List (List Char)} {text : List Char}

theorem restoreCode_plain (unopened : slotOpen ∉ text) : restoreCode fragments text = text := by
  unfold restoreCode
  split
  · rfl
  · apply fillSlots_of_absent
    rw [cut?_eq_none_iff]
    exact fun inside => unopened (inside.subset (List.mem_singleton_self _))

theorem restoreCode_slot {index : Nat} (bound : index < fragments.length) :
    restoreCode fragments (slot index) = fragments[index] := by
  have nonempty : fragments.isEmpty = false := by
    rw [List.isEmpty_eq_false_iff]
    rintro rfl
    cases bound
  have whole : fillSlots fragments (slot index ++ []) = _ := fillSlots_slot bound
  rw [Fillable.fillSlots_nil, List.append_nil, List.append_nil] at whole
  rw [restoreCode, nonempty]
  exact whole

theorem codeElement_eq_wrap (inner : List Char) :
    codeElement inner = wrap "code" (escapeText inner) := by
  have start : "<code>".toList = openingTag "code" := rfl
  have stop : "</code>".toList = closingTag "code" := rfl
  rw [codeElement, start, stop, wrap_eq, List.append_assoc]

theorem codeElement_tagged {P : Attribute → Prop} (inner : List Char) :
    Tagged P (codeElement inner) := by
  rw [codeElement_eq_wrap]
  exact Tagged.wrap (.run (unbracketed_escapeText inner)) _ (by decide) (by decide)

theorem Slotted.restored_run {P : Attribute → Prop} {indices : Multiset Nat}
    (slotted : Slotted indices text) (bound : ∀ index ∈ indices, index < spans.length)
    (unbracketed : Unbracketed text) : Tagged P (restoreCode (spans.map codeElement) text) := by
  induction slotted with
  | nil =>
    rw [restoreCode_plain List.not_mem_nil]
    exact .nil
  | @char c _ text unopened unclosed _ ih =>
    have here : Fillable (spans.map codeElement) [c] :=
      .of_unslotted (by simpa using unopened.symm) (by simpa using unclosed.symm)
    have later := ih bound (unbracketed.of_subset (List.subset_cons_self c text))
    rw [show c :: text = [c] ++ text from rfl, here.restoreCode_append,
      restoreCode_plain (by simpa using unopened.symm)]
    exact later.behind (unbracketed.of_subset (by simp))
  | @code _ text index slotted ih =>
    obtain ⟨here, rest⟩ := Multiset.forall_mem_cons.mp bound
    have known : index < (spans.map codeElement).length := by rwa [List.length_map]
    have later := ih rest (unbracketed.of_subset (List.subset_append_right _ _))
    rw [(Fillable.of_slot known).restoreCode_append, restoreCode_slot known, List.getElem_map]
    exact (codeElement_tagged _).append later

theorem Slotted.exists_source {indices : Multiset Nat} (broken : Bool)
    (slotted : Slotted indices text) (bound : ∀ index ∈ indices, index < spans.length) :
    ∃ source : List Piece,
      restoreCode (spans.map codeElement) (Textile.valueOf broken text) =
        source.flatMap (Piece.inValue broken) ∧
      ∀ inner, .phrase inner ∈ source → inner ∈ spans := by
  have empty : Textile.valueOf broken [] = [] := by
    unfold Textile.valueOf
    split <;> rfl
  induction slotted with
  | nil => exact ⟨[], by rw [empty, restoreCode_plain List.not_mem_nil]; rfl, by simp⟩
  | @char c _ text unopened unclosed _ ih =>
    obtain ⟨source, same, known⟩ := ih bound
    have here : Slotted 0 [c] := .char unopened unclosed .nil
    obtain ⟨unopened', unclosed'⟩ := (here.valueOf broken).unslotted
    have fillable : Fillable (spans.map codeElement) (Textile.valueOf broken [c]) :=
      .of_unslotted unopened' unclosed'
    refine ⟨.literal [c] :: source, ?_, by simpa using known⟩
    rw [show c :: text = [c] ++ text from rfl, valueOf_append, fillable.restoreCode_append,
      restoreCode_plain unopened', same]
    rfl
  | @code _ text index slotted ih =>
    obtain ⟨here, rest⟩ := Multiset.forall_mem_cons.mp bound
    obtain ⟨source, same, known⟩ := ih rest
    have given : index < (spans.map codeElement).length := by rwa [List.length_map]
    refine ⟨.phrase spans[index] :: source, ?_, ?_⟩
    · rw [valueOf_append, valueOf_slot, (Fillable.of_slot given).restoreCode_append,
        restoreCode_slot given, List.getElem_map, same]
      rfl
    · intro inner member
      rcases List.mem_cons.mp member with first | later
      · cases first
        exact List.getElem_mem here
      · exact known inner later

end Restoring

section Tags

variable {fragments : List (List Char)} {rest : List Char}

theorem restoreCode_behind {front : List Char} (unslotted : slotOpen ∉ front ∧ slotClose ∉ front)
    (back : List Char) :
    restoreCode fragments (front ++ back) = front ++ restoreCode fragments back := by
  have fillable : Fillable fragments front := .of_unslotted unslotted.1 unslotted.2
  rw [fillable.restoreCode_append, restoreCode_plain unslotted.1]

theorem Attribute.unslotted_start (name : AttributeName) :
    slotOpen ∉ ' ' :: name.text ++ "=\"".toList ∧ slotClose ∉ ' ' :: name.text ++ "=\"".toList := by
  cases name <;> decide

theorem Fillable.value {a : Attribute} (fillable : Fillable fragments (a.html ++ rest)) :
    Fillable fragments a.value ∧ Fillable fragments rest := by
  rw [Attribute.html, List.append_assoc, List.append_assoc] at fillable
  exact (fillable.of_append (Attribute.unslotted_start a.name).1).cutAt rfl

theorem Fillable.values {attributes : List Attribute}
    (fillable : Fillable fragments (attributes.flatMap Attribute.html ++ rest)) :
    ∀ a ∈ attributes, Fillable fragments a.value := by
  induction attributes with
  | nil => simp
  | cons a attributes ih =>
    rw [List.flatMap_cons, List.append_assoc] at fillable
    obtain ⟨here, later⟩ := fillable.value
    exact List.forall_mem_cons.mpr ⟨here, ih later⟩

theorem Fillable.cutTag {run : List Char} {tag : HtmlTag}
    (fillable : Fillable fragments (run ++ (tag.html ++ rest))) :
    Fillable fragments run ∧ (∀ a ∈ tag.attributes, Fillable fragments a.value) ∧
      Fillable fragments rest := by
  have whole : run ++ (tag.html ++ rest) = run ++ '<' :: ((tag.name ++
      (tag.attributes.flatMap Attribute.html ++ tag.ending)) ++ '>' :: rest) := by
    simp [HtmlTag.html]
  rw [whole] at fillable
  obtain ⟨inRun, inTag⟩ := fillable.cutAt rfl
  obtain ⟨inside, inRest⟩ := inTag.cutAt rfl
  exact ⟨inRun, (inside.of_append (unslotted_of_letters tag.letters_parts.1).1).values, inRest⟩

theorem Attribute.restore_html {a : Attribute} (fillable : Fillable fragments a.value) :
    restoreCode fragments (a.html ++ rest) =
      Attribute.html { a with value := restoreCode fragments a.value } ++
        restoreCode fragments rest := by
  have quote : slotOpen ∉ ['"'] ∧ slotClose ∉ ['"'] := by decide
  unfold html
  rw [List.append_assoc, List.append_assoc, restoreCode_behind (unslotted_start a.name),
    fillable.restoreCode_append, restoreCode_behind quote]
  simp only [List.append_assoc]

theorem HtmlTag.restore_html {tag : HtmlTag}
    (values : ∀ a ∈ tag.attributes, Fillable fragments a.value) :
    restoreCode fragments (tag.html ++ rest) =
      (tag.withValues (restoreCode fragments)).html ++ restoreCode fragments rest := by
  have sign : slotOpen ∉ ['<'] ∧ slotClose ∉ ['<'] := by decide
  have bracket : slotOpen ∉ ['>'] ∧ slotClose ∉ ['>'] := by decide
  obtain ⟨named, ended⟩ := tag.letters_parts
  have whole : tag.html ++ rest = ['<'] ++ (tag.name ++
      (tag.attributes.flatMap Attribute.html ++ (tag.ending ++ (['>'] ++ rest)))) := by
    simp [html]
  rw [whole, restoreCode_behind sign, restoreCode_behind (unslotted_of_letters named),
    flatMap_html_values fun a member _ => a.restore_html (values a member),
    restoreCode_behind (unslotted_of_letters ended), restoreCode_behind bracket]
  simp [html, withValues]

theorem Tagged.restored {settings : Settings} {spans : List (List Char)} {text whole : List Char}
    (marked : ∀ inner ∈ spans, '@' ∈ whole) (tagged : Tagged (Broken settings) text)
    (fillable : Fillable (spans.map codeElement) text) :
    Tagged (Written settings whole) (restoreCode (spans.map codeElement) text) := by
  induction tagged with
  | run unbracketed =>
    obtain ⟨indices, slotted, bound⟩ := fillable
    rw [List.length_map] at bound
    exact slotted.restored_run bound unbracketed
  | @tag run rest tag unbracketed attributes _ ih =>
    obtain ⟨inRun, inValues, inRest⟩ := fillable.cutTag
    rw [inRun.restoreCode_append, HtmlTag.restore_html inValues]
    obtain ⟨indices, slotted, bound⟩ := inRun
    rw [List.length_map] at bound
    refine (slotted.restored_run bound unbracketed).append (.of_tag _ ?_ (ih inRest))
    simp only [HtmlTag.withValues, List.forall_mem_map]
    intro a member
    obtain ⟨isInline, text, same⟩ := attributes a member
    have inText := inValues a member
    rw [same] at inText
    obtain ⟨indices, slotted, bound⟩ := inText.of_valueOf
    rw [List.length_map] at bound
    obtain ⟨source, written, known⟩ :=
      slotted.exists_source (settings.lineBreaks && a.name == .alt) bound
    refine ⟨source, ?_, ?_, fun inner listed => marked inner (known inner listed)⟩
    · simp only [same]
      exact written
    · intro block
      rw [isInline] at block
      cases block

end Tags

theorem unbracketed_holdCode {parts : List Piece}
    (literals : ∀ text, .literal text ∈ parts → Unbracketed text) (index : Nat) :
    Unbracketed (holdCode index parts) := by
  induction parts generalizing index with
  | nil => exact unbracketed_nil
  | cons part parts ih =>
    have later := ih (fun text member => literals text (List.mem_cons_of_mem _ member))
    cases part with
    | literal text => exact (literals text List.mem_cons_self).append (later index)
    | phrase inner =>
      have here : Unbracketed (slot index) := by
        constructor <;> exact fun member => absurd (isSlotSign_of_mem_slot member) (by decide)
      exact here.append (later (index + 1))

/-- What the inline rules make of a text without tags is text and tags whose attributes have escaped
    text and code spans for values. -/
theorem inline_tagged (settings : Settings) {text : List Char} (unbracketed : Unbracketed text)
    (unopened : slotOpen ∉ text) (unclosed : slotClose ∉ text) :
    Tagged (Written settings text) (inline settings text) := by
  have literals : ∀ front, .literal front ∈ pieces codeMarker text → Unbracketed front :=
    fun front listed => unbracketed.of_infix (infix_of_mem_pieces listed)
  have formatted := formatted_tagged settings (unbracketed_holdCode literals 0)
  have held : Tagged (Broken settings) (heldInline settings text) := by
    unfold heldInline
    split
    · rename_i breaking
      exact formatted.breakLines breaking
    · rename_i unbroken
      rw [Bool.not_eq_true] at unbroken
      exact formatted.mono fun a => Escaped.broken unbroken
  have fillable : Fillable ((codeSpans text).map codeElement) (heldInline settings text) := by
    refine ⟨_, slotted_heldInline settings unopened unclosed, fun index listed => ?_⟩
    rw [List.length_map]
    exact List.mem_range.mp listed
  rw [inline_eq_restored]
  refine held.restored (fun inner listed => ?_) fillable
  obtain ⟨part, inside, same⟩ := List.mem_filterMap.mp listed
  cases part with
  | literal => cases same
  | phrase => exact (infix_of_mem_pieces inside).subset (by simp [Piece.source, codeMarker])

end TopicWiki.Textile
