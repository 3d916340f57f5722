import TopicWiki.Proofs.Textile.Tags
import TopicWiki.Textile.Block

namespace TopicWiki.Textile

def tags (text : List Char) : List (List Char) :=
  (segments text).filterMap fun
    | .run _ => none
    | .tag tag => some tag

def voidElements : List String :=
  ["br", "img"]

def isClosing (tag : List Char) : Bool :=
  ['<', '/'].isPrefixOf tag

/-- The elements that are open behind a tag, the innermost first. A closing tag is refused unless it
    is that of the innermost. -/
def afterTag (opened : List String) (tag : List Char) : Option (List String) :=
  match tagName? tag with
  | none => some opened
  | some name =>
    if isClosing tag then
      if opened.head? = some name then some opened.tail else none
    else if voidElements.contains name then some opened
    else some (name :: opened)

/-- Read from left to right, every closing tag is that of the element opened last, and no element is
    left open. -/
def ProperlyNested (text : List Char) : Prop :=
  (tags text).foldlM afterTag [] = some []

instance (text : List Char) : Decidable (ProperlyNested text) :=
  inferInstanceAs (Decidable (_ = _))

def voidStart (name : String) : List Char :=
  '<' :: name.toList ++ [' ']

structure IsVoid (tag : List Char) : Prop extends IsTag tag where
  named : ∃ name ∈ voidElements, voidStart name <+: tag
  behind : ∀ front back, tag = front ++ '\n' :: back → Plain back

structure IsOpening (name : String) (tag : List Char) : Prop extends IsTag tag where
  named : tagName? tag = some name
  opens : isClosing tag = false
  container : voidElements.contains name = false
  line : '\n' ∉ tag

structure IsClosing (name : String) (tag : List Char) : Prop extends IsTag tag where
  named : tagName? tag = some name
  closing : isClosing tag = true
  line : '\n' ∉ tag

theorem IsVoid.afterTag {tag : List Char} (void : IsVoid tag) (opened : List String) :
    afterTag opened tag = some opened := by
  obtain ⟨name, known, rest, rfl⟩ := void.named
  have either : name = "br" ∨ name = "img" := by simpa [voidElements] using known
  rcases either with rfl | rfl <;> rfl

theorem IsOpening.afterTag {name : String} {tag : List Char} (opening : IsOpening name tag)
    (opened : List String) : afterTag opened tag = some (name :: opened) := by
  simp only [Textile.afterTag, opening.named, opening.opens, opening.container, Bool.false_eq_true,
    if_false]

theorem IsClosing.afterTag {name : String} {tag : List Char} (closing : IsClosing name tag)
    (opened : List String) : afterTag (name :: opened) tag = some opened := by
  simp only [Textile.afterTag, closing.named, closing.closing, List.head?_cons, List.tail_cons,
    if_true]

theorem tags_plain {run : List Char} (plain : Plain run) : tags run = [] := by
  rw [tags, segments_plain plain]
  rfl

inductive Nested : List Char → Prop
  | plain {run : List Char} : Plain run → Nested run
  | void {run tag rest : List Char} : Plain run → IsVoid tag → Nested rest →
    Nested (run ++ (tag ++ rest))
  | element {name : String} {run opening inner closing rest : List Char} : Plain run →
    IsOpening name opening → Nested inner → IsClosing name closing → Nested rest →
    Nested (run ++ (opening ++ (inner ++ (closing ++ rest))))

namespace Nested

theorem segments_append {text tag : List Char} (nested : Nested text) (isTag : IsTag tag)
    (rest : List Char) :
    segments (text ++ (tag ++ rest)) = segments text ++ .tag tag :: segments rest := by
  induction nested generalizing tag rest with
  | plain plain => rw [segments_tag plain isTag, segments_plain plain, List.singleton_append]
  | void plain void _ ih =>
    rw [segments_tag plain void.toIsTag, List.append_assoc, List.append_assoc,
      segments_tag plain void.toIsTag, ih isTag, List.cons_append, List.cons_append]
  | element plain opening _ closing _ ihInner ihRest =>
    rw [segments_tag plain opening.toIsTag, ihInner closing.toIsTag]
    simp only [List.append_assoc, List.cons_append]
    rw [segments_tag plain opening.toIsTag, ihInner closing.toIsTag, ihRest isTag]

theorem tags_append {text tag : List Char} (nested : Nested text) (isTag : IsTag tag)
    (rest : List Char) : tags (text ++ (tag ++ rest)) = tags text ++ tag :: tags rest := by
  rw [tags, nested.segments_append isTag, List.filterMap_append, List.filterMap_cons]
  rfl

theorem mapRuns_append (f : List Char → List Char) {text tag : List Char} (nested : Nested text)
    (isTag : IsTag tag) (rest : List Char) :
    mapRuns f (text ++ (tag ++ rest)) = mapRuns f text ++ (tag ++ mapRuns f rest) := by
  rw [mapRuns, nested.segments_append isTag, List.flatMap_append, List.flatMap_cons]
  rfl

theorem foldlM_afterTag {text : List Char} (nested : Nested text) (opened : List String) :
    (tags text).foldlM afterTag opened = some opened := by
  induction nested generalizing opened with
  | plain plain => rw [tags_plain plain, List.foldlM_nil, Option.pure_def]
  | void plain void _ ih =>
    rw [(Nested.plain plain).tags_append void.toIsTag, tags_plain plain, List.nil_append,
      List.foldlM_cons, void.afterTag, Option.bind_eq_bind, Option.bind_some, ih]
  | element plain opening inner closing _ ihInner ihRest =>
    rw [(Nested.plain plain).tags_append opening.toIsTag, tags_plain plain, List.nil_append,
      List.foldlM_cons, opening.afterTag, Option.bind_eq_bind, Option.bind_some,
      inner.tags_append closing.toIsTag, List.foldlM_append, ihInner, Option.bind_eq_bind,
      Option.bind_some, List.foldlM_cons, closing.afterTag, Option.bind_eq_bind, Option.bind_some,
      ihRest]

theorem properlyNested {text : List Char} (nested : Nested text) : ProperlyNested text :=
  nested.foldlM_afterTag []

theorem of_tag {tag rest : List Char} (void : IsVoid tag) (nested : Nested rest) :
    Nested (tag ++ rest) :=
  .void plain_nil void nested

theorem of_element {name : String} {opening inner closing rest : List Char}
    (opens : IsOpening name opening) (nested : Nested inner) (closes : IsClosing name closing)
    (later : Nested rest) : Nested (opening ++ (inner ++ (closing ++ rest))) :=
  .element plain_nil opens nested closes later

theorem append {front back : List Char} (first : Nested front) (second : Nested back)
    (apart : Apart front back) : Nested (front ++ back) := by
  induction first with
  | @plain run plain =>
    cases second with
    | plain plainBack => exact .plain (plain_append_iff.mpr ⟨plain, plainBack, apart⟩)
    | void plainRun void rest =>
      rw [← List.append_assoc]
      refine .void (plain_append_iff.mpr ⟨plain, plainRun, ?_⟩) void rest
      exact apart.of_append_right
    | element plainRun opening inner closing rest =>
      rw [← List.append_assoc]
      refine .element (plain_append_iff.mpr ⟨plain, plainRun, ?_⟩) opening inner closing rest
      exact apart.of_append_right
  | void plain void _ ih =>
    rw [List.append_assoc, List.append_assoc]
    rw [← List.append_assoc] at apart
    exact .void plain void (ih apart.of_append)
  | element plain opening inner closing _ _ ih =>
    rw [← List.append_assoc, ← List.append_assoc, ← List.append_assoc] at apart
    simp only [List.append_assoc]
    exact .element plain opening inner closing (ih apart.of_append)

end Nested

/-- What a rule makes of a plain text: nested text that goes on as the text does, or so that no tag
    starts before it. -/
structure Woven (text woven : List Char) : Prop where
  nested : Nested woven
  head : woven.head? = text.head? ∨ woven.head?.any isTagSign = false

theorem Woven.refl {text : List Char} (plain : Plain text) : Woven text text :=
  ⟨.plain plain, .inl rfl⟩

theorem Woven.of_tag {tag rest : List Char} (isTag : IsTag tag) (nested : Nested (tag ++ rest))
    (text : List Char) : Woven text (tag ++ rest) :=
  ⟨nested, .inr (isTag.head rest)⟩

theorem Apart.woven {front text woven : List Char} (apart : Apart front text)
    (w : Woven text woven) : Apart front woven := by
  rcases w.head with same | unsigned
  · exact apart.of_head_eq same
  · exact apart_of_head unsigned front

theorem Woven.behind {front text woven : List Char} (plain : Plain (front ++ text))
    (w : Woven text woven) : Woven (front ++ text) (front ++ woven) := by
  obtain ⟨plainFront, -, apart⟩ := plain_append_iff.mp plain
  refine ⟨(Nested.plain plainFront).append w.nested (apart.woven w), ?_⟩
  cases front with
  | nil => exact w.head
  | cons c front => exact .inl rfl

theorem Nested.mapRuns {f : List Char → List Char} (weaves : ∀ run, Plain run → Nested (f run))
    {text : List Char} (nested : Nested text) : Nested (mapRuns f text) := by
  have mapped : ∀ {run}, Plain run → Nested (Textile.mapRuns f run) := by
    intro run plain
    rw [mapRuns_plain f plain]
    split
    · exact .plain plain_nil
    · exact weaves run plain
  induction nested with
  | plain plain => exact mapped plain
  | void plain void _ ih =>
    rw [mapRuns_tag f plain void.toIsTag]
    exact (mapped plain).append (.of_tag void ih) (apart_of_startsTag void.starts _ _)
  | element plain opening inner closing _ ihInner ihRest =>
    rw [mapRuns_tag f plain opening.toIsTag, inner.mapRuns_append f closing.toIsTag]
    refine (mapped plain).append ?_ (apart_of_startsTag opening.starts _ _)
    exact .of_element opening ihInner closing ihRest

end TopicWiki.Textile
