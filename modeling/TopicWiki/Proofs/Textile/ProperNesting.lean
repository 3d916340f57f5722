import TopicWiki.Proofs.Textile.Phrases
import TopicWiki.Proofs.Textile.References

namespace TopicWiki.Textile

open Text

theorem plain_replaceAll {pattern glyph : List Char} (nonempty : pattern ≠ []) (written : glyph ≠ [])
    (unbracketed : '<' ∉ glyph) (unsigned : glyph.head?.any isTagSign = false)
    (text : List Char) (plain : Plain text) : Plain (replaceAll pattern glyph text) := by
  cases found : cut? pattern text with
  | none =>
    rw [replaceAll_of_absent nonempty found]
    exact plain
  | some parts =>
    obtain ⟨before, after⟩ := parts
    have shorter := cut?_after_lt found nonempty
    have source := cut?_eq_some found
    have begins : before <+: text := ⟨pattern ++ after, by rw [source, List.append_assoc]⟩
    have ends : after <:+ text := ⟨before ++ pattern, source.symm⟩
    have later := plain_replaceAll nonempty written unbracketed unsigned after (plain.of_suffix ends)
    have last : Apart glyph (replaceAll pattern glyph after) := by
      intro bracket
      exact absurd (List.mem_of_getLast? bracket) unbracketed
    have back : Plain (glyph ++ replaceAll pattern glyph after) :=
      plain_append_iff.mpr ⟨plain_of_absent unbracketed, later, last⟩
    rw [replaceAll_of_cut nonempty found, List.append_assoc]
    refine plain_append_iff.mpr ⟨plain.of_prefix begins, back, apart_of_head ?_ before⟩
    rw [List.head?_append_of_ne_nil _ written]
    exact unsigned
termination_by text.length

theorem plain_glyphs {text : List Char} (plain : Plain text) : Plain (glyphs text) := by
  have table : ∀ entry ∈ glyphTable, entry.1.toList ≠ [] ∧ entry.2.toList ≠ [] ∧
      '<' ∉ entry.2.toList ∧ entry.2.toList.head?.any isTagSign = false := by
    decide
  unfold glyphs
  refine List.foldlRecOn glyphTable _ plain ?_
  intro text plain entry listed
  obtain ⟨nonempty, written, unbracketed, unsigned⟩ := table entry listed
  exact plain_replaceAll nonempty written unbracketed unsigned text plain

theorem breakLines_append (front back : List Char) :
    breakLines (front ++ back) = breakLines front ++ breakLines back :=
  List.flatMap_append

theorem breakLines_cons {c : Char} (same : c ≠ '\n') (text : List Char) :
    breakLines (c :: text) = c :: breakLines text := by
  unfold breakLines
  rw [List.flatMap_cons, if_neg same]
  rfl

theorem breakLines_line {text : List Char} (line : '\n' ∉ text) : breakLines text = text := by
  induction text with
  | nil => rfl
  | cons c text ih =>
    rw [List.mem_cons, not_or] at line
    rw [breakLines_cons (Ne.symm line.1), ih line.2]

def breakTag : List Char :=
  "<br />".toList

theorem breakLines_feed (text : List Char) :
    breakLines ('\n' :: text) = breakTag ++ '\n' :: breakLines text :=
  rfl

theorem isVoid_of_line {name : String} {tag : List Char} (isTag : IsTag tag)
    (known : name ∈ voidElements) (named : voidStart name <+: tag) (line : '\n' ∉ tag) :
    IsVoid tag where
  toIsTag := isTag
  named := ⟨name, known, named⟩
  behind := by
    rintro front back rfl
    exact absurd (List.mem_append_right _ (List.mem_cons_self ..)) line

theorem isVoid_breakTag : IsVoid breakTag := by
  have isTag : IsTag breakTag := ⟨rfl, "<br /".toList, rfl, by decide⟩
  have named : voidStart "br" <+: breakTag := by decide
  exact isVoid_of_line isTag (by decide) named (by decide)

theorem breakLines_woven {text : List Char} (plain : Plain text) : Woven text (breakLines text) := by
  induction text with
  | nil => exact .refl plain
  | cons c text ih =>
    have later := ih (plain_cons_iff.mp plain).2
    have kept : Woven ([c] ++ text) ([c] ++ breakLines text) := .behind plain later
    rw [List.singleton_append, List.singleton_append] at kept
    by_cases feed : c = '\n'
    · rw [feed] at kept ⊢
      exact .of_tag isVoid_breakTag.toIsTag (.of_tag isVoid_breakTag kept.nested) _
    · rw [breakLines_cons feed]
      exact kept

theorem prefix_of_prefix_behind {c : Char} {start front back : List Char} (absent : c ∉ start)
    (begins : start <+: front ++ c :: back) : start <+: front := by
  rcases List.prefix_or_prefix_of_prefix begins (List.prefix_append front _) with inside | longer
  · exact inside
  · obtain ⟨tail, rfl⟩ := longer
    have later := (List.prefix_append_right_inj front).mp begins
    cases tail with
    | nil => simp only [List.append_nil, List.prefix_rfl]
    | cons d tail =>
      obtain ⟨rfl, -⟩ := List.cons_prefix_cons.mp later
      exact absurd (List.mem_append_right _ (List.mem_cons_self ..)) absent

theorem startsTag_voidStart {name : String} (known : name ∈ voidElements) :
    startsTag (voidStart name) = true ∧ '\n' ∉ voidStart name := by
  have checked : ∀ name ∈ voidElements,
      startsTag (voidStart name) = true ∧ '\n' ∉ voidStart name := by
    decide
  exact checked name known

theorem IsVoid.breakLines {tag : List Char} (void : IsVoid tag) : Nested (breakLines tag) := by
  by_cases broken : '\n' ∈ tag
  · obtain ⟨front, back, rfl, line⟩ := List.eq_append_cons_of_mem broken
    obtain ⟨name, known, begins⟩ := void.named
    obtain ⟨starts, unbroken⟩ := startsTag_voidStart known
    have start := prefix_of_prefix_behind unbroken begins
    have single : '>' ∉ front := by
      obtain ⟨inside, same, single⟩ := void.closes
      have shorter := congrArg List.dropLast same
      rw [List.dropLast_append_cons, List.dropLast_concat] at shorter
      rw [← shorter] at single
      exact fun member => single (List.mem_append_left _ member)
    have isTag : IsTag (front ++ breakTag) := by
      obtain ⟨rest, rfl⟩ := start
      have whole : breakTag = "<br /".toList ++ ['>'] := rfl
      rw [whole, ← List.append_assoc]
      refine isTag_of_parts (startsTag_append (startsTag_append starts rest) _) ?_
      rw [List.mem_append, not_or]
      exact ⟨single, by decide⟩
    have first : IsVoid (front ++ breakTag) := by
      refine isVoid_of_line isTag known (start.trans (List.prefix_append ..)) ?_
      rw [List.mem_append, not_or]
      exact ⟨line, by decide⟩
    have plain : Plain ('\n' :: back) := plain_cons_iff.mpr ⟨rfl, void.behind front back rfl⟩
    have later := breakLines_woven (void.behind front back rfl)
    rw [breakLines_append, breakLines_line line, breakLines_feed, ← List.append_assoc]
    have behind : Woven (['\n'] ++ back) (['\n'] ++ Textile.breakLines back) := .behind plain later
    exact .of_tag first behind.nested
  · rw [breakLines_line broken]
    have whole := Nested.of_tag void (.plain plain_nil)
    rwa [List.append_nil] at whole

theorem IsTag.breakLines_apart {tag : List Char} (isTag : IsTag tag) (text : List Char) :
    Apart (Textile.breakLines tag) text := by
  obtain ⟨inside, rfl, -⟩ := isTag.closes
  have last : Textile.breakLines ['>'] = ['>'] := rfl
  intro bracket
  rw [breakLines_append, last, List.getLast?_concat] at bracket
  cases bracket

theorem startsTag_breakLines {text : List Char} (starts : startsTag text = true) :
    startsTag (breakLines text) = true := by
  obtain ⟨sign, rest, rfl, signed⟩ := exists_of_startsTag starts
  have line : sign ≠ '\n' := by
    rintro rfl
    cases signed
  rw [breakLines_cons (by decide), breakLines_cons line]
  exact signed

theorem Nested.breakLines {text : List Char} (nested : Nested text) : Nested (breakLines text) := by
  induction nested with
  | plain plain => exact (breakLines_woven plain).nested
  | @void run tag rest plain void _ ih =>
    have first := void.breakLines.append ih (void.toIsTag.breakLines_apart _)
    have starts := startsTag_breakLines void.starts
    rw [breakLines_append, breakLines_append]
    exact (breakLines_woven plain).nested.append first (apart_of_startsTag starts _ _)
  | element plain opening _ closing _ ihInner ihRest =>
    simp only [breakLines_append, breakLines_line opening.line, breakLines_line closing.line]
    refine (breakLines_woven plain).nested.append ?_ (apart_of_startsTag opening.starts _ _)
    exact .of_element opening ihInner closing ihRest

def formatted (settings : Settings) (text : List Char) : List Char :=
  let linked := mapRuns links (mapRuns images text)
  phrases (if settings.glyphs then mapRuns glyphs linked else linked)

theorem inline_eq (settings : Settings) (text : List Char) :
    inline settings text = restoreCode (heldCode (pieces codeMarker text))
      (if settings.lineBreaks then breakLines (formatted settings (holdCode 0 (pieces codeMarker text)))
        else formatted settings (holdCode 0 (pieces codeMarker text))) :=
  rfl

theorem Nested.formatted (settings : Settings) {text : List Char} (nested : Nested text) :
    Nested (formatted settings text) := by
  have linked : Nested (Textile.mapRuns links (Textile.mapRuns images text)) := by
    apply Nested.mapRuns (fun _ plain => (links_woven plain).nested)
    exact nested.mapRuns (fun _ plain => (images_woven plain).nested)
  unfold Textile.formatted
  apply Nested.phrases
  split
  · exact linked.mapRuns (fun run plain => .plain (plain_glyphs plain))
  · exact linked

/-- However the marks of links, images and phrases interleave, the elements that are made of them
    never do. -/
theorem inline_properlyNested (settings : Settings) (text : List Char) (untagged : '<' ∉ text)
    (uncoded : '@' ∉ text) : ProperlyNested (inline settings text) := by
  have held : holdCode 0 [.literal text] = text := List.append_nil text
  have nested := (Nested.plain (plain_of_absent untagged)).formatted settings
  have single : pieces codeMarker text = [.literal text] := pieces_of_absent uncoded
  rw [inline_eq, single, held]
  have unheld : ∀ text, restoreCode (heldCode [.literal text]) = id := fun _ => rfl
  rw [unheld, id]
  split
  · exact nested.breakLines.properlyNested
  · exact nested.properlyNested

/-- Marks of phrases, a link and an image, each begun within another. -/
def interleaved : List Char :=
  "**a *b** \"c* _d(e)\":/f_ !g(h\ni)! j_".toList

theorem inline_properlyNested_interleaved :
    '<' ∉ interleaved ∧ '@' ∉ interleaved ∧ ProperlyNested (inline {} interleaved) :=
  ⟨by decide, by decide, inline_properlyNested {} interleaved (by decide) (by decide)⟩

end TopicWiki.Textile
