import TopicWiki.Proofs.Template.Switch.AlikeBranches
import TopicWiki.Template.Transform

namespace TopicWiki.Template.Switch

open Text

theorem cutMarks_counted {depth : Nat} {l : Located} (counted : Counts depth l.name)
    (rest : List Located) (tail : List Char) :
    cutMarks depth (l :: rest) tail =
      (l.gap, ⟨l.statement, (cutMarks (depthBehind depth l) rest tail).1⟩ ::
        (cutMarks (depthBehind depth l) rest tail).2) := by
  rw [cutMarks, if_pos counted]

theorem cutMarks_uncounted {depth : Nat} {l : Located} (uncounted : ¬ Counts depth l.name)
    (rest : List Located) (tail : List Char) :
    cutMarks depth (l :: rest) tail =
      (l.gap ++ l.statement.source ++ (cutMarks depth rest tail).1,
        (cutMarks depth rest tail).2) := by
  rw [cutMarks, if_neg uncounted]

theorem cutMarks_cases (depth : Nat) (located : List Located) (tail : List Char) :
    ((∀ l ∈ located, ¬ Counts depth l.name) ∧
        cutMarks depth located tail = (layout located ++ tail, [])) ∨
      ∃ front l back, located = front ++ l :: back ∧ (∀ l ∈ front, ¬ Counts depth l.name) ∧
        Counts depth l.name ∧
        cutMarks depth located tail =
          (layout front ++ l.gap, ⟨l.statement, (cutMarks (depthBehind depth l) back tail).1⟩ ::
            (cutMarks (depthBehind depth l) back tail).2) := by
  induction located with
  | nil => exact Or.inl ⟨by simp, rfl⟩
  | cons l rest ih =>
    by_cases counted : Counts depth l.name
    · exact Or.inr ⟨[], l, rest, rfl, by simp, counted, cutMarks_counted counted rest tail⟩
    · rw [cutMarks_uncounted counted, layout_cons]
      rcases ih with ⟨none_, whole⟩ | ⟨front, m, back, rfl, none_, counts, cut⟩
      · refine Or.inl ⟨List.forall_mem_cons.mpr ⟨counted, none_⟩, ?_⟩
        rw [whole]
        simp
      · refine Or.inr ⟨l :: front, m, back, rfl, List.forall_mem_cons.mpr ⟨counted, none_⟩, counts,
          ?_⟩
        rw [cut, layout_cons]
        simp

section

variable {depth : Nat} {located front back : List Located} {l : Located} {tail text : List Char}
  {marker : Statement} {body : List Char} {parts : List Part}

theorem cutMarks_eq_nil (proper : AllProper located) (last : Statement.first? tail = none)
    (cut : cutMarks depth located tail = (text, [])) :
    text = layout located ++ tail ∧ Without (Counts depth) text := by
  rcases cutMarks_cases depth located tail with ⟨none_, whole⟩ | ⟨_, _, _, -, -, -, other⟩
  · rw [whole] at cut
    obtain rfl : layout located ++ tail = text := congrArg Prod.fst cut
    refine ⟨rfl, ?_⟩
    intro name member
    rw [names, statements_layout_append proper, statements_nil_of_first? last, List.append_nil]
      at member
    obtain ⟨l, inside, rfl⟩ := List.mem_map.mp member
    exact none_ l inside
  · rw [other] at cut
    cases cut

theorem cutMarks_eq_cons (proper : AllProper located)
    (cut : cutMarks depth located tail = (text, ⟨marker, body⟩ :: parts)) :
    ∃ (f : StatementForm) (back : List Located), marker = f.statement ∧ AllProper back ∧
      Counts depth f.statement.name ∧ Settled text ∧ Without (Counts depth) text ∧
      layout located ++ tail = text ++ f.source ++ (layout back ++ tail) ∧
      cutMarks (depthBehind depth ⟨[], f.statement⟩) back tail = (body, parts) := by
  rcases cutMarks_cases depth located tail with ⟨-, whole⟩ |
    ⟨front, l, back, rfl, none_, counts, other⟩
  · rw [whole] at cut
    cases cut
  · rw [other] at cut
    cases cut
    obtain ⟨idle, f, same⟩ := proper l (by simp)
    have properFront : AllProper front := fun m member => proper m (by simp [member])
    have properBack : AllProper back := fun m member => proper m (by simp [member])
    have counts : Counts depth f.statement.name := same ▸ counts
    have behind : depthBehind depth ⟨[], f.statement⟩ = depthBehind depth l := by
      unfold depthBehind Located.name
      rw [same]
    refine ⟨f, back, same, properBack, counts, ⟨front, l.gap, properFront, idle, rfl⟩, ?_, ?_, ?_⟩
    · intro name member
      rw [names, statements_layout_idle properFront idle] at member
      obtain ⟨m, inside, rfl⟩ := List.mem_map.mp member
      exact none_ m inside
    · rw [layout_append, layout_cons, same, show f.statement.source = f.source from rfl]
      simp
    · rw [behind]

end

theorem Twins.alike {pairs : List (List Char × List Char)} {cut cut' : List Char × List Part}
    (twins : Twins pairs cut cut') {depth : Nat} {located located' : List Located}
    {tail tail' : List Char} (proper : AllProper located) (proper' : AllProper located')
    (last : Statement.first? tail = none) (last' : Statement.first? tail' = none)
    (cuts : cutMarks depth located tail = cut) (cuts' : cutMarks depth located' tail' = cut') :
    Alike Counts depth pairs (layout located ++ tail) (layout located' ++ tail') := by
  induction twins generalizing depth located located' with
  | tail swaps =>
    obtain ⟨rfl, without⟩ := cutMarks_eq_nil proper last cuts
    obtain ⟨rfl, without'⟩ := cutMarks_eq_nil proper' last' cuts'
    exact .tail without without' swaps
  | mark marker swaps behind ih =>
    obtain ⟨f, back, rfl, properBack, counted, settled, without, whole, rest⟩ :=
      cutMarks_eq_cons proper cuts
    obtain ⟨g, back', same, properBack', -, settled', without', whole', rest'⟩ :=
      cutMarks_eq_cons proper' cuts'
    have source : g.source = f.source := congrArg Statement.source same.symm
    rw [← same] at rest'
    rw [whole, whole', source]
    exact .mark f counted settled settled' without without' swaps
      (ih properBack properBack' rest rest')

theorem Twins.alike_of_marked {pairs : List (List Char × List Char)} {source source' : List Char}
    (twins : Twins pairs (marked source) (marked source')) :
    Alike Counts 0 pairs source source' := by
  obtain ⟨whole, last⟩ := layout_tailAfter source
  obtain ⟨whole', last'⟩ := layout_tailAfter source'
  have alike :=
    twins.alike (statements_proper source) (statements_proper source') last last' rfl rfl
  rwa [whole, whole'] at alike

def AlikeResults (pairs : List (List Char × List Char))
    (outcome outcome' : Except TagError (List Char) × Nat) : Prop :=
  (∃ e serial, outcome = (.error e, serial) ∧ outcome' = (.error e, serial)) ∨
    ∃ text text' serial, outcome = (.ok text, serial) ∧ outcome' = (.ok text', serial) ∧
      Swaps pairs text text'

section

variable {pairs later : List (List Char × List Char)}

theorem AlikeResults.error (e : TagError) (serial : Nat) :
    AlikeResults pairs (.error e, serial) (.error e, serial) :=
  Or.inl ⟨e, serial, rfl, rfl⟩

theorem AlikeResults.bind {x x' : Expanding (List Char)} {f f' : List Char → Expanding (List Char)}
    {serial : Nat} (alike : AlikeResults pairs (x.run.run serial) (x'.run.run serial))
    (next : ∀ text text' middle, Swaps pairs text text' →
      AlikeResults later ((f text).run.run middle) ((f' text').run.run middle)) :
    AlikeResults later ((x >>= f).run.run serial) ((x' >>= f').run.run serial) := by
  rw [Expanding.run_bind, Expanding.run_bind]
  rcases alike with ⟨e, middle, fails, fails'⟩ | ⟨text, text', middle, gives, gives', swaps⟩
  · rw [fails, fails']
    exact .error e middle
  · rw [gives, gives']
    exact next text text' middle swaps

theorem swaps_keptBefore {text text' : List Char} (swaps : Swaps pairs text text')
    (open_ : Statement) : Swaps pairs (keptBefore open_ text) (keptBefore open_ text') := by
  unfold keptBefore
  split
  · exact swaps.trimEnd
  · exact swaps

theorem alike_leftBehind {text text' : List Char} (alike : Alike Counts 0 pairs text text')
    (close : Statement) :
    Alike Counts 0 pairs (leftBehind close text) (leftBehind close text') := by
  unfold leftBehind
  split
  · exact alike.trimStart
  · exact alike

theorem run_alike (template : String) {arguments body body' : List Char}
    (alike : AlikeInside pairs body body') (settled : Settled body) (settled' : Settled body')
    (unclosed : Unclosed arguments) (serial : Nat) :
    (∃ e, (tag.run ⟨tag.name, arguments, body, template⟩).run.run serial = (.error e, serial) ∧
        (tag.run ⟨tag.name, arguments, body', template⟩).run.run serial = (.error e, serial)) ∨
      ∃ text text',
        (tag.run ⟨tag.name, arguments, body, template⟩).run.run serial = (.ok text, serial + 1) ∧
        (tag.run ⟨tag.name, arguments, body', template⟩).run.run serial =
          (.ok text', serial + 1) ∧
        AlikeInside pairs text text' := by
  rw [run_tag, run_tag]
  rcases expandBlock_alike alike settled settled' unclosed serial with
    ⟨fault, fails, fails'⟩ | ⟨text, text', gives, gives', alikeText⟩
  · rw [fails, fails']
    exact Or.inl ⟨_, rfl, rfl⟩
  · rw [gives, gives']
    exact Or.inr ⟨text, text', rfl, rfl, alikeText⟩

section

variable {text text' before inside body rest : List Char} {open_ close : Statement} {level : Nat}

theorem Alike.unopened (alike : Alike Counts 0 pairs text text')
    (none_ : opening? tag text = none) : opening? tag text' = none := by
  rcases alike.opening with ⟨-, none'⟩ | ⟨f, _, _, _, _, _, _, opened, -⟩
  · exact none'
  · rw [none_] at opened
    cases opened

theorem Alike.opened (alike : Alike Counts 0 pairs text text')
    (opened : opening? tag text = some (before, open_, inside)) :
    ∃ before' inside' early late, opening? tag text' = some (before', open_, inside') ∧
      pairs = early ++ late ∧ Swaps early before before' ∧ Alike Counts 1 late inside inside' := by
  rcases alike.opening with ⟨none_, -⟩ | ⟨f, _, before', _, inside', early, late, found, found',
    split, swaps, alikeInside⟩
  · rw [opened] at none_
    cases none_
  · rw [opened] at found
    cases found
    exact ⟨before', inside', early, late, found', split, swaps, alikeInside⟩

theorem EndsAlike.unclosed (ends : EndsAlike level pairs text text')
    (none_ : closing? tag level text = none) : closing? tag level text' = none := by
  rcases ends with ⟨-, none'⟩ | ⟨f, _, _, _, _, _, _, closed, -⟩
  · exact none'
  · rw [none_] at closed
    cases closed

theorem EndsAlike.closed (ends : EndsAlike level pairs text text')
    (closed : closing? tag level text = some (body, close, rest)) :
    ∃ body' rest' early late, closing? tag level text' = some (body', close, rest') ∧
      pairs = early ++ late ∧ AlikeInside early body body' ∧ Alike Counts 0 late rest rest' := by
  rcases ends with ⟨none_, -⟩ | ⟨f, _, body', _, rest', early, late, found, found', split,
    alikeBody, alikeRest⟩
  · rw [closed] at none_
    cases none_
  · rw [closed] at found
    cases found
    exact ⟨body', rest', early, late, found', split, alikeBody, alikeRest⟩

end

theorem expandBlocks_alike (template : String) (levels : Nat)
    {written written' source source' : List Char} (swaps : Swaps later written written')
    (alike : Alike Counts 0 pairs source source') (serial : Nat) :
    AlikeResults (later ++ pairs)
      ((expandBlocks tag template levels written source).run.run serial)
      ((expandBlocks tag template levels written' source').run.run serial) := by
  induction levels, written, source using expandBlocks.induct tag
    generalizing serial written' source' pairs later with
  | case1 levels written source none_ =>
    rw [expandBlocks_of_no_opening none_, expandBlocks_of_no_opening (alike.unopened none_)]
    exact Or.inr ⟨_, _, serial, rfl, rfl, swaps.append alike.swaps⟩
  | case2 written source before open_ inside opened =>
    obtain ⟨_, _, _, _, opened', -⟩ := alike.opened opened
    rw [expandBlocks_too_deep opened, expandBlocks_too_deep opened']
    exact .error _ serial
  | case3 written source before open_ inside opened levels unclosed =>
    obtain ⟨_, _, _, _, opened', -, -, alikeInside⟩ := alike.opened opened
    rw [expandBlocks_unclosed opened unclosed,
      expandBlocks_unclosed opened' (alikeInside.ending.unclosed unclosed)]
    exact .error _ serial
  | case4 written source before open_ inside opened levels body close rest closed =>
    rename_i deeper further
    obtain ⟨before', inside', early, late, opened', rfl, swapsBefore, alikeInside⟩ :=
      alike.opened opened
    obtain ⟨body', rest', bodies, rests, closed', rfl, alikeBody, alikeRest⟩ :=
      alikeInside.ending.closed closed
    obtain ⟨-, -, -, f, rfl⟩ := opening?_eq_some opened
    have settled := (closing?_eq_some closed).2.1
    have settled' := (closing?_eq_some closed').2.1
    rw [expandBlocks_block opened closed, expandBlocks_block opened' closed',
      Expanding.run_bind, Expanding.run_bind]
    rcases run_alike template alikeBody settled settled' f.unclosed_arguments serial with
      ⟨e, fails, fails'⟩ | ⟨text, text', gives, gives', alikeText⟩
    · rw [fails, fails']
      exact .error e serial
    · rw [gives, gives']
      have inner := deeper text (.same []) (alikeText 0).loosen (serial + 1)
      refine inner.bind fun inner inner' middle swapsInner => ?_
      have front := swaps_keptBefore (swaps.append swapsBefore) f.statement
      have regions : later ++ (early ++ (bodies ++ rests)) =
          later ++ early ++ ([] ++ bodies) ++ rests := by simp
      rw [regions]
      exact further inner (front.append swapsInner) (alike_leftBehind alikeRest close) middle

end

theorem apply_tag (template source : String) (serials : Serials) :
    Transforms.apply { tags := [tag] } template source serials =
      match (expandTag tag template source.toList).run.run (serials.head?.getD 0) with
      | (outcome, serial) => (outcome.map String.ofList, serial :: serials.tail) := by
  rw [Transforms.apply, expandTags]
  cases (expandTag tag template source.toList).run.run (serials.head?.getD 0) with
  | mk outcome serial => cases outcome <;> rfl

/-- Comments and verbatim blocks that stand between the statements of the switches are left as they
    are, and what stands in them is no matter: with others in their place, what is written, or what
    is wrong, is the same but for these. Outside of switches no statement but that of another switch
    is one of them. -/
theorem apply_keeps_regions {pairs : List (List Char × List Char)} {source source' : String}
    (twins : Twins pairs (marked source.toList) (marked source'.toList)) (template : String)
    (serials : Serials) :
    (∃ e left, Transforms.apply { tags := [tag] } template source serials = (.error e, left) ∧
        Transforms.apply { tags := [tag] } template source' serials = (.error e, left)) ∨
      ∃ text text' left,
        Transforms.apply { tags := [tag] } template source serials = (.ok text, left) ∧
        Transforms.apply { tags := [tag] } template source' serials = (.ok text', left) ∧
        Stand (pairs.map Prod.fst) text.toList ∧ Swaps pairs text.toList text'.toList := by
  have alike := expandBlocks_alike template maxNesting (.same []) twins.alike_of_marked
    (serials.head?.getD 0)
  rw [apply_tag, apply_tag, expandTag, expandTag]
  rcases alike with ⟨e, serial, fails, fails'⟩ | ⟨text, text', serial, gives, gives', swaps⟩
  · rw [fails, fails']
    exact Or.inl ⟨e, _, rfl, rfl⟩
  · rw [gives, gives']
    refine Or.inr ⟨_, _, _, rfl, rfl, ?_⟩
    rw [String.toList_ofList, String.toList_ofList]
    exact ⟨swaps.stand, swaps⟩

theorem apply_keeps_regions_around_switch :
    let comment := "\x7b# \x7b% case 1 %\x7d #\x7d"
    let verbatim := "\x7b% raw %\x7d\x7b\x7b y \x7d\x7d\x7b% endraw %\x7d"
    let page (first second : String) := first ++ "\x7b% switch x %\x7d\x7b% case 1 -%\x7d " ++
      second ++ " \x7b%- endswitch %\x7d"
    let apply (source : String) := Transforms.apply { tags := [tag] } "page" source []
    let pairs := [(comment.toList, "\x7b##\x7d".toList), (verbatim.toList, "\x7b# z #\x7d".toList)]
    Twins pairs (marked (page comment verbatim).toList)
        (marked (page "\x7b##\x7d" "\x7b# z #\x7d").toList) ∧
      ((∃ e left, apply (page comment verbatim) = (.error e, left) ∧
          apply (page "\x7b##\x7d" "\x7b# z #\x7d") = (.error e, left)) ∨
        ∃ text text' left, apply (page comment verbatim) = (.ok text, left) ∧
          apply (page "\x7b##\x7d" "\x7b# z #\x7d") = (.ok text', left) ∧
          Stand (pairs.map Prod.fst) text.toList ∧ Swaps pairs text.toList text'.toList) := by
  intro comment verbatim page apply pairs
  let opening : Statement := ⟨"switch", ['x'], false, false, "\x7b% switch x %\x7d".toList⟩
  let marker : Statement := ⟨"case", ['1'], false, true, "\x7b% case 1 -%\x7d".toList⟩
  let closing : Statement := ⟨"endswitch", [], true, false, "\x7b%- endswitch %\x7d".toList⟩
  have cut : marked (page comment verbatim).toList =
      ([] ++ (comment.toList ++ []), [⟨opening, []⟩, ⟨marker, [' '] ++ (verbatim.toList ++ [' '])⟩,
        ⟨closing, []⟩]) := by
    decide +kernel
  have cut' : marked (page "\x7b##\x7d" "\x7b# z #\x7d").toList =
      ([] ++ ("\x7b##\x7d".toList ++ []), [⟨opening, []⟩,
        ⟨marker, [' '] ++ ("\x7b# z #\x7d".toList ++ [' '])⟩, ⟨closing, []⟩]) := by
    decide +kernel
  have twins : Twins pairs (marked (page comment verbatim).toList)
      (marked (page "\x7b##\x7d" "\x7b# z #\x7d").toList) := by
    have isComment : IsRegion comment.toList := by decide +kernel
    have isVerbatim : IsRegion verbatim.toList := by decide +kernel
    have first : IsRegion "\x7b##\x7d".toList := by decide +kernel
    have second : IsRegion "\x7b# z #\x7d".toList := by decide +kernel
    rw [cut, cut']
    exact .mark opening (.region [] isComment first (.same []))
      (.mark marker (.same []) (.mark closing
        (.region [' '] isVerbatim second (.same [' '])) (.tail (.same []))))
  exact ⟨twins, apply_keeps_regions twins "page" []⟩

/-- A switch in a comment counts: it may lack its end. -/
theorem apply_fails_on_comment :
    IsRegion "\x7b# \x7b% switch x %\x7d #\x7d".toList ∧
      Transforms.apply { tags := [tag] } "page" "\x7b# \x7b% switch x %\x7d #\x7d" [] =
        (.error ⟨"switch", "page", "missing \x7b% endswitch %\x7d"⟩, [0]) := by
  refine ⟨by decide +kernel, ?_⟩
  have opened : opening? tag "\x7b# \x7b% switch x %\x7d #\x7d".toList =
      some ("\x7b# ".toList, ⟨"switch", ['x'], false, false, statementText "switch x".toList⟩,
        " #\x7d".toList) := by
    decide +kernel
  have unclosed : closing? tag 0 " #\x7d".toList = none := by
    decide +kernel
  rw [apply_tag, expandTag, maxNesting, expandBlocks_unclosed opened unclosed]
  rfl

end TopicWiki.Template.Switch
