import TopicWiki.Proofs.Template.Regions
import TopicWiki.Proofs.Template.Switch.Removal

namespace TopicWiki.Template.Switch

open Text

def markNames : List String :=
  ["switch", "endswitch", "case", "default"]

def Counts (depth : Nat) (name : String) : Prop :=
  name = "switch" ∨ (depth ≠ 0 ∧ name ∈ markNames)

instance (depth : Nat) (name : String) : Decidable (Counts depth name) :=
  inferInstanceAs (Decidable (_ ∨ _))

/-- The source before the first statement that counts, and each of these with the source behind it,
    up to the next one. -/
def cutMarks (depth : Nat) : List Located → List Char → List Char × List Part
  | [], tail => (tail, [])
  | located :: rest, tail =>
    if Counts depth located.name then
      let (body, parts) := cutMarks (depthBehind depth located) rest tail
      (located.gap, ⟨located.statement, body⟩ :: parts)
    else
      let (body, parts) := cutMarks depth rest tail
      (located.gap ++ located.statement.source ++ body, parts)

def marked (source : List Char) : List Char × List Part :=
  let located := statements source
  cutMarks 0 located (tailAfter located source)

/-- Two sources have the same statements of switches, and what stands between these is the same but
    for some regions. -/
inductive Twins :
    List (List Char × List Char) → List Char × List Part → List Char × List Part → Prop
  | tail {pairs : List (List Char × List Char)} {text text' : List Char}
    (swaps : Swaps pairs text text') : Twins pairs (text, []) (text', [])
  | mark {pairs later : List (List Char × List Char)} {text text' body body' : List Char}
    {parts parts' : List Part} (marker : Statement) (swaps : Swaps pairs text text')
    (behind : Twins later (body, parts) (body', parts')) :
    Twins (pairs ++ later) (text, ⟨marker, body⟩ :: parts) (text', ⟨marker, body'⟩ :: parts')

def Without (counts : String → Prop) (text : List Char) : Prop :=
  ∀ name ∈ names text, ¬ counts name

/-- Two texts in which the same statements count, with texts between them that are the same but for
    some regions. Which statements count depends on how many switches are open. -/
inductive Alike (counts : Nat → String → Prop) :
    Nat → List (List Char × List Char) → List Char → List Char → Prop
  | tail {depth : Nat} {pairs : List (List Char × List Char)} {text text' : List Char}
    (without : Without (counts depth) text) (without' : Without (counts depth) text')
    (swaps : Swaps pairs text text') : Alike counts depth pairs text text'
  | mark {depth : Nat} {pairs later : List (List Char × List Char)}
    {gap gap' rest rest' : List Char} (f : StatementForm) (counted : counts depth f.statement.name)
    (settled : Settled gap) (settled' : Settled gap')
    (without : Without (counts depth) gap) (without' : Without (counts depth) gap')
    (swaps : Swaps pairs gap gap')
    (behind : Alike counts (depthBehind depth ⟨[], f.statement⟩) later rest rest') :
    Alike counts depth (pairs ++ later) (gap ++ f.source ++ rest) (gap' ++ f.source ++ rest')

def AlikeInside (pairs : List (List Char × List Char)) (text text' : List Char) : Prop :=
  ∀ depth, Alike (fun _ name => name ∈ markNames) depth pairs text text'

section Without

variable {counts : String → Prop} {text : List Char}

theorem Without.of_idle (idle : Idle text) : Without counts text := by
  intro name member
  rw [names_nil_of_first? (Statement.first?_of_idle idle)] at member
  cases member

theorem Without.trimStart (without : Without counts text) :
    Without counts (Text.trimStart text) := by
  unfold Without
  rwa [names_trimStart]

theorem Without.trimEnd (without : Without counts text) : Without counts (Text.trimEnd text) := by
  unfold Without
  rwa [names_trimEnd]

theorem Without.ended_append {front : List Char} (ended : Ended front)
    (without : Without counts front) (without' : Without counts text) :
    Without counts (front ++ text) := by
  unfold Without
  rw [ended.names_append]
  exact fun name member => (List.mem_append.mp member).elim (without name) (without' name)

theorem Without.settled_append {front : List Char} (settled : Settled front)
    (without : Without counts front) (without' : Without counts text) (opens : Opens text) :
    Without counts (front ++ text) := by
  unfold Without
  rw [settled.names_append opens]
  exact fun name member => (List.mem_append.mp member).elim (without name) (without' name)

theorem Without.form {f : StatementForm} (uncounted : ¬ counts f.statement.name) :
    Without counts f.source := by
  intro name member
  have proper : Located.Proper ⟨[], f.statement⟩ := ⟨Idle.nil, f, rfl⟩
  rw [show f.source = [] ++ f.statement.source from rfl, proper.names,
    List.mem_singleton] at member
  rwa [member]

end Without

section Alike

variable {counts : Nat → String → Prop} {depth : Nat} {pairs later : List (List Char × List Char)}
  {text text' front front' : List Char}

theorem braced_form (f : StatementForm) : Braced f.source :=
  ⟨f.source_begins, f.source_ends⟩

theorem Alike.swaps (alike : Alike counts depth pairs text text') : Swaps pairs text text' := by
  induction alike with
  | tail _ _ swaps => exact swaps
  | mark f _ _ _ _ _ swaps _ ih =>
    have whole := (swaps.append (.same f.source)).append ih
    simpa using whole

theorem Alike.trimStart (alike : Alike counts depth pairs text text') :
    Alike counts depth pairs (trimStart text) (trimStart text') := by
  cases alike with
  | tail without without' swaps =>
    exact .tail without.trimStart without'.trimStart swaps.trimStart
  | mark f counted settled settled' without without' swaps behind =>
    simp only [List.append_assoc, (braced_form f).trimStart_append]
    simp only [← List.append_assoc]
    exact .mark f counted settled.trimStart settled'.trimStart without.trimStart without'.trimStart
      swaps.trimStart behind

theorem Alike.trimEnd (alike : Alike counts depth pairs text text') :
    Alike counts depth pairs (trimEnd text) (trimEnd text') := by
  induction alike with
  | tail without without' swaps => exact .tail without.trimEnd without'.trimEnd swaps.trimEnd
  | mark f counted settled settled' without without' swaps _ ih =>
    simp only [List.append_assoc, (braced_form f).trimEnd_append]
    simp only [← List.append_assoc]
    exact .mark f counted settled settled' without without' swaps ih

theorem Alike.ended_append (ended : Ended front) (ended' : Ended front')
    (without : Without (counts depth) front) (without' : Without (counts depth) front')
    (swaps : Swaps pairs front front') (alike : Alike counts depth later text text') :
    Alike counts depth (pairs ++ later) (front ++ text) (front' ++ text') := by
  cases alike with
  | tail none_ none' behind =>
    exact .tail (without.ended_append ended none_) (without'.ended_append ended' none')
      (swaps.append behind)
  | mark f counted settled settled' none_ none' gaps behind =>
    simp only [← List.append_assoc]
    exact .mark f counted (ended.append_settled settled) (ended'.append_settled settled')
      (without.ended_append ended none_) (without'.ended_append ended' none')
      (swaps.append gaps) behind

theorem opens_of_append {more : List Char} (opens : Opens (text ++ more)) : Opens text := by
  cases text with
  | nil => exact Or.inl rfl
  | cons c text =>
    rcases opens with empty | ⟨rest, begins⟩
    · cases empty
    · exact Or.inr ⟨text, by rw [(List.cons.inj begins).1]⟩

theorem Alike.append (alike : Alike (fun _ name => name ∈ markNames) depth pairs front front')
    (settled : Settled front) (settled' : Settled front') (alikeText : AlikeInside later text text')
    (opens : Opens text) (opens' : Opens text') :
    Alike (fun _ name => name ∈ markNames) depth (pairs ++ later) (front ++ text)
      (front' ++ text') := by
  induction alike with
  | @tail depth _ _ _ without without' swaps =>
    cases alikeText depth with
    | tail none_ none' behind =>
      exact .tail (without.settled_append settled none_ opens)
        (without'.settled_append settled' none' opens') (swaps.append behind)
    | mark f counted settledGap settledGap' none_ none' gaps behind =>
      rw [List.append_assoc] at opens opens'
      have opens := opens_of_append opens
      have opens' := opens_of_append opens'
      simp only [← List.append_assoc]
      exact .mark f counted (settled.append settledGap opens) (settled'.append settledGap' opens')
        (without.settled_append settled none_ opens)
        (without'.settled_append settled' none' opens') (swaps.append gaps) behind
  | mark f counted settledGap settledGap' without without' swaps _ ih =>
    have rest := ih (Settled.of_append (settledGap.append_form f) settled)
      (Settled.of_append (settledGap'.append_form f) settled')
    rw [List.append_assoc, List.append_assoc _ _ text, List.append_assoc _ _ text']
    exact .mark f counted settledGap settledGap' without without' swaps rest

theorem mem_markNames_of_counts {name : String} (counted : Counts depth name) :
    name ∈ markNames := by
  rcases counted with rfl | ⟨-, member⟩
  · decide
  · exact member

theorem Alike.loosen (alike : Alike (fun _ name => name ∈ markNames) depth pairs text text') :
    Alike Counts depth pairs text text' := by
  have weaken {depth : Nat} {text : List Char}
      (without : Without (fun name => name ∈ markNames) text) : Without (Counts depth) text :=
    fun name member counted => without name member (mem_markNames_of_counts counted)
  induction alike with
  | tail without without' swaps => exact .tail (weaken without) (weaken without') swaps
  | @mark depth _ _ _ _ _ _ f counted settled settled' without without' swaps _ ih =>
    by_cases counts : Counts depth f.statement.name
    · exact .mark f counts settled settled' (weaken without) (weaken without') swaps ih
    · obtain ⟨other, outside⟩ := not_or.mp counts
      obtain rfl : depth = 0 := by
        by_contra inside
        exact outside ⟨inside, counted⟩
      have stays : depthBehind 0 ⟨[], f.statement⟩ = 0 := by
        simp [depthBehind, Located.name, other]
      rw [stays] at ih
      have form : Without (Counts 0) f.source := Without.form counts
      have opens : Opens f.source := Or.inr f.source_begins
      exact ih.ended_append (settled.append_form f) (settled'.append_form f)
        ((weaken without).settled_append settled form opens)
        ((weaken without').settled_append settled' form opens)
        (by simpa using swaps.append (.same f.source))

theorem Alike.opening (alike : Alike Counts 0 pairs text text') :
    (opening? tag text = none ∧ opening? tag text' = none) ∨
      ∃ (f : StatementForm) (before before' inside inside' : List Char)
        (pairs' later' : List (List Char × List Char)),
        opening? tag text = some (before, f.statement, inside) ∧
        opening? tag text' = some (before', f.statement, inside') ∧
        pairs = pairs' ++ later' ∧ Swaps pairs' before before' ∧
        Alike Counts 1 later' inside inside' := by
  have absent {text : List Char} (without : Without (Counts 0) text) : tag.name ∉ names text :=
    fun member => without _ member (Or.inl rfl)
  cases alike with
  | tail without without' swaps =>
    exact .inl
      ⟨opening?_eq_none_iff.mpr (absent without), opening?_eq_none_iff.mpr (absent without')⟩
  | mark f counted settled settled' without without' swaps behind =>
    have opens : f.statement.name = tag.name := counted.resolve_right fun inside => inside.1 rfl
    have one : depthBehind 0 ⟨[], f.statement⟩ = 1 := by
      simp [depthBehind, Located.name, opens, tag]
    rw [one] at behind
    exact .inr ⟨f, _, _, _, _, _, _, opening?_of_settled settled (absent without) opens _,
      opening?_of_settled settled' (absent without') opens _, rfl, swaps, behind⟩

def EndsAlike (level : Nat) (pairs : List (List Char × List Char)) (text text' : List Char) :
    Prop :=
  (closing? tag level text = none ∧ closing? tag level text' = none) ∨
    ∃ (f : StatementForm) (body body' rest rest' : List Char)
      (pairs' later' : List (List Char × List Char)),
      closing? tag level text = some (body, f.statement, rest) ∧
      closing? tag level text' = some (body', f.statement, rest') ∧
      pairs = pairs' ++ later' ∧ AlikeInside pairs' body body' ∧
      Alike Counts 0 later' rest rest'

theorem EndsAlike.behind {level inner : Nat} {rest rest' : List Char}
    (ends : EndsAlike inner later rest rest')
    (alike : ∀ {pairs' body body'}, AlikeInside pairs' body body' →
      AlikeInside (pairs ++ pairs') (front ++ body) (front' ++ body'))
    (found : closing? tag level text = foundBehind front (closing? tag inner rest))
    (found' : closing? tag level text' = foundBehind front' (closing? tag inner rest')) :
    EndsAlike level (pairs ++ later) text text' := by
  rcases ends with ⟨none_, none'⟩ | ⟨f, body, body', last, last', early, late, closed, closed', rfl,
    alikeBody, alikeRest⟩
  · rw [none_] at found
    rw [none'] at found'
    exact Or.inl ⟨found, found'⟩
  · rw [closed] at found
    rw [closed'] at found'
    exact Or.inr ⟨f, _, _, _, _, _, _, found, found', (List.append_assoc _ _ _).symm,
      alike alikeBody, alikeRest⟩

theorem Alike.ending {level : Nat} (alike : Alike Counts (level + 1) pairs text text') :
    EndsAlike level pairs text text' := by
  generalize inside : level + 1 = depth at alike
  induction alike generalizing level with
  | tail without without' swaps =>
    subst inside
    have absent {text : List Char} (without : Without (Counts (level + 1)) text) :
        tag.endName ∉ names text :=
      fun member => without _ member (Or.inr ⟨Nat.succ_ne_zero _, by decide⟩)
    exact .inl ⟨closing?_eq_none (absent without) level, closing?_eq_none (absent without') level⟩
  | @mark _ _ _ gap gap' rest rest' f counted settled settled' without without' swaps behind ih =>
    subst inside
    have all {text : List Char} (without : Without (Counts (level + 1)) text) :
        Without (fun name => name ∈ markNames) text :=
      fun name inside member => without name inside (Or.inr ⟨Nat.succ_ne_zero _, member⟩)
    have absent {name : String} (member : name ∈ markNames) {text : List Char}
        (without : Without (Counts (level + 1)) text) : name ∉ names text :=
      fun inside => all without name inside member
    have alike {pairs' : List (List Char × List Char)} {body body' : List Char}
        (alikeBody : AlikeInside pairs' body body') :
        AlikeInside (_ ++ pairs') (gap ++ f.source ++ body) (gap' ++ f.source ++ body') :=
      fun depth => .mark f (mem_markNames_of_counts counted) settled settled' (all without)
        (all without') swaps (alikeBody _)
    have step : closing? tag level (gap ++ f.source ++ rest) = _ :=
      closing?_of_settled settled (absent (by decide) without) (absent (by decide) without) f level
        rest
    have step' : closing? tag level (gap' ++ f.source ++ rest') = _ :=
      closing?_of_settled settled' (absent (by decide) without') (absent (by decide) without') f
        level rest'
    by_cases opens : f.statement.name = tag.name
    · rw [if_pos opens] at step step'
      have open_ : level + 1 + 1 = depthBehind (level + 1) ⟨[], f.statement⟩ := by
        simp [depthBehind, Located.name, opens, tag]
      exact (ih open_).behind alike step step'
    · rw [if_neg opens] at step step'
      by_cases closes : f.statement.name = tag.endName
      · rw [if_pos closes] at step step'
        have closed : level = depthBehind (level + 1) ⟨[], f.statement⟩ := by
          simp [depthBehind, Located.name, closes, tag]
        cases level with
        | zero =>
          rw [← closed] at behind
          exact Or.inr ⟨f, gap, gap', rest, rest', _, _, step, step', rfl,
            fun depth => .tail (all without) (all without') swaps, behind⟩
        | succ level => exact (ih closed).behind alike step step'
      · rw [if_neg closes] at step step'
        have same : level + 1 = depthBehind (level + 1) ⟨[], f.statement⟩ := by
          have opens : f.statement.name ≠ "switch" := opens
          have closes : f.statement.name ≠ "endswitch" := closes
          simp [depthBehind, Located.name, opens, closes]
        exact (ih same).behind alike step step'

/-- Parts with the same markers, and bodies that differ in regions only. -/
inductive PartsAlike : List (List Char × List Char) → List Part → List Part → Prop
  | nil : PartsAlike [] [] []
  | cons {pairs later : List (List Char × List Char)} {body body' : List Char}
    {parts parts' : List Part} (marker : Statement) (alike : AlikeInside pairs body body')
    (behind : PartsAlike later parts parts') :
    PartsAlike (pairs ++ later) (⟨marker, body⟩ :: parts) (⟨marker, body'⟩ :: parts')

def partsFrom (depth : Nat) (text : List Char) : List Char × List Part :=
  partsAt depth (statements text) (tailAfter (statements text) text)

theorem partsFrom_layout {located : List Located} (proper : AllProper located) {tail : List Char}
    (last : Statement.first? tail = none) (depth : Nat) :
    partsFrom depth (layout located ++ tail) = partsAt depth located tail := by
  have same : statements (layout located ++ tail) = located := by
    rw [statements_layout_append proper, statements_nil_of_first? last, List.append_nil]
  rw [partsFrom, same, tailAfter_layout]

theorem partsAt_layout_append {located : List Located}
    (without : ∀ l ∈ located, l.name ∉ markNames) (depth : Nat) (more : List Located)
    (tail : List Char) :
    partsAt depth (located ++ more) tail =
      (layout located ++ (partsAt depth more tail).1, (partsAt depth more tail).2) := by
  induction located with
  | nil => rfl
  | cons l located ih =>
    obtain ⟨here, later⟩ := List.forall_mem_cons.mp without
    have plain : ¬ IsMarker l := by
      rintro (same | same) <;> exact here (by rw [same]; decide)
    have stays : depthBehind depth l = depth := by
      unfold depthBehind
      rw [if_neg fun same => here (by rw [same]; decide),
        if_neg fun same => here (by rw [same]; decide)]
    rw [List.cons_append, partsAt_inner fun top => plain top.2, stays, ih later, layout_cons]
    simp

theorem partsFrom_of_without {text : List Char}
    (without : Without (fun name => name ∈ markNames) text) (depth : Nat) :
    partsFrom depth text = (text, []) := by
  have plain : ∀ l ∈ statements text, l.name ∉ markNames :=
    fun l member => without _ (List.mem_map_of_mem member)
  have read := partsAt_layout_append plain depth [] (tailAfter (statements text) text)
  rw [List.append_nil, partsAt, (layout_tailAfter text).1] at read
  exact read

theorem exists_partsFrom_eq {gap : List Char} (settled : Settled gap)
    (without : Without (fun name => name ∈ markNames) gap) (f : StatementForm) (rest : List Char) :
    ∃ front last located tail, gap = front ++ last ∧
      (∀ depth, partsFrom depth rest = partsAt depth located tail) ∧
      ∀ depth, partsFrom depth (gap ++ f.source ++ rest) =
        (front ++ (partsAt depth (⟨last, f.statement⟩ :: located) tail).1,
          (partsAt depth (⟨last, f.statement⟩ :: located) tail).2) := by
  obtain ⟨located, last, proper, idle, rfl⟩ := settled
  obtain ⟨tail, whole, none_⟩ := exists_tail rest
  have plain : ∀ l ∈ located, l.name ∉ markNames := by
    intro l member
    apply without
    rw [names, statements_layout_idle proper idle]
    exact List.mem_map_of_mem member
  have proper' : AllProper (located ++ ⟨last, f.statement⟩ :: statements rest) :=
    proper.append (AllProper.cons ⟨idle, f, rfl⟩ (statements_proper rest))
  have source : layout located ++ last ++ f.source ++ rest =
      layout (located ++ ⟨last, f.statement⟩ :: statements rest) ++ tail := by
    rw [layout_append, layout_cons, show f.statement.source = f.source from rfl]
    conv_lhs => rw [whole]
    simp
  refine ⟨layout located, last, statements rest, tail, rfl, fun depth => ?_, fun depth => ?_⟩
  · conv_lhs => rw [whole]
    exact partsFrom_layout (statements_proper rest) none_ depth
  · rw [source, partsFrom_layout proper' none_, partsAt_layout_append plain]

theorem partsFrom_marker {gap : List Char} (settled : Settled gap)
    (without : Without (fun name => name ∈ markNames) gap) {f : StatementForm}
    (marker : IsMarker ⟨[], f.statement⟩) (rest : List Char) :
    partsFrom 0 (gap ++ f.source ++ rest) =
      (gap, ⟨f.statement, (partsFrom 0 rest).1⟩ :: (partsFrom 0 rest).2) := by
  obtain ⟨front, last, located, tail, rfl, behind, whole⟩ :=
    exists_partsFrom_eq settled without f rest
  have marker : IsMarker ⟨last, f.statement⟩ := marker
  rw [whole, behind, partsAt_marker marker]

theorem partsFrom_inner {gap : List Char} (settled : Settled gap)
    (without : Without (fun name => name ∈ markNames) gap) {f : StatementForm} {depth : Nat}
    (inner : ¬ (depth = 0 ∧ IsMarker ⟨[], f.statement⟩)) (rest : List Char) :
    partsFrom depth (gap ++ f.source ++ rest) =
      (gap ++ f.source ++ (partsFrom (depthBehind depth ⟨[], f.statement⟩) rest).1,
        (partsFrom (depthBehind depth ⟨[], f.statement⟩) rest).2) := by
  obtain ⟨front, last, located, tail, rfl, behind, whole⟩ :=
    exists_partsFrom_eq settled without f rest
  have inner : ¬ (depth = 0 ∧ IsMarker ⟨last, f.statement⟩) := inner
  have same : depthBehind depth ⟨last, f.statement⟩ = depthBehind depth ⟨[], f.statement⟩ := rfl
  rw [whole, behind, partsAt_inner inner, same]
  simp [show f.statement.source = f.source from rfl]

theorem Alike.parts (alike : Alike (fun _ name => name ∈ markNames) depth pairs text text') :
    ∃ pairs' later', pairs = pairs' ++ later' ∧
      AlikeInside pairs' (partsFrom depth text).1 (partsFrom depth text').1 ∧
      PartsAlike later' (partsFrom depth text).2 (partsFrom depth text').2 := by
  induction alike with
  | @tail depth pairs _ _ without without' swaps =>
    rw [partsFrom_of_without without, partsFrom_of_without without']
    exact ⟨pairs, [], (List.append_nil _).symm, fun _ => .tail without without' swaps, .nil⟩
  | @mark depth pairs _ _ _ _ _ f counted settled settled' without without' swaps _ ih =>
    obtain ⟨early, late, rfl, alikeFront, alikeParts⟩ := ih
    by_cases top : depth = 0 ∧ IsMarker ⟨[], f.statement⟩
    · obtain ⟨rfl, marker⟩ := top
      rw [marker.depthBehind] at alikeFront alikeParts
      rw [partsFrom_marker settled without marker, partsFrom_marker settled' without' marker]
      exact ⟨pairs, early ++ late, rfl, fun _ => .tail without without' swaps,
        .cons f.statement alikeFront alikeParts⟩
    · rw [partsFrom_inner settled without top, partsFrom_inner settled' without' top]
      exact ⟨pairs ++ early, late, (List.append_assoc _ _ _).symm,
        fun _ => .mark f counted settled settled' without without' swaps (alikeFront _), alikeParts⟩

end Alike

end TopicWiki.Template.Switch
