import TopicWiki.Proofs.Template.OuterDashes
import TopicWiki.Proofs.Template.Switch.AlikeBranches

namespace TopicWiki.Template.Switch

open Text

def between (after before : Bool) (gap : List Char) : List Char :=
  let gap := if after then trimStart gap else gap
  if before then trimEnd gap else gap

/-- Whether a dash at the start of a statement removes the blanks there. One in front of an end does
    not. -/
def heeds (statement : Statement) : Bool :=
  statement.trimBefore && statement.name != "endswitch"

theorem heeds_of_ne {statement : Statement} (other : statement.name ≠ "endswitch") :
    heeds statement = statement.trimBefore := by
  simp [heeds, other]

theorem depthBehind_of_name {statement statement' : Statement}
    (same : statement'.name = statement.name) (depth : Nat) :
    depthBehind depth ⟨[], statement'⟩ = depthBehind depth ⟨[], statement⟩ := by
  rw [depthBehind, depthBehind, Located.name, Located.name, same]

/-- Two texts with the same switches and the same branches, in which what is left between them is
    the same once the blanks at the dashes are removed. The first text begins behind a statement with
    a dash at its end or without, and ends in front of one with a dash at its start or without; so
    does the second. -/
inductive Retrims (counts : Nat → String → Prop) (last : Nat) (stop stop' : Bool) :
    (depth : Nat) → (after after' : Bool) → List Char → List Char → Prop
  | tail {after after' : Bool} {text text' : List Char} (without : Without (counts last) text)
    (without' : Without (counts last) text')
    (same : between after stop text = between after' stop' text') :
    Retrims counts last stop stop' last after after' text text'
  | mark {depth : Nat} {after after' : Bool} {gap gap' rest rest' : List Char}
    (f f' : StatementForm) (name : f'.statement.name = f.statement.name)
    (arguments : f'.statement.arguments = f.statement.arguments)
    (counted : counts depth f.statement.name)
    (inside : f.statement.name = "endswitch" → depth ≠ 0) (settled : Settled gap)
    (settled' : Settled gap') (without : Without (counts depth) gap)
    (without' : Without (counts depth) gap')
    (same : between after (heeds f.statement) gap = between after' (heeds f'.statement) gap')
    (behind : Retrims counts last stop stop' (depthBehind depth ⟨[], f.statement⟩)
      f.statement.trimAfter f'.statement.trimAfter rest rest') :
    Retrims counts last stop stop' depth after after' (gap ++ f.source ++ rest)
      (gap' ++ f'.source ++ rest')

section Between

variable {after after' before before' : Bool} {gap gap' text text' : List Char}

theorem trimEnd_of_blank (blank : allBlank text = true) : trimEnd text = [] := by
  have whole := trimEnd_append [] text
  rwa [if_pos blank] at whole

theorem trimEnd_trimStart (text : List Char) :
    trimEnd (trimStart text) = trimStart (trimEnd text) := by
  obtain ⟨blanks, whole, blank⟩ := exists_blank_trimStart text
  have split := trimEnd_append blanks (trimStart text)
  rw [← whole] at split
  by_cases empty : allBlank (trimStart text) = true
  · rw [split, if_pos empty, trimEnd_of_blank empty, trimEnd_of_blank blank]
    rfl
  · rw [split, if_neg empty, trimStart_append, if_pos blank,
      (solid_trimStart text).trimEnd.trimStart]

theorem between_stop (after before : Bool) (text : List Char) :
    between after false (between false before text) = between after before text := by
  cases after with
  | false => rfl
  | true => cases before with
    | false => rfl
    | true => exact (trimEnd_trimStart text).symm

theorem between_start (after before : Bool) (text : List Char) :
    between false before (between after false text) = between after before text :=
  rfl

theorem between_form_append (after before : Bool) (front : List Char) (f : StatementForm)
    (back : List Char) :
    between after before (front ++ f.source ++ back) =
      between after false front ++ f.source ++ between false before back := by
  have braced := braced_form f
  cases after <;> cases before <;>
    simp [between, List.append_assoc, braced.trimStart_append, braced.trimEnd_append]

theorem allBlank_between (after before : Bool) (text : List Char) :
    allBlank (between after before text) = allBlank text := by
  have start (text : List Char) : allBlank (trimStart text) = allBlank text := by
    obtain ⟨blanks, whole, blank⟩ := exists_blank_trimStart text
    conv_rhs => rw [whole]
    rw [allBlank, allBlank, List.all_append, show blanks.all isBlank = true from blank,
      Bool.true_and]
  have stop (text : List Char) : allBlank (trimEnd text) = allBlank text := by
    obtain ⟨blanks, whole, blank⟩ := exists_blank_trimEnd text
    conv_rhs => rw [whole]
    rw [allBlank, allBlank, List.all_append, show blanks.all isBlank = true from blank,
      Bool.and_true]
  cases after <;> cases before <;> simp [between, start, stop]

theorem Without.between {counts : String → Prop} (without : Without counts text)
    (after before : Bool) : Without counts (between after before text) := by
  have start : Without counts (Switch.between after false text) := by
    cases after with
    | false => exact without
    | true => exact without.trimStart
  cases before with
  | false => exact start
  | true => exact start.trimEnd

theorem settled_between (settled : Settled text) (after before : Bool) :
    Settled (between after before text) := by
  have start : Settled (between after false text) := by
    cases after with
    | false => exact settled
    | true => exact settled.trimStart
  cases before with
  | false => exact start
  | true => exact start.trimEnd

theorem Without.around {counts : String → Prop} {f : StatementForm} (without : Without counts gap)
    (settled : Settled gap) (uncounted : ¬ counts f.statement.name)
    (behind : Without counts text) : Without counts (gap ++ f.source ++ text) := by
  have front : Without counts (gap ++ f.source) :=
    without.settled_append settled (Without.form uncounted) (Or.inr f.source_begins)
  exact front.ended_append (settled.append_form f) behind

end Between

section Retrims

variable {counts : Nat → String → Prop} {last depth : Nat} {stop stop' after after' : Bool}
  {text text' gap gap' : List Char}

theorem Retrims.symm (retrims : Retrims counts last stop stop' depth after after' text text') :
    Retrims counts last stop' stop depth after' after text' text := by
  induction retrims with
  | tail without without' same => exact .tail without' without same.symm
  | @mark depth _ _ _ _ _ _ f f' name arguments counted inside settled settled' without without'
      same _ ih =>
    exact .mark f' f name.symm arguments.symm (name ▸ counted) (name ▸ inside) settled' settled
      without' without same.symm (depthBehind_of_name name depth ▸ ih)

theorem Retrims.started (retrims : Retrims counts last stop stop' depth after after' text text') :
    Retrims counts last stop stop' depth false after' (between after false text) text' := by
  cases retrims with
  | tail without without' same => exact .tail (without.between after false) without' same
  | mark f f' name arguments counted inside settled settled' without without' same behind =>
    rw [between_form_append]
    exact .mark f f' name arguments counted inside (settled_between settled after false) settled'
      (without.between after false) without' same behind

theorem Retrims.stopped (retrims : Retrims counts last stop stop' depth after after' text text') :
    Retrims counts last false false depth after after' (between false stop text)
      (between false stop' text') := by
  induction retrims with
  | tail without without' same =>
    refine .tail (without.between false stop) (without'.between false stop') ?_
    rw [between_stop, between_stop, same]
  | mark f f' name arguments counted inside settled settled' without without' same _ ih =>
    rw [between_form_append, between_form_append]
    exact .mark f f' name arguments counted inside settled settled' without without' same ih

theorem Retrims.kept (retrims : Retrims counts last stop stop' depth after after' text text') :
    Retrims counts last false false depth false false (between after stop text)
      (between after' stop' text') := by
  have whole := retrims.started.symm.started.symm.stopped
  rwa [between_start, between_start] at whole

theorem Retrims.allBlank_eq
    (retrims : Retrims counts last stop stop' depth after after' text text') :
    allBlank text = allBlank text' := by
  cases retrims with
  | tail without without' same =>
    rw [← allBlank_between after stop, same, allBlank_between]
  | mark f f' name arguments counted inside settled settled' without without' same behind =>
    rw [List.append_assoc, List.append_assoc, (braced_form f).allBlank_append,
      (braced_form f').allBlank_append]

theorem Retrims.uncounted {f : StatementForm} (other : ¬ counts depth f.statement.name)
    (settled : Settled gap) (settled' : Settled gap') (without : Without (counts depth) gap)
    (without' : Without (counts depth) gap')
    (same : between after false gap = between after' false gap')
    (retrims : Retrims counts last stop stop' depth false false text text') :
    Retrims counts last stop stop' depth after after' (gap ++ f.source ++ text)
      (gap' ++ f.source ++ text') := by
  cases retrims with
  | tail withoutText withoutText' sameText =>
    refine .tail (without.around settled other withoutText)
      (without'.around settled' other withoutText') ?_
    rw [between_form_append, between_form_append, same, sameText]
  | mark g g' name arguments counted inside settledNext settledNext' withoutNext withoutNext'
      sameNext behind =>
    simp only [← List.append_assoc]
    refine .mark g g' name arguments counted inside
      ((settled.append_form f).append_settled settledNext)
      ((settled'.append_form f).append_settled settledNext')
      (without.around settled other withoutNext) (without'.around settled' other withoutNext') ?_
      behind
    rw [between_form_append, between_form_append, same, sameNext]

theorem Retrims.append {front front' : List Char} {f : StatementForm}
    (first : Retrims Counts 0 false false depth after after' front front')
    (settled : Settled front) (settled' : Settled front') (other : f.statement.name ≠ "switch")
    (retrims : Retrims Counts last stop stop' 0 false false text text') :
    Retrims Counts last stop stop' depth after after' (front ++ (f.source ++ text))
      (front' ++ (f.source ++ text')) := by
  induction first with
  | tail without without' same =>
    rw [← List.append_assoc, ← List.append_assoc]
    exact retrims.uncounted (not_or.mpr ⟨other, by simp⟩) settled settled' without without' same
  | mark g g' name arguments counted inside settledGap settledGap' without without' same _ ih =>
    have rest := ih (Settled.of_append (settledGap.append_form g) settled)
      (Settled.of_append (settledGap'.append_form g') settled')
    rw [List.append_assoc, List.append_assoc _ _ (f.source ++ text')]
    exact .mark g g' name arguments counted inside settledGap settledGap' without without' same rest

theorem Retrims.opening (retrims : Retrims Counts last false false 0 false false text text') :
    (opening? tag text = none ∧ opening? tag text' = none ∧ text = text') ∨
      ∃ (f f' : StatementForm) (before before' inside inside' : List Char),
        opening? tag text = some (before, f.statement, inside) ∧
        opening? tag text' = some (before', f'.statement, inside') ∧
        f'.statement.arguments = f.statement.arguments ∧
        between false f.dash before = between false f'.dash before' ∧
        Retrims Counts last false false 1 f.statement.trimAfter f'.statement.trimAfter inside
          inside' := by
  have absent {text : List Char} (without : Without (Counts 0) text) : tag.name ∉ names text :=
    fun member => without _ member (Or.inl rfl)
  cases retrims with
  | tail without without' same =>
    exact .inl ⟨opening?_eq_none_iff.mpr (absent without),
      opening?_eq_none_iff.mpr (absent without'), same⟩
  | mark f f' name arguments counted inside settled settled' without without' same behind =>
    have opens : f.statement.name = tag.name := counted.resolve_right fun inside => inside.1 rfl
    have opens' : f'.statement.name = tag.name := name.trans opens
    have one : depthBehind 0 ⟨[], f.statement⟩ = 1 := by
      simp [depthBehind, Located.name, opens, tag]
    have heeded {f : StatementForm} (opens : f.statement.name = tag.name) :
        heeds f.statement = f.dash :=
      heeds_of_ne (opens ▸ by decide)
    rw [one] at behind
    rw [heeded opens, heeded opens'] at same
    exact .inr ⟨f, f', _, _, _, _, opening?_of_settled settled (absent without) opens _,
      opening?_of_settled settled' (absent without') opens' _, arguments, same, behind⟩

def EndsRetrim (last level : Nat) (after after' : Bool) (text text' : List Char) : Prop :=
  (closing? tag level text = none ∧ closing? tag level text' = none) ∨
    ∃ (f f' : StatementForm) (body body' rest rest' : List Char),
      closing? tag level text = some (body, f.statement, rest) ∧
      closing? tag level text' = some (body', f'.statement, rest') ∧
      Retrims (fun _ name => name ∈ markNames) 0 false false level after after' body body' ∧
      Retrims Counts last false false 0 f.statement.trimAfter f'.statement.trimAfter rest rest'

theorem EndsRetrim.behind {level inner : Nat} {next next' : Bool}
    {front front' rest rest' : List Char}
    (ends : EndsRetrim last inner next next' rest rest')
    (retrims : ∀ {body body'},
      Retrims (fun _ name => name ∈ markNames) 0 false false inner next next' body body' →
      Retrims (fun _ name => name ∈ markNames) 0 false false level after after' (front ++ body)
        (front' ++ body'))
    (found : closing? tag level text = foundBehind front (closing? tag inner rest))
    (found' : closing? tag level text' = foundBehind front' (closing? tag inner rest')) :
    EndsRetrim last level after after' text text' := by
  rcases ends with ⟨none_, none'⟩ | ⟨f, f', body, body', _, _, closed, closed', bodies, rests⟩
  · rw [none_] at found
    rw [none'] at found'
    exact Or.inl ⟨found, found'⟩
  · rw [closed] at found
    rw [closed'] at found'
    exact Or.inr ⟨f, f', _, _, _, _, found, found', retrims bodies, rests⟩

theorem Retrims.ending {level : Nat}
    (retrims : Retrims Counts last false false (level + 1) after after' text text') :
    EndsRetrim last level after after' text text' := by
  generalize inside : level + 1 = depth at retrims
  induction retrims generalizing level with
  | tail without without' same =>
    subst inside
    have absent {text : List Char} (without : Without (Counts (level + 1)) text) :
        tag.endName ∉ names text :=
      fun member => without _ member (Or.inr ⟨Nat.succ_ne_zero _, by decide⟩)
    exact .inl ⟨closing?_eq_none (absent without) level, closing?_eq_none (absent without') level⟩
  | @mark _ after after' gap gap' rest rest' f f' name arguments counted inner settled settled'
      without without' same behind ih =>
    subst inside
    have all {text : List Char} (without : Without (Counts (level + 1)) text) :
        Without (fun name => name ∈ markNames) text :=
      fun name inside member => without name inside (Or.inr ⟨Nat.succ_ne_zero _, member⟩)
    have absent {name : String} (member : name ∈ markNames) {text : List Char}
        (without : Without (Counts (level + 1)) text) : name ∉ names text :=
      fun inside => all without name inside member
    have step : closing? tag level (gap ++ f.source ++ rest) = _ :=
      closing?_of_settled settled (absent (by decide) without) (absent (by decide) without) f level
        rest
    have step' : closing? tag level (gap' ++ f'.source ++ rest') = _ :=
      closing?_of_settled settled' (absent (by decide) without') (absent (by decide) without') f'
        level rest'
    rw [name] at step'
    -- The body goes on behind a statement that does not end it.
    have goes {inner : Nat} (next : inner = depthBehind level ⟨[], f.statement⟩)
        (within : f.statement.name = "endswitch" → level ≠ 0) {body body' : List Char}
        (bodies : Retrims (fun _ name => name ∈ markNames) 0 false false inner f.statement.trimAfter
          f'.statement.trimAfter body body') :
        Retrims (fun _ name => name ∈ markNames) 0 false false level after after'
          (gap ++ f.source ++ body) (gap' ++ f'.source ++ body') :=
      .mark f f' name arguments (mem_markNames_of_counts counted) within settled settled'
        (all without) (all without') same (next ▸ bodies)
    by_cases opens : f.statement.name = tag.name
    · rw [if_pos opens] at step step'
      have open_ (depth : Nat) : depth + 1 = depthBehind depth ⟨[], f.statement⟩ := by
        simp [depthBehind, Located.name, opens, tag]
      have within : f.statement.name ≠ "endswitch" := by
        rw [opens]
        decide
      exact (ih (open_ _)).behind (goes (open_ _) fun ends => absurd ends within) step step'
    · rw [if_neg opens] at step step'
      by_cases closes : f.statement.name = tag.endName
      · rw [if_pos closes] at step step'
        have closed (depth : Nat) : depth = depthBehind (depth + 1) ⟨[], f.statement⟩ := by
          simp [depthBehind, Located.name, closes, tag]
        cases level with
        | zero =>
          rw [← closed 0] at behind
          have unheeded {f : StatementForm} (closes : f.statement.name = tag.endName) :
              heeds f.statement = false := by
            simp [heeds, closes, tag]
          rw [unheeded closes, unheeded (name.trans closes)] at same
          exact Or.inr ⟨f, f', gap, gap', rest, rest', step, step',
            .tail (all without) (all without') same, behind⟩
        | succ level =>
          exact (ih (closed _)).behind (goes (closed _) fun _ => Nat.succ_ne_zero level) step step'
      · rw [if_neg closes] at step step'
        have same (depth : Nat) : depth = depthBehind depth ⟨[], f.statement⟩ := by
          have opens : f.statement.name ≠ "switch" := opens
          have closes : f.statement.name ≠ "endswitch" := closes
          simp [depthBehind, Located.name, opens, closes]
        exact (ih (same _)).behind (goes (same _) fun ends => absurd ends closes) step step'

def stops (parts : List Part) : Bool :=
  parts.head?.any fun next => next.marker.trimBefore

/-- Parts with the same names and values, and bodies that differ in blanks at dashes only. -/
def PartsRetrim : List (Part × Part) → Prop
  | [] => True
  | pair :: rest =>
    (pair.2.marker.name = pair.1.marker.name ∧
        pair.2.marker.arguments = pair.1.marker.arguments) ∧
      Retrims Counts 0 (stops (rest.map Prod.fst)) (stops (rest.map Prod.snd)) 0
        pair.1.marker.trimAfter pair.2.marker.trimAfter pair.1.body pair.2.body ∧
      PartsRetrim rest

theorem Retrims.parts
    (retrims : Retrims (fun _ name => name ∈ markNames) 0 false false depth after after' text
      text') :
    ∃ pairs, (partsFrom depth text).2 = pairs.map Prod.fst ∧
      (partsFrom depth text').2 = pairs.map Prod.snd ∧ PartsRetrim pairs ∧
      Retrims Counts 0 (stops (pairs.map Prod.fst)) (stops (pairs.map Prod.snd)) depth after after'
        (partsFrom depth text).1 (partsFrom depth text').1 := by
  have weaken {depth : Nat} {text : List Char}
      (without : Without (fun name => name ∈ markNames) text) : Without (Counts depth) text :=
    fun name member counted => without name member (mem_markNames_of_counts counted)
  induction retrims with
  | tail without without' same =>
    rw [partsFrom_of_without without, partsFrom_of_without without']
    exact ⟨[], rfl, rfl, trivial, .tail (weaken without) (weaken without') same⟩
  | @mark depth after after' gap gap' rest rest' f f' name arguments counted inside settled settled'
      without without' same behind ih =>
    obtain ⟨pairs, firsts, seconds, parts, front⟩ := ih
    have sameMarker : IsMarker ⟨[], f'.statement⟩ ↔ IsMarker ⟨[], f.statement⟩ := by
      simp only [IsMarker, Located.name, name]
    by_cases top : depth = 0 ∧ IsMarker ⟨[], f.statement⟩
    · obtain ⟨rfl, marker⟩ := top
      rw [marker.depthBehind] at firsts seconds front
      rw [partsFrom_marker settled without marker,
        partsFrom_marker settled' without' (sameMarker.mpr marker), firsts, seconds]
      have heeded {f : StatementForm} (marker : IsMarker ⟨[], f.statement⟩) :
          heeds f.statement = f.statement.trimBefore := by
        apply heeds_of_ne
        rcases marker with name | name <;>
          rw [show f.statement.name = _ from name] <;> decide
      rw [heeded marker, heeded (sameMarker.mpr marker)] at same
      exact ⟨(⟨f.statement, _⟩, ⟨f'.statement, _⟩) :: pairs, rfl, rfl,
        ⟨⟨name, arguments⟩, front, parts⟩, .tail (weaken without) (weaken without') same⟩
    · have inner' : ¬ (depth = 0 ∧ IsMarker ⟨[], f'.statement⟩) := by rwa [sameMarker]
      rw [partsFrom_inner settled without top, partsFrom_inner settled' without' inner',
        depthBehind_of_name name]
      have counts : Counts depth f.statement.name := by
        by_cases zero : depth = 0
        · refine Or.inl ?_
          have marker : ¬ IsMarker ⟨[], f.statement⟩ := fun marker => top ⟨zero, marker⟩
          have ends : f.statement.name ≠ "endswitch" := fun ends => inside ends zero
          have counted : f.statement.name ∈ ["switch", "endswitch", "case", "default"] := counted
          simp only [List.mem_cons, List.not_mem_nil, or_false] at counted
          exact counted.resolve_right fun rest => (rest.resolve_left ends).elim
            (fun name => marker (Or.inl name)) fun name => marker (Or.inr name)
        · exact Or.inr ⟨zero, counted⟩
      exact ⟨pairs, firsts, seconds, parts,
        .mark f f' name arguments counts inside settled settled' (weaken without) (weaken without')
          same front⟩

end Retrims

end TopicWiki.Template.Switch
