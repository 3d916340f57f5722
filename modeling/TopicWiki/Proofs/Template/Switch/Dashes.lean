import TopicWiki.Proofs.Template.Switch.Retrimming

namespace TopicWiki.Template

open Text

theorem Ended.trimEnd_append {front : List Char} (ended : Ended front) (text : List Char) :
    Text.trimEnd (front ++ text) = front ++ Text.trimEnd text := by
  rw [Text.trimEnd_append]
  split
  · rename_i blank
    rw [ended.trimEnd, Switch.trimEnd_of_blank blank, List.append_nil]
  · rfl

namespace Switch

section Branches

variable {pairs rest : List (Part × Part)}

theorem PartsRetrim.same (retrim : PartsRetrim pairs) :
    ∀ pair ∈ pairs, pair.2.marker.name = pair.1.marker.name ∧
      pair.2.marker.arguments = pair.1.marker.arguments := by
  induction pairs with
  | nil => simp
  | cons pair rest ih =>
    obtain ⟨here, -, behind⟩ := retrim
    exact List.forall_mem_cons.mpr ⟨here, ih behind⟩

theorem PartsRetrim.of_suffix (retrim : PartsRetrim pairs) (inside : rest <:+ pairs) :
    PartsRetrim rest := by
  obtain ⟨front, rfl⟩ := inside
  induction front with
  | nil => exact retrim
  | cons pair front ih => exact ih retrim.2.2

theorem PartsRetrim.check (retrim : PartsRetrim pairs) (seenDefault : Bool) :
    Switch.check seenDefault ((pairs.map Prod.fst).map Part.marker) =
      Switch.check seenDefault ((pairs.map Prod.snd).map Part.marker) := by
  induction pairs generalizing seenDefault with
  | nil => rfl
  | cons pair rest ih =>
    obtain ⟨⟨name, arguments⟩, -, behind⟩ := retrim
    simp only [List.map_cons, Switch.check, name, arguments, ih behind]

theorem uncounted_of_written {name : String} (known : name ∈ "with" :: chainNames) :
    ¬ Counts 0 name := by
  rintro (rfl | ⟨inside, -⟩)
  · exact absurd known (by decide)
  · exact inside rfl

theorem Retrims.written {last : Nat} {front text text' : List Char} {name : String}
    (writes : Writes front name) (known : name ∈ "with" :: chainNames)
    (retrims : Retrims Counts last false false 0 false false text text') :
    Retrims Counts last false false 0 false false (front ++ text) (front ++ text') := by
  obtain ⟨f, rfl, rfl⟩ := writes
  change Retrims _ _ _ _ _ _ _ ([] ++ f.source ++ text) ([] ++ f.source ++ text')
  exact retrims.uncounted (uncounted_of_written known) Ended.nil.settled Ended.nil.settled
    (.of_idle Idle.nil) (.of_idle Idle.nil) rfl

theorem PartsRetrim.chain {variable_ : List Char} (free : '%' ∉ variable_)
    (retrim : PartsRetrim pairs) (last : DefaultLast (pairs.map Prod.fst))
    (settled : ∀ pair ∈ pairs, Settled pair.1.body) (settled' : ∀ pair ∈ pairs, Settled pair.2.body)
    (unclosed : ∀ pair ∈ pairs, Unclosed pair.1.marker.arguments) :
    Retrims Counts 0 false false 0 false false
      (chain variable_ true (branchesOf (pairs.map Prod.fst)) ++ statementText "endwith".toList)
      (chain variable_ true (branchesOf (pairs.map Prod.snd)) ++
        statementText "endwith".toList) := by
  have nothing : Without (Counts 0) [] := .of_idle Idle.nil
  refine chain_induction
    (P := fun _ text text' => Retrims Counts 0 false false 0 false false text text')
    free pairs true last retrim.same unclosed (.tail nothing nothing rfl) ?_ ?_
  · exact fun writes known behind => behind.written writes (List.mem_cons_of_mem _ known)
  · rintro pair rest front name text text' inside ⟨f, rfl, rfl⟩ known behind
    obtain ⟨-, bodies, -⟩ := retrim.of_suffix inside
    have member := inside.subset List.mem_cons_self
    have other : f.statement.name ≠ "switch" := fun same =>
      uncounted_of_written (List.mem_cons_of_mem _ known) (Or.inl same)
    exact bodies.kept.append (Part.settled_kept (settled pair member) _)
      (Part.settled_kept (settled' pair member) _) other behind

theorem replacement_retrims {subject : List Char} (retrim : PartsRetrim pairs)
    (last : DefaultLast (pairs.map Prod.fst)) (settled : ∀ pair ∈ pairs, Settled pair.1.body)
    (settled' : ∀ pair ∈ pairs, Settled pair.2.body) (unclosedSubject : Unclosed subject)
    (unclosed : ∀ pair ∈ pairs, Unclosed pair.1.marker.arguments) (serial : Nat) :
    Retrims Counts 0 false false 0 false false
      (replacement serial subject (branchesOf (pairs.map Prod.fst)))
      (replacement serial subject (branchesOf (pairs.map Prod.snd))) := by
  have free := free_subjectVariable serial
  have whole := (retrim.chain free last settled settled' unclosed).written
    (writes_with free unclosedSubject) (by decide)
  simpa only [replacement, List.append_assoc] using whole

/-- What two switches that differ in blanks at dashes only are replaced by, or what is wrong with
    both. -/
theorem expandBlock_retrims {arguments body body' : List Char} {after after' : Bool}
    (retrims : Retrims (fun _ name => name ∈ markNames) 0 false false 0 after after' body body')
    (settled : Settled body) (settled' : Settled body') (unclosed : Unclosed arguments)
    (serial : Nat) :
    (∃ fault, expandBlock serial arguments body = .error fault ∧
        expandBlock serial arguments body' = .error fault) ∨
      ∃ text text', expandBlock serial arguments body = .ok text ∧
        expandBlock serial arguments body' = .ok text' ∧
        Retrims Counts 0 false false 0 false false text text' := by
  obtain ⟨pairs, firsts, seconds, retrim, front⟩ := retrims.parts
  have firsts : (parts body).2 = pairs.map Prod.fst := firsts
  have seconds : (parts body').2 = pairs.map Prod.snd := seconds
  have blank : allBlank (parts body).1 = allBlank (parts body').1 := front.allBlank_eq
  have settledBodies := parts_settled settled
  have settledBodies' := parts_settled settled'
  have unclosedArguments : ∀ part ∈ (parts body).2, Unclosed part.marker.arguments := by
    intro part member
    obtain ⟨-, f, same⟩ := parts_markers member
    rw [same]
    exact f.unclosed_arguments
  rw [firsts] at settledBodies unclosedArguments
  rw [seconds] at settledBodies'
  rw [List.forall_mem_map] at settledBodies settledBodies' unclosedArguments
  rw [expandBlock_eq, expandBlock_eq, ← blank, firsts, seconds]
  by_cases empty : trim arguments = []
  · rw [if_pos empty, if_pos empty]
    exact Or.inl ⟨_, rfl, rfl⟩
  · rw [if_neg empty, if_neg empty]
    by_cases preamble : allBlank (parts body).1 = true
    · rw [if_pos preamble, if_pos preamble, branches_eq_check, branches_eq_check, ← retrim.check]
      cases checked : check false ((pairs.map Prod.fst).map Part.marker) with
      | error fault => exact Or.inl ⟨fault, rfl, rfl⟩
      | ok _ =>
        have read : branches false (pairs.map Prod.fst) =
            .ok (branchesOf (pairs.map Prod.fst)) := by
          rw [branches_eq_check, checked]
          rfl
        obtain ⟨-, last, -⟩ := branches_eq_ok_iff.mp read
        exact Or.inr ⟨_, _, rfl, rfl, replacement_retrims retrim last settledBodies settledBodies'
          (unclosed.of_infix (trim_inside _)) unclosedArguments serial⟩
    · rw [if_neg preamble, if_neg preamble]
      exact Or.inl ⟨_, rfl, rfl⟩

end Branches

section Run

variable {last levels serial : Nat} {template : String} {written source source' : List Char}

theorem between_ended_append {front : List Char} (ended : Ended front) (before : Bool)
    (text : List Char) :
    between false before (front ++ text) = front ++ between false before text := by
  cases before with
  | false => rfl
  | true => exact ended.trimEnd_append text

theorem ended_behind {front arguments body expansion inner : List Char} {middle : Nat}
    (settled : Settled front) (settledBody : Settled body) (unclosed : Unclosed arguments)
    (replaced : expandBlock serial arguments body = .ok expansion)
    (deeper : (expandBlocks tag template levels [] expansion).run.run (serial + 1) =
      (.ok inner, middle)) :
    Ended (front ++ inner) := by
  have expanded : tag.expand serial ⟨tag.name, arguments, body, template⟩ = .ok expansion := by
    change (expandBlock serial arguments body).mapError _ = .ok expansion
    rw [replaced]
    rfl
  obtain ⟨ended, begins⟩ :=
    neat serial ⟨tag.name, arguments, body, template⟩ expansion settledBody unclosed expanded
  have nothing : tag.name ∉ names [] := by
    rw [names_nil_of_first? rfl]
    exact List.not_mem_nil
  obtain ⟨-, endedInner, opensInner⟩ :=
    (expandBlocks_eq_ok_iff.mp deeper).seams neat Ended.nil nothing
  obtain ⟨rest, innerBegins⟩ := opensInner begins
  refine settled.append_ended (endedInner ended) (Or.inr ⟨rest, innerBegins⟩) ?_
  rw [innerBegins]
  exact List.cons_ne_nil _ _

theorem expandBlocks_retrims (template : String) (levels : Nat) (ended : Ended written)
    (retrims : Retrims Counts last false false 0 false false source source') (serial : Nat) :
    (expandBlocks tag template levels written source).run.run serial =
      (expandBlocks tag template levels written source').run.run serial := by
  induction levels, written, source using expandBlocks.induct tag
    generalizing serial source' last with
  | case1 levels written source none_ =>
    rcases retrims.opening with ⟨-, -, rfl⟩ | ⟨_, _, _, _, _, _, opened, -⟩
    · rfl
    · rw [none_] at opened
      cases opened
  | case2 written source before open_ inside opened =>
    rcases retrims.opening with ⟨none_, -⟩ | ⟨f, f', _, _, _, _, -, opened', -⟩
    · rw [opened] at none_
      cases none_
    · rw [expandBlocks_too_deep opened, expandBlocks_too_deep opened']
  | case3 written source before open_ inside opened levels unclosed =>
    rcases retrims.opening with ⟨none_, -⟩ |
      ⟨f, f', _, _, _, _, found, opened', -, -, insides⟩
    · rw [opened] at none_
      cases none_
    · rw [opened] at found
      cases found
      rcases insides.ending with ⟨-, unclosed'⟩ | ⟨_, _, _, _, _, _, closed, -⟩
      · rw [expandBlocks_unclosed opened unclosed, expandBlocks_unclosed opened' unclosed']
      · rw [unclosed] at closed
        cases closed
  | case4 written source before open_ inside opened levels body close rest closed =>
    rename_i deeper further
    rcases retrims.opening with ⟨none_, -⟩ |
      ⟨f, f', _, before', _, _, found, opened', arguments, befores, insides⟩
    · rw [opened] at none_
      cases none_
    · rw [opened] at found
      cases found
      rcases insides.ending with ⟨unclosed, -⟩ |
        ⟨g, g', _, _, _, _, found, closed', bodies, rests⟩
      · rw [closed] at unclosed
        cases unclosed
      · rw [closed] at found
        cases found
        have settled := (opening?_eq_some opened).2.1
        have settledBody := (closing?_eq_some closed).2.1
        have settledBody' := (closing?_eq_some closed').2.1
        have kept : keptBefore f.statement (written ++ before) =
            keptBefore f'.statement (written ++ before') := by
          change between false f.dash _ = between false f'.dash _
          rw [between_ended_append ended, between_ended_append ended, befores]
        rw [expandBlocks_block opened closed, expandBlocks_block opened' closed',
          Expanding.run_bind, Expanding.run_bind, run_tag, run_tag, arguments, ← kept]
        rcases expandBlock_retrims bodies settledBody settledBody' f.unclosed_arguments serial with
          ⟨fault, fails, fails'⟩ | ⟨text, text', gives, gives', retrimsText⟩
        · rw [fails, fails']
        · rw [gives, gives']
          simp only [Expanding.run_bind]
          rw [← deeper text Ended.nil retrimsText (serial + 1)]
          cases run : (expandBlocks tag template levels [] text).run.run (serial + 1) with
          | mk outcome middle =>
            cases outcome with
            | error e => rfl
            | ok inner =>
              have front := (ended.append_settled settled).keptBefore f.statement
              exact further inner
                (ended_behind front settledBody f.unclosed_arguments gives run) rests.kept middle

theorem depthBehind_of_uncounted {l : Located} {depth : Nat} (uncounted : ¬ Counts depth l.name) :
    depthBehind depth l = depth := by
  obtain ⟨opens, inner⟩ := not_or.mp uncounted
  rw [depthBehind, if_neg opens]
  split
  · rename_i closes
    have outside : depth = 0 := by
      by_contra inside
      exact inner ⟨inside, closes ▸ by decide⟩
    rw [outside]
  · rfl

theorem ne_zero_of_counted_end {depth : Nat} {name : String} (counted : Counts depth name)
    (ends : name = "endswitch") : depth ≠ 0 := by
  rcases counted with opens | ⟨inside, -⟩
  · rw [opens] at ends
    exact absurd ends (by decide)
  · exact inside

theorem Retrims.layout_append {located : List Located} {depth : Nat} {stop stop' : Bool}
    {text text' : List Char} (proper : AllProper located)
    (retrims : ∀ after, Retrims Counts last stop stop' (located.foldl depthBehind depth) after after
      text text') (after : Bool) :
    Retrims Counts last stop stop' depth after after (layout located ++ text)
      (layout located ++ text') := by
  induction located generalizing depth after with
  | nil => exact retrims after
  | cons l located ih =>
    obtain ⟨gap, statement⟩ := l
    obtain ⟨idle, f, rfl⟩ := proper _ List.mem_cons_self
    have behind := ih proper.tail retrims
    rw [layout_cons, List.append_assoc, List.append_assoc (_ ++ _)]
    by_cases counted : Counts depth f.statement.name
    · exact .mark f f rfl rfl counted (ne_zero_of_counted_end counted) idle.settled idle.settled
        (.of_idle idle) (.of_idle idle) rfl (behind _)
    · rw [depthBehind_of_uncounted counted] at behind
      exact (behind false).uncounted counted idle.settled idle.settled (.of_idle idle)
        (.of_idle idle) rfl

theorem Retrims.refl (depth : Nat) (stop after : Bool) (text : List Char) :
    Retrims Counts ((statements text).foldl depthBehind depth) stop stop depth after after text
      text := by
  obtain ⟨whole, last⟩ := layout_tailAfter text
  have plain (depth : Nat) : Without (Counts depth) (tailAfter (statements text) text) := by
    intro name member
    rw [names_nil_of_first? last] at member
    cases member
  have same : Retrims Counts ((statements text).foldl depthBehind depth) stop stop depth after after
      _ _ :=
    .layout_append (statements_proper text) (fun _ => .tail (plain _) (plain _) rfl) after
  rwa [whole] at same

theorem Retrims.undashed {f : StatementForm} {gap : List Char} {depth : Nat} (idle : Idle gap)
    (counted : Counts depth f.statement.name) (dashed : f.dash = true)
    (other : f.statement.name ≠ "endswitch") (post : List Char) :
    ∃ last, ∀ after, Retrims Counts last false false depth after after (gap ++ (f.source ++ post))
      (Text.trimEnd gap ++ (f.undashed.source ++ post)) := by
  have trimmed : Idle (Text.trimEnd gap) := idle.of_prefix (trimEnd_isPrefix gap)
  have heeded : heeds f.statement = true := (heeds_of_ne other).trans dashed
  have unheeded : heeds f.undashed.statement = false := rfl
  simp only [← List.append_assoc]
  refine ⟨_, fun after => .mark f f.undashed rfl rfl counted (fun ends => absurd ends other)
    idle.settled trimmed.settled (.of_idle idle) (.of_idle trimmed) ?_
    (Retrims.refl _ false _ post)⟩
  rw [heeded, unheeded]
  exact (between_stop after true gap).symm

theorem Retrims.endUndashed {f : StatementForm} {gap : List Char} {depth : Nat} (idle : Idle gap)
    (counted : Counts depth f.statement.name) (dashed : f.statement.trimAfter = true)
    (single : f.endUndashed.statement.trimAfter = false) (post : List Char) :
    ∃ last, ∀ after, Retrims Counts last false false depth after after (gap ++ (f.source ++ post))
      (gap ++ (f.endUndashed.source ++ Text.trimStart post)) := by
  let next := depthBehind depth ⟨[], f.statement⟩
  have behind : Retrims Counts ((statements post).foldl depthBehind next) false false next
      f.statement.trimAfter f.endUndashed.statement.trimAfter post (Text.trimStart post) := by
    rw [dashed, single]
    exact (Retrims.refl next false true post).symm.started.symm
  simp only [← List.append_assoc]
  exact ⟨_, fun after => .mark f f.endUndashed rfl (StatementForm.endUndashed_arguments single)
    counted (ne_zero_of_counted_end counted) idle.settled idle.settled (.of_idle idle)
    (.of_idle idle) rfl behind⟩

theorem expandTag_deletedBefore (template : String) {pre post : List Char} {f : StatementForm}
    (settled : Settled pre) (counted : Counts (openSwitches (statements pre)) f.statement.name)
    (dashed : f.dash = true) (other : f.statement.name ≠ "endswitch") (serial : Nat) :
    (expandTag tag template (f.deletedBefore pre post)).run.run serial =
      (expandTag tag template (pre ++ f.source ++ post)).run.run serial := by
  obtain ⟨located, gap, proper, idle, rfl⟩ := settled
  rw [statements_layout_idle proper idle] at counted
  obtain ⟨last, retrims⟩ := Retrims.undashed idle counted dashed other post
  have front : Ended (layout located) := ⟨located, proper, rfl⟩
  have same := expandBlocks_retrims template maxNesting Ended.nil
    (Retrims.layout_append proper retrims false) serial
  rw [StatementForm.deletedBefore, front.trimEnd_append, expandTag, expandTag]
  simp only [List.append_assoc]
  exact same.symm

theorem expandTag_deletedBehind (template : String) {pre post : List Char} {f : StatementForm}
    (settled : Settled pre) (counted : Counts (openSwitches (statements pre)) f.statement.name)
    (dashed : f.statement.trimAfter = true) (single : f.endUndashed.statement.trimAfter = false)
    (serial : Nat) :
    (expandTag tag template (f.deletedBehind pre post)).run.run serial =
      (expandTag tag template (pre ++ f.source ++ post)).run.run serial := by
  obtain ⟨located, gap, proper, idle, rfl⟩ := settled
  rw [statements_layout_idle proper idle] at counted
  obtain ⟨last, retrims⟩ := Retrims.endUndashed idle counted dashed single post
  have same := expandBlocks_retrims template maxNesting Ended.nil
    (Retrims.layout_append proper retrims false) serial
  rw [StatementForm.deletedBehind, expandTag, expandTag]
  simp only [List.append_assoc]
  exact same.symm

end Run

/-- A dash on the outer side of a block, of whatever tag, and a dash at a statement of a switch that
    does not stand in front of its end, do as much as the deletion of the dash and of the blanks
    there. -/
theorem dashes_as_deleted (template : String) :
    (∀ (levels : Nat) {custom : Tag} {pre post tail : List Char} {front back : List Block}
        {block : Block} {f : StatementForm},
      cutBlocks custom (pre ++ f.source ++ post) = (front ++ block :: back, tail) →
      (block.opening = f.statement → pre = front.flatMap Block.source ++ block.before →
        f.dash = true → (front = [] ∨ allBlank block.before = false) →
        expandBlocks custom template levels [] (f.deletedBefore pre post) =
          expandBlocks custom template levels [] (pre ++ f.source ++ post)) ∧
      (block.closing = f.statement →
        pre = front.flatMap Block.source ++ block.before ++ block.opening.source ++ block.body →
        f.statement.trimAfter = true →
        expandBlocks custom template levels [] (f.deletedBehind pre post) =
          expandBlocks custom template levels [] (pre ++ f.source ++ post))) ∧
    ∀ (serial : Nat) (post : List Char) {pre : List Char} {f : StatementForm}, Settled pre →
      Counts (openSwitches (statements pre)) f.statement.name →
      (f.dash = true → f.statement.name ≠ "endswitch" →
        (expandTag tag template (f.deletedBefore pre post)).run.run serial =
          (expandTag tag template (pre ++ f.source ++ post)).run.run serial) ∧
      (f.statement.trimAfter = true → f.endUndashed.statement.trimAfter = false →
        (expandTag tag template (f.deletedBehind pre post)).run.run serial =
          (expandTag tag template (pre ++ f.source ++ post)).run.run serial) :=
  ⟨fun _ _ _ _ _ _ _ _ _ cut => ⟨fun opens place dashed apart =>
      expandBlocks_deletedBefore cut place opens dashed apart,
    fun closes place dashed => expandBlocks_deletedBehind cut place closes dashed⟩,
    fun serial _ _ _ settled counted => ⟨fun dashed other =>
      expandTag_deletedBefore template settled counted dashed other serial,
    fun dashed single => expandTag_deletedBehind template settled counted dashed single serial⟩⟩

def formOf (dash : Bool) (head : Char) (tail inside : List Char)
    (valid : (isNameStart head && tail.all isNameChar && inside.head?.all (!isNameChar ·) &&
      !inside.contains '%') = true) : StatementForm where
  dash
  blanks := [' ']
  head
  tail
  inside
  blank := by
    intro c member
    rw [List.mem_singleton.mp member]
    decide
  start := by
    simp only [Bool.and_eq_true] at valid
    exact valid.1.1.1
  named := by
    simp only [Bool.and_eq_true, List.all_eq_true] at valid
    exact valid.1.1.2
  apart := by
    simp only [Bool.and_eq_true, Option.all_eq_true, Bool.not_eq_true'] at valid
    exact valid.1.2
  unclosed := by
    simp only [Bool.and_eq_true, Bool.not_eq_true', List.contains_eq_mem,
      decide_eq_false_iff_not] at valid
    exact Unclosed.of_free valid.2

theorem dashes_as_deleted_around_case :
    let custom : Tag := ⟨"w", "done", fun _ block => .ok (['<'] ++ block.body ++ ['>'])⟩
    let run (source : String) := (expandTag custom "t" source.toList).run.run 0
    let runSwitch (marker : String) := (expandTag tag "t"
      ("\x7b% switch x %\x7d" ++ marker ++ "\x7b% endswitch %\x7d").toList).run.run 0
    (run "a\x7b% w %\x7dx\x7b% done -%\x7d b" = run "a \x7b%- w %\x7dx\x7b% done -%\x7d b" ∧
        run "a \x7b%- w %\x7dx\x7b% done %\x7db" = run "a \x7b%- w %\x7dx\x7b% done -%\x7d b") ∧
      runSwitch "\x7b% case 1 -%\x7d a" = runSwitch " \x7b%- case 1 -%\x7d a" ∧
      runSwitch " \x7b%- case 1 %\x7da" = runSwitch " \x7b%- case 1 -%\x7d a" := by
  intro custom run runSwitch
  let opening := formOf true 'w' [] [' '] (by decide)
  let closing := formOf false 'd' "one".toList " -".toList (by decide)
  let marker := formOf true 'c' "ase".toList " 1 -".toList (by decide)
  let block : Block := ⟨"a ".toList, opening.statement, ['x'], closing.statement, [' ']⟩
  have cut : cutBlocks custom "a \x7b%- w %\x7dx\x7b% done -%\x7d b".toList =
      ([] ++ block :: [], ['b']) := by
    decide +kernel
  have whole : "a \x7b%- w %\x7dx\x7b% done -%\x7d b".toList =
      "a ".toList ++ opening.source ++ "x\x7b% done -%\x7d b".toList := by
    decide +kernel
  have whole' : "a \x7b%- w %\x7dx\x7b% done -%\x7d b".toList =
      "a \x7b%- w %\x7dx".toList ++ closing.source ++ " b".toList := by
    decide +kernel
  have switch : ("\x7b% switch x %\x7d" ++ " \x7b%- case 1 -%\x7d a" ++
      "\x7b% endswitch %\x7d").toList =
      "\x7b% switch x %\x7d ".toList ++ marker.source ++ " a\x7b% endswitch %\x7d".toList := by
    decide +kernel
  obtain ⟨blocks, marks⟩ := dashes_as_deleted "t"
  have settled : Settled "\x7b% switch x %\x7d ".toList := by
    have opened : opening? ⟨"case", "", fun _ _ => .ok []⟩
        ("\x7b% switch x %\x7d ".toList ++ marker.source) =
          some ("\x7b% switch x %\x7d ".toList, marker.statement, []) := by
      decide +kernel
    exact (opening?_eq_some opened).2.1
  have counted : Counts (openSwitches (statements "\x7b% switch x %\x7d ".toList))
      marker.statement.name := by
    decide +kernel
  obtain ⟨first, second⟩ := marks 0 " a\x7b% endswitch %\x7d".toList settled counted
  refine ⟨⟨?_, ?_⟩, ?_, ?_⟩
  · rw [whole] at cut
    have same := (blocks maxNesting cut).1 rfl rfl rfl (Or.inl rfl)
    have deleted : opening.deletedBefore "a ".toList "x\x7b% done -%\x7d b".toList =
        "a\x7b% w %\x7dx\x7b% done -%\x7d b".toList := by
      decide +kernel
    rw [deleted, ← whole] at same
    exact congrArg (fun x => x.run.run 0) same
  · rw [whole'] at cut
    have same := (blocks maxNesting cut).2 rfl (by decide +kernel) rfl
    have deleted : closing.deletedBehind "a \x7b%- w %\x7dx".toList " b".toList =
        "a \x7b%- w %\x7dx\x7b% done %\x7db".toList := by
      decide +kernel
    rw [deleted, ← whole'] at same
    exact congrArg (fun x => x.run.run 0) same
  · have same := first rfl (by decide)
    have deleted : marker.deletedBefore "\x7b% switch x %\x7d ".toList
        " a\x7b% endswitch %\x7d".toList =
          ("\x7b% switch x %\x7d" ++ "\x7b% case 1 -%\x7d a" ++
            "\x7b% endswitch %\x7d").toList := by
      decide +kernel
    rw [deleted, ← switch] at same
    exact same
  · have same := second rfl (by decide)
    have deleted : marker.deletedBehind "\x7b% switch x %\x7d ".toList
        " a\x7b% endswitch %\x7d".toList =
          ("\x7b% switch x %\x7d" ++ " \x7b%- case 1 %\x7da" ++
            "\x7b% endswitch %\x7d").toList := by
      decide +kernel
    rw [deleted, ← switch] at same
    exact same

theorem expandTag_of_one_block (template : String) (serial : Nat)
    {source before inside body rest text : List Char} {open_ close : Statement}
    (opened : opening? tag source = some (before, open_, inside))
    (closed : closing? tag 0 inside = some (body, close, rest))
    (replaced : expandBlock serial open_.arguments body = .ok text)
    (plain : opening? tag text = none) (last : opening? tag (leftBehind close rest) = none) :
    (expandTag tag template source).run.run serial =
      (.ok (keptBefore open_ before ++ text ++ leftBehind close rest), serial + 1) := by
  have expanded : tag.expand serial ⟨tag.name, open_.arguments, body, template⟩ = .ok text := by
    change (expandBlock serial open_.arguments body).mapError _ = .ok text
    rw [replaced]
    rfl
  exact expandBlocks_eq_ok_iff.mpr (.block opened closed expanded (.done plain) (.done last))

/-- A dash in front of the end of a switch leaves the blanks there. -/
theorem dash_before_end_not_as_deleted :
    let pre := "\x7b% switch x %\x7d\x7b% case 1 %\x7da ".toList
    let closing := formOf true 'e' "ndswitch".toList [' '] (by decide)
    let opening := statementText "with __switch_0 = (x)".toList ++
      statementText "if __switch_0 == (1)".toList
    let ending := statementText "endif".toList ++ statementText "endwith".toList
    (expandTag tag "t" (pre ++ closing.source ++ [])).run.run 0 =
        (.ok (opening ++ "a ".toList ++ ending), 1) ∧
      (expandTag tag "t" (closing.deletedBefore pre [])).run.run 0 =
        (.ok (opening ++ "a".toList ++ ending), 1) := by
  intro pre closing opening ending
  let switch : Statement := ⟨"switch", ['x'], false, false, statementText "switch x".toList⟩
  have opened : opening? tag (pre ++ closing.source ++ []) =
      some ([], switch, "\x7b% case 1 %\x7da \x7b%- endswitch %\x7d".toList) := by
    decide +kernel
  have closed : closing? tag 0 "\x7b% case 1 %\x7da \x7b%- endswitch %\x7d".toList =
      some ("\x7b% case 1 %\x7da ".toList, closing.statement, []) := by
    decide +kernel
  have opened' : opening? tag (closing.deletedBefore pre []) =
      some ([], switch, "\x7b% case 1 %\x7da\x7b% endswitch %\x7d".toList) := by
    decide +kernel
  have closed' : closing? tag 0 "\x7b% case 1 %\x7da\x7b% endswitch %\x7d".toList =
      some ("\x7b% case 1 %\x7da".toList, closing.undashed.statement, []) := by
    decide +kernel
  have expanded : expandBlock 0 ['x'] "\x7b% case 1 %\x7da ".toList =
      .ok (opening ++ "a ".toList ++ ending) :=
    Except.eq_ok_of_toOption (by decide +kernel)
  have expanded' : expandBlock 0 ['x'] "\x7b% case 1 %\x7da".toList =
      .ok (opening ++ "a".toList ++ ending) :=
    Except.eq_ok_of_toOption (by decide +kernel)
  have run := expandTag_of_one_block "t" 0 opened closed expanded (by decide +kernel)
    (by decide +kernel)
  have run' := expandTag_of_one_block "t" 0 opened' closed' expanded' (by decide +kernel)
    (by decide +kernel)
  have nothing (statement : Statement) : keptBefore statement [] = [] ∧
      leftBehind statement [] = [] := by
    simp [keptBefore, leftBehind, Text.trimEnd, Text.trimStart]
  simpa only [nothing, List.nil_append, List.append_nil] using And.intro run run'

end Switch

end TopicWiki.Template
