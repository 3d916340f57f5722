import TopicWiki.Proofs.Template.Expansion
import TopicWiki.Proofs.Template.Switch.Branches
import TopicWiki.Proofs.Template.Switch.Words

namespace TopicWiki.Template.Switch

open Text

theorem Part.settled_kept {part : Part} (settled : Settled part.body) (rest : List Part) :
    Settled (part.kept rest) := by
  unfold Part.kept
  have front : Settled (if part.marker.trimAfter then trimStart part.body else part.body) := by
    split
    · exact settled.trimStart
    · exact settled
  simp only
  split
  · exact front.trimEnd
  · exact front

def Writes (text : List Char) (name : String) : Prop :=
  ∃ f : StatementForm, text = f.source ∧ f.statement.name = name

theorem Writes.ended {text : List Char} {name : String} (writes : Writes text name) :
    Ended text := by
  obtain ⟨f, rfl, -⟩ := writes
  exact Ended.of_form f

theorem writes_words (head : Char) (tail inside : List Char) (start : isNameStart head = true)
    (named : tail.all isNameChar = true) (apart : ∀ c ∈ inside.head?, isNameChar c = false)
    (unclosed : Unclosed inside) :
    Writes (statementText (head :: tail ++ inside)) (String.ofList (head :: tail)) := by
  have named' := List.all_eq_true.mp named
  obtain ⟨f, same, name⟩ := exists_form_of_words head tail inside start named' apart unclosed
  exact ⟨f, same, congrArg String.ofList name⟩

theorem writes_with {variable_ subject : List Char} (free : '%' ∉ variable_)
    (unclosed : Unclosed subject) :
    Writes (statementText ("with ".toList ++ variable_ ++ " = (".toList ++ subject ++ [')']))
      "with" := by
  have inside : Unclosed (' ' :: variable_ ++ " = (".toList ++ subject ++ [')']) := by
    rw [List.append_assoc]
    apply Unclosed.of_free_append _ (unclosed_parenthesized unclosed)
    simp [free]
  have writes := writes_words 'w' ['i', 't', 'h'] _ (by decide) (by decide)
    (by simp; decide) inside
  simpa using writes

theorem writes_test (first : Bool) {variable_ : List Char} {values : List (List Char)}
    (free : '%' ∉ variable_) (unclosed : ∀ value ∈ values, Unclosed value) :
    Writes (statementText ((if first then "if ".toList else "elif ".toList) ++
      condition variable_ values)) (if first then "if" else "elif") := by
  have inside : Unclosed (' ' :: condition variable_ values) :=
    Unclosed.of_free_append (by decide : '%' ∉ [' ']) (unclosed_condition free unclosed)
  cases first with
  | true =>
    exact writes_words 'i' ['f'] _ (by decide) (by decide) (by simp; decide) inside
  | false =>
    exact writes_words 'e' ['l', 'i', 'f'] _ (by decide) (by decide)
      (by simp; decide) inside

theorem writes_else : Writes (statementText "else".toList) "else" :=
  writes_words 'e' ['l', 's', 'e'] [] (by decide) (by decide)
    (by simp) (Unclosed.of_free (by decide))

theorem writes_endif : Writes (statementText "endif".toList) "endif" :=
  writes_words 'e' ['n', 'd', 'i', 'f'] [] (by decide) (by decide)
    (by simp) (Unclosed.of_free (by decide))

theorem writes_endwith : Writes (statementText "endwith".toList) "endwith" :=
  writes_words 'e' ['n', 'd', 'w', 'i', 't', 'h'] [] (by decide)
    (by decide) (by simp) (Unclosed.of_free (by decide))

theorem chain_begins (variable_ : List Char) (branches : List Branch) :
    ∃ words rest, chain variable_ false branches = statementText words ++ rest := by
  cases branches with
  | nil => exact ⟨_, [], (List.append_nil _).symm⟩
  | cons branch branches =>
    obtain ⟨values?, body⟩ := branch
    cases values? with
    | none => exact ⟨_, _, List.append_assoc _ _ _⟩
    | some values => exact ⟨_, _, List.append_assoc _ _ _⟩

theorem opens_statement (words rest : List Char) : Opens (statementText words ++ rest) :=
  Or.inr ⟨_, rfl⟩

def chainNames : List String :=
  ["if", "elif", "else", "endif", "endwith"]

theorem Writes.opens {text : List Char} {name : String} (writes : Writes text name)
    (rest : List Char) : Opens (text ++ rest) := by
  obtain ⟨f, rfl, -⟩ := writes
  obtain ⟨back, begins⟩ := f.source_begins
  exact Or.inr ⟨back ++ rest, by rw [begins]; rfl⟩

/-- Two chains of conditions over parts with the same markers, with the statement that ends the
    switch: what holds of nothing, and is kept where a statement, or the text of a branch and a
    statement behind it, is put in front, holds of the chains. -/
theorem chain_induction {P : List (Part × Part) → List Char → List Char → Prop}
    {variable_ : List Char} (free : '%' ∉ variable_) (pairs : List (Part × Part)) (first : Bool)
    (last : DefaultLast (pairs.map Prod.fst))
    (same : ∀ pair ∈ pairs, pair.2.marker.name = pair.1.marker.name ∧
      pair.2.marker.arguments = pair.1.marker.arguments)
    (unclosed : ∀ pair ∈ pairs, Unclosed pair.1.marker.arguments) (nothing : P [] [] [])
    (written : ∀ {rest front name text text'}, Writes front name → name ∈ chainNames →
      P rest text text' → P rest (front ++ text) (front ++ text'))
    (kept : ∀ {pair rest front name text text'}, pair :: rest <:+ pairs → Writes front name →
      name ∈ chainNames → P rest text text' →
      P (pair :: rest) (pair.1.kept (rest.map Prod.fst) ++ (front ++ text))
        (pair.2.kept (rest.map Prod.snd) ++ (front ++ text'))) :
    P pairs
      (chain variable_ first (branchesOf (pairs.map Prod.fst)) ++ statementText "endwith".toList)
      (chain variable_ first (branchesOf (pairs.map Prod.snd)) ++
        statementText "endwith".toList) := by
  have ending : P [] (statementText "endwith".toList) (statementText "endwith".toList) := by
    have whole := written writes_endwith (by decide) nothing
    rwa [List.append_nil] at whole
  -- A chain that goes on begins with a statement, and the text in front of it needs that.
  suffices whole : ∀ first, P pairs
      (chain variable_ first (branchesOf (pairs.map Prod.fst)) ++ statementText "endwith".toList)
      (chain variable_ first (branchesOf (pairs.map Prod.snd)) ++
        statementText "endwith".toList) ∧
      (first = false → ∃ front name text text', Writes front name ∧ name ∈ chainNames ∧
        P pairs text text' ∧
        chain variable_ first (branchesOf (pairs.map Prod.fst)) ++
          statementText "endwith".toList = front ++ text ∧
        chain variable_ first (branchesOf (pairs.map Prod.snd)) ++
          statementText "endwith".toList = front ++ text') from (whole first).1
  induction pairs with
  | nil =>
    intro first
    cases first with
    | true => exact ⟨ending, fun later => absurd later (by decide)⟩
    | false =>
      exact ⟨written writes_endif (by decide) ending,
        fun _ => ⟨_, _, _, _, writes_endif, by decide, ending, rfl, rfl⟩⟩
  | cons pair rest ih =>
    intro first
    obtain ⟨part, part'⟩ := pair
    obtain ⟨lastHere, lastRest⟩ := defaultLast_cons.mp last
    obtain ⟨⟨name, arguments⟩, sameRest⟩ := List.forall_mem_cons.mp same
    obtain ⟨unclosedHere, unclosedRest⟩ := List.forall_mem_cons.mp unclosed
    simp only at name arguments
    have body {front : List Char} {name : String} {text text' : List Char}
        (writes : Writes front name) (known : name ∈ chainNames) (behind : P rest text text') :=
      kept List.suffix_rfl writes known behind
    have later := ih lastRest sameRest unclosedRest
      fun inside => kept (inside.trans (List.suffix_cons _ rest))
    rw [List.map_cons, List.map_cons, branchesOf, branchesOf, Part.branch, Part.branch, name,
      arguments]
    by_cases default : part.marker.name = "default"
    · obtain rfl := List.map_eq_nil_iff.mp (lastHere default)
      rw [if_pos default]
      cases first with
      | true =>
        refine ⟨?_, fun later => absurd later (by decide)⟩
        simpa [chain, branchesOf] using body writes_endwith (by decide) nothing
      | false =>
        have behind := body writes_endif (by decide) ending
        refine ⟨?_, fun _ => ⟨_, _, _, _, writes_else, by decide, behind, ?_, ?_⟩⟩
        · simpa [chain, branchesOf] using written writes_else (by decide) behind
        · simp [chain, branchesOf]
        · simp [chain, branchesOf]
    · rw [if_neg default]
      have values : ∀ value ∈ caseValues part.marker.arguments, Unclosed value := fun _ member =>
        unclosedHere.of_infix (caseValues_inside member)
      have known : (if first then "if" else "elif") ∈ chainNames := by
        cases first <;> decide
      obtain ⟨-, begins⟩ := later false
      obtain ⟨front, next, text, text', writes, knownNext, behind, split, split'⟩ := begins rfl
      have whole := body writes knownNext behind
      rw [← split, ← split'] at whole
      refine ⟨?_, fun _ =>
        ⟨_, _, _, _, writes_test first free values, known, whole, ?_, ?_⟩⟩
      · simpa only [chain, List.append_assoc] using
          written (writes_test first free values) known whole
      · simp only [chain, List.append_assoc]
      · simp only [chain, List.append_assoc]

theorem chain_ended {variable_ : List Char} {parts : List Part} (free : '%' ∉ variable_)
    (first : Bool) (last : DefaultLast parts) (settled : ∀ part ∈ parts, Settled part.body)
    (unclosed : ∀ part ∈ parts, Unclosed part.marker.arguments) :
    Ended (chain variable_ first (branchesOf parts) ++ statementText "endwith".toList) := by
  have whole := chain_induction (P := fun _ text _ => Ended text) free
    (parts.map fun part => (part, part)) first
  simp only [List.map_map, Function.comp_def, List.map_id', List.forall_mem_map, and_self,
    implies_true] at whole
  refine whole last trivial unclosed Ended.nil ?_ ?_
  · exact fun writes _ ended => writes.ended.append ended
  · rintro pair rest front name text - inside writes - ended
    obtain ⟨part, member, rfl⟩ := List.mem_map.mp (inside.subset List.mem_cons_self)
    have nonempty : front ++ text ≠ [] := by
      obtain ⟨f, rfl, -⟩ := writes
      obtain ⟨back, begins⟩ := f.source_begins
      rw [begins]
      exact List.cons_ne_nil _ _
    exact (Part.settled_kept (settled part member) _).append_ended (writes.ended.append ended)
      (writes.opens text) nonempty

theorem replacement_begins (serial : Nat) (subject : List Char) (branches : List Branch) :
    ∃ rest, replacement serial subject branches = '\x7b' :: rest :=
  ⟨_, rfl⟩

theorem run_tag (template : String) (arguments body : List Char) (serial : Nat) :
    (tag.run ⟨tag.name, arguments, body, template⟩).run.run serial =
      match expandBlock serial arguments body with
      | .ok text => (.ok text, serial + 1)
      | .error fault => (.error ⟨"switch", template, fault.message⟩, serial) := by
  rw [Tag.run_run, show tag.expand serial ⟨tag.name, arguments, body, template⟩ =
    (expandBlock serial arguments body).mapError fun fault =>
      ⟨"switch", template, fault.message⟩ from rfl]
  cases expandBlock serial arguments body <;> rfl

theorem neat : tag.Neat := by
  intro serial block expansion settled unclosed expanded
  change (expandBlock serial block.arguments block.body).mapError _ = .ok expansion at expanded
  cases written : expandBlock serial block.arguments block.body with
  | error fault =>
    rw [written] at expanded
    cases expanded
  | ok text =>
    rw [written] at expanded
    cases expanded
    obtain ⟨-, -, -, last, rfl⟩ := expandBlock_eq_ok_iff.mp written
    refine ⟨?_, replacement_begins _ _ _⟩
    have arguments : ∀ part ∈ (parts block.body).2, Unclosed part.marker.arguments := by
      intro part member
      obtain ⟨-, f, same⟩ := parts_markers member
      rw [same]
      exact f.unclosed_arguments
    have subject : Unclosed (trim block.arguments) := Unclosed.of_infix unclosed (trim_inside _)
    have opening := (writes_with (free_subjectVariable serial) subject).ended
    have branches := chain_ended (free_subjectVariable serial) true last (parts_settled settled)
      arguments
    unfold replacement
    rw [List.append_assoc]
    exact opening.append branches

/-- No switch is left in a source whose switches have been replaced. -/
theorem no_switch_left {template : String} {source result : List Char} {serial serial' : Nat}
    (expanded : (expandTag tag template source).run.run serial = (.ok result, serial')) :
    ∀ located ∈ statements result, located.statement.name ≠ "switch" := by
  have nothing : tag.name ∉ names [] := by
    rw [names_nil_of_first? rfl]
    exact List.not_mem_nil
  obtain ⟨absent, -⟩ := (expandBlocks_eq_ok_iff.mp expanded).seams neat Ended.nil nothing
  intro located member same
  exact absent (List.mem_map.mpr ⟨located, member, same⟩)

theorem no_switch_left_behind_nested : ∃ result,
    (expandTag tag "t" ("\x7b% ".toList ++ statementText "switch x".toList ++
      statementText "case 1".toList ++ statementText "switch y".toList ++
      statementText "endswitch".toList ++ "\x7b% endswitch -%\x7d z".toList)).run.run 0 =
        (.ok result, 2) ∧ ∀ located ∈ statements result, located.statement.name ≠ "switch" := by
  let innerSwitch := statementText "switch y".toList ++ statementText "endswitch".toList
  let opening := statementText "with __switch_0 = (x)".toList ++
    statementText "if __switch_0 == (1)".toList
  let closing := statementText "endif".toList ++ statementText "endwith".toList
  let ending := "\x7b% endswitch -%\x7d z".toList
  let source := "\x7b% ".toList ++ statementText "switch x".toList ++
    (statementText "case 1".toList ++ innerSwitch ++ ending)
  have innerOpened : opening? tag (opening ++ innerSwitch ++ closing) =
      some (opening, ⟨"switch", ['y'], false, false, statementText "switch y".toList⟩,
        statementText "endswitch".toList ++ closing) := by
    decide +kernel
  have innerClosed : closing? tag 0 (statementText "endswitch".toList ++ closing) =
      some ([], ⟨"endswitch", [], false, false, statementText "endswitch".toList⟩, closing) := by
    decide +kernel
  have innerReplaced : (tag.expand 1 ⟨"switch", ['y'], [], "t"⟩).toOption =
      some (statementText "with __switch_1 = (y)".toList ++ statementText "endwith".toList) := by
    decide +kernel
  have outerOpened : opening? tag source =
      some ("\x7b% ".toList, ⟨"switch", ['x'], false, false, statementText "switch x".toList⟩,
        statementText "case 1".toList ++ innerSwitch ++ ending) := by
    decide +kernel
  have outerClosed : closing? tag 0 (statementText "case 1".toList ++ innerSwitch ++ ending) =
      some (statementText "case 1".toList ++ innerSwitch,
        ⟨"endswitch", [], false, true, "\x7b% endswitch -%\x7d".toList⟩, " z".toList) := by
    decide +kernel
  have outerReplaced : (tag.expand 0 ⟨"switch", ['x'],
      statementText "case 1".toList ++ innerSwitch, "t"⟩).toOption =
        some (opening ++ innerSwitch ++ closing) := by
    decide +kernel
  have expands : ∃ result, Expands tag "t" maxNesting [] source 0 result 2 :=
    ⟨_, Expands.block outerOpened outerClosed (Except.eq_ok_of_toOption outerReplaced)
      (Expands.block innerOpened innerClosed (Except.eq_ok_of_toOption innerReplaced)
        (Expands.done (by decide +kernel)) (Expands.done (by decide +kernel)))
      (Expands.done (by decide +kernel))⟩
  obtain ⟨result, expands⟩ := expands
  have run := expandBlocks_eq_ok_iff.mpr expands
  exact ⟨result, run, no_switch_left run⟩

end TopicWiki.Template.Switch
