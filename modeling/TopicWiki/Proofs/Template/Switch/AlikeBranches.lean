import TopicWiki.Proofs.Template.Switch.Marks

namespace TopicWiki.Template.Switch

open Text

def check (seenDefault : Bool) : List Statement → Except Fault Unit
  | [] => .ok ()
  | marker :: rest =>
    if seenDefault then .error .afterDefault
    else if marker.name = "default" then check true rest
    else if caseValues marker.arguments = [] then .error .noValue
    else check false rest

theorem branches_eq_check (seenDefault : Bool) (parts : List Part) :
    branches seenDefault parts =
      (check seenDefault (parts.map Part.marker)).map fun _ => branchesOf parts := by
  induction parts generalizing seenDefault with
  | nil => rfl
  | cons part rest ih =>
    rw [branches_cons, List.map_cons, check, ih, ih]
    split
    · rfl
    · split
      · cases check true (rest.map Part.marker) <;> rfl
      · split
        · rfl
        · cases check false (rest.map Part.marker) <;> rfl

section

variable {pairs later : List (List Char × List Char)} {text text' : List Char}
  {parts parts' : List Part}

theorem PartsAlike.markers (alike : PartsAlike pairs parts parts') :
    parts.map Part.marker = parts'.map Part.marker := by
  induction alike with
  | nil => rfl
  | cons marker _ _ ih => rw [List.map_cons, List.map_cons, ih]

theorem AlikeInside.trimStart (alike : AlikeInside pairs text text') :
    AlikeInside pairs (trimStart text) (trimStart text') :=
  fun depth => (alike depth).trimStart

theorem AlikeInside.trimEnd (alike : AlikeInside pairs text text') :
    AlikeInside pairs (trimEnd text) (trimEnd text') :=
  fun depth => (alike depth).trimEnd

theorem AlikeInside.kept (marker : Statement) (alike : AlikeInside pairs text text')
    (behind : PartsAlike later parts parts') :
    AlikeInside pairs (Part.kept ⟨marker, text⟩ parts) (Part.kept ⟨marker, text'⟩ parts') := by
  have front : AlikeInside pairs (if marker.trimAfter then Text.trimStart text else text)
      (if marker.trimAfter then Text.trimStart text' else text') := by
    split
    · exact alike.trimStart
    · exact alike
  have next : (parts.head?.any fun next => next.marker.trimBefore) =
      parts'.head?.any fun next => next.marker.trimBefore := by
    cases behind <;> rfl
  unfold Part.kept
  rw [next]
  simp only
  split
  · exact front.trimEnd
  · exact front

theorem AlikeInside.written {front : List Char} {name : String} (writes : Writes front name)
    (other : name ∉ markNames) (alike : AlikeInside pairs text text') :
    AlikeInside pairs (front ++ text) (front ++ text') := by
  have ended := writes.ended
  obtain ⟨f, rfl, rfl⟩ := writes
  have without : Without (fun name => name ∈ markNames) f.source := Without.form other
  exact fun depth => (alike depth).ended_append ended ended without without (.same _)

theorem AlikeInside.append {front front' : List Char} (alike : AlikeInside pairs front front')
    (settled : Settled front) (settled' : Settled front') (behind : AlikeInside later text text')
    (opens : Opens text) (opens' : Opens text') :
    AlikeInside (pairs ++ later) (front ++ text) (front' ++ text') :=
  fun depth => (alike depth).append settled settled' behind opens opens'

theorem AlikeInside.nil : AlikeInside [] [] [] :=
  fun _ => .tail (.of_idle Idle.nil) (.of_idle Idle.nil) (.same [])

theorem chain_opens (variable_ : List Char) (branches : List Branch) (more : List Char) :
    Opens (chain variable_ false branches ++ more) := by
  obtain ⟨words, rest, begins⟩ := chain_begins variable_ branches
  rw [begins, List.append_assoc]
  exact opens_statement words _

theorem PartsAlike.chain {variable_ : List Char} (free : '%' ∉ variable_)
    (alike : PartsAlike pairs parts parts') (first : Bool) (last : DefaultLast parts)
    (settled : ∀ part ∈ parts, Settled part.body) (settled' : ∀ part ∈ parts', Settled part.body)
    (unclosed : ∀ part ∈ parts, Unclosed part.marker.arguments) :
    AlikeInside pairs (chain variable_ first (branchesOf parts) ++ statementText "endwith".toList)
      (chain variable_ first (branchesOf parts') ++ statementText "endwith".toList) := by
  have ending :
      AlikeInside [] (statementText "endwith".toList) (statementText "endwith".toList) := by
    have written := AlikeInside.nil.written writes_endwith (by decide)
    rwa [List.append_nil] at written
  induction alike generalizing first with
  | nil =>
    cases first with
    | true => exact ending
    | false => exact ending.written writes_endif (by decide)
  | cons marker alikeBody behind ih =>
    rename_i pairs later body body' parts parts'
    obtain ⟨lastHere, lastRest⟩ := defaultLast_cons.mp last
    obtain ⟨settledHere, settledRest⟩ := List.forall_mem_cons.mp settled
    obtain ⟨settledHere', settledRest'⟩ := List.forall_mem_cons.mp settled'
    obtain ⟨unclosedHere, unclosedRest⟩ := List.forall_mem_cons.mp unclosed
    have kept := alikeBody.kept marker behind
    have keptSettled := Part.settled_kept settledHere parts
    have keptSettled' := Part.settled_kept settledHere' parts'
    by_cases default : marker.name = "default"
    · obtain rfl := lastHere default
      cases behind
      simp only [branchesOf, Part.branch, default, if_true]
      cases first with
      | true =>
        have opens : Opens (statementText "endwith".toList) := Or.inr ⟨_, rfl⟩
        have whole := kept.append keptSettled keptSettled' ending opens opens
        simpa [Switch.chain] using whole
      | false =>
        have opens := opens_statement "endif".toList (statementText "endwith".toList)
        have whole := (kept.append keptSettled keptSettled'
          (ending.written writes_endif (by decide)) opens opens).written writes_else (by decide)
        simpa [Switch.chain] using whole
    · simp only [branchesOf, Part.branch, default, if_false, Switch.chain]
      have values : ∀ value ∈ caseValues marker.arguments, Unclosed value := fun _ member =>
        unclosedHere.of_infix (caseValues_inside member)
      have other : (if first then "if" else "elif") ∉ markNames := by
        cases first <;> decide
      have whole := (kept.append keptSettled keptSettled'
        (ih false lastRest settledRest settledRest' unclosedRest) (chain_opens _ _ _)
        (chain_opens _ _ _)).written (writes_test first free values) other
      simpa only [List.append_assoc] using whole

theorem AlikeInside.cut (alike : AlikeInside pairs text text') :
    ∃ early late, pairs = early ++ late ∧
      AlikeInside early (Switch.parts text).1 (Switch.parts text').1 ∧
      PartsAlike late (Switch.parts text).2 (Switch.parts text').2 :=
  (alike 0).parts

theorem replacement_alike {subject : List Char} (alike : PartsAlike pairs parts parts')
    (last : DefaultLast parts) (settled : ∀ part ∈ parts, Settled part.body)
    (settled' : ∀ part ∈ parts', Settled part.body)
    (unclosedSubject : Unclosed subject)
    (unclosed : ∀ part ∈ parts, Unclosed part.marker.arguments) (serial : Nat) :
    AlikeInside pairs (replacement serial subject (branchesOf parts))
      (replacement serial subject (branchesOf parts')) := by
  have free := free_subjectVariable serial
  have whole := (alike.chain free true last settled settled' unclosed).written
    (writes_with free unclosedSubject) (by decide)
  simpa only [replacement, List.append_assoc] using whole

/-- What two switches that differ in regions only are replaced by, or what is wrong with both. -/
theorem expandBlock_alike {arguments body body' : List Char} (alike : AlikeInside pairs body body')
    (settled : Settled body) (settled' : Settled body') (unclosed : Unclosed arguments)
    (serial : Nat) :
    (∃ fault, expandBlock serial arguments body = .error fault ∧
        expandBlock serial arguments body' = .error fault) ∨
      ∃ text text', expandBlock serial arguments body = .ok text ∧
        expandBlock serial arguments body' = .ok text' ∧ AlikeInside pairs text text' := by
  obtain ⟨early, late, rfl, alikeFront, alikeParts⟩ := alike.cut
  have front := (alikeFront 0).swaps
  rw [expandBlock_eq, expandBlock_eq, ← front.allBlank_eq, branches_eq_check, branches_eq_check,
    ← alikeParts.markers]
  by_cases empty : trim arguments = []
  · rw [if_pos empty, if_pos empty]
    exact Or.inl ⟨_, rfl, rfl⟩
  · rw [if_neg empty, if_neg empty]
    by_cases preamble : allBlank (Switch.parts body).1 = true
    · rw [if_pos preamble, if_pos preamble]
      obtain rfl := front.eq_nil_of_allBlank preamble
      cases checked : check false ((Switch.parts body).2.map Part.marker) with
      | error fault => exact Or.inl ⟨fault, rfl, rfl⟩
      | ok _ =>
        have read : branches false (Switch.parts body).2 =
            .ok (branchesOf (Switch.parts body).2) := by
          rw [branches_eq_check, checked]
          rfl
        obtain ⟨-, last, -⟩ := branches_eq_ok_iff.mp read
        have arguments' : ∀ part ∈ (Switch.parts body).2, Unclosed part.marker.arguments := by
          intro part member
          obtain ⟨-, f, same⟩ := parts_markers member
          rw [same]
          exact f.unclosed_arguments
        exact Or.inr ⟨_, _, rfl, rfl, replacement_alike alikeParts last (parts_settled settled)
          (parts_settled settled') (unclosed.of_infix (trim_inside _)) arguments' serial⟩
    · rw [if_neg preamble, if_neg preamble]
      exact Or.inl ⟨_, rfl, rfl⟩

end

end TopicWiki.Template.Switch
