import TopicWiki.Template.Tag
import TopicWiki.Proofs.Template.Seam

namespace TopicWiki.Template

open Text

theorem names_of_first? {text rest : List Char} {l : Located}
    (found : Statement.first? text = some (l, rest)) : names text = l.name :: names rest := by
  rw [names, statements_of_first? found]
  rfl

theorem names_nil_of_first? {text : List Char} (none_ : Statement.first? text = none) :
    names text = [] := by
  rw [names, statements_nil_of_first? none_]
  rfl

theorem names_cons_of_isBlank {c : Char} (blank : isBlank c = true) (text : List Char) :
    names (c :: text) = names text := by
  have unread : Statement.read? (c :: text) = none := by
    rw [Statement.read?, isPrefixOf?_eq_none_iff.mpr]
    intro start
    exact ne_brace_of_isBlank blank (List.cons_prefix_cons.mp start).1.symm
  cases first : Statement.first? text with
  | none =>
    have found : Statement.first? (c :: text) = none := by
      rw [Statement.first?, unread, first]
      rfl
    rw [names_nil_of_first? found, names_nil_of_first? first]
  | some parts =>
    have found : Statement.first? (c :: text) =
        some ({ parts.1 with gap := c :: parts.1.gap }, parts.2) := by
      rw [Statement.first?, unread, first]
      rfl
    rw [names_of_first? found, names_of_first? first]
    rfl

theorem names_trimStart (text : List Char) : names (trimStart text) = names text := by
  induction text with
  | nil => rfl
  | cons c text ih =>
    by_cases blank : isBlank c = true
    · rw [names_cons_of_isBlank blank, ← ih, trimStart, List.dropWhile_cons_of_pos blank]
      rfl
    · rw [Bool.not_eq_true] at blank
      rw [trimStart_of_head blank]

theorem names_trimEnd (text : List Char) : names (trimEnd text) = names text := by
  obtain ⟨tail, whole, last⟩ := exists_tail text
  have proper := statements_proper text
  generalize statements text = located at whole proper
  have same {tail : List Char} (last : Statement.first? tail = none) :
      names (layout located ++ tail) = located.map Located.name := by
    rw [names, statements_layout_append proper, statements_nil_of_first? last, List.append_nil]
  rw [whole, same last, trimEnd_append]
  split
  · rw [Ended.trimEnd ⟨located, proper, rfl⟩, names, statements_layout proper]
  · obtain ⟨blanks, split⟩ := trimEnd_isPrefix tail
    rw [same (Statement.first?_eq_none_of_append (split ▸ last))]

theorem opening?_eq_none_iff {tag : Tag} {text : List Char} :
    opening? tag text = none ↔ tag.name ∉ names text := by
  induction hn : text.length using Nat.strongRecOn generalizing text with
  | ind n ih =>
    rw [opening?]
    split
    · rename_i found
      simp [names_nil_of_first? found]
    · rename_i l rest found
      have shorter := Statement.first?_rest_lt found
      rw [names_of_first? found, List.mem_cons, not_or, ← ih _ (by omega) rfl]
      split
      · rename_i same
        simp [Located.name, same]
      · rename_i other
        rw [Option.map_eq_none_iff]
        exact ⟨fun none_ => ⟨fun same => other same.symm, none_⟩, fun both => both.2⟩

theorem opening?_eq_some {tag : Tag} {text before inside : List Char} {open_ : Statement}
    (found : opening? tag text = some (before, open_, inside)) :
    text = before ++ open_.source ++ inside ∧ Settled before ∧ tag.name ∉ names before ∧
      ∃ f : StatementForm, open_ = f.statement := by
  induction hn : text.length using Nat.strongRecOn generalizing text before with
  | ind n ih =>
    rw [opening?] at found
    split at found
    · cases found
    · rename_i l rest first
      have shorter := Statement.first?_rest_lt first
      obtain ⟨proper, whole⟩ := Statement.first?_eq_some_iff.mp first
      split at found
      · simp only [Option.some.injEq, Prod.mk.injEq] at found
        obtain ⟨rfl, rfl, rfl⟩ := found
        refine ⟨whole, proper.1.settled, ?_, proper.2⟩
        rw [names_nil_of_first? (Statement.first?_of_idle proper.1)]
        simp
      · rename_i other
        obtain ⟨⟨front, first', inside'⟩, later, same⟩ := Option.map_eq_some_iff.mp found
        simp only [Prod.mk.injEq] at same
        obtain ⟨rfl, rfl, rfl⟩ := same
        obtain ⟨split, settled, absent, form⟩ := ih _ (by omega) later rfl
        refine ⟨by rw [whole, split]; simp, proper.ended.append_settled settled, ?_, form⟩
        rw [proper.ended.names_append, proper.names, List.mem_append, List.mem_singleton, not_or]
        exact ⟨fun same => other same.symm, absent⟩

theorem closing?_eq_some {tag : Tag} {level : Nat} {text body rest : List Char} {close : Statement}
    (found : closing? tag level text = some (body, close, rest)) :
    text = body ++ close.source ++ rest ∧ Settled body ∧
      ∃ f : StatementForm, close = f.statement := by
  induction hn : text.length using Nat.strongRecOn generalizing level text body with
  | ind n ih =>
    rw [closing?] at found
    split at found
    · cases found
    · rename_i l behind first
      have shorter := Statement.first?_rest_lt first
      obtain ⟨proper, whole⟩ := Statement.first?_eq_some_iff.mp first
      have deeper {level : Nat} (mapped : (closing? tag level behind).map (fun inner =>
          (l.gap ++ l.statement.source ++ inner.1, inner.2)) = some (body, close, rest)) :
          text = body ++ close.source ++ rest ∧ Settled body ∧
            ∃ f : StatementForm, close = f.statement := by
        obtain ⟨⟨inner, close', rest'⟩, later, same⟩ := Option.map_eq_some_iff.mp mapped
        simp only [Prod.mk.injEq] at same
        obtain ⟨rfl, rfl, rfl⟩ := same
        obtain ⟨split, settled, form⟩ := ih _ (by omega) later rfl
        exact ⟨by rw [whole, split]; simp, proper.ended.append_settled settled, form⟩
      simp only at found
      split at found
      · exact deeper found
      · split at found
        · split at found
          · simp only [Option.some.injEq, Prod.mk.injEq] at found
            obtain ⟨rfl, rfl, rfl⟩ := found
            exact ⟨whole, proper.1.settled, proper.2⟩
          · exact deeper found
        · exact deeper found

def foundBehind (front : List Char) (found : Option (List Char × Statement × List Char)) :
    Option (List Char × Statement × List Char) :=
  found.map fun (before, parts) => (front ++ before, parts)

section Seeking

variable {tag : Tag} {text rest gap : List Char} {l : Located} {located : List Located}

theorem foundBehind_nil (found : Option (List Char × Statement × List Char)) :
    foundBehind [] found = found := by
  cases found <;> rfl

theorem foundBehind_foundBehind (front back : List Char)
    (found : Option (List Char × Statement × List Char)) :
    foundBehind front (foundBehind back found) = foundBehind (front ++ back) found := by
  cases found with
  | none => rfl
  | some parts => simp [foundBehind]

theorem opening?_of_first? (found : Statement.first? text = some (l, rest)) :
    opening? tag text = if l.name = tag.name then some (l.gap, l.statement, rest)
      else foundBehind (l.gap ++ l.statement.source) (opening? tag rest) := by
  rw [opening?]
  split
  · simp_all
  · rename_i found'
    rw [found] at found'
    cases found'
    rfl

theorem closing?_of_first? (found : Statement.first? text = some (l, rest)) (level : Nat) :
    closing? tag level text =
      if l.name = tag.name then
        foundBehind (l.gap ++ l.statement.source) (closing? tag (level + 1) rest)
      else if l.name = tag.endName then
        match level with
        | 0 => some (l.gap, l.statement, rest)
        | level + 1 => foundBehind (l.gap ++ l.statement.source) (closing? tag level rest)
      else foundBehind (l.gap ++ l.statement.source) (closing? tag level rest) := by
  rw [closing?]
  split
  · simp_all
  · rename_i found'
    rw [found] at found'
    cases found'
    rfl

theorem opening?_layout_append (proper : AllProper located)
    (absent : tag.name ∉ located.map Located.name) (text : List Char) :
    opening? tag (layout located ++ text) = foundBehind (layout located) (opening? tag text) := by
  induction located with
  | nil => exact (foundBehind_nil _).symm
  | cons l located ih =>
    rw [List.map_cons, List.mem_cons, not_or] at absent
    have found := Statement.first?_eq_some_iff.mpr
      ⟨proper l List.mem_cons_self, List.append_assoc _ (layout located) text⟩
    rw [layout_cons, opening?_of_first? found, if_neg (Ne.symm absent.1),
      ih proper.tail absent.2, foundBehind_foundBehind]

theorem closing?_layout_append (proper : AllProper located)
    (absent : tag.name ∉ located.map Located.name)
    (absent' : tag.endName ∉ located.map Located.name) (level : Nat) (text : List Char) :
    closing? tag level (layout located ++ text) =
      foundBehind (layout located) (closing? tag level text) := by
  induction located with
  | nil => exact (foundBehind_nil _).symm
  | cons l located ih =>
    rw [List.map_cons, List.mem_cons, not_or] at absent absent'
    have found := Statement.first?_eq_some_iff.mpr
      ⟨proper l List.mem_cons_self, List.append_assoc _ (layout located) text⟩
    rw [layout_cons, closing?_of_first? found, if_neg (Ne.symm absent.1),
      if_neg (Ne.symm absent'.1), ih proper.tail absent.2 absent'.2, foundBehind_foundBehind]

theorem opening?_of_settled (settled : Settled gap) (absent : tag.name ∉ names gap)
    {f : StatementForm} (same : f.statement.name = tag.name) (rest : List Char) :
    opening? tag (gap ++ f.source ++ rest) = some (gap, f.statement, rest) := by
  obtain ⟨located, tail, proper, idle, rfl⟩ := settled
  rw [names, statements_layout_idle proper idle] at absent
  have found : Statement.first? (tail ++ f.source ++ rest) = some (⟨tail, f.statement⟩, rest) :=
    Statement.first?_eq_some_iff.mpr ⟨⟨idle, f, rfl⟩, rfl⟩
  rw [List.append_assoc, List.append_assoc, opening?_layout_append proper absent,
    ← List.append_assoc, opening?_of_first? found]
  simp [Located.name, same, foundBehind]

/-- The search for the end of a block goes on behind a statement as the name of that says. -/
theorem closing?_of_settled (settled : Settled gap) (absent : tag.name ∉ names gap)
    (absent' : tag.endName ∉ names gap) (f : StatementForm) (level : Nat) (rest : List Char) :
    closing? tag level (gap ++ f.source ++ rest) =
      if f.statement.name = tag.name then
        foundBehind (gap ++ f.source) (closing? tag (level + 1) rest)
      else if f.statement.name = tag.endName then
        match level with
        | 0 => some (gap, f.statement, rest)
        | level + 1 => foundBehind (gap ++ f.source) (closing? tag level rest)
      else foundBehind (gap ++ f.source) (closing? tag level rest) := by
  obtain ⟨located, tail, proper, idle, rfl⟩ := settled
  rw [names, statements_layout_idle proper idle] at absent absent'
  have found : Statement.first? (tail ++ f.source ++ rest) = some (⟨tail, f.statement⟩, rest) :=
    Statement.first?_eq_some_iff.mpr ⟨⟨idle, f, rfl⟩, rfl⟩
  have source : f.statement.source = f.source := rfl
  have front : layout located ++ tail ++ f.source ++ rest =
      layout located ++ (tail ++ f.source ++ rest) := by simp
  rw [front, closing?_layout_append proper absent absent', closing?_of_first? found,
    List.append_assoc (layout located) tail, ← foundBehind_foundBehind]
  by_cases opens : f.statement.name = tag.name
  · simp [Located.name, opens, source, foundBehind_foundBehind]
  · by_cases closes : f.statement.name = tag.endName
    · rw [closes] at opens
      cases level with
      | zero => simp [Located.name, opens, closes, foundBehind]
      | succ level => simp [Located.name, opens, closes, source, foundBehind_foundBehind]
    · simp [Located.name, opens, closes, source, foundBehind_foundBehind]

theorem closing?_eq_none (absent : tag.endName ∉ names text) (level : Nat) :
    closing? tag level text = none := by
  induction hn : text.length using Nat.strongRecOn generalizing level text with
  | ind n ih =>
    cases found : Statement.first? text with
    | none =>
      rw [closing?]
      split
      · rfl
      · simp_all
    | some parts =>
      obtain ⟨l, rest⟩ := parts
      have shorter := Statement.first?_rest_lt found
      rw [names_of_first? found, List.mem_cons, not_or] at absent
      have deeper (level : Nat) := ih _ (by omega) absent.2 level rfl
      rw [closing?_of_first? found]
      simp [deeper, Ne.symm absent.1, foundBehind]

end Seeking

end TopicWiki.Template
