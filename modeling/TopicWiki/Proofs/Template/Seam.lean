import TopicWiki.Proofs.Template.Scan
import TopicWiki.Proofs.Text.Trim

namespace TopicWiki.Template

open Text

/-- No statement is left open at the end of the text. -/
def Settled (text : List Char) : Prop :=
  ∃ located gap, AllProper located ∧ Idle gap ∧ text = layout located ++ gap

def Ended (text : List Char) : Prop :=
  ∃ located, AllProper located ∧ text = layout located

def names (text : List Char) : List String :=
  (statements text).map Located.name

theorem Ended.nil : Ended [] :=
  ⟨[], AllProper.nil, rfl⟩

theorem Ended.of_form (f : StatementForm) : Ended f.source := by
  refine ⟨[⟨[], f.statement⟩], ?_, ?_⟩
  · intro l member
    rw [List.mem_singleton.mp member]
    exact ⟨Idle.nil, f, rfl⟩
  · simp [layout, Located.text, StatementForm.statement]

theorem Located.Proper.source_ne_nil {l : Located} (proper : l.Proper) :
    l.statement.source ≠ [] := by
  obtain ⟨-, f, same⟩ := proper
  obtain ⟨back, begins⟩ := f.source_begins
  rw [same, show f.statement.source = f.source from rfl, begins]
  exact List.cons_ne_nil _ _

theorem Located.Proper.ended {l : Located} (proper : l.Proper) :
    Ended (l.gap ++ l.statement.source) := by
  refine ⟨[l], AllProper.cons proper AllProper.nil, ?_⟩
  simp [layout, Located.text]

theorem Located.Proper.names {l : Located} (proper : l.Proper) :
    Template.names (l.gap ++ l.statement.source) = [l.name] := by
  have same : l.gap ++ l.statement.source = layout [l] := by simp [layout, Located.text]
  rw [Template.names, same, statements_layout (AllProper.cons proper AllProper.nil)]
  rfl

theorem Ended.settled {text : List Char} (ended : Ended text) : Settled text := by
  obtain ⟨located, proper, rfl⟩ := ended
  exact ⟨located, [], proper, Idle.nil, (List.append_nil _).symm⟩

theorem Idle.settled {gap : List Char} (idle : Idle gap) : Settled gap :=
  ⟨[], gap, AllProper.nil, idle, rfl⟩

theorem Ended.append {text more : List Char} (ended : Ended text) (ended' : Ended more) :
    Ended (text ++ more) := by
  obtain ⟨located, proper, rfl⟩ := ended
  obtain ⟨located', proper', rfl⟩ := ended'
  exact ⟨located ++ located', proper.append proper', (layout_append _ _).symm⟩

theorem Ended.append_settled {text more : List Char} (ended : Ended text) (settled : Settled more) :
    Settled (text ++ more) := by
  obtain ⟨located, proper, rfl⟩ := ended
  obtain ⟨located', gap, proper', idle, rfl⟩ := settled
  refine ⟨located ++ located', gap, proper.append proper', idle, ?_⟩
  rw [layout_append, List.append_assoc]

theorem Settled.append_ended {text more : List Char} (settled : Settled text) (ended : Ended more)
    (opens : Opens more) (nonempty : more ≠ []) : Ended (text ++ more) := by
  obtain ⟨located, gap, proper, idle, rfl⟩ := settled
  obtain ⟨located', proper', rfl⟩ := ended
  cases located' with
  | nil => exact absurd rfl nonempty
  | cons l located' =>
    obtain ⟨idle', f, same⟩ := proper' l (by simp)
    have opens' : Opens l.gap := by
      rcases opens with empty | ⟨rest, begins⟩
      · exact absurd empty nonempty
      · rw [layout_cons] at begins
        cases before : l.gap with
        | nil => exact Or.inl rfl
        | cons c back =>
          rw [before] at begins
          exact Or.inr ⟨back, by rw [(List.cons.inj begins).1]⟩
    refine ⟨located ++ { l with gap := gap ++ l.gap } :: located',
      proper.append (AllProper.cons ⟨idle.append idle' opens', f, same⟩ proper'.tail), ?_⟩
    simp [layout_append, layout_cons]

theorem Settled.append_form {text : List Char} (settled : Settled text) (f : StatementForm) :
    Ended (text ++ f.source) := by
  obtain ⟨back, begins⟩ := f.source_begins
  apply settled.append_ended (Ended.of_form f) (Or.inr ⟨back, begins⟩)
  rw [begins]
  exact List.cons_ne_nil _ _

theorem Ended.statements_append {text : List Char} (ended : Ended text) (more : List Char) :
    statements (text ++ more) = statements text ++ statements more := by
  obtain ⟨located, proper, rfl⟩ := ended
  rw [statements_layout_append proper, statements_layout proper]

theorem Ended.names_append {text : List Char} (ended : Ended text) (more : List Char) :
    names (text ++ more) = names text ++ names more := by
  rw [names, ended.statements_append, List.map_append]
  rfl

theorem Settled.names_append {text more : List Char} (settled : Settled text)
    (opens : Opens more) : names (text ++ more) = names text ++ names more := by
  obtain ⟨located, gap, proper, idle, rfl⟩ := settled
  have found := Statement.first?_append idle opens
  have rest : names (gap ++ more) = names more := by
    unfold names
    cases first : Statement.first? more with
    | none =>
      rw [first] at found
      rw [statements_nil_of_first? found, statements_nil_of_first? first]
    | some parts =>
      obtain ⟨l, rest⟩ := parts
      rw [first] at found
      rw [statements_of_first? found, statements_of_first? first]
      rfl
  have front : names (layout located ++ gap) = located.map Located.name := by
    rw [names, statements_layout_idle proper idle]
  rw [front, ← rest, List.append_assoc, names, statements_layout_append proper, List.map_append]
  rfl

theorem Ended.of_append {text more : List Char} (ended : Ended text)
    (ended' : Ended (text ++ more)) : Ended more := by
  obtain ⟨located, proper, whole⟩ := ended'
  have parts := ended.statements_append more
  obtain ⟨located', proper', rfl⟩ := ended
  rw [whole, statements_layout proper, statements_layout proper'] at parts
  refine ⟨statements more, statements_proper more, ?_⟩
  rw [parts, layout_append] at whole
  exact List.append_cancel_left whole

theorem layout_ends {located : List Located} (proper : AllProper located)
    (nonempty : located ≠ []) :
    ∃ front, layout located = front ++ ['\x7d'] := by
  obtain ⟨front, l, rfl⟩ := (List.eq_nil_or_concat located).resolve_left nonempty
  obtain ⟨-, f, same⟩ := proper l (by simp)
  obtain ⟨inner, ends⟩ := f.source_ends
  refine ⟨layout front ++ l.gap ++ inner, ?_⟩
  rw [List.concat_eq_append, layout_append, layout_cons, same,
    show f.statement.source = f.source from rfl, ends]
  simp [layout]

theorem Ended.trimEnd {text : List Char} (ended : Ended text) : Text.trimEnd text = text := by
  obtain ⟨located, proper, rfl⟩ := ended
  by_cases empty : located = []
  · subst empty
    rfl
  · obtain ⟨front, ends⟩ := layout_ends proper empty
    rw [ends]
    exact trimEnd_of_last (by decide)

theorem Settled.trimEnd {text : List Char} (settled : Settled text) :
    Settled (Text.trimEnd text) := by
  obtain ⟨located, gap, proper, idle, rfl⟩ := settled
  rw [trimEnd_append]
  split
  · rw [Ended.trimEnd ⟨located, proper, rfl⟩]
    exact Ended.settled ⟨located, proper, rfl⟩
  · exact ⟨located, _, proper, idle.of_prefix (trimEnd_isPrefix gap), rfl⟩

theorem trimStart_layout {located : List Located} (proper : AllProper located) (text : List Char)
    (nonempty : located ≠ []) :
    ∃ located', AllProper located' ∧
      trimStart (layout located ++ text) = layout located' ++ text := by
  obtain ⟨l, rest, rfl⟩ := List.exists_cons_of_ne_nil nonempty
  obtain ⟨idle, f, same⟩ := proper l (by simp)
  refine ⟨{ l with gap := trimStart l.gap } :: rest,
    AllProper.cons ⟨idle.of_suffix (trimStart_suffix _), f, same⟩ proper.tail, ?_⟩
  obtain ⟨back, begins⟩ := f.source_begins
  rw [layout_cons, layout_cons, List.append_assoc, List.append_assoc, trimStart_append]
  split
  · rename_i blank
    have gone : trimStart l.gap = [] := by
      have whole := trimStart_append l.gap []
      rwa [if_pos blank, List.append_nil] at whole
    simp only [gone, same, show f.statement.source = f.source from rfl, begins, List.cons_append]
    rw [trimStart_of_head (by decide)]
    simp
  · simp

theorem Settled.trimStart {text : List Char} (settled : Settled text) :
    Settled (Text.trimStart text) := by
  obtain ⟨located, gap, proper, idle, rfl⟩ := settled
  by_cases empty : located = []
  · subst empty
    exact (idle.of_suffix (trimStart_suffix gap)).settled
  · obtain ⟨located', proper', same⟩ := trimStart_layout proper gap empty
    exact ⟨located', gap, proper', idle, same⟩

theorem Ended.trimStart {text : List Char} (ended : Ended text) : Ended (Text.trimStart text) := by
  obtain ⟨located, proper, rfl⟩ := ended
  by_cases empty : located = []
  · subst empty
    exact Ended.nil
  · obtain ⟨located', proper', same⟩ := trimStart_layout proper [] empty
    refine ⟨located', proper', ?_⟩
    simpa using same

theorem Settled.append {text more : List Char} (settled : Settled text) (settled' : Settled more)
    (opens : Opens more) : Settled (text ++ more) := by
  obtain ⟨located', gap', proper', idle', rfl⟩ := settled'
  by_cases empty : located' = []
  · subst empty
    obtain ⟨located, gap, proper, idle, rfl⟩ := settled
    refine ⟨located, gap ++ gap', proper, idle.append idle' opens, ?_⟩
    simp [layout]
  · have nonempty : layout located' ≠ [] := by
      obtain ⟨front, ends⟩ := layout_ends proper' empty
      simp [ends]
    have opens' : Opens (layout located') := by
      rcases opens with none_ | ⟨rest, begins⟩
      · exact Or.inl (List.append_eq_nil_iff.mp none_).1
      · obtain ⟨c, back, same⟩ := List.exists_cons_of_ne_nil nonempty
        rw [same] at begins ⊢
        exact Or.inr ⟨back, by rw [(List.cons.inj begins).1]⟩
    rw [← List.append_assoc]
    exact (settled.append_ended ⟨located', proper', rfl⟩ opens' nonempty).append_settled
      idle'.settled

theorem Settled.of_append {text more : List Char} (ended : Ended text)
    (settled : Settled (text ++ more)) : Settled more := by
  obtain ⟨located, gap, proper, idle, whole⟩ := settled
  obtain ⟨front, properFront, rfl⟩ := ended
  have same : front ++ statements more = located := by
    rw [← statements_layout_append properFront, whole, statements_layout_idle proper idle]
  rw [← same, layout_append, List.append_assoc] at whole
  exact ⟨statements more, gap, statements_proper more, idle, List.append_cancel_left whole⟩

end TopicWiki.Template
