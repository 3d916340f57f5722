namespace TopicWiki

theorem Except.map_eq_ok_iff {ε α β : Type} {f : α → β} {x : Except ε α} {b : β} :
    x.map f = .ok b ↔ ∃ a, x = .ok a ∧ f a = b := by
  cases x <;> simp [Except.map]

theorem Except.toOption_eq_some_iff {ε α : Type} {x : Except ε α} {a : α} :
    x.toOption = some a ↔ x = .ok a := by
  constructor
  · intro given
    cases x with
    | error e => cases given
    | ok a' => exact congrArg _ (Option.some.inj given)
  · rintro rfl
    rfl

theorem Except.eq_ok_of_toOption {ε α : Type} {x : Except ε α} {a : α}
    (given : x.toOption = some a) : x = .ok a :=
  toOption_eq_some_iff.mp given

theorem foldlM_keeps {α β ε : Type} {f : β → α → Except ε β} {holds : β → Prop} {items : List α}
    {b b' : β} (step : ∀ item ∈ items, ∀ b b', holds b → f b item = .ok b' → holds b')
    (start : holds b) (done : items.foldlM f b = .ok b') : holds b' := by
  induction items generalizing b with
  | nil =>
    cases done
    exact start
  | cons item rest ih =>
    rw [List.foldlM_cons] at done
    cases first : f b item with
    | error fault =>
      rw [first] at done
      cases done
    | ok next =>
      rw [first] at done
      refine ih ?_ (step item List.mem_cons_self b next start first) done
      exact fun other member => step other (List.mem_cons_of_mem item member)

end TopicWiki
