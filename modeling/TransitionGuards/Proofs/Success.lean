/-
  Computations that succeed.

  What a result of two steps, or of one step and a function, says of the first
  step. Decoders and searches are taken apart with these. Where there is a state
  besides, the second step goes on with what the first has left of it, and a failure
  leaves it as it is.
-/

namespace TransitionGuards
variable {ε α β : Type} {x : Except ε α} {b : β}

theorem exists_of_map_ok {f : α → β} (h : x.map f = .ok b) : ∃ a, x = .ok a ∧ f a = b := by
  cases x with
  | error e => cases h
  | ok a =>
    cases h
    exact ⟨a, rfl, rfl⟩

theorem exists_of_bind_ok {f : α → Except ε β} (h : x >>= f = .ok b) : ∃ a, x = .ok a ∧ f a = .ok b := by
  cases x with
  | error e => cases h
  | ok a => exact ⟨a, rfl, h⟩

theorem exists_of_toBool (h : x.toBool = true) : ∃ a, x = .ok a := by
  cases x with
  | error e => cases h
  | ok a => exact ⟨a, rfl⟩

/-- One part after another, on the state that the first has left. -/
theorem run_bind_state {σ : Type} (m : ExceptT ε (StateM σ) α) (next : α → ExceptT ε (StateM σ) β) (s : σ) :
    (m >>= next).run s =
      match m.run s with
      | (.ok a, t) => (next a).run t
      | (.error e, t) => (.error e, t) := by
  show (match m.run s with | (r, t) => ExceptT.bindCont next r t) = _
  rcases m.run s with ⟨_ | _, t⟩ <;> rfl

end TransitionGuards
