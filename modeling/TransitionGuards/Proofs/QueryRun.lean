import TransitionGuards.Machine.Report
import TransitionGuards.Proofs.Coverage

/-
  Runs of several queries, each with a clock of its own.

  What fallbacks say is lost in a report. A watched run makes the same queries
  and notes the messages. `Yields x w post` says that the run `x` and its watched
  form `w` return the same value after the same queries, and that `post` relates
  the value to the messages of these queries. It is kept by `pure` and `bind`,
  so it follows the text of a program.
-/

namespace TransitionGuards

/-- The clocks of the queries to come. -/
abbrev Clocks := Nat → Clock

/-- Starts the next clock. -/
def Clocks.next : StateM Clocks Clock := fun clocks => (clocks 0, fun n => clocks (n + 1))

/-- The analyzer on the built-in backend, with the next clock for each query. -/
def Analyzer.timed (config : Config) : Analyzer (StateM Clocks) := ⟨config, .builtin Clocks.next⟩

/-- Runs that note messages. -/
abbrev Watched := StateT (List String) (StateM Clocks)

/-- A check that notes the message of its verdict. -/
def watch {α : Type} (message : α → Option String) (check : StateM Clocks α) : Watched α := do
  let verdict ← check
  modify fun messages => messages ++ (message verdict).toList
  pure verdict

/-- The checks, with a note of every message. -/
def Checks.watched (c : Checks (StateM Clocks)) : Checks Watched where
  pair g₁ g₂ := watch (·.error) (c.pair g₁ g₂)
  complete guards declared := watch (·.error) (c.complete guards declared)

/-- Whether the run and its watched form return the same value after the same
queries, the value and the messages noted as `post` says. -/
def Yields {α : Type} (x : StateM Clocks α) (w : Watched α) (post : α → List String → Prop) : Prop :=
  ∀ clocks messages, ∃ a rest new,
    x.run clocks = (a, rest) ∧ (w.run messages).run clocks = ((a, messages ++ new), rest) ∧ post a new

namespace Yields
variable {α β : Type} {x : StateM Clocks α} {w : Watched α} {post post' : α → List String → Prop}

theorem done {a : α} (h : post a []) : Yields (pure a) (pure a) post :=
  fun clocks messages => ⟨a, clocks, [], rfl, by rw [List.append_nil]; rfl, h⟩

theorem mono (hx : Yields x w post) (h : ∀ a new, post a new → post' a new) : Yields x w post' := by
  intro clocks messages
  obtain ⟨a, rest, new, ex, ew, hp⟩ := hx clocks messages
  exact ⟨a, rest, new, ex, ew, h a new hp⟩

theorem andThen {f : α → StateM Clocks β} {g : α → Watched β} {final : β → List String → Prop}
    (hx : Yields x w post)
    (hf : ∀ a new, post a new → Yields (f a) (g a) fun b more => final b (new ++ more)) :
    Yields (x >>= f) (w >>= g) final := by
  intro clocks messages
  obtain ⟨a, rest, new, ex, ew, hp⟩ := hx clocks messages
  -- what follows starts from the clocks and the messages that `x` leaves
  obtain ⟨b, rest', more, ef, eg, hq⟩ := hf a new hp rest (messages ++ new)
  refine ⟨b, rest', new ++ more, ?_, ?_, hq⟩
  · rw [StateT.run_bind, ex]
    exact ef
  · rw [StateT.run_bind, StateT.run_bind, ew, ← List.append_assoc]
    exact eg

/-- A check yields its verdict, with the message that it carries. -/
theorem ofCheck {check : StateM Clocks α} {message : α → Option String} {right : α → Prop}
    (h : ∀ clocks, right (check.run clocks).1) :
    Yields check (watch message check) fun verdict new => right verdict ∧ new = (message verdict).toList :=
  fun clocks _ => ⟨(check.run clocks).1, (check.run clocks).2, _, rfl, rfl, h clocks, rfl⟩

end Yields

/-! ## The two checks -/

namespace Analyzer
variable {config : Config}

/-- Under any clocks the verdict on two guards is that of a single query. -/
theorem timed_checkPair (g₁ g₂ : Guard) (clocks : Clocks) :
    (((timed config).checkPair g₁ g₂).run clocks).1 = ((builtin config (clocks 0)).checkPair g₁ g₂).run := by
  rw [timed, builtin, checkPair_eq, checkPair_eq]
  split <;> rfl

theorem timed_checkComplete (guards : List Guard) (declared : List Variable) (clocks : Clocks) :
    (((timed config).checkComplete guards declared).run clocks).1 =
      ((builtin config (clocks 0)).checkComplete guards declared).run := by
  rw [timed, builtin, checkComplete_eq, checkComplete_eq]
  split
  · rfl
  · split
    · rfl
    · split <;> rfl

theorem yields_pair (g₁ g₂ : Guard) :
    Yields ((timed config).checks.pair g₁ g₂) ((timed config).checks.watched.pair g₁ g₂)
      fun verdict new => PairVerdict (timed config).mode g₁ g₂ verdict ∧ new = verdict.error.toList := by
  apply Yields.ofCheck
  intro clocks
  show PairVerdict _ g₁ g₂ (((timed config).checkPair g₁ g₂).run clocks).1
  rw [timed_checkPair]
  exact checkPair_right config (clocks 0) g₁ g₂

theorem yields_complete (guards : List Guard) (declared : List Variable) :
    Yields ((timed config).checks.complete guards declared) ((timed config).checks.watched.complete guards declared)
      fun verdict new =>
        CoverageVerdict (timed config).mode guards declared verdict ∧ new = verdict.error.toList := by
  apply Yields.ofCheck
  intro clocks
  show CoverageVerdict _ guards declared (((timed config).checkComplete guards declared).run clocks).1
  rw [timed_checkComplete]
  exact checkComplete_right config (clocks 0) guards declared

end Analyzer

end TransitionGuards
