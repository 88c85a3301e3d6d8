/-! Programs that change a state in place. A program may stop, and what it changed before it stopped stays changed:
that a refused program leaves no trace is therefore something to prove. Main statements: what a program does is known
from what its steps do, as is the outcome of a chain of steps that only give values. -/

namespace Except

variable {ε α β : Type}

theorem map_eq_ok_iff {change : α → β} {outcome : Except ε α} {result : β} :
    outcome.map change = .ok result ↔ ∃ value, outcome = .ok value ∧ change value = result := by
  cases outcome with
  | error reason => simp [Except.map]
  | ok value => simp [Except.map]

theorem bind_eq_ok_iff {outcome : Except ε α} {next : α → Except ε β} {result : β} :
    (outcome >>= next) = .ok result ↔ ∃ value, outcome = .ok value ∧ next value = .ok result := by
  cases outcome with
  | error reason => simp [bind, Except.bind]
  | ok value => simp [bind, Except.bind]

@[simp] theorem ok_bind (value : α) (next : α → Except ε β) : (ok value >>= next) = next value := rfl

end Except

namespace ConfigSchema

abbrev Program (σ ε α : Type) := ExceptT ε (StateM σ) α

namespace Program

variable {σ ε α β : Type}

/-- What a program answers, and the state it leaves behind. -/
def perform (program : Program σ ε α) (state : σ) : Except ε α × σ := (ExceptT.run program).run state

def atomic (before : σ) : Except ε (α × σ) → Except ε α × σ
  | .ok (value, after) => (.ok value, after)
  | .error reason => (.error reason, before)

variable (state : σ)

@[simp] theorem perform_pure (value : α) : perform (pure value : Program σ ε α) state = (.ok value, state) := rfl

@[simp] theorem perform_throw (reason : ε) :
    perform (throw reason : Program σ ε α) state = (.error reason, state) := rfl

@[simp] theorem perform_get : perform (get : Program σ ε σ) state = (.ok state, state) := rfl

@[simp] theorem perform_modify (change : σ → σ) :
    perform (modify change : Program σ ε PUnit) state = (.ok (), change state) := rfl

@[simp] theorem perform_bind (program : Program σ ε α) (next : α → Program σ ε β) :
    perform (program >>= next) state = match perform program state with
      | (.ok value, later) => perform (next value) later
      | (.error reason, later) => (.error reason, later) := by
  unfold perform ExceptT.run StateT.run
  simp only [bind, ExceptT.bind, ExceptT.mk, StateT.bind, ExceptT.bindCont]
  rcases program state with ⟨_ | value, later⟩ <;> rfl

@[simp] theorem perform_map (change : α → β) (program : Program σ ε α) :
    perform (change <$> program) state = ((perform program state).1.map change, (perform program state).2) := by
  rw [← bind_pure_comp, perform_bind]
  rcases perform program state with ⟨_ | value, later⟩ <;> rfl

/-- What was changed before the reason was caught stays changed. -/
@[simp] theorem perform_tryCatch (program : Program σ ε α) (handle : ε → Program σ ε α) :
    perform (tryCatch program handle) state = match perform program state with
      | (.ok value, later) => (.ok value, later)
      | (.error reason, later) => perform (handle reason) later := by
  unfold perform ExceptT.run StateT.run
  simp only [tryCatch, tryCatchThe, MonadExceptOf.tryCatch, ExceptT.tryCatch, ExceptT.mk, bind, StateT.bind]
  rcases program state with ⟨_ | value, later⟩ <;> rfl

@[simp] theorem perform_ofExcept (outcome : Except ε α) :
    perform (MonadExcept.ofExcept outcome : Program σ ε α) state = (outcome, state) := by
  cases outcome <;> rfl

end Program

end ConfigSchema
