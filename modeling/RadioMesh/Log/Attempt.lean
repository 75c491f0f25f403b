import RadioMesh.Log.Event

/-!
# Attempts

An attempt is what came of some work, a value or an error, together with the
events of that work in order.  Work stops at its first error; the events up to
there are kept.
-/

namespace RadioMesh

/-- The result of some work, and what was reported on the way. -/
structure Attempt (ε α : Type) where
  result : Except ε α
  events : List Event

namespace Attempt

def fail {ε α : Type} (error : ε) : Attempt ε α := ⟨.error error, []⟩

def report {ε : Type} (event : Event) : Attempt ε Unit := ⟨.ok (), [event]⟩

def ofExcept {ε α : Type} (result : Except ε α) : Attempt ε α := ⟨result, []⟩

/-- Work that goes on with the value of the work before it. -/
def andThen {ε α β : Type} (first : Attempt ε α) (next : α → Attempt ε β) : Attempt ε β :=
  match first.result with
  | .ok value => ⟨(next value).result, first.events ++ (next value).events⟩
  | .error error => ⟨.error error, first.events⟩

instance {ε : Type} : Monad (Attempt ε) where
  pure value := ⟨.ok value, []⟩
  bind := andThen

/-- The same work, its error told in other words. -/
def mapError {ε ε' α : Type} (reword : ε → ε') (attempt : Attempt ε α) : Attempt ε' α :=
  ⟨attempt.result.mapError reword, attempt.events⟩

section

variable {ε α β : Type}

@[simp] theorem result_pure (value : α) :
    (pure value : Attempt ε α).result = .ok value := rfl

@[simp] theorem events_pure (value : α) : (pure value : Attempt ε α).events = [] := rfl

@[simp] theorem result_fail (error : ε) : (fail error : Attempt ε α).result = .error error := rfl

@[simp] theorem events_fail (error : ε) : (fail error : Attempt ε α).events = [] := rfl

@[simp] theorem pure_bind (value : α) (next : α → Attempt ε β) :
    ((pure value : Attempt ε α) >>= next) = next value := by
  simp [bind, andThen, pure]

@[simp] theorem fail_bind (error : ε) (next : α → Attempt ε β) :
    ((fail error : Attempt ε α) >>= next) = fail error := rfl

theorem result_bind (first : Attempt ε α) (next : α → Attempt ε β) :
    (first >>= next).result = first.result.bind fun value => (next value).result := by
  obtain ⟨result, events⟩ := first
  cases result <;> rfl

theorem result_map (change : α → β) (attempt : Attempt ε α) :
    (change <$> attempt).result = attempt.result.map change := by
  obtain ⟨result, events⟩ := attempt
  cases result <;> rfl

theorem bind_assoc {γ : Type} (first : Attempt ε α) (next : α → Attempt ε β)
    (last : β → Attempt ε γ) :
    (first >>= next) >>= last = first >>= fun value => next value >>= last := by
  obtain ⟨result, events⟩ := first
  cases result with
  | error error => rfl
  | ok value =>
      simp only [bind, andThen]
      cases (next value).result <;> simp

@[simp] theorem report_bind (event : Event) (next : Unit → Attempt ε β) :
    (report event >>= next) = ⟨(next ()).result, event :: (next ()).events⟩ := rfl

/-- A report about the value of some work does not change it. -/
theorem result_bind_report (first : Attempt ε α) (event : α → Event) :
    (first >>= fun value => report (event value) >>= fun _ => pure value).result =
      first.result := by
  rw [result_bind]
  cases first.result <;> rfl

end

end Attempt

end RadioMesh
