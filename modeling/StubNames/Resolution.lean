import StubNames.Event
import StubNames.NamingError

/-!
Resolving a name, with the events that it reports. A `Resolution` is a value or an error
together with the events reported on the way, and an error keeps the events before it. Steps
follow one another as in `Except`: after an error nothing runs, and the events of the steps that
ran stand in their order (`mk_ok_bind`, `mk_error_bind`). When a step that always succeeds is
done for each member of a list, the events stand member by member (`mapM_eq`). Where only results
matter, a step is followed by the next as in `result_bind_of_ok` and `result_bind_of_error`.
-/
namespace StubNames

/-- A value or an error, and the events reported before it was reached. -/
structure Resolution (α : Type) where
  events : List Event
  result : Except NamingError α

namespace Resolution

variable {α β : Type}

/-- Reports an event. -/
def report (event : Event) : Resolution Unit := ⟨[event], .ok ()⟩

/-- Stops with an error. -/
def fail (error : NamingError) : Resolution α := ⟨[], .error error⟩

/-- A value or an error that is reached without any event. -/
def ofExcept (result : Except NamingError α) : Resolution α := ⟨[], result⟩

/-- One step and then, if it succeeds, the next. -/
def andThen (step : Resolution α) (next : α → Resolution β) : Resolution β :=
  match step.result with
  | .error error => ⟨step.events, .error error⟩
  | .ok value =>
    let rest := next value
    ⟨step.events ++ rest.events, rest.result⟩

instance : Monad Resolution where
  pure value := ⟨[], .ok value⟩
  bind := andThen

theorem pure_eq (value : α) : (pure value : Resolution α) = ⟨[], .ok value⟩ := rfl

@[simp] theorem mk_ok_bind (events : List Event) (value : α) (next : α → Resolution β) :
    (⟨events, .ok value⟩ : Resolution α) >>= next =
      ⟨events ++ (next value).events, (next value).result⟩ := rfl

@[simp] theorem mk_error_bind (events : List Event) (error : NamingError)
    (next : α → Resolution β) :
    (⟨events, .error error⟩ : Resolution α) >>= next = ⟨events, .error error⟩ := rfl

@[simp] theorem report_bind (event : Event) (next : Unit → Resolution β) :
    report event >>= next = ⟨event :: (next ()).events, (next ()).result⟩ := rfl

@[simp] theorem fail_bind (error : NamingError) (next : α → Resolution β) :
    fail error >>= next = fail error := rfl

@[simp] theorem ofExcept_ok_bind (value : α) (next : α → Resolution β) :
    ofExcept (.ok value) >>= next = next value := rfl

@[simp] theorem ofExcept_error_bind (error : NamingError) (next : α → Resolution β) :
    ofExcept (.error error) >>= next = fail error := rfl

instance : LawfulMonad Resolution := LawfulMonad.mk' Resolution
  (by rintro α ⟨events, _ | _⟩ <;> simp [Functor.map, andThen])
  (by intro α β value next; simp [Bind.bind, Pure.pure, andThen])
  (by rintro α β γ ⟨events, _ | value⟩ next last
      · rfl
      · cases outcome : (next value).result <;>
          simp [Bind.bind, andThen, outcome, List.append_assoc])

/-! ### Results without their events -/

/-- After a step that succeeds, the result is that of the next step. -/
theorem result_bind_of_ok {step : Resolution α} {middle : α} (done : step.result = .ok middle)
    (next : α → Resolution β) : (step >>= next).result = (next middle).result := by
  obtain ⟨events, result⟩ := step
  cases done
  rfl

/-- After a step that fails, nothing runs. -/
theorem result_bind_of_error {step : Resolution α} {error : NamingError}
    (failed : step.result = .error error) (next : α → Resolution β) :
    (step >>= next).result = .error error := by
  obtain ⟨events, result⟩ := step
  cases failed
  rfl

/-- Where the next step always succeeds, its value is taken of whatever the first step answers. -/
theorem result_bind_eq_map {step : Resolution α} {next : α → Resolution β} {f : α → β}
    (each : ∀ value, (next value).result = .ok (f value)) :
    (step >>= next).result = step.result.map f := by
  cases outcome : step.result with
  | error error => exact result_bind_of_error outcome next
  | ok value => exact (result_bind_of_ok outcome next).trans (each value)

/-- Two steps succeed together exactly when the first does and then the second. -/
theorem result_bind_eq_ok_iff {step : Resolution α} {next : α → Resolution β} {value : β} :
    (step >>= next).result = .ok value ↔
      ∃ middle, step.result = .ok middle ∧ (next middle).result = .ok value := by
  cases outcome : step.result with
  | error error => simp [result_bind_of_error outcome]
  | ok middle => simp [result_bind_of_ok outcome]

theorem map_eq_ok_iff {result : Except NamingError α} {f : α → β} {value : β} :
    result.map f = .ok value ↔ ∃ before, result = .ok before ∧ f before = value := by
  cases result <;> simp [Except.map]

theorem map_eq_error_iff {result : Except NamingError α} {f : α → β} {error : NamingError} :
    result.map f = .error error ↔ result = .error error := by
  cases result <;> simp [Except.map]

/-! ### Events up to the step that fails -/

/-- After a step that succeeds, the next step adds its events. -/
theorem events_bind_of_ok {step : Resolution α} {middle : α} (done : step.result = .ok middle)
    (next : α → Resolution β) : (step >>= next).events = step.events ++ (next middle).events := by
  obtain ⟨events, result⟩ := step
  cases done
  rfl

/-- A step that fails reports the last events. -/
theorem events_bind_of_error {step : Resolution α} {error : NamingError}
    (failed : step.result = .error error) (next : α → Resolution β) :
    (step >>= next).events = step.events := by
  obtain ⟨events, result⟩ := step
  cases failed
  rfl

/-- Computing a value from that of a step reports nothing more. -/
theorem events_bind_pure (step : Resolution α) (f : α → β) :
    (step >>= fun value => pure (f value)).events = step.events := by
  obtain ⟨events, _ | value⟩ := step <;> simp [pure_eq]

/-- What follows a step matters only where the step succeeds. -/
theorem bind_congr_of_ok {step : Resolution α} {next other : α → Resolution β}
    (same : ∀ middle, step.result = .ok middle → next middle = other middle) :
    step >>= next = step >>= other := by
  obtain ⟨events, _ | middle⟩ := step
  · rfl
  · rw [mk_ok_bind, mk_ok_bind, same middle rfl]

theorem bind_of_error {step : Resolution α} {error : NamingError}
    (failed : step.result = .error error) (next : α → Resolution α) : step >>= next = step := by
  obtain ⟨events, result⟩ := step
  cases failed
  rfl

/-! ### Steps for each member of a list -/

/-- A step that succeeds for every member of a list reports and answers member by member. -/
theorem mapM_eq {step : α → Resolution β} {events : α → List Event} {value : α → β}
    (each : ∀ a, step a = ⟨events a, .ok (value a)⟩) (members : List α) :
    members.mapM step = ⟨members.flatMap events, .ok (members.map value)⟩ := by
  induction members with
  | nil => rfl
  | cons a members ih => simp [List.mapM_cons, each, ih, pure_eq]

/-- Where every step that succeeds reports what its member says, a run that succeeds reports it
    member by member. -/
theorem events_foldlM {step : β → α → Resolution β} {events : α → List Event}
    (each : ∀ state a next, (step state a).result = .ok next → (step state a).events = events a)
    {members : List α} {first last : β} (run : (members.foldlM step first).result = .ok last) :
    (members.foldlM step first).events = members.flatMap events := by
  induction members generalizing first with
  | nil => rfl
  | cons a members ih =>
    rw [List.foldlM_cons] at run ⊢
    obtain ⟨middle, stepped, rest⟩ := result_bind_eq_ok_iff.mp run
    rw [events_bind_of_ok stepped, each first a middle stepped, ih rest, List.flatMap_cons]

/-- A run ends at the first step that fails. -/
theorem foldlM_eq_bind_of_error {step : β → α → Resolution β} {members : List α} {position : Nat}
    {a : α} {first middle : β} {error : NamingError} (there : members[position]? = some a)
    (run : ((members.take position).foldlM step first).result = .ok middle)
    (stopped : (step middle a).result = .error error) :
    members.foldlM step first = (members.take position).foldlM step first >>= (step · a) := by
  obtain ⟨inside, rfl⟩ := List.getElem?_eq_some_iff.mp there
  have split : members = members.take position ++
      members[position] :: members.drop (position + 1) := by
    rw [← List.drop_eq_getElem_cons inside, List.take_append_drop]
  conv => lhs; rw [split]
  rw [List.foldlM_append]
  refine bind_congr_of_ok fun last done => ?_
  rw [run] at done
  cases done
  rw [List.foldlM_cons]
  exact bind_of_error stopped _

end Resolution
end StubNames
