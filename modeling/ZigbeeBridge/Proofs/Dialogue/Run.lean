import ZigbeeBridge.Dialogue

/-!
What dialogues come to, part by part: an attempt goes on with the results of its parts and stops at
the first error.
-/
namespace ZigbeeBridge.Dialogue

open Bus Gateway

variable {α β ε δ : Type}

section Parts

variable (gateway : Behaviour) (t : Trace)

@[simp] theorem run_done (a : α) : (done a).run gateway t = (a, t) := rfl

@[simp] theorem run_pure (a : α) : (pure a : Dialogue α).run gateway t = (a, t) := rfl

@[simp] theorem run_ask (request : Request) (next : Answer → Dialogue α) :
    (ask request next).run gateway t =
      (next (gateway t.requests request)).run gateway
        { t with requests := t.requests ++ [request] } := rfl

@[simp] theorem run_publish (event : Event) (next : Dialogue α) :
    (publish event next).run gateway t =
      next.run gateway { t with events := t.events ++ [event] } := rfl

@[simp] theorem run_publishing (event : Event) :
    (publishing event).run gateway t = ((), { t with events := t.events ++ [event] }) := rfl

/-- A pause leaves no trace. -/
@[simp] theorem run_pausing (ms : Nat) : (pausing ms).run gateway t = ((), t) := by
  unfold pausing
  split
  · rfl
  · rfl

@[simp] theorem run_monad_bind (d : Dialogue α) (f : α → Dialogue β) :
    (d >>= f).run gateway t = (f (d.run gateway t).1).run gateway (d.run gateway t).2 :=
  run_bind gateway d f t

@[simp] theorem run_map (f : α → β) (d : Dialogue α) :
    (f <$> d).run gateway t = (f (d.run gateway t).1, (d.run gateway t).2) := by
  rw [map_eq_pure_bind, run_monad_bind, run_pure]

/-- To hear a dialogue is to run it and to keep the events that it adds. -/
theorem run_hearing (d : Dialogue α) (heard : List Event) :
    ∃ published, (d.run gateway t).2.events = t.events ++ published ∧
      (d.hearing heard).run gateway t =
        (((d.run gateway t).1, heard ++ published), (d.run gateway t).2) := by
  induction d generalizing t heard with
  | done a => exact ⟨[], (List.append_nil _).symm, by rw [List.append_nil]; rfl⟩
  | ask request next ih => exact ih _ _ heard
  | publish event next ih =>
    obtain ⟨published, hevents, hrun⟩ := ih { t with events := t.events ++ [event] }
      (heard ++ [event])
    refine ⟨event :: published, ?_, ?_⟩
    · rw [run_publish, hevents, List.append_assoc, List.singleton_append]
    · rw [List.append_assoc, List.singleton_append] at hrun
      exact hrun
  | pause ms next ih => exact ih t heard

end Parts

namespace Attempt

/-- The result of an attempt and the trace after it. -/
def outcome (gateway : Behaviour) (attempt : Attempt ε α) (t : Trace) : Except ε α × Trace :=
  Dialogue.run gateway attempt.run t

variable (gateway : Behaviour) (t : Trace)

@[simp] theorem outcome_pure (a : α) :
    outcome gateway (pure a : Attempt ε α) t = (.ok a, t) := rfl

@[simp] theorem outcome_settle (result : Except ε α) :
    outcome gateway (settle result) t = (result, t) := rfl

@[simp] theorem outcome_mk (d : Dialogue (Except ε α)) :
    outcome gateway (ExceptT.mk d) t = d.run gateway t := rfl

@[simp] theorem outcome_liftM (d : Dialogue α) :
    outcome gateway (liftM d : Attempt ε α) t = (.ok (d.run gateway t).1, (d.run gateway t).2) :=
  run_map gateway t Except.ok d

/-- An attempt goes on with the result of its first part, or ends with its error. -/
theorem outcome_bind (attempt : Attempt ε α) (f : α → Attempt ε β) :
    outcome gateway (attempt >>= f) t =
      match outcome gateway attempt t with
      | (.ok a, t') => outcome gateway (f a) t'
      | (.error e, t') => (.error e, t') := by
  unfold outcome
  rw [ExceptT.run_bind, run_monad_bind]
  cases h : Dialogue.run gateway attempt.run t with
  | mk result t' =>
    cases result with
    | ok a => rfl
    | error e => rfl

@[simp] theorem outcome_map (f : α → β) (attempt : Attempt ε α) :
    outcome gateway (f <$> attempt) t =
      ((outcome gateway attempt t).1.map f, (outcome gateway attempt t).2) := by
  rw [map_eq_pure_bind, outcome_bind]
  cases h : outcome gateway attempt t with
  | mk result t' =>
    cases result with
    | ok a => rfl
    | error e => rfl

@[simp] theorem outcome_adapt (f : ε → δ) (attempt : Attempt ε α) :
    outcome gateway (ExceptT.adapt f attempt) t =
      ((outcome gateway attempt t).1.mapError f, (outcome gateway attempt t).2) :=
  run_map gateway t (Except.mapError f) attempt.run

end Attempt

end ZigbeeBridge.Dialogue
