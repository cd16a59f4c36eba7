import ZigbeeBridge.Bridge.Operation
import ZigbeeBridge.Proofs.Dialogue.Run

/-!
Operations at a moment: what a bridge has become and what has passed between it, its gateway and
the bus until then.
-/
namespace ZigbeeBridge.Bridge

open Bus Dialogue Gateway

structure Moment where
  state : State
  trace : Trace
  deriving DecidableEq, Repr

/-- A bridge that has done nothing yet. -/
def Moment.start (settings : Settings) : Moment := ⟨.start settings, .empty⟩

namespace Operation

variable {α β : Type}

/-- The operation carried out at a moment: its result and the moment after it. -/
def enact (gateway : Behaviour) (operation : Operation α) (m : Moment) : α × Moment :=
  let r := (operation.run m.state).run gateway m.trace
  (r.1.1, ⟨r.1.2, r.2⟩)

section Parts

variable (gateway : Behaviour) (m : Moment)

@[simp] theorem enact_pure (a : α) : enact gateway (pure a) m = (a, m) := rfl

@[simp] theorem enact_bind (operation : Operation α) (f : α → Operation β) :
    enact gateway (operation >>= f) m =
      enact gateway (f (enact gateway operation m).1) (enact gateway operation m).2 := by
  unfold enact
  rw [StateT.run_bind, run_monad_bind]

@[simp] theorem enact_map (f : α → β) (operation : Operation α) :
    enact gateway (f <$> operation) m =
      (f (enact gateway operation m).1, (enact gateway operation m).2) := by
  rw [map_eq_pure_bind, enact_bind, enact_pure]

@[simp] theorem enact_get : enact gateway (get : Operation State) m = (m.state, m) := rfl

theorem enact_get_bind (f : State → Operation α) :
    enact gateway (get >>= f) m = enact gateway (f m.state) m := rfl

@[simp] theorem enact_set (s : State) :
    enact gateway (set s : Operation PUnit) m = (⟨⟩, { m with state := s }) := rfl

@[simp] theorem enact_modify (f : State → State) :
    enact gateway (modify f : Operation PUnit) m = (⟨⟩, { m with state := f m.state }) := rfl

@[simp] theorem enact_liftM (d : Dialogue α) :
    enact gateway (liftM d : Operation α) m =
      ((d.run gateway m.trace).1, { m with trace := (d.run gateway m.trace).2 }) := by
  have hrun : (liftM d : Operation α).run m.state = (fun a => (a, m.state)) <$> d := rfl
  unfold enact
  rw [hrun, run_map]

@[simp] theorem enact_setHealth (health : Health) :
    enact gateway (setHealth health) m =
      ((), { m with state := { m.state with health } }) := rfl

@[simp] theorem enact_setSession (session : Session) :
    enact gateway (setSession session) m =
      ((), { m with state := { m.state with session } }) := rfl

/-- An attempt changes the session only where it keeps the client that it was made with. -/
theorem enact_withClient (attempt : Client → Attempt Error α) :
    enact gateway (withClient attempt) m =
      match m.state.session.connectClient with
      | .error e => (.error e, m)
      | .ok (client, session) =>
        let outcome := Attempt.outcome gateway (attempt client) m.trace
        (outcome.1, ⟨{ m.state with session }, outcome.2⟩) := by
  unfold withClient
  rw [enact_bind, enact_get]
  cases m.state.session.connectClient with
  | error e => rfl
  | ok found =>
    obtain ⟨client, session⟩ := found
    simp only [enact_bind, enact_setSession, enact_liftM]
    rfl

/-- Asking changes nothing of the state but the session. -/
theorem state_withClient (attempt : Client → Attempt Error α) :
    ∃ session, (enact gateway (withClient attempt) m).2.state = { m.state with session } := by
  rw [enact_withClient]
  cases m.state.session.connectClient with
  | error e => exact ⟨m.state.session, rfl⟩
  | ok found => exact ⟨found.2, rfl⟩

end Parts

end Operation

end ZigbeeBridge.Bridge
