import ZigbeeBridge.Proofs.Dialogue.Run

/-!
Which requests a dialogue can come to make, whatever it is answered. The property is one of the
dialogue alone: it holds of a whole when it holds of the parts, and then of every run.
-/
namespace ZigbeeBridge.Dialogue

open Bus Gateway

variable {α β ε δ : Type} (P : Request → Prop)

/-- Whatever it is answered, the dialogue makes only requests of the kind. -/
inductive Asks : Dialogue α → Prop
  | done (a : α) : Asks (done a)
  | ask {request : Request} {next : Answer → Dialogue α} (hrequest : P request)
      (hnext : ∀ answer, Asks (next answer)) : Asks (ask request next)
  | publish (event : Event) {next : Dialogue α} (hnext : Asks next) : Asks (publish event next)
  | pause (ms : Nat) {next : Dialogue α} (hnext : Asks next) : Asks (pause ms next)

variable {P}

theorem Asks.mono {Q : Request → Prop} (hmono : ∀ request, P request → Q request)
    {d : Dialogue α} (hd : d.Asks P) : d.Asks Q := by
  induction hd with
  | done a => exact .done a
  | ask hrequest _ ih => exact .ask (hmono _ hrequest) ih
  | publish event _ ih => exact .publish event ih
  | pause ms _ ih => exact .pause ms ih

theorem asks_bind {d : Dialogue α} {f : α → Dialogue β} (hd : d.Asks P)
    (hf : ∀ a, (f a).Asks P) : (d >>= f).Asks P := by
  induction hd with
  | done a => exact hf a
  | ask hrequest _ ih => exact .ask hrequest ih
  | publish event _ ih => exact .publish event ih
  | pause ms _ ih => exact .pause ms ih

theorem asks_map {d : Dialogue α} (f : α → β) (hd : d.Asks P) : (f <$> d).Asks P :=
  asks_bind hd fun a => .done (f a)

theorem asks_publishing (event : Event) : (publishing event).Asks P := .publish event (.done ())

theorem asks_pausing (ms : Nat) : (pausing ms).Asks P := by
  unfold pausing
  split
  · exact .done ()
  · exact .pause ms (.done ())

/-- A run adds requests of the kind and no others. -/
theorem requests_run {d : Dialogue α} (hd : d.Asks P) (gateway : Behaviour) (t : Trace) :
    ∃ made, (d.run gateway t).2.requests = t.requests ++ made ∧ ∀ request ∈ made, P request := by
  induction hd generalizing t with
  | done a => exact ⟨[], (List.append_nil _).symm, by simp⟩
  | @ask request next hrequest _ ih =>
    obtain ⟨made, hmade, hkind⟩ := ih (gateway t.requests request)
      { t with requests := t.requests ++ [request] }
    refine ⟨request :: made, ?_, ?_⟩
    · rw [run_ask, hmade, List.append_assoc, List.singleton_append]
    · intro r hr
      rcases List.mem_cons.mp hr with rfl | hr
      · exact hrequest
      · exact hkind r hr
  | publish event _ ih => exact ih { t with events := t.events ++ [event] }
  | pause ms _ ih => exact ih t

namespace Attempt

variable (P) in
/-- The same for an attempt, which may also stop early. -/
def Asks (attempt : Attempt ε α) : Prop := Dialogue.Asks P attempt.run

theorem asks_pure (a : α) : Asks P (pure a : Attempt ε α) :=
  Dialogue.Asks.done (Except.ok a)

theorem asks_settle (result : Except ε α) : Asks P (settle result) :=
  Dialogue.Asks.done result

theorem asks_liftM {d : Dialogue α} (hd : d.Asks P) : Asks P (liftM d : Attempt ε α) :=
  asks_map Except.ok hd

theorem asks_bind {attempt : Attempt ε α} {f : α → Attempt ε β} (hattempt : Asks P attempt)
    (hf : ∀ a, Asks P (f a)) : Asks P (attempt >>= f) := by
  unfold Asks
  rw [ExceptT.run_bind]
  refine Dialogue.asks_bind hattempt fun result => ?_
  cases result with
  | ok a => exact hf a
  | error e => exact Dialogue.Asks.done (Except.error e)

theorem asks_map {attempt : Attempt ε α} (f : α → β) (hattempt : Asks P attempt) :
    Asks P (f <$> attempt) := by
  rw [map_eq_pure_bind]
  exact asks_bind hattempt fun a => asks_pure (f a)

theorem asks_adapt {attempt : Attempt ε α} (f : ε → δ) (hattempt : Asks P attempt) :
    Asks P (ExceptT.adapt f attempt) :=
  Dialogue.asks_map (Except.mapError f) hattempt

theorem asks_foldlM {step : β → α → Attempt ε β} (hstep : ∀ b a, Asks P (step b a))
    (as : List α) (b : β) : Asks P (as.foldlM step b) := by
  induction as generalizing b with
  | nil => exact asks_pure b
  | cons a as ih =>
    rw [List.foldlM_cons]
    exact asks_bind (hstep b a) ih

/-- An attempt adds requests of the kind and no others. -/
theorem requests_outcome {attempt : Attempt ε α} (hattempt : Asks P attempt)
    (gateway : Behaviour) (t : Trace) :
    ∃ made, (outcome gateway attempt t).2.requests = t.requests ++ made ∧
      ∀ request ∈ made, P request :=
  requests_run hattempt gateway t

end Attempt

end ZigbeeBridge.Dialogue
