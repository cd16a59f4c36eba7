import ZigbeeBridge.Bus.Event
import ZigbeeBridge.Gateway.Exchange

/-!
An operation as a dialogue: it asks the gateway, publishes events, pauses between requests, and
comes to a result. What it does next may depend on each answer. A dialogue can be run against the
description of a gateway, or performed on a real one.
-/
namespace ZigbeeBridge

open Bus Gateway

inductive Dialogue (α : Type) where
  | done (result : α)
  | ask (request : Request) (next : Answer → Dialogue α)
  | publish (event : Event) (next : Dialogue α)
  | pause (ms : Nat) (next : Dialogue α)

namespace Dialogue

variable {α β γ : Type}

def bind : Dialogue α → (α → Dialogue β) → Dialogue β
  | done a, f => f a
  | ask request next, f => ask request fun answer => bind (next answer) f
  | publish event next, f => publish event (bind next f)
  | pause ms next, f => pause ms (bind next f)

instance : Monad Dialogue where
  pure := done
  bind := bind

/-- What a gateway answers to a request after those that it got before. -/
abbrev Behaviour := List Request → Request → Answer

/-- What a dialogue leaves behind: its requests and its events, each in order. -/
structure Trace where
  requests : List Request
  events : List Event
  deriving DecidableEq, Repr

def Trace.empty : Trace := ⟨[], []⟩

def run (gateway : Behaviour) : Dialogue α → Trace → α × Trace
  | done a, t => (a, t)
  | ask request next, t =>
    run gateway (next (gateway t.requests request)) { t with requests := t.requests ++ [request] }
  | publish event next, t => run gateway next { t with events := t.events ++ [event] }
  | pause _ next, t => run gateway next t

/-- Carries a dialogue out with the means of some monad. -/
def perform {m : Type → Type} [Monad m] (send : Request → m Answer) (emit : Event → m Unit)
    (sleep : Nat → m Unit) : Dialogue α → m α
  | done a => Pure.pure a
  | ask request next => do (next (← send request)).perform send emit sleep
  | publish event next => do
    emit event
    next.perform send emit sleep
  | pause ms next => do
    sleep ms
    next.perform send emit sleep

/-- The same dialogue; the events that it publishes come with its result, after those heard so
far. -/
def hearing (heard : List Event) : Dialogue α → Dialogue (α × List Event)
  | done a => done (a, heard)
  | ask request next => ask request fun answer => (next answer).hearing heard
  | publish event next => publish event (next.hearing (heard ++ [event]))
  | pause ms next => pause ms (next.hearing heard)

/-- A dialogue that may end early with an error. -/
abbrev Attempt (ε α : Type) := ExceptT ε Dialogue α

/-- A result that is there without asking. -/
def settle {ε : Type} (result : Except ε α) : Attempt ε α := ExceptT.mk (done result)

def publishing (event : Event) : Dialogue Unit := publish event (done ())

def pausing (ms : Nat) : Dialogue Unit := if ms = 0 then done () else pause ms (done ())

@[simp] theorem bind_assoc (d : Dialogue α) (f : α → Dialogue β) (g : β → Dialogue γ) :
    (d.bind f).bind g = d.bind fun a => (f a).bind g := by
  induction d with
  | done a => rfl
  | ask request next ih => exact congrArg (ask request) (funext ih)
  | publish event next ih => exact congrArg (publish event) ih
  | pause ms next ih => exact congrArg (pause ms) ih

@[simp] theorem bind_done (d : Dialogue α) : d.bind done = d := by
  induction d with
  | done a => rfl
  | ask request next ih => exact congrArg (ask request) (funext ih)
  | publish event next ih => exact congrArg (publish event) ih
  | pause ms next ih => exact congrArg (pause ms) ih

instance : LawfulMonad Dialogue := LawfulMonad.mk' Dialogue
  bind_done
  (fun _ _ => rfl)
  bind_assoc

theorem run_bind (gateway : Behaviour) (d : Dialogue α) (f : α → Dialogue β) (t : Trace) :
    (d.bind f).run gateway t = (f (d.run gateway t).1).run gateway (d.run gateway t).2 := by
  induction d generalizing t with
  | done a => rfl
  | ask request next ih => exact ih _ _
  | publish event next ih => exact ih _
  | pause ms next ih => exact ih _

end Dialogue

end ZigbeeBridge
