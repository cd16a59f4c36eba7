import ZigbeeBridge.Cli.Program
import ZigbeeBridge.Proofs.Bridge.Command
import ZigbeeBridge.Proofs.Bus.Command
import ZigbeeBridge.Proofs.Bus.Texts
import ZigbeeBridge.Proofs.Cli.Arguments
import ZigbeeBridge.Proofs.Cli.Report
import ZigbeeBridge.Proofs.Cli.View

/-!
What comes of switching a light or a group from the command line. The gateway is asked what a bridge
would ask for the event on the bus. Whether the order was carried out shows only in the event that
is published for it, so the command succeeds just when the gateway confirms the change.
-/
namespace ZigbeeBridge

namespace Bridge

open Bus Data Gateway Operation
open Dialogue (Behaviour)

section Confirmations

variable (gateway : Behaviour) (m : Moment) (command : Command) (event : Event)

/-- The gateway accepts the change, and what it then tells of the device makes the event. -/
def Confirmed : Prop :=
  ∃ client session put get,
    m.state.session.connectClient = .ok (client, session) ∧
    (sending command).request client = .ok put ∧
    (∃ body v, Accepted (gateway m.trace.requests put) body v) ∧
    (asking command).request client = .ok get ∧
    ∃ body v, Accepted (gateway (m.trace.requests ++ [put]) get) body v ∧
      eventOf command v = .ok event

theorem eventOf_unique {answer : Answer} {command : Command} {body body' : String}
    {v v' : Value} {event event' : Event} (haccepted : Accepted answer body v)
    (hevent : eventOf command v = .ok event) (haccepted' : Accepted answer body' v')
    (hevent' : eventOf command v' = .ok event') : event = event' := by
  have hone := (accept_eq_ok_iff (fun _ v => eventOf command v) _ event).mpr
    ⟨body, v, haccepted, hevent⟩
  have hother := (accept_eq_ok_iff (fun _ v => eventOf command v) _ event').mpr
    ⟨body', v', haccepted', hevent'⟩
  exact Except.ok.inj (hone.symm.trans hother)

/-- A command publishes an event when the gateway confirms it, and no other one. -/
theorem Course.published_eq_some_iff {gateway : Behaviour} {m : Moment} {command : Command}
    {requests : List Request} {published : Option Event}
    (hcourse : Course gateway m command requests published) (event : Event) :
    published = some event ↔ Confirmed gateway m command event := by
  constructor
  · intro hpublished
    cases hcourse with
    | confirmed client session put get body v _ hclient hput haccepted hget hconfirmed hevent =>
      cases hpublished
      exact ⟨client, session, put, get, hclient, hput, haccepted, hget, body, v, hconfirmed, hevent⟩
    | _ => cases hpublished
  · rintro ⟨client, session, put, get, hclient, hput, ⟨body, v, haccepted⟩, hget, body', v',
      hconfirmed, hevent⟩
    cases hcourse with
    | noClient e hnone =>
      rw [hclient] at hnone
      cases hnone
    | noRequest client' session' e hclient' hnone =>
      rw [hclient] at hclient'
      cases hclient'
      rw [hput] at hnone
      cases hnone
    | refused client' session' put' hclient' hput' hrefused =>
      rw [hclient] at hclient'
      cases hclient'
      rw [hput] at hput'
      cases hput'
      exact absurd haccepted (hrefused body v)
    | unconfirmed client' session' put' get' hclient' hput' _ hget' hunclear =>
      rw [hclient] at hclient'
      cases hclient'
      rw [hput] at hput'
      cases hput'
      rw [hget] at hget'
      cases hget'
      exact absurd hevent (hunclear body' v' event hconfirmed)
    | confirmed client' session' put' get' body'' v'' event' hclient' hput' _ hget' hconfirmed'
        hevent' =>
      rw [hclient] at hclient'
      cases hclient'
      rw [hput] at hput'
      cases hput'
      rw [hget] at hget'
      cases hget'
      rw [eventOf_unique hconfirmed hevent hconfirmed' hevent']

theorem Confirmed.report {gateway : Behaviour} {m : Moment} {command : Command} {event : Event}
    (h : Confirmed gateway m command event) :
    event.direction = .inbound ∧ event.id? = some command.id := by
  obtain ⟨_, _, _, _, -, -, -, -, _, v, -, hevent⟩ := h
  exact eventOf_report command v event hevent

end Confirmations

end Bridge

namespace Cli

open Bridge Bus Data Gateway Operation
open Dialogue (Behaviour Trace)

section Orders

variable (order : SwitchOrder)

theorem get?_event {key : String} (hkey : key ∉ numberNames) :
    order.event.get? key =
      ((Event.outbound order.kind order.id).set Attribute.command
        (.text (if order.on then "On" else "Off"))).get? key := by
  unfold SwitchOrder.event
  apply Event.get?_setAll
  intro hmem
  obtain ⟨pair, hpair, rfl⟩ := List.mem_map.mp hmem
  obtain ⟨number, hnumber, hsome⟩ := List.mem_filterMap.mp hpair
  obtain ⟨n, -, rfl⟩ := Option.map_eq_some_iff.mp hsome
  have hname : number.1 ∈ numberNames := by
    simp only [List.mem_cons, List.not_mem_nil, or_false] at hnumber
    rcases hnumber with rfl | rfl | rfl | rfl <;> simp [numberNames]
  exact hkey hname

theorem id?_event : order.event.id? = some order.id := by
  unfold Event.id? Event.text?
  rw [get?_event order (by decide)]
  rfl

theorem exists_change?_event : ∃ change, Command.change? order.event = some change := by
  have htext : order.event.text? Attribute.command = some (if order.on then "On" else "Off") := by
    unfold Event.text?
    rw [get?_event order (by decide)]
    rfl
  unfold Command.change?
  rw [htext]
  cases order.on with
  | true => exact ⟨_, rfl⟩
  | false => exact ⟨_, rfl⟩

theorem ofEvent?_event_eq_none (hid : order.id = "") : Command.ofEvent? order.event = none := by
  unfold Command.ofEvent?
  rw [id?_event, hid]
  split
  · rfl
  · cases Command.target? order.event.kind with
    | none => rfl
    | some target => rfl

theorem exists_ofEvent?_event (hkind : order.kind = .light ∨ order.kind = .group)
    (hid : order.id ≠ "") :
    ∃ command, Command.ofEvent? order.event = some command ∧ command.id = order.id ∧
      Command.target? order.kind = some command.target := by
  have hkinds : order.event.kind = order.kind := Event.kind_setAll _ _
  have hdirection : order.event.direction = .outbound := Event.direction_setAll _ _
  obtain ⟨change, hchange⟩ := exists_change?_event order
  obtain ⟨target, htarget⟩ : ∃ target, Command.target? order.kind = some target := by
    rcases hkind with hkind | hkind
    · exact ⟨.light, by rw [hkind]; rfl⟩
    · exact ⟨.group, by rw [hkind]; rfl⟩
  refine ⟨⟨target, order.id, change⟩, ?_, rfl, htarget⟩
  rw [ofEvent?_of_named order.event hdirection (hkinds ▸ htarget) (id?_event order) hid, hchange]
  rfl

end Orders

section Runs

variable (gateway : Behaviour) (options : Options) (settings : Settings) (order : SwitchOrder)
  (command : Command)

def commandOutcome (published : Option Event) : Outcome :=
  match published with
  | some event => printValue options (eventLines event) event.value
  | none => .failed (.notAccepted order.kind.name order.id)

theorem run_commandErrand :
    ∃ requests published, Course gateway (.start settings) command requests published ∧
      (enact gateway (execute command) (.start settings)).2.trace =
        ⟨requests, published.toList⟩ ∧
      (commandErrand options settings order command).run gateway .empty =
        (commandOutcome options order published, ⟨requests, published.toList⟩) := by
  obtain ⟨requests, published, hcourse, client?, hafter⟩ :=
    execute_course gateway (.start settings) command
  have htrace : (enact gateway (execute command) (.start settings)).2.trace =
      ⟨requests, published.toList⟩ := by
    rw [hafter]
    rfl
  refine ⟨requests, published, hcourse, htrace, ?_⟩
  have hreceived : (received published.toList).events = published.toList := by
    rw [received_eq_all_iff]
    cases published <;> simp [bufferSize]
  unfold commandErrand
  rw [Dialogue.run_monad_bind, run_onBridge]
  dsimp only
  rw [htrace, hreceived]
  cases published with
  | none => rfl
  | some event => rfl

def busRequests (event : Event) : List Request :=
  (enact gateway (handle (.event event)) (.start settings)).2.trace.requests

/-- A run for an order with an id. It makes the requests that the bus event makes, with its numbers
as they are or as their texts. It succeeds just when the gateway confirms the change; then it prints
the one event for what it was told, and otherwise nothing. -/
structure Mirrors (ran : Outcome × Trace) : Prop where
  requests : ∀ event, SameTexts event order.event →
    ran.2.requests = busRequests gateway settings event
  integers : ran.2.requests = busRequests gateway settings order.event
  texts : ran.2.requests = busRequests gateway settings (written order)
  success : ran.1.exitCode = 0 ↔ ∃ event, Confirmed gateway (.start settings) command event
  published : ∀ event,
    ran.2.events = [event] ↔ Confirmed gateway (.start settings) command event
  printed : ∀ event, Confirmed gateway (.start settings) command event →
    ran.1 = ⟨options.format.render (eventLines event) event.value ++ "\n", none⟩ ∧
      event.direction = .inbound ∧ event.id? = some order.id
  failure : (∀ event, ¬Confirmed gateway (.start settings) command event) →
    ran.1 = .failed (.notAccepted order.kind.name order.id) ∧
      ran.1.exitCode = 1 ∧ ran.1.output = "" ∧ ran.2.events = []

variable {options order command}

/-- Events with the same texts make the same requests. -/
theorem busRequests_eq (hcommand : Command.ofEvent? order.event = some command) (event : Event)
    (hsame : SameTexts event order.event) :
    busRequests gateway settings event =
      (enact gateway (execute command) (.start settings)).2.trace.requests := by
  unfold busRequests
  rw [enact_command gateway _ event command (hsame.ofEvent?_eq.trans hcommand)]

theorem mirrors_commandErrand (hloud : options.quiet = false)
    (hcommand : Command.ofEvent? order.event = some command) (hid : command.id = order.id) :
    Mirrors gateway options settings order command
      ((commandErrand options settings order command).run gateway .empty) := by
  obtain ⟨requests, published, hcourse, htrace, hrun⟩ :=
    run_commandErrand gateway options settings order command
  have hconfirmed := hcourse.published_eq_some_iff
  have hrequests : ∀ event, SameTexts event order.event →
      requests = busRequests gateway settings event := by
    intro event hsame
    rw [busRequests_eq gateway settings hcommand event hsame, htrace]
  have hprinted : ∀ event, Confirmed gateway (.start settings) command event →
      commandOutcome options order (some event) =
        ⟨options.format.render (eventLines event) event.value ++ "\n", none⟩ := by
    intro event hevent
    apply printed_of_ne_empty options hloud
    apply render_ne_empty
    -- What names its device has an attribute.
    intro hnil
    have hnamed := hevent.report.2
    unfold Event.id? Event.text? Event.get? at hnamed
    rw [hnil] at hnamed
    cases hnamed
  rw [hrun]
  refine ⟨hrequests, hrequests _ ?_, hrequests _ (sameTexts_written order), ?_, ?_, ?_, ?_⟩
  · exact .of_text? rfl rfl fun _ => rfl
  · constructor
    · intro hcode
      cases published with
      | none => cases hcode
      | some event => exact ⟨event, (hconfirmed event).mp rfl⟩
    · rintro ⟨event, hevent⟩
      dsimp only
      rw [(hconfirmed event).mpr hevent, hprinted event hevent]
      rfl
  · intro event
    rw [← hconfirmed event]
    cases published <;> simp
  · intro event hevent
    obtain ⟨hdirection, hnamed⟩ := hevent.report
    dsimp only
    rw [(hconfirmed event).mpr hevent, ← hid]
    exact ⟨hprinted event hevent, hdirection, hnamed⟩
  · intro hnone
    cases published with
    | none => exact ⟨rfl, rfl, rfl, rfl⟩
    | some event => exact absurd ((hconfirmed event).mp rfl) (hnone event)

end Runs

section Programs

/-- To switch a light or a group from the command line is to send the event for it over the bus and
to wait for what the gateway tells of it. Without an id there is nothing to send. -/
theorem program_switch (around : Surroundings) (args : List String) (options : Options)
    (order : SwitchOrder) (profile : String) (settings : Settings)
    (hread : readArguments around.environment args = .order options (.switch order))
    (hloud : options.quiet = false)
    (hsettings : around.settings options = .ok (profile, settings)) :
    ∃ work, program around args = .errand settings work ∧
      (order.id = "" → ∀ gateway,
        let ran := work.run gateway .empty
        ran.1 = .failed (.invalid "id" "must not be empty") ∧ ran.1.exitCode = 2 ∧
          ran.1.output = "" ∧ ran.2.requests = []) ∧
      (order.id ≠ "" → ∃ command, Command.ofEvent? order.event = some command ∧
        command.id = order.id ∧ Command.target? order.kind = some command.target ∧
        ∀ gateway, Mirrors gateway options settings order command (work.run gateway .empty)) := by
  have hprogram : program around args =
      .errand settings (switchErrand options settings order) := by
    unfold program
    rw [hread]
    change withSettings around options (fun _ settings =>
      .errand settings (switchErrand options settings order)) = _
    unfold withSettings
    rw [hsettings]
  refine ⟨_, hprogram, ?_, ?_⟩
  · intro hid gateway
    unfold switchErrand
    rw [ofEvent?_event_eq_none order hid]
    exact ⟨rfl, rfl, rfl, rfl⟩
  · intro hid
    have hkind := kind_of_readArguments around.environment args options order hread
    obtain ⟨command, hcommand, hnamed, htarget⟩ := exists_ofEvent?_event order hkind hid
    refine ⟨command, hcommand, hnamed, htarget, ?_⟩
    intro gateway
    unfold switchErrand
    rw [hcommand]
    exact mirrors_commandErrand gateway settings hloud hcommand hnamed

/-- A user whose environment names the gateway, and who has no configuration. -/
def bareSurroundings : Surroundings :=
  ⟨[("DECONZ_ADDRESS", "gw"), ("DECONZ_TOKEN", "T")], none, "config.toml"⟩

def bareSettings : Settings := ⟨"gw", "T", "", 5, 10000, 100, true, none, .abort, false⟩

def dimCommand : Command := ⟨.light, "3", .on (some 80) .none⟩

theorem confirmed_obliging :
    ∃ event, Confirmed obliging (.start bareSettings) dimCommand event := by
  refine ⟨_, _, _, _, _, rfl, rfl, ⟨"[]", .array [], ⟨200, rfl, rfl⟩, rfl, ?_⟩, rfl, _, _,
    ⟨⟨200, rfl, rfl⟩, rfl, ?_⟩, rfl⟩
  · exact (quiet_iff _ _ rfl).mpr rfl
  · exact (quiet_iff _ _ rfl).mpr rfl

theorem program_switch_dim :
    ∃ work, readArguments bareSurroundings.environment dimOrder.arguments =
        .order (({} : Draft).options bareSurroundings.environment) (.switch dimOrder) ∧
      bareSurroundings.settings (({} : Draft).options bareSurroundings.environment) =
        .ok ("default", bareSettings) ∧
      program bareSurroundings dimOrder.arguments = .errand bareSettings work ∧
      (work.run obliging .empty).1.exitCode = 0 ∧
      (work.run obliging .empty).2.requests.map Request.text =
        ["PUT http://gw/api/T/lights/3/state \x7b\"on\":true,\"bri\":80\x7d",
          "GET http://gw/api/T/lights/3"] := by
  have hread := readArguments_arguments bareSurroundings.environment dimOrder (.inl rfl)
  have hsettings : bareSurroundings.settings
    (({} : Draft).options bareSurroundings.environment) = .ok ("default", bareSettings) := rfl
  obtain ⟨work, hprogram, -, hnamed⟩ := program_switch bareSurroundings dimOrder.arguments _
    dimOrder "default" bareSettings hread rfl hsettings
  obtain ⟨command, hcommand, -, -, hmirrors⟩ := hnamed (by decide)
  have hdim : command = dimCommand := Option.some.inj (hcommand.symm.trans rfl)
  subst hdim
  have hrequests := (hmirrors obliging).texts
  refine ⟨work, hread, hsettings, hprogram, (hmirrors obliging).success.mpr confirmed_obliging, ?_⟩
  rw [hrequests]
  rfl

end Programs

end Cli

end ZigbeeBridge
