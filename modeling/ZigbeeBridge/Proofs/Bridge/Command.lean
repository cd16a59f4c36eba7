import ZigbeeBridge.Proofs.Bridge.Operation
import ZigbeeBridge.Proofs.Bus.Report
import ZigbeeBridge.Proofs.Data.Result
import ZigbeeBridge.Proofs.Gateway.Envelope

/-!
What comes of a command. The change is sent and, once it is accepted, the device is asked for. Only
what the gateway then tells of it is published, and whatever goes wrong shows in the health alone.
-/
namespace ZigbeeBridge.Bridge

open Bus Data Gateway Operation
open Dialogue (Attempt Behaviour Trace)

def sending (command : Command) : Call :=
  match command.target with
  | .light => .setLight command.id command.change
  | .group => .setGroup command.id command.change

def asking (command : Command) : Call :=
  match command.target with
  | .light => .light command.id
  | .group => .group command.id

/-- The event for what a document tells of the device, under the id of the command. -/
def eventOf (command : Command) (v : Value) : Except Gateway.Error Event :=
  match command.target with
  | .light => (Light.decode command.id v).map ofLight
  | .group => (Group.decode command.id v).map ofGroup

/-- How a command can go: the requests that are made for it, and the event that is published. -/
inductive Course (gateway : Behaviour) (m : Moment) (command : Command) :
    List Request → Option Event → Prop where
  | noClient (e : Error) (hclient : m.state.session.connectClient = .error e) :
      Course gateway m command [] none
  | noRequest (client : Client) (session : Session) (e : Gateway.Error)
      (hclient : m.state.session.connectClient = .ok (client, session))
      (hput : (sending command).request client = .error e) :
      Course gateway m command [] none
  | refused (client : Client) (session : Session) (put : Request)
      (hclient : m.state.session.connectClient = .ok (client, session))
      (hput : (sending command).request client = .ok put)
      (hrefused : ∀ body v, ¬Accepted (gateway m.trace.requests put) body v) :
      Course gateway m command [put] none
  | unconfirmed (client : Client) (session : Session) (put get : Request)
      (hclient : m.state.session.connectClient = .ok (client, session))
      (hput : (sending command).request client = .ok put)
      (haccepted : ∃ body v, Accepted (gateway m.trace.requests put) body v)
      (hget : (asking command).request client = .ok get)
      (hunclear : ∀ body v event, Accepted (gateway (m.trace.requests ++ [put]) get) body v →
        eventOf command v ≠ .ok event) :
      Course gateway m command [put, get] none
  | confirmed (client : Client) (session : Session) (put get : Request) (body : String)
      (v : Value) (event : Event)
      (hclient : m.state.session.connectClient = .ok (client, session))
      (hput : (sending command).request client = .ok put)
      (haccepted : ∃ body v, Accepted (gateway m.trace.requests put) body v)
      (hget : (asking command).request client = .ok get)
      (hconfirmed : Accepted (gateway (m.trace.requests ++ [put]) get) body v)
      (hevent : eventOf command v = .ok event) :
      Course gateway m command [put, get] (some event)

private theorem light_id (id : String) (v : Value) (light : Light)
    (hlight : Light.decode id v = .ok light) : light.id = id := by
  obtain ⟨ms, -, hstate⟩ := bind_eq_ok hlight
  obtain ⟨state, -, hdone⟩ := bind_eq_ok hstate
  cases hdone
  rfl

private theorem group_id (id : String) (v : Value) (group : Group)
    (hgroup : Group.decode id v = .ok group) : group.id = id := by
  obtain ⟨ms, -, hstate⟩ := bind_eq_ok hgroup
  obtain ⟨state, -, hdone⟩ := bind_eq_ok hstate
  cases hdone
  rfl

/-- What is read back is reported as inbound, under the id of the command. -/
theorem eventOf_report (command : Command) (v : Value) (event : Event)
    (hevent : eventOf command v = .ok event) :
    event.direction = .inbound ∧ event.id? = some command.id := by
  obtain ⟨target, id, change⟩ := command
  cases target with
  | light =>
    obtain ⟨light, hlight, rfl⟩ := map_eq_ok hevent
    rw [id?_ofLight, light_id id v light hlight]
    exact ⟨direction_ofLight light, rfl⟩
  | group =>
    obtain ⟨group, hgroup, rfl⟩ := map_eq_ok hevent
    rw [id?_ofGroup, group_id id v group hgroup]
    exact ⟨direction_ofGroup group, rfl⟩

section Exchanges

variable (gateway : Behaviour) (t : Trace) (client : Client) (command : Command)

private theorem outcome_sendCommand :
    Attempt.outcome gateway (sendCommand client command) t =
      let sent := exchange gateway t ((sending command).request client) (accept fun _ _ => .ok ())
      (sent.1.mapError Error.ofGateway, sent.2) := by
  obtain ⟨target, id, change⟩ := command
  cases target with
  | light => exact outcome_calling gateway t client (.setLight id change)
  | group => exact outcome_calling gateway t client (.setGroup id change)

private theorem outcome_readBack :
    Attempt.outcome gateway (readBack client command) t =
      let told := exchange gateway t ((asking command).request client)
        (accept fun _ v => eventOf command v)
      (told.1.mapError Error.ofGateway, told.2) := by
  have hmap : ∀ (call : Call) (f : call.Result → Event),
      Attempt.outcome gateway (f <$> calling (call.attempt client)) t =
        let told := exchange gateway t (call.request client)
          (accept fun body v => (call.decode body v).map f)
        (told.1.mapError Error.ofGateway, told.2) := by
    intro call f
    rw [Attempt.outcome_map, outcome_calling]
    unfold exchange Call.read
    cases call.request client with
    | error e => rfl
    | ok request =>
      dsimp only
      rw [← accept_map]
      cases accept call.decode (gateway t.requests request) with
      | error e => rfl
      | ok a => rfl
  obtain ⟨target, id, change⟩ := command
  cases target with
  | light => exact hmap (.light id) ofLight
  | group => exact hmap (.group id) ofGroup

private theorem outcome_executeCommand :
    Attempt.outcome gateway (executeCommand client command) t =
      match exchange gateway t ((sending command).request client) (accept fun _ _ => .ok ()) with
      | (.error e, t') => (.error (.ofGateway e), t')
      | (.ok _, t') =>
        let told := exchange gateway t' ((asking command).request client)
          (accept fun _ v => eventOf command v)
        (told.1.mapError Error.ofGateway, told.2) := by
  unfold executeCommand
  rw [Attempt.outcome_bind, outcome_sendCommand]
  cases exchange gateway t ((sending command).request client) (accept fun _ _ => .ok ()) with
  | mk result t' =>
    cases result with
    | error e => rfl
    | ok u => exact outcome_readBack gateway t' client command

end Exchanges

section Commands

variable (gateway : Behaviour) (m : Moment) (event : Event) (command : Command)

private theorem isOurs_of_command (hcommand : Command.ofEvent? event = some command) :
    isOurs event = true := by
  unfold Command.ofEvent? at hcommand
  split at hcommand
  · cases hcommand
  · rename_i hdirection
    cases htarget : Command.target? event.kind with
    | none =>
      rw [htarget] at hcommand
      cases hcommand
    | some target =>
      have hout : event.direction = .outbound := Decidable.not_not.mp hdirection
      simp [isOurs, hout, htarget]

theorem enact_command (hcommand : Command.ofEvent? event = some command) :
    enact gateway (handle (.event event)) m = (true, (enact gateway (execute command) m).2) := by
  rw [enact_handle]
  dsimp only
  rw [enact_handleEvent, isOurs_of_command event command hcommand, hcommand]
  rfl

/-- The course that a command takes and what it leaves behind. -/
theorem execute_course :
    ∃ requests published, Course gateway m command requests published ∧
      ∃ client?, (enact gateway (execute command) m).2 =
        { state :=
            { m.state with
              session := { m.state.session with client := client? }
              health := if published.isSome then m.state.health else .disconnected }
          trace := ⟨m.trace.requests ++ requests, m.trace.events ++ published.toList⟩ } := by
  rw [enact_execute]
  unfold askCommand
  rw [enact_withClient]
  cases hclient : m.state.session.connectClient with
  | error e =>
    refine ⟨[], none, .noClient e hclient, m.state.session.client, ?_⟩
    simp [Moment.withHealth]
  | ok found =>
    obtain ⟨client, session⟩ := found
    have hsession := session_of_connectClient _ _ _ hclient
    dsimp only
    rw [outcome_executeCommand]
    unfold exchange
    cases hput : (sending command).request client with
    | error e =>
      refine ⟨[], none, .noRequest client session e hclient hput, some client, ?_⟩
      simp [Moment.withHealth, hsession]
    | ok put =>
      dsimp only
      cases hsent : accept (fun _ _ => Except.ok ()) (gateway m.trace.requests put) with
      | error e =>
        refine ⟨[put], none, .refused client session put hclient hput ?_, some client, ?_⟩
        · intro body v haccepted
          have hok := (accept_eq_ok_iff (fun _ _ => .ok ()) _ ()).mpr ⟨body, v, haccepted, rfl⟩
          rw [hsent] at hok
          cases hok
        · simp [Moment.withHealth, hsession]
      | ok u =>
        have haccepted : ∃ body v, Accepted (gateway m.trace.requests put) body v := by
          obtain ⟨body, v, haccepted, -⟩ := (accept_eq_ok_iff _ _ u).mp hsent
          exact ⟨body, v, haccepted⟩
        obtain ⟨get, hget⟩ :=
          request_ok_of_ok client (sending command) (asking command) ⟨put, hput⟩
        rw [hget]
        dsimp only
        cases htold : accept (fun _ v => eventOf command v)
            (gateway (m.trace.requests ++ [put]) get) with
        | error e =>
          refine ⟨[put, get], none,
            .unconfirmed client session put get hclient hput haccepted hget ?_, some client, ?_⟩
          · intro body v event hconfirmed hevent
            have hok := (accept_eq_ok_iff (fun _ v => eventOf command v) _ event).mpr
              ⟨body, v, hconfirmed, hevent⟩
            rw [htold] at hok
            cases hok
          · simp [Moment.withHealth, hsession]
        | ok event =>
          obtain ⟨body, v, hconfirmed, hevent⟩ := (accept_eq_ok_iff _ _ event).mp htold
          refine ⟨[put, get], some event, .confirmed client session put get body v event hclient
            hput haccepted hget hconfirmed hevent, some client, ?_⟩
          simp [Moment.publish, hsession]

/-- A command is carried out once, and its message always counts as consumed. The bridge sends the
change and asks for the device if the change was accepted; it publishes what it is told, and its
health becomes bad when it is told nothing. Of the session at most the client changes. -/
theorem handle_command (hcommand : Command.ofEvent? event = some command) :
    ∃ requests published, Course gateway m command requests published ∧
      (∀ report, published = some report →
        report.direction = .inbound ∧ report.id? = some command.id) ∧
      ∃ client?, enact gateway (handle (.event event)) m =
        (true,
          { state :=
              { m.state with
                session := { m.state.session with client := client? }
                health := if published.isSome then m.state.health else .disconnected }
            trace := ⟨m.trace.requests ++ requests, m.trace.events ++ published.toList⟩ }) := by
  obtain ⟨requests, published, hcourse, client?, hafter⟩ := execute_course gateway m command
  refine ⟨requests, published, hcourse, ?_, client?, ?_⟩
  · intro report hreport
    subst hreport
    cases hcourse with
    | confirmed _ _ _ _ _ v _ _ _ _ _ _ hevent => exact eventOf_report command v report hevent
  · rw [enact_command gateway m event command hcommand, hafter]

def sampleEvent : Event := (Event.outbound .light "1").set Attribute.command (.text "Off")

def sampleCommand : Command := ⟨.light, "1", .off⟩

def sampleMoment : Moment :=
  let s := State.start ⟨"gw", "T", "", 5, 1000, 0, false, none, .abort, false⟩
  { state := { s with session := { s.session with client := some sampleClient } }
    trace := .empty }

def obliging : Behaviour := fun _ request =>
  match request.method with
  | .put => .response 200 (some "[]")
  | .get => .response 200 (some "\x7b\"name\":\"Lamp\",\"state\":\x7b\"on\":false\x7d\x7d")

theorem handle_command_off :
    Command.ofEvent? sampleEvent = some sampleCommand ∧
      ∃ requests published, Course obliging sampleMoment sampleCommand requests published ∧
        (∀ report, published = some report →
          report.direction = .inbound ∧ report.id? = some "1") ∧
        ∃ client?, enact obliging (handle (.event sampleEvent)) sampleMoment =
          (true,
            { state :=
                { sampleMoment.state with
                  session := { sampleMoment.state.session with client := client? }
                  health :=
                    if published.isSome then sampleMoment.state.health else .disconnected }
              trace := ⟨requests, published.toList⟩ }) :=
  ⟨rfl, handle_command obliging sampleMoment sampleEvent sampleCommand rfl⟩

example : (enact obliging (handle (.event sampleEvent)) sampleMoment).2.trace.requests.map
    Request.text = ["PUT http://gw/api/T/lights/1/state \x7b\"on\":false\x7d",
      "GET http://gw/api/T/lights/1"] := by
  rfl

end Commands

end ZigbeeBridge.Bridge
