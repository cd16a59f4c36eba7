import ZigbeeBridge.Proofs.Bridge.Moment
import ZigbeeBridge.Proofs.Gateway.Call

/-!
Each operation of a bridge as a function of the moment at which it is carried out.
-/
namespace ZigbeeBridge.Bridge

open Bus Dialogue Gateway

namespace Moment

/-- The moment with another session. -/
def withSession (m : Moment) (session : Session) : Moment :=
  { m with state := { m.state with session } }

/-- The moment with another health. -/
def withHealth (m : Moment) (health : Health) : Moment :=
  { m with state := { m.state with health } }

/-- The moment at which an event has been published. -/
def publish (m : Moment) (event : Event) : Moment :=
  { m with trace := { m.trace with events := m.trace.events ++ [event] } }

/-- The moment at which the push connection is gone. -/
def closePush (m : Moment) : Moment :=
  if m.state.push.isSome then
    { m with state := { m.state with push := none, health := .disconnected } }
  else m

variable (m : Moment)

@[simp] theorem health_withSession (session : Session) :
    (m.withSession session).state.health = m.state.health := rfl

@[simp] theorem session_withSession (session : Session) :
    (m.withSession session).state.session = session := rfl

@[simp] theorem health_withHealth (health : Health) :
    (m.withHealth health).state.health = health := rfl

@[simp] theorem health_publish (event : Event) :
    (m.publish event).state.health = m.state.health := rfl

theorem push_closePush : m.closePush.state.push = none := by
  unfold closePush
  split
  · rfl
  · rename_i hnone
    exact Option.not_isSome_iff_eq_none.mp hnone

theorem shutDown_closePush : m.closePush.state.shutDown = m.state.shutDown := by
  unfold closePush
  split
  · rfl
  · rfl

theorem settings_closePush : m.closePush.state.settings = m.state.settings := by
  unfold closePush
  split
  · rfl
  · rfl

theorem session_closePush : m.closePush.state.session = m.state.session := by
  unfold closePush
  split
  · rfl
  · rfl

/-- What happens to the push connection is no event. -/
theorem trace_closePush : m.closePush.trace = m.trace := by
  unfold closePush
  split
  · rfl
  · rfl

end Moment

/-- A call as a part of an operation is the same exchange; its error becomes one of the bridge. -/
theorem outcome_calling (gateway : Behaviour) (t : Trace) (client : Client) (call : Call) :
    Attempt.outcome gateway (calling (call.attempt client)) t =
      let result := exchange gateway t (call.request client) call.read
      (result.1.mapError Error.ofGateway, result.2) := by
  unfold calling
  rw [Attempt.outcome_adapt, outcome_attempt]

/-- A session that gave its client keeps it, and everything else. -/
theorem session_of_connectClient (s s' : Session) (client : Client)
    (hclient : s.connectClient = .ok (client, s')) : s' = { s with client := some client } := by
  unfold Session.connectClient at hclient
  split at hclient
  · rename_i kept hkept
    cases hclient
    rw [← hkept]
  · cases hbase : baseUrl s.address with
    | error e =>
      rw [hbase] at hclient
      cases hclient
    | ok base =>
      rw [hbase] at hclient
      cases hclient
      rfl

namespace Operation

variable {α : Type} (gateway : Behaviour) (m : Moment)

/-- What a probe asks. -/
def askAbout : Operation (Except Error About) := withClient fun client => calling client.getAbout

/-- What a command asks. -/
def askCommand (command : Command) : Operation (Except Error Event) :=
  withClient fun client => executeCommand client command

/-- What the report of one light asks, and publishes. -/
def askLight (id : String) : Operation (Except Error Unit) :=
  withClient fun client => reportLight client id

/-! Health and the push connection. -/

private def settleProbe : Except Error About → Operation Health
  | .ok about => do
    modify fun s => { s with session := { s.session with about := some about } }
    setHealth .connected
    pure (← get).health
  | .error _ => do
    setHealth .disconnected
    pure (← get).health

theorem enact_probe :
    enact gateway probe m =
      match enact gateway askAbout m with
      | (.ok about, m') =>
        (.connected,
          (m'.withSession { m'.state.session with about := some about }).withHealth .connected)
      | (.error _, m') => (.disconnected, m'.withHealth .disconnected) := by
  have hprobe : probe = askAbout >>= settleProbe := rfl
  rw [hprobe, enact_bind]
  cases enact gateway askAbout m with
  | mk result m' =>
    cases result with
    | ok about => rfl
    | error e => rfl

@[simp] theorem enact_pushEnded : enact gateway pushEnded m = ((), m.closePush) := by
  unfold Moment.closePush
  split
  · rename_i hpush
    simp [pushEnded, hpush]
  · rename_i hpush
    simp [pushEnded, hpush]

theorem enact_pushReceived (text : String) :
    enact gateway (pushReceived text) m =
      ((), match m.state.push, Push.parse text with
        | some _, .ok message => m.publish (Push.flatten message)
        | _, _ => m) := by
  unfold pushReceived
  rw [enact_get_bind]
  cases m.state.push with
  | none => rfl
  | some url =>
    cases Push.parse text with
    | ok message => rfl
    | error e => rfl

theorem enact_startPush :
    enact gateway startPush m =
      ((), if m.state.settings.pushEnabled then
        match m.state.session.pushTarget m.state.settings with
        | .ok url =>
          let opened : Moment := { m with state := { m.state with push := some url } }
          if m.state.shutDown then opened.closePush else opened
        | .error _ => m
      else m) := by
  unfold startPush
  rw [enact_get_bind]
  split
  · cases m.state.session.pushTarget m.state.settings with
    | ok url =>
      dsimp only
      rw [enact_bind, enact_set]
      split
      · rw [enact_pushEnded]
      · rfl
    | error e => rfl
  · rfl

theorem enact_connect :
    enact gateway connect m =
      let probed := enact gateway probe (m.closePush.withHealth .connecting)
      (probed.1, (enact gateway startPush probed.2).2) := by
  unfold connect
  simp only [enact_bind, enact_pure, enact_pushEnded, enact_setHealth]
  rfl

theorem enact_disconnect :
    enact gateway disconnect m = ((), m.closePush.withHealth .disconnected) := by
  unfold disconnect
  simp only [enact_bind, enact_pushEnded, enact_setHealth]
  rfl

theorem enact_shutDown :
    enact gateway shutDown m =
      let stopped := m.closePush.withHealth .disconnected
      ((), { stopped with state := { stopped.state with queue := [], shutDown := true } }) := by
  unfold shutDown
  rw [enact_bind, enact_disconnect, enact_modify]

/-! What the bus asks for. -/

/-- A failure shows in the health. -/
theorem enact_heed (ask : Operation (Except Error α)) :
    enact gateway (ask >>= heed) m =
      match enact gateway ask m with
      | (.ok a, m') => (.ok a, m')
      | (.error e, m') => (.error e, m'.withHealth .disconnected) := by
  rw [enact_bind]
  cases enact gateway ask m with
  | mk result m' =>
    cases result with
    | ok a => rfl
    | error e => rfl

private def announce : Except Error Event → Operation Unit
  | .ok event => liftM (publishing event)
  | .error _ => pure ()

/-- What comes of a command is published, unless it is an error. -/
theorem enact_execute (command : Command) :
    enact gateway (execute command) m =
      match enact gateway (askCommand command) m with
      | (.ok event, m') => ((), m'.publish event)
      | (.error _, m') => ((), m'.withHealth .disconnected) := by
  have hexecute : execute command = askCommand command >>= fun result =>
      heed result >>= announce := rfl
  rw [hexecute, enact_bind, enact_bind, ← enact_bind gateway m, enact_heed]
  cases enact gateway (askCommand command) m with
  | mk result m' =>
    cases result with
    | ok event => rfl
    | error e => rfl

theorem enact_reportAll (sensors : Bool) :
    enact gateway (reportAll sensors) m =
      match enact gateway (refresh sensors) m with
      | (.ok report, m') => (.ok report, m')
      | (.error e, m') => (.error e, m'.withHealth .disconnected) := by
  unfold reportAll
  rw [enact_heed]
  cases enact gateway (refresh sensors) m with
  | mk result m' =>
    cases result with
    | ok report => rfl
    | error e => rfl

theorem enact_refresh (sensors : Bool) :
    enact gateway (refresh sensors) m =
      enact gateway (withClient fun client => refreshAll client
        ⟨sensors, m.state.settings.spacingMs, m.state.settings.itemFailure⟩) m := by
  unfold refresh
  rw [enact_get_bind]

theorem enact_reportOne (id : String) :
    enact gateway (reportOne id) m =
      match enact gateway (askLight id) m with
      | (.ok _, m') => ((), m')
      | (.error _, m') => ((), m'.withHealth .disconnected) := by
  have hone : reportOne id = askLight id >>= fun result =>
      heed result >>= fun _ => pure () := rfl
  rw [hone, enact_bind, enact_bind, enact_pure, ← enact_bind gateway m, enact_heed]
  cases enact gateway (askLight id) m with
  | mk result m' =>
    cases result with
    | ok a => rfl
    | error e => rfl

theorem enact_handleEvent (event : Event) :
    enact gateway (handleEvent event) m =
      if !isOurs event then (false, m)
      else match Command.ofEvent? event with
        | some command => (true, (enact gateway (execute command) m).2)
        | none => (true, m) := by
  unfold handleEvent
  split
  · rfl
  · cases Command.ofEvent? event with
    | some command => simp only [enact_bind, enact_pure]
    | none => rfl

private def refreshIf (health : Health) : Operation Bool :=
  if health = .connected then reportAll false >>= fun _ => pure true else pure true

private def duty : Operation Bool := do
  if (← get).health = .connected then refreshIf .connected else probe >>= refreshIf

/-- A heartbeat that is due probes first where the health is not good. -/
theorem enact_heartbeat :
    enact gateway heartbeat m =
      match m.state.session.tick with
      | (false, session) => (false, m.withSession session)
      | (true, session) =>
        if m.state.health = .connected then
          (true, (enact gateway (reportAll false) (m.withSession session)).2)
        else
          match enact gateway probe (m.withSession session) with
          | (.connected, m') => (true, (enact gateway (reportAll false) m').2)
          | (_, m') => (true, m') := by
  unfold heartbeat
  rw [enact_get_bind]
  cases m.state.session.tick with
  | mk due session =>
    cases due with
    | false => rfl
    | true =>
      change enact gateway duty (m.withSession session) = _
      unfold duty
      rw [enact_get_bind]
      change enact gateway (if m.state.health = .connected then _ else _) _ = _
      dsimp only
      split
      · unfold refreshIf
        simp only [reduceIte, enact_bind, enact_pure]
      · rw [enact_bind]
        unfold refreshIf
        cases enact gateway probe (m.withSession session) with
        | mk health m' =>
          cases health with
          | connected => simp only [reduceIte, enact_bind, enact_pure]
          | connecting => rfl
          | disconnected => rfl

theorem enact_discovered (model serial location : String) :
    enact gateway (discovered model serial location) m =
      if !modelStart.isPrefixOf model.toList ∨ m.state.session.identity = "" ∨
          m.state.session.identity ≠ serial then (false, m)
      else (true, m.withSession (m.state.session.setAddress (reduceLocation location))) := by
  unfold discovered
  rw [enact_get_bind]
  dsimp only
  split
  · rfl
  · rfl

theorem enact_handle (message : Message) :
    enact gateway (handle message) m =
      match message with
      | .event event => enact gateway (handleEvent event) m
      | .reportItems => (true, (enact gateway (reportAll true) m).2)
      | .heartbeat => enact gateway heartbeat m
      | .reportLight id => (true, (enact gateway (reportOne id) m).2)
      | .discovered model serial location =>
        enact gateway (discovered model serial location) m := by
  cases message with
  | event event => rfl
  | reportItems =>
    unfold handle
    rw [enact_bind, enact_pure]
  | heartbeat => rfl
  | reportLight id =>
    unfold handle
    rw [enact_bind, enact_pure]
  | discovered model serial location => rfl

theorem enact_setAddress (address : String) :
    enact gateway (setAddress address) m =
      ((), m.withSession (m.state.session.setAddress address)) := rfl

theorem enact_setRefreshInterval (interval : UInt32) :
    enact gateway (setRefreshInterval interval) m =
      ((), m.withSession (m.state.session.setInterval interval)) := rfl

theorem enact_submit (message : Message) :
    enact gateway (submit message) m =
      if m.state.shutDown then (.error .shutDown, m)
      else (.ok (), { m with state := { m.state with queue := m.state.queue ++ [message] } }) := by
  unfold submit
  rw [enact_get_bind]
  split
  · rfl
  · rfl

theorem enact_handleAll_cons (message : Message) (rest : List Message) :
    enact gateway (handleAll (message :: rest)) m =
      enact gateway (handleAll rest) (enact gateway (handle message) m).2 :=
  enact_bind gateway m (handle message) fun _ => handleAll rest

theorem enact_dispatch :
    enact gateway dispatch m =
      enact gateway (handleAll m.state.queue) { m with state := { m.state with queue := [] } } := by
  unfold dispatch
  rw [enact_get_bind, enact_bind, enact_modify]

end Operation

end ZigbeeBridge.Bridge
