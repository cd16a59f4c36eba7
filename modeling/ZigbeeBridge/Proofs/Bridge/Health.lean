import ZigbeeBridge.Proofs.Bridge.Act
import ZigbeeBridge.Proofs.Bridge.Operation

/-!
The health of a bridge tells how the last thing went that bears on it. A successful probe, and
nothing else, makes it good; it lasts until something fails, the bridge is stopped or the push
connection ends.
-/
namespace ZigbeeBridge.Bridge

open Bus Dialogue Gateway

/-- What the health of a bridge depends on, with whether it went well. -/
inductive Happening where
  | probed (well : Bool)
  | commanded (well : Bool)
  | lightReported (well : Bool)
  | refreshed (well : Bool)
  | pushClosed
  | stopped
  deriving DecidableEq, Repr

namespace Happening

def isRecovery : Happening → Bool
  | probed well => well
  | _ => false

/-- Whatever failed, and every end of the push connection or of the bridge's own work. -/
def isSetback : Happening → Bool
  | probed well | commanded well | lightReported well | refreshed well => !well
  | pushClosed | stopped => true

end Happening

def Health.after (health : Health) (happening : Happening) : Health :=
  if happening.isRecovery then .connected
  else if happening.isSetback then .disconnected
  else health

def Health.throughout (health : Health) (log : List Happening) : Health := log.foldl .after health

section Logs

variable (health : Health)

@[simp] theorem Health.throughout_nil : health.throughout [] = health := rfl

@[simp] theorem Health.throughout_cons (h : Happening) (log : List Happening) :
    health.throughout (h :: log) = (health.after h).throughout log := rfl

@[simp] theorem Health.throughout_append (log log' : List Happening) :
    health.throughout (log ++ log') = (health.throughout log).throughout log' :=
  List.foldl_append

theorem Health.after_probed (well : Bool) :
    health.after (.probed well) = if well then .connected else .disconnected := by
  cases well <;> rfl

/-- Apart from a probe, what goes well leaves the health alone. -/
theorem Health.after_of_no_recovery (happening : Happening) (well : Bool)
    (hrecovery : happening.isRecovery = false) (hsetback : happening.isSetback = !well) :
    health.after happening = if well then health else .disconnected := by
  unfold after
  rw [hrecovery, hsetback]
  cases well <;> rfl

theorem Health.throughout_eq_connected_of_none (log : List Happening)
    (hnone : ∀ h ∈ log, h.isRecovery = false) :
    health.throughout log = .connected ↔
      health = .connected ∧ ∀ h ∈ log, h.isSetback = false := by
  induction log generalizing health with
  | nil => simp
  | cons first log ih =>
    have hfirst : first.isRecovery = false := hnone first List.mem_cons_self
    rw [throughout_cons, ih _ fun h hmem => hnone h (List.mem_cons_of_mem _ hmem)]
    cases hback : first.isSetback with
    | true => simp [after, hfirst, hback]
    | false => simp [after, hfirst, hback]

theorem Health.throughout_ne_connecting (log : List Happening) (hstart : health ≠ .connecting) :
    health.throughout log ≠ .connecting := by
  induction log generalizing health with
  | nil => exact hstart
  | cons first log ih =>
    rw [throughout_cons]
    apply ih
    unfold after
    split
    · decide
    · split
      · decide
      · exact hstart

/-- The last recovery of a log, if there is one, splits it. -/
theorem exists_last_recovery (log : List Happening) :
    (∀ h ∈ log, h.isRecovery = false) ∨
      ∃ before after, log = before ++ .probed true :: after ∧
        ∀ h ∈ after, h.isRecovery = false := by
  induction log with
  | nil => exact Or.inl (by simp)
  | cons first log ih =>
    rcases ih with hnone | ⟨before, after, rfl, hafter⟩
    · cases first with
      | probed well =>
        cases well with
        | true => exact Or.inr ⟨[], log, rfl, hnone⟩
        | false => exact Or.inl (by simpa [Happening.isRecovery] using hnone)
      | commanded | lightReported | refreshed | pushClosed | stopped =>
        exact Or.inl (by simpa [Happening.isRecovery] using hnone)
    · exact Or.inr ⟨first :: before, after, rfl, hafter⟩

/-- From a bad start, the health is good when nothing set it back after the last recovery. -/
theorem Health.throughout_eq_connected_iff (log : List Happening) :
    Health.disconnected.throughout log = .connected ↔
      ∃ before after, log = before ++ .probed true :: after ∧
        ∀ h ∈ after, h.isRecovery = false ∧ h.isSetback = false := by
  constructor
  · intro hgood
    rcases exists_last_recovery log with hnone | ⟨before, after, rfl, hafter⟩
    · rw [throughout_eq_connected_of_none _ log hnone] at hgood
      simp at hgood
    · refine ⟨before, after, rfl, fun h hmem => ⟨hafter h hmem, ?_⟩⟩
      rw [throughout_append, throughout_cons,
        throughout_eq_connected_of_none _ after hafter] at hgood
      exact hgood.2 h hmem
  · rintro ⟨before, after, rfl, hafter⟩
    rw [throughout_append, throughout_cons,
      throughout_eq_connected_of_none _ after fun h hmem => (hafter h hmem).1]
    exact ⟨rfl, fun h hmem => (hafter h hmem).2⟩

end Logs

open Operation

namespace Happening

variable {α : Type} (gateway : Behaviour) (m : Moment)

/-- Whether the operation comes to a result at this moment, and not to an error. -/
def succeeds (operation : Operation (Except Error α)) : Bool :=
  (operation.enact gateway m).1.isOk

def ofProbe : Happening := .probed (succeeds gateway m askAbout)

def ofCommand (command : Command) : Happening :=
  .commanded (succeeds gateway m (askCommand command))

def ofLight (id : String) : Happening := .lightReported (succeeds gateway m (askLight id))

def ofRefresh (sensors : Bool) : Happening := .refreshed (succeeds gateway m (refresh sensors))

/-- A push connection that is there ends. -/
def ofClosing : List Happening := if m.state.push.isSome then [.pushClosed] else []

/-- A push connection that is opened after the shutdown ends at once. -/
def ofOpening : List Happening :=
  if m.state.settings.pushEnabled && m.state.shutDown &&
    (m.state.session.pushTarget m.state.settings).isOk then [.pushClosed] else []

/-- The push connection of before ends first, the probe comes next. -/
def ofConnect : List Happening :=
  let cleared := m.closePush.withHealth .connecting
  ofClosing m ++ ofProbe gateway cleared :: ofOpening (enact gateway Operation.probe cleared).2

def ofDisconnect : List Happening := ofClosing m ++ [.stopped]

/-- A heartbeat that is due probes first where the health is not good. -/
def ofHeartbeat : List Happening :=
  match m.state.session.tick with
  | (false, _) => []
  | (true, session) =>
    let counted := m.withSession session
    if m.state.health = .connected then [ofRefresh gateway counted false]
    else if succeeds gateway counted askAbout then
      [ofProbe gateway counted, ofRefresh gateway (enact gateway Operation.probe counted).2 false]
    else [ofProbe gateway counted]

def ofEvent (event : Event) : List Happening :=
  if !isOurs event then []
  else match Command.ofEvent? event with
    | some command => [ofCommand gateway m command]
    | none => []

def ofMessage : Message → List Happening
  | .event event => ofEvent gateway m event
  | .reportItems => [ofRefresh gateway m true]
  | .heartbeat => ofHeartbeat gateway m
  | .reportLight id => [ofLight gateway m id]
  | .discovered _ _ _ => []

def ofMessages (gateway : Behaviour) : Moment → List Message → List Happening
  | _, [] => []
  | m, message :: rest =>
    ofMessage gateway m message ++ ofMessages gateway (enact gateway (handle message) m).2 rest

def ofAct : Act → List Happening
  | .connect | .reconnect => ofConnect gateway m
  | .probe => [ofProbe gateway m]
  | .disconnect | .shutDown => ofDisconnect m
  | .handle message => ofMessage gateway m message
  | .execute command => [ofCommand gateway m command]
  | .reportAll sensors => [ofRefresh gateway m sensors]
  | .pushEnded => ofClosing m
  | .dispatch =>
    ofMessages gateway { m with state := { m.state with queue := [] } } m.state.queue
  | .setAddress _ | .setRefreshInterval _ | .pushReceived _ | .submit _ => []

def log (gateway : Behaviour) : Moment → List Act → List Happening
  | _, [] => []
  | m, act :: acts => ofAct gateway m act ++ log gateway (act.step gateway m) acts

end Happening

section Operations

variable {α : Type} (gateway : Behaviour) (m : Moment)

/-- Asking the gateway something leaves the health alone. -/
theorem health_withClient (attempt : Client → Attempt Error α) :
    (enact gateway (withClient attempt) m).2.state.health = m.state.health := by
  obtain ⟨session, hstate⟩ := state_withClient gateway m attempt
  rw [hstate]

theorem health_refresh (sensors : Bool) :
    (enact gateway (refresh sensors) m).2.state.health = m.state.health := by
  rw [enact_refresh]
  exact health_withClient gateway m _

theorem health_probe :
    (enact gateway probe m).2.state.health =
      m.state.health.after (Happening.ofProbe gateway m) := by
  rw [enact_probe]
  unfold Happening.ofProbe Happening.succeeds
  cases enact gateway askAbout m with
  | mk result m' =>
    cases result with
    | ok about => rfl
    | error e => rfl

theorem health_closePush :
    m.closePush.state.health = m.state.health.throughout (Happening.ofClosing m) := by
  unfold Moment.closePush Happening.ofClosing
  split
  · rfl
  · rfl

theorem health_startPush :
    (enact gateway startPush m).2.state.health =
      m.state.health.throughout (Happening.ofOpening m) := by
  rw [enact_startPush]
  unfold Happening.ofOpening
  cases m.state.settings.pushEnabled with
  | false => rfl
  | true =>
    cases m.state.session.pushTarget m.state.settings with
    | error e =>
      cases m.state.shutDown <;> rfl
    | ok url =>
      cases hdown : m.state.shutDown with
      | false => rfl
      | true => rfl

theorem health_connect :
    (enact gateway connect m).2.state.health =
      m.state.health.throughout (Happening.ofConnect gateway m) := by
  rw [enact_connect]
  dsimp only
  rw [health_startPush, health_probe]
  unfold Happening.ofConnect Happening.ofProbe
  dsimp only
  rw [Health.throughout_append, Health.throughout_cons, Health.after_probed, Health.after_probed]

theorem health_disconnect :
    (enact gateway disconnect m).2.state.health =
      m.state.health.throughout (Happening.ofDisconnect m) := by
  rw [enact_disconnect]
  unfold Happening.ofDisconnect
  rw [Health.throughout_append]
  rfl

theorem health_execute (command : Command) :
    (enact gateway (execute command) m).2.state.health =
      m.state.health.after (Happening.ofCommand gateway m command) := by
  have hkept := health_withClient gateway m fun client => executeCommand client command
  rw [enact_execute]
  unfold Happening.ofCommand Happening.succeeds
  rw [Health.after_of_no_recovery _ _ _ rfl rfl, ← hkept]
  change _ = if (enact gateway (askCommand command) m).1.isOk then
    (enact gateway (askCommand command) m).2.state.health else _
  cases enact gateway (askCommand command) m with
  | mk result m' =>
    cases result with
    | ok event => rfl
    | error e => rfl

theorem health_reportAll (sensors : Bool) :
    (enact gateway (reportAll sensors) m).2.state.health =
      m.state.health.after (Happening.ofRefresh gateway m sensors) := by
  rw [enact_reportAll]
  unfold Happening.ofRefresh Happening.succeeds
  rw [Health.after_of_no_recovery _ _ _ rfl rfl, ← health_refresh gateway m sensors]
  cases enact gateway (refresh sensors) m with
  | mk result m' =>
    cases result with
    | ok report => rfl
    | error e => rfl

theorem health_reportOne (id : String) :
    (enact gateway (reportOne id) m).2.state.health =
      m.state.health.after (Happening.ofLight gateway m id) := by
  have hkept := health_withClient gateway m fun client => reportLight client id
  rw [enact_reportOne]
  unfold Happening.ofLight Happening.succeeds
  rw [Health.after_of_no_recovery _ _ _ rfl rfl, ← hkept]
  change _ = if (enact gateway (askLight id) m).1.isOk then
    (enact gateway (askLight id) m).2.state.health else _
  cases enact gateway (askLight id) m with
  | mk result m' =>
    cases result with
    | ok u => rfl
    | error e => rfl

theorem health_heartbeat :
    (enact gateway heartbeat m).2.state.health =
      m.state.health.throughout (Happening.ofHeartbeat gateway m) := by
  rw [enact_heartbeat]
  unfold Happening.ofHeartbeat
  cases m.state.session.tick with
  | mk due session =>
    cases due with
    | false => rfl
    | true =>
      dsimp only
      split
      · exact health_reportAll gateway (m.withSession session) false
      · have hprobe := health_probe gateway (m.withSession session)
        rw [enact_probe] at hprobe ⊢
        unfold Happening.ofProbe Happening.succeeds at hprobe ⊢
        cases enact gateway askAbout (m.withSession session) with
        | mk result m' =>
          cases result with
          | ok about => exact health_reportAll gateway _ false
          | error e => rfl

theorem health_handleEvent (event : Event) :
    (enact gateway (handleEvent event) m).2.state.health =
      m.state.health.throughout (Happening.ofEvent gateway m event) := by
  rw [enact_handleEvent]
  unfold Happening.ofEvent
  split
  · rfl
  · cases Command.ofEvent? event with
    | none => rfl
    | some command => exact health_execute gateway m command

theorem health_discovered (model serial location : String) :
    (enact gateway (discovered model serial location) m).2.state.health = m.state.health := by
  rw [enact_discovered]
  split
  · rfl
  · exact Moment.health_withSession m _

theorem health_handle (message : Message) :
    (enact gateway (handle message) m).2.state.health =
      m.state.health.throughout (Happening.ofMessage gateway m message) := by
  rw [enact_handle]
  cases message with
  | event event => exact health_handleEvent gateway m event
  | reportItems => exact health_reportAll gateway m true
  | heartbeat => exact health_heartbeat gateway m
  | reportLight id => exact health_reportOne gateway m id
  | discovered model serial location => exact health_discovered gateway m model serial location

theorem health_handleAll (messages : List Message) :
    (enact gateway (handleAll messages) m).2.state.health =
      m.state.health.throughout (Happening.ofMessages gateway m messages) := by
  induction messages generalizing m with
  | nil => rfl
  | cons message rest ih =>
    unfold Happening.ofMessages
    rw [enact_handleAll_cons, ih, health_handle, Health.throughout_append]

theorem health_pushReceived (text : String) :
    (enact gateway (pushReceived text) m).2.state.health = m.state.health := by
  rw [enact_pushReceived]
  dsimp only
  split
  · rfl
  · rfl

theorem health_submit (message : Message) :
    (enact gateway (submit message) m).2.state.health = m.state.health := by
  rw [enact_submit]
  split
  · rfl
  · rfl

theorem health_step (act : Act) :
    (act.step gateway m).state.health =
      m.state.health.throughout (Happening.ofAct gateway m act) := by
  unfold Act.step Act.operation
  cases act with
  | connect | reconnect =>
    rw [enact_map]
    exact health_connect gateway m
  | probe =>
    rw [enact_map]
    exact health_probe gateway m
  | disconnect =>
    rw [enact_map]
    exact health_disconnect gateway m
  | shutDown =>
    rw [enact_map, enact_shutDown]
    have hdown := health_disconnect gateway m
    rwa [enact_disconnect] at hdown
  | handle message =>
    rw [enact_map]
    exact health_handle gateway m message
  | execute command =>
    rw [enact_map]
    exact health_execute gateway m command
  | reportAll sensors =>
    rw [enact_map]
    exact health_reportAll gateway m sensors
  | setAddress address =>
    rw [enact_map, enact_setAddress]
    exact Moment.health_withSession m _
  | setRefreshInterval interval =>
    rw [enact_map, enact_setRefreshInterval]
    exact Moment.health_withSession m _
  | pushReceived text =>
    rw [enact_map]
    exact health_pushReceived gateway m text
  | pushEnded =>
    rw [enact_map, enact_pushEnded]
    exact health_closePush m
  | submit message =>
    rw [enact_map]
    exact health_submit gateway m message
  | dispatch =>
    rw [enact_map, enact_dispatch]
    exact health_handleAll gateway _ _

theorem health_run (acts : List Act) :
    (m.run gateway acts).state.health =
      m.state.health.throughout (Happening.log gateway m acts) := by
  induction acts generalizing m with
  | nil => rfl
  | cons act acts ih =>
    unfold Happening.log
    rw [Moment.run_cons, ih, health_step, Health.throughout_append]

/-- Whether a probe can be part of the act. -/
def Act.mayProbe : Act → Bool
  | .connect | .reconnect | .probe | .dispatch | .handle .heartbeat => true
  | _ => false

private theorem no_recovery_of_ofEvent (event : Event) :
    ∀ h ∈ Happening.ofEvent gateway m event, h.isRecovery = false := by
  unfold Happening.ofEvent
  split
  · simp
  · cases Command.ofEvent? event with
    | none => simp
    | some command => simp [Happening.ofCommand, Happening.isRecovery]

private theorem no_recovery_of_ofClosing :
    ∀ h ∈ Happening.ofClosing m, h.isRecovery = false := by
  unfold Happening.ofClosing
  split
  · simp [Happening.isRecovery]
  · simp

private theorem no_recovery_of_ofMessage (message : Message) (hbeat : message ≠ .heartbeat) :
    ∀ h ∈ Happening.ofMessage gateway m message, h.isRecovery = false := by
  cases message with
  | event event => exact no_recovery_of_ofEvent gateway m event
  | reportItems => simp [Happening.ofMessage, Happening.ofRefresh, Happening.isRecovery]
  | heartbeat => exact absurd rfl hbeat
  | reportLight id => simp [Happening.ofMessage, Happening.ofLight, Happening.isRecovery]
  | discovered model serial location => simp [Happening.ofMessage]

/-- What does not probe does not make the health good. -/
theorem connected_before_step (act : Act) (hprobe : act.mayProbe = false)
    (hgood : (act.step gateway m).state.health = .connected) : m.state.health = .connected := by
  have hnone : ∀ h ∈ Happening.ofAct gateway m act, h.isRecovery = false := by
    cases act with
    | connect | reconnect | probe | dispatch => cases hprobe
    | handle message =>
      apply no_recovery_of_ofMessage
      rintro rfl
      cases hprobe
    | disconnect | shutDown =>
      intro h hmem
      rcases List.mem_append.mp hmem with hclosing | hstopped
      · exact no_recovery_of_ofClosing m h hclosing
      · rw [List.mem_singleton.mp hstopped]
        rfl
    | pushEnded => exact no_recovery_of_ofClosing m
    | execute command => simp [Happening.ofAct, Happening.ofCommand, Happening.isRecovery]
    | reportAll sensors => simp [Happening.ofAct, Happening.ofRefresh, Happening.isRecovery]
    | setAddress | setRefreshInterval | pushReceived | submit => simp [Happening.ofAct]
  rw [health_step, Health.throughout_eq_connected_of_none _ _ hnone] at hgood
  exact hgood.1

theorem shutDown_probe :
    (enact gateway probe m).2.state.shutDown = m.state.shutDown := by
  obtain ⟨session, hstate⟩ := state_withClient gateway m fun client => calling client.getAbout
  have hkept : (enact gateway askAbout m).2.state.shutDown = m.state.shutDown := by
    unfold askAbout
    rw [hstate]
  rw [enact_probe, ← hkept]
  cases enact gateway askAbout m with
  | mk result m' =>
    cases result with
    | ok about => rfl
    | error e => rfl

/-- Before a shutdown, the health after a connect is that of its own probe: the end of the push
connection of before comes first. -/
theorem health_connect_of_running (hrunning : m.state.shutDown = false) :
    (enact gateway connect m).2.state.health = .connected ↔
      Happening.succeeds gateway (m.closePush.withHealth .connecting) askAbout = true := by
  have hcleared : (m.closePush.withHealth .connecting).state.shutDown = false := by
    unfold Moment.closePush Moment.withHealth
    split
    · exact hrunning
    · exact hrunning
  have hopening : Happening.ofOpening
      (enact gateway probe (m.closePush.withHealth .connecting)).2 = [] := by
    unfold Happening.ofOpening
    rw [shutDown_probe, hcleared, Bool.and_false, Bool.false_and]
    rfl
  rw [health_connect]
  unfold Happening.ofConnect
  dsimp only
  rw [hopening, Health.throughout_append, Health.throughout_cons]
  unfold Happening.ofProbe
  rw [Health.after_probed, Health.throughout_nil]
  cases Happening.succeeds gateway (m.closePush.withHealth .connecting) askAbout with
  | true => simp
  | false => simp

/-- After any run of a new bridge the health is good exactly when some probe went well and since
the last such probe nothing failed, nothing was stopped and no push connection ended. Otherwise it
is bad, and never in between. Only a probe makes it good, and a connect leaves it as its own probe
found it. -/
theorem health_reached (settings : Settings) (acts : List Act) :
    ((Moment.reached gateway settings acts).state.health = .connected ↔
        ∃ before after,
          Happening.log gateway (.start settings) acts = before ++ .probed true :: after ∧
            ∀ h ∈ after, h.isRecovery = false ∧ h.isSetback = false) ∧
      ((Moment.reached gateway settings acts).state.health ≠ .connected →
        (Moment.reached gateway settings acts).state.health = .disconnected) ∧
      (∀ act : Act, act.mayProbe = false →
        (act.step gateway (Moment.reached gateway settings acts)).state.health = .connected →
          (Moment.reached gateway settings acts).state.health = .connected) ∧
      (∀ act ∈ [Act.connect, Act.reconnect],
        (Moment.reached gateway settings acts).state.shutDown = false →
          ((act.step gateway (Moment.reached gateway settings acts)).state.health = .connected ↔
            Happening.succeeds gateway
              ((Moment.reached gateway settings acts).closePush.withHealth .connecting)
              askAbout = true)) := by
  have hrun : (Moment.reached gateway settings acts).state.health =
      Health.disconnected.throughout (Happening.log gateway (.start settings) acts) :=
    health_run gateway (.start settings) acts
  refine ⟨?_, ?_, ?_, ?_⟩
  · rw [hrun]
    exact Health.throughout_eq_connected_iff _
  · have hsettled : (Moment.reached gateway settings acts).state.health ≠ .connecting := by
      rw [hrun]
      exact Health.throughout_ne_connecting _ _ (by decide)
    intro hbad
    cases hhealth : (Moment.reached gateway settings acts).state.health with
    | disconnected => rfl
    | connecting => exact absurd hhealth hsettled
    | connected => exact absurd hhealth hbad
  · intro act hprobe hgood
    exact connected_before_step gateway _ act hprobe hgood
  · intro act hact hrunning
    have hsame : act.step gateway (Moment.reached gateway settings acts) =
        (enact gateway connect (Moment.reached gateway settings acts)).2 := by
      simp only [List.mem_cons, List.not_mem_nil, or_false] at hact
      rcases hact with rfl | rfl
      · exact congrArg Prod.snd (enact_map gateway _ _ _)
      · exact congrArg Prod.snd (enact_map gateway _ _ _)
    rw [hsame]
    exact health_connect_of_running gateway _ hrunning

end Operations

end ZigbeeBridge.Bridge
