import ZigbeeBridge.Proofs.Bridge.Asking
import ZigbeeBridge.Proofs.Bridge.Frame

/-!
Operations that fail. At whatever request that is, the session is left as it was but for the client
that may have been built. What stays is the health, what was published before the failure and,
where the bridge was to connect, another push connection.
-/
namespace ZigbeeBridge.Bridge

open Bus Gateway Operation
open Dialogue (Behaviour Trace)

section Failures

variable {α : Type} (gateway : Behaviour)

def failed? : Except Error α → Option Error
  | .error e => some e
  | .ok _ => none

theorem eq_error_of_failed? {result : Except Error α} {e : Error} (h : failed? result = some e) :
    result = .error e := by
  cases result with
  | error e' =>
    cases h
    rfl
  | ok a => cases h

/-- With what a heartbeat fails: its probe, if it makes one, or its refresh. -/
def heartbeatFailure (m : Moment) : Option Error :=
  let counted := m.withSession m.state.session.tick.2
  if m.state.session.tick.1 = false then none
  else if m.state.health = .connected then failed? (enact gateway (refresh false) counted).1
  else
    (failed? (enact gateway askAbout counted).1).or
      (failed? (enact gateway (refresh false) (enact gateway probe counted).2).1)

/-- With what an act fails: the error of the request that ends it early. -/
def Act.failure (m : Moment) : Act → Option Error
  | connect | reconnect => failed? (enact gateway askAbout (m.closePush.withHealth .connecting)).1
  | probe => failed? (enact gateway askAbout m).1
  | execute command => failed? (enact gateway (askCommand command) m).1
  | reportAll sensors => failed? (enact gateway (refresh sensors) m).1
  | handle (.event event) =>
    if isOurs event then
      (Command.ofEvent? event).bind fun command => failed? (enact gateway (askCommand command) m).1
    else none
  | handle .reportItems => failed? (enact gateway (refresh true) m).1
  | handle .heartbeat => heartbeatFailure gateway m
  | handle (.reportLight id) => failed? (enact gateway (askLight id) m).1
  | _ => none

def Act.refreshes : Act → Bool
  | reportAll _ | handle .reportItems | handle .heartbeat => true
  | _ => false

/-- What an act that fails leaves behind. -/
structure FailsCleanly (m : Moment) (act : Act) (e : Error) : Prop where
  session : act ≠ .handle .heartbeat →
    m.state.session.Built (act.step gateway m).state.session
  /-- A heartbeat has counted, and its own probe may have been answered. -/
  heartbeat : act = .handle .heartbeat →
    (m.state.session.tick.2.informed ((account? gateway (m, act)).map Account.about)).Built
      (act.step gateway m).state.session
  state : (act.step gateway m).state = { m.state with
    session := (act.step gateway m).state.session
    health := .disconnected
    push := (act.step gateway m).state.push }
  push : (act.step gateway m).state.push =
    if act.isConnect then
      if m.state.settings.pushEnabled && !m.state.shutDown then
        pushGoal m.state.settings m.state.session.address m.state.session.about
      else none
    else m.state.push
  events : (act.step gateway m).trace.events = m.trace.events ∨
    act.refreshes = true ∧ ∃ asked, m.trace.requests <+: asked ∧
      CutShort gateway ⟨asked, m.trace.events⟩ (act.step gateway m).trace e

variable {gateway} in
theorem FailsCleanly.of_asked {m m' : Moment} {act : Act} {e : Error} (hasked : Asked m m')
    (hstep : act.step gateway m = m'.withHealth .disconnected)
    (hheartbeat : act ≠ .handle .heartbeat) (hconnect : act.isConnect = false)
    (hevents : m'.trace.events = m.trace.events ∨
      act.refreshes = true ∧ CutShort gateway m.trace m'.trace e) :
    FailsCleanly gateway m act e where
  session := by
    intro _
    rw [hstep]
    exact hasked.built
  heartbeat := fun h => absurd h hheartbeat
  state := by
    rw [hstep]
    exact hasked.beside.state
  push := by
    rw [hstep, hconnect]
    exact hasked.beside.push
  events := by
    rw [hstep]
    rcases hevents with hsame | ⟨hrefreshes, hcut⟩
    · exact Or.inl hsame
    · exact Or.inr ⟨hrefreshes, m.trace.requests, List.prefix_rfl, hcut⟩

variable (m : Moment)

theorem probe_of_failure (e : Error) (hfails : (enact gateway askAbout m).1 = .error e) :
    enact gateway probe m =
      (.disconnected, (enact gateway askAbout m).2.withHealth .disconnected) := by
  rw [enact_probe]
  cases hask : enact gateway askAbout m with
  | mk result m' =>
    rw [hask] at hfails
    cases hfails
    rfl

theorem execute_of_failure (command : Command) (e : Error)
    (hfails : (enact gateway (askCommand command) m).1 = .error e) :
    (enact gateway (execute command) m).2 =
      (enact gateway (askCommand command) m).2.withHealth .disconnected := by
  rw [enact_execute]
  cases hask : enact gateway (askCommand command) m with
  | mk result m' =>
    rw [hask] at hfails
    cases hfails
    rfl

theorem reportAll_of_failure (sensors : Bool) (e : Error)
    (hfails : (enact gateway (refresh sensors) m).1 = .error e) :
    (enact gateway (reportAll sensors) m).2 =
      (enact gateway (refresh sensors) m).2.withHealth .disconnected := by
  rw [enact_reportAll]
  cases hask : enact gateway (refresh sensors) m with
  | mk result m' =>
    rw [hask] at hfails
    cases hfails
    rfl

theorem reportOne_of_failure (id : String) (e : Error)
    (hfails : (enact gateway (askLight id) m).1 = .error e) :
    (enact gateway (reportOne id) m).2 =
      (enact gateway (askLight id) m).2.withHealth .disconnected := by
  rw [enact_reportOne]
  cases hask : enact gateway (askLight id) m with
  | mk result m' =>
    rw [hask] at hfails
    cases hfails
    rfl

/-- Where the health is bad already nothing but the push connection is another. -/
theorem startPush_of_disconnected (hdown : m.state.health = .disconnected) :
    (enact gateway startPush m).2 =
      { m with state := { m.state with push := (enact gateway startPush m).2.state.push } } := by
  have hclosed : ∀ url, ({ m with state := { m.state with push := some url } } : Moment).closePush =
      { m with state := { m.state with push := none } } := by
    intro url
    show ({ m with state := { m.state with push := none, health := .disconnected } } : Moment) = _
    rw [← hdown]
  rw [enact_startPush]
  dsimp only
  split
  · cases m.state.session.pushTarget m.state.settings with
    | error e => rfl
    | ok url =>
      dsimp only
      split
      · rw [hclosed]
      · rfl
  · rfl

theorem failsCleanly_probe (e : Error) (hfails : Act.failure gateway m .probe = some e) :
    FailsCleanly gateway m .probe e := by
  have herror := eq_error_of_failed? hfails
  have hasked : Asked m (enact gateway askAbout m).2 := asked_withClient gateway m _
  apply FailsCleanly.of_asked hasked
  · unfold Act.step Act.operation
    rw [enact_map, probe_of_failure gateway m e herror]
  · simp
  · rfl
  · exact Or.inl (events_askAbout gateway m)

theorem failsCleanly_command (act : Act) (command : Command) (e : Error)
    (hconnect : act.isConnect = false) (hheartbeat : act ≠ .handle .heartbeat)
    (hstep : act.step gateway m = (enact gateway (execute command) m).2)
    (hfails : failed? (enact gateway (askCommand command) m).1 = some e) :
    FailsCleanly gateway m act e := by
  have herror := eq_error_of_failed? hfails
  have hasked : Asked m (enact gateway (askCommand command) m).2 := asked_withClient gateway m _
  apply FailsCleanly.of_asked hasked _ hheartbeat hconnect
  · exact Or.inl (events_askCommand gateway m command)
  · rw [hstep, execute_of_failure gateway m command e herror]

theorem failsCleanly_refresh (act : Act) (sensors : Bool) (e : Error)
    (hconnect : act.isConnect = false) (hheartbeat : act ≠ .handle .heartbeat)
    (hrefreshes : act.refreshes = true)
    (hstep : act.step gateway m = (enact gateway (reportAll sensors) m).2)
    (hfails : failed? (enact gateway (refresh sensors) m).1 = some e) :
    FailsCleanly gateway m act e := by
  have herror := eq_error_of_failed? hfails
  apply FailsCleanly.of_asked (asked_refresh gateway m sensors) _ hheartbeat hconnect
  · exact (cutShort_refresh gateway m sensors e herror).imp_right fun hcut => ⟨hrefreshes, hcut⟩
  · rw [hstep, reportAll_of_failure gateway m sensors e herror]

theorem failsCleanly_light (id : String) (e : Error)
    (hfails : Act.failure gateway m (.handle (.reportLight id)) = some e) :
    FailsCleanly gateway m (.handle (.reportLight id)) e := by
  have herror := eq_error_of_failed? hfails
  have hasked : Asked m (enact gateway (askLight id) m).2 := asked_withClient gateway m _
  apply FailsCleanly.of_asked hasked
  · unfold Act.step Act.operation
    rw [enact_map, enact_handle]
    exact reportOne_of_failure gateway m id e herror
  · simp
  · rfl
  · exact Or.inl (events_askLight gateway m id e herror)

/-- To connect in vain replaces the push connection all the same. -/
theorem failsCleanly_connect (act : Act) (hconnect : act.isConnect = true) (e : Error)
    (hfails : failed? (enact gateway askAbout (m.closePush.withHealth .connecting)).1 = some e) :
    FailsCleanly gateway m act e := by
  have herror := eq_error_of_failed? hfails
  have hheartbeat : act ≠ .handle .heartbeat := by
    rintro rfl
    cases hconnect
  have hasked : Asked (m.closePush.withHealth .connecting)
      (enact gateway askAbout (m.closePush.withHealth .connecting)).2 := asked_withClient gateway _ _
  have hevents := events_askAbout gateway (m.closePush.withHealth .connecting)
  have hprobe := probe_of_failure gateway _ e herror
  have hpush := push_connect gateway m
  have hstep := step_of_isConnect gateway act hconnect m
  -- What the probe leaves behind is all that counts from here on.
  generalize (enact gateway askAbout (m.closePush.withHealth .connecting)).2 = m' at *
  have hsettled := startPush_of_disconnected gateway (m'.withHealth .disconnected) rfl
  have hconnected : (enact gateway connect m).2 =
      (enact gateway startPush (m'.withHealth .disconnected)).2 := by
    rw [enact_connect, hprobe]
  rw [← hconnected, ← hstep] at hsettled
  rw [← hstep] at hpush
  have hsession : (act.step gateway m).state.session = m'.state.session := by
    rw [hsettled]
    rfl
  have hbuilt : m.state.session.Built (act.step gateway m).state.session := by
    rw [hsession, ← m.session_closePush]
    exact hasked.built
  refine ⟨fun _ => hbuilt, fun h => absurd h hheartbeat, ?_, ?_, Or.inl ?_⟩
  · obtain ⟨session, health, hstate⟩ := hasked.beside
    rw [m.state_closePush] at hstate
    rw [hsession]
    generalize (act.step gateway m).state.push = push at *
    rw [hsettled]
    show { m'.state with health := .disconnected, push } = _
    rw [hstate]
  · rw [hpush, hconnect, hbuilt.address, hbuilt.about]
    rfl
  · rw [hsettled]
    exact hevents.trans (congrArg Trace.events m.trace_closePush)

/-- A heartbeat has kept what it was told, whatever it is that its session is known to be built
from. -/
theorem built_heartbeat (hcurrent : m.state.session.Current) (about? : Option About)
    (hbuilt : (m.state.session.tick.2.informed about?).Built
      ((Act.handle .heartbeat).step gateway m).state.session) :
    (m.state.session.tick.2.informed ((account? gateway (m, .handle .heartbeat)).map
      Account.about)).Built ((Act.handle .heartbeat).step gateway m).state.session := by
  obtain ⟨client, hsession⟩ := alike_step gateway m (.handle .heartbeat) (by simp)
  have hlearned := learned_of_current gateway hcurrent
  have hsame : about?.or m.state.session.tick.2.about =
      ((account? gateway (m, .handle .heartbeat)).map Account.about).or
        m.state.session.tick.2.about := by
    have habout := hbuilt.about
    rw [hsession] at habout
    unfold account?
    rw [← hlearned]
    refine habout.symm.trans ?_
    show (if _ then _ else _ : Option About).or m.state.session.tick.2.about = _
    split
    · rw [Option.map_map]
      simp [Function.comp_def]
    · rfl
  have hinformed : m.state.session.tick.2.informed about? =
      m.state.session.tick.2.informed ((account? gateway (m, .handle .heartbeat)).map
        Account.about) := by
    unfold Session.informed
    rw [hsame]
  rw [← hinformed]
  exact hbuilt

variable {m} {m' : Moment} {e : Error} (about? : Option About)
  (hcurrent : m.state.session.Current)

include hcurrent

theorem failsCleanly_of_counted
    (hstep : (Act.handle .heartbeat).step gateway m = m'.withHealth .disconnected)
    (hbuilt : (m.state.session.tick.2.informed about?).Built m'.state.session)
    (hbeside : m.Beside m')
    (hevents : m'.trace.events = m.trace.events ∨ ∃ asked, m.trace.requests <+: asked ∧
      CutShort gateway ⟨asked, m.trace.events⟩ m'.trace e) :
    FailsCleanly gateway m (.handle .heartbeat) e where
  session := fun h => absurd rfl h
  heartbeat := by
    intro _
    apply built_heartbeat gateway m hcurrent about?
    rw [hstep]
    exact hbuilt
  state := by
    rw [hstep]
    exact hbeside.state
  push := by
    rw [hstep]
    exact hbeside.push
  events := by
    rw [hstep]
    exact hevents.imp_right fun hcut => ⟨rfl, hcut⟩

/-- A heartbeat fails in its refresh, before which it may have probed. -/
theorem failsCleanly_of_due
    (hstep : (Act.handle .heartbeat).step gateway m = (enact gateway (reportAll false) m').2)
    (hfails : failed? (enact gateway (refresh false) m').1 = some e)
    (hbuilt : (m.state.session.tick.2.informed about?).Built m'.state.session)
    (hbeside : m.Beside m') (hevents : m'.trace.events = m.trace.events)
    (hrequests : m.trace.requests <+: m'.trace.requests) :
    FailsCleanly gateway m (.handle .heartbeat) e := by
  have herror := eq_error_of_failed? hfails
  have hasked := asked_refresh gateway m' false
  rw [reportAll_of_failure gateway m' false e herror] at hstep
  apply failsCleanly_of_counted gateway about? hcurrent hstep (hbuilt.trans hasked.built)
    (hbeside.trans hasked.beside)
  rw [← hevents]
  exact (cutShort_refresh gateway m' false e herror).imp_right fun hcut =>
    ⟨m'.trace.requests, hrequests, hcut⟩

theorem failsCleanly_heartbeat (hfails : Act.failure gateway m (.handle .heartbeat) = some e) :
    FailsCleanly gateway m (.handle .heartbeat) e := by
  have hstep : (Act.handle .heartbeat).step gateway m = (enact gateway heartbeat m).2 := by
    unfold Act.step Act.operation
    rw [enact_map, enact_handle]
  rw [enact_heartbeat] at hstep
  unfold Act.failure heartbeatFailure at hfails
  dsimp only at hfails
  have hcounted := m.beside_withSession m.state.session.tick.2
  cases htick : m.state.session.tick with
  | mk due session =>
    obtain rfl : m.state.session.tick.2 = session := by rw [htick]
    rw [htick] at hfails hstep
    cases due with
    | false => cases hfails
    | true =>
      dsimp only at hfails hstep
      rw [if_neg (by decide)] at hfails
      by_cases hgood : m.state.health = .connected
      · rw [if_pos hgood] at hfails hstep
        exact failsCleanly_of_due gateway none hcurrent hstep hfails (.refl _) hcounted rfl
          List.prefix_rfl
      · rw [if_neg hgood] at hfails hstep
        have hasked : Asked (m.withSession m.state.session.tick.2)
            (enact gateway askAbout (m.withSession m.state.session.tick.2)).2 :=
          asked_withClient gateway _ _
        have hquiet := events_askAbout gateway (m.withSession m.state.session.tick.2)
        have hmore := requests_askAbout gateway (m.withSession m.state.session.tick.2)
        have hprobe := enact_probe gateway (m.withSession m.state.session.tick.2)
        cases hask : enact gateway askAbout (m.withSession m.state.session.tick.2) with
        | mk result m' =>
          rw [hask] at hfails hasked hquiet hmore hprobe
          cases result with
          | error e' =>
            cases hfails
            rw [hprobe] at hstep
            exact failsCleanly_of_counted gateway none hcurrent hstep hasked.built
              (hcounted.trans hasked.beside) (Or.inl hquiet)
          | ok about =>
            dsimp only at hprobe
            rw [hprobe] at hfails hstep
            refine failsCleanly_of_due gateway (some about) hcurrent hstep hfails
              (hasked.built.informed (some about)) ?_ hquiet hmore
            exact hcounted.trans (hasked.beside.trans
              ((m'.beside_withSession _).trans (Moment.beside_withHealth _ _)))

end Failures

section Results

variable (gateway : Behaviour)

theorem failsCleanly_step {m : Moment} (hcurrent : m.state.session.Current) (act : Act)
    (e : Error) (hfails : act.failure gateway m = some e) : FailsCleanly gateway m act e := by
  have hstep : ∀ message, (Act.handle message).step gateway m =
      (enact gateway (handle message) m).2 := by
    intro message
    unfold Act.step Act.operation
    rw [enact_map]
  cases act with
  | connect | reconnect => exact failsCleanly_connect gateway m _ rfl e hfails
  | probe => exact failsCleanly_probe gateway m e hfails
  | execute command =>
    apply failsCleanly_command gateway m _ command e rfl (by simp) _ hfails
    unfold Act.step Act.operation
    rw [enact_map]
  | reportAll sensors =>
    apply failsCleanly_refresh gateway m _ sensors e rfl (by simp) rfl _ hfails
    unfold Act.step Act.operation
    rw [enact_map]
  | handle message =>
    cases message with
    | event event =>
      by_cases hours : isOurs event = true
      · simp only [Act.failure, if_pos hours] at hfails
        obtain ⟨command, hcommand, hfails⟩ := Option.bind_eq_some_iff.mp hfails
        apply failsCleanly_command gateway m _ command e rfl (by simp) _ hfails
        rw [hstep, enact_handle]
        dsimp only
        rw [enact_handleEvent, hours, hcommand]
        rfl
      · simp only [Act.failure, if_neg hours, reduceCtorEq] at hfails
    | reportItems =>
      apply failsCleanly_refresh gateway m _ true e rfl (by simp) rfl _ hfails
      rw [hstep, enact_handle]
    | heartbeat => exact failsCleanly_heartbeat gateway hcurrent hfails
    | reportLight id => exact failsCleanly_light gateway m id e hfails
    | discovered model serial location => cases hfails
  | disconnect | shutDown | setAddress | setRefreshInterval | pushReceived | pushEnded | submit
  | dispatch => cases hfails

/-- In every run token and identity stay those of the settings, each operation changes of the
session what is its own to change, and one that fails leaves all of it as it was. -/
theorem framed_reached (settings : Settings) (acts : List Act) :
    (Moment.reached gateway settings acts).state.session.token = settings.token ∧
      (Moment.reached gateway settings acts).state.session.identity = settings.identity ∧
      ∀ part ∈ operations gateway (.start settings) acts,
        Framed gateway part.1 part.2 ∧
          ∀ e, part.2.failure gateway part.1 = some e → FailsCleanly gateway part.1 part.2 e := by
  have hworked : Worked gateway (.start settings) (Moment.reached gateway settings acts)
      (operations gateway (.start settings) acts) :=
    worked_run acts (Session.current_start settings)
  have hpath : Path gateway (.start settings) (operations gateway (.start settings) acts)
      (Moment.reached gateway settings acts) := path_run gateway acts (.start settings)
  refine ⟨hworked.token, identity_path hpath, ?_⟩
  intro part hpart
  obtain ⟨hcurrent, -, hact⟩ := hworked.parts part hpart
  exact ⟨framed_step gateway hcurrent part.2 hact,
    fun e hfails => failsCleanly_step gateway hcurrent part.2 e hfails⟩

end Results

end ZigbeeBridge.Bridge
