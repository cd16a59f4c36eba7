import ZigbeeBridge.Proofs.Bridge.Refresh
import ZigbeeBridge.Proofs.Bridge.Session

/-!
What acts make of the session. A heartbeat counts, the answer to a probe is kept, and the address
and the interval are what they were last set to. Nothing else changes anything but the client. A run
is a path of such acts, on which a queue is worked off message by message.
-/
namespace ZigbeeBridge.Bridge

open Bus Gateway Operation
open Dialogue (Attempt Behaviour Trace)

namespace Session

/-- The sessions differ in nothing but the client that they keep. -/
def Alike (s s' : Session) : Prop := ∃ client, s' = { s with client }

variable {s s' s'' : Session}

theorem Alike.refl (s : Session) : s.Alike s := ⟨s.client, rfl⟩

theorem Alike.trans (hfirst : s.Alike s') (hnext : s'.Alike s'') : s.Alike s'' := by
  obtain ⟨client, rfl⟩ := hfirst
  obtain ⟨client', rfl⟩ := hnext
  exact ⟨client', rfl⟩

theorem alike_connectClient {client : Client} (hclient : s.connectClient = .ok (client, s')) :
    s.Alike s' := ⟨some client, session_of_connectClient s s' client hclient⟩

/-- The session once the gateway has told something of itself, or nothing. -/
def informed (s : Session) (about? : Option About) : Session :=
  { s with about := about?.or s.about }

@[simp] theorem informed_none (s : Session) : s.informed none = s := rfl

def withCounter (s : Session) (counter : UInt32) : Session := { s with refreshCounter := counter }

theorem exists_tick (s : Session) : ∃ counter, s.tick.2 = s.withCounter counter := by
  unfold tick
  dsimp only
  split
  · exact ⟨0, rfl⟩
  · exact ⟨increment s.refreshCounter, rfl⟩

/-- A session stays where it is, or it moves and gives up its client. -/
theorem setAddress_cases (s : Session) (address : String) : s.setAddress address = s ∨
    s.setAddress address = { s with address := normalizeAddress address, client := none } := by
  unfold setAddress
  dsimp only
  split
  · exact Or.inl rfl
  · exact Or.inr rfl

/-- Whether an announcement is about the session's own gateway. -/
def recognizes (s : Session) (model serial : String) : Bool :=
  modelStart.isPrefixOf model.toList && s.identity != "" && s.identity == serial

end Session

/-- What the gateway tells of itself after all that it was asked. -/
def toldAbout (gateway : Behaviour) (client : Client) (asked : List Request) :
    Except Gateway.Error About :=
  told gateway client asked .about

def learned (gateway : Behaviour) (m : Moment) : Option About :=
  match m.state.session.connectClient with
  | .ok (client, _) => (toldAbout gateway client m.trace.requests).toOption
  | .error _ => none

namespace Act

/-- Whether an act asks the gateway what it is. -/
def asksAbout (m : Moment) : Act → Bool
  | connect | reconnect | probe => true
  | handle .heartbeat => m.state.session.tick.1 && m.state.health != .connected
  | _ => false

/-- What an act makes of a session, whatever it is told. -/
def effect (s : Session) : Act → Session
  | handle .heartbeat => s.tick.2
  | handle (.discovered model serial location) =>
    if s.recognizes model serial then s.setAddress (reduceLocation location) else s
  | setAddress address => s.setAddress address
  | setRefreshInterval interval => s.setInterval interval
  | _ => s

/-- By itself no act changes the token, the identity or what is known of the gateway. -/
theorem exists_effect (s : Session) (act : Act) : ∃ address interval counter client,
    act.effect s = { s with
      address, refreshInterval := interval, refreshCounter := counter, client } := by
  have hmoved : ∀ address, ∃ address' client,
      s.setAddress address = { s with address := address', client } := by
    intro address
    rcases s.setAddress_cases address with hsame | hnew
    · exact ⟨s.address, s.client, hsame⟩
    · exact ⟨normalizeAddress address, none, hnew⟩
  unfold effect
  split
  · obtain ⟨counter, hcount⟩ := s.exists_tick
    exact ⟨s.address, s.refreshInterval, counter, s.client, hcount⟩
  · split
    · obtain ⟨address, client, hnew⟩ := hmoved _
      exact ⟨address, s.refreshInterval, s.refreshCounter, client, hnew⟩
    · exact ⟨s.address, s.refreshInterval, s.refreshCounter, s.client, rfl⟩
  · obtain ⟨address, client, hnew⟩ := hmoved _
    exact ⟨address, s.refreshInterval, s.refreshCounter, client, hnew⟩
  · rename_i interval
    exact ⟨s.address, interval, increment interval, s.client, rfl⟩
  · exact ⟨s.address, s.refreshInterval, s.refreshCounter, s.client, rfl⟩

end Act

theorem address_effect (s : Session) (act : Act) :
    (act.effect s).address = s.address ∨
      (∃ address, act = .setAddress address ∧
        (act.effect s).address = normalizeAddress address) ∨
      ∃ model serial location, act = .handle (.discovered model serial location) ∧
        s.recognizes model serial = true ∧
        (act.effect s).address = normalizeAddress (reduceLocation location) := by
  have hmoved : ∀ address, (s.setAddress address).address = s.address ∨
      (s.setAddress address).address = normalizeAddress address := by
    intro address
    rcases s.setAddress_cases address with hsame | hnew
    · exact Or.inl (congrArg Session.address hsame)
    · exact Or.inr (congrArg Session.address hnew)
  unfold Act.effect
  split
  · obtain ⟨counter, hcount⟩ := s.exists_tick
    left
    rw [hcount]
    rfl
  · rename_i model serial location
    split
    · rename_i hknown
      rcases hmoved (reduceLocation location) with hsame | hnew
      · exact Or.inl hsame
      · exact Or.inr (Or.inr ⟨model, serial, location, rfl, hknown, hnew⟩)
    · exact Or.inl rfl
  · rename_i address
    rcases hmoved address with hsame | hnew
    · exact Or.inl hsame
    · exact Or.inr (Or.inl ⟨address, rfl, hnew⟩)
  · exact Or.inl rfl
  · exact Or.inl rfl

/-- Nothing but a heartbeat counts, and nothing but a call for it sets the interval. -/
theorem counter_effect (s : Session) (act : Act) (hbeat : act ≠ .handle .heartbeat)
    (hset : ∀ interval, act ≠ .setRefreshInterval interval) :
    (act.effect s).refreshCounter = s.refreshCounter ∧
      (act.effect s).refreshInterval = s.refreshInterval := by
  have hmoved : ∀ address, (s.setAddress address).refreshCounter = s.refreshCounter ∧
      (s.setAddress address).refreshInterval = s.refreshInterval := by
    intro address
    rcases s.setAddress_cases address with hsame | hnew
    · rw [hsame]
      exact ⟨rfl, rfl⟩
    · rw [hnew]
      exact ⟨rfl, rfl⟩
  unfold Act.effect
  split
  · exact absurd rfl hbeat
  · split
    · exact hmoved _
    · exact ⟨rfl, rfl⟩
  · exact hmoved _
  · rename_i interval
    exact absurd rfl (hset interval)
  · exact ⟨rfl, rfl⟩

section Operations

variable {α : Type} (gateway : Behaviour) (m : Moment)

theorem alike_withClient (attempt : Client → Attempt Error α) :
    m.state.session.Alike (enact gateway (withClient attempt) m).2.state.session := by
  rw [enact_withClient]
  cases hclient : m.state.session.connectClient with
  | error e => exact .refl _
  | ok found => exact Session.alike_connectClient hclient

theorem alike_execute (command : Command) :
    m.state.session.Alike (enact gateway (execute command) m).2.state.session := by
  have hasked := alike_withClient gateway m fun client => executeCommand client command
  rw [enact_execute]
  unfold askCommand
  cases hresult : enact gateway (withClient fun client => executeCommand client command) m with
  | mk result m' =>
    rw [hresult] at hasked
    cases result with
    | ok event => exact hasked
    | error e => exact hasked

theorem alike_reportAll (sensors : Bool) :
    m.state.session.Alike (enact gateway (reportAll sensors) m).2.state.session := by
  have hasked : m.state.session.Alike (enact gateway (refresh sensors) m).2.state.session := by
    rw [enact_refresh]
    exact alike_withClient gateway m _
  rw [enact_reportAll]
  cases hresult : enact gateway (refresh sensors) m with
  | mk result m' =>
    rw [hresult] at hasked
    cases result with
    | ok report => exact hasked
    | error e => exact hasked

theorem alike_reportOne (id : String) :
    m.state.session.Alike (enact gateway (reportOne id) m).2.state.session := by
  have hasked := alike_withClient gateway m fun client => reportLight client id
  rw [enact_reportOne]
  unfold askLight
  cases hresult : enact gateway (withClient fun client => reportLight client id) m with
  | mk result m' =>
    rw [hresult] at hasked
    cases result with
    | ok u => exact hasked
    | error e => exact hasked

theorem alike_handleEvent (event : Event) :
    m.state.session.Alike (enact gateway (handleEvent event) m).2.state.session := by
  rw [enact_handleEvent]
  split
  · exact .refl _
  · split
    · exact alike_execute gateway m _
    · exact .refl _

theorem enact_askAbout :
    enact gateway askAbout m =
      match m.state.session.connectClient with
      | .error e => (.error e, m)
      | .ok (client, session) =>
        ((toldAbout gateway client m.trace.requests).mapError .ofGateway,
          ⟨{ m.state with session },
            ⟨m.trace.requests ++ requestOf client .about, m.trace.events⟩⟩) := by
  unfold askAbout
  rw [enact_withClient]
  cases m.state.session.connectClient with
  | error e => rfl
  | ok found =>
    obtain ⟨client, session⟩ := found
    have houtcome : Attempt.outcome gateway (calling client.getAbout) m.trace =
        ((toldAbout gateway client m.trace.requests).mapError .ofGateway,
          ⟨m.trace.requests ++ requestOf client .about, m.trace.events⟩) :=
      outcome_told gateway client m.trace .about
    dsimp only
    rw [houtcome]

theorem alike_probe :
    (m.state.session.informed (learned gateway m)).Alike
      (enact gateway probe m).2.state.session := by
  rw [enact_probe, enact_askAbout]
  unfold learned
  cases hclient : m.state.session.connectClient with
  | error e => exact .refl _
  | ok found =>
    obtain ⟨client, session⟩ := found
    obtain ⟨client', rfl⟩ := Session.alike_connectClient hclient
    dsimp only
    cases toldAbout gateway client m.trace.requests with
    | error e => exact ⟨client', rfl⟩
    | ok about => exact ⟨client', rfl⟩

theorem session_startPush : (enact gateway startPush m).2.state.session = m.state.session := by
  rw [enact_startPush]
  dsimp only
  split
  · cases m.state.session.pushTarget m.state.settings with
    | error e => rfl
    | ok url =>
      dsimp only
      split
      · exact Moment.session_closePush _
      · rfl
  · rfl

theorem learned_congr {m m' : Moment}
    (haddress : m'.state.session.address = m.state.session.address)
    (htoken : m'.state.session.token = m.state.session.token)
    (hclient : m'.state.session.client = m.state.session.client)
    (htrace : m'.trace = m.trace) : learned gateway m' = learned gateway m := by
  unfold learned Session.connectClient
  rw [haddress, htoken, hclient, htrace]
  cases m.state.session.client with
  | some client => rfl
  | none =>
    cases baseUrl m.state.session.address with
    | error e => rfl
    | ok base => rfl

theorem alike_connect :
    (m.state.session.informed (learned gateway m)).Alike
      (enact gateway connect m).2.state.session := by
  have hsession : (m.closePush.withHealth .connecting).state.session = m.state.session :=
    m.session_closePush
  have hlearned : learned gateway (m.closePush.withHealth .connecting) = learned gateway m := by
    refine learned_congr gateway ?_ ?_ ?_ m.trace_closePush
    · rw [hsession]
    · rw [hsession]
    · rw [hsession]
  have hprobed := alike_probe gateway (m.closePush.withHealth .connecting)
  rw [hlearned, hsession] at hprobed
  rw [enact_connect]
  dsimp only
  rw [session_startPush]
  exact hprobed

theorem alike_heartbeat :
    (m.state.session.tick.2.informed
      (if (Act.handle .heartbeat).asksAbout m then learned gateway m else none)).Alike
        (enact gateway heartbeat m).2.state.session := by
  have hlearned : learned gateway (m.withSession m.state.session.tick.2) = learned gateway m := by
    obtain ⟨counter, hcount⟩ := m.state.session.exists_tick
    rw [hcount]
    exact learned_congr gateway rfl rfl rfl rfl
  rw [enact_heartbeat]
  unfold Act.asksAbout
  cases htick : m.state.session.tick with
  | mk due session =>
    rw [htick] at hlearned
    cases due with
    | false => exact .refl _
    | true =>
      dsimp only
      by_cases hgood : m.state.health = .connected
      · rw [if_pos hgood, hgood]
        exact alike_reportAll gateway (m.withSession session) false
      · rw [if_neg hgood, Bool.true_and, if_pos (bne_iff_ne.mpr hgood)]
        have hprobed := alike_probe gateway (m.withSession session)
        rw [hlearned] at hprobed
        cases hprobe : enact gateway probe (m.withSession session) with
        | mk health m' =>
          rw [hprobe] at hprobed
          cases health with
          | connected => exact hprobed.trans (alike_reportAll gateway m' false)
          | connecting => exact hprobed
          | disconnected => exact hprobed

theorem enact_announced (model serial location : String) :
    enact gateway (discovered model serial location) m =
      if m.state.session.recognizes model serial then
        (true, m.withSession (m.state.session.setAddress (reduceLocation location)))
      else (false, m) := by
  rw [enact_discovered]
  unfold Session.recognizes
  by_cases hmodel : modelStart.isPrefixOf model.toList = true
  · by_cases hempty : m.state.session.identity = ""
    · simp [hempty]
    · by_cases hserial : m.state.session.identity = serial
      · simp [hmodel, hserial]
      · simp [hserial]
  · simp [hmodel]

theorem session_announced (model serial location : String) :
    (enact gateway (discovered model serial location) m).2.state.session =
      if m.state.session.recognizes model serial then
        m.state.session.setAddress (reduceLocation location)
      else m.state.session := by
  rw [enact_announced]
  split
  · dsimp only
    rw [Moment.session_withSession]
  · rfl

/-- What an act makes of the session: its own effect, and what the gateway told if it was asked. -/
theorem alike_step (act : Act) (hact : act ≠ .dispatch) :
    ((act.effect m.state.session).informed
      (if act.asksAbout m then learned gateway m else none)).Alike
        (act.step gateway m).state.session := by
  unfold Act.step Act.operation
  cases act with
  | connect | reconnect =>
    rw [enact_map]
    exact alike_connect gateway m
  | probe =>
    rw [enact_map]
    exact alike_probe gateway m
  | disconnect =>
    rw [enact_map, enact_disconnect]
    change m.state.session.Alike m.closePush.state.session
    rw [m.session_closePush]
    exact .refl _
  | shutDown =>
    rw [enact_map, enact_shutDown]
    change m.state.session.Alike m.closePush.state.session
    rw [m.session_closePush]
    exact .refl _
  | handle message =>
    rw [enact_map, enact_handle]
    cases message with
    | event event => exact alike_handleEvent gateway m event
    | reportItems => exact alike_reportAll gateway m true
    | heartbeat => exact alike_heartbeat gateway m
    | reportLight id => exact alike_reportOne gateway m id
    | discovered model serial location =>
      have hquiet : (Act.handle (.discovered model serial location)).asksAbout m = false := rfl
      dsimp only
      rw [hquiet, if_neg Bool.false_ne_true, Session.informed_none, session_announced, Act.effect]
      exact .refl _
  | execute command =>
    rw [enact_map]
    exact alike_execute gateway m command
  | reportAll sensors =>
    rw [enact_map]
    exact alike_reportAll gateway m sensors
  | setAddress address =>
    have hquiet : (Act.setAddress address).asksAbout m = false := rfl
    rw [enact_map, enact_setAddress, hquiet, if_neg Bool.false_ne_true, Session.informed_none,
      Act.effect]
    dsimp only
    rw [Moment.session_withSession]
    exact .refl _
  | setRefreshInterval interval =>
    have hquiet : (Act.setRefreshInterval interval).asksAbout m = false := rfl
    rw [enact_map, enact_setRefreshInterval, hquiet, if_neg Bool.false_ne_true,
      Session.informed_none, Act.effect]
    exact .refl _
  | pushReceived text =>
    rw [enact_map, enact_pushReceived]
    cases m.state.push with
    | none => exact .refl _
    | some url =>
      cases Push.parse text with
      | ok message => exact .refl _
      | error e => exact .refl _
  | pushEnded =>
    rw [enact_map, enact_pushEnded]
    change m.state.session.Alike m.closePush.state.session
    rw [m.session_closePush]
    exact .refl _
  | submit message =>
    rw [enact_map, enact_submit]
    by_cases hshut : m.state.shutDown = true
    · rw [if_pos hshut]
      exact .refl _
    · rw [if_neg hshut]
      exact .refl _
  | dispatch => exact absurd rfl hact

end Operations

def Moment.withQueue (m : Moment) (queue : List Message) : Moment :=
  { m with state := { m.state with queue } }

section Paths

variable (gateway : Behaviour)

/-- The moments are joined by acts, each at the moment at which its turn comes. What waits in the
queue may change in between. -/
inductive Path : Moment → List (Moment × Act) → Moment → Prop
  | nil (m : Moment) : Path m [] m
  | cons {m m' : Moment} {act : Act} {rest : List (Moment × Act)} (hact : act ≠ .dispatch)
      (hrest : Path (act.step gateway m) rest m') : Path m ((m, act) :: rest) m'
  | requeue {m m' : Moment} {parts : List (Moment × Act)} (queue : List Message)
      (hrest : Path (m.withQueue queue) parts m') : Path m parts m'

variable {gateway} {m m' m'' : Moment} {parts parts' : List (Moment × Act)}

theorem Path.append (hfirst : Path gateway m parts m') (hnext : Path gateway m' parts' m'') :
    Path gateway m (parts ++ parts') m'' := by
  induction hfirst with
  | nil m => exact hnext
  | cons hact _ ih => exact .cons hact (ih hnext)
  | requeue queue _ ih => exact .requeue queue (ih hnext)

theorem identity_path (hpath : Path gateway m parts m') :
    m'.state.session.identity = m.state.session.identity := by
  induction hpath with
  | nil m => rfl
  | requeue queue _ ih => exact ih
  | @cons m m' act rest hact _ ih =>
    obtain ⟨client, hsession⟩ := alike_step gateway m act hact
    obtain ⟨_, _, _, _, heffect⟩ := act.exists_effect m.state.session
    rw [ih, hsession, heffect]
    rfl

variable (gateway)

theorem path_turns (acts : List Act) (hacts : ∀ act ∈ acts, act ≠ .dispatch) (m : Moment) :
    Path gateway m (turns gateway m acts) (m.run gateway acts) := by
  induction acts generalizing m with
  | nil => exact .nil m
  | cons act acts ih =>
    have hrest := ih (fun act' hmem => hacts act' (List.mem_cons_of_mem _ hmem))
      (act.step gateway m)
    exact .cons (hacts act List.mem_cons_self) hrest

theorem path_act (act : Act) (m : Moment) :
    Path gateway m (Act.operations gateway (m, act)) (act.step gateway m) := by
  cases act with
  | dispatch =>
    rw [step_dispatch]
    exact .requeue [] (path_turns gateway (m.state.queue.map .handle) (by simp) _)
  | _ => exact .cons (by simp) (.nil _)

/-- The operations of a run are a path. -/
theorem path_run (acts : List Act) (m : Moment) :
    Path gateway m (operations gateway m acts) (m.run gateway acts) := by
  induction acts generalizing m with
  | nil => exact .nil m
  | cons act acts ih => exact (path_act gateway act m).append (ih (act.step gateway m))

theorem act_of_turns (acts : List Act) (m : Moment) :
    ∀ part ∈ turns gateway m acts, part.2 ∈ acts := by
  induction acts generalizing m with
  | nil => simp [turns]
  | cons act acts ih =>
    intro part hpart
    rcases List.mem_cons.mp hpart with rfl | hrest
    · exact List.mem_cons_self
    · exact List.mem_cons_of_mem _ (ih _ part hrest)

end Paths

end ZigbeeBridge.Bridge
