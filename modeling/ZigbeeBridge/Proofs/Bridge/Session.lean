import ZigbeeBridge.Proofs.Bridge.Act
import ZigbeeBridge.Proofs.Bridge.Address
import ZigbeeBridge.Proofs.Bridge.Operation
import ZigbeeBridge.Proofs.Dialogue.Asks

/-!
The client that a session keeps is always the one for its address. Every operation asks the gateway
at the address that the session had when the operation began, and where the address is no URL it
asks nobody.
-/
namespace ZigbeeBridge.Bridge

open Bus Data Gateway Operation
open Dialogue (Attempt Behaviour Trace)

section Clients

variable (client : Client)

/-- A request that the client can make. -/
def Own (request : Request) : Prop := ∃ call : Call, call.request client = .ok request

private theorem asks_call {α : Type} (method : Method) (path : String) (body : Option String)
    (decode : Value → Except DecodeError α) :
    Attempt.Asks (fun request => client.request method path body = .ok request)
      (client.call method path body decode) := by
  unfold Client.call
  cases client.request method path body with
  | error e => exact Attempt.asks_settle _
  | ok request => exact .ask rfl fun answer => .done _

/-- A call is answered, and then its answer is made something of without asking again. -/
private theorem asks_call_bind {α β : Type} (method : Method) (path : String)
    (body : Option String) (decode : Value → Except DecodeError α)
    (next : α → Except Gateway.Error β) :
    Attempt.Asks (fun request => client.request method path body = .ok request)
      (client.call method path body decode >>= fun a => Dialogue.settle (next a)) :=
  Attempt.asks_bind (asks_call client method path body decode) fun _ => Attempt.asks_settle _

theorem asks_attempt (call : Call) :
    Attempt.Asks (fun request => call.request client = .ok request) (call.attempt client) := by
  cases call with
  | about => exact asks_call client .get "config" none About.decode
  | lights => exact asks_call_bind client .get "lights" none listing summaries
  | groups => exact asks_call_bind client .get "groups" none listing summaries
  | sensors => exact asks_call_bind client .get "sensors" none listing sensorInfos
  | light id => exact asks_call_bind client .get s!"lights/{id}" none .ok (Light.decode id)
  | group id => exact asks_call_bind client .get s!"groups/{id}" none .ok (Group.decode id)
  | sensor id => exact asks_call_bind client .get s!"sensors/{id}" none .ok (Sensor.decode id)
  | setLight id change =>
    exact asks_call client .put s!"lights/{id}/state" (some change.body) fun _ => .ok ()
  | setGroup id change =>
    exact asks_call client .put s!"groups/{id}/action" (some change.body) fun _ => .ok ()
  | sensorDetail id => exact asks_call client .get s!"sensors/{id}" none .ok

/-- As a part of an operation a call still makes only a request of its client. -/
theorem asks_calling (call : Call) : Attempt.Asks (Own client) (calling (call.attempt client)) := by
  refine Attempt.asks_adapt Error.ofGateway ?_
  exact Dialogue.Asks.mono (fun request hrequest => ⟨call, hrequest⟩) (asks_attempt client call)

theorem asks_executeCommand (command : Command) :
    Attempt.Asks (Own client) (executeCommand client command) := by
  obtain ⟨target, id, change⟩ := command
  cases target with
  | light =>
    exact Attempt.asks_bind (asks_calling client (.setLight id change)) fun _ =>
      Attempt.asks_map ofLight (asks_calling client (.light id))
  | group =>
    exact Attempt.asks_bind (asks_calling client (.setGroup id change)) fun _ =>
      Attempt.asks_map ofGroup (asks_calling client (.group id))

theorem asks_reportLight (id : String) : Attempt.Asks (Own client) (reportLight client id) :=
  Attempt.asks_bind (asks_calling client (.light id)) fun light =>
    Attempt.asks_liftM (Dialogue.asks_publishing (ofLight light))

section Refreshes

variable (plan : RefreshPlan)

private theorem asks_conclude (count : Report → Report) (report : Report)
    (result : Except Error (Option Event)) :
    Dialogue.Asks (Own client) (conclude plan.policy count report result) := by
  unfold conclude
  split
  · exact .publish _ (.done _)
  · exact .done _
  · split
    · exact .done _
    · exact .done _

private theorem asks_fetchItem (count : Report → Report)
    (fetch : Attempt Error (Option Event)) (hfetch : Attempt.Asks (Own client) fetch)
    (progress : Progress) : Attempt.Asks (Own client) (fetchItem plan count fetch progress) := by
  have hrest : Attempt.Asks (Own client) (do
      let result ← (liftM fetch.run : Attempt Error _)
      let report ← ExceptT.mk (conclude plan.policy count progress.report result)
      pure (⟨report, true⟩ : Progress)) :=
    Attempt.asks_bind (Attempt.asks_liftM hfetch) fun result =>
      Attempt.asks_bind (asks_conclude client plan count progress.report result) fun _ =>
        Attempt.asks_pure _
  unfold fetchItem
  split
  · exact Attempt.asks_bind (Attempt.asks_liftM (Dialogue.asks_pausing _)) fun _ => hrest
  · exact hrest

private theorem asks_refreshSensor (progress : Progress) (info : SensorInfo) :
    Attempt.Asks (Own client) (refreshSensor client plan progress info) := by
  unfold refreshSensor
  split
  · exact Attempt.asks_pure _
  · exact Attempt.asks_bind (asks_conclude client plan _ _ _) fun _ => Attempt.asks_pure _
  · refine asks_fetchItem client plan _ _ ?_ progress
    exact Attempt.asks_bind (asks_calling client (.sensor info.id)) fun _ => Attempt.asks_pure _

private theorem asks_refreshLights (progress : Progress) :
    Attempt.Asks (Own client) (refreshLights client plan progress) := by
  refine Attempt.asks_bind (asks_calling client .lights) fun lights => ?_
  refine Attempt.asks_foldlM (fun p light => asks_fetchItem client plan _ _ ?_ p) lights progress
  exact Attempt.asks_bind (asks_calling client (.light light.id)) fun _ => Attempt.asks_pure _

private theorem asks_refreshGroups (progress : Progress) :
    Attempt.Asks (Own client) (refreshGroups client plan progress) := by
  refine Attempt.asks_bind (asks_calling client .groups) fun groups => ?_
  refine Attempt.asks_foldlM (fun p group => asks_fetchItem client plan _ _ ?_ p) groups progress
  exact Attempt.asks_bind (asks_calling client (.group group.id)) fun _ => Attempt.asks_pure _

private theorem asks_refreshSensors (progress : Progress) :
    Attempt.Asks (Own client) (refreshSensors client plan progress) :=
  Attempt.asks_bind (asks_calling client .sensors) fun infos =>
    Attempt.asks_foldlM (asks_refreshSensor client plan) infos progress

theorem asks_refreshAll : Attempt.Asks (Own client) (refreshAll client plan) := by
  refine Attempt.asks_bind (asks_refreshLights client plan .start) fun progress => ?_
  refine Attempt.asks_bind (asks_refreshGroups client plan progress) fun progress' => ?_
  split
  · exact Attempt.asks_bind (asks_refreshSensors client plan progress') fun _ =>
      Attempt.asks_pure _
  · exact Attempt.asks_bind (Attempt.asks_pure progress') fun _ => Attempt.asks_pure _

end Refreshes

end Clients

/-- The session's address is in full, and the client that it keeps, if any, is the one for it. -/
structure Session.Current (s : Session) : Prop where
  address : normalizeAddress s.address = s.address
  client : ∀ client, s.client = some client →
    baseUrl s.address = .ok client.base ∧ client.token = s.token

/-- The request is one to the gateway at the address, and below the token's part of its tree. -/
def Addressed (address token : String) (request : Request) : Prop :=
  ∃ base, baseUrl address = .ok base ∧ Own ⟨base, token⟩ request

/-- It is a GET or a PUT, and the URL that the address is read as stands in front of its path: what
is asked is that scheme, that host and that port, whatever the token and the path hold. -/
theorem addressed_iff {address token : String} {request : Request} :
    Addressed address token request ↔ ∃ base, baseUrl address = .ok base ∧ ∃ call : Call,
      request.method = call.method ∧ request.body = call.body ∧
      Url.parse s!"{dropSlashesEnd base.text}/api/{token}/{call.path}" = .ok request.url ∧
      request.url.scheme = base.scheme ∧ request.url.host = base.host ∧
      request.url.port = base.port := by
  constructor
  · rintro ⟨base, hbase, call, hcall⟩
    obtain ⟨hmethod, hbody, hurl, -⟩ := (request_eq_ok_iff _).mp hcall
    obtain ⟨read, hread, hplace⟩ := (hosted_of_baseUrl hbase).parse_below
      (Url.pathStart.tail ++ (token.toList ++ '/' :: call.path.toList))
    have hsame : read = request.url := by
      have hread' := hurl
      rw [place_eq ⟨base, token⟩, List.append_assoc] at hread'
      exact Except.ok.inj (hread.symm.trans hread')
    exact ⟨base, hbase, call, hmethod, hbody, hurl, hsame ▸ hplace⟩
  · rintro ⟨base, hbase, call, hmethod, hbody, hurl, hscheme, -, -⟩
    have hhttp : Client.isHttp request.url = true :=
      (Url.isHttp_iff _).mpr (hscheme ▸ (hosted_of_baseUrl hbase).scheme)
    exact ⟨base, hbase, call, (request_eq_ok_iff _).mpr ⟨hmethod, hbody, hurl, hhttp⟩⟩

namespace Session

variable {s : Session}

theorem current_start (settings : Settings) : (start settings).Current where
  address := normalizeAddress_normalizeAddress settings.address
  client := by
    intro client hclient
    cases hclient

/-- A session that moves gives up its client. -/
theorem Current.setAddress (hcurrent : s.Current) (address : String) :
    (s.setAddress address).Current := by
  unfold Session.setAddress
  dsimp only
  split
  · exact hcurrent
  · refine ⟨normalizeAddress_normalizeAddress address, ?_⟩
    intro client hclient
    cases hclient

theorem setAddress_of_same {address : String} (hsame : normalizeAddress address = s.address) :
    s.setAddress address = s := by
  unfold setAddress
  exact if_pos hsame

@[simp] theorem token_setAddress (address : String) : (s.setAddress address).token = s.token := by
  unfold setAddress
  dsimp only
  split
  · rfl
  · rfl

/-- Where there is no client, none comes of an address. -/
theorem client_setAddress (address : String) (hnone : s.client = none) :
    (s.setAddress address).client = none := by
  unfold setAddress
  dsimp only
  split
  · exact hnone
  · rfl

theorem Current.client_eq_none (hcurrent : s.Current)
    (hbase : ∀ base, baseUrl s.address ≠ .ok base) : s.client = none := by
  cases hclient : s.client with
  | none => rfl
  | some client => exact absurd (hcurrent.client client hclient).1 (hbase client.base)

/-- The client that a session gives is the one for its address, kept or made. -/
theorem Current.connectClient (hcurrent : s.Current) {client : Client} {s' : Session}
    (hclient : s.connectClient = .ok (client, s')) :
    baseUrl s.address = .ok client.base ∧ client.token = s.token ∧
      s' = { s with client := some client } ∧ s'.Current := by
  have hsession := session_of_connectClient s s' client hclient
  have hfor : baseUrl s.address = .ok client.base ∧ client.token = s.token := by
    unfold Session.connectClient at hclient
    split at hclient
    · rename_i kept hkept
      cases hclient
      exact hcurrent.client client hkept
    · obtain ⟨base, hbase, hmade⟩ := bind_eq_ok hclient
      cases hmade
      exact ⟨hbase, rfl⟩
  refine ⟨hfor.1, hfor.2, hsession, ?_⟩
  subst hsession
  refine ⟨hcurrent.address, ?_⟩
  intro client' hclient'
  cases hclient'
  exact hfor

end Session

/-- The session stays at its address between the two moments, and only the gateway there is
asked. -/
structure Moment.Stays (m m' : Moment) : Prop where
  address : m'.state.session.address = m.state.session.address
  token : m'.state.session.token = m.state.session.token
  current : m'.state.session.Current
  requests : ∃ made, m'.trace.requests = m.trace.requests ++ made ∧
    ∀ request ∈ made, Addressed m.state.session.address m.state.session.token request

namespace Moment

variable {m m' m'' : Moment}

/-- Nobody is asked, and of the session nothing changes that a request depends on. -/
theorem stays_of_silent (hcurrent : m.state.session.Current)
    (haddress : m'.state.session.address = m.state.session.address)
    (htoken : m'.state.session.token = m.state.session.token)
    (hclient : m'.state.session.client = m.state.session.client)
    (hrequests : m'.trace.requests = m.trace.requests) : m.Stays m' where
  address := haddress
  token := htoken
  current := by
    refine ⟨?_, ?_⟩
    · rw [haddress]
      exact hcurrent.address
    · rw [hclient, haddress, htoken]
      exact hcurrent.client
  requests := ⟨[], by rw [hrequests, List.append_nil], by simp⟩

theorem Stays.trans (hfirst : m.Stays m') (hnext : m'.Stays m'') : m.Stays m'' where
  address := hnext.address.trans hfirst.address
  token := hnext.token.trans hfirst.token
  current := hnext.current
  requests := by
    obtain ⟨made, hmade, hown⟩ := hfirst.requests
    obtain ⟨made', hmade', hown'⟩ := hnext.requests
    rw [hfirst.address, hfirst.token] at hown'
    refine ⟨made ++ made', by rw [hmade', hmade, List.append_assoc], ?_⟩
    intro request hrequest
    rcases List.mem_append.mp hrequest with hmem | hmem
    · exact hown request hmem
    · exact hown' request hmem

theorem stays_withHealth (hcurrent : m.state.session.Current) (health : Health) :
    m.Stays (m.withHealth health) := stays_of_silent hcurrent rfl rfl rfl rfl

theorem stays_publish (hcurrent : m.state.session.Current) (event : Event) :
    m.Stays (m.publish event) := stays_of_silent hcurrent rfl rfl rfl rfl

theorem stays_closePush (hcurrent : m.state.session.Current) : m.Stays m.closePush := by
  unfold closePush
  split
  · exact stays_of_silent hcurrent rfl rfl rfl rfl
  · exact stays_of_silent hcurrent rfl rfl rfl rfl

end Moment

section Operations

variable {α : Type} (gateway : Behaviour) {m : Moment} (hcurrent : m.state.session.Current)

include hcurrent

/-- What is asked with the session's client is asked at the session's address. -/
theorem stays_withClient (attempt : Client → Attempt Error α)
    (hown : ∀ client, Attempt.Asks (Own client) (attempt client)) :
    m.Stays (enact gateway (withClient attempt) m).2 := by
  rw [enact_withClient]
  cases hclient : m.state.session.connectClient with
  | error e => exact Moment.stays_of_silent hcurrent rfl rfl rfl rfl
  | ok found =>
    obtain ⟨client, session⟩ := found
    obtain ⟨hbase, htoken, rfl, hkept⟩ := hcurrent.connectClient hclient
    obtain ⟨made, hmade, hasked⟩ := Attempt.requests_outcome (hown client) gateway m.trace
    refine ⟨rfl, rfl, hkept, made, hmade, ?_⟩
    intro request hrequest
    have hclient' : client = ⟨client.base, m.state.session.token⟩ := by rw [← htoken]
    refine ⟨client.base, hbase, ?_⟩
    rw [← hclient']
    exact hasked request hrequest

theorem stays_probe : m.Stays (enact gateway probe m).2 := by
  have hasked : m.Stays (enact gateway askAbout m).2 :=
    stays_withClient gateway hcurrent _ fun client => asks_calling client .about
  rw [enact_probe]
  cases hresult : enact gateway askAbout m with
  | mk result m' =>
    rw [hresult] at hasked
    cases result with
    | ok about => exact hasked.trans (Moment.stays_of_silent hasked.current rfl rfl rfl rfl)
    | error e => exact hasked.trans (Moment.stays_withHealth hasked.current .disconnected)

theorem stays_startPush : m.Stays (enact gateway startPush m).2 := by
  rw [enact_startPush]
  dsimp only
  split
  · cases m.state.session.pushTarget m.state.settings with
    | error e => exact Moment.stays_of_silent hcurrent rfl rfl rfl rfl
    | ok url =>
      have hopened : m.Stays { m with state := { m.state with push := some url } } :=
        Moment.stays_of_silent hcurrent rfl rfl rfl rfl
      dsimp only
      split
      · exact hopened.trans (Moment.stays_closePush hopened.current)
      · exact hopened
  · exact Moment.stays_of_silent hcurrent rfl rfl rfl rfl

theorem stays_connect : m.Stays (enact gateway connect m).2 := by
  rw [enact_connect]
  have hclosed := Moment.stays_closePush hcurrent
  have hcleared := hclosed.trans (Moment.stays_withHealth hclosed.current .connecting)
  have hprobed := hcleared.trans (stays_probe gateway hcleared.current)
  exact hprobed.trans (stays_startPush gateway hprobed.current)

theorem stays_disconnect : m.Stays (enact gateway disconnect m).2 := by
  rw [enact_disconnect]
  have hclosed := Moment.stays_closePush hcurrent
  exact hclosed.trans (Moment.stays_withHealth hclosed.current .disconnected)

theorem stays_shutDown : m.Stays (enact gateway shutDown m).2 := by
  rw [enact_shutDown]
  have hclosed := Moment.stays_closePush hcurrent
  have hstopped := hclosed.trans (Moment.stays_withHealth hclosed.current .disconnected)
  exact hstopped.trans (Moment.stays_of_silent hstopped.current rfl rfl rfl rfl)

theorem stays_execute (command : Command) : m.Stays (enact gateway (execute command) m).2 := by
  have hasked : m.Stays (enact gateway (askCommand command) m).2 :=
    stays_withClient gateway hcurrent _ fun client => asks_executeCommand client command
  rw [enact_execute]
  cases hresult : enact gateway (askCommand command) m with
  | mk result m' =>
    rw [hresult] at hasked
    cases result with
    | ok event => exact hasked.trans (Moment.stays_publish hasked.current event)
    | error e => exact hasked.trans (Moment.stays_withHealth hasked.current .disconnected)

theorem stays_reportAll (sensors : Bool) :
    m.Stays (enact gateway (reportAll sensors) m).2 := by
  have hasked : m.Stays (enact gateway (refresh sensors) m).2 := by
    rw [enact_refresh]
    exact stays_withClient gateway hcurrent _ fun client => asks_refreshAll client _
  rw [enact_reportAll]
  cases hresult : enact gateway (refresh sensors) m with
  | mk result m' =>
    rw [hresult] at hasked
    cases result with
    | ok report => exact hasked
    | error e => exact hasked.trans (Moment.stays_withHealth hasked.current .disconnected)

theorem stays_reportOne (id : String) : m.Stays (enact gateway (reportOne id) m).2 := by
  have hasked : m.Stays (enact gateway (askLight id) m).2 :=
    stays_withClient gateway hcurrent _ fun client => asks_reportLight client id
  rw [enact_reportOne]
  cases hresult : enact gateway (askLight id) m with
  | mk result m' =>
    rw [hresult] at hasked
    cases result with
    | ok u => exact hasked
    | error e => exact hasked.trans (Moment.stays_withHealth hasked.current .disconnected)

theorem stays_handleEvent (event : Event) :
    m.Stays (enact gateway (handleEvent event) m).2 := by
  rw [enact_handleEvent]
  split
  · exact Moment.stays_of_silent hcurrent rfl rfl rfl rfl
  · split
    · exact stays_execute gateway hcurrent _
    · exact Moment.stays_of_silent hcurrent rfl rfl rfl rfl

/-- A heartbeat counts, and asks for everything at the same address. -/
theorem stays_heartbeat : m.Stays (enact gateway heartbeat m).2 := by
  rw [enact_heartbeat]
  have hcounted : m.Stays (m.withSession m.state.session.tick.2) := by
    unfold Session.tick
    dsimp only
    split
    · exact Moment.stays_of_silent hcurrent rfl rfl rfl rfl
    · exact Moment.stays_of_silent hcurrent rfl rfl rfl rfl
  cases htick : m.state.session.tick with
  | mk due session =>
    rw [htick] at hcounted
    cases due with
    | false => exact hcounted
    | true =>
      dsimp only
      split
      · exact hcounted.trans (stays_reportAll gateway hcounted.current false)
      · have hprobed := hcounted.trans (stays_probe gateway hcounted.current)
        cases hprobe : enact gateway probe (m.withSession session) with
        | mk health m' =>
          rw [hprobe] at hprobed
          cases health with
          | connected => exact hprobed.trans (stays_reportAll gateway hprobed.current false)
          | connecting => exact hprobed
          | disconnected => exact hprobed

theorem stays_pushReceived (text : String) :
    m.Stays (enact gateway (pushReceived text) m).2 := by
  rw [enact_pushReceived]
  dsimp only
  split
  · exact Moment.stays_publish hcurrent _
  · exact Moment.stays_of_silent hcurrent rfl rfl rfl rfl

theorem stays_setRefreshInterval (interval : UInt32) :
    m.Stays (enact gateway (setRefreshInterval interval) m).2 := by
  rw [enact_setRefreshInterval]
  exact Moment.stays_of_silent hcurrent rfl rfl rfl rfl

theorem stays_submit (message : Message) : m.Stays (enact gateway (submit message) m).2 := by
  rw [enact_submit]
  split
  · exact Moment.stays_of_silent hcurrent rfl rfl rfl rfl
  · exact Moment.stays_of_silent hcurrent rfl rfl rfl rfl

end Operations

/-- What may become of a session in one operation. It can move, but what is asked meanwhile is
asked where it was; and where that is no URL, nobody is asked and no client is kept. -/
structure Moment.Attended (m m' : Moment) : Prop where
  token : m'.state.session.token = m.state.session.token
  current : m'.state.session.Current
  requests : ∃ made, m'.trace.requests = m.trace.requests ++ made ∧
    ∀ request ∈ made, Addressed m.state.session.address m.state.session.token request
  unreachable : (∀ base, baseUrl m.state.session.address ≠ .ok base) →
    m'.trace.requests = m.trace.requests ∧ m'.state.session.client = none

namespace Moment

variable {m m' : Moment}

theorem Stays.attended (hstays : m.Stays m') : m.Attended m' := by
  obtain ⟨made, hmade, hasked⟩ := hstays.requests
  refine ⟨hstays.token, hstays.current, ⟨made, hmade, hasked⟩, ?_⟩
  intro hbase
  have hnone : made = [] := by
    refine List.eq_nil_iff_forall_not_mem.mpr fun request hrequest => ?_
    obtain ⟨base, hok, -⟩ := hasked request hrequest
    exact hbase base hok
  refine ⟨by rw [hmade, hnone, List.append_nil], hstays.current.client_eq_none ?_⟩
  rw [hstays.address]
  exact hbase

/-- To move takes no request. -/
theorem attended_setAddress (hcurrent : m.state.session.Current) (address : String) :
    m.Attended (m.withSession (m.state.session.setAddress address)) := by
  have hsession := m.session_withSession (m.state.session.setAddress address)
  refine ⟨?_, ?_, ⟨[], (List.append_nil _).symm, by simp⟩, fun hbase => ⟨rfl, ?_⟩⟩
  · rw [hsession]
    exact Session.token_setAddress address
  · rw [hsession]
    exact hcurrent.setAddress address
  · rw [hsession]
    exact Session.client_setAddress address (hcurrent.client_eq_none hbase)

end Moment

section Steps

variable (gateway : Behaviour) {m : Moment}

theorem attended_handle (hcurrent : m.state.session.Current) (message : Message) :
    m.Attended (enact gateway (handle message) m).2 := by
  rw [enact_handle]
  cases message with
  | event event => exact (stays_handleEvent gateway hcurrent event).attended
  | reportItems => exact (stays_reportAll gateway hcurrent true).attended
  | heartbeat => exact (stays_heartbeat gateway hcurrent).attended
  | reportLight id => exact (stays_reportOne gateway hcurrent id).attended
  | discovered model serial location =>
    dsimp only
    rw [enact_discovered]
    split
    · exact (Moment.stays_of_silent hcurrent rfl rfl rfl rfl).attended
    · exact Moment.attended_setAddress hcurrent _

/-- Every act but the working off of a queue is one operation. -/
theorem attended_step (hcurrent : m.state.session.Current) (act : Act)
    (hact : act ≠ .dispatch) : m.Attended (act.step gateway m) := by
  unfold Act.step Act.operation
  cases act with
  | connect | reconnect =>
    rw [enact_map]
    exact (stays_connect gateway hcurrent).attended
  | probe =>
    rw [enact_map]
    exact (stays_probe gateway hcurrent).attended
  | disconnect =>
    rw [enact_map]
    exact (stays_disconnect gateway hcurrent).attended
  | shutDown =>
    rw [enact_map]
    exact (stays_shutDown gateway hcurrent).attended
  | handle message =>
    rw [enact_map]
    exact attended_handle gateway hcurrent message
  | execute command =>
    rw [enact_map]
    exact (stays_execute gateway hcurrent command).attended
  | reportAll sensors =>
    rw [enact_map]
    exact (stays_reportAll gateway hcurrent sensors).attended
  | setAddress address =>
    rw [enact_map, enact_setAddress]
    exact Moment.attended_setAddress hcurrent address
  | setRefreshInterval interval =>
    rw [enact_map]
    exact (stays_setRefreshInterval gateway hcurrent interval).attended
  | pushReceived text =>
    rw [enact_map]
    exact (stays_pushReceived gateway hcurrent text).attended
  | pushEnded =>
    rw [enact_map, enact_pushEnded]
    exact (Moment.stays_closePush hcurrent).attended
  | submit message =>
    rw [enact_map]
    exact (stays_submit gateway hcurrent message).attended
  | dispatch => exact absurd rfl hact

end Steps

section Runs

variable (gateway : Behaviour)

/-- Acts, one after the other, each with the moment at which its turn comes. -/
def turns : Moment → List Act → List (Moment × Act)
  | _, [] => []
  | m, act :: acts => (m, act) :: turns (act.step gateway m) acts

/-- The operations of an act: a queue is worked off message by message. -/
def Act.operations (turn : Moment × Act) : List (Moment × Act) :=
  match turn.2 with
  | .dispatch =>
    turns gateway { turn.1 with state := { turn.1.state with queue := [] } }
      (turn.1.state.queue.map .handle)
  | _ => [turn]

/-- All operations of a run, each with the moment at which it starts. -/
def operations (m : Moment) (acts : List Act) : List (Moment × Act) :=
  (turns gateway m acts).flatMap (Act.operations gateway)

/-- The requests that an operation makes. -/
def asked (operation : Moment × Act) : List Request :=
  (operation.2.step gateway operation.1).trace.requests.drop operation.1.trace.requests.length

/-- From one moment to the other the operations were carried out, with nothing in between. -/
structure Worked (m m' : Moment) (parts : List (Moment × Act)) : Prop where
  token : m'.state.session.token = m.state.session.token
  current : m'.state.session.Current
  requests : m'.trace.requests = m.trace.requests ++ parts.flatMap (asked gateway)
  parts : ∀ part ∈ parts, part.1.state.session.Current ∧
    part.1.state.session.token = m.state.session.token ∧ part.2 ≠ .dispatch

variable {gateway} {m m' m'' : Moment} {parts parts' : List (Moment × Act)}

theorem worked_nil (hcurrent : m.state.session.Current) : Worked gateway m m [] where
  token := rfl
  current := hcurrent
  requests := (List.append_nil _).symm
  parts := by simp

theorem Worked.append (hfirst : Worked gateway m m' parts)
    (hnext : Worked gateway m' m'' parts') : Worked gateway m m'' (parts ++ parts') where
  token := hnext.token.trans hfirst.token
  current := hnext.current
  requests := by
    rw [hnext.requests, hfirst.requests, List.flatMap_append, List.append_assoc]
  parts := by
    intro part hpart
    rcases List.mem_append.mp hpart with hmem | hmem
    · exact hfirst.parts part hmem
    · obtain ⟨hcurrent, htoken, hact⟩ := hnext.parts part hmem
      exact ⟨hcurrent, htoken.trans hfirst.token, hact⟩

theorem worked_step (hcurrent : m.state.session.Current) (act : Act) (hact : act ≠ .dispatch) :
    Worked gateway m (act.step gateway m) [(m, act)] := by
  have hattended := attended_step gateway hcurrent act hact
  refine ⟨hattended.token, hattended.current, ?_, ?_⟩
  · obtain ⟨made, hmade, -⟩ := hattended.requests
    rw [List.flatMap_cons, List.flatMap_nil, List.append_nil]
    unfold asked
    rw [hmade, List.drop_left]
  · intro part hpart
    rw [List.mem_singleton.mp hpart]
    exact ⟨hcurrent, rfl, hact⟩

theorem worked_turns (acts : List Act) (hacts : ∀ act ∈ acts, act ≠ .dispatch)
    (hcurrent : m.state.session.Current) :
    Worked gateway m (m.run gateway acts) (turns gateway m acts) := by
  induction acts generalizing m with
  | nil => exact worked_nil hcurrent
  | cons act acts ih =>
    have hstep : Worked gateway m (act.step gateway m) [(m, act)] :=
      worked_step hcurrent act (hacts act List.mem_cons_self)
    exact hstep.append
      (ih (fun act' hmem => hacts act' (List.mem_cons_of_mem _ hmem)) hstep.current)

/-- To work off a queue is to handle its messages in turn. -/
theorem step_dispatch :
    Act.dispatch.step gateway m =
      ({ m with state := { m.state with queue := [] } } : Moment).run gateway
        (m.state.queue.map .handle) := by
  have hall : ∀ (queue : List Message) (m : Moment),
      (enact gateway (handleAll queue) m).2 = m.run gateway (queue.map .handle) := by
    intro queue
    induction queue with
    | nil => exact fun m => rfl
    | cons message rest ih =>
      intro m
      rw [enact_handleAll_cons, ih, List.map_cons, Moment.run_cons]
      unfold Act.step Act.operation
      rw [enact_map]
  unfold Act.step Act.operation
  rw [enact_map, enact_dispatch]
  exact hall _ _

theorem worked_act (hcurrent : m.state.session.Current) (act : Act) :
    Worked gateway m (act.step gateway m) (Act.operations gateway (m, act)) := by
  cases act with
  | dispatch =>
    rw [step_dispatch]
    have hturns : Worked gateway { m with state := { m.state with queue := [] } } _ _ :=
      worked_turns (m.state.queue.map .handle) (by simp) hcurrent
    exact ⟨hturns.token, hturns.current, hturns.requests, hturns.parts⟩
  | _ => exact worked_step hcurrent _ (by simp)

theorem worked_run (acts : List Act) (hcurrent : m.state.session.Current) :
    Worked gateway m (m.run gateway acts) (operations gateway m acts) := by
  induction acts generalizing m with
  | nil => exact worked_nil hcurrent
  | cons act acts ih =>
    have hstep : Worked gateway m (act.step gateway m) (Act.operations gateway (m, act)) :=
      worked_act hcurrent act
    exact hstep.append (ih hstep.current)

/-- Throughout a run every request goes to the gateway at the address that the session had when
the operation began, and carries the token of the settings. The client that is kept is the one for
the address; where that is no URL, there is none, and nobody is asked. The address is always one in
full, so that to set it once more, however it is written, changes nothing. -/
theorem asked_at_address (settings : Settings) (acts : List Act) :
    (Moment.reached gateway settings acts).trace.requests =
        (operations gateway (.start settings) acts).flatMap (asked gateway) ∧
      (∀ part ∈ operations gateway (.start settings) acts,
        (∀ request ∈ asked gateway part,
          Addressed part.1.state.session.address settings.token request) ∧
        ((∀ base, baseUrl part.1.state.session.address ≠ .ok base) →
          asked gateway part = [] ∧ (part.2.step gateway part.1).state.session.client = none)) ∧
      (∀ client, (Moment.reached gateway settings acts).state.session.client = some client →
        baseUrl (Moment.reached gateway settings acts).state.session.address = .ok client.base ∧
          client.token = settings.token) ∧
      (Moment.reached gateway settings acts).state.session.token = settings.token ∧
      normalizeAddress (Moment.reached gateway settings acts).state.status.address =
        (Moment.reached gateway settings acts).state.status.address ∧
      (∀ address,
        normalizeAddress address = (Moment.reached gateway settings acts).state.status.address →
          (Act.setAddress address).step gateway (Moment.reached gateway settings acts) =
            Moment.reached gateway settings acts) := by
  have hworked : Worked gateway (.start settings) (Moment.reached gateway settings acts)
      (operations gateway (.start settings) acts) :=
    worked_run acts (Session.current_start settings)
  have htoken : (Moment.reached gateway settings acts).state.session.token = settings.token :=
    hworked.token
  refine ⟨hworked.requests, ?_, ?_, htoken, hworked.current.address, ?_⟩
  · intro part hpart
    obtain ⟨hcurrent, hsame, hact⟩ := hworked.parts part hpart
    have hattended := attended_step gateway hcurrent part.2 hact
    obtain ⟨made, hmade, haddressed⟩ := hattended.requests
    have hasked : asked gateway part = made := by
      unfold asked
      rw [hmade, List.drop_left]
    rw [hasked]
    rw [hsame] at haddressed
    refine ⟨haddressed, ?_⟩
    intro hbase
    obtain ⟨hnone, hclient⟩ := hattended.unreachable hbase
    rw [hmade] at hnone
    exact ⟨List.append_right_eq_self.mp hnone, hclient⟩
  · intro client hclient
    obtain ⟨hbase, hown⟩ := hworked.current.client client hclient
    exact ⟨hbase, hown.trans htoken⟩
  · intro address hsame
    unfold Act.step Act.operation
    rw [enact_map, enact_setAddress, Session.setAddress_of_same hsame]
    rfl

end Runs

end ZigbeeBridge.Bridge
