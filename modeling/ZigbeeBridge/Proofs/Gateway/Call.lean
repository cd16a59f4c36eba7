import ZigbeeBridge.Gateway.Client
import ZigbeeBridge.Proofs.Data.Result
import ZigbeeBridge.Proofs.Dialogue.Run
import ZigbeeBridge.Proofs.Url.Stem

/-!
The calls of a client as one family. Each is a single request, and its result is read off the
answer to that request alone.
-/
namespace ZigbeeBridge.Gateway

open Data
open Dialogue (Attempt Behaviour Trace settle)

section Replies

variable {α β : Type}

/-- What an answer comes to when its status, text, document and envelope are all in order. -/
def accept (interpret : String → Value → Except Error α) (answer : Answer) : Except Error α := do
  let body ← content answer
  let v ← document body
  checkEnvelope v
  interpret body v

/-- The decoding of a whole body; an error carries all of its text. -/
def whole (decode : Value → Except DecodeError α) (body : String) (v : Value) :
    Except Error α :=
  (decode v).mapError fun e => .undecodable (Json.wording e) body

theorem accept_bind (interpret : String → Value → Except Error α) (next : α → Except Error β)
    (answer : Answer) :
    (accept interpret answer >>= next) =
      accept (fun body v => interpret body v >>= next) answer := by
  unfold accept
  cases content answer with
  | error e => rfl
  | ok body =>
    cases hdocument : document body with
    | error e => simp [bind, Except.bind, hdocument]
    | ok v =>
      cases henvelope : checkEnvelope v with
      | error e => simp [bind, Except.bind, hdocument, henvelope]
      | ok u => simp [bind, Except.bind, hdocument, henvelope]

theorem accept_map (interpret : String → Value → Except Error α) (f : α → β) (answer : Answer) :
    (accept interpret answer).map f = accept (fun body v => (interpret body v).map f) answer := by
  have hmap : ∀ result : Except Error α, result.map f = result >>= fun a => .ok (f a) := by
    intro result
    cases result with
    | error e => rfl
    | ok a => rfl
  simp only [hmap, accept_bind]

end Replies

inductive Call where
  | about
  | lights
  | light (id : String)
  | setLight (id : String) (change : StateChange)
  | groups
  | group (id : String)
  | setGroup (id : String) (change : StateChange)
  | sensors
  | sensorDetail (id : String)
  | sensor (id : String)
  deriving DecidableEq, Repr

namespace Call

def Result : Call → Type
  | about => About
  | lights | groups => List Summary
  | light _ => Light
  | setLight _ _ | setGroup _ _ => Unit
  | group _ => Group
  | sensors => List SensorInfo
  | sensorDetail _ => Value
  | sensor _ => Option Sensor

def attempt (client : Client) : (call : Call) → Attempt Error call.Result
  | about => client.getAbout
  | lights => client.listLights
  | light id => client.getLight id
  | setLight id change => client.setLight id change
  | groups => client.listGroups
  | group id => client.getGroup id
  | setGroup id change => client.setGroup id change
  | sensors => client.listSensors
  | sensorDetail id => client.getSensorDetail id
  | sensor id => client.getSensor id

def method : Call → Method
  | setLight _ _ | setGroup _ _ => .put
  | _ => .get

def path : Call → String
  | about => "config"
  | lights => "lights"
  | light id => s!"lights/{id}"
  | setLight id _ => s!"lights/{id}/state"
  | groups => "groups"
  | group id => s!"groups/{id}"
  | setGroup id _ => s!"groups/{id}/action"
  | sensors => "sensors"
  | sensorDetail id | sensor id => s!"sensors/{id}"

def body : Call → Option String
  | setLight _ change | setGroup _ change => some change.body
  | _ => none

/-- What is made of a body that reports no error. -/
def decode : (call : Call) → String → Value → Except Error call.Result
  | about, body, v => whole About.decode body v
  | lights, body, v | groups, body, v => whole listing body v >>= summaries
  | light id, _, v => Light.decode id v
  | setLight _ _, _, _ | setGroup _ _, _, _ => .ok ()
  | group id, _, v => Group.decode id v
  | sensors, body, v => whole listing body v >>= sensorInfos
  | sensorDetail _, _, v => .ok v
  | sensor id, _, v => Sensor.decode id v

def request (client : Client) (call : Call) : Except Error Request :=
  client.request call.method call.path call.body

def read (call : Call) (answer : Answer) : Except Error call.Result := accept call.decode answer

end Call

section Outcomes

variable {α : Type} (gateway : Behaviour) (t : Trace) (client : Client)

/-- One request of a call and what is made of its answer. -/
def exchange (request : Except Error Request) (read : Answer → Except Error α) :
    Except Error α × Trace :=
  match request with
  | .error e => (.error e, t)
  | .ok request =>
    (read (gateway t.requests request), { t with requests := t.requests ++ [request] })

private theorem outcome_call (method : Method) (path : String) (body : Option String)
    (decode : Value → Except DecodeError α) :
    Attempt.outcome gateway (client.call method path body decode) t =
      exchange gateway t (client.request method path body) (accept (whole decode)) := by
  unfold Client.call exchange
  cases client.request method path body with
  | error e => rfl
  | ok request => rfl

/-- What comes after the answer is a part of reading it. -/
private theorem outcome_call_bind {β : Type} (method : Method) (path : String)
    (body : Option String) (decode : Value → Except DecodeError α)
    (next : α → Except Error β) :
    Attempt.outcome gateway (client.call method path body decode >>= fun a => settle (next a)) t =
      exchange gateway t (client.request method path body)
        (accept fun text v => whole decode text v >>= next) := by
  rw [Attempt.outcome_bind, outcome_call]
  unfold exchange
  cases client.request method path body with
  | error e => rfl
  | ok request =>
    dsimp only
    rw [← accept_bind]
    cases accept (whole decode) (gateway t.requests request) with
    | error e => rfl
    | ok a => rfl

/-- Every call is one request, or none where none can be made. -/
theorem outcome_attempt (call : Call) :
    Attempt.outcome gateway (call.attempt client) t =
      exchange gateway t (call.request client) call.read := by
  cases call with
  | about => exact outcome_call gateway t client .get "config" none About.decode
  | lights => exact outcome_call_bind gateway t client .get "lights" none listing summaries
  | groups => exact outcome_call_bind gateway t client .get "groups" none listing summaries
  | sensors => exact outcome_call_bind gateway t client .get "sensors" none listing sensorInfos
  | light id =>
    exact outcome_call_bind gateway t client .get s!"lights/{id}" none .ok (Light.decode id)
  | group id =>
    exact outcome_call_bind gateway t client .get s!"groups/{id}" none .ok (Group.decode id)
  | sensor id =>
    exact outcome_call_bind gateway t client .get s!"sensors/{id}" none .ok (Sensor.decode id)
  | setLight id change =>
    exact outcome_call gateway t client .put s!"lights/{id}/state" (some change.body)
      fun _ => .ok ()
  | setGroup id change =>
    exact outcome_call gateway t client .put s!"groups/{id}/action" (some change.body)
      fun _ => .ok ()
  | sensorDetail id =>
    exact outcome_call gateway t client .get s!"sensors/{id}" none .ok

end Outcomes

section Addresses

variable (client : Client)

/-- The place of a resource: what stands before the token, and what follows. -/
theorem place_eq (path : String) :
    s!"{dropSlashesEnd client.base.text}/api/{client.token}/{path}" =
      String.ofList ((dropSlashesEnd client.base.text).toList ++ Url.pathStart ++
        (client.token.toList ++ '/' :: path.toList)) := by
  apply String.toList_injective
  simp [Url.pathStart, toString]

theorem request_eq_ok_iff {method : Method} {path : String} {body : Option String}
    {request : Request} :
    client.request method path body = .ok request ↔
      request.method = method ∧ request.body = body ∧
        Url.parse s!"{dropSlashesEnd client.base.text}/api/{client.token}/{path}" =
          .ok request.url ∧ Client.isHttp request.url = true := by
  unfold Client.request Client.url
  constructor
  · intro hrequest
    obtain ⟨url, hurl, hrequest⟩ := bind_eq_ok hrequest
    split at hrequest
    · rename_i hhttp
      cases hrequest
      exact ⟨rfl, rfl, mapError_eq_ok hurl, hhttp⟩
    · cases hrequest
  · rintro ⟨rfl, rfl, hurl, hhttp⟩
    rw [hurl]
    exact if_pos hhttp

private theorem request_ok_iff (method : Method) (path : String) (body : Option String) :
    (∃ request, client.request method path body = .ok request) ↔
      Url.Reaches ((dropSlashesEnd client.base.text).toList ++ Url.pathStart ++
        (client.token.toList ++ '/' :: path.toList)) := by
  unfold Url.Reaches
  rw [← place_eq]
  constructor
  · rintro ⟨request, hrequest⟩
    obtain ⟨-, -, hurl, hhttp⟩ := (request_eq_ok_iff client).mp hrequest
    exact ⟨request.url, hurl, hhttp⟩
  · rintro ⟨url, hurl, hhttp⟩
    exact ⟨⟨method, url, body⟩, (request_eq_ok_iff client).mpr ⟨rfl, rfl, hurl, hhttp⟩⟩

/-- A client that can make one request can make them all. -/
theorem request_ok_of_ok (call call' : Call)
    (hsome : ∃ request, call.request client = .ok request) :
    ∃ request, call'.request client = .ok request := by
  have hreach := (request_ok_iff client call.method call.path call.body).mp hsome
  exact (request_ok_iff client call'.method call'.path call'.body).mpr
    (Url.reaches_of_reaches _ _ _ hreach)

end Addresses

def sampleClient : Client :=
  ⟨⟨"http", "", "", some (.domain "gw"), none, .segments [""], none, none⟩, "T"⟩

end ZigbeeBridge.Gateway
