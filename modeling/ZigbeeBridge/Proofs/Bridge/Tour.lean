import ZigbeeBridge.Bridge.Refresh
import ZigbeeBridge.Proofs.Bus.Report
import ZigbeeBridge.Proofs.Data.Result
import ZigbeeBridge.Proofs.Gateway.Call

/-!
A refresh as a tour. Its stops are the listings and, behind each listing, the entries that the
gateway lists there and then. Most stops take one call, and some bring an event. The tour ends
early at a listing that fails and, if the policy says so, at an entry that does.
-/
namespace ZigbeeBridge.Bridge

open Bus Gateway
open Dialogue (Behaviour)

inductive Phase where
  | lights
  | groups
  | sensors
  deriving DecidableEq, Repr

def Phase.call : Phase → Call
  | lights => .lights
  | groups => .groups
  | sensors => .sensors

/-- The phases of a refresh, in order. -/
def phases (sensors : Bool) : List Phase := [.lights, .groups] ++ if sensors then [.sensors] else []

inductive Stop where
  | listing (phase : Phase)
  | light (id : String)
  | group (id : String)
  | sensor (info : SensorInfo)
  deriving DecidableEq, Repr

/-- The sensors that are asked for their readings. -/
def metered : List String := ["ZHAPower", "ZHAConsumption", "ZHATemperature"]

/-- The sensors of which a listing tells all there is. -/
def plain : String := "ZGPSwitch"

section Answers

variable (gateway : Behaviour) (client : Client) (asked : List Request)

/-- The request of a call, if it can be made. -/
def requestOf (call : Call) : List Request := (call.request client).toOption.toList

/-- What the gateway answers to a call after all that it was asked. -/
def told (call : Call) : Except Gateway.Error call.Result :=
  call.request client >>= fun request => call.read (gateway asked request)

end Answers

namespace Stop

def isListing : Stop → Bool
  | listing _ => true
  | _ => false

def call? : Stop → Option Call
  | listing phase => some phase.call
  | light id => some (.light id)
  | group id => some (.group id)
  | sensor info => if info.type ∈ metered then some (.sensor info.id) else none

/-- The entry of a listing that the stop is about. -/
def id? : Stop → Option String
  | listing _ => none
  | light id => some id
  | group id => some id
  | sensor info => some info.id

variable (gateway : Behaviour) (client : Client) (asked : List Request)

def requests (stop : Stop) : List Request :=
  match stop.call? with
  | some call => requestOf client call
  | none => []

/-- What a stop brings: an error, or an event to be published, or nothing. -/
def outcome : Stop → Except Gateway.Error (Option Event)
  | listing phase => (told gateway client asked phase.call).map fun _ => none
  | light id =>
    (told gateway client asked (.light id)).map fun (found : Light) => some (ofLight found)
  | group id =>
    (told gateway client asked (.group id)).map fun (found : Group) => some (ofGroup found)
  | sensor info =>
    if info.type ∈ metered then
      (told gateway client asked (.sensor info.id)).map fun (found : Option Sensor) =>
        found.map ofSensor
    else if info.type = plain then .ok (some (ofSensor ⟨info, .switch⟩))
    else .ok none

def event? (stop : Stop) : Option Event := (stop.outcome gateway client asked).toOption.join

def fails (stop : Stop) : Bool := !(stop.outcome gateway client asked).isOk

theorem requests_of_metered {info : SensorInfo} (hmetered : info.type ∈ metered) :
    (sensor info).requests client = requestOf client (.sensor info.id) := by
  simp only [requests, call?, if_pos hmetered]

/-- A sensor that is not asked for its readings takes no request. -/
theorem requests_of_not_metered {info : SensorInfo} (hmetered : info.type ∉ metered) :
    (sensor info).requests client = [] := by
  simp only [requests, call?, if_neg hmetered]

def count : Stop → Report → Report
  | listing _ => id
  | light _ => Report.addLight
  | group _ => Report.addGroup
  | sensor _ => Report.addSensor

end Stop

section Tours

variable (gateway : Behaviour) (client : Client)

def requestsAt (stops : List Stop) : List Request := stops.flatMap (Stop.requests client)

/-- Each stop with what was asked before it. -/
def visits : List Request → List Stop → List (List Request × Stop)
  | _, [] => []
  | asked, stop :: rest => (asked, stop) :: visits (asked ++ stop.requests client) rest

def published (asked : List Request) (stops : List Stop) : List Event :=
  (visits client asked stops).filterMap fun visit => visit.2.event? gateway client visit.1

def failures (asked : List Request) (stops : List Stop) : Nat :=
  (visits client asked stops).countP fun visit => visit.2.fails gateway client visit.1

def stopsOf {β : Type} (stop : β → Stop) : Except Gateway.Error (List β) → List Stop
  | .ok entries => entries.map stop
  | .error _ => []

def Phase.entries (asked : List Request) : Phase → List Stop
  | lights =>
    stopsOf (fun summary : Summary => .light summary.id) (told gateway client asked .lights)
  | groups =>
    stopsOf (fun summary : Summary => .group summary.id) (told gateway client asked .groups)
  | sensors => stopsOf .sensor (told gateway client asked .sensors)

/-- All stops of the phases, each listing followed by what is listed. -/
def itinerary : List Phase → List Request → List Stop
  | [], _ => []
  | phase :: rest, asked =>
    let stops := .listing phase :: phase.entries gateway client asked
    stops ++ itinerary rest (asked ++ requestsAt client stops)

theorem requestsAt_append (stops stops' : List Stop) :
    requestsAt client (stops ++ stops') = requestsAt client stops ++ requestsAt client stops' :=
  List.flatMap_append

theorem visits_append (asked : List Request) (stops stops' : List Stop) :
    visits client asked (stops ++ stops') =
      visits client asked stops ++ visits client (asked ++ requestsAt client stops) stops' := by
  induction stops generalizing asked with
  | nil => simp [visits, requestsAt]
  | cons stop rest ih =>
    simp only [List.cons_append, visits, ih, requestsAt, List.flatMap_cons, List.append_assoc]

theorem published_cons (asked : List Request) (stop : Stop) (rest : List Stop) :
    published gateway client asked (stop :: rest) =
      (stop.event? gateway client asked).toList ++
        published gateway client (asked ++ stop.requests client) rest := by
  unfold published
  rw [visits, List.filterMap_cons]
  cases stop.event? gateway client asked with
  | none => rfl
  | some event => rfl

theorem published_append (asked : List Request) (stops stops' : List Stop) :
    published gateway client asked (stops ++ stops') =
      published gateway client asked stops ++
        published gateway client (asked ++ requestsAt client stops) stops' := by
  unfold published
  rw [visits_append, List.filterMap_append]

theorem failures_cons (asked : List Request) (stop : Stop) (rest : List Stop) :
    failures gateway client asked (stop :: rest) =
      failures gateway client (asked ++ stop.requests client) rest +
        if stop.fails gateway client asked then 1 else 0 := by
  unfold failures
  exact List.countP_cons

end Tours

/-- How far a tour gets, and what it comes to. -/
structure Walk where
  visited : List Stop
  result : Except Error Report

namespace Walk

/-- The same tour with a stop in front. -/
def cons (stop : Stop) (w : Walk) : Walk := ⟨stop :: w.visited, w.result⟩

/-- The tour and, if it succeeds, another one. -/
def andThen (w : Walk) (next : Report → Walk) : Walk :=
  match w.result with
  | .ok report => ⟨w.visited ++ (next report).visited, (next report).result⟩
  | .error _ => w

theorem andThen_of_ok {w : Walk} {report : Report} (hok : w.result = .ok report)
    (next : Report → Walk) :
    w.andThen next = ⟨w.visited ++ (next report).visited, (next report).result⟩ := by
  unfold andThen
  rw [hok]

theorem andThen_of_error {w : Walk} {e : Error} (herror : w.result = .error e)
    (next : Report → Walk) : w.andThen next = w := by
  unfold andThen
  rw [herror]

theorem cons_andThen (stop : Stop) (w : Walk) (next : Report → Walk) :
    (w.cons stop).andThen next = (w.andThen next).cons stop := by
  obtain ⟨visited, result⟩ := w
  cases result with
  | ok report => rfl
  | error e => rfl

end Walk

section Walks

variable (gateway : Behaviour) (client : Client) (policy : ItemFailure)

/-- Goes from stop to stop until one of them ends the tour. -/
def walk : List Stop → Report → List Request → Walk
  | [], report, _ => ⟨[], .ok report⟩
  | stop :: rest, report, asked =>
    match stop.outcome gateway client asked with
    | .ok event? =>
      (walk rest (if event?.isSome then stop.count report else report)
        (asked ++ stop.requests client)).cons stop
    | .error e =>
      if stop.isListing ∨ policy = .abort then ⟨[stop], .error (.ofGateway e)⟩
      else (walk rest report.addFailure (asked ++ stop.requests client)).cons stop

section Steps

variable {asked : List Request} {stop : Stop} (rest : List Stop) (report : Report)

theorem walk_cons_of_ok {event? : Option Event}
    (hstop : stop.outcome gateway client asked = .ok event?) :
    walk gateway client policy (stop :: rest) report asked =
      (walk gateway client policy rest (if event?.isSome then stop.count report else report)
        (asked ++ stop.requests client)).cons stop := by
  rw [walk, hstop]

theorem walk_cons_of_end {e : Gateway.Error} (hstop : stop.outcome gateway client asked = .error e)
    (hends : stop.isListing ∨ policy = .abort) :
    walk gateway client policy (stop :: rest) report asked = ⟨[stop], .error (.ofGateway e)⟩ := by
  rw [walk, hstop]
  exact if_pos hends

theorem walk_cons_of_failure {e : Gateway.Error}
    (hstop : stop.outcome gateway client asked = .error e)
    (hstays : ¬(stop.isListing ∨ policy = .abort)) :
    walk gateway client policy (stop :: rest) report asked =
      (walk gateway client policy rest report.addFailure
        (asked ++ stop.requests client)).cons stop := by
  rw [walk, hstop]
  exact if_neg hstays

end Steps

theorem walk_append (stops stops' : List Stop) (report : Report) (asked : List Request) :
    walk gateway client policy (stops ++ stops') report asked =
      (walk gateway client policy stops report asked).andThen fun report' =>
        walk gateway client policy stops' report' (asked ++ requestsAt client stops) := by
  induction stops generalizing report asked with
  | nil => simp [walk, Walk.andThen, requestsAt]
  | cons stop rest ih =>
    have hrequests : asked ++ requestsAt client (stop :: rest) =
        asked ++ stop.requests client ++ requestsAt client rest := by
      simp [requestsAt]
    rw [hrequests, List.cons_append, walk, walk]
    split
    · rw [ih, Walk.cons_andThen]
    · split
      · rfl
      · rw [ih, Walk.cons_andThen]

/-- A tour takes its stops in order and leaves none out. -/
theorem visited_isPrefix (stops : List Stop) (report : Report) (asked : List Request) :
    (walk gateway client policy stops report asked).visited <+: stops := by
  induction stops generalizing report asked with
  | nil => exact List.prefix_rfl
  | cons stop rest ih =>
    unfold walk
    split
    · exact List.cons_prefix_cons.mpr ⟨rfl, ih _ _⟩
    · split
      · exact List.cons_prefix_cons.mpr ⟨rfl, List.nil_prefix⟩
      · exact List.cons_prefix_cons.mpr ⟨rfl, ih _ _⟩

theorem visited_of_ok (stops : List Stop) (report report' : Report) (asked : List Request)
    (hok : (walk gateway client policy stops report asked).result = .ok report') :
    (walk gateway client policy stops report asked).visited = stops := by
  induction stops generalizing report asked with
  | nil => rfl
  | cons stop rest ih =>
    unfold walk at hok ⊢
    split at hok
    · exact congrArg (stop :: ·) (ih _ _ hok)
    · split at hok
      · cases hok
      · rename_i hstays
        rw [if_neg hstays]
        exact congrArg (stop :: ·) (ih _ _ hok)

theorem request_of_ok (asked : List Request) (phase : Phase) (rest : List Stop)
    (report report' : Report)
    (hok : (walk gateway client policy (.listing phase :: rest) report asked).result =
      .ok report') : ∃ request, phase.call.request client = .ok request := by
  cases hrequest : phase.call.request client with
  | ok request => exact ⟨request, rfl⟩
  | error e =>
    have hstop : (Stop.listing phase).outcome gateway client asked = .error e := by
      rw [Stop.outcome, told, hrequest]
      rfl
    rw [walk_cons_of_end gateway client policy rest report hstop (Or.inl rfl)] at hok
    cases hok

/-- A tour that fails does so at its last stop: a listing, or an entry that may not fail. -/
theorem last_of_error (stops : List Stop) (report : Report) (asked : List Request) (e : Error)
    (herror : (walk gateway client policy stops report asked).result = .error e) :
    ∃ before last flaw,
      (walk gateway client policy stops report asked).visited = before ++ [last] ∧
        last.outcome gateway client (asked ++ requestsAt client before) = .error flaw ∧
        e = .ofGateway flaw ∧ (last.isListing ∨ policy = .abort) := by
  induction stops generalizing report asked with
  | nil => cases herror
  | cons stop rest ih =>
    have hlater : ∀ report', (walk gateway client policy rest report'
        (asked ++ stop.requests client)).result = .error e →
        ∃ before last flaw, ((walk gateway client policy rest report'
            (asked ++ stop.requests client)).cons stop).visited = before ++ [last] ∧
          last.outcome gateway client (asked ++ requestsAt client before) = .error flaw ∧
          e = .ofGateway flaw ∧ (last.isListing ∨ policy = .abort) := by
      intro report' hrest
      obtain ⟨before, last, flaw, hvisited, houtcome, hflaw, hends⟩ := ih _ _ hrest
      refine ⟨stop :: before, last, flaw, congrArg (stop :: ·) hvisited, ?_, hflaw, hends⟩
      simpa [requestsAt] using houtcome
    unfold walk at herror ⊢
    split at herror
    · exact hlater _ herror
    · rename_i flaw hflaw
      split at herror
      · rename_i hends
        cases herror
        refine ⟨[], stop, flaw, ?_, ?_, rfl, hends⟩
        · rw [if_pos hends]
          rfl
        · simpa [requestsAt] using hflaw
      · rename_i hstays
        rw [if_neg hstays]
        exact hlater _ herror

end Walks

namespace Report

/-- The report that counts the events by what they are about. -/
def tally (events : List Event) (failed : Nat) : Report :=
  { lights := events.countP fun event => event.kind = .light
    groups := events.countP fun event => event.kind = .group
    sensors := events.countP fun event => event.kind ≠ .light ∧ event.kind ≠ .group
    failed }

theorem failed_tally (events : List Event) (failed : Nat) : (tally events failed).failed = failed :=
  rfl

def add (report report' : Report) : Report :=
  { lights := report.lights + report'.lights
    groups := report.groups + report'.groups
    sensors := report.sensors + report'.sensors
    failed := report.failed + report'.failed }

theorem add_assoc (a b c : Report) : (a.add b).add c = a.add (b.add c) := by
  simp only [add, Nat.add_assoc]

theorem empty_add (report : Report) : empty.add report = report := by
  simp only [add, empty, Nat.zero_add]

theorem published_add (report report' : Report) :
    (report.add report').published = report.published + report'.published := by
  unfold published add
  dsimp only
  omega

theorem tally_append (events events' : List Event) (failed failed' : Nat) :
    tally (events ++ events') (failed + failed') =
      (tally events failed).add (tally events' failed') := by
  simp only [tally, add, List.countP_append]

theorem published_tally (events : List Event) (failed : Nat) :
    (tally events failed).published = events.length := by
  induction events with
  | nil => rfl
  | cons event rest ih =>
    have hone : (tally [event] 0).published = 1 := by
      unfold published tally
      simp only [List.countP_singleton]
      cases event.kind with
      | light | group | sensor | sensorPower | sensorConsumption | sensorTemperature => rfl
    have hsplit := tally_append [event] rest 0 failed
    rw [Nat.zero_add, List.singleton_append] at hsplit
    rw [hsplit, published_add, hone, ih, List.length_cons, Nat.add_comm]

end Report

section Counts

variable (gateway : Behaviour) (client : Client) (policy : ItemFailure) (asked : List Request)

private theorem kind_of_sensor (sensor : Sensor) :
    (ofSensor sensor).kind ≠ .light ∧ (ofSensor sensor).kind ≠ .group := by
  rw [kind_ofSensor]
  cases sensor.reading.sensorType with
  | switch | power | consumption | temperature => decide

theorem count_eq (stop : Stop) (event : Event) (report : Report)
    (hevent : stop.outcome gateway client asked = .ok (some event)) :
    stop.count report = report.add (.tally [event] 0) := by
  cases stop with
  | listing phase =>
    rw [Stop.outcome] at hevent
    obtain ⟨found, -, hnone⟩ := Data.map_eq_ok hevent
    cases hnone
  | light id =>
    rw [Stop.outcome] at hevent
    obtain ⟨found, -, hfound⟩ := Data.map_eq_ok hevent
    rw [← Option.some.inj hfound]
    simp [Stop.count, Report.addLight, Report.add, Report.tally, kind_ofLight]
  | group id =>
    rw [Stop.outcome] at hevent
    obtain ⟨found, -, hfound⟩ := Data.map_eq_ok hevent
    rw [← Option.some.inj hfound]
    simp [Stop.count, Report.addGroup, Report.add, Report.tally, kind_ofGroup]
  | sensor info =>
    have hsensor : ∃ sensor, event = ofSensor sensor := by
      rw [Stop.outcome] at hevent
      split at hevent
      · obtain ⟨found, -, hfound⟩ := Data.map_eq_ok hevent
        obtain ⟨sensor, -, hsensor⟩ := Option.map_eq_some_iff.mp hfound
        exact ⟨sensor, hsensor.symm⟩
      · split at hevent
        · cases hevent
          exact ⟨_, rfl⟩
        · cases hevent
    obtain ⟨sensor, rfl⟩ := hsensor
    have hkind := kind_of_sensor sensor
    simp [Stop.count, Report.addSensor, Report.add, Report.tally, hkind]

theorem report_of_ok (stops : List Stop) (report report' : Report)
    (hok : (walk gateway client policy stops report asked).result = .ok report') :
    report' = report.add
      (.tally (published gateway client asked stops) (failures gateway client asked stops)) := by
  induction stops generalizing report asked with
  | nil =>
    cases hok
    rfl
  | cons stop rest ih =>
    rw [published_cons, failures_cons, Nat.add_comm, Report.tally_append, ← Report.add_assoc]
    unfold walk at hok
    unfold Stop.event? Stop.fails
    split at hok
    · rename_i event? hevent
      rw [ih _ _ hok, hevent]
      cases event? with
      | none => rfl
      | some event =>
        simp only [Option.isSome_some, if_true]
        rw [count_eq gateway client asked stop event report hevent]
        rfl
    · rename_i flaw hflaw
      split at hok
      · cases hok
      · rw [ih _ _ hok, hflaw]
        rfl

/-- Where no entry may fail, none does in a tour that succeeds. -/
theorem failures_of_abort (stops : List Stop) (report report' : Report)
    (hok : (walk gateway client .abort stops report asked).result = .ok report') :
    failures gateway client asked stops = 0 := by
  induction stops generalizing report asked with
  | nil => rfl
  | cons stop rest ih =>
    rw [failures_cons]
    unfold walk at hok
    unfold Stop.fails
    split at hok
    · rename_i event? hevent
      rw [ih _ _ hok, hevent]
      rfl
    · rename_i flaw hflaw
      rw [if_pos (Or.inr rfl)] at hok
      cases hok

end Counts

end ZigbeeBridge.Bridge
