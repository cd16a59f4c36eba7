import ZigbeeBridge.Proofs.Bridge.Listed
import ZigbeeBridge.Proofs.Bridge.Operation

/-!
A refresh goes the way of its tour: requests, events and result are those of the walk along the
itinerary.
-/
namespace ZigbeeBridge.Bridge

open Bus Data Gateway
open Dialogue (Attempt Behaviour Trace)

section Parts

variable (gateway : Behaviour) (client : Client) (t : Trace)

/-- The trace after some stops. -/
def past (stops : List Stop) : Trace :=
  ⟨t.requests ++ requestsAt client stops, t.events ++ published gateway client t.requests stops⟩

theorem exchange_eq (call : Call) :
    exchange gateway t (call.request client) call.read =
      (told gateway client t.requests call,
        { t with requests := t.requests ++ requestOf client call }) := by
  unfold exchange told requestOf
  cases call.request client with
  | error e =>
    change (Except.error e, t) = (Except.error e, { t with requests := t.requests ++ [] })
    rw [List.append_nil]
  | ok request => rfl

theorem outcome_told (call : Call) :
    Attempt.outcome gateway (calling (call.attempt client)) t =
      ((told gateway client t.requests call).mapError .ofGateway,
        { t with requests := t.requests ++ requestOf client call }) := by
  rw [outcome_calling, exchange_eq]

theorem requests_past (stops : List Stop) :
    (past gateway client t stops).requests = t.requests ++ requestsAt client stops := rfl

theorem past_append (stops stops' : List Stop) :
    past gateway client t (stops ++ stops') =
      past gateway client (past gateway client t stops) stops' := by
  unfold past
  rw [requestsAt_append, published_append, List.append_assoc, List.append_assoc]

theorem past_singleton (stop : Stop) :
    past gateway client t [stop] =
      ⟨t.requests ++ stop.requests client,
        t.events ++ (stop.event? gateway client t.requests).toList⟩ := by
  unfold past
  rw [published_cons]
  simp [requestsAt, published, visits]

end Parts

section Simulation

variable {α β : Type} (gateway : Behaviour) (client : Client) (policy : ItemFailure)

/-- An attempt goes the way of the walk along some stops: it gets as far, leaves the trace of what
was visited, and comes to the same result. -/
def Follows (attempt : Attempt Error α) (report : α → Report) (stops : List Stop) (start : Report)
    (t : Trace) : Prop :=
  let w := walk gateway client policy stops start t.requests
  ∃ result, result.map report = w.result ∧
    Attempt.outcome gateway attempt t = (result, past gateway client t w.visited)

theorem follows_pure (a : α) (report : α → Report) (t : Trace) :
    Follows gateway client policy (pure a) report [] (report a) t := by
  refine ⟨.ok a, rfl, ?_⟩
  rw [Attempt.outcome_pure]
  simp [past, walk, requestsAt, published, visits]

theorem follows_bind (attempt : Attempt Error α) (next : α → Attempt Error β)
    (report : α → Report) (report' : β → Report) (stops stops' : List Stop) (start : Report)
    (t : Trace) (hattempt : Follows gateway client policy attempt report stops start t)
    (hnext : ∀ a, (Attempt.outcome gateway attempt t).1 = .ok a →
      Follows gateway client policy (next a) report' stops' (report a)
        (past gateway client t stops)) :
    Follows gateway client policy (attempt >>= next) report' (stops ++ stops') start t := by
  obtain ⟨result, hresult, houtcome⟩ := hattempt
  unfold Follows
  rw [walk_append]
  cases result with
  | error e =>
    rw [Walk.andThen_of_error hresult.symm]
    refine ⟨.error e, hresult, ?_⟩
    rw [Attempt.outcome_bind, houtcome]
  | ok a =>
    have hvisited := visited_of_ok gateway client policy stops start (report a) t.requests
      hresult.symm
    obtain ⟨result', hresult', houtcome'⟩ := hnext a (congrArg Prod.fst houtcome)
    rw [Walk.andThen_of_ok hresult.symm]
    refine ⟨result', hresult', ?_⟩
    rw [Attempt.outcome_bind, houtcome]
    dsimp only
    rw [hvisited, houtcome', past_append]
    rfl

theorem follows_foldlM (item : α → β → Attempt Error α) (report : α → Report) (stop : β → Stop)
    (hitem : ∀ b a t, Follows gateway client policy (item a b) report [stop b] (report a) t)
    (bs : List β) (a : α) (t : Trace) :
    Follows gateway client policy (bs.foldlM item a) report (bs.map stop) (report a) t := by
  induction bs generalizing a t with
  | nil => exact follows_pure gateway client policy a report t
  | cons b bs ih =>
    rw [List.foldlM_cons]
    exact follows_bind gateway client policy (item a b) (fun a => bs.foldlM item a) report report
      [stop b] (bs.map stop) (report a) t (hitem b a t) fun a' _ => ih a' _

end Simulation

section Entities

variable (gateway : Behaviour) (client : Client) (plan : RefreshPlan) (t : Trace)

/-- A pause between fetches leaves no trace. -/
theorem outcome_fetchItem (count : Report → Report) (fetch : Attempt Error (Option Event))
    (progress : Progress) :
    Attempt.outcome gateway (fetchItem plan count fetch progress) t =
      let fetched := Attempt.outcome gateway fetch t
      let concluded :=
        (conclude plan.policy count progress.report fetched.1).run gateway fetched.2
      (concluded.1.map (⟨·, true⟩), concluded.2) := by
  have hrest : Attempt.outcome gateway (do
      let result ← liftM fetch.run
      let report ← ExceptT.mk (conclude plan.policy count progress.report result)
      pure (⟨report, true⟩ : Progress) : Attempt Error Progress) t =
      let fetched := Attempt.outcome gateway fetch t
      let concluded :=
        (conclude plan.policy count progress.report fetched.1).run gateway fetched.2
      (concluded.1.map (⟨·, true⟩), concluded.2) := by
    rw [Attempt.outcome_bind, Attempt.outcome_liftM]
    dsimp only
    rw [← map_eq_pure_bind, Attempt.outcome_map, Attempt.outcome_mk]
    rfl
  unfold fetchItem
  cases progress.fetched with
  | true =>
    rw [if_pos rfl, Attempt.outcome_bind, Attempt.outcome_liftM, Dialogue.run_pausing]
    exact hrest
  | false => exact hrest

/-- What a stop brings is published, or its failure is dealt with. -/
theorem follows_of_conclude (stop : Stop) (hentry : stop.isListing = false)
    (attempt : Attempt Error Progress) (start : Report) (f : Report → Progress)
    (hf : ∀ report, (f report).report = report)
    (houtcome : Attempt.outcome gateway attempt t =
      let concluded := (conclude plan.policy stop.count start
        ((stop.outcome gateway client t.requests).mapError .ofGateway)).run gateway
          { t with requests := t.requests ++ stop.requests client }
      (concluded.1.map f, concluded.2)) :
    Follows gateway client plan.policy attempt Progress.report [stop] start t := by
  have hpast := past_singleton gateway client t stop
  have hquiet : stop.event? gateway client t.requests = none → past gateway client t [stop] =
      { t with requests := t.requests ++ stop.requests client } := by
    intro hnone
    rw [hpast, hnone, Option.toList_none, List.append_nil]
  unfold Stop.event? at hpast hquiet
  unfold Follows
  rw [houtcome]
  cases hstop : stop.outcome gateway client t.requests with
  | ok event? =>
    rw [hstop] at hpast hquiet
    rw [walk_cons_of_ok gateway client plan.policy [] start hstop]
    cases event? with
    | none =>
      refine ⟨.ok (f start), congrArg Except.ok (hf start), ?_⟩
      exact Prod.ext rfl (hquiet rfl).symm
    | some event =>
      refine ⟨.ok (f (stop.count start)), congrArg Except.ok (hf _), ?_⟩
      exact Prod.ext rfl hpast.symm
  | error flaw =>
    rw [hstop] at hquiet
    cases plan.policy with
    | abort =>
      rw [walk_cons_of_end gateway client .abort [] start hstop (Or.inr rfl)]
      refine ⟨.error (.ofGateway flaw), rfl, ?_⟩
      exact Prod.ext rfl (hquiet rfl).symm
    | isolate =>
      rw [walk_cons_of_failure gateway client .isolate [] start hstop (by simp [hentry])]
      refine ⟨.ok (f start.addFailure), congrArg Except.ok (hf _), ?_⟩
      exact Prod.ext rfl (hquiet rfl).symm

theorem outcome_event (call : Call) (f : call.Result → Option Event) :
    Attempt.outcome gateway (do pure (f (← calling (call.attempt client)))) t =
      (((told gateway client t.requests call).map f).mapError .ofGateway,
        { t with requests := t.requests ++ requestOf client call }) := by
  rw [Attempt.outcome_bind, outcome_told]
  cases told gateway client t.requests call with
  | error e => rfl
  | ok found => rfl

theorem follows_fetchItem (stop : Stop) (hentry : stop.isListing = false)
    (fetch : Attempt Error (Option Event)) (progress : Progress)
    (hfetch : Attempt.outcome gateway fetch t =
      ((stop.outcome gateway client t.requests).mapError .ofGateway,
        { t with requests := t.requests ++ stop.requests client })) :
    Follows gateway client plan.policy (fetchItem plan stop.count fetch progress) Progress.report
      [stop] progress.report t := by
  refine follows_of_conclude gateway client plan t stop hentry _ progress.report (⟨·, true⟩)
    (fun _ => rfl) ?_
  rw [outcome_fetchItem, hfetch]

theorem follows_light (summary : Summary) (progress : Progress) :
    Follows gateway client plan.policy
      (fetchItem plan Report.addLight (lightEvent client summary) progress) Progress.report
      [.light summary.id] progress.report t :=
  follows_fetchItem gateway client plan t (.light summary.id) rfl _ progress
    (outcome_event gateway client t (.light summary.id) fun found => some (ofLight found))

theorem follows_group (summary : Summary) (progress : Progress) :
    Follows gateway client plan.policy
      (fetchItem plan Report.addGroup (groupEvent client summary) progress) Progress.report
      [.group summary.id] progress.report t :=
  follows_fetchItem gateway client plan t (.group summary.id) rfl _ progress
    (outcome_event gateway client t (.group summary.id) fun found => some (ofGroup found))

/-- How a sensor is reported depends on its type alone. -/
theorem resolution_cases (info : SensorInfo) :
    (info.type ∈ metered ∧ ∃ type, Resolution.of info = .fetch type) ∨
      (info.type ∉ metered ∧ info.type = plain ∧ Resolution.of info = .fromListing ∧
        Sensor.ofInfo? info = some ⟨info, .switch⟩) ∨
      (info.type ∉ metered ∧ info.type ≠ plain ∧ Resolution.of info = .skip) := by
  unfold Resolution.of Sensor.ofInfo?
  cases htype : info.sensorType? with
  | none =>
    have hnames : ∀ type ∈ SensorType.all, type.name ≠ info.type := by
      intro type hmem hname
      have hnone := List.find?_eq_none.mp htype type hmem
      exact hnone (decide_eq_true hname)
    refine Or.inr (Or.inr ⟨?_, ?_, rfl⟩)
    · intro hmetered
      simp only [metered, List.mem_cons, List.not_mem_nil, or_false] at hmetered
      rcases hmetered with h | h | h
      · exact hnames .power (by decide) h.symm
      · exact hnames .consumption (by decide) h.symm
      · exact hnames .temperature (by decide) h.symm
    · exact fun hplain => hnames .switch (by decide) hplain.symm
  | some type =>
    have hfind : SensorType.all.find? (·.name = info.type) = some type := htype
    have hfound := List.find?_some hfind
    have hname : type.name = info.type := of_decide_eq_true hfound
    rw [← hname]
    cases type with
    | switch => exact Or.inr (Or.inl ⟨by decide, rfl, rfl, rfl⟩)
    | power | consumption | temperature => exact Or.inl ⟨by decide, _, rfl⟩

theorem follows_sensor (info : SensorInfo) (progress : Progress) :
    Follows gateway client plan.policy (refreshSensor client plan progress info) Progress.report
      [.sensor info] progress.report t := by
  unfold refreshSensor
  rcases resolution_cases info with ⟨hmetered, type, hfetch⟩ | ⟨hmetered, hplain, hlisting, hinfo⟩ |
    ⟨hmetered, hplain, hskip⟩
  · rw [hfetch]
    have houtcome : Attempt.outcome gateway (sensorEvent client info) t =
        (((Stop.sensor info).outcome gateway client t.requests).mapError .ofGateway,
          { t with requests := t.requests ++ (Stop.sensor info).requests client }) := by
      rw [Stop.outcome, if_pos hmetered, Stop.requests_of_metered client hmetered]
      exact outcome_event gateway client t (.sensor info.id) fun (found : Option Sensor) =>
        found.map ofSensor
    exact follows_fetchItem gateway client plan t (.sensor info) rfl _ progress houtcome
  · rw [hlisting]
    refine follows_of_conclude gateway client plan t (.sensor info) rfl _ progress.report
      (fun report => { progress with report }) (fun _ => rfl) ?_
    rw [Stop.outcome, if_neg hmetered, if_pos hplain, Stop.requests_of_not_metered client hmetered,
      List.append_nil, hinfo]
    dsimp only
    rw [← map_eq_pure_bind, Attempt.outcome_map, Attempt.outcome_mk]
    rfl
  · rw [hskip]
    refine follows_of_conclude gateway client plan t (.sensor info) rfl _ progress.report
      (fun report => { progress with report }) (fun _ => rfl) ?_
    rw [Stop.outcome, if_neg hmetered, if_neg hplain, Stop.requests_of_not_metered client hmetered,
      List.append_nil]
    rfl

end Entities

section Listings

variable {β : Type} (gateway : Behaviour) (client : Client) (plan : RefreshPlan) (t : Trace)

/-- A listing and, one after the other, the entries that it tells of. -/
theorem follows_phase (phase : Phase) (stop : β → Stop) (list : Attempt Error (List β))
    (item : Progress → β → Attempt Error Progress) (answer : Except Gateway.Error (List β))
    (hlist : Attempt.outcome gateway list t =
      (answer.mapError .ofGateway,
        { t with requests := t.requests ++ requestOf client phase.call }))
    (hlisting : (Stop.listing phase).outcome gateway client t.requests = answer.map fun _ => none)
    (hentries : phase.entries gateway client t.requests = stopsOf stop answer)
    (hitem : ∀ b progress t, Follows gateway client plan.policy (item progress b) Progress.report
      [stop b] progress.report t)
    (progress : Progress) :
    Follows gateway client plan.policy (do (← list).foldlM item progress) Progress.report
      (.listing phase :: phase.entries gateway client t.requests) progress.report t := by
  have hpast : past gateway client t [.listing phase] =
      { t with requests := t.requests ++ requestOf client phase.call } := by
    rw [past_singleton]
    unfold Stop.event?
    rw [hlisting]
    cases answer with
    | error e => exact congrArg (Trace.mk _) (List.append_nil _)
    | ok bs => exact congrArg (Trace.mk _) (List.append_nil _)
  have hfirst : Follows gateway client plan.policy list (fun _ => progress.report)
      [.listing phase] progress.report t := by
    unfold Follows
    rw [hlist]
    cases answer with
    | error e =>
      rw [walk_cons_of_end gateway client plan.policy [] _ hlisting (Or.inl rfl)]
      exact ⟨.error (.ofGateway e), rfl, Prod.ext rfl hpast.symm⟩
    | ok bs =>
      rw [walk_cons_of_ok gateway client plan.policy [] _ hlisting]
      exact ⟨.ok bs, rfl, Prod.ext rfl hpast.symm⟩
  refine follows_bind gateway client plan.policy list _ _ Progress.report [.listing phase]
    (phase.entries gateway client t.requests) progress.report t hfirst ?_
  intro bs hbs
  rw [hlist] at hbs
  have hanswer : answer = .ok bs := by
    cases answer with
    | error e => cases hbs
    | ok bs' =>
      cases hbs
      rfl
  rw [hentries, hanswer]
  exact follows_foldlM gateway client plan.policy item Progress.report stop hitem bs progress _

theorem follows_lights (progress : Progress) :
    Follows gateway client plan.policy (refreshLights client plan progress) Progress.report
      (.listing .lights :: Phase.lights.entries gateway client t.requests) progress.report t := by
  have hlist : Attempt.outcome gateway (calling client.listLights) t =
      ((told gateway client t.requests .lights).mapError .ofGateway,
        { t with requests := t.requests ++ requestOf client Phase.lights.call }) :=
    outcome_told gateway client t .lights
  refine follows_phase gateway client plan t .lights (fun summary : Summary => .light summary.id)
    (calling client.listLights) _ (told gateway client t.requests .lights) hlist rfl ?_
    (fun summary progress t => follows_light gateway client plan t summary progress) progress
  rw [Phase.entries]

theorem follows_groups (progress : Progress) :
    Follows gateway client plan.policy (refreshGroups client plan progress) Progress.report
      (.listing .groups :: Phase.groups.entries gateway client t.requests) progress.report t := by
  have hlist : Attempt.outcome gateway (calling client.listGroups) t =
      ((told gateway client t.requests .groups).mapError .ofGateway,
        { t with requests := t.requests ++ requestOf client Phase.groups.call }) :=
    outcome_told gateway client t .groups
  refine follows_phase gateway client plan t .groups (fun summary : Summary => .group summary.id)
    (calling client.listGroups) _ (told gateway client t.requests .groups) hlist rfl ?_
    (fun summary progress t => follows_group gateway client plan t summary progress) progress
  rw [Phase.entries]

theorem follows_sensors (progress : Progress) :
    Follows gateway client plan.policy (refreshSensors client plan progress) Progress.report
      (.listing .sensors :: Phase.sensors.entries gateway client t.requests) progress.report t := by
  have hlist : Attempt.outcome gateway (calling client.listSensors) t =
      ((told gateway client t.requests .sensors).mapError .ofGateway,
        { t with requests := t.requests ++ requestOf client Phase.sensors.call }) :=
    outcome_told gateway client t .sensors
  refine follows_phase gateway client plan t .sensors .sensor
    (calling client.listSensors) _ (told gateway client t.requests .sensors) hlist rfl ?_
    (fun info progress t => follows_sensor gateway client plan t info progress) progress
  rw [Phase.entries]

theorem follows_report (attempt : Attempt Error Progress) (stops : List Stop) (start : Report)
    (hattempt : Follows gateway client plan.policy attempt Progress.report stops start t) :
    Follows gateway client plan.policy (do pure (← attempt).report) id stops start t := by
  rw [← List.append_nil stops]
  exact follows_bind gateway client plan.policy attempt _ Progress.report id stops [] start t
    hattempt fun progress _ => follows_pure gateway client plan.policy progress.report id _

/-- A refresh goes the way of its itinerary. -/
theorem follows_refreshAll :
    Follows gateway client plan.policy (refreshAll client plan) id
      (itinerary gateway client (phases plan.sensors) t.requests) .empty t := by
  unfold refreshAll phases
  rw [List.cons_append, itinerary]
  refine follows_bind gateway client plan.policy (refreshLights client plan .start) _
    Progress.report id _ _ Report.empty t (follows_lights gateway client plan t .start) ?_
  intro progress _
  rw [← requests_past gateway client t, List.cons_append, itinerary, List.nil_append]
  refine follows_bind gateway client plan.policy (refreshGroups client plan progress) _
    Progress.report id _ _ progress.report _ (follows_groups gateway client plan _ progress) ?_
  intro progress' _
  rw [← requests_past gateway client]
  cases plan.sensors with
  | true =>
    rw [if_pos rfl, if_pos rfl, itinerary, itinerary, List.append_nil]
    refine follows_report gateway client plan _ _ _ _ ?_
    exact follows_sensors gateway client plan _ progress'
  | false => exact follows_pure gateway client plan.policy progress'.report id _

theorem outcome_refreshAll :
    Attempt.outcome gateway (refreshAll client plan) t =
      let w := walk gateway client plan.policy
        (itinerary gateway client (phases plan.sensors) t.requests) .empty t.requests
      (w.result, past gateway client t w.visited) := by
  obtain ⟨result, hresult, houtcome⟩ := follows_refreshAll gateway client plan t
  rw [Except.map_id, id_eq] at hresult
  rw [houtcome, hresult]

end Listings

section Results

variable (gateway : Behaviour) (client : Client) (plan : RefreshPlan) (t : Trace)

theorem published_of_refreshAll (report : Report)
    (hreport : (Attempt.outcome gateway (refreshAll client plan) t).1 = .ok report) :
    ∃ published, (Attempt.outcome gateway (refreshAll client plan) t).2.events =
        t.events ++ published ∧
      report.published = published.length := by
  rw [outcome_refreshAll] at hreport ⊢
  dsimp only at hreport ⊢
  have hvisited := visited_of_ok gateway client plan.policy _ _ report t.requests hreport
  have htally := report_of_ok gateway client plan.policy t.requests _ _ report hreport
  rw [Report.empty_add] at htally
  rw [hvisited, htally]
  exact ⟨_, rfl, Report.published_tally _ _⟩

def wholeTour : List Stop := itinerary gateway client (phases plan.sensors) t.requests

/-- What a refresh does, stop by stop, and what it comes to. Its requests are those of the first
calls of the whole tour, which has no call twice. A refresh that succeeds has been everywhere and
counts what it published; one that fails does so at its last stop. -/
structure Toured (visited : List Stop) (result : Except Error Report) (t' : Trace) : Prop where
  inOrder : visited <+: wholeTour gateway client plan t
  requests : t'.requests = t.requests ++ requestsAt client visited
  events : t'.events = t.events ++ published gateway client t.requests visited
  calls : (requestsAt client visited).map .ok <+:
    ((wholeTour gateway client plan t).filterMap Stop.call?).map (Call.request client)
  once : ((wholeTour gateway client plan t).filterMap Stop.call?).Nodup
  listed : ∀ phase asked,
    ((Stop.listing phase).fails gateway client asked = true ∧
      phase.entries gateway client asked = []) ∨
      ∃ request body members, phase.call.request client = .ok request ∧
        Accepted (gateway asked request) body (.object members) ∧
        (phase.entries gateway client asked).map Stop.id? = (Entries.keys members).map some
  success : ∀ report, result = .ok report →
    visited = wholeTour gateway client plan t ∧
      (requestsAt client visited).map .ok =
        ((wholeTour gateway client plan t).filterMap Stop.call?).map (Call.request client) ∧
      report = .tally (published gateway client t.requests visited)
        (failures gateway client t.requests visited) ∧
      report.published = (published gateway client t.requests visited).length ∧
      (plan.policy = .abort → report.failed = 0)
  failure : ∀ e, result = .error e → ∃ before last flaw, visited = before ++ [last] ∧
    last.outcome gateway client (t.requests ++ requestsAt client before) = .error flaw ∧
    e = .ofGateway flaw ∧ (last.isListing ∨ plan.policy = .abort)

/-- A refresh asks for the listings and for what they tell of, each entry once and in order, and
publishes what it is told. It goes on to the end or ends with a failure of its last stop. -/
theorem toured_refreshAll :
    ∃ visited, Toured gateway client plan t visited
      (Attempt.outcome gateway (refreshAll client plan) t).1
      (Attempt.outcome gateway (refreshAll client plan) t).2 := by
  obtain ⟨result, hresult, houtcome⟩ := follows_refreshAll gateway client plan t
  rw [Except.map_id, id_eq] at hresult
  rw [houtcome]
  have hprefix := visited_isPrefix gateway client plan.policy (wholeTour gateway client plan t)
    .empty t.requests
  refine ⟨_, hprefix, rfl, rfl, requestsAt_isPrefix client hprefix,
    nodup_calls gateway client _ (nodup_phases plan.sensors) t.requests,
    fun phase asked => ids_entries gateway client asked phase, ?_, ?_⟩
  · intro report hok
    have hwalk : (walk gateway client plan.policy (wholeTour gateway client plan t) .empty
        t.requests).result = .ok report := hresult.symm.trans hok
    have hvisited := visited_of_ok gateway client plan.policy _ _ report t.requests hwalk
    have htally := report_of_ok gateway client plan.policy t.requests _ _ report hwalk
    rw [Report.empty_add] at htally
    obtain ⟨request, hrequest⟩ := request_of_ok gateway client plan.policy t.requests .lights _
      _ report hwalk
    rw [hvisited]
    refine ⟨rfl, requestsAt_eq client .lights ⟨request, hrequest⟩ _, htally, ?_, ?_⟩
    · rw [htally]
      exact Report.published_tally _ _
    · intro hpolicy
      rw [hpolicy] at hwalk
      rw [htally, Report.failed_tally]
      exact failures_of_abort gateway client t.requests _ _ report hwalk
  · intro e herror
    exact last_of_error gateway client plan.policy _ _ t.requests e (hresult.symm.trans herror)

/-- A gateway that lists one light twice over and tells nothing of it. -/
def repetitive : Behaviour := fun asked _ =>
  if asked = [] then
    .response 200 (some "\x7b\"1\":\x7b\"name\":\"a\"\x7d,\"1\":\x7b\"name\":\"b\"\x7d\x7d")
  else .response 200 (some "\x7b\x7d")

example :
    let after := Attempt.outcome repetitive (refreshAll sampleClient ⟨false, 0, .isolate⟩) .empty
    after.1.toOption = some ⟨0, 0, 0, 1⟩ ∧ after.2.requests.map Request.text =
      ["GET http://gw/api/T/lights", "GET http://gw/api/T/lights/1",
        "GET http://gw/api/T/groups"] := by
  decide +kernel

end Results

end ZigbeeBridge.Bridge
