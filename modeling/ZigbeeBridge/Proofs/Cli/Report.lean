import ZigbeeBridge.Cli.Errand
import ZigbeeBridge.Proofs.Bridge.Refresh
import ZigbeeBridge.Proofs.Json.Roundtrip

/-!
What the report command prints. It looks for events only after the whole refresh, when its buffer
holds no more than the latest of them.
-/
namespace ZigbeeBridge

namespace Bus

theorem received_eq (published : List Event) :
    ∃ missed, published = missed ++ (received published).events ∧
      missed.length = published.length - bufferSize ∧
      (received published).events.length = min published.length bufferSize := by
  simp only [received]
  refine ⟨published.take (published.length - bufferSize), ?_, ?_, ?_⟩
  · rw [List.take_append_drop]
  · rw [List.length_take]
    omega
  · rw [List.length_drop]
    omega

theorem received_eq_all_iff (published : List Event) :
    (received published).events = published ↔ published.length ≤ bufferSize := by
  obtain ⟨missed, hall, hmissed, hlength⟩ := received_eq published
  constructor
  · intro heq
    rw [heq] at hlength
    omega
  · intro hfew
    have hnone : missed = [] := List.eq_nil_of_length_eq_zero (by omega)
    rw [hnone, List.nil_append] at hall
    exact hall.symm

end Bus

namespace Bridge

open Bus Data Gateway Operation
open Dialogue (Attempt Behaviour Trace)

variable (gateway : Behaviour)

/-- A report that succeeds counts what it publishes. -/
theorem published_of_reportAll (sensors : Bool) (m : Moment) (report : Report)
    (hreport : (enact gateway (reportAll sensors) m).1 = .ok report) :
    ∃ published, (enact gateway (reportAll sensors) m).2.trace.events =
        m.trace.events ++ published ∧
      report.published = published.length := by
  rw [enact_reportAll, enact_refresh, enact_withClient] at hreport ⊢
  cases hclient : m.state.session.connectClient with
  | error e =>
    rw [hclient] at hreport
    cases hreport
  | ok found =>
    obtain ⟨client, session⟩ := found
    have hpublished := published_of_refreshAll gateway client
      ⟨sensors, m.state.settings.spacingMs, m.state.settings.itemFailure⟩ m.trace
    rw [hclient] at hreport
    dsimp only at hreport ⊢
    cases houtcome : (Attempt.outcome gateway (refreshAll client
        ⟨sensors, m.state.settings.spacingMs, m.state.settings.itemFailure⟩) m.trace) with
    | mk result t =>
      rw [houtcome] at hreport hpublished
      cases result with
      | error e => cases hreport
      | ok found =>
        cases hreport
        exact hpublished report rfl

section Crowds

variable (n : Nat) (client : Client) (plan : RefreshPlan)

def switchEntry : Value :=
  .object [("name", .string "Remote"), ("type", .string plain), ("modelid", .string "TRADFRI"),
    ("manufacturername", .string "IKEA")]

def strokes (n : Nat) : String := String.ofList (List.replicate n 'I')

def switches : Nat → Entries Value
  | 0 => []
  | n + 1 => (strokes n, switchEntry) :: switches n

/-- A gateway with as many switches; to the first two questions it says that there is nothing. -/
def crowded : Behaviour := fun asked _ =>
  .response 200 (some (Json.compact (.object (if asked.length < 2 then [] else switches n))))

theorem keys_switches {key : String} (hkey : key ∈ Entries.keys (switches n)) :
    ∃ m < n, key = strokes m := by
  induction n with
  | zero => cases hkey
  | succ n ih =>
    rcases List.mem_cons.mp hkey with rfl | hrest
    · exact ⟨n, Nat.lt_succ_self n, rfl⟩
    · obtain ⟨m, hm, hstrokes⟩ := ih hrest
      exact ⟨m, Nat.lt_succ_of_lt hm, hstrokes⟩

theorem strokes_injective {m n : Nat} (h : strokes m = strokes n) : m = n := by
  have hlength := congrArg (fun s : String => s.toList.length) h
  simpa [strokes] using hlength

theorem nodup_keys_switches : (Entries.keys (switches n)).Nodup := by
  induction n with
  | zero => exact List.nodup_nil
  | succ n ih =>
    refine List.nodup_cons.mpr ⟨?_, ih⟩
    intro hmem
    obtain ⟨m, hm, hstrokes⟩ := keys_switches n hmem
    exact absurd (strokes_injective hstrokes) (Nat.ne_of_gt hm)

theorem readable_switches : Json.Readable Json.maxDepth (.object (switches n)) := by
  refine .object 126 _ (nodup_keys_switches n) ?_
  induction n with
  | zero =>
    intro m hm
    cases hm
  | succ n ih =>
    intro m hm
    rcases List.mem_cons.mp hm with rfl | hrest
    · refine .object 125 _ (by decide) ?_
      intro field hfield
      simp only [List.mem_cons, List.not_mem_nil, or_false] at hfield
      rcases hfield with rfl | rfl | rfl | rfl
      · exact .string _ _
      · exact .string _ _
      · exact .string _ _
      · exact .string _ _
    · exact ih m hrest

theorem quiet_switches : Entries.get? (switches n) "error" = none := by
  induction n with
  | zero => rfl
  | succ n ih =>
    have hkey : strokes n ≠ "error" := by
      intro heq
      have hlist := congrArg String.toList heq
      rw [strokes, String.toList_ofList] at hlist
      have hmem : 'e' ∈ List.replicate n 'I' := hlist ▸ by decide
      exact absurd (List.eq_of_mem_replicate hmem) (by decide)
    rw [switches, Entries.get?, if_neg hkey, ih]

theorem accepted_crowded (asked : List Request) (request : Request) :
    Accepted (crowded n asked request)
      (Json.compact (.object (if asked.length < 2 then [] else switches n)))
      (.object (if asked.length < 2 then [] else switches n)) := by
  have hparsed : Json.parse (Json.compact (.object (if asked.length < 2 then [] else switches n))) =
      .ok (.object (if asked.length < 2 then [] else switches n)) := by
    split
    · exact Json.parse_compact (readable_switches 0)
    · exact Json.parse_compact (readable_switches n)
  refine ⟨⟨200, rfl, rfl⟩, hparsed, (quiet_iff _ _ hparsed).mpr ?_⟩
  rw [reported?]
  split
  · rfl
  · exact quiet_switches n

theorem sensorInfos_switches :
    ∃ infos, sensorInfos (switches n) = .ok infos ∧ infos.length = n ∧
      ∀ info ∈ infos, info.type = plain := by
  induction n with
  | zero => exact ⟨[], rfl, rfl, by simp⟩
  | succ n ih =>
    obtain ⟨infos, hinfos, hlength, hplain⟩ := ih
    refine ⟨⟨strokes n, "Remote", plain, "TRADFRI", "IKEA", ""⟩ :: infos, ?_, ?_, ?_⟩
    · unfold sensorInfos at hinfos ⊢
      rw [switches, List.mapM_cons, hinfos]
      rfl
    · rw [List.length_cons, hlength]
    · intro info hinfo
      rcases List.mem_cons.mp hinfo with rfl | hrest
      · rfl
      · exact hplain info hrest

theorem told_crowded (asked : List Request) (call : Call) (result : call.Result)
    (hclient : ∃ request, call.request client = .ok request)
    (hresult : ∀ body, call.decode body
      (.object (if asked.length < 2 then [] else switches n)) = .ok result) :
    told (crowded n) client asked call = .ok result := by
  obtain ⟨request, hrequest⟩ := hclient
  unfold told
  rw [hrequest]
  exact (accept_eq_ok_iff _ _ result).mpr ⟨_, _, accepted_crowded n asked request, hresult _⟩

theorem outcome_switches (gateway : Behaviour) (infos : List SensorInfo)
    (hplain : ∀ info ∈ infos, info.type = plain) (progress : Progress) (t : Trace) :
    ∃ progress' t', Attempt.outcome gateway (infos.foldlM (refreshSensor client plan) progress) t =
        (.ok progress', t') ∧
      progress'.report.published = progress.report.published + infos.length := by
  induction infos generalizing progress t with
  | nil => exact ⟨progress, t, rfl, rfl⟩
  | cons info infos ih =>
    have hlisted : Resolution.of info = .fromListing ∧
        Sensor.ofInfo? info = some ⟨info, .switch⟩ := by
      have htype := hplain info List.mem_cons_self
      rcases resolution_cases info with ⟨hmetered, -⟩ | ⟨-, -, hlisting, hinfo⟩ | ⟨-, hother, -⟩
      · rw [htype] at hmetered
        exact absurd hmetered (by decide)
      · exact ⟨hlisting, hinfo⟩
      · exact absurd htype hother
    obtain ⟨progress', t', houtcome, hpublished⟩ := ih
      (fun other hother => hplain other (List.mem_cons_of_mem _ hother))
      { progress with report := progress.report.addSensor }
      { t with events := t.events ++ [ofSensor ⟨info, .switch⟩] }
    refine ⟨progress', t', ?_, ?_⟩
    · rw [List.foldlM_cons, Attempt.outcome_bind]
      unfold refreshSensor at houtcome ⊢
      rw [hlisted.1, hlisted.2]
      exact houtcome
    · rw [hpublished, List.length_cons]
      simp only [Report.published, Report.addSensor]
      omega

theorem outcome_told_bind {α : Type} (gateway : Behaviour) (t : Trace) (call : Call)
    (next : call.Result → Attempt Error α) {request : Request} {result : call.Result}
    (hrequest : call.request client = .ok request)
    (htold : told gateway client t.requests call = .ok result) :
    Attempt.outcome gateway (calling (call.attempt client) >>= next) t =
      Attempt.outcome gateway (next result) { t with requests := t.requests ++ [request] } := by
  rw [Attempt.outcome_bind, outcome_told, htold, requestOf, hrequest]
  rfl

/-- There is no limit to what a refresh publishes. -/
theorem refreshAll_crowded (hsensors : plan.sensors = true)
    (hclient : ∃ request, Call.lights.request client = .ok request) :
    ∃ report, (Attempt.outcome (crowded n) (refreshAll client plan) .empty).1 = .ok report ∧
      report.published = n := by
  obtain ⟨infos, hinfos, hlength, hplain⟩ := sensorInfos_switches n
  obtain ⟨first, hfirst⟩ := hclient
  obtain ⟨second, hsecond⟩ := request_ok_of_ok client .lights .groups ⟨first, hfirst⟩
  obtain ⟨third, hthird⟩ := request_ok_of_ok client .lights .sensors ⟨first, hfirst⟩
  have hlights : Attempt.outcome (crowded n) (refreshLights client plan .start) .empty =
      (.ok .start, ⟨[first], []⟩) :=
    outcome_told_bind client (crowded n) .empty .lights _ hfirst
      (told_crowded n client [] .lights [] ⟨first, hfirst⟩ fun _ => rfl)
  have hgroups : Attempt.outcome (crowded n) (refreshGroups client plan .start) ⟨[first], []⟩ =
      (.ok .start, ⟨[first, second], []⟩) :=
    outcome_told_bind client (crowded n) ⟨[first], []⟩ .groups _ hsecond
      (told_crowded n client [first] .groups [] ⟨second, hsecond⟩ fun _ => rfl)
  obtain ⟨progress, t, hswitches, hpublished⟩ := outcome_switches client plan (crowded n) infos
    hplain .start ⟨[first, second, third], []⟩
  have hlast : Attempt.outcome (crowded n) (refreshSensors client plan .start)
      ⟨[first, second], []⟩ = (.ok progress, t) :=
    (outcome_told_bind client (crowded n) ⟨[first, second], []⟩ .sensors _ hthird
      (told_crowded n client [first, second] .sensors infos ⟨third, hthird⟩
        fun _ => hinfos)).trans hswitches
  refine ⟨progress.report, ?_, ?_⟩
  · unfold refreshAll
    rw [Attempt.outcome_bind, hlights]
    dsimp only
    rw [Attempt.outcome_bind, hgroups, hsensors]
    dsimp only
    rw [if_pos rfl, Attempt.outcome_bind, hlast]
    rfl
  · rw [hpublished, hlength]
    exact Nat.zero_add n

end Crowds

end Bridge

namespace Cli

open Bus Bridge Gateway Operation
open Dialogue (Attempt Behaviour Trace)

section Errands

variable (gateway : Behaviour) (settings : Settings)

/-- All events of an operation on a new bridge come with its result. -/
theorem run_onBridge {α : Type} (operation : Operation α) :
    (onBridge settings operation).run gateway .empty =
      let after := enact gateway operation (.start settings)
      (((after.1, after.2.state), after.2.trace.events), after.2.trace) := by
  obtain ⟨published, hevents, hrun⟩ := Dialogue.run_hearing gateway .empty
    (operation.run (.start settings)) []
  have hall : [] ++ published = ((operation.run (.start settings)).run gateway .empty).2.events :=
    hevents.symm
  unfold onBridge
  rw [hrun, hall]
  rfl

variable (options : Options) (profile : String) (sensors : Bool)

def wholeReport : Except Bridge.Error Report × Trace :=
  let after := enact gateway (reportAll sensors) (.start settings)
  (after.1, after.2.trace)

def printEvents (events : List Event) : Outcome :=
  printValue options (eventTable events) (.array (events.map Event.value))

/-- The command prints what is received of the events, or the error of the report. -/
theorem run_reportErrand :
    (reportErrand options profile settings sensors).run gateway .empty =
      (match (wholeReport gateway settings sensors).1 with
        | .ok _ => printEvents options
            (received (wholeReport gateway settings sensors).2.events).events
        | .error e => .failed (.ofBridge profile e),
        (wholeReport gateway settings sensors).2) := by
  unfold reportErrand wholeReport
  rw [Dialogue.run_monad_bind, run_onBridge]
  cases enact gateway (reportAll sensors) (.start settings) with
  | mk result m =>
    cases result with
    | ok report => rfl
    | error e => rfl

theorem length_wholeReport (report : Report)
    (hreport : (wholeReport gateway settings sensors).1 = .ok report) :
    (wholeReport gateway settings sensors).2.events.length = report.published := by
  simp only [wholeReport] at hreport ⊢
  obtain ⟨published, hevents, hcount⟩ :=
    published_of_reportAll gateway sensors (.start settings) report hreport
  have hstart : (Moment.start settings).trace.events = [] := rfl
  rw [hevents, hstart, List.nil_append, hcount]

/-- A report that succeeds prints the events that it published, in order, except that it misses
the first of them where there are more than the buffer holds. -/
theorem reportErrand_prints (report : Report)
    (hreport : (wholeReport gateway settings sensors).1 = .ok report) :
    ∃ missed shown, (wholeReport gateway settings sensors).2.events = missed ++ shown ∧
      (reportErrand options profile settings sensors).run gateway .empty =
        (printEvents options shown, (wholeReport gateway settings sensors).2) ∧
      (wholeReport gateway settings sensors).2.events.length = report.published ∧
      missed.length = report.published - bufferSize ∧
      shown.length = min report.published bufferSize ∧
      (shown = (wholeReport gateway settings sensors).2.events ↔
        report.published ≤ bufferSize) := by
  have hcount := length_wholeReport gateway settings sensors report hreport
  obtain ⟨missed, hsplit, hmissed, hshown⟩ :=
    received_eq (wholeReport gateway settings sensors).2.events
  have hiff := received_eq_all_iff (wholeReport gateway settings sensors).2.events
  rw [hcount] at hmissed hshown hiff
  refine ⟨missed, _, hsplit, ?_, hcount, hmissed, hshown, hiff⟩
  rw [run_reportErrand, hreport]

def plainSettings : Settings := ⟨"gw", "T", "", 5, 1000, 0, false, none, .abort, false⟩

def lineOptions : Options := ⟨none, none, none, none, false, .jsonCompact, false⟩

theorem wholeReport_crowded (n : Nat) :
    ∃ report, (wholeReport (crowded n) plainSettings true).1 = .ok report ∧
      report.published = n := by
  obtain ⟨report, hreport, hpublished⟩ := refreshAll_crowded n sampleClient ⟨true, 0, .abort⟩ rfl
    ⟨_, rfl⟩
  have hclient : ∃ session, (Moment.start plainSettings).state.session.connectClient =
      .ok (sampleClient, session) := ⟨_, rfl⟩
  obtain ⟨session, hsession⟩ := hclient
  refine ⟨report, ?_, hpublished⟩
  have hplan : (⟨true, (Moment.start plainSettings).state.settings.spacingMs,
      (Moment.start plainSettings).state.settings.itemFailure⟩ : RefreshPlan) =
        ⟨true, 0, .abort⟩ := rfl
  have hstart : (Moment.start plainSettings).trace = .empty := rfl
  simp only [wholeReport]
  rw [enact_reportAll, enact_refresh, enact_withClient, hsession, hplan, hstart]
  dsimp only
  rw [hreport]

theorem reportErrand_prints_crowded :
    ∃ report, (wholeReport (crowded 257) plainSettings true).1 = .ok report ∧
      report.published = 257 ∧
      ∃ missed shown,
        (wholeReport (crowded 257) plainSettings true).2.events = missed ++ shown ∧
        (reportErrand lineOptions "default" plainSettings true).run (crowded 257) .empty =
          (printEvents lineOptions shown, (wholeReport (crowded 257) plainSettings true).2) ∧
        missed.length = 1 ∧ shown.length = 256 := by
  obtain ⟨report, hreport, hpublished⟩ := wholeReport_crowded 257
  obtain ⟨missed, shown, hall, hrun, -, hmissed, hshown, -⟩ := reportErrand_prints (crowded 257)
    plainSettings lineOptions "default" true report hreport
  rw [hpublished] at hmissed hshown
  exact ⟨report, hreport, hpublished, missed, shown, hall, hrun, hmissed, hshown⟩

theorem printEvents_cons_ne (event : Event) (events : List Event) (hevents : events ≠ []) :
    printEvents lineOptions (event :: events) ≠ printEvents lineOptions events := by
  have houtput : ∀ events, (printEvents lineOptions events).output.toList =
      '[' :: ((",".intercalate ((events.map Event.value).map Json.compact)).toList ++
        [']', '\n']) := by
    intro events
    simp [printEvents, printValue, Outcome.printed, Format.render, lineOptions, Json.compact,
      Json.compactItems_eq]
  intro heq
  obtain ⟨next, events, rfl⟩ := List.exists_cons_of_ne_nil hevents
  have hlength := congrArg (fun o : Outcome => o.output.toList.length) heq
  simp only [houtput, List.map_cons, Json.toList_intercalate_comma, List.flatMap_cons,
    List.length_cons, List.length_append] at hlength
  omega

/-- The command does not print all that a report publishes, whatever it counts. -/
theorem not_reportErrand_prints_all :
    ¬∀ (gateway : Behaviour) (settings : Settings) (options : Options) (profile : String)
      (sensors : Bool) (report : Report),
      (wholeReport gateway settings sensors).1 = .ok report →
        ((reportErrand options profile settings sensors).run gateway .empty).1 =
            printEvents options (wholeReport gateway settings sensors).2.events ∧
          (wholeReport gateway settings sensors).2.events.length = report.published := by
  intro hall
  obtain ⟨report, hreport, hpublished⟩ := wholeReport_crowded 257
  have hcount := length_wholeReport (crowded 257) plainSettings true report hreport
  have hprinted := (hall (crowded 257) plainSettings lineOptions "default" true report hreport).1
  rw [run_reportErrand, hreport] at hprinted
  obtain ⟨missed, hsplit, hmissed, hshown⟩ :=
    received_eq (wholeReport (crowded 257) plainSettings true).2.events
  rw [hcount, hpublished] at hmissed hshown
  obtain ⟨event, rfl⟩ := List.length_eq_one_iff.mp hmissed
  have hnonempty :
      (received (wholeReport (crowded 257) plainSettings true).2.events).events ≠ [] := by
    intro hnil
    rw [hnil] at hshown
    cases hshown
  refine printEvents_cons_ne event _ hnonempty ?_
  rw [← List.singleton_append, ← hsplit]
  exact hprinted.symm

end Errands

end Cli

end ZigbeeBridge
