import ZigbeeBridge.Proofs.Bridge.Refresh

/-!
The two policies side by side. A refresh that isolates failures does what one that aborts does until
the first entity that cannot be fetched, and goes on from there, with the failure in its count.
-/
namespace ZigbeeBridge.Bridge

open Bus Gateway
open Dialogue (Attempt Behaviour Trace)

section Walks

variable (gateway : Behaviour) (client : Client)

/-- An entry is the first to fail: one tour ends there, and the other one goes on behind it. -/
structure Parting (asked : List Request) (strict lenient : Walk) (before : List Stop) (stop : Stop)
    (after : List Stop) (counted : Report) : Prop where
  entry : stop.isListing = false
  strict : ∃ flaw,
    stop.outcome gateway client (asked ++ requestsAt client before) = .error flaw ∧
      strict = ⟨before ++ [stop], .error (.ofGateway flaw)⟩
  lenient :
    let rest := walk gateway client .isolate after counted.addFailure
      (asked ++ requestsAt client (before ++ [stop]))
    lenient = ⟨before ++ stop :: rest.visited, rest.result⟩

variable {gateway client}

theorem Parting.cons {asked : List Request} {strict lenient : Walk} {before : List Stop}
    {stop : Stop} {after : List Stop} {counted : Report} (first : Stop)
    (hparting : Parting gateway client (asked ++ first.requests client) strict lenient before stop
      after counted) :
    Parting gateway client asked (strict.cons first) (lenient.cons first) (first :: before) stop
      after counted := by
  have hasked : ∀ stops, asked ++ first.requests client ++ requestsAt client stops =
      asked ++ requestsAt client (first :: stops) := by
    intro stops
    rw [List.append_assoc]
    rfl
  obtain ⟨hentry, ⟨flaw, hflaw, hstrict⟩, hlenient⟩ := hparting
  rw [hasked] at hflaw hlenient
  refine ⟨hentry, ⟨flaw, hflaw, ?_⟩, ?_⟩
  · rw [hstrict]
    rfl
  · rw [hlenient]
    rfl

variable (gateway client)

/-- The tours part at the first entry that fails. Where there is none before a listing that fails,
they are the same. -/
theorem walk_policies (stops : List Stop) (report : Report) (asked : List Request) :
    let strict := walk gateway client .abort stops report asked
    let lenient := walk gateway client .isolate stops report asked
    (lenient = strict ∧ ∀ e, strict.result = .error e →
        ∃ before last flaw, strict.visited = before ++ [last] ∧ last.isListing = true ∧
          last.outcome gateway client (asked ++ requestsAt client before) = .error flaw ∧
          e = .ofGateway flaw) ∨
      ∃ before stop after counted,
        Parting gateway client asked strict lenient before stop after counted := by
  -- As long as no entry fails both have asked for the same, so one induction goes with both.
  induction stops generalizing report asked with
  | nil =>
    refine Or.inl ⟨rfl, ?_⟩
    intro e herror
    cases herror
  | cons first rest ih =>
    cases hfirst : first.outcome gateway client asked with
    | ok event? =>
      rw [walk_cons_of_ok gateway client .abort rest report hfirst,
        walk_cons_of_ok gateway client .isolate rest report hfirst]
      rcases ih (if event?.isSome then first.count report else report)
          (asked ++ first.requests client) with ⟨hsame, hlast⟩ | ⟨before, stop, after, counted, h⟩
      · refine Or.inl ⟨congrArg (Walk.cons first) hsame, ?_⟩
        intro e herror
        obtain ⟨before, last, flaw, hvisited, hlisting, hflaw, hcause⟩ := hlast e herror
        refine ⟨first :: before, last, flaw, congrArg (first :: ·) hvisited, hlisting, ?_, hcause⟩
        simpa [requestsAt] using hflaw
      · exact Or.inr ⟨first :: before, stop, after, counted, h.cons first⟩
    | error flaw =>
      rw [walk_cons_of_end gateway client .abort rest report hfirst (Or.inr rfl)]
      cases hlisting : first.isListing with
      | true =>
        rw [walk_cons_of_end gateway client .isolate rest report hfirst (Or.inl hlisting)]
        refine Or.inl ⟨rfl, ?_⟩
        intro e herror
        cases herror
        exact ⟨[], first, flaw, rfl, hlisting, by simpa [requestsAt] using hfirst, rfl⟩
      | false =>
        rw [walk_cons_of_failure gateway client .isolate rest report hfirst (by simp [hlisting])]
        refine Or.inr ⟨[], first, rest, report, hlisting, ⟨flaw, ?_, rfl⟩, ?_⟩
        · simpa [requestsAt] using hfirst
        · simp [requestsAt, Walk.cons]

variable {gateway client}

section Partings

variable {asked : List Request} {strict lenient : Walk} {before : List Stop} {stop : Stop}
  {after : List Stop} {counted : Report}
  (hparting : Parting gateway client asked strict lenient before stop after counted)

include hparting

theorem Parting.isPrefix : strict.visited <+: lenient.visited := by
  obtain ⟨flaw, -, hstrict⟩ := hparting.strict
  rw [hstrict, hparting.lenient]
  refine (List.prefix_append_right_inj before).mpr ?_
  exact List.cons_prefix_cons.mpr ⟨rfl, List.nil_prefix⟩

theorem Parting.one_le_failed {report : Report} (hok : lenient.result = .ok report) :
    1 ≤ report.failed := by
  rw [hparting.lenient] at hok
  rw [report_of_ok gateway client .isolate _ after counted.addFailure report hok]
  change 1 ≤ counted.failed + 1 + _
  omega

theorem Parting.listing_of_error {e : Error} (herror : lenient.result = .error e) :
    ∃ before' stop' flaw, before ++ [stop] <+: before' ∧ stop'.isListing = true ∧
      lenient.visited = before' ++ [stop'] ∧
      stop'.outcome gateway client (asked ++ requestsAt client before') = .error flaw ∧
      e = .ofGateway flaw := by
  rw [hparting.lenient] at herror
  obtain ⟨later, last, flaw, hvisited, hflaw, hcause, hends⟩ :=
    last_of_error gateway client .isolate after counted.addFailure _ e herror
  refine ⟨before ++ [stop] ++ later, last, flaw, List.prefix_append _ _,
    hends.resolve_right (by decide), ?_, ?_, hcause⟩
  · rw [hparting.lenient]
    dsimp only
    rw [hvisited]
    simp
  · rw [requestsAt_append, ← List.append_assoc]
    exact hflaw

end Partings

end Walks

section Refreshes

variable (gateway : Behaviour) (client : Client) (t : Trace)

theorem past_isPrefix {visited visited' : List Stop} (hvisited : visited <+: visited') :
    (past gateway client t visited).requests <+: (past gateway client t visited').requests ∧
      (past gateway client t visited).events <+: (past gateway client t visited').events := by
  obtain ⟨more, rfl⟩ := hvisited
  rw [past_append]
  exact ⟨List.prefix_append _ _, List.prefix_append _ _⟩

/-- The refresh came as far as the stop and failed there. -/
structure FailedAt (sensors : Bool) (before : List Stop) (stop : Stop)
    (ended : Except Error Report × Trace) : Prop where
  onTour : before ++ [stop] <+: itinerary gateway client (phases sensors) t.requests
  trace : ended.2 = past gateway client t (before ++ [stop])
  flaw : ∃ flaw, stop.outcome gateway client (t.requests ++ requestsAt client before) =
    .error flaw ∧ ended.1 = .error (.ofGateway flaw)

/-- One refresh is a first part of the other. Where no entity fails the two are the same, with the
same report or the same listing that fails. Where one does, the first of them ends the one refresh,
and the other one counts it and goes on to the end or to a listing that fails. -/
structure Refines (sensors : Bool) (strict lenient : Except Error Report × Trace) : Prop where
  requests : strict.2.requests <+: lenient.2.requests
  events : strict.2.events <+: lenient.2.events
  success : ∀ report, strict.1 = .ok report → lenient = strict ∧ report.failed = 0
  flawless : ∀ report, lenient.1 = .ok report → report.failed = 0 → strict = lenient
  failure : ∀ e, strict.1 = .error e → ∃ before stop,
    FailedAt gateway client t sensors before stop strict ∧
      (stop.isListing = true → lenient = strict) ∧
      (stop.isListing = false →
        (∃ report, lenient.1 = .ok report ∧ 1 ≤ report.failed) ∨
          ∃ before' stop', before ++ [stop] <+: before' ∧ stop'.isListing = true ∧
            FailedAt gateway client t sensors before' stop' lenient)

section Tours

variable {gateway client t} {sensors : Bool}

theorem refines_of_same {w : Walk}
    (htour : w.visited <+: itinerary gateway client (phases sensors) t.requests)
    (hzero : ∀ report, w.result = .ok report → report.failed = 0)
    (hlast : ∀ e, w.result = .error e → ∃ before last flaw,
      w.visited = before ++ [last] ∧ last.isListing = true ∧
        last.outcome gateway client (t.requests ++ requestsAt client before) = .error flaw ∧
        e = .ofGateway flaw) :
    Refines gateway client t sensors (w.result, past gateway client t w.visited)
      (w.result, past gateway client t w.visited) := by
  refine ⟨List.prefix_rfl, List.prefix_rfl, fun report hok => ⟨rfl, hzero report hok⟩,
    fun _ _ _ => rfl, ?_⟩
  intro e herror
  obtain ⟨before, last, flaw, hvisited, hlisting, hflaw, rfl⟩ := hlast e herror
  refine ⟨before, last, ⟨hvisited ▸ htour, by rw [hvisited], flaw, hflaw, herror⟩,
    fun _ => rfl, ?_⟩
  intro hentry
  rw [hlisting] at hentry
  cases hentry

theorem Parting.refines {strict lenient : Walk} {before : List Stop} {stop : Stop}
    {after : List Stop} {counted : Report}
    (hparting : Parting gateway client t.requests strict lenient before stop after counted)
    (hstrict : strict.visited <+: itinerary gateway client (phases sensors) t.requests)
    (hlenient : lenient.visited <+: itinerary gateway client (phases sensors) t.requests) :
    Refines gateway client t sensors (strict.result, past gateway client t strict.visited)
      (lenient.result, past gateway client t lenient.visited) := by
  obtain ⟨hrequests, hevents⟩ := past_isPrefix gateway client t hparting.isPrefix
  obtain ⟨flaw, hflaw, rfl⟩ := hparting.strict
  refine ⟨hrequests, hevents, ?_, ?_, ?_⟩
  · intro report hok
    cases hok
  · intro report hok hnone
    have hsome := hparting.one_le_failed hok
    omega
  · intro e _
    refine ⟨before, stop, ⟨hstrict, rfl, flaw, hflaw, rfl⟩, ?_, ?_⟩
    · intro hlisting
      rw [hparting.entry] at hlisting
      cases hlisting
    · intro _
      cases hresult : lenient.result with
      | ok report => exact Or.inl ⟨report, rfl, hparting.one_le_failed hresult⟩
      | error e' =>
        obtain ⟨before', stop', flaw', hlater, hlisting, hvisited, hflaw', rfl⟩ :=
          hparting.listing_of_error hresult
        exact Or.inr ⟨before', stop', hlater, hlisting, hvisited ▸ hlenient, by rw [hvisited],
          flaw', hflaw', rfl⟩

end Tours

/-- Whatever the gateway answers, a refresh that aborts asks for and publishes a first part of what
one that isolates failures does. -/
theorem abort_isPrefix_isolate (sensors : Bool) (spacingMs : Nat) :
    Refines gateway client t sensors
      (Attempt.outcome gateway (refreshAll client ⟨sensors, spacingMs, .abort⟩) t)
      (Attempt.outcome gateway (refreshAll client ⟨sensors, spacingMs, .isolate⟩) t) := by
  rw [outcome_refreshAll, outcome_refreshAll]
  dsimp only
  have htour (policy : ItemFailure) := visited_isPrefix gateway client policy
    (itinerary gateway client (phases sensors) t.requests) .empty t.requests
  rcases walk_policies gateway client (itinerary gateway client (phases sensors) t.requests) .empty
    t.requests with ⟨hsame, hlast⟩ | ⟨before, stop, after, counted, hparting⟩
  · rw [hsame]
    refine refines_of_same (htour .abort) ?_ hlast
    intro report hok
    rw [report_of_ok gateway client .abort t.requests _ .empty report hok, Report.empty_add,
      Report.failed_tally]
    exact failures_of_abort gateway client t.requests _ .empty report hok
  · exact hparting.refines (htour .abort) (htour .isolate)

example :
    let after := Attempt.outcome repetitive (refreshAll sampleClient ⟨false, 0, .abort⟩) .empty
    after.1.isOk = false ∧ after.2.requests.map Request.text =
      ["GET http://gw/api/T/lights", "GET http://gw/api/T/lights/1"] := by
  decide +kernel

end Refreshes

end ZigbeeBridge.Bridge
