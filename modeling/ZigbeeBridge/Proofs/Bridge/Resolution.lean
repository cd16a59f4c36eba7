import ZigbeeBridge.Proofs.Bridge.Frame
import ZigbeeBridge.Proofs.Bridge.Refresh
import ZigbeeBridge.Proofs.Gateway.Sensor

/-!
The plan of how to report a listed sensor, the decoding of its entry, the decoding of its detail
and the kind of its event all go by the type that the sensor is described with. What is planned
from a description is what a document of that description comes to, and every sensor that is
reported has a reading of the type that it names itself, whatever the listing said of it.
-/
namespace ZigbeeBridge.Bridge

open Bus Data Gateway
open Dialogue (Attempt Behaviour Trace pausing)

section Plans

variable {id : String} {v : Value} {info : SensorInfo} {type : SensorType} {sensor : Sensor}

theorem of_eq_skip_iff : Resolution.of info = .skip ↔ info.sensorType? = none := by
  unfold Resolution.of
  cases info.sensorType? with
  | none => simp
  | some type => cases type <;> simp

theorem of_eq_fromListing_iff :
    Resolution.of info = .fromListing ↔ info.sensorType? = some .switch := by
  unfold Resolution.of
  cases info.sensorType? with
  | none => simp
  | some type => cases type <;> simp

theorem of_eq_fetch_iff :
    Resolution.of info = .fetch type ↔ info.sensorType? = some type ∧ type ≠ .switch := by
  unfold Resolution.of
  cases info.sensorType? with
  | none => simp
  | some known => cases known <;> cases type <;> simp

/-- What is planned for a sensor from its description agrees with what a document of that
description is decoded to. -/
structure InStep (id : String) (v : Value) (info : SensorInfo) : Prop where
  skip : Resolution.of info = .skip ↔ Sensor.decode id v = .ok none
  listed : Resolution.of info = .fromListing ↔ (Sensor.ofInfo? info).isSome
  same : ∀ sensor, Sensor.ofInfo? info = some sensor → Sensor.decode id v = .ok (some sensor)
  stateless : ∀ sensor (members : Entries Value) state, Sensor.ofInfo? info = some sensor →
    v = .object members → Sensor.decode id (.object (members.put "state" state)) = .ok (some sensor)
  event : Resolution.of info = .fromListing →
    (Sensor.decode id v).map (Option.map ofSensor) = .ok ((Sensor.ofInfo? info).map ofSensor)
  fetched : ∀ type, Resolution.of info = .fetch type → type ≠ .switch ∧
    ((∃ message body, Sensor.decode id v = .error (.undecodable message body)) ∨
      ∃ sensor, Sensor.decode id v = .ok (some sensor) ∧ sensor.reading.sensorType = type)

theorem ofInfo?_eq_some_iff :
    Sensor.ofInfo? info = some sensor ↔
      info.sensorType? = some .switch ∧ sensor = ⟨info, .switch⟩ := by
  unfold Sensor.ofInfo?
  cases info.sensorType? with
  | none => simp
  | some type => cases type <;> simp [eq_comm]

/-- A sensor of which the listing tells all is decoded to the same sensor. -/
theorem decode_of_ofInfo? (hinfo : SensorInfo.decode id v = .ok info)
    (hsensor : Sensor.ofInfo? info = some sensor) : Sensor.decode id v = .ok (some sensor) := by
  obtain ⟨htype, rfl⟩ := ofInfo?_eq_some_iff.mp hsensor
  rw [decode_of_info hinfo, htype]
  rfl

theorem decode_eq_none_iff (hinfo : SensorInfo.decode id v = .ok info) :
    Sensor.decode id v = .ok none ↔ info.sensorType? = none := by
  rw [decode_of_info hinfo]
  cases info.sensorType? with
  | none => simp
  | some type => cases hreading : Reading.decode type v <;> simp [hreading, Except.map]

theorem decode_of_fetch (hinfo : SensorInfo.decode id v = .ok info)
    (hfetch : Resolution.of info = .fetch type) :
    (∃ message body, Sensor.decode id v = .error (.undecodable message body)) ∨
      ∃ sensor, Sensor.decode id v = .ok (some sensor) ∧ sensor.reading.sensorType = type := by
  rw [decode_of_info hinfo, (of_eq_fetch_iff.mp hfetch).1]
  dsimp only
  cases hreading : Reading.decode type v with
  | error e =>
    obtain ⟨part, flaw, rfl⟩ := undecodable_of_reading hreading
    exact .inl ⟨_, _, rfl⟩
  | ok reading => exact .inr ⟨⟨info, reading⟩, rfl, type_of_reading hreading⟩

theorem inStep_of_info (hinfo : SensorInfo.decode id v = .ok info) : InStep id v info where
  skip := by rw [of_eq_skip_iff, decode_eq_none_iff hinfo]
  listed := by
    rw [of_eq_fromListing_iff, Option.isSome_iff_exists]
    simp only [ofInfo?_eq_some_iff, exists_and_left, exists_eq, and_true]
  same := fun sensor => decode_of_ofInfo? hinfo
  stateless := by
    rintro sensor members state hsensor rfl
    exact decode_of_ofInfo? (infoDecode_put_state hinfo state) hsensor
  event := by
    intro hlisted
    have hsensor : Sensor.ofInfo? info = some ⟨info, .switch⟩ :=
      ofInfo?_eq_some_iff.mpr ⟨of_eq_fromListing_iff.mp hlisted, rfl⟩
    rw [decode_of_ofInfo? hinfo hsensor, hsensor]
    rfl
  fetched := fun type hfetch => ⟨(of_eq_fetch_iff.mp hfetch).2, decode_of_fetch hinfo hfetch⟩

end Plans

section Resolving

variable (gateway : Behaviour) (client : Client) (info : SensorInfo) (t : Trace)

/-- The sensor that a listed one turns out to be. -/
def resolve : Attempt Error (Option Sensor) :=
  match Resolution.of info with
  | .skip => pure none
  | .fromListing => pure (Sensor.ofInfo? info)
  | .fetch _ => calling (client.getSensor info.id)

/-- Whether a sensor takes a fetch of its own. -/
def Resolution.fetches : Resolution → Bool
  | .fetch _ => true
  | .skip | .fromListing => false

/-- Reports what a listed sensor turns out to be, after a pause if that takes a fetch. -/
def reportResolved (plan : RefreshPlan) (progress : Progress) : Attempt Error Progress := do
  if (Resolution.of info).fetches ∧ progress.fetched then pausing plan.spacingMs
  let found ← liftM (resolve client info).run
  let report ← ExceptT.mk (conclude plan.policy Report.addSensor progress.report
    (found.map (Option.map ofSensor)))
  pure ⟨report, progress.fetched || (Resolution.of info).fetches⟩

theorem fetchItem_map {α : Type} (plan : RefreshPlan) (count : Report → Report)
    (f : α → Option Event) (fetch : Attempt Error α) (progress : Progress) :
    fetchItem plan count (f <$> fetch) progress = (do
      if progress.fetched then pausing plan.spacingMs
      let found ← liftM fetch.run
      let report ← ExceptT.mk (conclude plan.policy count progress.report (found.map f))
      pure ⟨report, true⟩) := by
  unfold fetchItem
  rw [ExceptT.run_map, liftM_map]
  simp only [bind_map_left]

/-- A refresh reports of every listed sensor what it turns out to be. -/
theorem refreshSensor_eq (plan : RefreshPlan) (progress : Progress) :
    refreshSensor client plan progress info = reportResolved client info plan progress := by
  have hevent : sensorEvent client info =
      Option.map ofSensor <$> calling (client.getSensor info.id) := (map_eq_pure_bind _ _).symm
  unfold refreshSensor reportResolved resolve
  cases Resolution.of info with
  | skip | fromListing =>
    simp only [Resolution.fetches, Bool.or_false]
    rfl
  | fetch type =>
    simp only [Resolution.fetches, Bool.or_true, true_and, hevent, fetchItem_map]

/-- What a stop at a sensor brings is what the sensor turns out to be. -/
theorem outcome_resolve :
    (Attempt.outcome gateway (resolve client info) t).1.map (Option.map ofSensor) =
      ((Stop.sensor info).outcome gateway client t.requests).mapError .ofGateway := by
  unfold resolve
  rw [Stop.outcome]
  rcases resolution_cases info with ⟨hmetered, type, hfetch⟩ | ⟨hmetered, hplain, hlisting, hinfo⟩ |
    ⟨hmetered, hplain, hskip⟩
  · have hcall : Attempt.outcome gateway (calling (client.getSensor info.id)) t = _ :=
      outcome_told gateway client t (.sensor info.id)
    rw [hfetch, if_pos hmetered]
    dsimp only
    rw [hcall]
    cases told gateway client t.requests (.sensor info.id) <;> rfl
  · rw [hlisting, if_neg hmetered, if_pos hplain, hinfo]
    rfl
  · rw [hskip, if_neg hmetered, if_neg hplain]
    rfl

theorem isTyped_of_told {asked : List Request} {id : String} {sensor : Sensor}
    (h : told gateway client asked (.sensor id) = .ok (some sensor)) : sensor.IsTyped := by
  obtain ⟨_, _, v, -, -, hdecode⟩ :=
    (told_eq_ok_iff gateway client asked (.sensor id) (some sensor)).mp h
  exact isTyped_of_decode hdecode

theorem isTyped_of_resolve {sensor : Sensor} {t' : Trace}
    (h : Attempt.outcome gateway (resolve client info) t = (.ok (some sensor), t')) :
    sensor.IsTyped := by
  unfold resolve at h
  split at h
  · cases h
  · rw [Attempt.outcome_pure] at h
    exact isTyped_of_ofInfo? (Except.ok.inj (congrArg Prod.fst h))
  · have hcall : Attempt.outcome gateway (calling (client.getSensor info.id)) t = _ :=
      outcome_told gateway client t (.sensor info.id)
    rw [hcall] at h
    obtain ⟨htold, -⟩ := Prod.mk.inj h
    exact isTyped_of_told gateway client (mapError_eq_ok htold)

end Resolving

section Published

variable (gateway : Behaviour) (client : Client) {asked : List Request} {event : Event}

/-- The kind of an event is that of the sensor type which the event names. -/
def IsSelfTyped (event : Event) : Prop :=
  ((event.text? Attribute.type).bind SensorType.ofName?).map EventKind.ofSensor = some event.kind

theorem text?_type_ofSensor (sensor : Sensor) :
    (ofSensor sensor).text? Attribute.type = some sensor.info.type := by
  obtain ⟨info, reading⟩ := sensor
  cases reading with
  | switch | power | consumption | temperature => rfl

theorem isSelfTyped_ofSensor {sensor : Sensor} (h : sensor.IsTyped) :
    IsSelfTyped (ofSensor sensor) := by
  have htype : SensorType.ofName? sensor.info.type = some sensor.reading.sensorType := h
  rw [IsSelfTyped, text?_type_ofSensor, Option.bind_some, htype, kind_ofSensor]
  rfl

/-- What a stop brings is about a light, a group, or a sensor of the type that it names. -/
theorem sort_of_outcome {stop : Stop}
    (h : stop.outcome gateway client asked = .ok (some event)) :
    event.kind = .light ∨ event.kind = .group ∨ IsSelfTyped event := by
  cases stop with
  | listing phase =>
    rw [Stop.outcome] at h
    obtain ⟨_, -, hnone⟩ := map_eq_ok h
    cases hnone
  | light id =>
    rw [Stop.outcome] at h
    obtain ⟨light, -, hevent⟩ := map_eq_ok h
    rw [← Option.some.inj hevent]
    exact .inl (kind_ofLight light)
  | group id =>
    rw [Stop.outcome] at h
    obtain ⟨group, -, hevent⟩ := map_eq_ok h
    rw [← Option.some.inj hevent]
    exact .inr (.inl (kind_ofGroup group))
  | sensor info =>
    have hresolve := outcome_resolve gateway client info ⟨asked, []⟩
    rw [h] at hresolve
    obtain ⟨found, hfound, hevent⟩ := map_eq_ok hresolve
    obtain ⟨sensor, rfl, rfl⟩ := Option.map_eq_some_iff.mp hevent
    exact .inr (.inr (isSelfTyped_ofSensor
      (isTyped_of_resolve gateway client info ⟨asked, []⟩ (Prod.ext hfound rfl))))

theorem sort_of_published {stops : List Stop}
    (h : event ∈ published gateway client asked stops) :
    event.kind = .light ∨ event.kind = .group ∨ IsSelfTyped event := by
  induction stops generalizing asked with
  | nil => cases h
  | cons stop rest ih =>
    rw [published_cons, List.mem_append] at h
    obtain hhere | hlater := h
    · have hevent : stop.event? gateway client asked = some event := by simpa using hhere
      unfold Stop.event? at hevent
      cases houtcome : stop.outcome gateway client asked with
      | error e =>
        rw [houtcome] at hevent
        cases hevent
      | ok event? =>
        rw [houtcome] at hevent
        obtain rfl : event? = some event := hevent
        exact sort_of_outcome gateway client houtcome
    · exact ih hlater

/-- The plan for a listed sensor, the decoding of its description and of its detail, and the kind
of its event all go by the same type: that of the description that the sensor came with. -/
theorem resolution_in_step :
    (∀ id v info, SensorInfo.decode id v = .ok info → InStep id v info) ∧
      (∀ id v sensor, Sensor.decode id v = .ok (some sensor) → sensor.IsTyped) ∧
      (∀ info sensor, Sensor.ofInfo? info = some sensor → sensor.IsTyped) ∧
      (∀ (gateway : Behaviour) client info t sensor t',
        Attempt.outcome gateway (resolve client info) t = (.ok (some sensor), t') →
          sensor.IsTyped) ∧
      (∀ client info plan progress,
        refreshSensor client plan progress info = reportResolved client info plan progress) ∧
      ∀ (gateway : Behaviour) client plan t, ∃ events,
        (Attempt.outcome gateway (refreshAll client plan) t).2.events = t.events ++ events ∧
          ∀ event ∈ events, event.kind = .light ∨ event.kind = .group ∨ IsSelfTyped event := by
  refine ⟨fun _ _ _ => inStep_of_info, fun _ _ _ => isTyped_of_decode,
    fun _ _ => isTyped_of_ofInfo?,
    fun gateway client info t _ _ => isTyped_of_resolve gateway client info t, refreshSensor_eq, ?_⟩
  intro gateway client plan t
  refine ⟨_, congrArg (fun result => result.2.events) (outcome_refreshAll gateway client plan t),
    ?_⟩
  exact fun event hevent => sort_of_published gateway client hevent

end Published

end ZigbeeBridge.Bridge
