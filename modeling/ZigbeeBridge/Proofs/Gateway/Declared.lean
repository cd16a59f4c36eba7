import ZigbeeBridge.Gateway.About
import ZigbeeBridge.Gateway.Group
import ZigbeeBridge.Gateway.Light
import ZigbeeBridge.Gateway.Listing
import ZigbeeBridge.Proofs.Data.Record
import ZigbeeBridge.Proofs.Data.Traversal

/-!
What is decoded depends on the declared keys alone. Two objects that have the same under each of
them are decoded to the same value, or neither is; the order of the keys and any other keys do not
matter. An object has no key twice.
-/
namespace ZigbeeBridge.Gateway

open Data

section Sameness

/-- Two objects have the same under each of the names. -/
structure SameUnder (names : List String) (members others : Entries Value) : Prop where
  nodup : members.keys.Nodup
  nodup_others : others.keys.Nodup
  get? : ∀ name ∈ names, members.get? name = others.get? name

/-- The same value, or two objects with the same under each of the names. -/
inductive SameValue (names : List String) : Value → Value → Prop
  | refl (v : Value) : SameValue names v v
  | object {members others : Entries Value} (h : SameUnder names members others) :
    SameValue names (.object members) (.object others)

/-- Two objects have the same under each of the names, except that their states may be two objects
that have the same under each of the names of a state. -/
structure SameBesides (names stateNames : List String) (members others : Entries Value) :
    Prop where
  nodup : members.keys.Nodup
  nodup_others : others.keys.Nodup
  get? : ∀ name ∈ names, name ≠ "state" → members.get? name = others.get? name
  state : Option.Rel (SameValue stateNames) (members.get? "state") (others.get? "state")

variable {names : List String} {members others : Entries Value}

theorem SameValue.value {key : String}
    (h : Option.Rel (SameValue names) (members.get? key) (others.get? key)) :
    SameValue names (members.value key) (others.value key) := by
  unfold Entries.value
  generalize members.get? key = v at h
  generalize others.get? key = w at h
  cases h with
  | none => exact .refl _
  | some hsame => exact hsame

end Sameness

section Records

variable {α : Type} {shape : Shape} {members others : Entries Value}

theorem toOption_record (v : Value) : (record shape v).toOption = (shape.read v).toOption :=
  toOption_mapError _ _

theorem toOption_record_bind (v : Value) (next : Entries Value → Except Error α) :
    (record shape v >>= next).toOption =
      (shape.read v).toOption.bind fun ms => (next ms).toOption := by
  rw [toOption_bind, toOption_record]

/-- What is made of two objects is the same if each field takes both or neither. -/
theorem bind_read_congr (hnames : shape.names.Nodup) (hmembers : members.keys.Nodup)
    (hothers : others.keys.Nodup)
    (htakes : ∀ field ∈ shape.fields,
      (field.Takes (members.get? field.name) ↔ field.Takes (others.get? field.name)))
    {make : Entries Value → Option α} (hmake : make members = make others) :
    (shape.read (.object members)).toOption.bind make =
      (shape.read (.object others)).toOption.bind make := by
  have hall := forall₂_congr htakes
  apply Option.ext
  intro a
  simp only [Option.bind_eq_some_iff, toOption_eq_some_iff,
    Shape.read_object_eq_ok_iff hnames hmembers, Shape.read_object_eq_ok_iff hnames hothers]
  constructor
  · rintro ⟨_, ⟨rfl, h⟩, ha⟩
    exact ⟨others, ⟨rfl, hall.mp h⟩, hmake ▸ ha⟩
  · rintro ⟨_, ⟨rfl, h⟩, ha⟩
    exact ⟨members, ⟨rfl, hall.mpr h⟩, hmake ▸ ha⟩

theorem SameUnder.bind_read (h : SameUnder shape.names members others)
    (hnames : shape.names.Nodup) {make : Entries Value → Option α}
    (hmake : make members = make others) :
    (shape.read (.object members)).toOption.bind make =
      (shape.read (.object others)).toOption.bind make := by
  apply bind_read_congr hnames h.nodup h.nodup_others _ hmake
  intro field hfield
  rw [h.get? field.name (List.mem_map_of_mem hfield)]

theorem SameValue.bind_read {v w : Value} (h : SameValue shape.names v w)
    (hnames : shape.names.Nodup) {make : Entries Value → Option α}
    (hmake : ∀ {members others}, SameUnder shape.names members others →
      make members = make others) :
    (shape.read v).toOption.bind make = (shape.read w).toOption.bind make := by
  cases h with
  | refl => rfl
  | object h => exact h.bind_read hnames (hmake h)

theorem toOption_check (v : Value) :
    (shape.check v).toOption = (shape.read v).toOption.bind fun _ => some () := by
  unfold Shape.check
  cases shape.read v <;> rfl

theorem SameValue.check_iff {v w : Value} (h : SameValue shape.names v w)
    (hnames : shape.names.Nodup) : shape.check v = .ok () ↔ shape.check w = .ok () := by
  rw [← toOption_eq_some_iff, ← toOption_eq_some_iff, toOption_check, toOption_check,
    h.bind_read hnames fun _ => rfl]

/-- Where the states pass the same check, what is made of the objects is the same. -/
theorem SameBesides.bind_read {stateNames : List String} {check : Check}
    (h : SameBesides shape.names stateNames members others) (hnames : shape.names.Nodup)
    (hstate : shape.field? "state" = some (.required "state" check))
    (hcheck : ∀ {v w}, SameValue stateNames v w → (check v = .ok () ↔ check w = .ok ()))
    {make : Entries Value → Option α} (hmake : make members = make others) :
    (shape.read (.object members)).toOption.bind make =
      (shape.read (.object others)).toOption.bind make := by
  apply bind_read_congr hnames h.nodup h.nodup_others _ hmake
  intro field hfield
  by_cases hname : field.name = "state"
  · have hfound := Shape.field?_of_mem hnames hfield
    rw [hname, hstate, Option.some.injEq] at hfound
    have hsame := h.state
    rw [hname, ← hfound]
    generalize members.get? "state" = v at hsame ⊢
    generalize others.get? "state" = w at hsame ⊢
    cases hsame with
    | none => exact Iff.rfl
    | some hsame => exact hcheck hsame
  · rw [h.get? field.name (List.mem_map_of_mem hfield) hname]

theorem text_congr {key : String} (h : members.get? key = others.get? key) :
    members.text key = others.text key := by
  rw [Entries.text, Entries.text, Entries.text?, Entries.text?, h]

end Records

section Decoders

variable {id : String} {members others : Entries Value} {v w : Value}

theorem lightState_same (h : SameValue LightState.shape.names v w) :
    (LightState.decode v).toOption = (LightState.decode w).toOption := by
  unfold LightState.decode
  rw [toOption_record_bind, toOption_record_bind]
  apply h.bind_read (by decide)
  intro members others h
  simp only [LightState.ofMembers, Entries.bool?, Entries.uint8?, Entries.uint16?,
    Entries.integer?, Entries.text?, h.get? "on" (by decide), h.get? "reachable" (by decide),
    h.get? "bri" (by decide), h.get? "hue" (by decide), h.get? "sat" (by decide),
    h.get? "ct" (by decide), h.get? "colormode" (by decide)]

theorem light_same (h : SameBesides Light.shape.names LightState.shape.names members others) :
    (Light.decode id (.object members)).toOption = (Light.decode id (.object others)).toOption := by
  unfold Light.decode
  rw [toOption_record_bind, toOption_record_bind]
  apply h.bind_read (by decide) rfl fun _ => Iff.rfl
  simp only [toOption_bind, lightState_same (SameValue.value h.state),
    text_congr (h.get? "name" (by decide) (by decide)),
    text_congr (h.get? "modelid" (by decide) (by decide)),
    text_congr (h.get? "type" (by decide) (by decide)),
    text_congr (h.get? "swversion" (by decide) (by decide))]

theorem group_same (h : SameBesides Group.shape.names GroupState.shape.names members others) :
    (Group.decode id (.object members)).toOption = (Group.decode id (.object others)).toOption := by
  unfold Group.decode
  rw [toOption_record_bind, toOption_record_bind]
  apply h.bind_read (by decide) rfl fun hsame => hsame.check_iff (by decide)
  simp only [toOption_record_bind, text_congr (h.get? "name" (by decide) (by decide)),
    text_congr (h.get? "type" (by decide) (by decide))]
  apply (SameValue.value h.state).bind_read (by decide)
  intro members others h
  simp only [GroupState.ofMembers, Entries.bool?, h.get? "all_on" (by decide),
    h.get? "any_on" (by decide)]

theorem sensorInfo_same (h : SameValue SensorInfo.shape.names v w) :
    (SensorInfo.decode id v).toOption = (SensorInfo.decode id w).toOption := by
  unfold SensorInfo.decode
  rw [toOption_record_bind, toOption_record_bind]
  apply h.bind_read (by decide)
  intro members others h
  simp only [SensorInfo.ofMembers, text_congr (h.get? "name" (by decide)),
    text_congr (h.get? "type" (by decide)), text_congr (h.get? "modelid" (by decide)),
    text_congr (h.get? "manufacturername" (by decide)),
    text_congr (h.get? "swversion" (by decide))]

theorem about_same (h : SameUnder About.shape.names members others) :
    (About.decode (.object members)).toOption = (About.decode (.object others)).toOption := by
  unfold About.decode
  rw [toOption_bind, toOption_bind]
  apply h.bind_read (by decide)
  simp only [About.ofMembers, Entries.text, Entries.text?, Entries.uint16?, Entries.integer?,
    h.get? "name" (by decide), h.get? "swversion" (by decide), h.get? "bridgeid" (by decide),
    h.get? "apiversion" (by decide), h.get? "websocketport" (by decide)]

/-- The shape of the state that a sensor of a type has its reading from. -/
def readingShape? : SensorType → Option Shape
  | .switch => none
  | .power => some Reading.powerShape
  | .consumption => some Reading.consumptionShape
  | .temperature => some Reading.temperatureShape

/-- A reading is made of the state in a detail, whatever else the detail has. -/
theorem detail_same {shape : Shape} {make : Entries Value → Reading}
    (h : SameBesides Reading.stateShape.names shape.names members others)
    (hnames : shape.names.Nodup)
    (hmake : ∀ {members others}, SameUnder shape.names members others →
      make members = make others) :
    (do .ok (make (← record shape (← Reading.decode.state (.object members)))) :
      Except Error Reading).toOption =
    (do .ok (make (← record shape (← Reading.decode.state (.object others)))) :
      Except Error Reading).toOption := by
  unfold Reading.decode.state
  simp only [toOption_bind, toOption_record, Option.bind_assoc]
  apply h.bind_read (by decide) rfl fun _ => Iff.rfl
  apply (SameValue.value h.state).bind_read hnames
  intro members others h
  rw [hmake h]

theorem reading_same {type : SensorType} (hmembers : members.keys.Nodup)
    (hothers : others.keys.Nodup)
    (hstate : ∀ shape, readingShape? type = some shape →
      Option.Rel (SameValue shape.names) (members.get? "state") (others.get? "state")) :
    (Reading.decode type (.object members)).toOption =
      (Reading.decode type (.object others)).toOption := by
  have hbesides : ∀ shape, readingShape? type = some shape →
      SameBesides Reading.stateShape.names shape.names members others := by
    intro shape hshape
    refine ⟨hmembers, hothers, ?_, hstate shape hshape⟩
    intro name hname hne
    exact absurd (List.mem_singleton.mp hname) hne
  cases type with
  | switch => rfl
  | power =>
    apply detail_same (hbesides _ rfl) (by decide)
    intro members others h
    simp only [Entries.int64, Entries.integer?, h.get? "current" (by decide),
      h.get? "power" (by decide), h.get? "voltage" (by decide),
      text_congr (h.get? "lastupdated" (by decide))]
  | consumption =>
    apply detail_same (hbesides _ rfl) (by decide)
    intro members others h
    simp only [Entries.int64, Entries.integer?, h.get? "consumption" (by decide),
      text_congr (h.get? "lastupdated" (by decide))]
  | temperature =>
    apply detail_same (hbesides _ rfl) (by decide)
    intro members others h
    simp only [Entries.int64, Entries.integer?, h.get? "temperature" (by decide),
      text_congr (h.get? "lastupdated" (by decide))]

theorem type_of_decode {info : SensorInfo} (h : SensorInfo.decode id (.object members) = .ok info) :
    info.type = members.text "type" := by
  obtain ⟨ms, hrecord, hdone⟩ := bind_eq_ok h
  obtain rfl := Shape.eq_of_read (mapError_eq_ok hrecord)
  cases hdone
  rfl

/-- The state only counts where the type of the sensor has a reading of its own. -/
theorem sensor_same (hinfo : SameUnder SensorInfo.shape.names members others)
    (hstate : ∀ type shape, SensorType.ofName? (members.text "type") = some type →
      readingShape? type = some shape →
        Option.Rel (SameValue shape.names) (members.get? "state") (others.get? "state")) :
    (Sensor.decode id (.object members)).toOption =
      (Sensor.decode id (.object others)).toOption := by
  unfold Sensor.decode
  rw [toOption_bind, toOption_bind, ← sensorInfo_same (.object hinfo)]
  apply Option.bind_congr
  intro info hdecoded
  have htype := type_of_decode ((toOption_eq_some_iff _ _).mp hdecoded)
  cases hknown : info.sensorType? with
  | none => rfl
  | some type =>
    have hreading := reading_same hinfo.nodup hinfo.nodup_others fun shape =>
      hstate type shape (htype ▸ hknown)
    simp only [toOption_bind, hreading]

end Decoders

section Listings

/-- The results of a listing stand with its entries, in whatever order these are. -/
def FollowsOrder {α : Type} (decode : Entries Value → Except Error (List α)) : Prop :=
  ∀ entries others results, entries.Perm others → decode entries = .ok results →
    ∃ moved, decode others = .ok moved ∧ moved.length = others.length ∧
      (entries.zip results).Perm (others.zip moved)

/-- Two listings have the same ids, and entries with the same under each of the names. -/
def SameEntries (names : List String) (entries others : Entries Value) : Prop :=
  List.Forall₂ (fun entry other => entry.1 = other.1 ∧ SameValue names entry.2 other.2)
    entries others

theorem entry_same {id : String} {v w : Value} (h : SameValue Summary.entryShape.names v w) :
    (Summary.ofEntry (id, v)).toOption = (Summary.ofEntry (id, w)).toOption := by
  unfold Summary.ofEntry
  rw [toOption_record_bind, toOption_record_bind]
  apply h.bind_read (by decide)
  intro members others h
  simp only [text_congr (h.get? "name" (by decide))]

end Listings

section Declared

/-- What each decoder makes of objects, and of listings of them, depends on no other keys than those
that it declares. -/
structure ReadsDeclared : Prop where
  lightState : ∀ members others, SameUnder LightState.shape.names members others →
    (LightState.decode (.object members)).toOption = (LightState.decode (.object others)).toOption
  light : ∀ id members others,
    SameBesides Light.shape.names LightState.shape.names members others →
      (Light.decode id (.object members)).toOption = (Light.decode id (.object others)).toOption
  group : ∀ id members others,
    SameBesides Group.shape.names GroupState.shape.names members others →
      (Group.decode id (.object members)).toOption = (Group.decode id (.object others)).toOption
  sensorInfo : ∀ id members others, SameUnder SensorInfo.shape.names members others →
    (SensorInfo.decode id (.object members)).toOption =
      (SensorInfo.decode id (.object others)).toOption
  sensor : ∀ id members others, SameUnder SensorInfo.shape.names members others →
    (∀ type shape, SensorType.ofName? (members.text "type") = some type →
      readingShape? type = some shape →
        Option.Rel (SameValue shape.names) (members.get? "state") (others.get? "state")) →
    (Sensor.decode id (.object members)).toOption = (Sensor.decode id (.object others)).toOption
  about : ∀ members others, SameUnder About.shape.names members others →
    (About.decode (.object members)).toOption = (About.decode (.object others)).toOption
  summaries_order : FollowsOrder summaries
  sensorInfos_order : FollowsOrder sensorInfos
  summaries_keys : ∀ entries others, SameEntries Summary.entryShape.names entries others →
    (summaries entries).toOption = (summaries others).toOption
  sensorInfos_keys : ∀ entries others, SameEntries SensorInfo.shape.names entries others →
    (sensorInfos entries).toOption = (sensorInfos others).toOption

/-- Decoders do not look at the order of keys, nor at keys that they do not declare. -/
theorem reads_declared : ReadsDeclared where
  lightState members others h := lightState_same (.object h)
  light id members others h := light_same h
  group id members others h := group_same h
  sensorInfo id members others h := sensorInfo_same (.object h)
  sensor id members others hinfo hstate := sensor_same hinfo hstate
  about members others h := about_same h
  summaries_order entries others results := exists_mapM_of_perm
  sensorInfos_order entries others results := exists_mapM_of_perm
  summaries_keys entries others h := by
    apply toOption_mapM_congr
    apply h.imp
    rintro ⟨id, v⟩ ⟨_, w⟩ ⟨rfl, hsame⟩
    exact entry_same hsame
  sensorInfos_keys entries others h := by
    apply toOption_mapM_congr
    apply h.imp
    rintro ⟨id, v⟩ ⟨_, w⟩ ⟨rfl, hsame⟩
    exact sensorInfo_same hsame

end Declared

section Samples

def lamp : Entries Value :=
  [("name", .string "Desk lamp"),
    ("state", .object [("on", .bool true), ("bri", .uint8 7), ("alert", .string "none")])]

/-- The keys in another order, and others around them and in the state. -/
def lampReordered : Entries Value :=
  [("state", .object [("effect", .null), ("bri", .uint8 7), ("on", .bool true)]),
    ("uniqueid", .array []), ("name", .string "Desk lamp")]

def thermometer : Entries Value :=
  [("name", .string "Hall"), ("type", .string "ZHATemperature"), ("modelid", .string "lumi"),
    ("manufacturername", .string "LUMI"),
    ("state", .object [("temperature", .int64 (-215)), ("lastupdated", .string "none")])]

def thermometerReordered : Entries Value :=
  [("ep", .uint8 1), ("manufacturername", .string "LUMI"), ("modelid", .string "lumi"),
    ("state", .object [("lastupdated", .string "none"), ("battery", .null),
      ("temperature", .int64 (-215))]),
    ("type", .string "ZHATemperature"), ("name", .string "Hall")]

def button : Entries Value :=
  [("name", .string "Door"), ("type", .string "ZGPSwitch"), ("modelid", .string "FOHSWITCH"),
    ("manufacturername", .string "PhilipsFoH")]

private theorem same_lamp :
    SameBesides Light.shape.names LightState.shape.names lamp lampReordered := by
  have hstates : SameUnder LightState.shape.names
      [("on", .bool true), ("bri", .uint8 7), ("alert", .string "none")]
      [("effect", .null), ("bri", .uint8 7), ("on", .bool true)] := by
    refine ⟨by decide, by decide, ?_⟩
    simp only [Shape.names, LightState.shape, List.map_cons, List.forall_mem_cons]
    exact ⟨rfl, rfl, rfl, rfl, rfl, rfl, rfl, nofun⟩
  refine ⟨by decide, by decide, ?_, .some (.object hstates)⟩
  simp only [Shape.names, Light.shape, List.map_cons, List.forall_mem_cons]
  exact ⟨fun _ => rfl, fun _ => rfl, fun _ => rfl, fun _ => rfl, fun h => absurd rfl h, nofun⟩

private theorem same_thermometer :
    SameUnder SensorInfo.shape.names thermometer thermometerReordered := by
  refine ⟨by decide, by decide, ?_⟩
  simp only [Shape.names, SensorInfo.shape, List.map_cons, List.forall_mem_cons]
  exact ⟨rfl, rfl, rfl, rfl, rfl, nofun⟩

private theorem same_temperature :
    Option.Rel (SameValue Reading.temperatureShape.names) (thermometer.get? "state")
      (thermometerReordered.get? "state") := by
  refine .some (.object ⟨by decide, by decide, ?_⟩)
  simp only [Shape.names, Reading.temperatureShape, List.map_cons, List.forall_mem_cons]
  exact ⟨rfl, rfl, nofun⟩

/-- A light and a thermometer have their keys in another order, with others around them and in
their states; and so has the thermometer in a listing, where it comes behind another sensor. -/
theorem reads_declared_reordered :
    (∃ light, Light.decode "3" (.object lamp) = .ok light ∧ light.state.brightness = 7 ∧
      Light.decode "3" (.object lampReordered) = .ok light) ∧
    (∃ sensor, Sensor.decode "5" (.object thermometer) = .ok (some sensor) ∧
      sensor.reading = .temperature ⟨-215, "none"⟩ ∧
      Sensor.decode "5" (.object thermometerReordered) = .ok (some sensor)) ∧
    ∃ hall door, hall.name = "Hall" ∧ door.name = "Door" ∧
      sensorInfos [("5", .object thermometer), ("7", .object button)] = .ok [hall, door] ∧
      sensorInfos [("7", .object button), ("5", .object thermometerReordered)] =
        .ok [door, hall] := by
  refine ⟨?_, ?_, ?_⟩
  · have heq := reads_declared.light "3" lamp lampReordered same_lamp
    obtain ⟨light, hlight, hbri⟩ : ∃ light, Light.decode "3" (.object lamp) = .ok light ∧
        light.state.brightness = 7 := ⟨_, rfl, rfl⟩
    rw [(toOption_eq_some_iff _ _).mpr hlight] at heq
    exact ⟨light, hlight, hbri, (toOption_eq_some_iff _ _).mp heq.symm⟩
  · have heq := reads_declared.sensor "5" thermometer thermometerReordered same_thermometer
      (by
        intro type shape htype hshape
        have hknown : SensorType.ofName? (thermometer.text "type") = some .temperature := rfl
        cases hknown.symm.trans htype
        cases hshape
        exact same_temperature)
    obtain ⟨sensor, hsensor, hreading⟩ : ∃ sensor,
        Sensor.decode "5" (.object thermometer) = .ok (some sensor) ∧
          sensor.reading = .temperature ⟨-215, "none"⟩ := ⟨_, rfl, rfl⟩
    rw [(toOption_eq_some_iff _ _).mpr hsensor] at heq
    exact ⟨sensor, hsensor, hreading, (toOption_eq_some_iff _ _).mp heq.symm⟩
  · obtain ⟨hall, door, hhall, hdoor, hlisted⟩ : ∃ hall door : SensorInfo,
        hall.name = "Hall" ∧ door.name = "Door" ∧
          sensorInfos [("5", .object thermometer), ("7", .object button)] = .ok [hall, door] :=
      ⟨_, _, rfl, rfl, rfl⟩
    obtain ⟨moved, hmoved, hlength, hbeside⟩ := reads_declared.sensorInfos_order _
      [("7", .object button), ("5", .object thermometer)] _ (.swap _ _ _) hlisted
    have hkeys := reads_declared.sensorInfos_keys
      [("7", .object button), ("5", .object thermometer)]
      [("7", .object button), ("5", .object thermometerReordered)]
      (.cons ⟨rfl, .refl _⟩ (.cons ⟨rfl, .object same_thermometer⟩ .nil))
    obtain ⟨first, second, rfl⟩ := List.length_eq_two.mp hlength
    -- The ids tell the infos of the two listings from each other.
    have hfirst : first = door := by
      have hmem := hbeside.symm.subset List.mem_cons_self
      simpa using hmem
    have hsecond : second = hall := by
      have hmem := hbeside.symm.subset (List.mem_cons_of_mem _ List.mem_cons_self)
      simpa using hmem
    subst hfirst hsecond
    rw [(toOption_eq_some_iff _ _).mpr hmoved] at hkeys
    exact ⟨second, first, hhall, hdoor, hlisted, (toOption_eq_some_iff _ _).mp hkeys.symm⟩

end Samples

end ZigbeeBridge.Gateway
