import ZigbeeBridge.Proofs.Bus.Report
import ZigbeeBridge.Proofs.Data.Entries
import ZigbeeBridge.Proofs.Data.Shape
import ZigbeeBridge.Proofs.Text.Integer
import ZigbeeBridge.Push.Message

/-!
A reading that is polled and the same state when it is pushed. The first is decoded field by field
into integers, the second is flattened into texts; under every name that a reading has, both say
the same.
-/
namespace ZigbeeBridge.Push

open Data Bus Gateway

section Names

def readingNames : SensorType → List String
  | .switch => []
  | .power => [Attribute.current, Attribute.power, Attribute.voltage, Attribute.lastUpdated]
  | .consumption => [Attribute.consumption, Attribute.lastUpdated]
  | .temperature => [Attribute.sensorTemperature, Attribute.lastUpdated]

/-- What an event tells under a name, another tells as the same text and as the same integer. -/
structure Agree (event other : Event) (name : String) : Prop where
  present : (event.get? name).isSome
  text : other.text? name = event.text? name
  int : other.int? name = event.int? name

theorem nameStart_injective : Function.Injective (Attribute.nameStart ++ ·) := by
  intro key other h
  exact (String.append_right_inj Attribute.nameStart).mp h

end Names

section Flattened

variable {state : Entries Value}

theorem nodup_stateAttributes (hkeys : state.keys.Nodup) :
    ((stateAttributes state).map Prod.fst).Nodup := by
  have hnames : ((stateAttributes state).map Prod.fst).Sublist
      (state.keys.map (Attribute.nameStart ++ ·)) := by
    unfold stateAttributes Entries.keys
    induction state with
    | nil => exact List.Sublist.slnil
    | cons field rest ih =>
      have hrest := ih (List.nodup_cons.mp hkeys).2
      rw [List.filterMap_cons]
      cases scalarText? field.2 with
      | none => exact hrest.cons _
      | some text => exact hrest.cons_cons _
  exact (hkeys.map nameStart_injective).sublist hnames

theorem get?_flatten {resource id key text : String} {v : Value} (hkeys : state.keys.Nodup)
    (hget : state.get? key = some v) (htext : scalarText? v = some text) :
    (flatten ⟨resource, id, some state⟩).get? (Attribute.nameStart ++ key) =
      some (.text text) := by
  have hmem : (Attribute.nameStart ++ key, Attribute.text text) ∈ stateAttributes state := by
    unfold stateAttributes
    rw [List.mem_filterMap]
    exact ⟨(key, v), Entries.mem_of_get? hget, by rw [htext]; rfl⟩
  exact Event.get?_setAll_of_mem _ _ (nodup_stateAttributes hkeys) hmem

end Flattened

section Polled

variable {event other : Event} {name : String}

theorem Agree.of_text {s : String} (hevent : event.get? name = some (.text s))
    (hother : other.get? name = some (.text s)) : Agree event other name where
  present := by rw [hevent]; rfl
  text := by rw [Event.text?, Event.text?, hevent, hother]
  int := by rw [Event.int?, Event.int?, hevent, hother]

theorem Agree.of_int {n : Int64} (hevent : event.get? name = some (.int n))
    (hother : other.get? name = some (.text (toString n.toInt))) : Agree event other name where
  present := by rw [hevent]; rfl
  text := by
    rw [Event.text?, Event.text?, hevent, hother]
    rfl
  int := by
    rw [Event.int?, Event.int?, hevent, hother, Option.bind_some, Option.bind_some,
      Attribute.int?, Attribute.int?, Text.trim_toString, Text.int64?_toString]

end Polled

section Decoded

variable {shape : Shape} {state members : Entries Value} {resource id : String}

theorem read_of_record {v : Value} (h : record shape v = .ok members) :
    shape.read v = .ok members :=
  mapError_eq_ok h

/-- A reading is made of the members of the object that stands in the detail as the state. -/
theorem members_of_detail {body : Value} {reading : Reading} {make : Entries Value → Reading}
    (hstate : body.member? "state" = some (.object state))
    (hdecode : (do .ok (make (← record shape (← Reading.decode.state body)))) =
      Except.ok reading) :
    ∃ members, record shape (.object state) = .ok members ∧ reading = make members := by
  obtain ⟨v, hv, hrest⟩ := bind_eq_ok hdecode
  obtain ⟨detail, hdetail, hdone⟩ := bind_eq_ok hv
  obtain ⟨members, hrecord, hmade⟩ := bind_eq_ok hrest
  cases hdone
  cases hmade
  refine ⟨members, ?_, rfl⟩
  cases body with
  | object fields =>
    obtain rfl := Shape.eq_of_read (read_of_record hdetail)
    have hget : Entries.get? detail "state" = some (.object state) := hstate
    rw [Entries.value, hget] at hrecord
    exact hrecord
  | null | bool | number | string | array => cases hstate

theorem get?_ofSensor (sensor : Sensor) {name : String} {value : Attribute}
    (hmem : (name, value) ∈ readingAttributes sensor.info.version sensor.reading) :
    (ofSensor sensor).get? name = some value := by
  obtain ⟨info, reading⟩ := sensor
  apply Event.get?_setAll_of_mem
  · cases reading with
    | switch =>
      show [Attribute.name, Attribute.model, Attribute.type, Attribute.manufacturer].Nodup
      decide
    | power r =>
      show [Attribute.name, Attribute.model, Attribute.type, Attribute.manufacturer,
        Attribute.version, Attribute.current, Attribute.power, Attribute.voltage,
        Attribute.lastUpdated].Nodup
      decide
    | consumption r =>
      show [Attribute.name, Attribute.model, Attribute.type, Attribute.manufacturer,
        Attribute.version, Attribute.consumption, Attribute.lastUpdated].Nodup
      decide
    | temperature r =>
      show [Attribute.name, Attribute.model, Attribute.type, Attribute.manufacturer,
        Attribute.version, Attribute.sensorTemperature, Attribute.lastUpdated].Nodup
      decide
  · exact List.mem_append_right _ hmem

variable {sensor : Sensor} (key : String) (hkeys : state.keys.Nodup)
  (hrecord : record shape (.object state) = .ok members)
include hkeys hrecord

theorem agree_int64 (hfield : shape.field? key = some (.required key .int64))
    (hmem : (Attribute.nameStart ++ key, .int (members.int64 key)) ∈
      readingAttributes sensor.info.version sensor.reading) :
    Agree (ofSensor sensor) (flatten ⟨resource, id, some state⟩) (Attribute.nameStart ++ key) := by
  have hread := read_of_record hrecord
  obtain rfl := Shape.eq_of_read hread
  obtain ⟨v, hget, hcheck⟩ := Shape.exists_of_required hread hfield
  obtain ⟨n, rfl⟩ := Check.eq_int64_of_int64 hcheck
  rw [Entries.int64_of_get? hget] at hmem
  exact Agree.of_int (get?_ofSensor sensor hmem) (get?_flatten hkeys hget rfl)

theorem agree_text (hfield : shape.field? key = some (.required key .text))
    (hmem : (Attribute.nameStart ++ key, .text (members.text key)) ∈
      readingAttributes sensor.info.version sensor.reading) :
    Agree (ofSensor sensor) (flatten ⟨resource, id, some state⟩) (Attribute.nameStart ++ key) := by
  have hread := read_of_record hrecord
  obtain rfl := Shape.eq_of_read hread
  obtain ⟨v, hget, hcheck⟩ := Shape.exists_of_required hread hfield
  obtain ⟨s, rfl⟩ := Check.eq_string_of_text hcheck
  rw [Entries.text_of_get? hget] at hmem
  exact Agree.of_text (get?_ofSensor sensor hmem) (get?_flatten hkeys hget rfl)

end Decoded

section Readings

variable {state : Entries Value}

/-- Each attribute of a reading has its place in the report, and its key in the shape. -/
theorem agree_of_decode {resource id : String} {type : SensorType} {body : Value}
    {info : SensorInfo} {reading : Reading} (hkeys : state.keys.Nodup)
    (hstate : body.member? "state" = some (.object state))
    (hdecode : Reading.decode type body = .ok reading) :
    ∀ name ∈ readingNames type,
      Agree (ofSensor ⟨info, reading⟩) (flatten ⟨resource, id, some state⟩) name := by
  intro name hname
  cases type with
  | switch => cases hname
  | power =>
    obtain ⟨ms, hrecord, rfl⟩ := members_of_detail hstate hdecode
    simp only [readingNames, List.mem_cons, List.not_mem_nil, or_false] at hname
    obtain rfl | rfl | rfl | rfl := hname
    · exact agree_int64 "current" hkeys hrecord rfl (.tail _ (.head _))
    · exact agree_int64 "power" hkeys hrecord rfl (.tail _ (.tail _ (.head _)))
    · exact agree_int64 "voltage" hkeys hrecord rfl (.tail _ (.tail _ (.tail _ (.head _))))
    · exact agree_text "lastupdated" hkeys hrecord rfl
        (.tail _ (.tail _ (.tail _ (.tail _ (.head _)))))
  | consumption =>
    obtain ⟨ms, hrecord, rfl⟩ := members_of_detail hstate hdecode
    simp only [readingNames, List.mem_cons, List.not_mem_nil, or_false] at hname
    obtain rfl | rfl := hname
    · exact agree_int64 "consumption" hkeys hrecord rfl (.tail _ (.head _))
    · exact agree_text "lastupdated" hkeys hrecord rfl (.tail _ (.tail _ (.head _)))
  | temperature =>
    obtain ⟨ms, hrecord, rfl⟩ := members_of_detail hstate hdecode
    simp only [readingNames, List.mem_cons, List.not_mem_nil, or_false] at hname
    obtain rfl | rfl := hname
    · exact agree_int64 "temperature" hkeys hrecord rfl (.tail _ (.head _))
    · exact agree_text "lastupdated" hkeys hrecord rfl (.tail _ (.tail _ (.head _)))

theorem ofName?_name (type : SensorType) : SensorType.ofName? type.name = some type := by
  cases type <;> rfl

theorem exists_reading {id : String} {type : SensorType} {body : Value} {decoded : Option Sensor}
    (htype : body.member? "type" = some (.string type.name))
    (hdecode : Sensor.decode id body = .ok decoded) :
    ∃ info reading, decoded = some ⟨info, reading⟩ ∧ Reading.decode type body = .ok reading := by
  obtain ⟨info, hinfo, hrest⟩ := bind_eq_ok hdecode
  obtain ⟨ms, hrecord, hdone⟩ := bind_eq_ok hinfo
  cases hdone
  cases body with
  | object detail =>
    obtain rfl := Shape.eq_of_read (read_of_record hrecord)
    have hname : (SensorInfo.ofMembers id ms).sensorType? = some type := by
      have htext : ms.text "type" = type.name := Entries.text_of_get? htype
      show SensorType.ofName? (ms.text "type") = some type
      rw [htext, ofName?_name]
    rw [hname] at hrest
    obtain ⟨reading, hreading, hdone⟩ := bind_eq_ok hrest
    cases hdone
    exact ⟨_, reading, rfl, hreading⟩
  | null | bool | number | string | array => cases htype

theorem sensorType_of_decode {type : SensorType} {body : Value} {reading : Reading}
    (hstate : body.member? "state" = some (.object state))
    (hdecode : Reading.decode type body = .ok reading) : reading.sensorType = type := by
  cases type with
  | switch =>
    cases hdecode
    rfl
  | power | consumption | temperature =>
    obtain ⟨ms, -, rfl⟩ := members_of_detail hstate hdecode
    rfl

/-- A poll and a push of one state tell the same reading, whatever else stands in either. An object
has no key twice. -/
theorem polled_agrees_with_pushed (id : String) (type : SensorType) (body : Value)
    (state : Entries Value) (decoded : Option Sensor) (hkeys : state.keys.Nodup)
    (htype : body.member? "type" = some (.string type.name))
    (hstate : body.member? "state" = some (.object state))
    (hdecode : Sensor.decode id body = .ok decoded) :
    ∃ sensor, decoded = some sensor ∧ sensor.reading.sensorType = type ∧
      ∀ name ∈ readingNames type,
        Agree (ofSensor sensor) (flatten ⟨"sensors", id, some state⟩) name := by
  obtain ⟨info, reading, rfl, hreading⟩ := exists_reading htype hdecode
  exact ⟨⟨info, reading⟩, rfl, sensorType_of_decode hstate hreading,
    agree_of_decode hkeys hstate hreading⟩

/-- A meter at the end of the range, with a field of its own between the others. -/
theorem polled_agrees_with_pushed_meter :
    let state : Entries Value :=
      [("voltage", .int64 230), ("on", .bool true), ("lastupdated", .string " 42 "),
        ("power", .int64 (-0x8000000000000000)), ("current", .int64 (-7))]
    let body : Value := .object
      [("state", .object state), ("name", .string "Meter"), ("type", .string "ZHAPower"),
        ("modelid", .string "SP 120"), ("manufacturername", .string "innr")]
    ∃ sensor, Sensor.decode "9" body = .ok (some sensor) ∧
      (ofSensor sensor).int? Attribute.power = some (-0x8000000000000000) ∧
      ∀ name ∈ readingNames .power,
        Agree (ofSensor sensor) (flatten ⟨"sensors", "9", some state⟩) name := by
  intro state body
  have hdecode : Sensor.decode "9" body = .ok (some
      ⟨⟨"9", "Meter", "ZHAPower", "SP 120", "innr", ""⟩,
        .power ⟨-7, -0x8000000000000000, 230, " 42 "⟩⟩) := by rfl
  obtain ⟨sensor, hsome, -, hagree⟩ :=
    polled_agrees_with_pushed "9" .power body state _ (by decide) rfl rfl hdecode
  cases hsome
  exact ⟨_, hdecode, by decide, hagree⟩

end Readings

end ZigbeeBridge.Push
