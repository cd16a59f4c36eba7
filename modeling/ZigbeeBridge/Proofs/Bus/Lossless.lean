import ZigbeeBridge.Proofs.Bus.Command
import ZigbeeBridge.Proofs.Bus.Report
import ZigbeeBridge.Proofs.Data.Entries

/-!
What is reported can be read off the report again: a whole light, a group but for whether any of
its lights is on, and a sensor but for the version of a switch. So two reports with the same
attributes, in whatever order, are about the same thing in the same state.
-/
namespace ZigbeeBridge.Bus

open Data Gateway

section Sameness

variable {a b : Event}

/-- Two events are the same when they tell the same under every name. -/
theorem Event.same_iff (ha : a.attributes.keys.Nodup) (hb : b.attributes.keys.Nodup) :
    a.same b = true ↔
      a.kind = b.kind ∧ a.direction = b.direction ∧ ∀ key, a.get? key = b.get? key := by
  have hget : (∀ key, a.get? key = b.get? key) ↔ _ := Entries.get?_ext_iff ha hb
  rw [hget]
  simp [Event.same, Event.get?, and_assoc]

variable (kind kind' : EventKind) (id id' : String) (pairs pairs' : List (String × Attribute))

theorem Event.nodup_keys_inbound : ((inbound kind id).setAll pairs).attributes.keys.Nodup := by
  rw [attributes_setAll]
  exact Entries.nodup_keys_foldl_put _ pairs (List.nodup_singleton _)

/-- Reports differ in nothing but their kind and what they tell. -/
theorem Event.same_inbound_iff :
    ((inbound kind id).setAll pairs).same ((inbound kind' id').setAll pairs') = true ↔
      kind = kind' ∧ ∀ key, ((inbound kind id).setAll pairs).get? key =
        ((inbound kind' id').setAll pairs').get? key := by
  rw [same_iff (nodup_keys_inbound kind id pairs) (nodup_keys_inbound kind' id' pairs'),
    kind_setAll, kind_setAll, direction_setAll, direction_setAll]
  exact ⟨fun h => ⟨h.1, h.2.2⟩, fun h => ⟨h.1, rfl, h.2⟩⟩

end Sameness

namespace Event

variable (event : Event)

/-- The text of an attribute, empty where there is none. -/
def textAt (key : String) : String := (event.text? key).getD ""

def intAt (key : String) : Int64 := (event.int? key).getD 0

def isOn : Bool := event.textAt Attribute.command == "On"

def color : ColorMode :=
  match event.int? Attribute.temperature, event.int? Attribute.hue,
    event.int? Attribute.saturation with
  | some mired, _, _ => .temperature (clampUInt16 mired)
  | none, some hue, some saturation => .hueSat (clampUInt16 hue) (clampUInt8 saturation)
  | none, _, _ => .none

def light : Light :=
  { id := event.textAt Attribute.id
    name := event.textAt Attribute.name
    model := event.textAt Attribute.model
    type := event.textAt Attribute.type
    version := event.textAt Attribute.version
    state := ⟨event.isOn, clampUInt8 (event.intAt Attribute.brightness), event.color⟩ }

def group : Group :=
  { id := event.textAt Attribute.id
    name := event.textAt Attribute.name
    type := event.textAt Attribute.type
    state := ⟨event.isOn, false⟩ }

def reading : Reading :=
  match event.kind with
  | .sensorPower => .power
      ⟨event.intAt Attribute.current, event.intAt Attribute.power, event.intAt Attribute.voltage,
        event.textAt Attribute.lastUpdated⟩
  | .sensorConsumption => .consumption
      ⟨event.intAt Attribute.consumption, event.textAt Attribute.lastUpdated⟩
  | .sensorTemperature => .temperature
      ⟨event.intAt Attribute.sensorTemperature, event.textAt Attribute.lastUpdated⟩
  | .light | .group | .sensor => .switch

def sensor : Sensor :=
  { info :=
      { id := event.textAt Attribute.id
        name := event.textAt Attribute.name
        type := event.textAt Attribute.type
        model := event.textAt Attribute.model
        manufacturer := event.textAt Attribute.manufacturer
        version := event.textAt Attribute.version }
    reading := event.reading }

variable {a b : Event} (hget : ∀ key, a.get? key = b.get? key)
include hget

theorem light_congr : a.light = b.light := by
  simp only [light, isOn, color, textAt, intAt, text?, int?, hget]

theorem group_congr : a.group = b.group := by
  simp only [group, isOn, textAt, text?, hget]

theorem sensor_congr (hkind : a.kind = b.kind) : a.sensor = b.sensor := by
  simp only [sensor, reading, textAt, intAt, text?, int?, hkind, hget]

end Event

section Reported

/-- What is reported of a group: all but whether any of its lights is on. -/
def reportedGroup (group : Group) : Group := { group with state := ⟨group.state.allOn, false⟩ }

/-- What is reported of a sensor: all but the version of a switch. -/
def reportedSensor (sensor : Sensor) : Sensor :=
  match sensor.reading with
  | .switch => { sensor with info := { sensor.info with version := "" } }
  | .power _ | .consumption _ | .temperature _ => sensor

theorem light_ofLight (light : Light) : (ofLight light).light = light := by
  obtain ⟨id, name, model, type, version, on, brightness, color⟩ := light
  have hon : (commandText on == "On") = on := by cases on <;> rfl
  cases color with
  | none =>
    change (⟨id, name, model, type, version, commandText on == "On",
      clampUInt8 (.ofNat brightness.toNat), .none⟩ : Light) = _
    rw [hon, clampUInt8_ofNat]
  | hueSat hue saturation =>
    change (⟨id, name, model, type, version, commandText on == "On",
      clampUInt8 (.ofNat brightness.toNat), .hueSat (clampUInt16 (.ofNat hue.toNat))
        (clampUInt8 (.ofNat saturation.toNat))⟩ : Light) = _
    rw [hon, clampUInt8_ofNat, clampUInt16_ofNat, clampUInt8_ofNat]
  | temperature mired =>
    change (⟨id, name, model, type, version, commandText on == "On",
      clampUInt8 (.ofNat brightness.toNat), .temperature (clampUInt16 (.ofNat mired.toNat))⟩ :
        Light) = _
    rw [hon, clampUInt8_ofNat, clampUInt16_ofNat]

theorem group_ofGroup (group : Group) : (ofGroup group).group = reportedGroup group := by
  obtain ⟨id, name, type, allOn, anyOn⟩ := group
  cases allOn with
  | true | false => rfl

theorem sensor_ofSensor (sensor : Sensor) : (ofSensor sensor).sensor = reportedSensor sensor := by
  obtain ⟨info, reading⟩ := sensor
  cases reading with
  | switch | power | consumption | temperature => rfl

/-- What is not reported of a sensor has no part in its report. -/
theorem ofSensor_reportedSensor (sensor : Sensor) :
    ofSensor (reportedSensor sensor) = ofSensor sensor := by
  obtain ⟨info, reading⟩ := sensor
  cases reading with
  | switch | power | consumption | temperature => rfl

theorem same_refl_inbound (kind : EventKind) (id : String) (pairs : List (String × Attribute)) :
    ((Event.inbound kind id).setAll pairs).same ((Event.inbound kind id).setAll pairs) = true :=
  (Event.same_inbound_iff kind kind id id pairs pairs).mpr ⟨rfl, fun _ => rfl⟩

theorem same_ofLight_iff (a b : Light) : (ofLight a).same (ofLight b) = true ↔ a = b := by
  constructor
  · intro hsame
    have hget := ((Event.same_inbound_iff _ _ _ _ _ _).mp hsame).2
    calc a = (ofLight a).light := (light_ofLight a).symm
      _ = (ofLight b).light := Event.light_congr hget
      _ = b := light_ofLight b
  · rintro rfl
    exact same_refl_inbound _ _ _

theorem same_ofGroup_iff (a b : Group) :
    (ofGroup a).same (ofGroup b) = true ↔ reportedGroup a = reportedGroup b := by
  constructor
  · intro hsame
    have hget := ((Event.same_inbound_iff _ _ _ _ _ _).mp hsame).2
    rw [← group_ofGroup, ← group_ofGroup]
    exact Event.group_congr hget
  · intro heq
    have hreport : ∀ group, ofGroup (reportedGroup group) = ofGroup group := fun _ => rfl
    rw [← hreport a, heq, hreport]
    exact same_refl_inbound _ _ _

theorem same_ofSensor_iff (a b : Sensor) :
    (ofSensor a).same (ofSensor b) = true ↔ reportedSensor a = reportedSensor b := by
  constructor
  · intro hsame
    obtain ⟨hkind, hget⟩ := (Event.same_inbound_iff _ _ _ _ _ _).mp hsame
    have hkinds : (ofSensor a).kind = (ofSensor b).kind := by
      rw [kind_ofSensor, kind_ofSensor, hkind]
    rw [← sensor_ofSensor, ← sensor_ofSensor]
    exact Event.sensor_congr hget hkinds
  · intro heq
    rw [← ofSensor_reportedSensor a, heq, ofSensor_reportedSensor]
    exact same_refl_inbound _ _ _

theorem not_same_of_kind_ne {a b : Event} (hkind : a.kind ≠ b.kind) : a.same b = false := by
  simp [Event.same, hkind]

/-- Reports of the same attributes, in whatever order, are about the same light, the same group up
to whether any of its lights is on, or the same sensor up to the version of a switch; and no report
of one sort is a report of another. -/
theorem same_report_iff :
    (∀ a b : Light, (ofLight a).same (ofLight b) = true ↔ a = b) ∧
      (∀ a b : Group, (ofGroup a).same (ofGroup b) = true ↔ reportedGroup a = reportedGroup b) ∧
      (∀ a b : Sensor,
        (ofSensor a).same (ofSensor b) = true ↔ reportedSensor a = reportedSensor b) ∧
      ∀ (light : Light) (group : Group) (sensor : Sensor),
        (ofLight light).same (ofGroup group) = false ∧
          (ofLight light).same (ofSensor sensor) = false ∧
          (ofGroup group).same (ofSensor sensor) = false := by
  refine ⟨same_ofLight_iff, same_ofGroup_iff, same_ofSensor_iff, ?_⟩
  intro light group sensor
  have hkind : EventKind.ofSensor sensor.reading.sensorType ≠ .light ∧
      EventKind.ofSensor sensor.reading.sensorType ≠ .group := by
    cases sensor.reading.sensorType with
    | switch | power | consumption | temperature => decide
  refine ⟨not_same_of_kind_ne ?_, not_same_of_kind_ne ?_, not_same_of_kind_ne ?_⟩
  · rw [kind_ofLight, kind_ofGroup]
    decide
  · rw [kind_ofLight, kind_ofSensor]
    exact hkind.1.symm
  · rw [kind_ofGroup, kind_ofSensor]
    exact hkind.2.symm

/-- Two meters that differ in nothing but their versions are told apart, two switches are not. -/
example :
    let meter : String → Sensor := fun version =>
      ⟨⟨"4", "Meter", "ZHAPower", "SP 120", "innr", version⟩, .power ⟨0, 0, 230, ""⟩⟩
    let switch : String → Sensor := fun version =>
      ⟨⟨"4", "Switch", "ZGPSwitch", "FOHSWITCH", "PhilipsFoH", version⟩, .switch⟩
    (ofSensor (meter "1")).same (ofSensor (meter "2")) = false ∧
      (ofSensor (switch "1")).same (ofSensor (switch "2")) = true := by
  decide

end Reported

end ZigbeeBridge.Bus
