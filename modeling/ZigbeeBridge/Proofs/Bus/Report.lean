import ZigbeeBridge.Bus.Report

/-!
Reports name the device that they are about. They are inbound, their kind tells what the device is,
and the other attributes leave its id alone.
-/
namespace ZigbeeBridge.Bus

open Data Gateway

namespace Event

variable (event : Event) (pairs : List (String × Attribute))

theorem kind_setAll : (event.setAll pairs).kind = event.kind := by
  unfold setAll
  induction pairs generalizing event with
  | nil => rfl
  | cons pair rest ih => exact ih (event.set pair.1 pair.2)

theorem direction_setAll : (event.setAll pairs).direction = event.direction := by
  unfold setAll
  induction pairs generalizing event with
  | nil => rfl
  | cons pair rest ih => exact ih (event.set pair.1 pair.2)

theorem attributes_setAll : (event.setAll pairs).attributes =
    pairs.foldl (fun entries pair => Entries.put entries pair.1 pair.2) event.attributes := by
  unfold setAll
  induction pairs generalizing event with
  | nil => rfl
  | cons pair rest ih => exact ih (event.set pair.1 pair.2)

/-- An attribute that is not set again stays as it is. -/
theorem get?_setAll (key : String) (hkey : key ∉ pairs.map Prod.fst) :
    (event.setAll pairs).get? key = event.get? key := by
  unfold setAll
  induction pairs generalizing event with
  | nil => rfl
  | cons pair rest ih =>
    rw [List.map_cons, List.mem_cons, not_or] at hkey
    have hset : (event.set pair.1 pair.2).get? key = event.get? key := by
      unfold set get?
      rw [Entries.get?_put, if_neg (Ne.symm hkey.1)]
    rw [List.foldl_cons, ih _ hkey.2]
    exact hset

/-- Names that are all different each keep what is set for them. -/
theorem get?_setAll_of_mem (hnodup : (pairs.map Prod.fst).Nodup) {key : String}
    {value : Attribute} (hmem : (key, value) ∈ pairs) :
    (event.setAll pairs).get? key = some value := by
  induction pairs generalizing event with
  | nil => cases hmem
  | cons pair rest ih =>
    rw [List.map_cons, List.nodup_cons] at hnodup
    obtain rfl | hmem := List.mem_cons.mp hmem
    · have hkept := get?_setAll (event.set key value) rest key hnodup.1
      have hset : (event.set key value).get? key = some value := by
        unfold set get?
        rw [Entries.get?_put, if_pos rfl]
      exact hkept.trans hset
    · exact ih (event.set pair.1 pair.2) hnodup.2 hmem

theorem id?_inbound (kind : EventKind) (id : String)
    (hkey : Attribute.id ∉ pairs.map Prod.fst) :
    ((inbound kind id).setAll pairs).id? = some id := by
  unfold id? text?
  rw [get?_setAll _ _ _ hkey]
  rfl

end Event

section Reports

theorem direction_ofLight (light : Light) : (ofLight light).direction = .inbound :=
  Event.direction_setAll _ _

theorem direction_ofGroup (group : Group) : (ofGroup group).direction = .inbound :=
  Event.direction_setAll _ _

theorem kind_ofLight (light : Light) : (ofLight light).kind = .light := Event.kind_setAll _ _

theorem kind_ofGroup (group : Group) : (ofGroup group).kind = .group := Event.kind_setAll _ _

theorem kind_ofSensor (sensor : Sensor) :
    (ofSensor sensor).kind = .ofSensor sensor.reading.sensorType :=
  Event.kind_setAll _ _

private theorem id_not_mem_colorAttributes (color : ColorMode) :
    Attribute.id ∉ (colorAttributes color).map Prod.fst := by
  cases color with
  | none => exact List.not_mem_nil
  | hueSat hue saturation =>
    change Attribute.id ∉ [Attribute.hue, Attribute.saturation]
    decide
  | temperature mired =>
    change Attribute.id ∉ [Attribute.temperature]
    decide

theorem id?_ofLight (light : Light) : (ofLight light).id? = some light.id := by
  apply Event.id?_inbound
  rw [List.map_append, List.mem_append, not_or]
  refine ⟨?_, id_not_mem_colorAttributes light.state.color⟩
  change Attribute.id ∉ [Attribute.command, Attribute.brightness, Attribute.name,
    Attribute.model, Attribute.type, Attribute.version]
  decide

theorem id?_ofGroup (group : Group) : (ofGroup group).id? = some group.id := by
  apply Event.id?_inbound
  change Attribute.id ∉ [Attribute.command, Attribute.name, Attribute.type]
  decide

end Reports

end ZigbeeBridge.Bus
