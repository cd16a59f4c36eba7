import ZigbeeBridge.Proofs.Bus.Report
import ZigbeeBridge.Proofs.Data.Record

/-!
From the body that describes a light to the event that reports it. A body is decoded when its state
tells whether the light is on and every other field that is given is of its type. The event then
says what the body says.
-/
namespace ZigbeeBridge.Bus

open Data Gateway

section Types

/-- A state tells whether the light is on, and what else it gives is of its type. -/
structure StateTyped (state : Entries Value) : Prop where
  on : ∃ v, state.get? "on" = some v ∧ v.IsBool
  reachable : ∀ v, state.given? "reachable" = some v → v.IsBool
  brightness : ∀ v, state.given? "bri" = some v → v.IsInteger 0 0xFF
  hue : ∀ v, state.given? "hue" = some v → v.IsInteger 0 0xFFFF
  saturation : ∀ v, state.given? "sat" = some v → v.IsInteger 0 0xFF
  mired : ∀ v, state.given? "ct" = some v → v.IsInteger 0 0xFFFF
  mode : ∀ v, state.given? "colormode" = some v → v.IsText

/-- What a body tells about the light besides its state is text. -/
structure TextsTyped (body : Entries Value) : Prop where
  name : ∀ v, body.given? "name" = some v → v.IsText
  model : ∀ v, body.given? "modelid" = some v → v.IsText
  type : ∀ v, body.given? "type" = some v → v.IsText
  version : ∀ v, body.given? "swversion" = some v → v.IsText

variable {body state : Entries Value}

theorem takes_state_iff :
    (∀ field ∈ LightState.shape.fields, field.Takes (state.get? field.name)) ↔
      StateTyped state := by
  simp only [LightState.shape, List.forall_mem_cons, Field.takes_required_iff,
    Field.takes_maybe_iff, Check.bool_eq_ok_iff, Check.text_eq_ok_iff, Check.uint8, Check.uint16,
    Check.integer_eq_ok_iff, List.not_mem_nil, false_imp_iff, implies_true, and_true]
  constructor
  · rintro ⟨hon, hreachable, hbri, hhue, hsat, hct, hmode⟩
    exact ⟨hon, hreachable, hbri, hhue, hsat, hct, hmode⟩
  · rintro ⟨hon, hreachable, hbri, hhue, hsat, hct, hmode⟩
    exact ⟨hon, hreachable, hbri, hhue, hsat, hct, hmode⟩

theorem takes_body_iff :
    (∀ field ∈ Light.shape.fields, field.Takes (body.get? field.name)) ↔
      TextsTyped body ∧ ∃ v, body.get? "state" = some v := by
  simp only [Light.shape, List.forall_mem_cons, Field.takes_required_iff,
    Field.takes_maybe_iff, Check.text_eq_ok_iff, Check.any, List.not_mem_nil, false_imp_iff,
    implies_true, and_true]
  constructor
  · rintro ⟨hname, hmodel, htype, hversion, hstate⟩
    exact ⟨⟨hname, hmodel, htype, hversion⟩, hstate⟩
  · rintro ⟨⟨hname, hmodel, htype, hversion⟩, hstate⟩
    exact ⟨hname, hmodel, htype, hversion, hstate⟩

end Types

section Decoding

variable {id : String} {body state : Entries Value} {light : Light}

def described (id : String) (body : Entries Value) (state : LightState) : Light where
  id := id
  name := body.text "name"
  model := body.text "modelid"
  type := body.text "type"
  version := body.text "swversion"
  state := state

theorem decode_state_eq_ok_iff (hstate : state.keys.Nodup) {decoded : LightState} :
    LightState.decode (.object state) = .ok decoded ↔
      StateTyped state ∧ decoded = .ofMembers state := by
  have hnames : LightState.shape.names.Nodup := by decide
  unfold LightState.decode record
  simp only [bind_eq_ok_iff, mapError_eq_ok_iff, Shape.read_object_eq_ok_iff hnames hstate,
    takes_state_iff, Except.ok.injEq]
  constructor
  · rintro ⟨ms, ⟨rfl, htyped⟩, hdone⟩
    exact ⟨htyped, hdone.symm⟩
  · rintro ⟨htyped, hdone⟩
    exact ⟨state, ⟨rfl, htyped⟩, hdone.symm⟩

theorem decode_light_eq_ok_iff (hbody : body.keys.Nodup) :
    Light.decode id (.object body) = .ok light ↔
      TextsTyped body ∧ ∃ v decoded, body.get? "state" = some v ∧
        LightState.decode v = .ok decoded ∧ light = described id body decoded := by
  have hnames : Light.shape.names.Nodup := by decide
  unfold Light.decode record
  simp only [bind_eq_ok_iff, mapError_eq_ok_iff, Shape.read_object_eq_ok_iff hnames hbody,
    takes_body_iff, Except.ok.injEq]
  constructor
  · rintro ⟨ms, ⟨rfl, htexts, v, hget⟩, decoded, hdecoded, hdone⟩
    rw [Entries.value, hget] at hdecoded
    exact ⟨htexts, v, decoded, hget, hdecoded, hdone.symm⟩
  · rintro ⟨htexts, v, decoded, hget, hdecoded, hdone⟩
    refine ⟨body, ⟨rfl, htexts, v, hget⟩, decoded, ?_, hdone.symm⟩
    rw [Entries.value, hget]
    exact hdecoded

/-- A state that is not an array can only be decoded where it is an object. -/
theorem object_of_decode_state {v : Value} {decoded : LightState}
    (h : LightState.decode v = .ok decoded) (hv : ∀ items, v ≠ .array items) :
    ∃ state, v = .object state := by
  cases v with
  | object state => exact ⟨state, rfl⟩
  | array items => exact absurd rfl (hv items)
  | null | bool | number | string => cases h

end Decoding

section Shown

def Event.shown? (event : Event) (name : String) : Option Value :=
  (event.get? name).map Attribute.value

theorem value_uint8 (n : UInt8) : (Attribute.uint8 n).value = .uint8 n :=
  Width.uint8.int64_ofNat (by decide) n

theorem value_uint16 (n : UInt16) : (Attribute.uint16 n).value = .uint16 n :=
  Width.uint16.int64_ofNat (by decide) n

variable (light : Light)

/-- What every light is reported with, whatever its color. -/
theorem shown?_ofLight {name : String} {value : Attribute}
    (hmem : (name, value) ∈ [(Attribute.command, .text (commandText light.state.on)),
      (Attribute.brightness, .uint8 light.state.brightness), (Attribute.name, .text light.name),
      (Attribute.model, .text light.model), (Attribute.type, .text light.type),
      (Attribute.version, .text light.version)]) :
    (ofLight light).shown? name = some value.value := by
  have hget : (ofLight light).get? name = some value := by
    obtain ⟨id, lightName, model, type, version, on, brightness, color⟩ := light
    simp only [List.mem_cons, Prod.mk.injEq, List.not_mem_nil, or_false] at hmem
    obtain ⟨rfl, rfl⟩ | ⟨rfl, rfl⟩ | ⟨rfl, rfl⟩ | ⟨rfl, rfl⟩ | ⟨rfl, rfl⟩ | ⟨rfl, rfl⟩ := hmem <;>
      cases color <;> rfl
  rw [Event.shown?, hget, Option.map_some]

theorem shown?_color_ofLight {name : String}
    (hname : name ∈ [Attribute.hue, Attribute.saturation, Attribute.temperature]) :
    (ofLight light).shown? name =
      (Entries.get? (colorAttributes light.state.color) name).map Attribute.value := by
  obtain ⟨id, lightName, model, type, version, on, brightness, color⟩ := light
  simp only [List.mem_cons, List.not_mem_nil, or_false] at hname
  obtain rfl | rfl | rfl := hname <;> cases color <;> rfl

end Shown

section Showing

/-- The light is on, and it is not known to be out of reach. -/
def IsLit (state : Entries Value) : Prop :=
  state.bool? "on" = some true ∧ state.bool? "reachable" ≠ some false

/-- The mode of the color is that of a temperature, and there is one. -/
def IsWarm (state : Entries Value) : Prop :=
  state.text? "colormode" = some "ct" ∧ (state.given? "ct").isSome

/-- The color is not a temperature, and both its hue and its saturation are there. -/
def IsColored (state : Entries Value) : Prop :=
  ¬IsWarm state ∧ (state.given? "hue").isSome ∧ (state.given? "sat").isSome

instance (state : Entries Value) : Decidable (IsLit state) := inferInstanceAs (Decidable (_ ∧ _))

instance (state : Entries Value) : Decidable (IsWarm state) := inferInstanceAs (Decidable (_ ∧ _))

instance (state : Entries Value) : Decidable (IsColored state) :=
  inferInstanceAs (Decidable (_ ∧ _))

/-- An event shows what a body and its state tell of a light. -/
structure Shows (event : Event) (body state : Entries Value) : Prop where
  command : event.shown? Attribute.command = some (.string (if IsLit state then "On" else "Off"))
  brightness : event.shown? Attribute.brightness =
    some ((state.given? "bri").getD (if IsLit state then .uint8 100 else .uint8 0))
  temperature : event.shown? Attribute.temperature =
    if IsWarm state then state.given? "ct" else none
  hue : event.shown? Attribute.hue = if IsColored state then state.given? "hue" else none
  saturation : event.shown? Attribute.saturation =
    if IsColored state then state.given? "sat" else none
  name : event.shown? Attribute.name = some ((body.given? "name").getD (.string ""))
  model : event.shown? Attribute.model = some ((body.given? "modelid").getD (.string ""))
  type : event.shown? Attribute.type = some ((body.given? "type").getD (.string ""))
  version : event.shown? Attribute.version = some ((body.given? "swversion").getD (.string ""))

variable {id : String} {body state : Entries Value}

theorem colorOf_cases (mode : Option String) (mired hue : Option UInt16)
    (saturation : Option UInt8) :
    (∃ m, mode = some "ct" ∧ mired = some m ∧
      LightState.colorOf mode mired hue saturation = .temperature m) ∨
    (¬(mode = some "ct" ∧ mired.isSome) ∧ ∃ h s, hue = some h ∧ saturation = some s ∧
      LightState.colorOf mode mired hue saturation = .hueSat h s) ∨
    (¬(mode = some "ct" ∧ mired.isSome) ∧ ¬(hue.isSome ∧ saturation.isSome) ∧
      LightState.colorOf mode mired hue saturation = .none) := by
  by_cases hwarm : mode = some "ct" ∧ mired.isSome
  · obtain ⟨rfl, hmired⟩ := hwarm
    obtain ⟨m, rfl⟩ := Option.isSome_iff_exists.mp hmired
    exact .inl ⟨m, rfl, rfl, rfl⟩
  · unfold LightState.colorOf
    split
    · exact absurd ⟨rfl, rfl⟩ hwarm
    · rename_i h s _
      exact .inr (.inl ⟨hwarm, h, s, rfl, rfl, rfl⟩)
    · rename_i hneither
      refine .inr (.inr ⟨hwarm, ?_, rfl⟩)
      rintro ⟨hhue, hsaturation⟩
      obtain ⟨h, hh⟩ := Option.isSome_iff_exists.mp hhue
      obtain ⟨s, hs⟩ := Option.isSome_iff_exists.mp hsaturation
      exact hneither h s hh hs

theorem on_ofMembers_iff : (LightState.ofMembers state).on = true ↔ IsLit state := by
  have hon : ∀ on reachable : Option Bool, (on.getD false && reachable.getD true) = true ↔
      on = some true ∧ reachable ≠ some false := by
    rintro (_ | _ | _) (_ | _ | _) <;> decide
  exact hon _ _

variable {event : Event}

theorem shown_text {key name : String} (htext : ∀ v, body.given? key = some v → v.IsText)
    (hshown : event.shown? name = some (Attribute.text (body.text key)).value) :
    event.shown? name = some ((body.given? key).getD (.string "")) := by
  rw [hshown, Entries.given?_eq_text? htext, Option.getD_map]
  rfl

theorem shown_brightness (htyped : StateTyped state) :
    (Attribute.uint8 (LightState.ofMembers state).brightness).value =
      (state.given? "bri").getD (if IsLit state then .uint8 100 else .uint8 0) := by
  have husual : Value.uint8 (LightState.usualBrightness (LightState.ofMembers state).on) =
      if IsLit state then .uint8 100 else .uint8 0 := by
    simp only [LightState.usualBrightness, on_ofMembers_iff]
    exact apply_ite Value.uint8 _ _ _
  rw [value_uint8, Entries.given?_eq_uint8? htyped.brightness, ← husual, Option.getD_map]
  rfl

theorem shown_color (htyped : StateTyped state) {shown : String → Option Value}
    (hshown : ∀ name ∈ [Attribute.hue, Attribute.saturation, Attribute.temperature], shown name =
      (Entries.get? (colorAttributes (LightState.ofMembers state).color) name).map
        Attribute.value) :
    (shown Attribute.temperature = if IsWarm state then state.given? "ct" else none) ∧
      (shown Attribute.hue = if IsColored state then state.given? "hue" else none) ∧
      (shown Attribute.saturation = if IsColored state then state.given? "sat" else none) := by
  have hct := Entries.given?_eq_uint16? htyped.mired
  have hhue := Entries.given?_eq_uint16? htyped.hue
  have hsat := Entries.given?_eq_uint8? htyped.saturation
  have hwarm : IsWarm state ↔ state.text? "colormode" = some "ct" ∧
      (state.uint16? "ct").isSome := by
    rw [IsWarm, hct, Option.isSome_map]
  have hcolored : IsColored state ↔ ¬IsWarm state ∧ (state.uint16? "hue").isSome ∧
      (state.uint8? "sat").isSome := by
    rw [IsColored, hhue, hsat, Option.isSome_map, Option.isSome_map]
  have hcolor : (LightState.ofMembers state).color = LightState.colorOf
      (state.text? "colormode") (state.uint16? "ct") (state.uint16? "hue")
      (state.uint8? "sat") := rfl
  rw [hshown _ (by simp), hshown _ (by simp), hshown _ (by simp), hcolor, hct, hhue, hsat]
  obtain ⟨m, hmode, hmired, heq⟩ | ⟨hcold, h, s, hh, hs, heq⟩ | ⟨hcold, hneither, heq⟩ :=
    colorOf_cases (state.text? "colormode") (state.uint16? "ct") (state.uint16? "hue")
      (state.uint8? "sat")
  · have hyes : IsWarm state := by
      rw [hwarm, hmired]
      exact ⟨hmode, rfl⟩
    have hno : ¬IsColored state := fun h => h.1 hyes
    rw [heq, if_pos hyes, if_neg hno, if_neg hno, hmired]
    exact ⟨congrArg some (value_uint16 m), rfl, rfl⟩
  · have hno : ¬IsWarm state := fun h => hcold (hwarm.mp h)
    have hyes : IsColored state := by
      rw [hcolored, hh, hs]
      exact ⟨hno, rfl, rfl⟩
    rw [heq, if_neg hno, if_pos hyes, if_pos hyes, hh, hs]
    exact ⟨rfl, congrArg some (value_uint16 h), congrArg some (value_uint8 s)⟩
  · have hno : ¬IsWarm state := fun h => hcold (hwarm.mp h)
    have hplain : ¬IsColored state := fun h => hneither (hcolored.mp h).2
    rw [heq, if_neg hno, if_neg hplain, if_neg hplain]
    exact ⟨rfl, rfl, rfl⟩

theorem shows_ofLight (htexts : TextsTyped body) (htyped : StateTyped state) :
    Shows (ofLight (described id body (.ofMembers state))) body state := by
  have hfixed := @shown?_ofLight (described id body (.ofMembers state))
  obtain ⟨htemperature, hhue, hsaturation⟩ := shown_color htyped
    fun name hname => shown?_color_ofLight (described id body (.ofMembers state)) hname
  refine ⟨?_, ?_, htemperature, hhue, hsaturation, ?_, ?_, ?_, ?_⟩
  · rw [hfixed (.head _)]
    change some (Value.string (commandText (LightState.ofMembers state).on)) = _
    simp only [commandText, on_ofMembers_iff]
  · rw [hfixed (.tail _ (.head _))]
    exact congrArg some (shown_brightness htyped)
  · exact shown_text htexts.name (hfixed (.tail _ (.tail _ (.head _))))
  · exact shown_text htexts.model (hfixed (.tail _ (.tail _ (.tail _ (.head _)))))
  · exact shown_text htexts.type (hfixed (.tail _ (.tail _ (.tail _ (.tail _ (.head _))))))
  · exact shown_text htexts.version
      (hfixed (.tail _ (.tail _ (.tail _ (.tail _ (.tail _ (.head _)))))))

end Showing

section Bodies

/-- What becomes of the body of a light. A state that is an array is left out: its items are taken
for the fields in turn. -/
structure LightReport (id : String) (body : Entries Value) : Prop where
  decoded : (∀ items, body.get? "state" ≠ some (.array items)) →
    ((∃ light, Light.decode id (.object body) = .ok light) ↔
      TextsTyped body ∧ ∃ state, body.get? "state" = some (.object state) ∧ StateTyped state)
  reported : ∀ state light, body.get? "state" = some (.object state) →
    Light.decode id (.object body) = .ok light →
      (ofLight light).id? = some id ∧ Shows (ofLight light) body state

/-- A body is decoded when what it gives is of its type, and what is reported is what it gives. -/
theorem light_reported (id : String) (body : Entries Value) (hbody : body.keys.Nodup)
    (hstate : ∀ state, body.get? "state" = some (.object state) → (Entries.keys state).Nodup) :
    LightReport id body where
  decoded hitems := by
    constructor
    · rintro ⟨light, hlight⟩
      obtain ⟨htexts, v, decoded, hget, hdecoded, -⟩ := (decode_light_eq_ok_iff hbody).mp hlight
      obtain ⟨state, rfl⟩ := object_of_decode_state hdecoded fun items h => hitems items (h ▸ hget)
      exact ⟨htexts, state, hget, ((decode_state_eq_ok_iff (hstate state hget)).mp hdecoded).1⟩
    · rintro ⟨htexts, state, hget, htyped⟩
      have hdecoded := (decode_state_eq_ok_iff (hstate state hget)).mpr ⟨htyped, rfl⟩
      exact ⟨_, (decode_light_eq_ok_iff hbody).mpr ⟨htexts, _, _, hget, hdecoded, rfl⟩⟩
  reported state light hget hlight := by
    obtain ⟨htexts, v, decoded, hv, hdecoded, rfl⟩ := (decode_light_eq_ok_iff hbody).mp hlight
    obtain rfl : Value.object state = v := Option.some.inj (hget.symm.trans hv)
    obtain ⟨htyped, rfl⟩ := (decode_state_eq_ok_iff (hstate state hget)).mp hdecoded
    exact ⟨id?_ofLight _, shows_ofLight htexts htyped⟩

/-- A light that cannot be reached, whose temperature is null: it counts as off, and its color is
told by hue and saturation. -/
theorem light_reported_unreachable :
    let state : Entries Value :=
      [("ct", .null), ("colormode", .string "ct"), ("sat", .uint8 120), ("effect", .string "none"),
        ("hue", .uint16 8000), ("reachable", .bool false), ("on", .bool true)]
    let body : Entries Value :=
      [("state", .object state), ("swversion", .null), ("name", .string "Desk lamp")]
    ∃ light, Light.decode "3" (.object body) = .ok light ∧
      (ofLight light).shown? Attribute.command = some (.string "Off") ∧
      (ofLight light).shown? Attribute.brightness = some (.uint8 0) ∧
      (ofLight light).shown? Attribute.temperature = none ∧
      (ofLight light).shown? Attribute.hue = some (.uint16 8000) ∧
      (ofLight light).shown? Attribute.version = some (.string "") := by
  intro state body
  have hreport := light_reported "3" body (by decide) (by
    rintro _ hget
    cases hget
    decide)
  obtain ⟨light, hlight⟩ : ∃ light, Light.decode "3" (.object body) = .ok light := ⟨_, rfl⟩
  obtain ⟨-, hshown⟩ := hreport.reported state light rfl hlight
  have hoff : ¬IsLit state := by decide
  have hcold : ¬IsWarm state := by decide
  have hcolored : IsColored state := by decide
  refine ⟨light, hlight, ?_, ?_, ?_, ?_, hshown.version⟩
  · rw [hshown.command, if_neg hoff]
  · rw [hshown.brightness, if_neg hoff]
    rfl
  · rw [hshown.temperature, if_neg hcold]
  · rw [hshown.hue, if_pos hcolored]
    rfl

end Bodies

end ZigbeeBridge.Bus
