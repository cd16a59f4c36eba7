import ZigbeeBridge.Proofs.Bus.Command
import ZigbeeBridge.Proofs.Bus.Report

/-!
A report that is sent back as a command. It asks for the state that was reported, but for a color
whose number is zero: such a color is not asked for.
-/
namespace ZigbeeBridge.Bus

open Data Gateway

/-- The same attributes, sent to the device and not by it. -/
def replay (event : Event) : Event := { event with direction := .outbound }

/-- What is left of a color: a temperature of zero and a saturation of zero are no color. -/
def replayed : ColorMode → ColorMode
  | .none => .none
  | .hueSat hue saturation => if saturation = 0 then .none else .hueSat hue saturation
  | .temperature mired => if mired = 0 then .none else .temperature mired

section Numbers

theorem uint8_pos_iff (n : UInt8) : 0 < Int64.ofNat n.toNat ↔ n ≠ 0 :=
  Width.uint8.ofNat_pos_iff (by decide) n

theorem uint16_pos_iff (n : UInt16) : 0 < Int64.ofNat n.toNat ↔ n ≠ 0 :=
  Width.uint16.ofNat_pos_iff (by decide) n

end Numbers

section Lights

variable (light : Light)

theorem text?_command_ofLight :
    (ofLight light).text? Attribute.command = some (commandText light.state.on) := by
  obtain ⟨id, name, model, type, version, on, brightness, color⟩ := light
  cases color <;> rfl

theorem int?_brightness_ofLight :
    (ofLight light).int? Attribute.brightness = some (.ofNat light.state.brightness.toNat) := by
  obtain ⟨id, name, model, type, version, on, brightness, color⟩ := light
  cases color <;> rfl

theorem int?_color_ofLight {name : String}
    (hname : name ∈ [Attribute.hue, Attribute.saturation, Attribute.temperature]) :
    (ofLight light).int? name =
      Data.Entries.get? (colorAttributes light.state.color) name >>= Attribute.int? := by
  obtain ⟨id, lightName, model, type, version, on, brightness, color⟩ := light
  simp only [List.mem_cons, List.not_mem_nil, or_false] at hname
  obtain rfl | rfl | rfl := hname <;> cases color <;> rfl

theorem brightness_replay :
    Command.brightness (replay (ofLight light)) = some light.state.brightness := by
  have hint : (replay (ofLight light)).int? Attribute.brightness =
      some (.ofNat light.state.brightness.toNat) := int?_brightness_ofLight light
  rw [Command.brightness, hint, Option.map_some, clampUInt8_ofNat]

/-- The number that decides is in the report, and zero does not count in a command. -/
theorem color_replay :
    Command.color (replay (ofLight light)) = replayed light.state.color := by
  have hint : ∀ name ∈ [Attribute.hue, Attribute.saturation, Attribute.temperature],
      (replay (ofLight light)).int? name =
        Data.Entries.get? (colorAttributes light.state.color) name >>= Attribute.int? :=
    fun name hname => int?_color_ofLight light hname
  rw [Command.color, hint _ (by simp), hint _ (by simp), hint _ (by simp)]
  cases light.state.color with
  | none => rfl
  | hueSat hue saturation =>
    change (if 0 < Int64.ofNat saturation.toNat then ColorMode.hueSat
      (clampUInt16 (.ofNat hue.toNat)) (clampUInt8 (.ofNat saturation.toNat)) else .none) = _
    rw [clampUInt16_ofNat, clampUInt8_ofNat]
    simp [replayed, uint8_pos_iff]
  | temperature mired =>
    change (if 0 < Int64.ofNat mired.toNat then ColorMode.temperature
      (clampUInt16 (.ofNat mired.toNat)) else .none) = _
    rw [clampUInt16_ofNat]
    simp [replayed, uint16_pos_iff]

theorem change?_replay_ofLight : Command.change? (replay (ofLight light)) =
    some (if light.state.on then .on (some light.state.brightness) (replayed light.state.color)
      else .off) := by
  have htext : (replay (ofLight light)).text? Attribute.command =
      some (commandText light.state.on) := text?_command_ofLight light
  rw [Command.change?, htext, brightness_replay, color_replay]
  cases light.state.on <;> rfl

end Lights

section Groups

variable (group : Group)

theorem change?_replay_ofGroup : Command.change? (replay (ofGroup group)) =
    some (if group.state.allOn then .on none .none else .off) := by
  have htext : (replay (ofGroup group)).text? Attribute.command =
      some (commandText group.state.allOn) := rfl
  have hnumber : ∀ name ∈ [Attribute.brightness, Attribute.hue, Attribute.saturation,
      Attribute.temperature], (replay (ofGroup group)).int? name = none := by
    intro name hname
    simp only [List.mem_cons, List.not_mem_nil, or_false] at hname
    obtain rfl | rfl | rfl | rfl := hname <;> rfl
  have hbrightness : Command.brightness (replay (ofGroup group)) = none := by
    rw [Command.brightness, hnumber _ (by simp), Option.map_none]
  have hcolor : Command.color (replay (ofGroup group)) = .none := by
    rw [Command.color, hnumber _ (by simp), hnumber _ (by simp), hnumber _ (by simp)]
    rfl
  rw [Command.change?, htext, hbrightness, hcolor]
  cases group.state.allOn <;> rfl

end Groups

/-- A report that is sent back commands the device that it is about to be as it was reported. -/
theorem ofEvent?_replay :
    (∀ light : Light, light.id ≠ "" →
      Command.ofEvent? (replay (ofLight light)) = some ⟨.light, light.id,
        if light.state.on then .on (some light.state.brightness) (replayed light.state.color)
        else .off⟩) ∧
    ∀ group : Group, group.id ≠ "" →
      Command.ofEvent? (replay (ofGroup group)) = some ⟨.group, group.id,
        if group.state.allOn then .on none .none else .off⟩ := by
  constructor
  · intro light hne
    have htarget : Command.target? (replay (ofLight light)).kind = some .light :=
      congrArg Command.target? (kind_ofLight light)
    rw [ofEvent?_of_named _ rfl htarget (id?_ofLight light) hne, change?_replay_ofLight]
    rfl
  · intro group hne
    have htarget : Command.target? (replay (ofGroup group)).kind = some .group :=
      congrArg Command.target? (kind_ofGroup group)
    rw [ofEvent?_of_named _ rfl htarget (id?_ofGroup group) hne, change?_replay_ofGroup]
    rfl

/-- A light of a color without saturation, and a group of which some lights are off. -/
theorem ofEvent?_replay_lit :
    let light : Light := ⟨"3", "Lamp", "LCT", "Extended color light", "1.0",
      ⟨true, 0, .hueSat 65535 0⟩⟩
    let group : Group := ⟨"7", "Hall", "LightGroup", ⟨false, true⟩⟩
    "3" ≠ "" ∧ Command.ofEvent? (replay (ofLight light)) =
        some ⟨.light, "3", .on (some 0) .none⟩ ∧
      "7" ≠ "" ∧ Command.ofEvent? (replay (ofGroup group)) = some ⟨.group, "7", .off⟩ := by
  intro light group
  have hlight : light.id ≠ "" := by decide
  have hgroup : group.id ≠ "" := by decide
  exact ⟨hlight, ofEvent?_replay.1 light hlight, hgroup, ofEvent?_replay.2 group hgroup⟩

end ZigbeeBridge.Bus
