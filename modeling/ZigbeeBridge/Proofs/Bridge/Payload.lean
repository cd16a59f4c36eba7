import ZigbeeBridge.Proofs.Bridge.Command
import ZigbeeBridge.Proofs.Bus.Command
import ZigbeeBridge.Proofs.Data.Entries
import ZigbeeBridge.Proofs.Gateway.StateChange

/-!
What is sent for a command. The body that turns off says nothing else; the one that turns on has a
member for the brightness and one or two for the color, exactly where the event has the numbers
for them.
-/
namespace ZigbeeBridge.Bridge

open Bus Data Gateway

/-- The body of a command is this text, which is read as this object, and no other change says what
the object says. -/
structure Sends (command : Command) (text : String) (members : Entries Value) : Prop where
  body : (sending command).body = some text
  object : Json.parse text = .ok (.object members)
  unique : ∀ change : StateChange, change.wish = Wish.ofMembers members ↔ change = command.change

/-- The members are those of a change that turns on, with the brightness of an event. -/
structure Lit (event : Event) (members : Entries Value) : Prop where
  names : members.keys.Sublist StateChange.memberNames
  on : members.get? "on" = some (.bool true)
  bri_iff : "bri" ∈ members.keys ↔ ∃ n, event.int? Attribute.brightness = some n
  bri : ∀ n, event.int? Attribute.brightness = some n →
    members.integer? "bri" = some (max 0 (min n.toInt 255))

/-- The members say which color an event asks for, a temperature or else hue and saturation. -/
structure Tinted (event : Event) (members : Entries Value) : Prop where
  ct_iff : "ct" ∈ members.keys ↔ ∃ n, event.Positive Attribute.temperature n
  ct : ∀ n, event.Positive Attribute.temperature n →
    members.integer? "ct" = some (min n.toInt 65535)
  sat_iff : "sat" ∈ members.keys ↔
    "ct" ∉ members.keys ∧ ∃ n, event.Positive Attribute.saturation n
  sat : "sat" ∈ members.keys → ∀ n, event.Positive Attribute.saturation n →
    members.integer? "sat" = some (min n.toInt 255)
  hue_iff : "hue" ∈ members.keys ↔ "sat" ∈ members.keys
  hue : "hue" ∈ members.keys → members.integer? "hue" =
    some (max 0 (min ((event.int? Attribute.hue).elim 0 Int64.toInt) 65535))
  ct_alone : "ct" ∈ members.keys → "hue" ∉ members.keys ∧ "sat" ∉ members.keys

/-- The members of the body for an event that turns on. -/
structure Payload (event : Event) (members : Entries Value) : Prop extends
  Lit event members, Tinted event members

theorem sends_change (command : Command) :
    Sends command command.change.body command.change.value.members where
  body := by
    unfold sending
    cases command.target <;> rfl
  object := command.change.parse_body
  unique change := by
    rw [eq_comm]
    exact command.change.ofMembers_eq_wish_iff change

section Members

open StateChange

variable (event : Event)

theorem lit_on (color : ColorMode) :
    Lit event (StateChange.on (Command.brightness event) color).value.members where
  names := keys_sublist _
  on := rfl
  bri_iff := by
    rw [mem_bri_iff, Command.brightness]
    cases event.int? Attribute.brightness <;> simp
  bri n hn := by
    rw [Command.brightness, hn]
    exact (integer?_bri color (clampUInt8 n)).trans (congrArg some (toNat_clampUInt8 n))

theorem tinted_of_colored (brightness : Option UInt8) {color : ColorMode}
    (hcolor : Colored event color) :
    Tinted event (StateChange.on brightness color).value.members := by
  cases hcolor with
  | temperature n hn =>
    exact {
      ct_iff := by simpa [mem_ct_iff] using ⟨n, hn⟩
      ct := fun m hm => by
        obtain rfl := hn.unique hm
        rw [integer?_ct, toNat_clampUInt16_of_pos hn.2]
      sat_iff := by simp [mem_sat_iff, mem_ct_iff]
      sat := by simp [mem_sat_iff]
      hue_iff := mem_hue_iff_mem_sat _ _
      hue := by simp [mem_hue_iff]
      ct_alone := not_mem_of_mem_ct _ _ }
  | hueSat n hmired hn =>
    exact {
      ct_iff := by simpa [mem_ct_iff] using hmired
      ct := fun m hm => absurd hm (hmired m)
      sat_iff := by simpa [mem_sat_iff, mem_ct_iff] using ⟨n, hn⟩
      sat := fun _ m hm => by
        obtain rfl := hn.unique hm
        rw [integer?_sat, toNat_clampUInt8_of_pos hn.2]
      hue_iff := mem_hue_iff_mem_sat _ _
      hue := fun _ => by
        rw [integer?_hue, toNat_clampUInt16]
        cases event.int? Attribute.hue <;> simp
      ct_alone := not_mem_of_mem_ct _ _ }
  | none hmired hsaturation =>
    exact {
      ct_iff := by simpa [mem_ct_iff] using hmired
      ct := fun m hm => absurd hm (hmired m)
      sat_iff := by simpa [mem_sat_iff, mem_ct_iff] using hsaturation
      sat := by simp [mem_sat_iff]
      hue_iff := mem_hue_iff_mem_sat _ _
      hue := by simp [mem_hue_iff]
      ct_alone := not_mem_of_mem_ct _ _ }

end Members

section Commands

variable (event : Event) (target : Target) (id : String)

/-- A light or a group that is named by an outbound event is sent what the event asks for: to turn
off and nothing else, or to turn on with the numbers that the event has. -/
theorem sends_of_named (hdirection : event.direction = .outbound)
    (htarget : Command.target? event.kind = some target) (hid : event.id? = some id)
    (hne : id ≠ "") :
    (event.text? Attribute.command = some "Off" →
      ∃ change members, Command.ofEvent? event = some ⟨target, id, change⟩ ∧
        Sends ⟨target, id, change⟩ "\x7b\"on\":false\x7d" members) ∧
    (event.text? Attribute.command = some "On" →
      ∃ change text members, Command.ofEvent? event = some ⟨target, id, change⟩ ∧
        Sends ⟨target, id, change⟩ text members ∧ Payload event members) := by
  have hcommand := ofEvent?_of_named event hdirection htarget hid hne
  constructor
  · intro hoff
    refine ⟨.off, _, ?_, sends_change ⟨target, id, .off⟩⟩
    rw [hcommand, Command.change?, hoff]
    rfl
  · intro hon
    let change := StateChange.on (Command.brightness event) (Command.color event)
    refine ⟨change, change.body, change.value.members, ?_, sends_change ⟨target, id, change⟩,
      lit_on event _, tinted_of_colored event _ (colored_color event)⟩
    rw [hcommand, Command.change?, hon]
    rfl

theorem sends_of_named_bright :
    let event := (Event.outbound .light "3").setAll [(Attribute.command, .text "On"),
      (Attribute.saturation, .int 200), (Attribute.brightness, .text " 999"),
      (Attribute.temperature, .int 70000)]
    ∃ members, Sends ⟨.light, "3", .on (some 255) (.temperature 65535)⟩
      "\x7b\"on\":true,\"bri\":255,\"ct\":65535\x7d" members ∧ Payload event members := by
  intro event
  obtain ⟨change, text, members, hcommand, hsends, hpayload⟩ :=
    (sends_of_named event .light "3" rfl rfl rfl (by decide)).2 rfl
  have hbright : Command.ofEvent? event =
      some ⟨.light, "3", .on (some 255) (.temperature 65535)⟩ := rfl
  cases hbright.symm.trans hcommand
  have hbody := hsends.body
  cases hbody
  exact ⟨members, hsends, hpayload⟩

end Commands

end ZigbeeBridge.Bridge
