import ZigbeeBridge.Gateway.StateChange
import ZigbeeBridge.Proofs.Json.Roundtrip

/-!
What the body of a change says. It is one object, and whoever reads its members knows the change.
-/
namespace ZigbeeBridge.Gateway

open Data

/-- What is asked of a light or a group: to be on or off, how bright, and in which color. -/
structure Wish where
  on : Bool
  brightness : Option UInt8
  color : ColorMode
  deriving DecidableEq, Repr

namespace Wish

/-- A temperature goes before hue and saturation, and these count together only. -/
def colorOf (mired hue : Option UInt16) (saturation : Option UInt8) : ColorMode :=
  match mired, hue, saturation with
  | some mired, _, _ => .temperature mired
  | none, some hue, some saturation => .hueSat hue saturation
  | _, _, _ => .none

/-- The wish that the members of a body express. -/
def ofMembers (ms : Entries Value) : Wish where
  on := (ms.bool? "on").getD false
  brightness := ms.uint8? "bri"
  color := colorOf (ms.uint16? "ct") (ms.uint16? "hue") (ms.uint8? "sat")

end Wish

namespace StateChange

def wish (change : StateChange) : Wish := ⟨change.isOn, change.brightness, change.color⟩

theorem wish_injective : Function.Injective wish := by
  intro change other h
  cases change <;> cases other <;> simp_all [wish, isOn, brightness, color]

variable (change : StateChange)

theorem value_eq_object : change.value = .object change.value.members := by
  cases change <;> rfl

/-- All names that a member may have, in their order. -/
def memberNames : List String := ["on", "bri", "ct", "hue", "sat"]

theorem keys_sublist : (Entries.keys change.value.members).Sublist memberNames := by
  cases change with
  | off => simp [value, Value.members, Entries.keys, memberNames]
  | on brightness color =>
    cases brightness <;> cases color <;>
      simp [value, Value.members, Entries.keys, colorMembers, memberNames]

theorem nodup_keys_value : (Entries.keys change.value.members).Nodup :=
  (keys_sublist change).nodup (by decide)

theorem readable_value : Json.Readable Json.maxDepth change.value := by
  have huint8 : ∀ n : UInt8, Json.Readable 126 (.uint8 n) := fun n => .integer 126 n.toNat _
  have huint16 : ∀ n : UInt16, Json.Readable 126 (.uint16 n) := fun n => .integer 126 n.toNat _
  have hbool : ∀ b, Json.Readable 126 (.bool b) := fun b => .bool 126 b
  rw [value_eq_object]
  refine .object 126 _ (nodup_keys_value change) ?_
  cases change with
  | off => simp [value, Value.members, hbool]
  | on brightness color =>
    cases brightness <;> cases color <;>
      simp [value, Value.members, colorMembers, huint8, huint16, hbool]

/-- The body is read back as the object that was written. -/
theorem parse_body : Json.parse change.body = .ok (.object change.value.members) := by
  unfold body
  rw [Json.parse_compact (readable_value change)]
  exact congrArg Except.ok (value_eq_object change)

section Members

variable (b : Option UInt8) (c : ColorMode)

theorem mem_bri_iff : "bri" ∈ Entries.keys (on b c).value.members ↔ b.isSome = true := by
  cases b <;> cases c <;> simp [value, Value.members, Entries.keys, colorMembers]

theorem mem_ct_iff :
    "ct" ∈ Entries.keys (on b c).value.members ↔ ∃ mired, c = .temperature mired := by
  cases b <;> cases c <;> simp [value, Value.members, Entries.keys, colorMembers]

theorem mem_hue_iff :
    "hue" ∈ Entries.keys (on b c).value.members ↔ ∃ hue saturation, c = .hueSat hue saturation := by
  cases b <;> cases c <;> simp [value, Value.members, Entries.keys, colorMembers]

theorem mem_sat_iff :
    "sat" ∈ Entries.keys (on b c).value.members ↔ ∃ hue saturation, c = .hueSat hue saturation := by
  cases b <;> cases c <;> simp [value, Value.members, Entries.keys, colorMembers]

theorem mem_hue_iff_mem_sat : "hue" ∈ Entries.keys (on b c).value.members ↔
    "sat" ∈ Entries.keys (on b c).value.members :=
  (mem_hue_iff b c).trans (mem_sat_iff b c).symm

/-- A temperature is never beside a hue or a saturation. -/
theorem not_mem_of_mem_ct (hct : "ct" ∈ Entries.keys (on b c).value.members) :
    "hue" ∉ Entries.keys (on b c).value.members ∧
      "sat" ∉ Entries.keys (on b c).value.members := by
  obtain ⟨mired, rfl⟩ := (mem_ct_iff b c).mp hct
  simp [mem_hue_iff, mem_sat_iff]

theorem integer?_bri (n : UInt8) :
    (on (some n) c).value.members.integer? "bri" = some (n.toNat : Int) := rfl

theorem integer?_ct (mired : UInt16) :
    (on b (.temperature mired)).value.members.integer? "ct" = some (mired.toNat : Int) := by
  cases b <;> rfl

theorem integer?_hue (hue : UInt16) (saturation : UInt8) :
    (on b (.hueSat hue saturation)).value.members.integer? "hue" = some (hue.toNat : Int) := by
  cases b <;> rfl

theorem integer?_sat (hue : UInt16) (saturation : UInt8) :
    (on b (.hueSat hue saturation)).value.members.integer? "sat" =
      some (saturation.toNat : Int) := by
  cases b <;> rfl

theorem uint8?_bri : (on b c).value.members.uint8? "bri" = b := by
  cases b with
  | none => cases c <;> rfl
  | some n => simp [Entries.uint8?, integer?_bri]

/-- The members for a color come back as the color. -/
theorem colorOf_members :
    Wish.colorOf ((on b c).value.members.uint16? "ct") ((on b c).value.members.uint16? "hue")
      ((on b c).value.members.uint8? "sat") = c := by
  cases c with
  | none => cases b <;> rfl
  | temperature mired =>
    have hct : (on b (.temperature mired)).value.members.uint16? "ct" = some mired := by
      simp [Entries.uint16?, integer?_ct]
    rw [hct]
    rfl
  | hueSat hue saturation =>
    have hct : (on b (.hueSat hue saturation)).value.members.uint16? "ct" = none := by
      cases b <;> rfl
    have hhue : (on b (.hueSat hue saturation)).value.members.uint16? "hue" = some hue := by
      simp [Entries.uint16?, integer?_hue]
    have hsat : (on b (.hueSat hue saturation)).value.members.uint8? "sat" = some saturation := by
      simp [Entries.uint8?, integer?_sat]
    rw [hct, hhue, hsat]
    rfl

end Members

theorem ofMembers_value : Wish.ofMembers change.value.members = change.wish := by
  cases change with
  | off => rfl
  | on brightness color =>
    rw [Wish.ofMembers, uint8?_bri, colorOf_members]
    rfl

/-- No other change has a body with the same members. -/
theorem ofMembers_eq_wish_iff (other : StateChange) :
    Wish.ofMembers change.value.members = other.wish ↔ other = change := by
  rw [ofMembers_value]
  exact ⟨fun h => wish_injective h.symm, fun h => by rw [h]⟩

end StateChange

end ZigbeeBridge.Gateway
