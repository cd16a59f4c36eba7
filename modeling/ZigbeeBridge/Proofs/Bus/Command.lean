import ZigbeeBridge.Bus.Command
import ZigbeeBridge.Proofs.Data.Width

/-!
What an outbound event for a light or a group comes to as a command: its numbers are brought into
their ranges, and of the two kinds of color it gets one at most.
-/
namespace ZigbeeBridge.Bus

open Data Gateway

section Ranges

variable (n : Int64)

theorem toNat_clampUInt8 : ((clampUInt8 n).toNat : Int) = max 0 (min n.toInt 255) :=
  Width.uint8.toNat_clamped n.toInt

theorem toNat_clampUInt16 : ((clampUInt16 n).toNat : Int) = max 0 (min n.toInt 65535) :=
  Width.uint16.toNat_clamped n.toInt

theorem toNat_clampUInt8_of_pos {n : Int64} (hn : 0 < n.toInt) :
    ((clampUInt8 n).toNat : Int) = min n.toInt 255 := by
  rw [toNat_clampUInt8]
  omega

theorem toNat_clampUInt16_of_pos {n : Int64} (hn : 0 < n.toInt) :
    ((clampUInt16 n).toNat : Int) = min n.toInt 65535 := by
  rw [toNat_clampUInt16]
  omega

/-- What is in range stays as it is. -/
theorem clampUInt8_ofNat (k : UInt8) : clampUInt8 (.ofNat k.toNat) = k :=
  Width.uint8.clamped_ofNat (by decide) k

theorem clampUInt16_ofNat (k : UInt16) : clampUInt16 (.ofNat k.toNat) = k :=
  Width.uint16.clamped_ofNat (by decide) k

end Ranges

variable (event : Event)

section Colors

/-- Under a name an event has an integer above zero. -/
def Event.Positive (name : String) (n : Int64) : Prop :=
  event.int? name = some n ∧ 0 < n.toInt

theorem Event.Positive.unique {event : Event} {name : String} {n m : Int64}
    (hn : event.Positive name n) (hm : event.Positive name m) : n = m :=
  Option.some.inj (hn.1.symm.trans hm.1)

theorem Event.lt_getD_iff (name : String) :
    0 < (event.int? name).getD 0 ↔ ∃ n, event.Positive name n := by
  unfold Positive
  cases event.int? name with
  | none => simp
  | some n => simp [Int64.lt_iff_toInt_lt]

/-- The color that the numbers of an event come to, and why. -/
inductive Colored : ColorMode → Prop where
  | temperature (n : Int64) (hmired : event.Positive Attribute.temperature n) :
    Colored (.temperature (clampUInt16 n))
  | hueSat (n : Int64) (hmired : ∀ n, ¬event.Positive Attribute.temperature n)
    (hsaturation : event.Positive Attribute.saturation n) :
    Colored (.hueSat (clampUInt16 ((event.int? Attribute.hue).getD 0)) (clampUInt8 n))
  | none (hmired : ∀ n, ¬event.Positive Attribute.temperature n)
    (hsaturation : ∀ n, ¬event.Positive Attribute.saturation n) : Colored .none

theorem colored_color : Colored event (Command.color event) := by
  unfold Command.color
  dsimp only
  by_cases hmired : 0 < (event.int? Attribute.temperature).getD 0
  · obtain ⟨n, hn⟩ := (event.lt_getD_iff _).mp hmired
    have hvalue : (event.int? Attribute.temperature).getD 0 = n := by rw [hn.1, Option.getD_some]
    rw [if_pos hmired, hvalue]
    exact .temperature n hn
  · have hnone : ∀ n, ¬event.Positive Attribute.temperature n := fun n hn =>
      hmired ((event.lt_getD_iff _).mpr ⟨n, hn⟩)
    rw [if_neg hmired]
    by_cases hsaturation : 0 < (event.int? Attribute.saturation).getD 0
    · obtain ⟨n, hn⟩ := (event.lt_getD_iff _).mp hsaturation
      have hvalue : (event.int? Attribute.saturation).getD 0 = n := by
        rw [hn.1, Option.getD_some]
      rw [if_pos hsaturation, hvalue]
      exact .hueSat n hnone hn
    · rw [if_neg hsaturation]
      exact .none hnone fun n hn => hsaturation ((event.lt_getD_iff _).mpr ⟨n, hn⟩)

end Colors

/-- Whether there is a command depends on its word alone where the event names a device. -/
theorem ofEvent?_of_named {target : Target} {id : String}
    (hdirection : event.direction = .outbound)
    (htarget : Command.target? event.kind = some target) (hid : event.id? = some id)
    (hne : id ≠ "") :
    Command.ofEvent? event =
      (Command.change? event).map fun change => ⟨target, id, change⟩ := by
  have hfilter : (some id).filter (· ≠ "") = some id := by simp [Option.filter, hne]
  unfold Command.ofEvent?
  rw [if_neg (by simp [hdirection]), htarget, hid, hfilter]
  cases Command.change? event with
  | none => rfl
  | some change => rfl

end ZigbeeBridge.Bus
