import ZigbeeBridge.Data.Decode

/-!
Words of a machine, the unsigned integers up to a greatest one. What holds of writing, checking and
reading them holds at every width.
-/
namespace ZigbeeBridge.Data

/-- A type of words: the integers from zero to a greatest one, there and back. -/
structure Width (α : Type) where
  high : Nat
  toNat : α → Nat
  ofNat : Nat → α
  high_lt : high < 0x10000000000000000
  toNat_le : ∀ a, toNat a ≤ high
  ofNat_toNat : ∀ a, ofNat (toNat a) = a
  toNat_ofNat : ∀ n ≤ high, toNat (ofNat n) = n

namespace Width

def uint8 : Width UInt8 where
  high := 0xFF
  toNat := UInt8.toNat
  ofNat := UInt8.ofNat
  high_lt := by decide
  toNat_le n := Nat.le_of_lt_succ n.toNat_lt
  ofNat_toNat _ := UInt8.ofNat_toNat
  toNat_ofNat _ hn := UInt8.toNat_ofNat_of_lt' (Nat.lt_succ_of_le hn)

def uint16 : Width UInt16 where
  high := 0xFFFF
  toNat := UInt16.toNat
  ofNat := UInt16.ofNat
  high_lt := by decide
  toNat_le n := Nat.le_of_lt_succ n.toNat_lt
  ofNat_toNat _ := UInt16.ofNat_toNat
  toNat_ofNat _ hn := UInt16.toNat_ofNat_of_lt' (Nat.lt_succ_of_le hn)

def uint32 : Width UInt32 where
  high := 0xFFFFFFFF
  toNat := UInt32.toNat
  ofNat := UInt32.ofNat
  high_lt := by decide
  toNat_le n := Nat.le_of_lt_succ n.toNat_lt
  ofNat_toNat _ := UInt32.ofNat_toNat
  toNat_ofNat _ hn := UInt32.toNat_ofNat_of_lt' (Nat.lt_succ_of_le hn)

def uint64 : Width UInt64 where
  high := 0xFFFFFFFFFFFFFFFF
  toNat := UInt64.toNat
  ofNat := UInt64.ofNat
  high_lt := by decide
  toNat_le n := Nat.le_of_lt_succ n.toNat_lt
  ofNat_toNat _ := UInt64.ofNat_toNat
  toNat_ofNat _ hn := UInt64.toNat_ofNat_of_lt' (Nat.lt_succ_of_le hn)

variable {α : Type} (width : Width α)

/-- A word as a document has it. -/
def value (a : α) : Value :=
  .nat (width.toNat a) (Nat.lt_of_le_of_lt (width.toNat_le a) width.high_lt)

theorem integer_value (name : String) (a : α) :
    Check.integer name 0 width.high (width.value a) = .ok () :=
  if_pos ⟨Int.natCast_nonneg _, Int.ofNat_le.mpr (width.toNat_le a)⟩

/-- The word under a key, given that there is one. -/
def read? (members : Entries Value) (key : String) : Option α :=
  (members.integer? key).map fun n => width.ofNat n.toNat

/-- A number outside the range becomes the end of the range that is nearer. -/
theorem toNat_clamped (n : Int) :
    (width.toNat (width.ofNat (max 0 (min n width.high)).toNat) : Int) =
      max 0 (min n width.high) := by
  rw [width.toNat_ofNat _ (by omega)]
  omega

section Signed

variable (hhigh : width.high < 0x8000000000000000)
include hhigh

theorem toInt_ofNat (a : α) : (Int64.ofNat (width.toNat a)).toInt = width.toNat a :=
  Int64.toInt_ofNat_of_lt (Nat.lt_of_le_of_lt (width.toNat_le a) hhigh)

theorem int64_ofNat (a : α) : Value.int64 (.ofNat (width.toNat a)) = width.value a := by
  simp only [Value.int64, value, Value.nat, width.toInt_ofNat hhigh]

theorem ofNat_pos_iff (a : α) : 0 < Int64.ofNat (width.toNat a) ↔ a ≠ width.ofNat 0 := by
  have hzero : a = width.ofNat 0 ↔ width.toNat a = 0 := by
    constructor
    · rintro rfl
      exact width.toNat_ofNat 0 (Nat.zero_le _)
    · intro h
      rw [← h, width.ofNat_toNat]
  rw [Int64.lt_iff_toInt_lt, width.toInt_ofNat hhigh, Int64.toInt_zero, Int.natCast_pos, ne_eq,
    hzero, Nat.pos_iff_ne_zero]

/-- What is in range stays as it is. -/
theorem clamped_ofNat (a : α) :
    width.ofNat (max 0 (min (Int64.ofNat (width.toNat a)).toInt width.high)).toNat = a := by
  have hle := width.toNat_le a
  have hsame : (max 0 (min (width.toNat a : Int) width.high)).toNat = width.toNat a := by
    omega
  rw [width.toInt_ofNat hhigh, hsame, width.ofNat_toNat]

end Signed

end Width

end ZigbeeBridge.Data
