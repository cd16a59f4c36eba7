import ZigbeeBridge.Data.Decode
import ZigbeeBridge.Proofs.Data.Result

/-!
What an object that fits a shape holds: its required fields are there, and what stands in them has
passed its check. A member that is no field does not matter.
-/
namespace ZigbeeBridge.Data

namespace Shape

variable {shape : Shape} {members read : Entries Value}

/-- The members of a record are those of the object. -/
theorem eq_of_read (h : shape.read (.object members) = .ok read) : read = members := by
  obtain ⟨_, -, hrest⟩ := bind_eq_ok h
  obtain ⟨_, -, hdone⟩ := bind_eq_ok hrest
  cases hdone
  rfl

theorem check_of_checkMembers {key : String} {v : Value} {field : Field}
    (h : shape.checkMembers members = .ok ()) (hget : members.get? key = some v)
    (hfield : shape.field? key = some field) : field.check v = .ok () := by
  induction members with
  | nil => cases hget
  | cons member rest ih =>
    obtain ⟨k, w⟩ := member
    rw [checkMembers] at h
    by_cases hk : k = key
    · subst hk
      rw [hfield] at h
      rw [Entries.get?, if_pos rfl, Option.some.injEq] at hget
      obtain ⟨_, hcheck, -⟩ := bind_eq_ok h
      rw [← hget]
      exact hcheck
    · rw [Entries.get?, if_neg hk] at hget
      apply ih _ hget
      cases hfound : shape.field? k with
      | none =>
        rw [hfound] at h
        exact h
      | some found =>
        rw [hfound] at h
        obtain ⟨_, -, hrest⟩ := bind_eq_ok h
        exact hrest

theorem isSome_of_checkPresence {field : Field} {fields : List Field}
    (h : checkPresence members fields = .ok ()) (hmem : field ∈ fields)
    (hrequired : field.presence = .required) : (members.get? field.name).isSome := by
  induction fields with
  | nil => cases hmem
  | cons first rest ih =>
    rw [checkPresence] at h
    split at h
    · cases h
    · rename_i hpresent
      obtain rfl | hmem := List.mem_cons.mp hmem
      · cases hget : members.get? field.name with
        | some v => rfl
        | none => exact absurd ⟨hrequired, by rw [hget]; rfl⟩ hpresent
      · exact ih h hmem

/-- A required field of a record is there and has passed its check. -/
theorem exists_of_required {name : String} {check : Check}
    (h : shape.read (.object members) = .ok read)
    (hfield : shape.field? name = some (.required name check)) :
    ∃ v, members.get? name = some v ∧ check v = .ok () := by
  obtain ⟨_, hchecks, hrest⟩ := bind_eq_ok h
  obtain ⟨_, hpresence, -⟩ := bind_eq_ok hrest
  have hmem : Field.required name check ∈ shape.fields := List.mem_of_find?_eq_some hfield
  have hsome := isSome_of_checkPresence hpresence hmem rfl
  obtain ⟨v, hget⟩ := Option.isSome_iff_exists.mp hsome
  exact ⟨v, hget, check_of_checkMembers hchecks hget hfield⟩

section Others

variable {key : String}

theorem checkMembers_put (hkey : shape.field? key = none) (members : Entries Value) (v : Value) :
    shape.checkMembers (members.put key v) = shape.checkMembers members := by
  induction members with
  | nil => simp only [Entries.put, checkMembers, hkey]; rfl
  | cons member rest ih =>
    obtain ⟨name, w⟩ := member
    by_cases hname : name = key
    · subst hname
      simp only [Entries.put, if_pos, checkMembers, hkey]
    · simp only [Entries.put, if_neg hname, checkMembers, ih]

theorem checkPresence_put {fields : List Field} (hkey : ∀ field ∈ fields, field.name ≠ key)
    (members : Entries Value) (v : Value) :
    checkPresence (members.put key v) fields = checkPresence members fields := by
  induction fields with
  | nil => rfl
  | cons field rest ih =>
    have hne : key ≠ field.name := (hkey field List.mem_cons_self).symm
    rw [checkPresence, checkPresence, Entries.get?_put, if_neg hne,
      ih fun field hmem => hkey field (List.mem_cons_of_mem _ hmem)]

/-- A member that is no field does not matter to a record. -/
theorem read_put (hkey : shape.field? key = none) (members : Entries Value) (v : Value) :
    shape.read (.object (members.put key v)) =
      (shape.read (.object members)).map fun _ => members.put key v := by
  have hnames : ∀ field ∈ shape.fields, field.name ≠ key := by
    intro field hmem hname
    exact List.find?_eq_none.mp hkey field hmem (by simpa using hname)
  rw [Shape.read, Shape.read, checkMembers_put hkey, checkPresence_put hnames]
  cases shape.checkMembers members with
  | error e => rfl
  | ok _ => cases checkPresence members shape.fields <;> rfl

end Others

end Shape

namespace Check

theorem eq_string_of_text {v : Value} (h : text v = .ok ()) : ∃ s, v = .string s := by
  cases v with
  | string s => exact ⟨s, rfl⟩
  | null | bool | number | array | object => cases h

/-- What passes as an integer of 64 bits is one. -/
theorem eq_int64_of_int64 {v : Value} (h : int64 v = .ok ()) : ∃ n : Int64, v = .int64 n := by
  cases v with
  | number number =>
    cases number with
    | double d => cases h
    | integer n fits =>
      by_cases hrange : -0x8000000000000000 ≤ n ∧ n ≤ 0x7FFFFFFFFFFFFFFF
      · have hback : (Int64.ofInt n).toInt = n :=
          Int64.toInt_ofInt_of_le (by omega) (by omega)
        refine ⟨Int64.ofInt n, ?_⟩
        unfold Value.int64
        simp only [hback]
      · simp only [int64, integer, if_neg hrange, reduceCtorEq] at h
  | null | bool | string | array | object => cases h

end Check

namespace Entries

variable {members : Entries Value} {key : String}

theorem text_of_get? {s : String} (h : members.get? key = some (.string s)) :
    members.text key = s := by
  unfold text text?
  rw [h]
  rfl

theorem int64_of_get? {n : Int64} (h : members.get? key = some (.int64 n)) :
    members.int64 key = n := by
  unfold int64 integer?
  rw [h]
  exact Int64.ofInt_toInt n

end Entries

end ZigbeeBridge.Data
