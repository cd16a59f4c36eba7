import ZigbeeBridge.Proofs.Data.Entries
import ZigbeeBridge.Proofs.Data.Shape
import ZigbeeBridge.Proofs.Data.Width

/-!
Objects as records. An object fits a shape just when every field takes what stands under its name,
so the order of the members and any other keys do not matter. An object has no key twice.
-/
namespace ZigbeeBridge.Data

/-- What a field takes: what passes its check, or nothing at all unless it is required. -/
def Field.Takes (field : Field) : Option Value → Prop
  | none => field.presence ≠ .required
  | some v => field.check v = .ok ()

/-- The names of the fields. -/
def Shape.names (shape : Shape) : List String := shape.fields.map (·.name)

namespace Shape

variable {shape : Shape} {members read : Entries Value} {field : Field}

theorem field?_of_mem (hnames : shape.names.Nodup) (hfield : field ∈ shape.fields) :
    shape.field? field.name = some field := by
  obtain ⟨name, fields⟩ := shape
  change (fields.map (·.name)).Nodup at hnames
  change fields.find? (·.name = field.name) = some field
  induction fields with
  | nil => cases hfield
  | cons first rest ih =>
    obtain ⟨hfirst, hrest⟩ := List.nodup_cons.mp hnames
    obtain rfl | hmem := List.mem_cons.mp hfield
    · rw [List.find?_cons_of_pos (by simp)]
    · have hne : first.name ≠ field.name := by
        intro heq
        exact hfirst (List.mem_map.mpr ⟨field, hmem, heq.symm⟩)
      rw [List.find?_cons_of_neg (by simpa using hne)]
      exact ih hmem hrest

theorem checkMembers_of_forall
    (h : ∀ key v, (key, v) ∈ members → ∀ field, shape.field? key = some field →
      field.check v = .ok ()) :
    shape.checkMembers members = .ok () := by
  induction members with
  | nil => rfl
  | cons member rest ih =>
    obtain ⟨key, v⟩ := member
    have hrest := ih fun key v hmem => h key v (List.mem_cons_of_mem _ hmem)
    rw [checkMembers]
    cases hfield : shape.field? key with
    | none => exact hrest
    | some field =>
      change (field.check v >>= fun _ => shape.checkMembers rest) = .ok ()
      rw [h key v List.mem_cons_self field hfield]
      exact hrest

theorem checkPresence_of_forall {fields : List Field}
    (h : ∀ field ∈ fields, field.presence = .required → (members.get? field.name).isSome) :
    checkPresence members fields = .ok () := by
  induction fields with
  | nil => rfl
  | cons first rest ih =>
    rw [checkPresence, if_neg]
    · exact ih fun field hmem => h field (List.mem_cons_of_mem _ hmem)
    · rintro ⟨hrequired, hnone⟩
      have hsome := h first List.mem_cons_self hrequired
      rw [Option.isNone_iff_eq_none.mp hnone] at hsome
      cases hsome

/-- An object fits a shape when each field takes what the object has for it. -/
theorem read_object_eq_ok_iff (hnames : shape.names.Nodup) (hkeys : members.keys.Nodup) :
    shape.read (.object members) = .ok read ↔
      read = members ∧ ∀ field ∈ shape.fields, field.Takes (members.get? field.name) := by
  constructor
  · intro h
    refine ⟨eq_of_read h, ?_⟩
    obtain ⟨_, hchecks, hrest⟩ := bind_eq_ok h
    obtain ⟨_, hpresence, -⟩ := bind_eq_ok hrest
    intro field hmem
    cases hget : members.get? field.name with
    | none =>
      intro hrequired
      have hsome := isSome_of_checkPresence hpresence hmem hrequired
      rw [hget] at hsome
      cases hsome
    | some v => exact check_of_checkMembers hchecks hget (field?_of_mem hnames hmem)
  · rintro ⟨rfl, htakes⟩
    have hchecks : shape.checkMembers read = .ok () := by
      apply checkMembers_of_forall
      intro key v hmem field hfield
      have hname : field.name = key := by simpa using List.find?_some hfield
      have htake := htakes field (List.mem_of_find?_eq_some hfield)
      rw [hname, Entries.get?_of_mem hkeys hmem] at htake
      exact htake
    have hpresence : checkPresence read shape.fields = .ok () := by
      apply checkPresence_of_forall
      intro field hmem hrequired
      have htake := htakes field hmem
      cases hget : read.get? field.name with
      | none =>
        rw [hget] at htake
        exact absurd hrequired htake
      | some v => rfl
    change (shape.checkMembers read >>= fun _ => checkPresence read shape.fields >>= fun _ =>
      .ok read) = .ok read
    rw [hchecks, hpresence]
    rfl

end Shape

section Kinds

/-- The kinds of values that fields are of. A double is never an integer, whatever it is. -/
def Value.IsText (v : Value) : Prop := ∃ s, v = .string s

def Value.IsBool (v : Value) : Prop := ∃ b, v = .bool b

def Value.IsInteger (low high : Int) (v : Value) : Prop :=
  ∃ n fits, v = .number (.integer n fits) ∧ low ≤ n ∧ n ≤ high

theorem Check.text_eq_ok_iff {v : Value} : Check.text v = .ok () ↔ v.IsText :=
  ⟨eq_string_of_text, by rintro ⟨s, rfl⟩; rfl⟩

theorem Check.bool_eq_ok_iff {v : Value} : Check.bool v = .ok () ↔ v.IsBool := by
  constructor
  · intro h
    cases v with
    | bool b => exact ⟨b, rfl⟩
    | null | number | string | array | object => cases h
  · rintro ⟨b, rfl⟩
    rfl

theorem Check.integer_eq_ok_iff {name : String} {low high : Int} {v : Value} :
    Check.integer name low high v = .ok () ↔ v.IsInteger low high := by
  constructor
  · intro h
    cases v with
    | number number =>
      cases number with
      | double d => cases h
      | integer n fits =>
        by_cases hrange : low ≤ n ∧ n ≤ high
        · exact ⟨n, fits, rfl, hrange⟩
        · simp only [integer, if_neg hrange, reduceCtorEq] at h
    | null | bool | string | array | object => cases h
  · rintro ⟨n, fits, rfl, hrange⟩
    exact if_pos hrange

end Kinds

section Given

/-- What stands under a key, unless it is null. -/
def Entries.given? (members : Entries Value) (key : String) : Option Value :=
  match members.get? key with
  | some .null => none
  | other => other

variable {members : Entries Value} {key : String} {check : Check}

theorem Field.takes_required_iff :
    (Field.required key check).Takes (members.get? (Field.required key check).name) ↔
      ∃ v, members.get? key = some v ∧ check v = .ok () := by
  change (Field.required key check).Takes (members.get? key) ↔ _
  cases members.get? key with
  | none => simp [Takes, required]
  | some v => simp [Takes, required]

/-- A field that may be null or left out is only checked where something is given. -/
theorem Field.takes_maybe_iff :
    (Field.maybe key check).Takes (members.get? (Field.maybe key check).name) ↔
      ∀ v, members.given? key = some v → check v = .ok () := by
  change (Field.maybe key check).Takes (members.get? key) ↔ _
  unfold Entries.given?
  cases members.get? key with
  | none => simp [Takes, maybe]
  | some v => cases v <;> simp [Takes, maybe, Check.orNull]

/-- A text that is given is the text that is read. -/
theorem Entries.given?_eq_text? (h : ∀ v, members.given? key = some v → v.IsText) :
    members.given? key = (members.text? key).map .string := by
  unfold given? at h ⊢
  unfold text?
  cases hget : members.get? key with
  | none => rfl
  | some v =>
    rw [hget] at h
    cases v with
    | null | string => rfl
    | bool | number | array | object =>
      obtain ⟨s, hs⟩ := h _ rfl
      cases hs

/-- An integer that is given is read, and where nothing is given nothing is read. -/
theorem Entries.given?_cases_integer {low high : Int}
    (h : ∀ v, members.given? key = some v → v.IsInteger low high) :
    (members.given? key = none ∧ members.integer? key = none) ∨
      ∃ n fits, members.given? key = some (.number (.integer n fits)) ∧
        members.integer? key = some n ∧ low ≤ n ∧ n ≤ high := by
  unfold given? at h ⊢
  unfold integer?
  cases hget : members.get? key with
  | none => exact .inl ⟨rfl, rfl⟩
  | some v =>
    rw [hget] at h
    cases v with
    | null => exact .inl ⟨rfl, rfl⟩
    | bool | string | array | object =>
      obtain ⟨n, fits, hn, -⟩ := h _ rfl
      cases hn
    | number number =>
      obtain ⟨n, fits, hn, hrange⟩ := h _ rfl
      cases hn
      exact .inr ⟨n, fits, rfl, rfl, hrange⟩

/-- A word that is given is the word that is read. -/
theorem Width.given?_eq_read? {α : Type} (width : Width α)
    (h : ∀ v, members.given? key = some v → v.IsInteger 0 width.high) :
    members.given? key = (width.read? members key).map width.value := by
  unfold read?
  obtain ⟨hgiven, hread⟩ | ⟨n, fits, hgiven, hread, hlow, hhigh⟩ :=
    Entries.given?_cases_integer h
  · rw [hgiven, hread]
    rfl
  · have hback : (width.toNat (width.ofNat n.toNat) : Int) = n := by
      rw [width.toNat_ofNat _ (by omega)]
      omega
    rw [hgiven, hread]
    simp only [Option.map_some, value, Value.nat, hback]

theorem Entries.given?_eq_uint8? (h : ∀ v, members.given? key = some v → v.IsInteger 0 0xFF) :
    members.given? key = (members.uint8? key).map .uint8 :=
  Width.uint8.given?_eq_read? h

theorem Entries.given?_eq_uint16? (h : ∀ v, members.given? key = some v → v.IsInteger 0 0xFFFF) :
    members.given? key = (members.uint16? key).map .uint16 :=
  Width.uint16.given?_eq_read? h

end Given

end ZigbeeBridge.Data
