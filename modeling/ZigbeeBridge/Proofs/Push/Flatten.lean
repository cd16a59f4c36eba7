import ZigbeeBridge.Proofs.Data.Result
import ZigbeeBridge.Proofs.Push.Reading
import ZigbeeBridge.Push.Frame

/-!
The event that a pushed message becomes. It has the id of the device in front and then the scalar
fields of the state in their order, unless one of these is named like the id: such a field takes
the place of the id.
-/
namespace ZigbeeBridge.Push

open Data Bus

section Scalars

def isScalar : Value → Bool
  | .string _ | .number _ | .bool _ => true
  | .null | .array _ | .object _ => false

/-- The fields of the state that have a text, in their order. -/
def scalars (state : Entries Value) : Entries Value := state.filter fun field => isScalar field.2

def textOf (v : Value) : String := (scalarText? v).getD ""

/-- An id and fields behind it, as attributes. -/
def identified (id : String) (fields : Entries Value) : Entries Attribute :=
  (Attribute.id, .text id) ::
    fields.map fun field => (Attribute.nameStart ++ field.1, .text (textOf field.2))

theorem scalarText?_eq (v : Value) :
    scalarText? v = if isScalar v then some (textOf v) else none := by
  cases v <;> rfl

theorem stateAttributes_eq (state : Entries Value) :
    stateAttributes state = (scalars state).map fun field =>
      (Attribute.nameStart ++ field.1, .text (textOf field.2)) := by
  unfold stateAttributes scalars
  induction state with
  | nil => rfl
  | cons field rest ih =>
    rw [List.filterMap_cons, scalarText?_eq, ih]
    by_cases hscalar : isScalar field.2 <;> simp [hscalar]

theorem nodup_scalars {state : Entries Value} (hkeys : state.keys.Nodup) :
    (scalars state).keys.Nodup := by
  have hsublist : (scalars state).Sublist state := List.filter_sublist
  exact hkeys.sublist (hsublist.map Prod.fst)

end Scalars

section Attributes

def Message.fields (message : Message) : Entries Value := message.state.getD []

variable (message : Message)

/-- Only a field that is named `Id` becomes an attribute of the name that the id has. -/
theorem attributes_flatten (hkeys : message.fields.keys.Nodup) :
    (flatten message).attributes =
      identified (((scalars message.fields).get? "Id").elim message.id textOf)
        ((scalars message.fields).filter (·.1 ≠ "Id")) := by
  have hnodup := nodup_stateAttributes hkeys
  have hid : Attribute.id = Attribute.nameStart ++ "Id" := rfl
  have hfilter : (stateAttributes message.fields).filter (·.1 ≠ Attribute.id) =
      ((scalars message.fields).filter (·.1 ≠ "Id")).map fun field =>
        (Attribute.nameStart ++ field.1, .text (textOf field.2)) := by
    rw [stateAttributes_eq, List.filter_map, hid]
    simp [Function.comp_def]
  have hrest :
      (Entries.keys ((stateAttributes message.fields).filter (·.1 ≠ Attribute.id))).Nodup :=
    hnodup.sublist (List.filter_sublist.map Prod.fst)
  have hfirst : ((Entries.get? (stateAttributes message.fields) Attribute.id).getD
      (.text message.id)) =
        .text (((scalars message.fields).get? "Id").elim message.id textOf) := by
    rw [stateAttributes_eq, hid,
      Entries.get?_map_of_injective nameStart_injective fun v => Attribute.text (textOf v)]
    cases (scalars message.fields).get? "Id" <;> rfl
  calc (flatten message).attributes
      = (stateAttributes message.fields).foldl
          (fun entries pair => Entries.put entries pair.1 pair.2)
          [(Attribute.id, .text message.id)] := Event.attributes_setAll _ _
    _ = _ := by
      rw [Entries.foldl_put_cons hnodup, hfirst]
      exact congrArg _ ((Entries.ofList_of_nodup hrest).trans hfilter)

end Attributes

section Frames

variable {cs rest : List Char}

def Draft.fields (draft : Draft) : Entries Value := (draft.state.getD none).getD []

theorem nodup_stateField {state : Option (Entries Value)}
    (h : stateField cs = .ok (state, rest)) : (state.getD []).keys.Nodup := by
  unfold stateField at h
  split at h
  · cases h
  · obtain ⟨_, -, hdone⟩ := bind_eq_ok h
    cases hdone
    exact List.nodup_nil
  · obtain ⟨⟨members, _⟩, -, hdone⟩ := bind_eq_ok h
    cases hdone
    exact Entries.nodup_keys_ofList members
  · obtain ⟨_, -, hdone⟩ := bind_eq_ok h
    cases hdone

theorem eq_of_fresh {α : Type} {name : String} {old : Option α} {read : FieldReader α} {a : α}
    (h : fresh name old read cs = .ok (a, rest)) : ∃ cs, read cs = .ok (a, rest) := by
  unfold fresh at h
  split at h
  · cases h
  · obtain ⟨start, -, hread⟩ := bind_eq_ok h
    exact ⟨start, hread⟩

theorem nodup_field {draft next : Draft} {key : String} (hdraft : draft.fields.keys.Nodup)
    (h : field draft key cs = .ok (next, rest)) : next.fields.keys.Nodup := by
  unfold field at h
  split at h
  · obtain ⟨_, -, hdone⟩ := bind_eq_ok h
    cases hdone
    exact hdraft
  · split at h
    · obtain ⟨_, -, hdone⟩ := bind_eq_ok h
      cases hdone
      exact hdraft
    · split at h
      · obtain ⟨⟨state, _⟩, hfresh, hdone⟩ := bind_eq_ok h
        cases hdone
        obtain ⟨start, hread⟩ := eq_of_fresh hfresh
        exact nodup_stateField hread
      · obtain ⟨_, -, hdone⟩ := bind_eq_ok h
        cases hdone
        exact hdraft

theorem fields_of_finish {draft : Draft} {message : Message}
    (h : draft.finish cs = .ok message) : message.fields = draft.fields := by
  unfold Draft.finish at h
  split at h
  · cases h
  · cases h
  · cases h
    rfl

theorem nodup_fields {fuel : Nat} {draft : Draft} {first : Bool} {message : Message}
    (hdraft : draft.fields.keys.Nodup)
    (h : fields fuel draft first cs = .ok (message, rest)) : message.fields.keys.Nodup := by
  induction fuel generalizing draft first cs with
  | zero => cases h
  | succ fuel ih =>
    obtain ⟨⟨key?, start⟩, -, hkey⟩ := bind_eq_ok h
    cases key? with
    | none =>
      obtain ⟨finished, hfinish, hdone⟩ := bind_eq_ok hkey
      cases hdone
      rwa [fields_of_finish hfinish]
    | some key =>
      obtain ⟨⟨next, start⟩, hfield, hrest⟩ := bind_eq_ok hkey
      exact ih (nodup_field hdraft hfield) hrest

theorem nodup_items {message : Message} (h : items cs = .ok (message, rest)) :
    message.fields.keys.Nodup := by
  obtain ⟨⟨resource, _⟩, -, h⟩ := bind_eq_ok h
  obtain ⟨⟨id, _⟩, -, h⟩ := bind_eq_ok h
  obtain ⟨⟨start?, _⟩, -, h⟩ := bind_eq_ok h
  cases start? with
  | none =>
    cases h
    exact List.nodup_nil
  | some start =>
    obtain ⟨⟨state, _⟩, hstate, hdone⟩ := bind_eq_ok h
    cases hdone
    exact nodup_stateField hstate

theorem nodup_message {message : Message} (h : Push.message cs = .ok (message, rest)) :
    message.fields.keys.Nodup := by
  unfold Push.message at h
  split at h
  · cases h
  · obtain ⟨⟨read, _⟩, hplace, hdone⟩ := bind_eq_ok h
    cases hdone
    have hblank : Draft.blank.fields.keys.Nodup := List.nodup_nil
    exact nodup_fields hblank (mapError_eq_ok hplace)
  · obtain ⟨⟨read, _⟩, hplace, hrest⟩ := bind_eq_ok h
    obtain ⟨_, -, hdone⟩ := bind_eq_ok hrest
    cases hdone
    exact nodup_items (mapError_eq_ok hplace)
  · have hmismatch := mapError_eq_ok h
    obtain ⟨_, -, hdone⟩ := bind_eq_ok hmismatch
    cases hdone

/-- Whatever a frame repeats, the state that is read from it has no field twice. -/
theorem nodup_fields_of_parse {text : String} {message : Message}
    (h : parse text = .ok message) : message.fields.keys.Nodup := by
  obtain ⟨⟨read, _⟩, hread, hrest⟩ := bind_eq_ok (mapError_eq_ok h)
  obtain ⟨_, -, hdone⟩ := bind_eq_ok hrest
  cases hdone
  exact nodup_message hread

end Frames

section Identity

variable (message : Message)

/-- The event tells the device that the message is about, and every scalar field of its state. -/
structure Faithful : Prop where
  inbound : (flatten message).direction = .inbound
  kind : (flatten message).kind = .ofResource message.resource
  id : (flatten message).id? = some message.id
  attributes : (flatten message).attributes = identified message.id (scalars message.fields)
  length : (flatten message).attributes.length = 1 + (scalars message.fields).length

/-- A field of the state stands in the event where the id of the device should be. -/
structure Overlaid (v : Value) : Prop where
  inbound : (flatten message).direction = .inbound
  kind : (flatten message).kind = .ofResource message.resource
  id : (flatten message).id? = some (textOf v)
  attributes : (flatten message).attributes =
    identified (textOf v) ((scalars message.fields).filter (·.1 ≠ "Id"))
  length : (flatten message).attributes.length = (scalars message.fields).length

theorem Overlaid.not_faithful {message : Message} {v : Value} (h : Overlaid message v) :
    ¬Faithful message := by
  intro hfaithful
  have hlength := h.length.symm.trans hfaithful.length
  omega

theorem id?_of_identified {event : Event} {id : String} {fields : Entries Value}
    (h : event.attributes = identified id fields) : event.id? = some id := by
  unfold Event.id? Event.text? Event.get?
  rw [h]
  rfl

theorem faithful_of_not_mem (hkeys : message.fields.keys.Nodup)
    (hid : "Id" ∉ (scalars message.fields).keys) : Faithful message := by
  have hattributes : (flatten message).attributes =
      identified message.id (scalars message.fields) := by
    have hall : (scalars message.fields).filter (·.1 ≠ "Id") = scalars message.fields := by
      apply List.filter_eq_self.mpr
      intro field hmem
      have hne : field.1 ≠ "Id" := fun h => hid (h ▸ List.mem_map_of_mem hmem)
      simpa using hne
    rw [attributes_flatten message hkeys, Entries.get?_eq_none hid, hall]
    rfl
  exact {
    inbound := Event.direction_setAll _ _
    kind := Event.kind_setAll _ _
    id := id?_of_identified hattributes
    attributes := hattributes
    length := by
      rw [hattributes, identified, List.length_cons, List.length_map]
      omega }

theorem overlaid_of_get? (hkeys : message.fields.keys.Nodup) {v : Value}
    (hget : (scalars message.fields).get? "Id" = some v) : Overlaid message v := by
  have hattributes : (flatten message).attributes =
      identified (textOf v) ((scalars message.fields).filter (·.1 ≠ "Id")) := by
    rw [attributes_flatten message hkeys, hget]
    rfl
  have hmem : "Id" ∈ (scalars message.fields).keys :=
    List.mem_map_of_mem (Entries.mem_of_get? hget)
  exact {
    inbound := Event.direction_setAll _ _
    kind := Event.kind_setAll _ _
    id := id?_of_identified hattributes
    attributes := hattributes
    length := by
      rw [hattributes, identified, List.length_cons, List.length_map]
      exact Entries.length_filter_ne (nodup_scalars hkeys) hmem }

/-- A pushed event tells its device and the scalar fields of the state, exactly where none of them
is named `Id`; such a field takes the place of the id. A state has no field twice. -/
theorem flatten_faithful_iff (hkeys : message.fields.keys.Nodup) :
    (Faithful message ↔ "Id" ∉ (scalars message.fields).keys) ∧
      ∀ v, ("Id", v) ∈ scalars message.fields → Overlaid message v := by
  have hoverlaid : ∀ v, ("Id", v) ∈ scalars message.fields → Overlaid message v :=
    fun v hmem => overlaid_of_get? message hkeys (Entries.get?_of_mem (nodup_scalars hkeys) hmem)
  refine ⟨⟨?_, faithful_of_not_mem message hkeys⟩, hoverlaid⟩
  intro hfaithful hmem
  obtain ⟨⟨name, v⟩, hfield, rfl⟩ := List.mem_map.mp hmem
  exact (hoverlaid v hfield).not_faithful hfaithful

/-- A nested field does not count, even under the name of the id. -/
theorem flatten_faithful_iff_nested :
    ∃ message,
      parse ("\x7b\"r\":\"Groups\",\"id\":8,\"state\":" ++
          "\x7b\"Id\":[\"2\"],\"on\":true,\"ct\":null,\"bri\":-7,\"effect\":\"none\"\x7d\x7d") =
        .ok message ∧
      message.id = "8" ∧ Faithful message ∧ (flatten message).attributes.length = 4 := by
  let message : Message := ⟨"Groups", "8", some [("Id", .array [.string "2"]), ("on", .bool true),
    ("ct", .null), ("bri", .int64 (-7)), ("effect", .string "none")]⟩
  have hread : ∀ text, parse text = .ok message → parse text = .ok message ∧ message.id = "8" ∧
      Faithful message ∧ (flatten message).attributes.length = 4 := by
    intro text hparse
    have hkeys := nodup_fields_of_parse hparse
    have hfaithful := (flatten_faithful_iff message hkeys).1.mpr (by decide)
    exact ⟨hparse, rfl, hfaithful, hfaithful.length⟩
  exact ⟨message, hread _ (by rfl)⟩

/-- The event for the first light carries the id of the second. -/
theorem not_flatten_faithful :
    ∃ message,
      parse "\x7b\"r\":\"lights\",\"id\":\"1\",\"state\":\x7b\"Id\":\"2\"\x7d\x7d" =
        .ok message ∧
      message.id = "1" ∧ (flatten message).id? = some "2" ∧ ¬Faithful message := by
  refine ⟨⟨"lights", "1", some [("Id", .string "2")]⟩, by rfl, rfl, rfl, ?_⟩
  intro hfaithful
  exact absurd hfaithful.length (by decide)

end Identity

end ZigbeeBridge.Push
