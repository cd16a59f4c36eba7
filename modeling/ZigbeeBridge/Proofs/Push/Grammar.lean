import ZigbeeBridge.Proofs.Push.Document

/-!
Which documents are messages, and what message each of them is. Three fields count, each may stand
there once, and whatever else there is does not matter.
-/
namespace ZigbeeBridge.Push

open Data Json

section Grammar

/-- The fields of a state that a message keeps: each in its first place and with its last value. -/
structure Keeps (fields : List (String × Value)) (kept : Entries Value) : Prop where
  keys : kept.keys = (Entries.keys fields).eraseDups
  values : ∀ key, kept.get? key = (Entries.get? fields.reverse key).map condensed

/-- The state of a message, from what is written of it. -/
inductive IsState : Option Value → Option (Entries Value) → Prop where
  | absent : IsState none none
  | null : IsState (some .null) none
  | object {fields : List (String × Value)} {kept : Entries Value} (h : Keeps fields kept) :
    IsState (some (.object fields)) (some kept)

/-- What is written of the three fields makes the message. -/
structure Says (resource id state : Option Value) (m : Message) : Prop where
  resource : resource = some (.string m.resource)
  id : id = some (.string m.id) ∨ ∃ n, id = some (.number n) ∧ m.id = compact (.number n)
  state : IsState state m.state

/-- A document, as written, is the message: an object with no field of it twice, or an array of the
fields in their order. -/
inductive Tells : Value → Message → Prop where
  | object {ms : List (String × Value)} {m : Message} (honce : Unrepeated ms)
    (h : Says (Entries.get? ms "r") (Entries.get? ms "id") (Entries.get? ms "state") m) :
    Tells (.object ms) m
  | pair {resource id : Value} {m : Message} (h : Says (some resource) (some id) none m) :
    Tells (.array [resource, id]) m
  | triple {resource id state : Value} {m : Message}
    (h : Says (some resource) (some id) (some state) m) : Tells (.array [resource, id, state]) m

/-- What may be written of the three fields. -/
structure Fit (resource id state : Option Value) : Prop where
  resource : ∃ s, resource = some (.string s)
  id : (∃ s, id = some (.string s)) ∨ ∃ n, id = some (.number n)
  state : state = none ∨ state = some .null ∨ ∃ fields, state = some (.object fields)

/-- The documents that are messages. -/
inductive IsMessage : Value → Prop where
  | object {ms : List (String × Value)} (honce : Unrepeated ms)
    (h : Fit (Entries.get? ms "r") (Entries.get? ms "id") (Entries.get? ms "state")) :
    IsMessage (.object ms)
  | pair {resource id : Value} (h : Fit (some resource) (some id) none) :
    IsMessage (.array [resource, id])
  | triple {resource id state : Value} (h : Fit (some resource) (some id) (some state)) :
    IsMessage (.array [resource, id, state])

end Grammar

section Meaning

theorem keeps_ofList (fields : List (String × Value)) :
    Keeps fields (Entries.ofList (condensedMembers fields)) where
  keys := by
    rw [Entries.keys_ofList, condensedMembers_eq, Entries.keys, Entries.keys, List.map_map]
    rfl
  values key := by
    rw [Entries.get?_ofList, condensedMembers_eq, ← List.map_reverse, Entries.get?_map]

theorem keeps_iff {fields : List (String × Value)} {kept : Entries Value} :
    Keeps fields kept ↔ kept = Entries.ofList (condensedMembers fields) := by
  have hkeeps := keeps_ofList fields
  constructor
  · intro h
    have hkeys := h.keys.trans hkeeps.keys.symm
    refine Entries.ext_of_keys ?_ hkeys fun key => (h.values key).trans (hkeeps.values key).symm
    rw [hkeys]
    exact Entries.nodup_keys_ofList _
  · rintro rfl
    exact hkeeps

theorem isState_iff {state : Option Value} {kept : Option (Entries Value)} :
    IsState state kept ↔ state.elim (some none) stateOf? = some kept := by
  constructor
  · intro h
    cases h with
    | absent | null => rfl
    | object hkeeps =>
      rw [keeps_iff.mp hkeeps]
      rfl
  · intro h
    cases state with
    | none =>
      cases h
      exact .absent
    | some v =>
      cases v with
      | null =>
        cases h
        exact .null
      | object fields =>
        cases h
        exact .object (keeps_ofList fields)
      | bool | number | string | array => cases h

theorem textOf?_iff {resource : Option Value} {s : String} :
    resource.bind textOf? = some s ↔ resource = some (.string s) := by
  cases resource with
  | none => simp
  | some v =>
    cases v with
    | string | null | bool | number | array | object => simp [textOf?]

theorem idOf?_iff {id : Option Value} {s : String} :
    id.bind idOf? = some s ↔
      id = some (.string s) ∨ ∃ n, id = some (.number n) ∧ s = compact (.number n) := by
  cases id with
  | none => simp
  | some v =>
    cases v with
    | number n => simp [idOf?, eq_comm]
    | string | null | bool | array | object => simp [idOf?]

theorem says_iff {resource id state : Option Value} {m : Message} :
    Says resource id state m ↔ say resource id state = some m := by
  constructor
  · rintro ⟨hresource, hid, hstate⟩
    unfold say
    rw [textOf?_iff.mpr hresource, idOf?_iff.mpr hid, isState_iff.mp hstate]
    rfl
  · intro h
    obtain ⟨resource, hresource, h⟩ := Option.bind_eq_some_iff.mp h
    obtain ⟨id, hid, h⟩ := Option.bind_eq_some_iff.mp h
    obtain ⟨state, hstate, hdone⟩ := Option.map_eq_some_iff.mp h
    cases hdone
    exact ⟨textOf?_iff.mp hresource, idOf?_iff.mp hid, isState_iff.mpr hstate⟩

theorem tells_iff {doc : Value} {m : Message} : Tells doc m ↔ tell doc = some m := by
  constructor
  · intro h
    cases h with
    | object honce h =>
      rw [tell, if_pos honce]
      exact says_iff.mp h
    | pair h | triple h => exact says_iff.mp h
  · intro h
    cases doc with
    | object ms =>
      rw [tell] at h
      split_ifs at h with honce
      exact .object honce (says_iff.mpr h)
    | array vs =>
      rw [tell] at h
      split_ifs at h with hlength
      rcases vs with _ | ⟨resource, _ | ⟨id, _ | ⟨state, _ | _⟩⟩⟩
      · simp at hlength
      · simp at hlength
      · exact .pair (says_iff.mpr h)
      · exact .triple (says_iff.mpr h)
      · simp at hlength
    | null | bool | number | string => cases h

theorem fit_iff {resource id state : Option Value} :
    Fit resource id state ↔ ∃ m, Says resource id state m := by
  constructor
  · rintro ⟨⟨s, hresource⟩, hid, hstate⟩
    obtain ⟨name, hname⟩ : ∃ name, id = some (.string name) ∨
        ∃ n, id = some (.number n) ∧ name = compact (.number n) := by
      obtain ⟨name, hname⟩ | ⟨n, hn⟩ := hid
      · exact ⟨name, .inl hname⟩
      · exact ⟨_, .inr ⟨n, hn, rfl⟩⟩
    obtain ⟨kept, hkept⟩ : ∃ kept, IsState state kept := by
      obtain rfl | rfl | ⟨fields, rfl⟩ := hstate
      · exact ⟨_, .absent⟩
      · exact ⟨_, .null⟩
      · exact ⟨_, .object (keeps_ofList fields)⟩
    exact ⟨⟨s, name, kept⟩, hresource, hname, hkept⟩
  · rintro ⟨⟨_, _, kept⟩, hresource, hid, hstate⟩
    refine ⟨⟨_, hresource⟩, hid.imp (fun h => ⟨_, h⟩) fun ⟨n, h, _⟩ => ⟨n, h⟩, ?_⟩
    cases hstate with
    | absent => exact .inl rfl
    | null => exact .inr (.inl rfl)
    | object => exact .inr (.inr ⟨_, rfl⟩)

theorem isMessage_iff {doc : Value} : IsMessage doc ↔ ∃ m, Tells doc m := by
  constructor
  · intro h
    cases h with
    | object honce h =>
      obtain ⟨m, hsays⟩ := fit_iff.mp h
      exact ⟨m, .object honce hsays⟩
    | pair h =>
      obtain ⟨m, hsays⟩ := fit_iff.mp h
      exact ⟨m, .pair hsays⟩
    | triple h =>
      obtain ⟨m, hsays⟩ := fit_iff.mp h
      exact ⟨m, .triple hsays⟩
  · rintro ⟨m, h⟩
    cases h with
    | object honce h => exact .object honce (fit_iff.mpr ⟨m, h⟩)
    | pair h => exact .pair (fit_iff.mpr ⟨m, h⟩)
    | triple h => exact .triple (fit_iff.mpr ⟨m, h⟩)

end Meaning

/-- Every text that is a document is a message exactly if the document, as it is written, is one,
and then it is the message that the document tells. -/
theorem parse_grammar (text : String) :
    Json.parse text = (parseWritten text).map condensed ∧
      ∀ doc, parseWritten text = .ok doc →
        ((∃ m, parse text = .ok m) ↔ IsMessage doc) ∧ ∀ m, parse text = .ok m ↔ Tells doc m := by
  refine ⟨parse_eq text, fun doc hdoc => ?_⟩
  have htells : ∀ m, parse text = .ok m ↔ Tells doc m := by
    intro m
    rw [← toOption_eq_some_iff, toOption_parse hdoc, tells_iff]
  refine ⟨?_, htells⟩
  rw [isMessage_iff]
  exact exists_congr htells

/-- Other keys may be repeated, and so may fields of the state. -/
example :
    parse ("\x7b\"e\":1,\"id\":7,\"e\":2,\"r\":\"lights\"," ++
        "\"state\":\x7b\"on\":true,\"bri\":1,\"on\":false\x7d\x7d") =
      .ok ⟨"lights", "7", some [("on", .bool false), ("bri", .nat 1)]⟩ := by rfl

end ZigbeeBridge.Push
