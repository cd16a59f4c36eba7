import ZigbeeBridge.Config.Load
import ZigbeeBridge.Config.Resolve
import ZigbeeBridge.Proofs.Config.Layer
import ZigbeeBridge.Proofs.Data.Shape
import ZigbeeBridge.Proofs.Data.Width

/-!
What is written of the defaults and of a profile has the shape that is read, and is read as what
it was, with its keys in order and without what it leaves out.
-/
namespace ZigbeeBridge

open Data Bridge

section Shapes

/-- Members that have the names of the fields, each with a value that its field takes. -/
def Fits (shape : Shape) (members : Entries Value) : Prop :=
  List.Forall₂ (fun field member => field.name = member.1 ∧ field.check member.2 = .ok ())
    shape.fields members

variable {shape : Shape} {members : Entries Value}

theorem Fits.check (h : Fits shape members) (hkeys : (Entries.keys members).Nodup)
    {member : String × Value} (hmember : member ∈ members) {field : Field}
    (hfield : shape.field? member.1 = some field) : field.check member.2 = .ok () := by
  obtain ⟨name, fields⟩ := shape
  have hfields : List.Forall₂ (fun field member => field.name = member.1 ∧
      field.check member.2 = .ok ()) fields members := h
  have hfind : fields.find? (·.name = member.1) = some field := hfield
  clear h hfield
  induction hfields with
  | nil => cases hmember
  | @cons first head fields rest hfirst _ ih =>
    obtain ⟨hname, hcheck⟩ := hfirst
    have hfresh := List.nodup_cons.mp hkeys
    rcases List.mem_cons.mp hmember with rfl | hlater
    · rw [List.find?_cons_of_pos (by simpa using hname)] at hfind
      cases hfind
      exact hcheck
    · have hother : first.name ≠ member.1 := by
        rw [hname]
        intro hsame
        have hkey : member.1 ∈ Entries.keys rest := List.mem_map_of_mem hlater
        rw [← hsame] at hkey
        exact hfresh.1 hkey
      rw [List.find?_cons_of_neg (by simpa using hother)] at hfind
      exact ih hfresh.2 hlater hfind

/-- What passes member by member passes. -/
theorem checkMembers_eq_ok {path : List String} {members : List (String × Value)}
    (h : ∀ member ∈ members, ∀ field, shape.field? member.1 = some field →
      field.check member.2 = .ok ()) : Load.checkMembers shape path members = .ok () := by
  induction members with
  | nil => rfl
  | cons member rest ih =>
    obtain ⟨key, v⟩ := member
    have hrest := ih fun member hmem => h member (List.mem_cons_of_mem _ hmem)
    rw [Load.checkMembers]
    cases hfield : shape.field? key with
    | none => exact hrest
    | some field =>
      have hcheck := h (key, v) List.mem_cons_self field hfield
      show (Load.located (path ++ [key]) (field.check v) >>= fun _ =>
        Load.checkMembers shape path rest) = _
      rw [hcheck]
      exact hrest

theorem check_uint16 (n : UInt16) : Check.uint16 (.uint16 n) = .ok () :=
  Width.uint16.integer_value "u16" n

theorem check_uint32 (n : UInt32) : Check.uint32 (.uint32 n) = .ok () :=
  Width.uint32.integer_value "u32" n

theorem check_uint64 (n : UInt64) : Check.uint64 (.uint64 n) = .ok () :=
  Width.uint64.integer_value "u64" n

theorem check_ofOption {α : Type} {check : Check} {encode : α → Value}
    (h : ∀ a, check (encode a) = .ok ()) (o : Option α) :
    check.orNull (.ofOption encode o) = .ok () := by
  cases o with
  | none => rfl
  | some a =>
    unfold Check.orNull
    split
    · rfl
    · exact h a

theorem fits_defaults (d : Defaults) : Fits Defaults.shape d.value.members :=
  .cons ⟨rfl, rfl⟩ <| .cons ⟨rfl, check_uint64 _⟩ <| .cons ⟨rfl, check_uint32 _⟩ <|
    .cons ⟨rfl, check_uint64 _⟩ .nil

theorem fits_profile (p : Profile) : Fits (Profile.shape .named) p.value.members := by
  have hpolicy : (EnumReader.named.policy (.string p.itemFailure.name)).map (fun _ => ()) =
      .ok () := by
    cases p.itemFailure <;> rfl
  exact .cons ⟨rfl, rfl⟩ <| .cons ⟨rfl, rfl⟩ <| .cons ⟨rfl, check_ofOption (fun _ => rfl) _⟩ <|
    .cons ⟨rfl, check_ofOption (fun _ => rfl) _⟩ <| .cons ⟨rfl, check_ofOption check_uint32 _⟩ <|
    .cons ⟨rfl, check_ofOption check_uint64 _⟩ <| .cons ⟨rfl, check_ofOption check_uint64 _⟩ <|
    .cons ⟨rfl, rfl⟩ <| .cons ⟨rfl, check_ofOption check_uint16 _⟩ <| .cons ⟨rfl, hpolicy⟩ <|
    .cons ⟨rfl, rfl⟩ .nil

end Shapes

section Settled

/-- What a document says of a value that is no table: null is left out. -/
def held : Value → Option Value
  | .null => none
  | .object _ => none
  | v => some v

/-- The scalars among the members as the layers hold them. -/
def settled (members : List (String × Value)) : Entries Value :=
  sortedMembers (sortedMembers (Toml.scalars members))

variable {members : List (String × Value)}

theorem sorted_of_held {v : Value} (h : held v = some v) : sorted v = v := by
  cases v with
  | object => cases h
  | null | bool | number | string | array => rfl

theorem scalars_cons (key : String) (v : Value) (rest : List (String × Value)) :
    Toml.scalars ((key, v) :: rest) =
      ((held v).map fun v => (key, v)).toList ++ Toml.scalars rest := by
  cases v with
  | null | object | bool | number | string | array => rfl

theorem held_cases (v : Value) : held v = none ∨ held v = some v := by
  cases v with
  | null | object => exact Or.inl rfl
  | bool | number | string | array => exact Or.inr rfl

theorem mem_scalars {member : String × Value} (h : member ∈ Toml.scalars members) :
    member ∈ members ∧ held member.2 = some member.2 := by
  induction members with
  | nil => cases h
  | cons first rest ih =>
    obtain ⟨key, v⟩ := first
    rw [scalars_cons, List.mem_append] at h
    rcases h with hfirst | hlater
    · rcases held_cases v with hnone | hsome
      · rw [hnone] at hfirst
        cases hfirst
      · rw [hsome] at hfirst
        cases List.mem_singleton.mp hfirst
        exact ⟨List.mem_cons_self, hsome⟩
    · exact ⟨List.mem_cons_of_mem _ (ih hlater).1, (ih hlater).2⟩

theorem get?_scalars (hkeys : (Entries.keys members).Nodup) (key : String) :
    Entries.get? (Toml.scalars members) key = (Entries.get? members key).bind held := by
  induction members with
  | nil => rfl
  | cons first rest ih =>
    obtain ⟨name, v⟩ := first
    have hfresh := List.nodup_cons.mp hkeys
    have hrest := ih hfresh.2
    rw [scalars_cons, Entries.get?]
    by_cases hname : name = key
    · subst hname
      rw [if_pos rfl, Option.bind_some]
      rcases held_cases v with hnone | hsome
      · rw [hnone, Option.map_none, Option.toList_none, List.nil_append, hrest,
          Entries.get?_eq_none hfresh.1]
        rfl
      · rw [hsome]
        exact if_pos rfl
    · rw [if_neg hname, ← hrest]
      rcases held_cases v with hnone | hsome
      · rw [hnone]
        rfl
      · rw [hsome]
        exact if_neg hname

/-- Putting scalars in order changes none of them. -/
theorem mem_sorted_scalars {entries : Entries Value}
    (hplain : ∀ member ∈ entries, held member.2 = some member.2) {member : String × Value}
    (h : member ∈ sortedMembers entries) : member ∈ entries := by
  obtain ⟨v, hmem, hv⟩ := mem_sortedMembers h
  have hsame : member = (member.1, v) := Prod.ext rfl (hv.trans (sorted_of_held (hplain _ hmem)))
  rw [hsame]
  exact hmem

theorem mem_settled {member : String × Value} (h : member ∈ settled members) :
    member ∈ members := by
  have hplain : ∀ member ∈ Toml.scalars members, held member.2 = some member.2 :=
    fun _ hmem => (mem_scalars hmem).2
  have honce : ∀ member ∈ sortedMembers (Toml.scalars members), held member.2 = some member.2 :=
    fun _ hmem => hplain _ (mem_sorted_scalars hplain hmem)
  exact (mem_scalars (mem_sorted_scalars hplain (mem_sorted_scalars honce h))).1

theorem get?_settled (hkeys : (Entries.keys members).Nodup) (key : String) :
    Entries.get? (settled members) key = (Entries.get? members key).bind held := by
  unfold settled
  rw [get?_sortedMembers, get?_sortedMembers, get?_scalars hkeys]
  cases Entries.get? members key with
  | none => rfl
  | some v =>
    rcases held_cases v with hnone | hsome
    · rw [Option.bind_some, hnone]
      rfl
    · rw [Option.bind_some, hsome, Option.map_some, sorted_of_held hsome, Option.map_some,
        sorted_of_held hsome]

theorem record_settled {shape : Shape} {entries : Entries Value} (hfits : Fits shape members)
    (hkeys : (Entries.keys members).Nodup) (hmem : ∀ member ∈ entries, member ∈ members)
    (hpresence : Shape.checkPresence entries shape.fields = .ok ()) (path : List String) :
    Load.record shape path (.object entries) = .ok entries := by
  have hcheck : Load.checkMembers shape path entries = .ok () := checkMembers_eq_ok
    fun member hmember field hfield => hfits.check hkeys (hmem member hmember) hfield
  show (Load.checkMembers shape path entries >>= fun _ =>
    Load.located path (Shape.checkPresence entries shape.fields) >>= fun _ => .ok entries) = _
  rw [hcheck, hpresence]
  rfl

end Settled

section Records

variable {entries : Entries Value} {key : String}

theorem text?_of_held {s : Option String}
    (h : entries.get? key = held (.ofOption .string s)) : entries.text? key = s := by
  unfold Entries.text?
  rw [h]
  cases s with
  | none | some => rfl

/-- A word that is held is the word that is read. -/
theorem Data.Width.read?_of_held {α : Type} (width : Width α) {word : Option α}
    (h : entries.get? key = held (.ofOption width.value word)) :
    width.read? entries key = word := by
  unfold read? Entries.integer?
  rw [h]
  cases word with
  | none => rfl
  | some a =>
    have hread : width.ofNat (width.toNat a : Int).toNat = a := by
      rw [Int.toNat_natCast, width.ofNat_toNat]
    exact congrArg some hread

theorem uint16?_of_held {n : Option UInt16}
    (h : entries.get? key = held (.ofOption .uint16 n)) : entries.uint16? key = n :=
  Width.uint16.read?_of_held h

theorem uint32?_of_held {n : Option UInt32}
    (h : entries.get? key = held (.ofOption .uint32 n)) : entries.uint32? key = n :=
  Width.uint32.read?_of_held h

theorem uint64?_of_held {n : Option UInt64}
    (h : entries.get? key = held (.ofOption .uint64 n)) : entries.uint64? key = n :=
  Width.uint64.read?_of_held h

theorem nodup_keys_profile (p : Profile) : (Entries.keys p.value.members).Nodup := by
  have hkeys : Entries.keys p.value.members =
      ["address", "identity", "token", "token_env", "refresh_interval", "timeout",
        "request_spacing_ms", "websocket", "websocket_port", "item_failure", "insecure"] := rfl
  rw [hkeys]
  decide

theorem nodup_keys_defaults (d : Defaults) : (Entries.keys d.value.members).Nodup := by
  have hkeys : Entries.keys d.value.members =
      ["output", "timeout", "refresh_interval", "request_spacing_ms"] := rfl
  rw [hkeys]
  decide

/-- A profile is read off what the layers hold of it. -/
theorem profile_settled (p : Profile) :
    Profile.ofMembers .named (settled p.value.members) = p := by
  have hget : ∀ key, Entries.get? (settled p.value.members) key =
      (Entries.get? p.value.members key).bind held := get?_settled (nodup_keys_profile p)
  have haddress : (settled p.value.members).text "address" = p.address :=
    Entries.text_of_get? (hget _)
  have hidentity : (settled p.value.members).text "identity" = p.identity :=
    Entries.text_of_get? (hget _)
  have hpush : (settled p.value.members).bool? "websocket" = some p.push := by
    unfold Entries.bool?
    rw [hget]
    rfl
  have hinsecure : (settled p.value.members).bool? "insecure" = some p.insecure := by
    unfold Entries.bool?
    rw [hget]
    rfl
  have hpolicy : ((settled p.value.members).get? "item_failure").bind
      (fun v => (EnumReader.named.policy v).toOption) = some p.itemFailure := by
    have hname : ∀ failure : ItemFailure,
        (EnumReader.named.policy (.string failure.name)).toOption = some failure := by
      intro failure
      cases failure with
      | abort | isolate => rfl
    rw [hget]
    exact hname p.itemFailure
  unfold Profile.ofMembers
  rw [haddress, hidentity, hpush, hinsecure, hpolicy, text?_of_held (hget "token"),
    text?_of_held (hget "token_env"), uint32?_of_held (hget "refresh_interval"),
    uint64?_of_held (hget "timeout"), uint64?_of_held (hget "request_spacing_ms"),
    uint16?_of_held (hget "websocket_port")]
  rfl

theorem defaults_sorted (d : Defaults) :
    Defaults.ofMembers (sorted d.value).members = d := by
  have htext : (sorted d.value).members.text? "output" = some d.output := rfl
  have htimeout : (sorted d.value).members.uint64? "timeout" = some d.timeout :=
    uint64?_of_held (n := some d.timeout) rfl
  have hinterval : (sorted d.value).members.uint32? "refresh_interval" =
      some d.refreshInterval := uint32?_of_held (n := some d.refreshInterval) rfl
  have hspacing : (sorted d.value).members.uint64? "request_spacing_ms" = some d.spacingMs :=
    uint64?_of_held (n := some d.spacingMs) rfl
  unfold Defaults.ofMembers
  rw [htext, htimeout, hinterval, hspacing]
  rfl

end Records

section Flat

/-- No member is a table. -/
def Flat (members : List (String × Value)) : Prop := ∀ key inner, (key, .object inner) ∉ members

variable {members : List (String × Value)}

theorem Flat.tables (h : Flat members) : Toml.tables members = [] := by
  induction members with
  | nil => rw [Toml.tables]
  | cons member rest ih =>
    have hmember : ∀ key inner, member = (key, .object inner) → False := by
      rintro key inner rfl
      exact h key inner List.mem_cons_self
    rw [Toml.tables]
    · exact ih fun key inner hmem => h key inner (List.mem_cons_of_mem _ hmem)
    · exact hmember

theorem Flat.writable (h : Flat members) (hkeys : (Entries.keys members).Nodup) :
    Toml.Writable members :=
  .members hkeys (fun key inner hmem => absurd hmem (h key inner))
    fun key inner hmem => absurd hmem (h key inner)

/-- Where there are no tables, the scalars are all there is. -/
theorem Flat.tableBlocks (h : Flat members) (path : List String) :
    Toml.tableBlocks path members =
      (Toml.scalarLines members >>= fun lines => .ok (Toml.block path members lines)) := by
  have hinner : Toml.innerBlocks path members = .ok [] := by
    induction members with
    | nil => rw [Toml.innerBlocks]
    | cons member rest ih =>
      rw [Toml.innerBlocks]
      · exact ih fun key inner hmem => h key inner (List.mem_cons_of_mem _ hmem)
      · rintro key inner rfl
        exact h key inner List.mem_cons_self
  rw [Toml.tableBlocks, hinner]
  cases Toml.scalarLines members with
  | error e => rfl
  | ok lines => exact congrArg Except.ok (List.append_nil _)

theorem object_ne_ofOption {α : Type} {encode : α → Value} {inner : List (String × Value)}
    (h : ∀ a, .object inner ≠ encode a) (o : Option α) :
    .object inner ≠ Value.ofOption encode o := by
  cases o with
  | none => exact Value.noConfusion
  | some a => exact h a

theorem flat_defaults (d : Defaults) : Flat d.value.members := by
  intro key inner hmem
  simp [Defaults.value, Value.members, Value.uint32, Value.uint64, Value.nat] at hmem

theorem flat_profile (p : Profile) : Flat p.value.members := by
  intro key inner hmem
  have htext : ∀ s : Option String, .object inner ≠ Value.ofOption .string s :=
    object_ne_ofOption fun _ => Value.noConfusion
  have hshort : ∀ n : Option UInt16, .object inner ≠ Value.ofOption .uint16 n :=
    object_ne_ofOption fun _ => Value.noConfusion
  have hword : ∀ n : Option UInt32, .object inner ≠ Value.ofOption .uint32 n :=
    object_ne_ofOption fun _ => Value.noConfusion
  have hlong : ∀ n : Option UInt64, .object inner ≠ Value.ofOption .uint64 n :=
    object_ne_ofOption fun _ => Value.noConfusion
  simp [Profile.value, Value.members, htext, hshort, hword, hlong] at hmem

end Flat

end ZigbeeBridge
