import ZigbeeBridge.Proofs.Json.Skip
import ZigbeeBridge.Push.Frame

/-!
A frame is decoded as it is read and never becomes a document on the way. Even so what is read of it
depends on no more than the document as it is written: on its three fields, by name in an object and
by place in an array. Whatever else an object holds is passed over.
-/
namespace ZigbeeBridge.Push

open Data Json

section Decoding

def textOf? : Value → Option String
  | .string s => some s
  | _ => none

def idOf? : Value → Option String
  | .string s => some s
  | .number n => some (compact (.number n))
  | _ => none

def stateOf? : Value → Option (Option (Entries Value))
  | .null => some none
  | .object fields => some (some (Entries.ofList (condensedMembers fields)))
  | _ => none

/-- The message that three fields make. -/
def say (resource id state : Option Value) : Option Message := do
  let resource ← resource.bind textOf?
  let id ← id.bind idOf?
  (state.elim (some none) stateOf?).map (.mk resource id)

def fieldNames : List String := ["r", "id", "state"]

/-- No field of a message is there twice; of other keys nothing is asked. -/
def Unrepeated (ms : List (String × Value)) : Prop :=
  ∀ name ∈ fieldNames, (Entries.keys ms).count name ≤ 1

instance (ms : List (String × Value)) : Decidable (Unrepeated ms) :=
  inferInstanceAs (Decidable (∀ name ∈ fieldNames, (Entries.keys ms).count name ≤ 1))

/-- The message that a document is, as written. -/
def tell : Value → Option Message
  | .object ms =>
    if Unrepeated ms then
      say (Entries.get? ms "r") (Entries.get? ms "id") (Entries.get? ms "state")
    else none
  | .array vs =>
    if vs.length = 2 ∨ vs.length = 3 then say vs[0]? vs[1]? vs[2]? else none
  | _ => none

end Decoding

section Fields

/-- A reader takes from a value what another way of decoding takes from what is written of it. -/
def Decodes {α : Type} (read : FieldReader α) (decode : Value → Option α) : Prop :=
  ∀ {cs v rest}, written (maxDepth - 1) cs = .ok (v, rest) →
    (read cs).toOption = (decode v).map (·, rest)

theorem toOption_mismatch {α : Type} (expected : String) (cs : List Char) :
    (mismatch expected cs : Except Stop α).toOption = none := by
  unfold mismatch
  cases found cs <;> rfl

theorem decodes_textField : Decodes textField textOf? := by
  intro cs v rest h
  have hform := form_of_written h
  unfold textField
  generalize skipBlank cs = start at hform
  cases hform with
  | string hstring =>
    simp only [hstring]
    rfl
  | digit hc hnumber =>
    split
    · contradiction
    · cases ‹_ :: _ = _›
      cases hc
    · exact toOption_mismatch _ _
  | null | yes | no | negative | array | object => exact toOption_mismatch _ _

theorem decodes_idField : Decodes idField idOf? := by
  intro cs v rest h
  unfold idField
  rw [value_recasts, h]
  cases v with
  | string | number | null | bool | array | object => rfl

theorem decodes_stateField : Decodes stateField stateOf? := by
  intro cs v rest h
  have hform := form_of_written h
  unfold stateField
  generalize skipBlank cs = start at hform
  generalize hdepth : maxDepth - 1 = depth at hform
  cases hform with
  | null hword =>
    simp only [hword]
    rfl
  | digit hc hnumber =>
    split
    · contradiction
    · cases ‹_ :: _ = _›
      cases hc
    · cases ‹_ :: _ = _›
      cases hc
    · exact toOption_mismatch _ _
  | @object below _ _ ms hmembers =>
    have hbelow : maxDepth - 2 = below := by
      unfold maxDepth at hdepth ⊢
      omega
    simp only [hbelow, pairs_recasts (value_recasts below) _ _ _, hmembers]
    rw [stateOf?, condensedMembers_eq]
    rfl
  | string | yes | no | negative | array => exact toOption_mismatch _ _

/-- A field that may stand in an object once. -/
def once {α : Type} (old new : Option α) : Option α := if old.isSome then none else new

def Draft.take (draft : Draft) (key : String) (v : Value) : Option Draft :=
  if key = "r" then
    (once draft.resource (textOf? v)).map fun s => { draft with resource := some s }
  else if key = "id" then (once draft.id (idOf? v)).map fun s => { draft with id := some s }
  else if key = "state" then
    (once draft.state (stateOf? v)).map fun state => { draft with state := some state }
  else some draft

def Draft.message? (draft : Draft) : Option Message := do
  let resource ← draft.resource
  let id ← draft.id
  some ⟨resource, id, draft.state.getD none⟩

variable {cs rest : List Char}

theorem toOption_fresh {α : Type} {read : FieldReader α} {decode : Value → Option α}
    (hread : Decodes read decode) (name : String) (old : Option α) {start : List Char} {v : Value}
    (hcolon : colon cs = .ok start) (hvalue : written (maxDepth - 1) start = .ok (v, rest)) :
    (fresh name old read cs).toOption = (once old (decode v)).map (·, rest) := by
  unfold fresh once
  split_ifs
  · rfl
  · rw [hcolon]
    exact hread hvalue

theorem toOption_field (draft : Draft) (key : String) {start : List Char} {v : Value}
    (hcolon : colon cs = .ok start) (hvalue : written (maxDepth - 1) start = .ok (v, rest)) :
    (field draft key cs).toOption = (draft.take key v).map (·, rest) := by
  unfold field Draft.take
  split_ifs
  · rw [toOption_bind, toOption_fresh decodes_textField key draft.resource hcolon hvalue]
    cases once draft.resource (textOf? v) <;> rfl
  · rw [toOption_bind, toOption_fresh decodes_idField key draft.id hcolon hvalue]
    cases once draft.id (idOf? v) <;> rfl
  · rw [toOption_bind, toOption_fresh decodes_stateField key draft.state hcolon hvalue]
    cases once draft.state (stateOf? v) <;> rfl
  · rw [hcolon]
    simp only [bind, Except.bind, skipValue_of_written hvalue]
    rfl

theorem toOption_finish (draft : Draft) (cs : List Char) :
    (draft.finish cs).toOption = draft.message? := by
  unfold Draft.finish Draft.message?
  cases draft.resource with
  | none => rfl
  | some resource => cases draft.id <;> rfl

def Draft.absorb (draft : Draft) (ms : List (String × Value)) : Option Draft :=
  ms.foldlM (fun draft m => draft.take m.1 m.2) draft

/-- Field by field, an object is read as far as its members can be taken. -/
theorem toOption_fields {first : Bool} {ms : List (String × Value)}
    (h : Members (written (maxDepth - 1)) first cs ms rest) (draft : Draft) {fuel : Nat}
    (hfuel : ms.length < fuel) :
    (fields fuel draft first cs).toOption.map (fun read => (read.1, read.2.drop 1)) =
      ((draft.absorb ms).bind Draft.message?).map (·, rest) := by
  induction h generalizing draft fuel with
  | @close first cs rest hkey =>
    obtain ⟨fuel, rfl⟩ := Nat.exists_eq_succ_of_ne_zero (Nat.ne_zero_of_lt hfuel)
    have hfields : fields (fuel + 1) draft first cs =
        (draft.finish rest >>= fun m => .ok (m, rest)) := by
      rw [fields, hkey]
      rfl
    have habsorb : draft.absorb [] = some draft := rfl
    rw [Nat.succ_eq_add_one, hfields, toOption_bind, toOption_finish, habsorb, Option.bind_some]
    cases draft.message? <;> rfl
  | @next first cs behind start after rest key v ms hkey hcolon hread _ ih =>
    obtain ⟨fuel, rfl⟩ := Nat.exists_eq_succ_of_ne_zero (Nat.ne_zero_of_lt hfuel)
    have hfields : fields (fuel + 1) draft first cs =
        (field draft key behind >>= fun read => fields fuel read.1 false read.2) := by
      rw [fields, hkey]
      rfl
    have habsorb : draft.absorb ((key, v) :: ms) =
        (draft.take key v).bind (Draft.absorb · ms) := rfl
    rw [Nat.succ_eq_add_one, hfields, toOption_bind, toOption_field draft key hcolon hread, habsorb]
    cases draft.take key v with
    | none => rfl
    | some next => exact ih next (Nat.lt_of_succ_lt_succ hfuel)

end Fields

section Members

variable {α β : Type}

/-- What becomes of a field when the members are taken in their order. -/
def slot (name : String) (decode : Value → Option α) (old : Option α) :
    List (String × Value) → Option (Option α)
  | [] => some old
  | (key, v) :: ms =>
    if key = name then (once old (decode v)).bind fun a => slot name decode (some a) ms
    else slot name decode old ms

/-- A field that may be left out, but not be anything else than can be decoded. -/
def optional (decode : Value → Option α) (v? : Option Value) : Option (Option α) :=
  v?.elim (some none) fun v => (decode v).map some

/-- The fields do not depend on each other. -/
theorem absorb_eq (draft : Draft) (ms : List (String × Value)) :
    draft.absorb ms = (do
      let resource ← slot "r" textOf? draft.resource ms
      let id ← slot "id" idOf? draft.id ms
      let state ← slot "state" stateOf? draft.state ms
      some ⟨resource, id, state⟩) := by
  induction ms generalizing draft with
  | nil => rfl
  | cons m ms ih =>
    obtain ⟨key, v⟩ := m
    have habsorb : draft.absorb ((key, v) :: ms) =
        (draft.take key v).bind (Draft.absorb · ms) := rfl
    rw [habsorb]
    unfold Draft.take
    split_ifs with hresource hid hstate
    · subst hresource
      simp only [slot, ↓reduceIte, String.reduceEq]
      cases once draft.resource (textOf? v) with
      | none => rfl
      | some s => exact ih _
    · subst hid
      simp only [slot, ↓reduceIte, String.reduceEq]
      cases once draft.id (idOf? v) with
      | none => cases slot "r" textOf? draft.resource ms <;> rfl
      | some s => exact ih _
    · subst hstate
      simp only [slot, ↓reduceIte, String.reduceEq]
      cases once draft.state (stateOf? v) with
      | none =>
        cases slot "r" textOf? draft.resource ms with
        | none => rfl
        | some => cases slot "id" idOf? draft.id ms <;> rfl
      | some s => exact ih _
    · simp only [slot, hresource, hid, hstate, ↓reduceIte]
      exact ih draft

section Slots

variable (name : String) (decode : Value → Option α)

theorem slot_some (a : α) (ms : List (String × Value)) :
    slot name decode (some a) ms =
      if (Entries.keys ms).count name = 0 then some (some a) else none := by
  induction ms with
  | nil => rfl
  | cons m ms ih =>
    obtain ⟨key, v⟩ := m
    rw [slot, Entries.keys_cons, List.count_cons]
    by_cases hkey : key = name
    · simp [hkey, once]
    · simp [hkey, ih]

/-- A field is there at most once, and then it has to be what can be decoded. -/
theorem slot_none (ms : List (String × Value)) :
    slot name decode none ms =
      if (Entries.keys ms).count name ≤ 1 then optional decode (Entries.get? ms name)
      else none := by
  induction ms with
  | nil => rfl
  | cons m ms ih =>
    obtain ⟨key, v⟩ := m
    rw [slot, Entries.keys_cons, List.count_cons, Entries.get?]
    by_cases hkey : key = name
    · simp only [hkey, once, slot_some]
      cases hdecode : decode v with
      | none | some => simp [optional, hdecode]
    · simp [hkey, ih]

theorem optional_bind (v? : Option Value) {next : Option α → Option β} (hnext : next none = none) :
    (optional decode v?).bind next = (v?.bind decode).bind fun a => next (some a) := by
  cases v? with
  | none => exact hnext
  | some v =>
    unfold optional
    rw [Option.elim_some, Option.bind_some]
    cases decode v <;> rfl

end Slots

theorem message?_slots (resource id state : Option Value) :
    ((optional textOf? resource).bind fun resource => (optional idOf? id).bind fun id =>
        (optional stateOf? state).bind fun state => Draft.message? ⟨resource, id, state⟩) =
      say resource id state := by
  have hstate : ∀ resource id,
      (optional stateOf? state).bind (fun state => Draft.message? ⟨some resource, some id, state⟩) =
        (state.elim (some none) stateOf?).map (Message.mk resource id) := by
    intro resource id
    cases state with
    | none => rfl
    | some v =>
      unfold optional
      rw [Option.elim_some, Option.elim_some]
      cases stateOf? v <;> rfl
  have hid : ∀ resource,
      ((optional idOf? id).bind fun id => (optional stateOf? state).bind fun state =>
        Draft.message? ⟨some resource, id, state⟩) = _ :=
    fun resource => optional_bind idOf? id (Option.bind_fun_none _)
  rw [optional_bind textOf? resource]
  · simp only [hid, hstate]
    rfl
  · simp [Draft.message?]

/-- The members of an object make the message that its three fields say. -/
theorem message?_absorb (ms : List (String × Value)) :
    (Draft.blank.absorb ms).bind Draft.message? = tell (.object ms) := by
  have honce : Unrepeated ms ↔ (Entries.keys ms).count "r" ≤ 1 ∧ (Entries.keys ms).count "id" ≤ 1 ∧
      (Entries.keys ms).count "state" ≤ 1 := by simp [Unrepeated, fieldNames]
  rw [absorb_eq]
  simp only [Draft.blank, slot_none, tell, honce, bind, Option.bind_assoc, Option.bind_some]
  by_cases hresource : (Entries.keys ms).count "r" ≤ 1
  · by_cases hid : (Entries.keys ms).count "id" ≤ 1
    · by_cases hstate : (Entries.keys ms).count "state" ≤ 1
      · simp only [hresource, hid, hstate, ↓reduceIte, and_self]
        exact message?_slots _ _ _
      · simp [hstate]
    · simp [hid]
  · simp [hresource]

end Members

section Items

theorem nextElement_of_at {first : Bool} {cs start : List Char} (h : ElementAt first cs start) :
    nextElement first cs = .ok (some start, start) := by
  unfold nextElement
  cases h with
  | first hblank hc =>
    rw [hblank]
    split
    · contradiction
    · cases ‹_ :: _ = _›
      exact absurd rfl hc
    · cases ‹_ :: _ = _›
      rfl
  | later hblank hbehind hc =>
    rw [hblank]
    split
    · contradiction
    · cases ‹_ :: _ = _›
    · cases ‹_ :: _ = _›
      rw [if_neg (by decide), if_pos rfl, hbehind]
      split
      · contradiction
      · cases ‹_ :: _ = _›
        exact absurd rfl hc
      · rfl

theorem nextElement_close {first : Bool} {cs rest : List Char} (h : skipBlank cs = ']' :: rest) :
    nextElement first cs = .ok (none, ']' :: rest) := by
  unfold nextElement
  rw [h]
  rfl

variable {cs rest : List Char}

/-- Behind the last of its elements an array is closed, and nowhere else. -/
theorem toOption_closeArray {vs : List Value}
    (h : Elements (written (maxDepth - 1)) false cs vs rest) :
    (closeArray cs).toOption = if vs = [] then some rest else none := by
  cases h with
  | close hblank =>
    unfold closeArray
    rw [hblank]
    rfl
  | next hstart _ _ =>
    cases hstart with
    | later hblank hbehind hc =>
      unfold closeArray
      rw [hblank]
      split
      · contradiction
      · cases ‹_ :: _ = _›
      · split <;> rfl
      · rfl

theorem element_of_at {α : Type} (count : Nat) (read : FieldReader α) {start : List Char}
    (h : ElementAt (count == 0) cs start) :
    element count read cs = read start := by
  unfold element
  rw [nextElement_of_at h]
  rfl

theorem toOption_element_close {α : Type} {count : Nat} (h : skipBlank cs = ']' :: rest)
    (read : FieldReader α) : (element count read cs).toOption = none := by
  unfold element
  rw [nextElement_close h]
  rfl

def lastItem (resource id : String) : FieldReader Message := fun cs => do
  let (start?, rest) ← nextElement false cs
  match start? with
  | none => .ok (⟨resource, id, none⟩, rest)
  | some start =>
    let (state, rest) ← stateField start
    .ok (⟨resource, id, state⟩, rest)

/-- A reader of some elements, and then the closing bracket. -/
def closing (read : FieldReader Message) (cs : List Char) : Option (Message × List Char) :=
  (read cs).toOption.bind fun read => (closeArray read.2).toOption.map (read.1, ·)

theorem closing_bind {α : Type} (read : FieldReader α) (next : α → FieldReader Message)
    (cs : List Char) :
    closing (fun cs => read cs >>= fun a => next a.1 a.2) cs =
      (read cs).toOption.bind fun a => closing (next a.1) a.2 := by
  unfold closing
  rw [toOption_bind, Option.bind_assoc]

theorem closing_lastItem (resource id : String) {vs : List Value}
    (h : Elements (written (maxDepth - 1)) false cs vs rest) :
    closing (lastItem resource id) cs =
      if vs.length ≤ 1 then
        (vs[0]?.elim (some none) stateOf?).map fun state => (⟨resource, id, state⟩, rest)
      else none := by
  cases h with
  | close hblank =>
    have hlast : lastItem resource id cs = .ok (⟨resource, id, none⟩, ']' :: rest) := by
      unfold lastItem
      rw [nextElement_close hblank]
      rfl
    unfold closing
    rw [hlast]
    rfl
  | @next _ _ start after _ v ws hstart hread hrest =>
    have hlast : lastItem resource id cs =
        (stateField start >>= fun read => .ok (⟨resource, id, read.1⟩, read.2)) := by
      unfold lastItem
      rw [nextElement_of_at hstart]
      rfl
    unfold closing
    rw [hlast, toOption_bind, decodes_stateField hread, List.getElem?_cons_zero, Option.elim_some]
    cases stateOf? v with
    | none => simp
    | some state =>
      have hclose := toOption_closeArray hrest
      cases ws with
      | nil => simpa [Except.toOption] using hclose
      | cons w ws => simpa [Except.toOption] using hclose

def idItem (resource : String) : FieldReader Message := fun cs =>
  element 1 idField cs >>= fun id => lastItem resource id.1 id.2

theorem closing_idItem (resource : String) {vs : List Value}
    (h : Elements (written (maxDepth - 1)) false cs vs rest) :
    closing (idItem resource) cs =
      (vs[0]?.bind idOf?).bind fun id =>
        if vs.length ≤ 2 then
          (vs[1]?.elim (some none) stateOf?).map fun state => (⟨resource, id, state⟩, rest)
        else none := by
  unfold idItem
  rw [closing_bind (element 1 idField) (lastItem resource)]
  cases h with
  | close hblank =>
    rw [toOption_element_close hblank]
    rfl
  | @next _ _ start after _ v ws hstart hread hrest =>
    have helement : element 1 idField cs = idField start := element_of_at _ _ hstart
    rw [helement, decodes_idField hread, List.getElem?_cons_zero, Option.bind_some,
      List.getElem?_cons_succ, List.length_cons]
    cases idOf? v with
    | none => rfl
    | some id =>
      rw [Option.map_some, Option.bind_some, Option.bind_some, closing_lastItem resource id hrest]
      simp only [Nat.reduceLeDiff]

/-- Element by element, an array is read as far as it has what the fields may be. -/
theorem closing_items {vs : List Value} (h : Elements (written (maxDepth - 1)) true cs vs rest) :
    closing items cs = (tell (.array vs)).map (·, rest) := by
  have hitems : items = fun cs => element 0 textField cs >>= fun resource =>
      idItem resource.1 resource.2 := rfl
  rw [hitems, closing_bind (element 0 textField) idItem]
  cases h with
  | close hblank =>
    rw [toOption_element_close hblank]
    rfl
  | @next _ _ start after _ v ws hstart hread hrest =>
    have helement : element 0 textField cs = textField start := element_of_at _ _ hstart
    rw [helement, decodes_textField hread]
    cases htext : textOf? v with
    | none => simp [tell, say, htext]
    | some resource =>
      rw [Option.map_some, Option.bind_some, closing_idItem resource hrest]
      have htell : tell (.array (v :: ws)) =
          (ws[0]?.bind idOf?).bind fun id =>
            if ws.length ≤ 2 then
              (ws[1]?.elim (some none) stateOf?).map fun state => ⟨resource, id, state⟩
            else none := by
        rcases ws with _ | ⟨w, _ | ⟨x, _ | ⟨y, ws⟩⟩⟩
        · rfl
        · simp [tell, say, htext]
        · simp [tell, say, htext]
        · simp [tell]
      rw [htell]
      cases ws[0]?.bind idOf? with
      | none => rfl
      | some id =>
        rw [Option.bind_some, Option.bind_some]
        split_ifs
        · rw [Option.map_map]
          rfl
        · rfl

end Items

section Frames

variable {cs rest : List Char}

/-- What is read of a frame is what its document tells, as written. -/
theorem toOption_message {doc : Value} (h : written maxDepth cs = .ok (doc, rest)) :
    (message cs).toOption = (tell doc).map (·, rest) := by
  have hform := form_of_written h
  unfold message
  generalize skipBlank cs = start at hform
  generalize hdepth : maxDepth = depth at hform
  cases hform with
  | digit hc hnumber =>
    split
    · contradiction
    · cases ‹_ :: _ = _›
      cases hc
    · cases ‹_ :: _ = _›
      cases hc
    · exact (toOption_mapError _ _).trans (toOption_mismatch _ _)
  | @object below cs _ ms hmembers =>
    have hbelow : below = maxDepth - 1 := by rw [hdepth]; rfl
    subst hbelow
    obtain ⟨hread, hlength⟩ := members_of_ok hmembers
    have hfields := toOption_fields hread .blank hlength
    rw [message?_absorb] at hfields
    refine (toOption_bind (place leaveObject (fields (cs.length + 1) .blank true cs)) _).trans ?_
    rw [place, toOption_mapError, ← hfields]
    cases (fields (cs.length + 1) .blank true cs).toOption <;> rfl
  | @array below cs _ vs hitems =>
    have hbelow : below = maxDepth - 1 := by rw [hdepth]; rfl
    subst hbelow
    have hclosing := closing_items hitems
    refine (toOption_bind (place leaveArray (items cs)) _).trans ?_
    rw [place, toOption_mapError, ← hclosing, closing]
    cases (items cs).toOption with
    | none => rfl
    | some read =>
      obtain ⟨m, behind⟩ := read
      rw [Option.bind_some, Option.bind_some]
      dsimp only
      cases closeArray behind <;> rfl
  | null | yes | no | string | negative =>
    exact (toOption_mapError _ _).trans (toOption_mismatch _ _)

theorem toOption_parse {text : String} {doc : Value} (h : parseWritten text = .ok doc) :
    (parse text).toOption = tell doc := by
  obtain ⟨⟨_, rest⟩, hread, hrest⟩ := bind_eq_ok (mapError_eq_ok h)
  obtain ⟨_, hfinish, hdone⟩ := bind_eq_ok hrest
  cases hdone
  have hframe : frame text.toList = (message text.toList >>= fun read =>
      (finish read.2).mapError (·.map .text) >>= fun _ => .ok read.1) := rfl
  rw [parse, toOption_mapError, hframe, toOption_bind, toOption_message hread]
  cases tell doc with
  | none => rfl
  | some m =>
    rw [Option.map_some, Option.bind_some, hfinish]
    rfl

end Frames

end ZigbeeBridge.Push
