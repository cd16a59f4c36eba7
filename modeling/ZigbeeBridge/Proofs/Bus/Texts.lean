import ZigbeeBridge.Cli.Errand
import ZigbeeBridge.Proofs.Bus.Report
import ZigbeeBridge.Proofs.Data.Entries
import ZigbeeBridge.Proofs.Text.Integer

/-!
What a command takes from an event are texts. A number or a truth value counts as its text does,
the order in which attributes were set does not count, and neither does white space around a
number.
-/
namespace ZigbeeBridge.Bus

open Data

section Readings

/-- A value is read as the integer that its text stands for, if it stands for one. -/
theorem Attribute.int?_eq (value : Attribute) :
    value.int? = Text.int64? (Text.trim value.toText) := by
  cases value with
  | text s => rfl
  | int n =>
    have htext : (Attribute.int n).toText = toString n.toInt := rfl
    rw [htext, Text.trim_toString, Text.int64?_toString]
    rfl
  | bool b => cases b <;> rfl

variable (event : Event)

theorem Event.int?_eq (key : String) :
    event.int? key = (event.text? key).bind fun s => Text.int64? (Text.trim s) := by
  unfold Event.int? Event.text?
  cases event.get? key with
  | none => rfl
  | some value => exact Attribute.int?_eq value

/-- The attributes by their texts. -/
def Event.texts : Entries String := event.attributes.map fun pair => (pair.1, pair.2.toText)

theorem Event.get?_texts (key : String) : event.texts.get? key = event.text? key :=
  Entries.get?_map Attribute.toText event.attributes key

end Readings

section Same

def numberNames : List String :=
  [Attribute.brightness, Attribute.hue, Attribute.saturation, Attribute.temperature]

/-- A text with white space in front of it and behind it, or with none. -/
def Padded (core s : String) : Prop :=
  ∃ front back, Text.isAllBlank front = true ∧ Text.isAllBlank back = true ∧
    s = front ++ core ++ back

/-- Texts that no command tells apart: the same, or the same number with other white space. -/
inductive SameText (key : String) : String → String → Prop where
  | same (s : String) : SameText key s s
  | padded (core s t : String) (hkey : key ∈ numberNames) (hs : Padded core s)
    (ht : Padded core t) : SameText key s t

/-- Events of one kind and direction whose attributes have the same texts, key by key. -/
structure SameTexts (a b : Event) : Prop where
  kind : a.kind = b.kind
  direction : a.direction = b.direction
  texts : ∀ key, Option.Rel (SameText key) (a.text? key) (b.text? key)

theorem Padded.trim_eq {core s : String} (h : Padded core s) : Text.trim s = Text.trim core := by
  obtain ⟨front, back, hfront, hback, rfl⟩ := h
  exact Text.trim_padded core hfront hback

theorem SameText.trim_eq {key s t : String} (h : SameText key s t) :
    Text.trim s = Text.trim t := by
  cases h with
  | same => rfl
  | padded core _ _ _ hs ht => rw [hs.trim_eq, ht.trim_eq]

variable {a b : Event}

namespace SameTexts

variable (h : SameTexts a b)
include h

theorem text?_eq {key : String} (hkey : key ∉ numberNames) : a.text? key = b.text? key := by
  have hrel := h.texts key
  generalize a.text? key = s, b.text? key = t at hrel
  cases hrel with
  | none => rfl
  | some hsame =>
    cases hsame with
    | same => rfl
    | padded _ _ _ hnumber => exact absurd hnumber hkey

theorem int?_eq (key : String) : a.int? key = b.int? key := by
  have hrel := h.texts key
  rw [Event.int?_eq, Event.int?_eq]
  generalize a.text? key = s, b.text? key = t at hrel
  cases hrel with
  | none => rfl
  | some hsame => simp [hsame.trim_eq]

theorem ofEvent?_eq : Command.ofEvent? a = Command.ofEvent? b := by
  have hid : a.id? = b.id? := h.text?_eq (by decide)
  have hbrightness : Command.brightness a = Command.brightness b := by
    unfold Command.brightness
    rw [h.int?_eq]
  have hcolor : Command.color a = Command.color b := by
    unfold Command.color
    simp only [h.int?_eq]
  have hchange : Command.change? a = Command.change? b := by
    unfold Command.change?
    rw [h.text?_eq (by decide), hbrightness, hcolor]
  unfold Command.ofEvent?
  rw [h.kind, h.direction, hid, hchange]

end SameTexts

theorem SameTexts.of_text? (hkind : a.kind = b.kind) (hdirection : a.direction = b.direction)
    (htext : ∀ key, a.text? key = b.text? key) : SameTexts a b where
  kind := hkind
  direction := hdirection
  texts key := by
    rw [htext]
    cases b.text? key with
    | none => exact .none
    | some s => exact .some (.same s)

theorem SameTexts.of_perm (hkind : a.kind = b.kind) (hdirection : a.direction = b.direction)
    (hkeys : a.attributes.keys.Nodup) (hperm : a.texts.Perm b.texts) : SameTexts a b := by
  have hnodup : a.texts.keys.Nodup := by
    have hsame : a.texts.keys = a.attributes.keys := by
      simp [Event.texts, Entries.keys, Function.comp_def]
    rwa [hsame]
  apply SameTexts.of_text? hkind hdirection
  intro key
  rw [← Event.get?_texts, ← Event.get?_texts]
  exact Entries.get?_perm hnodup hperm key

theorem Event.text?_set (event : Event) (key : String) (value : Attribute) (other : String) :
    (event.set key value).text? other =
      if key = other then some value.toText else event.text? other := by
  unfold Event.text? Event.get? Event.set
  rw [Entries.get?_put]
  split <;> rfl

theorem SameTexts.set (event : Event) {key : String} {value other : Attribute}
    (hsame : SameText key value.toText other.toText) :
    SameTexts (event.set key value) (event.set key other) where
  kind := rfl
  direction := rfl
  texts name := by
    rw [Event.text?_set, Event.text?_set]
    split
    · rename_i hname
      exact .some (hname ▸ hsame)
    · cases event.text? name with
      | none => exact .none
      | some s => exact .some (.same s)

end Same

section Orders

def Attribute.spelled (value : Attribute) : Attribute := .text value.toText

theorem Event.text?_setAll_spelled (pairs : List (String × Attribute)) (event other : Event)
    (htext : ∀ key, event.text? key = other.text? key) (key : String) :
    (event.setAll (pairs.map fun pair => (pair.1, pair.2.spelled))).text? key =
      (other.setAll pairs).text? key := by
  induction pairs generalizing event other with
  | nil => exact htext key
  | cons pair rest ih =>
    apply ih (event.set pair.1 pair.2.spelled) (other.set pair.1 pair.2)
    intro name
    rw [text?_set, text?_set, htext]
    rfl

/-- The event that gives the command of an order with its numbers as texts. -/
def written (order : Cli.SwitchOrder) : Event :=
  let numbers := [(Attribute.brightness, order.brightness),
    (Attribute.temperature, order.temperature), (Attribute.hue, order.hue),
    (Attribute.saturation, order.saturation)]
  ((Event.outbound order.kind order.id).set Attribute.command
    (.text (if order.on then "On" else "Off"))).setAll
    (numbers.filterMap fun pair => pair.2.map fun n => (pair.1, .text (toString n)))

theorem sameTexts_written (order : Cli.SwitchOrder) : SameTexts (written order) order.event := by
  apply SameTexts.of_text?
  · rw [written, Cli.SwitchOrder.event, Event.kind_setAll, Event.kind_setAll]
  · rw [written, Cli.SwitchOrder.event, Event.direction_setAll, Event.direction_setAll]
  · intro key
    unfold written Cli.SwitchOrder.event
    refine Eq.trans ?_ (Event.text?_setAll_spelled _ _ _ (fun _ => rfl) key)
    rw [List.map_filterMap]
    simp only [Option.map_map]
    rfl

end Orders

/-- Events with the same texts stand for the same command, in whatever order their attributes were
set. So does an order of the command line and the same order with its numbers as texts. -/
theorem ofEvent?_of_sameTexts (a b : Event) :
    (SameTexts a b → Command.ofEvent? a = Command.ofEvent? b) ∧
      (a.kind = b.kind → a.direction = b.direction → a.attributes.keys.Nodup →
        a.texts.Perm b.texts → Command.ofEvent? a = Command.ofEvent? b) ∧
      ∀ order : Cli.SwitchOrder,
        Command.ofEvent? (written order) = Command.ofEvent? order.event := by
  refine ⟨fun hsame => hsame.ofEvent?_eq, ?_, fun order => (sameTexts_written order).ofEvent?_eq⟩
  intro hkind hdirection hkeys hperm
  exact (SameTexts.of_perm hkind hdirection hkeys hperm).ofEvent?_eq

/-- A hue that is no number and a brightness with blanks, among attributes in another order. -/
theorem ofEvent?_of_sameTexts_spaced :
    let on : Event := (Event.outbound .light "3").set Attribute.command (.text "On")
    let full := on.setAll [(Attribute.hue, .bool true), (Attribute.saturation, .int 254)]
    let other : Event := ⟨.light, .outbound, [(Attribute.saturation, .text "254"),
      (Attribute.command, .text "On"), (Attribute.hue, .text "true"), (Attribute.id, .text "3")]⟩
    SameTexts (full.set Attribute.brightness (.int 120))
        (full.set Attribute.brightness (.text "\t120 ")) ∧
      Command.ofEvent? (full.set Attribute.brightness (.text "\t120 ")) =
        some ⟨.light, "3", .on (some 120) (.hueSat 0 254)⟩ ∧
      full.texts.Perm other.texts ∧
      Command.ofEvent? other = some ⟨.light, "3", .on none (.hueSat 0 254)⟩ := by
  intro on full other
  have hpadded : SameTexts (full.set Attribute.brightness (.int 120))
      (full.set Attribute.brightness (.text "\t120 ")) :=
    .set full (.padded "120" _ _ (by decide) ⟨"", "", rfl, rfl, rfl⟩ ⟨"\t", " ", rfl, rfl, rfl⟩)
  have hperm : full.texts.Perm other.texts := by decide
  have hspaced := (ofEvent?_of_sameTexts _ _).1 hpadded
  have hother := (ofEvent?_of_sameTexts full other).2.1 rfl rfl (by decide) hperm
  exact ⟨hpadded, hspaced.symm.trans rfl, hperm, hother.symm.trans rfl⟩

end ZigbeeBridge.Bus
