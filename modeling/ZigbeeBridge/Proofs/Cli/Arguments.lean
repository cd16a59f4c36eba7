import ZigbeeBridge.Cli.Arguments
import ZigbeeBridge.Proofs.Text.Integer
import ZigbeeBridge.Proofs.Text.Span

/-!
What the arguments order. There is an order only when the reading gets to the end of them, and then
it is one that the last command gives. A light or a group can be ordered to take any values at all.
-/
namespace ZigbeeBridge.Cli

open Data

section Orders

variable (s : Scan)

def Reading.IsOrder : Reading → Prop
  | .order _ _ => True
  | .help _ | .version _ | .refused => False

/-- A step that gives no order. -/
def Step.Orderless (step : Step) : Prop := ∀ reading, step = .finished reading → ¬reading.IsOrder

namespace Step

theorem orderless_next : (next s).Orderless := fun _ h => nomatch h

theorem orderless_wait (take : String → Option Scan) : (wait s take).Orderless :=
  fun _ h => nomatch h

theorem orderless_finished {reading : Reading} (h : ¬reading.IsOrder) :
    (finished reading).Orderless := by
  rintro _ ⟨⟩
  exact h

theorem orderless_ofScan? (s? : Option Scan) : (ofScan? s?).Orderless := by
  cases s? with
  | none => exact orderless_finished id
  | some s => exact orderless_next s

theorem orderless_long (name : String) (value : Option String) : (long s name value).Orderless := by
  unfold long
  split
  · exact orderless_finished id
  · split
    · exact orderless_finished id
    · exact orderless_finished id
    · exact orderless_next s
    · exact orderless_ofScan? _
    · exact orderless_ofScan? _
    · exact orderless_wait s _
    · exact orderless_finished id

theorem orderless_letters (cs : List Char) : (letters s cs).Orderless := by
  fun_induction letters s cs with
  | case1 s => exact orderless_next s
  | case2 => exact orderless_finished id
  | case3 => exact orderless_finished id
  | case4 => exact orderless_finished id
  | case5 _ _ _ _ _ _ ih => exact ih
  | case6 _ _ _ _ _ _ _ _ _ ih => exact ih
  | case7 => exact orderless_finished id
  | case8 s => exact orderless_wait s _
  | case9 => exact orderless_ofScan? _
  | case10 => exact orderless_ofScan? _

theorem orderless_ofArgument (arg : String) : (ofArgument s arg).Orderless := by
  unfold ofArgument
  split
  · exact orderless_ofScan? _
  · split
    · exact orderless_next _
    · dsimp only
      split
      · exact orderless_long s _ _
      · exact orderless_long s _ _
    · exact orderless_letters s _
    · exact orderless_ofScan? _

end Step

theorem not_isOrder_helpOn (level : Level) (names : List String) :
    ¬(helpOn level names).IsOrder := by
  fun_induction helpOn level names with
  | case1 => exact id
  | case2 _ _ _ _ _ ih => exact ih
  | case3 => exact id

/-- An order is what the command that was named last makes of its arguments. -/
theorem exists_order?_of_scan (environment : Entries String) (args : List String)
    (options : Options) (order : Order) (hscan : scan environment args s = .order options order) :
    ∃ (level : Level) (draft : Draft), level.order? draft = some order := by
  -- Only where no argument is left does the reading itself make an order.
  fun_induction scan environment args s with
  | case1 s =>
    unfold Scan.finish at hscan
    split at hscan
    · cases hscan
    · split at hscan
      · rename_i found hfound
        cases hscan
        exact ⟨s.level, s.draft, hfound⟩
      · cases hscan
  | case2 _ args s => exact absurd (hscan ▸ trivial) (not_isOrder_helpOn s.level args)
  | case3 _ _ _ _ _ _ ih => exact ih hscan
  | case4 _ _ _ _ _ _ ih => exact ih hscan
  | case5 arg _ s _ reading hstep =>
    exact absurd (hscan ▸ trivial) (Step.orderless_ofArgument s arg reading hstep)
  | case6 => cases hscan
  | case7 => cases hscan
  | case8 _ _ _ _ _ _ _ _ _ _ _ ih => exact ih hscan
  | case9 => cases hscan

/-- Only a light or a group is switched. -/
theorem kind_of_readArguments (environment : Entries String) (args : List String)
    (options : Options) (order : SwitchOrder)
    (hread : readArguments environment args = .order options (.switch order)) :
    order.kind = .light ∨ order.kind = .group := by
  obtain ⟨level, draft, horder⟩ := exists_order?_of_scan .start environment args options _ hread
  cases level with
  | light =>
    cases horder
    exact .inl rfl
  | group =>
    cases horder
    exact .inr rfl
  | _ => cases horder

end Orders

section Lines

/-- An option with its value in one argument. -/
def assignment (name value : String) : String := "--" ++ name ++ "=" ++ value

/-- An option for a number, and the number if there is one. -/
structure NumberOption where
  name : String
  set : Int64 → Draft → Draft
  number : Option Int64

def NumberOption.arguments (o : NumberOption) : List String :=
  (o.number.map fun n => assignment o.name (toString n)).toList

namespace SwitchOrder

variable (order : SwitchOrder)

def numberOptions : List NumberOption :=
  [⟨"bri", fun n d => { d with brightness := some n }, order.brightness⟩,
   ⟨"ct", fun n d => { d with temperature := some n }, order.temperature⟩,
   ⟨"hue", fun n d => { d with hue := some n }, order.hue⟩,
   ⟨"sat", fun n d => { d with saturation := some n }, order.saturation⟩]

/-- The arguments that order a light or a group to be switched. -/
def arguments : List String :=
  (if order.kind = .group then "group" else "light") ::
    (order.numberOptions.flatMap NumberOption.arguments ++
      ["--", order.id, if order.on then "on" else "off"])

end SwitchOrder

variable (environment : Entries String) (s : Scan)

theorem Step.ofArgument_assignment (hwords : s.onlyWords = false) {name : String}
    (hname : '=' ∉ name.toList) (value : String) :
    Step.ofArgument s (assignment name value) = Step.long s name (some value) := by
  have hchars : (assignment name value).toList =
      '-' :: '-' :: (name.toList ++ '=' :: value.toList) := by
    simp [assignment]
  unfold Step.ofArgument
  rw [hwords, hchars, if_neg Bool.false_ne_true]
  split
  · rename_i hnil
    simp at hnil
  · rename_i hcons
    cases hcons
    rw [Text.takeWhile_ne_mark hname, Text.dropWhile_ne_mark hname, String.ofList_toList]
    dsimp only
    rw [String.ofList_toList]
  · rename_i hother hcons
    cases hcons
    exact absurd rfl hother
  · rename_i hother _
    exact absurd rfl (hother _)

/-- Where no command can come, an argument that is read leaves the rest of them. -/
theorem scan_next {s' : Scan} {arg : String} (hchildren : s.level.children = [])
    (hstep : Step.ofArgument s arg = .next s') (args : List String) :
    scan environment (arg :: args) s = scan environment args s' := by
  have hnone : (if s.onlyWords then none else s.level.children.get? arg) = none := by
    rw [hchildren]
    exact ite_self none
  conv =>
    lhs
    unfold scan
  rw [hnone, hstep]

/-- The reading after an option for a number. -/
def Scan.taking (o : NumberOption) : Scan :=
  match o.number with
  | none => s
  | some n => { s with seen := o.name :: s.seen, draft := o.set n s.draft }

/-- An option of this level that takes any number. -/
structure NumberOption.OfLevel (o : NumberOption) (level : Level) : Prop where
  found : ∃ letter, level.flags.find? (·.long = o.name) =
    some ⟨o.name, letter, Flag.read Text.int64? o.set⟩
  plain : '=' ∉ o.name.toList

@[simp] theorem Scan.level_taking (o : NumberOption) : (s.taking o).level = s.level := by
  unfold taking
  split <;> rfl

@[simp] theorem Scan.onlyWords_taking (o : NumberOption) :
    (s.taking o).onlyWords = s.onlyWords := by
  unfold taking
  split <;> rfl

theorem Scan.mem_seen_taking {o : NumberOption} {name : String}
    (hname : name ∈ (s.taking o).seen) : name = o.name ∨ name ∈ s.seen := by
  unfold taking at hname
  split at hname
  · exact .inr hname
  · exact List.mem_cons.mp hname

theorem scan_taking {o : NumberOption} (ho : o.OfLevel s.level) (hchildren : s.level.children = [])
    (hwords : s.onlyWords = false) (hseen : o.name ∉ s.seen) (args : List String) :
    scan environment (o.arguments ++ args) s = scan environment args (s.taking o) := by
  obtain ⟨name, set, number⟩ := o
  obtain ⟨⟨letter, hfound⟩, hplain⟩ := ho
  cases number with
  | none => rfl
  | some n =>
    have hread : Text.int64? (toString n) = some n := Text.int64?_toString n
    have hstep : Step.ofArgument s (assignment name (toString n)) =
        .next (s.taking ⟨name, set, some n⟩) := by
      rw [Step.ofArgument_assignment s hwords hplain]
      unfold Step.long
      rw [hfound]
      simp [Flag.read, Scan.give?, Scan.note?, hseen, hread, Step.ofScan?, Scan.taking]
    exact scan_next environment s hchildren hstep args

theorem scan_numberOptions (os : List NumberOption) (hos : ∀ o ∈ os, o.OfLevel s.level)
    (hchildren : s.level.children = []) (hwords : s.onlyWords = false)
    (hnames : (os.map NumberOption.name).Nodup) (hseen : ∀ o ∈ os, o.name ∉ s.seen)
    (args : List String) :
    scan environment (os.flatMap NumberOption.arguments ++ args) s =
      scan environment args (os.foldl Scan.taking s) := by
  induction os generalizing s with
  | nil => rfl
  | cons o os ih =>
    rw [List.map_cons, List.nodup_cons] at hnames
    have hrest : ∀ other ∈ os, other.name ∉ (s.taking o).seen := by
      intro other hother hmem
      rcases s.mem_seen_taking hmem with hsame | hbefore
      · exact hnames.1 (hsame ▸ List.mem_map_of_mem hother)
      · exact hseen other (List.mem_cons_of_mem o hother) hbefore
    rw [List.flatMap_cons, List.append_assoc,
      scan_taking environment s (hos o List.mem_cons_self) hchildren hwords
        (hseen o List.mem_cons_self)]
    refine ih (s.taking o) ?_ ?_ ?_ hnames.2 hrest
    · intro other hother
      rw [Scan.level_taking]
      exact hos other (List.mem_cons_of_mem o hother)
    · rw [Scan.level_taking, hchildren]
    · rw [Scan.onlyWords_taking, hwords]

theorem ofLevel_numberOptions (order : SwitchOrder) {level : Level}
    (hlevel : level = .light ∨ level = .group) :
    ∀ o ∈ order.numberOptions, o.OfLevel level := by
  have hflags : level.flags = Flag.ofSwitch ++ Flag.common := by
    rcases hlevel with rfl | rfl <;> rfl
  simp only [SwitchOrder.numberOptions, List.forall_mem_cons, List.not_mem_nil, false_implies,
    implies_true, and_true]
  refine ⟨⟨⟨'b', ?_⟩, by simp⟩, ⟨⟨none, ?_⟩, by simp⟩, ⟨⟨none, ?_⟩, by simp⟩,
    ⟨⟨none, ?_⟩, by simp⟩⟩
  all_goals
    rw [hflags]
    rfl

/-- After two dashes an id may look like anything. -/
theorem scan_words (hlevel : s.level = .light ∨ s.level = .group) (hwords : s.onlyWords = false)
    (hnone : s.words = 0) (id : String) (on : Bool) :
    scan environment ["--", id, if on then "on" else "off"] s =
      .order (s.draft.options environment)
        (.switch (Level.switchOrder (if s.level = .group then .group else .light)
          { s.draft with id, on })) := by
  obtain ⟨level, draft, seen, words, onlyWords⟩ := s
  cases hwords
  cases hnone
  rcases hlevel with hlevel | hlevel
  all_goals
    cases hlevel
    cases on <;> rfl

/-- Options that gave no number leave a value out. -/
theorem foldl_taking_numberOptions (order : SwitchOrder) (level : Level) :
    order.numberOptions.foldl Scan.taking (Scan.start.descend level) =
      { level
        draft :=
          { brightness := order.brightness, temperature := order.temperature, hue := order.hue,
            saturation := order.saturation }
        seen := (order.numberOptions.filter fun o => o.number.isSome).reverse.map NumberOption.name
        words := 0
        onlyWords := false } := by
  obtain ⟨kind, id, on, brightness, temperature, hue, saturation⟩ := order
  cases brightness <;> cases temperature <;> cases hue <;> cases saturation <;> rfl

/-- Every order for a light or a group has arguments that give it, whatever its values. -/
theorem readArguments_arguments (order : SwitchOrder)
    (hkind : order.kind = .light ∨ order.kind = .group) :
    readArguments environment order.arguments =
      .order (({} : Draft).options environment) (.switch order) := by
  have hscan : ∀ level : Level, level = .light ∨ level = .group →
      scan environment (order.numberOptions.flatMap NumberOption.arguments ++
          ["--", order.id, if order.on then "on" else "off"]) (Scan.start.descend level) =
        .order (({} : Draft).options environment)
          (.switch { order with kind := if level = .group then .group else .light }) := by
    intro level hlevel
    have hnumbers := scan_numberOptions environment (Scan.start.descend level) order.numberOptions
      (ofLevel_numberOptions order hlevel)
      (by rcases hlevel with rfl | rfl <;> rfl) rfl
      (by decide : ["bri", "ct", "hue", "sat"].Nodup) (fun _ _ => List.not_mem_nil)
    rw [hnumbers, foldl_taking_numberOptions, scan_words environment _ hlevel rfl rfl]
    rfl
  obtain ⟨kind, id, on, brightness, temperature, hue, saturation⟩ := order
  rcases hkind with hkind | hkind
  · cases hkind
    exact hscan .light (.inl rfl)
  · cases hkind
    exact hscan .group (.inr rfl)

/-- A lamp to be dimmed, with a saturation that no lamp has. -/
def dimOrder : SwitchOrder := ⟨.light, "3", true, some 80, none, none, some (-1)⟩

example : dimOrder.arguments = ["light", "--bri=80", "--sat=-1", "--", "3", "on"] := by
  decide

end Lines

end ZigbeeBridge.Cli
