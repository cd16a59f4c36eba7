import ZigbeeBridge.Json.Parser
import ZigbeeBridge.Proofs.Data.Entries
import ZigbeeBridge.Proofs.Data.Result

/-!
Documents as they are written: their objects hold every member, also where a key is repeated. What
is read of a text is what is written in it, with the members of one key made one.
-/
namespace ZigbeeBridge.Json

open Data Numeral

section Condensing

mutual

/-- A document as it is read: of the members with one key the first place and the last value. -/
def condensed : Value → Value
  | .array vs => .array (condensedItems vs)
  | .object ms => .object (Entries.ofList (condensedMembers ms))
  | v => v

def condensedItems : List Value → List Value
  | [] => []
  | v :: vs => condensed v :: condensedItems vs

def condensedMembers : List (String × Value) → List (String × Value)
  | [] => []
  | (key, v) :: ms => (key, condensed v) :: condensedMembers ms

end

theorem condensedItems_eq (vs : List Value) : condensedItems vs = vs.map condensed := by
  induction vs with
  | nil => rfl
  | cons v vs ih => rw [condensedItems, ih, List.map_cons]

theorem condensedMembers_eq (ms : List (String × Value)) :
    condensedMembers ms = ms.map fun m => (m.1, condensed m.2) := by
  induction ms with
  | nil => rfl
  | cons m ms ih => rw [condensedMembers, ih, List.map_cons]

end Condensing

section Reading

/-- A value, with others to read what stands behind an opening bracket. -/
def valueOf (items members : Char → Reader Flaw Value) : Reader Flaw Value := fun cs =>
  match skipBlank cs with
  | [] => .error (.before .endInValue [])
  | c :: rest =>
    match c with
    | 'n' => do .ok (.null, ← word "ull".toList rest)
    | 't' => do .ok (.bool true, ← word "rue".toList rest)
    | 'f' => do .ok (.bool false, ← word "alse".toList rest)
    | '"' => do
      let (s, rest) ← string rest
      .ok (.string s, rest)
    | '-' => do
      let (n, rest) ← number true rest
      .ok (.number n, rest)
    | '[' => items c rest
    | '\x7b' => members c rest
    | c =>
      if isDigit c then do
        let (n, rest) ← number false (c :: rest)
        .ok (.number n, rest)
      else .error (.next .noValue (c :: rest))

def tooDeep (c : Char) : Reader Flaw Value := fun rest => .error (.next .tooDeep (c :: rest))

/-- A value at most so many levels deep, as written. -/
def written : Nat → Reader Flaw Value
  | 0 => valueOf tooDeep tooDeep
  | depth + 1 =>
    valueOf
      (fun _ rest => do
        let (vs, rest) ← elements (written depth) true (rest.length + 1) rest
        .ok (.array vs, rest))
      (fun _ rest => do
        let (ms, rest) ← pairs (written depth) true (rest.length + 1) rest
        .ok (.object ms, rest))

/-- The document that a text consists of, as written. -/
def parseWritten (text : String) : Except String Value :=
  (do
    let (v, rest) ← written maxDepth text.toList
    finish rest
    .ok v : Except (Fault Flaw) Value).mapError (·.message Flaw.message text)

theorem value_zero : value 0 = valueOf tooDeep tooDeep := by
  funext cs
  unfold value valueOf
  rfl

theorem value_succ (depth : Nat) :
    value (depth + 1) =
      valueOf
        (fun _ rest => do
          let (vs, rest) ← elements (value depth) true (rest.length + 1) rest
          .ok (.array vs, rest))
        (fun _ rest => do
          let (ms, rest) ← pairs (value depth) true (rest.length + 1) rest
          .ok (.object (Entries.ofList ms), rest)) := by
  funext cs
  unfold value valueOf
  rfl

end Reading

section Recasting

variable {α β : Type} {f : α → β} {item : Reader Flaw α} {item' : Reader Flaw β}

/-- One reader finds what another one finds, in another form. -/
def Recasts (f : α → β) (item : Reader Flaw α) (item' : Reader Flaw β) : Prop :=
  ∀ cs, item' cs = (item cs).map fun read => (f read.1, read.2)

theorem elements_recasts (h : Recasts f item item') (first : Bool) (fuel : Nat) :
    Recasts (List.map f) (elements item first fuel) (elements item' first fuel) := by
  induction fuel generalizing first with
  | zero => exact fun cs => rfl
  | succ fuel ih =>
    have hnext : ∀ start, (do
        let read ← item' start
        let more ← elements item' false fuel read.2
        .ok (read.1 :: more.1, more.2)) = Except.map (fun read => (List.map f read.1, read.2)) (do
          let read ← item start
          let more ← elements item false fuel read.2
          .ok (read.1 :: more.1, more.2)) := by
      intro start
      rw [h start]
      cases item start with
      | error e => rfl
      | ok read =>
        simp only [Except.map, bind, Except.bind, ih false read.2]
        cases elements item false fuel read.2 <;> rfl
    intro cs
    unfold elements
    cases skipBlank cs with
    | nil => rfl
    | cons c rest =>
      dsimp only
      split_ifs
      · rfl
      · exact hnext _
      · split
        · rfl
        · rfl
        · exact hnext _
      · rfl

theorem pairs_recasts (h : Recasts f item item') (first : Bool) (fuel : Nat) :
    Recasts (List.map fun m => (m.1, f m.2)) (pairs item first fuel) (pairs item' first fuel) := by
  induction fuel generalizing first with
  | zero => exact fun cs => rfl
  | succ fuel ih =>
    intro cs
    unfold pairs
    cases nextKey first cs with
    | error e => rfl
    | ok next =>
      obtain ⟨key?, rest⟩ := next
      cases key? with
      | none => rfl
      | some key =>
        simp only [bind, Except.bind]
        cases colon rest with
        | error e => rfl
        | ok start =>
          simp only [h start]
          cases item start with
          | error e => rfl
          | ok read =>
            simp only [Except.map, ih false read.2]
            cases pairs item false fuel read.2 <;> rfl

theorem valueOf_recasts {items members items' members' : Char → Reader Flaw Value}
    (hitems : ∀ c, Recasts condensed (items c) (items' c))
    (hmembers : ∀ c, Recasts condensed (members c) (members' c)) :
    Recasts condensed (valueOf items members) (valueOf items' members') := by
  intro cs
  unfold valueOf
  cases skipBlank cs with
  | nil => rfl
  | cons c rest =>
    dsimp only
    split
    · cases word "ull".toList rest <;> rfl
    · cases word "rue".toList rest <;> rfl
    · cases word "alse".toList rest <;> rfl
    · cases string rest <;> rfl
    · cases number true rest <;> rfl
    · exact hitems _ rest
    · exact hmembers _ rest
    · split_ifs
      · cases number false (c :: rest) <;> rfl
      · rfl

theorem value_recasts (depth : Nat) : Recasts condensed (written depth) (value depth) := by
  induction depth with
  | zero =>
    rw [value_zero]
    exact valueOf_recasts (fun _ _ => rfl) (fun _ _ => rfl)
  | succ depth ih =>
    rw [value_succ]
    apply valueOf_recasts
    · intro _ rest
      simp only [elements_recasts ih true (rest.length + 1) rest]
      cases elements (written depth) true (rest.length + 1) rest with
      | error e => rfl
      | ok read => simp [bind, Except.bind, Except.map, condensed, condensedItems_eq]
    · intro _ rest
      simp only [pairs_recasts ih true (rest.length + 1) rest]
      cases pairs (written depth) true (rest.length + 1) rest with
      | error e => rfl
      | ok read => simp [bind, Except.bind, Except.map, condensed, condensedMembers_eq]

/-- Text for text, what is read is what is written, with repeated members made one. -/
theorem parse_eq (text : String) : parse text = (parseWritten text).map condensed := by
  unfold parse parseWritten document
  rw [value_recasts maxDepth text.toList]
  cases written maxDepth text.toList with
  | error e => rfl
  | ok read =>
    simp only [Except.map, bind, Except.bind]
    cases finish read.2 <;> rfl

end Recasting

section Forms

variable {α : Type} {item : Reader Flaw α} {first : Bool} {cs rest : List Char}

/-- The first element of an array starts where the array does, a later one behind a comma. -/
inductive ElementAt : Bool → List Char → List Char → Prop where
  | first {cs : List Char} {c : Char} {rest : List Char} (h : skipBlank cs = c :: rest)
    (hc : c ≠ ']') : ElementAt true cs (c :: rest)
  | later {cs after : List Char} {c : Char} {rest : List Char} (h : skipBlank cs = ',' :: after)
    (hafter : skipBlank after = c :: rest) (hc : c ≠ ']') : ElementAt false cs (c :: rest)

/-- The elements of an array that was read, one after the other. -/
inductive Elements (item : Reader Flaw α) : Bool → List Char → List α → List Char → Prop where
  | close {first : Bool} {cs rest : List Char} (h : skipBlank cs = ']' :: rest) :
    Elements item first cs [] rest
  | next {first : Bool} {cs start after rest : List Char} {x : α} {xs : List α}
    (hstart : ElementAt first cs start) (hitem : item start = .ok (x, after))
    (hrest : Elements item false after xs rest) : Elements item first cs (x :: xs) rest

/-- The members of an object that was read, one after the other. -/
inductive Members (item : Reader Flaw α) :
    Bool → List Char → List (String × α) → List Char → Prop where
  | close {first : Bool} {cs rest : List Char} (h : nextKey first cs = .ok (none, rest)) :
    Members item first cs [] (rest.drop 1)
  | next {first : Bool} {cs behind start after rest : List Char} {key : String} {x : α}
    {ms : List (String × α)} (hkey : nextKey first cs = .ok (some key, behind))
    (hcolon : colon behind = .ok start) (hitem : item start = .ok (x, after))
    (hrest : Members item false after ms rest) : Members item first cs ((key, x) :: ms) rest

theorem elements_of_ok {fuel : Nat} {xs : List α}
    (h : elements item first fuel cs = .ok (xs, rest)) : Elements item first cs xs rest := by
  induction fuel generalizing first cs xs with
  | zero => cases h
  | succ fuel ih =>
    have hnext : ∀ start, ElementAt first cs start →
        (do
          let read ← item start
          let more ← elements item false fuel read.2
          .ok (read.1 :: more.1, more.2)) = Except.ok (xs, rest) →
            Elements item first cs xs rest := by
      intro start hstart h
      obtain ⟨⟨x, after⟩, hitem, h⟩ := bind_eq_ok h
      obtain ⟨⟨ys, _⟩, hrest, hdone⟩ := bind_eq_ok h
      cases hdone
      exact .next hstart hitem (ih hrest)
    unfold elements at h
    split at h
    · cases h
    · rename_i c behind hblank
      split_ifs at h with hclose hfirst hcomma
      · cases h
        exact .close (hclose ▸ hblank)
      · subst hfirst
        exact hnext _ (.first hblank hclose) h
      · rw [Bool.not_eq_true] at hfirst
        subst hfirst hcomma
        split at h
        · cases h
        · cases h
        · rename_i start hempty hclosing
          cases hstart : skipBlank behind with
          | nil => exact absurd hstart hempty
          | cons d after =>
            rw [hstart] at h
            refine hnext _ (.later hblank hstart ?_) h
            rintro rfl
            exact hclosing after hstart

/-- The members are as many as the reader has fuel for, at most. -/
theorem members_of_ok {fuel : Nat} {ms : List (String × α)}
    (h : pairs item first fuel cs = .ok (ms, rest)) :
    Members item first cs ms rest ∧ ms.length < fuel := by
  induction fuel generalizing first cs ms with
  | zero => cases h
  | succ fuel ih =>
    obtain ⟨⟨key?, behind⟩, hkey, h⟩ := bind_eq_ok h
    cases key? with
    | none =>
      cases h
      exact ⟨.close hkey, Nat.succ_pos _⟩
    | some key =>
      obtain ⟨start, hcolon, h⟩ := bind_eq_ok h
      obtain ⟨⟨x, after⟩, hitem, h⟩ := bind_eq_ok h
      obtain ⟨⟨ns, _⟩, hrest, hdone⟩ := bind_eq_ok h
      cases hdone
      obtain ⟨hmembers, hlength⟩ := ih hrest
      exact ⟨.next hkey hcolon hitem hmembers, Nat.succ_lt_succ hlength⟩

/-- How a value is written, by the character that it begins with. -/
inductive Form : Nat → List Char → Value → List Char → Prop where
  | null {depth : Nat} {cs rest : List Char} (h : word "ull".toList cs = .ok rest) :
    Form depth ('n' :: cs) .null rest
  | yes {depth : Nat} {cs rest : List Char} (h : word "rue".toList cs = .ok rest) :
    Form depth ('t' :: cs) (.bool true) rest
  | no {depth : Nat} {cs rest : List Char} (h : word "alse".toList cs = .ok rest) :
    Form depth ('f' :: cs) (.bool false) rest
  | string {depth : Nat} {cs rest : List Char} {s : String} (h : string cs = .ok (s, rest)) :
    Form depth ('"' :: cs) (.string s) rest
  | negative {depth : Nat} {cs rest : List Char} {n : Number}
    (h : number true cs = .ok (n, rest)) : Form depth ('-' :: cs) (.number n) rest
  | digit {depth : Nat} {c : Char} {cs rest : List Char} {n : Number} (hc : isDigit c = true)
    (h : number false (c :: cs) = .ok (n, rest)) : Form depth (c :: cs) (.number n) rest
  | array {depth : Nat} {cs rest : List Char} {vs : List Value}
    (h : Elements (written depth) true cs vs rest) : Form (depth + 1) ('[' :: cs) (.array vs) rest
  | object {depth : Nat} {cs rest : List Char} {ms : List (String × Value)}
    (h : pairs (written depth) true (cs.length + 1) cs = .ok (ms, rest)) :
    Form (depth + 1) ('\x7b' :: cs) (.object ms) rest

theorem form_of_valueOf {depth : Nat} {items members : Char → Reader Flaw Value} {v : Value}
    (hitems : ∀ cs rest, items '[' cs = .ok (v, rest) → Form depth ('[' :: cs) v rest)
    (hmembers : ∀ cs rest, members '\x7b' cs = .ok (v, rest) → Form depth ('\x7b' :: cs) v rest)
    (h : valueOf items members cs = .ok (v, rest)) : Form depth (skipBlank cs) v rest := by
  unfold valueOf at h
  split at h
  · cases h
  · rename_i c behind hblank
    rw [hblank]
    split at h
    · obtain ⟨_, hword, hdone⟩ := bind_eq_ok h
      cases hdone
      exact .null hword
    · obtain ⟨_, hword, hdone⟩ := bind_eq_ok h
      cases hdone
      exact .yes hword
    · obtain ⟨_, hword, hdone⟩ := bind_eq_ok h
      cases hdone
      exact .no hword
    · obtain ⟨_, hstring, hdone⟩ := bind_eq_ok h
      cases hdone
      exact .string hstring
    · obtain ⟨_, hnumber, hdone⟩ := bind_eq_ok h
      cases hdone
      exact .negative hnumber
    · exact hitems _ _ h
    · exact hmembers _ _ h
    · split_ifs at h with hdigit
      obtain ⟨_, hnumber, hdone⟩ := bind_eq_ok h
      cases hdone
      exact .digit hdigit hnumber

theorem form_of_written {depth : Nat} {v : Value} (h : written depth cs = .ok (v, rest)) :
    Form depth (skipBlank cs) v rest := by
  cases depth with
  | zero => exact form_of_valueOf (fun _ _ h => by cases h) (fun _ _ h => by cases h) h
  | succ depth =>
    refine form_of_valueOf ?_ ?_ h
    · intro cs rest h
      obtain ⟨_, hitems, hdone⟩ := bind_eq_ok h
      cases hdone
      exact .array (elements_of_ok hitems)
    · intro cs rest h
      obtain ⟨_, hmembers, hdone⟩ := bind_eq_ok h
      cases hdone
      exact .object hmembers

end Forms

end ZigbeeBridge.Json
