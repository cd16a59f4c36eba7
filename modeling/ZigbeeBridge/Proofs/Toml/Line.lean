import ZigbeeBridge.Proofs.Text.Integer
import ZigbeeBridge.Proofs.Text.Span
import ZigbeeBridge.Proofs.Toml.Text
import ZigbeeBridge.Toml.Parser

/-!
The lines of a document are read as what they were written for: a header opens its table, and any
other line gives a key its scalar.
-/
namespace ZigbeeBridge.Toml

open Data

section Keys

theorem isBareKey_eq (c : Char) : isBareKey c = isBare c := by
  have hlower : c.isLower = ('a' ≤ c && c ≤ 'z') := rfl
  have hupper : c.isUpper = ('A' ≤ c && c ≤ 'Z') := Bool.decide_and _ _
  have hdigit : c.isDigit = ('0' ≤ c && c ≤ '9') := rfl
  unfold isBareKey isBare Char.isAlphanum Char.isAlpha
  rw [hlower, hupper, hdigit, Bool.or_comm ('A' ≤ c && c ≤ 'Z')]

theorem exists_keyText (name : String) : ∃ c cs, (keyText name).toList = c :: cs ∧
    (c = '"' ∨ c = '\'' ∨ isBareKey c = true) := by
  have hbasic : ∀ cs, ∃ c rest, (String.ofList (basic cs)).toList = c :: rest ∧
      (c = '"' ∨ c = '\'' ∨ isBareKey c = true) := fun cs =>
    ⟨'"', _, String.toList_ofList, Or.inl rfl⟩
  unfold keyText
  dsimp only
  split
  · rename_i hbare
    rw [Bool.and_eq_true, Bool.not_eq_true', List.isEmpty_eq_false_iff] at hbare
    obtain ⟨c, cs, hname⟩ := List.exists_cons_of_ne_nil hbare.1
    have hall := hbare.2
    rw [hname, List.all_cons, Bool.and_eq_true, ← isBareKey_eq] at hall
    exact ⟨c, cs, hname, Or.inr (Or.inr hall.1)⟩
  split
  · exact hbasic _
  split
  · exact ⟨'\'', _, String.toList_ofList, Or.inr (Or.inl rfl)⟩
  · exact hbasic _

theorem key_basic (cs rest : List Char) :
    key (basic cs ++ rest) = .ok (String.ofList cs, rest) := by
  have hlength := length_escaped cs 0
  have hread := basicBody_escaped cs rest 0 ((escaped false 0 0 cs ++ '"' :: rest).length + 1)
    (by rw [List.length_append]; omega)
  have hshape : basic cs ++ rest = '"' :: (escaped false 0 0 cs ++ '"' :: rest) := by
    unfold basic
    simp
  rw [hshape]
  show (basicBody _ _ >>= fun read => .ok (String.ofList read.1, read.2)) = _
  rw [hread]
  rfl

theorem key_literal (cs rest : List Char) (hinside : ∀ c ∈ cs, c ≠ '\'' ∧ isControl c = false) :
    key (literal cs ++ rest) = .ok (String.ofList cs, rest) := by
  have hread := literalBody_literal cs rest hinside
  have hshape : literal cs ++ rest = '\'' :: (cs ++ '\'' :: rest) := by
    unfold literal
    simp
  rw [hshape]
  show (literalBody _ >>= fun read => .ok (String.ofList read.1, read.2)) = _
  rw [hread]
  rfl

theorem key_bare {cs rest : List Char} (hcs : cs ≠ []) (hbare : ∀ c ∈ cs, isBareKey c = true)
    (hrest : ∀ c later, rest = c :: later → isBareKey c = false) :
    key (cs ++ rest) = .ok (String.ofList cs, rest) := by
  have hstop : ∀ c ∈ rest.head?, isBareKey c = false := by
    intro c hc
    obtain ⟨later, hlater⟩ := List.head?_eq_some_iff.mp hc
    exact hrest c later hlater
  have htake : (cs ++ rest).takeWhile isBareKey = cs := Text.takeWhile_stop hbare hstop
  have hdrop : (cs ++ rest).dropWhile isBareKey = rest := Text.dropWhile_stop hbare hstop
  obtain ⟨c, later, rfl⟩ := List.exists_cons_of_ne_nil hcs
  unfold key
  split
  · rename_i heq
    cases heq
    exact absurd (hbare _ List.mem_cons_self) (by decide)
  · rename_i heq
    cases heq
    exact absurd (hbare _ List.mem_cons_self) (by decide)
  · rw [htake, hdrop]

/-- A key is read back, whichever form is chosen for it. -/
theorem key_keyText (name : String) {rest : List Char}
    (hrest : ∀ c later, rest = c :: later → isBareKey c = false) :
    key ((keyText name).toList ++ rest) = .ok (name, rest) := by
  have hback : String.ofList name.toList = name := String.ofList_toList
  unfold keyText
  dsimp only
  split
  · rename_i hbare
    rw [Bool.and_eq_true, Bool.not_eq_true', List.isEmpty_eq_false_iff, List.all_eq_true] at hbare
    rw [key_bare hbare.1 (fun c hc => by rw [isBareKey_eq]; exact hbare.2 c hc) hrest, hback]
  split
  · rw [String.toList_ofList, key_basic, hback]
  split
  · rename_i hform
    simp only [Bool.and_eq_true, Bool.not_eq_true', List.any_eq_false] at hform
    obtain ⟨⟨hplain, hbreaks⟩, hquote⟩ := hform
    have hinside : ∀ c ∈ name.toList, c ≠ '\'' ∧ isControl c = false := by
      intro c hc
      have hne : ∀ d, name.toList.contains d = false → c ≠ d := by
        rintro d hd rfl
        rw [List.contains_iff_mem.mpr hc] at hd
        exact absurd hd (by decide)
      exact ⟨hne _ hquote, isControl_of_plain (by simpa using hplain c hc) (hne _ hbreaks)⟩
    rw [String.toList_ofList, key_literal _ _ hinside, hback]
  · rw [String.toList_ofList, key_basic, hback]

theorem skipBlank_of_not_isBlank {c : Char} (hc : isBlank c = false) (cs : List Char) :
    skipBlank (c :: cs) = c :: cs :=
  List.dropWhile_cons_of_neg (by simp [hc])

/-- The characters that stand for a path. -/
def pathText (path : List String) : List Char := (".".intercalate (path.map keyText)).toList

theorem pathText_singleton (name : String) : pathText [name] = (keyText name).toList := by
  unfold pathText
  rw [List.map_singleton, String.intercalate_singleton]

theorem pathText_cons (name : String) {path : List String} (hpath : path ≠ []) :
    pathText (name :: path) = (keyText name).toList ++ '.' :: pathText path := by
  have hmap : path.map keyText ≠ [] := by simpa using hpath
  unfold pathText
  rw [List.map_cons, String.intercalate_cons_of_ne_nil hmap]
  simp

theorem exists_pathText {path : List String} (hpath : path ≠ []) :
    ∃ c cs, pathText path = c :: cs ∧ (c = '"' ∨ c = '\'' ∨ isBareKey c = true) := by
  obtain ⟨name, path, rfl⟩ := List.exists_cons_of_ne_nil hpath
  obtain ⟨c, cs, hname, hc⟩ := exists_keyText name
  by_cases hone : path = []
  · subst hone
    exact ⟨c, cs, by rw [pathText_singleton, hname], hc⟩
  · exact ⟨c, _, by rw [pathText_cons name hone, hname, List.cons_append], hc⟩

theorem length_pathText (path : List String) : path.length ≤ (pathText path).length := by
  induction path with
  | nil => exact Nat.zero_le _
  | cons name path ih =>
    obtain ⟨c, cs, hname, -⟩ := exists_keyText name
    by_cases hone : path = []
    · subst hone
      rw [pathText_singleton, hname]
      simp
    · rw [pathText_cons name hone, List.length_append, List.length_cons, List.length_cons]
      omega

theorem isBlank_of_opens {c : Char} (hc : c = '"' ∨ c = '\'' ∨ isBareKey c = true) :
    isBlank c = false := by
  rcases hc with rfl | rfl | hbare
  · decide
  · decide
  · unfold isBlank
    rw [Bool.or_eq_false_iff, beq_eq_false_iff_ne, beq_eq_false_iff_ne]
    constructor <;>
      · rintro rfl
        exact absurd hbare (by decide)

theorem skipBlank_keyText (name : String) (cs : List Char) :
    skipBlank ((keyText name).toList ++ cs) = (keyText name).toList ++ cs := by
  obtain ⟨c, later, hname, hc⟩ := exists_keyText name
  rw [hname, List.cons_append]
  exact skipBlank_of_not_isBlank (isBlank_of_opens hc) _

/-- The names of a path are read up to what is neither part of a name nor a dot. -/
theorem keyPath_pathText {path : List String} (hpath : path ≠ []) {rest after : List Char}
    (hrest : ∀ c later, rest = c :: later → isBareKey c = false)
    (hafter : skipBlank rest = after) (hdot : ∀ later, after ≠ '.' :: later) (fuel : Nat)
    (hfuel : path.length ≤ fuel) : keyPath fuel (pathText path ++ rest) = .ok (path, after) := by
  induction path generalizing fuel with
  | nil => exact absurd rfl hpath
  | cons name path ih =>
    obtain ⟨fuel, rfl⟩ := Nat.exists_eq_succ_of_ne_zero
      (Nat.ne_zero_of_lt (Nat.lt_of_succ_le hfuel))
    rw [keyPath]
    by_cases hone : path = []
    · subst hone
      rw [pathText_singleton, skipBlank_keyText, key_keyText name hrest]
      dsimp only [bind, Except.bind]
      rw [hafter]
      split
      · rename_i later
        exact absurd rfl (hdot later)
      · rfl
    · have hlater : ∀ c later, '.' :: (pathText path ++ rest) = c :: later →
          isBareKey c = false := by
        rintro c later ⟨⟩
        decide
      have hread := ih hone fuel (Nat.le_of_succ_le_succ hfuel)
      rw [pathText_cons name hone, List.append_assoc, List.cons_append, skipBlank_keyText,
        key_keyText name hlater]
      show (keyPath fuel (pathText path ++ rest) >>= fun read => .ok (name :: read.1, read.2)) = _
      rw [hread]
      rfl

end Keys

section Scalars

/-- An integer is written with these. -/
theorem isWordChar_of_isDigit {c : Char} (hc : c.isDigit = true) : isWordChar c = true := by
  have hdigit : Numeral.isDigit c = true := hc
  unfold isWordChar
  rw [hdigit]
  rfl

theorem wordLength_append {word : List Char} (hword : ∀ c ∈ word, isWordChar c = true)
    (rest : List Char) : wordLength (word ++ '\n' :: rest) = word.length := by
  have htake : (word ++ '\n' :: rest).takeWhile isWordChar = word :=
    Text.takeWhile_stop hword (by rintro _ ⟨⟩; rfl)
  unfold wordLength
  dsimp only
  rw [htake, List.drop_left]
  rfl

/-- A word is read as the scalar that it spells. -/
theorem value_word {word : List Char} {v : Value} (hne : word ≠ [])
    (hword : ∀ c ∈ word, isWordChar c = true) (hv : scalar? word = some v) (depth : Nat)
    (rest : List Char) : value depth (word ++ '\n' :: rest) = .ok (v, '\n' :: rest) := by
  obtain ⟨c, cs, rfl⟩ := List.exists_cons_of_ne_nil hne
  have hc := hword c List.mem_cons_self
  have hlength := wordLength_append hword rest
  have hmarks : c ≠ '[' ∧ c ≠ '\x7b' ∧ c ≠ '"' ∧ c ≠ '\'' := by
    refine ⟨?_, ?_, ?_, ?_⟩ <;>
      · rintro rfl
        exact absurd hc (by decide)
  unfold value
  split
  · rename_i heq
    exact absurd (List.cons.inj heq).1 hmarks.1
  · rename_i heq
    exact absurd (List.cons.inj heq).1 hmarks.2.1
  · rename_i heq
    exact absurd (List.cons.inj heq).1 hmarks.2.2.1
  · rename_i heq
    exact absurd (List.cons.inj heq).1 hmarks.2.2.2
  · dsimp only
    rw [hlength, List.take_left, List.drop_left, hv]

theorem splitOn_digits {cs : List Char} (hcs : ∀ c ∈ cs, c.isDigit = true) {mark : Char}
    (hmark : mark.isDigit = false) : cs.splitOn mark = [cs] := by
  apply List.splitOn_eq_singleton
  intro hmem
  rw [hcs mark hmem] at hmark
  cases hmark

theorem isDate_of_digits {front cs : List Char} (hfront : front = [] ∨ front = ['-'])
    (hcs : ∀ c ∈ cs, c.isDigit = true) : isDate (front ++ cs) = false := by
  have hsplit : cs.splitOn '-' = [cs] := splitOn_digits hcs (by decide)
  unfold isDate
  rcases hfront with rfl | rfl
  · rw [List.nil_append, hsplit]
  · rw [List.singleton_append, List.splitOn_cons_eq_if_modifyHead, hsplit]
    rfl

/-- Digits behind at most one sign are neither a date nor a time. -/
theorem isMoment_of_digits {front cs : List Char} (hfront : front = [] ∨ front = ['-'])
    (hcs : ∀ c ∈ cs, c.isDigit = true) : isMoment (front ++ cs) = false := by
  have hclock : isClock (front ++ cs) = false := by
    have hsplit : (front ++ cs).splitOn ':' = [front ++ cs] := by
      apply List.splitOn_eq_singleton
      rw [List.mem_append]
      rintro (hmem | hmem)
      · rcases hfront with rfl | rfl <;> simp at hmem
      · exact absurd (hcs _ hmem) (by decide)
    unfold isClock
    rw [hsplit]
  have htake : isDate ((front ++ cs).take 10) = false := by
    rw [List.take_append, List.take_of_length_le (by rcases hfront with rfl | rfl <;> simp)]
    exact isDate_of_digits hfront fun c hc => hcs c (List.mem_of_mem_take hc)
  unfold isMoment
  rw [isDate_of_digits hfront hcs, hclock, htake]
  rfl

theorem plainDigits?_toDigits (n : Nat) :
    plainDigits? Numeral.isDigit (Nat.toDigits 10 n) = some (Nat.toDigits 10 n) := by
  have hdigits : ∀ c ∈ Nat.toDigits 10 n, c.isDigit = true := fun c hc =>
    Nat.isDigit_of_mem_toDigits (by omega) (by omega) hc
  have hsplit : (Nat.toDigits 10 n).splitOn '_' = [Nat.toDigits 10 n] :=
    splitOn_digits hdigits (by decide)
  have hall : (Nat.toDigits 10 n).all Numeral.isDigit = true := List.all_eq_true.mpr hdigits
  have hne : (Nat.toDigits 10 n).isEmpty = false :=
    List.isEmpty_eq_false_iff.mpr Nat.toDigits_ne_nil
  unfold plainDigits?
  rw [hsplit]
  simp [hall, hne]

theorem decimalDigits?_toDigits (n : Nat) :
    decimalDigits? (Nat.toDigits 10 n) = some (Nat.toDigits 10 n) := by
  unfold decimalDigits?
  rw [plainDigits?_toDigits]
  by_cases hn : n = 0
  · subst hn
    rfl
  · simp [Option.filter, Text.head?_toDigits n hn]

theorem integer?_digits (n : Nat) : integer? (Nat.toDigits 10 n) = some (n : Int) := by
  have hdigits : ∀ c ∈ Nat.toDigits 10 n, c.isDigit = true := fun c hc =>
    Nat.isDigit_of_mem_toDigits (by omega) (by omega) hc
  have hmark : ∀ c ∈ Nat.toDigits 10 n, c ≠ 'x' ∧ c ≠ 'o' ∧ c ≠ 'b' ∧ c ≠ '-' ∧ c ≠ '+' := by
    intro c hc
    have hdigit := hdigits c hc
    refine ⟨?_, ?_, ?_, ?_, ?_⟩ <;>
      · rintro rfl
        exact absurd hdigit (by decide)
  have hsign : Numeral.splitSign (Nat.toDigits 10 n) = (false, Nat.toDigits 10 n) := by
    unfold Numeral.splitSign
    split
    · rename_i heq
      exact absurd rfl (hmark '-' (heq ▸ List.mem_cons_self)).2.2.2.1
    · rename_i heq
      exact absurd rfl (hmark '+' (heq ▸ List.mem_cons_self)).2.2.2.2
    · rfl
  unfold integer?
  split
  · rename_i heq
    exact absurd rfl (hmark 'x' (heq ▸ List.mem_cons_of_mem _ List.mem_cons_self)).1
  · rename_i heq
    exact absurd rfl (hmark 'o' (heq ▸ List.mem_cons_of_mem _ List.mem_cons_self)).2.1
  · rename_i heq
    exact absurd rfl (hmark 'b' (heq ▸ List.mem_cons_of_mem _ List.mem_cons_self)).2.2.1
  · rw [hsign]
    dsimp only
    rw [decimalDigits?_toDigits, Option.bind_eq_bind, Option.bind_some, Text.digits?_toDigits]
    rfl

theorem integer?_negative (n : Nat) : integer? ('-' :: Nat.toDigits 10 n) = some (-(n : Int)) := by
  show ((decimalDigits? (Nat.toDigits 10 n)).bind fun cs => (Text.digits? cs).bind fun n =>
    some (-(n : Int))) = _
  rw [decimalDigits?_toDigits, Option.bind_some, Text.digits?_toDigits]
  rfl

/-- An integer is written with digits, behind a sign where it is negative. -/
theorem exists_digits (n : Int) : ∃ front m, (front = [] ∨ front = ['-']) ∧
    (toString n).toList = front ++ Nat.toDigits 10 m ∧
    integer? (front ++ Nat.toDigits 10 m) = some n := by
  rw [Text.toList_toString_int]
  by_cases hn : 0 ≤ n
  · refine ⟨[], n.toNat, Or.inl rfl, if_pos hn, ?_⟩
    rw [List.nil_append, integer?_digits, Int.toNat_of_nonneg hn]
  · have hback : -(((-n).toNat : Nat) : Int) = n := by omega
    refine ⟨['-'], (-n).toNat, Or.inr rfl, if_neg hn, ?_⟩
    rw [List.singleton_append, integer?_negative, hback]

theorem toList_toString_ne_nil (n : Int) : (toString n).toList ≠ [] := by
  obtain ⟨front, m, -, htext, -⟩ := exists_digits n
  rw [htext]
  exact fun hnil => Nat.toDigits_ne_nil (List.append_eq_nil_iff.mp hnil).2

theorem mem_toList_toString {n : Int} {c : Char} (hc : c ∈ (toString n).toList) :
    c = '-' ∨ c.isDigit = true := by
  obtain ⟨front, m, hfront, htext, -⟩ := exists_digits n
  rw [htext, List.mem_append] at hc
  rcases hc with hmem | hmem
  · rcases hfront with rfl | rfl
    · exact absurd hmem List.not_mem_nil
    · exact Or.inl (List.mem_singleton.mp hmem)
  · exact Or.inr (Nat.isDigit_of_mem_toDigits (by omega) (by omega) hmem)

theorem value_toString {n : Int} (hhigh : n < 0x8000000000000000)
    (fits : -0x8000000000000000 ≤ n ∧ n < 0x10000000000000000) (depth : Nat) (rest : List Char) :
    value depth ((toString n).toList ++ '\n' :: rest) =
      .ok (.number (.integer n fits), '\n' :: rest) := by
  have hword : ∀ c ∈ (toString n).toList, isWordChar c = true := by
    intro c hc
    rcases mem_toList_toString hc with rfl | hdigit
    · decide
    · exact isWordChar_of_isDigit hdigit
  have hother : ∀ word : List Char, (∃ c ∈ word, c ≠ '-' ∧ c.isDigit = false) →
      (toString n).toList ≠ word := by
    rintro word ⟨c, hc, hsign, hdigit⟩ hword
    rw [← hword] at hc
    rcases mem_toList_toString hc with rfl | hone
    · exact hsign rfl
    · rw [hone] at hdigit
      cases hdigit
  have hscalar : scalar? (toString n).toList = some (.number (.integer n fits)) := by
    obtain ⟨front, m, hfront, htext, hread⟩ := exists_digits n
    have hmoment : isMoment (toString n).toList = false := by
      rw [htext]
      exact isMoment_of_digits hfront fun c hc =>
        Nat.isDigit_of_mem_toDigits (by omega) (by omega) hc
    unfold scalar?
    rw [if_neg (hother _ ⟨'t', by decide⟩), if_neg (hother _ ⟨'f', by decide⟩), hmoment,
      if_neg Bool.false_ne_true, htext, hread]
    exact dif_pos ⟨fits.1, hhigh⟩
  exact value_word (toList_toString_ne_nil n) hword hscalar depth rest

/-- A string begins with one quote or the other. -/
theorem exists_stringText (s : String) : ∃ c cs, (stringText s).toList = c :: cs ∧
    (c = '"' ∨ c = '\'') := by
  unfold stringText
  simp only [String.toList_ofList]
  repeat' split
  all_goals first
    | exact ⟨_, _, rfl, Or.inl rfl⟩
    | exact ⟨_, _, rfl, Or.inr rfl⟩

theorem value_stringText (s : String) (depth : Nat) (rest : List Char) :
    value depth ((stringText s).toList ++ '\n' :: rest) = .ok (.string s, '\n' :: rest) := by
  have hread : string ((stringText s).toList ++ '\n' :: rest) = .ok (s, '\n' :: rest) :=
    string_stringText s (by simp) (by simp)
  obtain ⟨c, cs, hcs, hquote⟩ := exists_stringText s
  rw [hcs, List.cons_append] at hread ⊢
  unfold value
  rcases hquote with rfl | rfl
  · dsimp only
    rw [hread]
    rfl
  · dsimp only
    rw [hread]
    rfl

/-- A scalar is read back up to the end of its line. -/
theorem value_scalarText {v : Value} {text : String} (hv : scalarText v = .ok text) (depth : Nat)
    (rest : List Char) : value depth (text.toList ++ '\n' :: rest) = .ok (v, '\n' :: rest) := by
  unfold scalarText at hv
  split at hv
  · rename_i b
    cases hv
    cases b with
    | true => exact value_word (by decide) (List.all_eq_true.mp (by decide)) rfl depth rest
    | false => exact value_word (by decide) (List.all_eq_true.mp (by decide)) rfl depth rest
  · rename_i n hn
    by_cases hhigh : n < 0x8000000000000000
    · rw [if_pos hhigh] at hv
      cases hv
      exact value_toString hhigh hn depth rest
    · rw [if_neg hhigh] at hv
      cases hv
  · cases hv
    exact value_stringText _ depth rest
  · cases hv

end Scalars

section Lines

/-- What a line begins with: no blank, no comment, no break and no byte order mark. -/
def Opens (c : Char) : Prop :=
  c = '[' ∨ c = '"' ∨ c = '\'' ∨ isBareKey c = true

/-- A line, read from one draft to the next. -/
structure Takes (text : String) (draft after : Draft) : Prop where
  opens : ∃ c cs, text.toList = c :: cs ∧ Opens c
  reads : ∀ rest, line draft (text.toList ++ '\n' :: rest) = .ok (after, '\n' :: rest)

theorem exists_scalarText {v : Value} {text : String} (hv : scalarText v = .ok text) :
    ∃ c cs, text.toList = c :: cs ∧ isBlank c = false := by
  unfold scalarText at hv
  split at hv
  · rename_i b
    cases hv
    cases b with
    | true => exact ⟨'t', _, rfl, by decide⟩
    | false => exact ⟨'f', _, rfl, by decide⟩
  · rename_i n hn
    split at hv
    · cases hv
      obtain ⟨c, cs, hcs⟩ := List.exists_cons_of_ne_nil (toList_toString_ne_nil n)
      have hc : c ∈ (toString n).toList := by
        rw [hcs]
        exact List.mem_cons_self
      refine ⟨c, cs, hcs, ?_⟩
      rcases mem_toList_toString hc with rfl | hdigit
      · decide
      · have hbare : isBareKey c = true := by
          rw [isBareKey_eq]
          simp [isBare, Char.isAlphanum, hdigit]
        exact isBlank_of_opens (Or.inr (Or.inr hbare))
    · cases hv
  · rename_i s
    cases hv
    obtain ⟨c, cs, hcs, rfl | rfl⟩ := exists_stringText s
    · exact ⟨'"', cs, hcs, by decide⟩
    · exact ⟨'\'', cs, hcs, by decide⟩
  · cases hv

theorem takes_header {path : List String} (hpath : path ≠ []) {draft : Draft} {root : Table}
    (hroot : changeAt false (fun _ table => openTable (path.getLastD "") table) path.dropLast
      .header draft.root = .ok root) : Takes (headerLine path) draft ⟨root, path⟩ := by
  have htext : (headerLine path).toList = '[' :: (pathText path ++ [']']) := by
    unfold headerLine pathText
    simp only [toString, String.toList_append]
    rfl
  refine ⟨⟨'[', _, htext, Or.inl rfl⟩, fun rest => ?_⟩
  have hread : keyPath ((pathText path ++ ']' :: '\n' :: rest).length + 1)
      (pathText path ++ ']' :: '\n' :: rest) = .ok (path, ']' :: '\n' :: rest) := by
    have hlength := length_pathText path
    apply keyPath_pathText hpath
    · rintro c later ⟨⟩
      decide
    · rfl
    · rintro later ⟨⟩
    · rw [List.length_append]
      omega
  have hline : line draft ('[' :: (pathText path ++ ']' :: '\n' :: rest)) =
      header false draft (pathText path ++ ']' :: '\n' :: rest) := by
    obtain ⟨c, cs, hcs, hc⟩ := exists_pathText hpath
    have hbracket : c ≠ '[' := by
      rintro rfl
      exact absurd hc (by decide)
    rw [hcs, List.cons_append]
    unfold line
    split
    · rename_i heq
      exact absurd (List.cons.inj (List.cons.inj heq).2).1 hbracket
    · rename_i heq
      cases heq
      rfl
    · rename_i hsingle
      exact absurd rfl (hsingle _)
  rw [htext, List.cons_append, List.append_assoc, List.singleton_append, hline]
  unfold header
  rw [hread]
  show (located _ (changeAt false (fun _ table => openTable (path.getLastD "") table)
    path.dropLast .header draft.root) >>= fun root =>
    .ok (Draft.mk root path, '\n' :: rest)) = _
  rw [hroot]
  rfl

/-- A key and what stands behind it are read as they were written. -/
theorem pair_scalarText (key : String) {v : Value} {text : String} (hv : scalarText v = .ok text)
    (rest : List Char) :
    pair (value maxDepth) (pathText [key] ++ ' ' :: '=' :: ' ' :: (text.toList ++ '\n' :: rest)) =
      .ok (([key], v), '\n' :: rest) := by
  have hread : keyPath ((pathText [key] ++ ' ' :: '=' :: ' ' ::
      (text.toList ++ '\n' :: rest)).length + 1) (pathText [key] ++ ' ' :: '=' :: ' ' ::
      (text.toList ++ '\n' :: rest)) = .ok ([key], '=' :: ' ' :: (text.toList ++ '\n' :: rest)) := by
    apply keyPath_pathText (List.cons_ne_nil _ _)
    · rintro c later ⟨⟩
      decide
    · rfl
    · rintro later ⟨⟩
    · rw [List.length_singleton]
      omega
  have hblank : skipBlank (' ' :: (text.toList ++ '\n' :: rest)) =
      text.toList ++ '\n' :: rest := by
    obtain ⟨d, ds, hds, hd⟩ := exists_scalarText hv
    rw [hds, List.cons_append]
    exact skipBlank_of_not_isBlank hd _
  unfold pair
  rw [hread]
  show (value maxDepth (skipBlank (' ' :: (text.toList ++ '\n' :: rest))) >>= fun read =>
    .ok (([key], read.1), read.2)) = _
  rw [hblank, value_scalarText hv]
  rfl

/-- A line that does not begin with a bracket is an entry. -/
theorem line_of_ne_bracket {c : Char} (hc : c ≠ '[') (draft : Draft) (cs : List Char) :
    line draft (c :: cs) = entry draft (c :: cs) := by
  unfold line
  split
  · rename_i heq
    exact absurd (List.cons.inj heq).1 hc
  · rename_i heq
    exact absurd (List.cons.inj heq).1 hc
  · rfl

theorem takes_entry (key : String) {v : Value} {text : String} (hv : scalarText v = .ok text)
    {draft : Draft} {root : Table}
    (hroot : changeAt false (fun _ table => assignAt [key] v table) draft.current
      .header draft.root = .ok root) :
    Takes s!"{keyText key} = {text}" draft ⟨root, draft.current⟩ := by
  have htext : (s!"{keyText key} = {text}").toList =
      pathText [key] ++ ' ' :: '=' :: ' ' :: text.toList := by
    rw [pathText_singleton]
    simp only [toString, String.toList_append]
    simp
  obtain ⟨c, cs, hcs, hc⟩ := exists_pathText (List.cons_ne_nil key [])
  refine ⟨⟨c, _, by rw [htext, hcs, List.cons_append], Or.inr hc⟩, fun rest => ?_⟩
  have hpair := pair_scalarText key hv rest
  have hbracket : c ≠ '[' := by
    rintro rfl
    exact absurd hc (by decide)
  have hall : (s!"{keyText key} = {text}").toList ++ '\n' :: rest =
      c :: (cs ++ ' ' :: '=' :: ' ' :: (text.toList ++ '\n' :: rest)) := by
    rw [htext, hcs]
    simp
  rw [hcs, List.cons_append] at hpair
  rw [hall, line_of_ne_bracket hbracket]
  unfold entry
  rw [hpair]
  show (located _ (changeAt false (fun _ table => assignAt [key] v table) draft.current .header
    draft.root) >>= fun root =>
    .ok (Draft.mk root draft.current, '\n' :: rest)) = _
  rw [hroot]
  rfl

end Lines

end ZigbeeBridge.Toml
