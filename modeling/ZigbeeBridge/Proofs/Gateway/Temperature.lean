import ZigbeeBridge.Gateway.Sensor
import ZigbeeBridge.Proofs.Text.Integer
import ZigbeeBridge.Proofs.Text.Span

/-!
Temperatures as they are shown. The text of a reading is a number of tenths of a degree with one
digit behind the point. It can be read back, and what is read is the nearest to the hundredths that
were measured, a half going away from zero.
-/
namespace ZigbeeBridge.Gateway

open Text

section Reading

/-- The digits of an integer, with no zero in front that could be left out. -/
def whole? (cs : List Char) : Option Nat :=
  if cs.head? = some '0' ∧ cs ≠ ['0'] then none else digits? cs

/-- An integer, a point and exactly one digit, counted in tenths. -/
def unsignedTenths? (cs : List Char) : Option Nat :=
  match cs.dropWhile (· ≠ '.') with
  | ['.', c] => do
    let n ← whole? (cs.takeWhile (· ≠ '.'))
    let d ← decimalDigit? c
    some (10 * n + d)
  | _ => none

/-- The tenths that a text stands for; a minus sign is all the sign it may have. -/
def tenths? (text : String) : Option Int :=
  match text.toList with
  | '-' :: cs => (unsignedTenths? cs).map fun n => -(n : Int)
  | cs => (unsignedTenths? cs).map Int.ofNat

theorem whole?_toDigits (n : Nat) : whole? (Nat.toDigits 10 n) = some n := by
  have hplain : ¬((Nat.toDigits 10 n).head? = some '0' ∧ Nat.toDigits 10 n ≠ ['0']) := by
    rintro ⟨hzero, hne⟩
    by_cases hn : n = 0
    · subst hn
      exact hne rfl
    · exact head?_toDigits n hn hzero
  rw [whole?, if_neg hplain, digits?_toDigits]

theorem decimalDigit?_digitChar {d : Nat} (hd : d < 10) : decimalDigit? d.digitChar = some d := by
  revert d
  decide

def unsignedText (n : Nat) : List Char := Nat.toDigits 10 (n / 10) ++ ['.', (n % 10).digitChar]

/-- Digits have no point among them, so that the point is where it was put. -/
theorem unsignedTenths?_unsignedText (n : Nat) : unsignedTenths? (unsignedText n) = some n := by
  have hdigits : '.' ∉ Nat.toDigits 10 (n / 10) := by
    intro hpoint
    have hdigit : '.'.isDigit := Nat.isDigit_of_mem_toDigits (by omega) (by omega) hpoint
    exact absurd hdigit (by decide)
  have hfront : (unsignedText n).takeWhile (· ≠ '.') = Nat.toDigits 10 (n / 10) :=
    takeWhile_ne_mark hdigits _
  have hback : (unsignedText n).dropWhile (· ≠ '.') = ['.', (n % 10).digitChar] :=
    dropWhile_ne_mark hdigits _
  have hdigit : decimalDigit? (n % 10).digitChar = some (n % 10) :=
    decimalDigit?_digitChar (Nat.mod_lt n (by omega))
  unfold unsignedTenths?
  rw [hback, hfront, whole?_toDigits]
  simp [hdigit, Nat.div_add_mod]

theorem head?_unsignedText (n : Nat) : (unsignedText n).head? ≠ some '-' := by
  obtain ⟨c, rest, hdigits⟩ :=
    List.exists_cons_of_ne_nil (Nat.toDigits_ne_nil (n := n / 10) (b := 10))
  have hdigit : c.isDigit := Nat.isDigit_of_mem_toDigits (by omega) (by omega)
    (hdigits ▸ List.mem_cons_self)
  rw [unsignedText, hdigits, List.cons_append, List.head?_cons]
  rintro ⟨⟩
  exact absurd hdigit (by decide)

end Reading

section Writing

def tenthsText (t : Int) : String :=
  let sign := if t < 0 then "-" else ""
  s!"{sign}{t.natAbs / 10}.{t.natAbs % 10}"

theorem toList_tenthsText (t : Int) :
    (tenthsText t).toList = (if t < 0 then ['-'] else []) ++ unsignedText t.natAbs := by
  have hlow : t.natAbs % 10 < 10 := Nat.mod_lt _ (by omega)
  have hsign : (toString (if t < 0 then "-" else "")).toList = if t < 0 then ['-'] else [] := by
    split <;> rfl
  have hpoint : (toString ".").toList = ['.'] := rfl
  have hnat : ∀ n : Nat, (toString n).toList = Nat.toDigits 10 n := fun n => Nat.toList_repr
  unfold tenthsText unsignedText
  simp only [String.toList_append, hsign, hpoint, hnat, Nat.toDigits_of_lt_base hlow,
    List.append_assoc, List.singleton_append]

theorem head?_tenthsText (t : Int) : (tenthsText t).toList.head? = some '-' ↔ t < 0 := by
  rw [toList_tenthsText]
  by_cases ht : t < 0
  · simp [ht]
  · rw [if_neg ht, List.nil_append]
    exact iff_of_false (head?_unsignedText _) ht

theorem tenths?_tenthsText (t : Int) : tenths? (tenthsText t) = some t := by
  have hread := unsignedTenths?_unsignedText t.natAbs
  unfold tenths?
  rw [toList_tenthsText]
  by_cases ht : t < 0
  · have hback : -(t.natAbs : Int) = t := by omega
    rw [if_pos ht]
    change (unsignedTenths? (unsignedText t.natAbs)).map (fun n => -(n : Int)) = some t
    rw [hread]
    exact congrArg some hback
  · have hback : (t.natAbs : Int) = t := by omega
    rw [if_neg ht, List.nil_append]
    split
    · rename_i cs heq
      exact absurd (by rw [heq]; rfl) (head?_unsignedText t.natAbs)
    · rw [hread]
      exact congrArg some hback

/-- The same text with the other sign; zero has none. -/
def flipSign (text : String) : String :=
  if text = "0.0" then text
  else match text.toList with
    | '-' :: cs => String.ofList cs
    | cs => String.ofList ('-' :: cs)

theorem tenthsText_neg (t : Int) : tenthsText (-t) = flipSign (tenthsText t) := by
  by_cases hzero : t = 0
  · subst hzero
    rfl
  · -- What reads as another number is another text.
    have hne : tenthsText t ≠ "0.0" := by
      intro heq
      have hread := tenths?_tenthsText t
      rw [heq] at hread
      exact hzero (Option.some.inj hread).symm
    apply String.toList_inj.mp
    unfold flipSign
    rw [if_neg hne, toList_tenthsText, toList_tenthsText, Int.natAbs_neg]
    by_cases ht : t < 0
    · rw [if_pos ht, if_neg (by omega)]
      simp
    · rw [if_neg ht, if_pos (by omega), List.nil_append]
      split
      · rename_i cs heq
        exact absurd (by rw [heq]; rfl) (head?_unsignedText t.natAbs)
      · simp

end Writing

section Rounding

/-- A number of tenths next to the hundredths; a half goes away from zero. -/
structure Rounds (c t : Int) : Prop where
  near : (10 * t - c).natAbs ≤ 5
  away : (10 * t - c).natAbs = 5 → c.natAbs < (10 * t).natAbs

theorem Rounds.mono {c d t u : Int} (hc : Rounds c t) (hd : Rounds d u) (hle : c ≤ d) : t ≤ u := by
  obtain ⟨hnear, haway⟩ := hc
  obtain ⟨hnear', haway'⟩ := hd
  omega

theorem Rounds.unique {c t u : Int} (ht : Rounds c t) (hu : Rounds c u) : t = u :=
  Int.le_antisymm (ht.mono hu (Int.le_refl c)) (hu.mono ht (Int.le_refl c))

theorem Rounds.neg {c t : Int} (hc : Rounds c t) : Rounds (-c) (-t) where
  near := by
    have hnear := hc.near
    omega
  away := by
    have haway := hc.away
    omega

namespace TemperatureReading

variable (r : TemperatureReading)

/-- Not so far out that five hundredths more would not fit 64 bits. -/
def InRange : Prop := r.centi.toInt.natAbs ≤ 0x7FFFFFFFFFFFFFFF - 5

instance : Decidable r.InRange := inferInstanceAs (Decidable (_ ≤ _))

theorem toInt_tenths (hr : r.InRange) : r.tenths.toInt = (r.centi.toInt.natAbs + 5) / 10 := by
  unfold InRange at hr
  have hne : r.centi.toBitVec ≠ BitVec.intMin 64 := by
    intro hmin
    have hint : r.centi.toInt = (BitVec.intMin 64).toInt := congrArg BitVec.toInt hmin
    rw [hint] at hr
    exact absurd hr (by decide)
  have habs : r.centi.abs.toInt = r.centi.toInt.natAbs :=
    BitVec.toInt_abs_eq_natAbs_of_ne_intMin hne
  have hfive : (5 : Int64).toInt = 5 := rfl
  have hsum : (r.centi.abs + 5).toInt = r.centi.toInt.natAbs + 5 := by
    rw [Int64.toInt_add, habs, hfive]
    exact Int.bmod_eq_of_le (by omega) (by omega)
  rw [tenths, Int64.toInt_div_of_ne_right _ _ (by decide), hsum]
  exact Int.tdiv_eq_ediv_of_nonneg (by omega)

theorem InRange.opposite {r s : TemperatureReading} (hr : r.InRange) (hs : s.centi = -r.centi) :
    s.centi.toInt = -r.centi.toInt ∧ s.InRange := by
  unfold InRange at hr ⊢
  have hopposite : s.centi.toInt = -r.centi.toInt := by
    rw [hs, Int64.toInt_neg]
    exact Int.bmod_eq_of_le (by omega) (by omega)
  exact ⟨hopposite, by omega⟩

def signedTenths : Int := if r.centi < 0 then -r.tenths.toInt else r.tenths.toInt

theorem rounds_signedTenths (hr : r.InRange) : Rounds r.centi.toInt r.signedTenths := by
  have htenths := r.toInt_tenths hr
  unfold signedTenths
  by_cases hneg : r.centi < 0
  · have hlt : r.centi.toInt < 0 := Int64.lt_iff_toInt_lt.mp hneg
    rw [if_pos hneg, htenths]
    constructor <;> omega
  · have hle : ¬r.centi.toInt < 0 := fun h => hneg (Int64.lt_iff_toInt_lt.mpr h)
    rw [if_neg hneg, htenths]
    constructor <;> omega

/-- What is shown is the text of these tenths: the digits are those of a number without a sign. -/
theorem display_eq (hr : r.InRange) : r.display = tenthsText r.signedTenths := by
  have htenths := r.toInt_tenths hr
  have hsize : r.tenths.toInt = r.signedTenths.natAbs := by
    unfold signedTenths
    split <;> omega
  have hsign : (r.centi < 0 ∧ r.tenths ≠ 0) ↔ r.signedTenths < 0 := by
    have hzero : r.tenths ≠ 0 ↔ r.tenths.toInt ≠ 0 := not_congr Int64.toInt_inj.symm
    rw [hzero]
    unfold signedTenths
    by_cases hneg : r.centi < 0
    · rw [if_pos hneg, and_iff_right hneg]
      omega
    · rw [if_neg hneg]
      exact iff_of_false (fun h => hneg h.1) (by omega)
  have hwhole : toString (r.tenths / 10) = toString (r.signedTenths.natAbs / 10) := by
    have hint : (r.tenths / 10).toInt = ((r.signedTenths.natAbs / 10 : Nat) : Int) := by
      rw [Int64.toInt_div_of_ne_right _ _ (by decide), hsize]
      rfl
    exact congrArg toString hint
  have hlast : toString (r.tenths % 10) = toString (r.signedTenths.natAbs % 10) := by
    have hint : (r.tenths % 10).toInt = ((r.signedTenths.natAbs % 10 : Nat) : Int) := by
      rw [Int64.toInt_mod, hsize]
      rfl
    exact congrArg toString hint
  unfold display tenthsText
  simp only [hsign, hwhole, hlast]

end TemperatureReading

/-- What a reading is shown as, read as tenths: the nearest to it, under the sign that it has. The
opposite reading is shown as the opposite, and no higher one as a lower temperature. -/
structure Shown (r : TemperatureReading) (t : Int) : Prop where
  read : tenths? r.display = some t
  rounds : Rounds r.centi.toInt t
  sign : r.display.toList.head? = some '-' ↔ t < 0
  opposite : ∀ s : TemperatureReading, s.centi = -r.centi → s.display = flipSign r.display
  mono : ∀ (s : TemperatureReading) (u : Int), s.InRange → r.centi ≤ s.centi →
    tenths? s.display = some u → t ≤ u

/-- The text of a reading is a sign or none, an integer without superfluous zeros, a point and one
digit, and the number that it stands for is the measured one, exactly rounded. -/
theorem display_rounds (r : TemperatureReading) (hr : r.InRange) : ∃ t, Shown r t := by
  have hrounds := r.rounds_signedTenths hr
  refine ⟨r.signedTenths, ?_, hrounds, ?_, ?_, ?_⟩
  · rw [r.display_eq hr, tenths?_tenthsText]
  · rw [r.display_eq hr, head?_tenthsText]
  · intro s hs
    obtain ⟨hopposite, hsrange⟩ := hr.opposite hs
    have hsrounds := s.rounds_signedTenths hsrange
    rw [hopposite] at hsrounds
    rw [s.display_eq hsrange, r.display_eq hr, hsrounds.unique hrounds.neg, tenthsText_neg]
  · intro s u hs hle hread
    rw [s.display_eq hs, tenths?_tenthsText] at hread
    rw [← Option.some.inj hread]
    exact hrounds.mono (s.rounds_signedTenths hs) (Int64.le_iff_toInt_le.mp hle)

theorem display_rounds_frosty :
    let r : TemperatureReading := ⟨-2145, "none"⟩
    r.InRange ∧ r.display = "-21.5" ∧ ∃ t, Shown r t := by
  intro r
  have hrange : r.InRange := by decide
  have hshown : r.display = "-21.5" := by cbv
  exact ⟨hrange, hshown, display_rounds r hrange⟩

end Rounding

end ZigbeeBridge.Gateway
