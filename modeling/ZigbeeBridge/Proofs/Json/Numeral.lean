import ZigbeeBridge.Json.Parser
import ZigbeeBridge.Proofs.Text.Integer
import ZigbeeBridge.Proofs.Text.Span

/-!
An integer of 64 bits that is written in decimal is read back as the same integer, in front of
whatever may follow a value.
-/
namespace ZigbeeBridge.Json

open Data Numeral

/-- What may follow a value: nothing, another one, or the end of what holds it. -/
def Ends (rest : List Char) : Prop := ∀ c ∈ rest.head?, c = ',' ∨ c = ']' ∨ c = '\x7d'

theorem ends_nil : Ends [] := by simp [Ends]

theorem ends_cons {c : Char} (hc : c = ',' ∨ c = ']' ∨ c = '\x7d') (rest : List Char) :
    Ends (c :: rest) := by
  simpa [Ends] using hc

section Digits

theorem isDigit_of_mem_toDigits {n : Nat} {c : Char} (hc : c ∈ Nat.toDigits 10 n) :
    isDigit c = true :=
  Nat.isDigit_of_mem_toDigits (by omega) (by omega) hc

theorem le_ofDigitChars (cs : List Char) (n : Nat) : n ≤ Nat.ofDigitChars 10 cs n := by
  induction cs generalizing n with
  | nil => simp
  | cons c cs ih =>
    have hrest := ih (10 * n + (c.toNat - '0'.toNat))
    rw [Nat.ofDigitChars_cons]
    omega

/-- Digits are all taken where the number that they make fits. -/
theorem takeDigits_of_fits (cs : List Char) (n : Nat)
    (hfits : Nat.ofDigitChars 10 cs n < 0x10000000000000000) :
    takeDigits n cs = (Nat.ofDigitChars 10 cs n, []) := by
  induction cs generalizing n with
  | nil => rfl
  | cons c cs ih =>
    have hstep : n * 10 + digitValue c = 10 * n + (c.toNat - '0'.toNat) := by
      rw [Nat.mul_comm]
      rfl
    have hle := le_ofDigitChars cs (10 * n + (c.toNat - '0'.toNat))
    rw [Nat.ofDigitChars_cons] at hfits ⊢
    unfold takeDigits
    rw [hstep, if_pos (by omega)]
    exact ih _ hfits

theorem ofWhole_toDigits (n : Nat) (hn : n < 0x10000000000000000) :
    Significand.ofWhole (Nat.toDigits 10 n) = ⟨n, 0⟩ := by
  have htake := takeDigits_of_fits (Nat.toDigits 10 n) 0 (by
    rwa [Nat.ofDigitChars_ten_toDigits])
  rw [Nat.ofDigitChars_ten_toDigits] at htake
  simp [Significand.ofWhole, htake]

/-- The digits of a number end where they end, and they are the whole of it. -/
theorem number_toDigits (negative : Bool) (n : Nat) {rest : List Char} (hrest : Ends rest) :
    number negative (Nat.toDigits 10 n ++ rest) =
      wholeNumber negative (Nat.toDigits 10 n) rest := by
  have hdigits : ∀ c ∈ Nat.toDigits 10 n, isDigit c = true := fun c hc =>
    isDigit_of_mem_toDigits hc
  have hstop : ∀ c ∈ rest.head?, isDigit c = false := by
    intro c hc
    obtain rfl | rfl | rfl := hrest c hc <;> rfl
  have htake : (Nat.toDigits 10 n ++ rest).takeWhile isDigit = Nat.toDigits 10 n :=
    Text.takeWhile_stop hdigits hstop
  have hdrop : (Nat.toDigits 10 n ++ rest).dropWhile isDigit = rest :=
    Text.dropWhile_stop hdigits hstop
  obtain ⟨c, cs, hcs⟩ := List.exists_cons_of_ne_nil (Nat.toDigits_ne_nil (n := n) (b := 10))
  have hc : isDigit c = true := hdigits c (by simp [hcs])
  -- A zero in front is the whole number, so no digit stands behind it.
  have hzero : ¬(c = '0' ∧ ((cs ++ rest).head?.map isDigit).getD false = true) := by
    rintro ⟨rfl, hnext⟩
    by_cases hn : n = 0
    · subst hn
      obtain rfl : cs = [] := by simpa using hcs.symm
      cases rest with
      | nil => cases hnext
      | cons d rest => obtain rfl | rfl | rfl := hrest d rfl <;> cases hnext
    · exact Text.head?_toDigits n hn (by rw [hcs]; rfl)
  rw [hcs, List.cons_append] at htake hdrop ⊢
  unfold number
  simp only [hc, Bool.not_true, Bool.false_eq_true, if_false, if_neg hzero, htake, hdrop]
  cases rest with
  | nil => rfl
  | cons d rest => obtain rfl | rfl | rfl := hrest d rfl <;> rfl

end Digits

theorem number_integer {n : Int} (fits : -0x8000000000000000 ≤ n ∧ n < 0x10000000000000000)
    {rest : List Char} (hrest : Ends rest) :
    number (decide (n < 0)) (Nat.toDigits 10 n.natAbs ++ rest) = .ok (.integer n fits, rest) := by
  have hwhole := ofWhole_toDigits n.natAbs (by omega)
  rw [number_toDigits _ _ hrest]
  unfold wholeNumber
  simp only [hwhole, ne_eq, not_true_eq_false, false_or]
  by_cases hn : n < 0
  · have hvalue : -((n.natAbs : Nat) : Int) = n := by omega
    rw [if_neg (by simp; omega)]
    simp only [hn, decide_true, if_true, hvalue, Number.ofInt?, dif_pos fits]
  · have hvalue : ((n.natAbs : Nat) : Int) = n := by omega
    simp only [hn, decide_false, Bool.false_eq_true, false_and, if_false, hvalue,
      Number.ofInt?, dif_pos fits]

theorem isBlank_of_isDigit {c : Char} (hc : isDigit c = true) : isBlank c = false := by
  cases hblank : isBlank c with
  | false => rfl
  | true =>
    simp only [isBlank, Bool.or_eq_true, beq_iff_eq] at hblank
    obtain ((rfl | rfl) | rfl) | rfl := hblank <;> cases hc

/-- A value that begins with a digit is a number. -/
theorem value_digit (depth : Nat) {c : Char} (hc : isDigit c = true) (cs : List Char) :
    value depth (c :: cs) =
      (number false (c :: cs) >>= fun read => .ok (.number read.1, read.2)) := by
  have hskip : skipBlank (c :: cs) = c :: cs := by simp [skipBlank, isBlank_of_isDigit hc]
  unfold value
  rw [hskip]
  dsimp only
  split
  case h_8 => rw [if_pos hc]
  all_goals cases hc

/-- An integer is read back from its text. -/
theorem value_integer (depth : Nat) {n : Int}
    (fits : -0x8000000000000000 ≤ n ∧ n < 0x10000000000000000) {rest : List Char}
    (hrest : Ends rest) :
    value depth ((toString n).toList ++ rest) = .ok (.number (.integer n fits), rest) := by
  have hnumber := number_integer fits hrest
  rw [Text.toList_toString_int]
  by_cases hn : 0 ≤ n
  · have habs : n.natAbs = n.toNat := by omega
    obtain ⟨c, cs, hcs⟩ := List.exists_cons_of_ne_nil
      (Nat.toDigits_ne_nil (n := n.toNat) (b := 10))
    have hc : isDigit c = true := isDigit_of_mem_toDigits (n := n.toNat) (by simp [hcs])
    rw [habs, decide_eq_false (by omega), hcs] at hnumber
    rw [if_pos hn, hcs, List.cons_append, value_digit depth hc, ← List.cons_append, hnumber]
    rfl
  · have habs : n.natAbs = (-n).toNat := by omega
    rw [habs, decide_eq_true (by omega)] at hnumber
    rw [if_neg hn, List.cons_append]
    unfold value
    change (number true _ >>= _) = _
    rw [hnumber]
    rfl

end ZigbeeBridge.Json
