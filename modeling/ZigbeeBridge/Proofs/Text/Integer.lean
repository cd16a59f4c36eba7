import ZigbeeBridge.Text.Blank
import ZigbeeBridge.Text.Integer

/-!
An integer that is written in decimal is read back, over all integers of 64 bits too, and blanks
around it would not matter: it has none.
-/
namespace ZigbeeBridge.Text

section Digits

theorem decimalDigit?_of_isDigit (c : Char) (hc : c.isDigit) :
    decimalDigit? c = some (c.toNat - 48) := by
  rw [Char.isDigit_iff_toNat] at hc
  have hlow : '0' ≤ c := hc.1
  have hhigh : c ≤ '9' := hc.2
  unfold decimalDigit?
  rw [if_pos ⟨hlow, hhigh⟩]

/-- Digits count as what they stand for, from the left. -/
theorem foldlM_decimalDigit? (cs : List Char) (hcs : ∀ c ∈ cs, c.isDigit) (n : Nat) :
    cs.foldlM (fun n c => (decimalDigit? c).map (10 * n + ·)) n =
      some (Nat.ofDigitChars 10 cs n) := by
  induction cs generalizing n with
  | nil => rfl
  | cons c rest ih =>
    have hc := decimalDigit?_of_isDigit c (hcs c List.mem_cons_self)
    have hrest : ∀ d ∈ rest, d.isDigit := fun d hd => hcs d (List.mem_cons_of_mem c hd)
    rw [List.foldlM_cons, hc, Nat.ofDigitChars_cons]
    exact ih hrest _

theorem digits?_toDigits (n : Nat) : digits? (Nat.toDigits 10 n) = some n := by
  have hne : (Nat.toDigits 10 n).isEmpty = false := by
    rw [List.isEmpty_eq_false_iff]
    exact Nat.toDigits_ne_nil
  have hdigits : ∀ c ∈ Nat.toDigits 10 n, c.isDigit := fun c hc =>
    Nat.isDigit_of_mem_toDigits (by omega) (by omega) hc
  unfold digits?
  rw [hne, foldlM_decimalDigit? _ hdigits, Nat.ofDigitChars_ten_toDigits]
  rfl

/-- Only zero is written with a zero in front. -/
theorem head?_toDigits (n : Nat) (hn : n ≠ 0) : (Nat.toDigits 10 n).head? ≠ some '0' := by
  induction n using Nat.strongRecOn with
  | ind n ih =>
    by_cases hlow : n < 10
    · have hdigit : ∀ d < 10, d ≠ 0 → [d.digitChar].head? ≠ some '0' := by decide
      rw [Nat.toDigits_of_lt_base hlow]
      exact hdigit n hlow hn
    · have hhead := ih (n / 10) (by omega) (by omega)
      obtain ⟨c, cs, hcs⟩ := List.exists_cons_of_ne_nil (Nat.toDigits_ne_nil (n := n / 10) (b := 10))
      rw [Nat.toDigits_of_base_le (by omega) (by omega)]
      rw [hcs] at hhead ⊢
      exact hhead

theorem integer?_toDigits (n : Nat) : integer? (Nat.toDigits 10 n) = some (n : Int) := by
  have hsign : ∀ c ∈ Nat.toDigits 10 n, c ≠ '-' ∧ c ≠ '+' := by
    intro c hc
    have hdigit : c.isDigit := Nat.isDigit_of_mem_toDigits (by omega) (by omega) hc
    constructor <;>
      · rintro rfl
        exact absurd hdigit (by decide)
  unfold integer?
  split
  · rename_i rest heq
    exact absurd rfl (hsign '-' (heq ▸ List.mem_cons_self)).1
  · rename_i rest heq
    exact absurd rfl (hsign '+' (heq ▸ List.mem_cons_self)).2
  · rw [digits?_toDigits]
    rfl

/-- The text of an integer: its digits, behind a sign where it is negative. -/
theorem toList_toString_int (n : Int) :
    (toString n).toList =
      if 0 ≤ n then Nat.toDigits 10 n.toNat else '-' :: Nat.toDigits 10 (-n).toNat := by
  rw [Int.toString_eq_repr, Int.repr_eq_if]
  by_cases hn : 0 ≤ n
  · rw [if_pos hn, if_pos hn, Nat.toList_repr]
  · rw [if_neg hn, if_neg hn, String.toList_append, Nat.toList_repr]
    rfl

theorem integer?_toString (n : Int) : integer? (toString n).toList = some n := by
  rw [toList_toString_int]
  by_cases hn : 0 ≤ n
  · rw [if_pos hn, integer?_toDigits, Int.toNat_of_nonneg hn]
  · have hback : -(((-n).toNat : Nat) : Int) = n := by omega
    rw [if_neg hn, integer?, digits?_toDigits]
    exact congrArg some hback

theorem int64?_toString (n : Int64) : int64? (toString n.toInt) = some n := by
  have hlow := Int64.le_toInt n
  have hhigh := Int64.toInt_lt n
  have hfits : (-0x8000000000000000 ≤ n.toInt && n.toInt < 0x8000000000000000) = true := by
    rw [Bool.and_eq_true, decide_eq_true_iff, decide_eq_true_iff]
    exact ⟨hlow, hhigh⟩
  unfold int64?
  simp only [integer?_toString, Option.filter_some, hfits, if_true, Option.map_some,
    Int64.ofInt_toInt]

end Digits

section Trimming

theorem dropBlankEnd_of_solid (cs : List Char) (hcs : ∀ c ∈ cs, isBlank c = false) :
    dropBlankEnd cs = cs := by
  have hsame : cs.reverse.dropWhile isBlank = cs.reverse := by
    cases hrev : cs.reverse with
    | nil => rfl
    | cons c rest =>
      have hmem : c ∈ cs := by
        rw [← List.mem_reverse, hrev]
        exact List.mem_cons_self
      rw [List.dropWhile_cons_of_neg]
      rw [hcs c hmem]
      exact Bool.false_ne_true
  unfold dropBlankEnd
  rw [hsame, List.reverse_reverse]

/-- Where there is no blank at all there is none to take away. -/
theorem trim_of_solid (s : String) (hs : ∀ c ∈ s.toList, isBlank c = false) : trim s = s := by
  have hstart : s.toList.dropWhile isBlank = s.toList := by
    cases hlist : s.toList with
    | nil => rfl
    | cons c rest =>
      rw [List.dropWhile_cons_of_neg]
      rw [hs c (hlist ▸ List.mem_cons_self)]
      exact Bool.false_ne_true
  unfold trim trimChars
  rw [hstart, dropBlankEnd_of_solid _ hs, String.ofList_toList]

theorem trimChars_padded (core : List Char) {front back : List Char}
    (hfront : ∀ c ∈ front, isBlank c = true) (hback : ∀ c ∈ back, isBlank c = true) :
    trimChars (front ++ core ++ back) = trimChars core := by
  have hstart : (front ++ core ++ back).dropWhile isBlank = (core ++ back).dropWhile isBlank := by
    rw [List.append_assoc, List.dropWhile_append_of_pos hfront]
  have hend : ∀ cs, dropBlankEnd (cs ++ back) = dropBlankEnd cs := by
    intro cs
    have hreverse : ∀ c ∈ back.reverse, isBlank c = true := fun c hc =>
      hback c (List.mem_reverse.mp hc)
    unfold dropBlankEnd
    rw [List.reverse_append, List.dropWhile_append_of_pos hreverse]
  unfold trimChars
  rw [hstart, List.dropWhile_append]
  split
  · rename_i hcore
    have hnil : (back ++ []).dropWhile isBlank = [] := List.dropWhile_append_of_pos hback
    rw [List.append_nil] at hnil
    rw [hnil, List.isEmpty_iff.mp hcore]
  · exact hend _

/-- White space around a text is taken away with what it has of its own. -/
theorem trim_padded (core : String) {front back : String} (hfront : isAllBlank front = true)
    (hback : isAllBlank back = true) : trim (front ++ core ++ back) = trim core := by
  unfold trim
  rw [String.toList_append, String.toList_append, trimChars_padded core.toList
    (List.all_eq_true.mp hfront) (List.all_eq_true.mp hback)]

theorem isBlank_of_isDigit (c : Char) (hc : c.isDigit) : isBlank c = false := by
  rw [Char.isDigit_iff_toNat] at hc
  have hlow : 48 ≤ c.toNat := hc.1
  have hhigh : c.toNat ≤ 57 := hc.2
  unfold isBlank
  simp only [Bool.or_eq_false_iff, Bool.and_eq_false_iff, decide_eq_false_iff_not, beq_eq_false_iff_ne]
  omega

theorem trim_toString (n : Int) : trim (toString n) = toString n := by
  apply trim_of_solid
  have hdigits : ∀ m, ∀ c ∈ Nat.toDigits 10 m, isBlank c = false := fun m c hc =>
    isBlank_of_isDigit c (Nat.isDigit_of_mem_toDigits (by omega) (by omega) hc)
  intro c hc
  rw [toList_toString_int] at hc
  by_cases hn : 0 ≤ n
  · rw [if_pos hn] at hc
    exact hdigits n.toNat c hc
  · rw [if_neg hn, List.mem_cons] at hc
    obtain rfl | hc := hc
    · decide
    · exact hdigits (-n).toNat c hc

end Trimming

end ZigbeeBridge.Text
