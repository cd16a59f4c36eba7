import ZigbeeBridge.Proofs.Data.Result
import ZigbeeBridge.Proofs.Text.Integer
import ZigbeeBridge.Proofs.Text.Span
import ZigbeeBridge.Proofs.Url.Root

/-!
Addresses of machines are read as they are written: four decimal numbers, or up to eight hexadecimal
ones with the longest run of zeros left out.
-/
namespace ZigbeeBridge.Url

open Data

section Numbers

theorem hexValue?_digitChar : ∀ d < 16, Text.hexValue? (Nat.digitChar d) = some d := by
  decide

variable {radix : Nat}

theorem digitIn?_digitChar (hradix : radix ≤ 16) {d : Nat} (hd : d < radix) :
    Ipv4.digitIn? radix (Nat.digitChar d) = some d := by
  unfold Ipv4.digitIn?
  rw [hexValue?_digitChar d (by omega)]
  exact if_pos (decide_eq_true hd)

theorem numberIn?_toDigits (hlow : 1 < radix) (hhigh : radix ≤ 16) (n : Nat) :
    Ipv4.numberIn? radix (Nat.toDigits radix n) = some n := by
  induction n using Nat.strongRecOn with
  | _ n ih =>
    rw [Nat.toDigits_eq_if hlow]
    split
    · rename_i hlt
      unfold Ipv4.numberIn?
      rw [List.foldlM_cons, digitIn?_digitChar hhigh hlt]
      simp
    · rename_i hge
      have hfront := ih (n / radix) (Nat.div_lt_self (by omega) hlow)
      have hlast := digitIn?_digitChar hhigh (Nat.mod_lt n (by omega : 0 < radix))
      unfold Ipv4.numberIn? at hfront ⊢
      rw [List.foldlM_append, hfront]
      dsimp only [Option.bind_eq_bind, Option.bind_some]
      rw [List.foldlM_cons, hlast]
      have hsplit := Nat.div_add_mod' n radix
      simp [hsplit]

theorem isAlphanum_of_mem_toDigits (hlow : 0 < radix) (hhigh : radix ≤ 16) (n : Nat) :
    ∀ c ∈ Nat.toDigits radix n, c.isAlphanum = true ∧ c.toNat < 0x80 ∧ c.toLower = c := by
  intro c hc
  obtain ⟨d, hd, rfl⟩ := exists_digitChar radix hlow n c hc
  have hall : ∀ d < 16, (Nat.digitChar d).isAlphanum = true ∧ (Nat.digitChar d).toNat < 0x80 ∧
      (Nat.digitChar d).toLower = Nat.digitChar d := by decide
  exact hall d (by omega)

end Numbers

section Ipv4

theorem number?_toDigits (n : Nat) : Ipv4.number? (Nat.toDigits 10 n) = some n := by
  have hnumber : Ipv4.numberIn? 10 (Nat.toDigits 10 n) = some n :=
    numberIn?_toDigits (by omega) (by omega) n
  by_cases hn : n = 0
  · subst hn
    rfl
  · have hhead := Text.head?_toDigits n hn
    unfold Ipv4.number?
    split
    · rename_i hnil
      exact absurd hnil Nat.toDigits_ne_nil
    · rename_i hzero
      rw [hzero] at hhead
      exact absurd rfl hhead
    · rename_i hzero
      rw [hzero] at hhead
      exact absurd rfl hhead
    · rename_i hzero
      rw [hzero] at hhead
      exact absurd rfl hhead
    · exact hnumber

def octets (address : UInt32) : List Nat :=
  [24, 16, 8, 0].map fun shift => address.toNat >>> shift % 256

theorem toList_ipv4 (address : UInt32) :
    (Ipv4.text address).toList = ['.'].intercalate ((octets address).map (Nat.toDigits 10)) := by
  unfold Ipv4.text octets
  rw [String.toList_intercalate, List.map_map, List.map_map]
  have hdigits : ∀ n : Nat, (toString n).toList = Nat.toDigits 10 n := fun n => Nat.toList_repr
  have hdot : ".".toList = ['.'] := by decide
  simp only [Function.comp_def, hdigits, hdot]

theorem splitDots_ipv4 (address : UInt32) :
    Ipv4.splitDots (Ipv4.text address).toList = (octets address).map (Nat.toDigits 10) := by
  rw [toList_ipv4]
  refine List.splitOn_intercalate '.' (fun part hpart hdot => ?_) (by simp [octets])
  obtain ⟨n, -, rfl⟩ := List.mem_map.mp hpart
  have hdigit := (isAlphanum_of_mem_toDigits (by omega) (by omega) n '.' hdot).1
  exact absurd hdigit (by decide)

theorem looksLike_ipv4 (address : UInt32) :
    Ipv4.looksLike (Ipv4.text address).toList = true := by
  obtain ⟨c, cs, hlast⟩ := List.exists_cons_of_ne_nil
    (Nat.toDigits_ne_nil (n := address.toNat >>> 0 % 256) (b := 10))
  have hnumber := number?_toDigits (address.toNat >>> 0 % 256)
  rw [hlast] at hnumber
  unfold Ipv4.looksLike
  rw [splitDots_ipv4]
  unfold octets
  simp only [List.map_cons, List.map_nil, List.reverse_cons, List.reverse_nil, List.nil_append,
    List.cons_append, hlast, hnumber, Option.isSome_some, Bool.or_true]

/-- The four parts make the address. -/
theorem sum_octets (n : Nat) (hn : n < 2 ^ 32) :
    (256 * (256 * (256 * 0 + n >>> 24 % 256) + n >>> 16 % 256) + n >>> 8 % 256) <<< 8 +
      n >>> 0 % 256 = n := by
  simp only [Nat.shiftRight_eq_div_pow, Nat.shiftLeft_eq]
  omega

theorem parse_ipv4 (address : UInt32) :
    Ipv4.parse (Ipv4.text address).toList = .ok address := by
  obtain ⟨c, cs, hlast⟩ := List.exists_cons_of_ne_nil
    (Nat.toDigits_ne_nil (n := address.toNat >>> 0 % 256) (b := 10))
  have hnumbers : ((octets address).map (Nat.toDigits 10)).mapM Ipv4.number? =
      some (octets address) := by
    unfold octets
    simp only [List.map_cons, List.map_nil, List.mapM_cons, List.mapM_nil, number?_toDigits]
    rfl
  have hreverse : ((octets address).map (Nat.toDigits 10)).reverse =
      (c :: cs) :: ((octets address).take 3 |>.map (Nat.toDigits 10)).reverse := by
    rw [← hlast]
    rfl
  have hfits : ¬((octets address).map (Nat.toDigits 10)).length > 4 := by
    rw [List.length_map]
    exact Nat.lt_irrefl 4
  have hlist : (octets address).reverse = [address.toNat >>> 0 % 256, address.toNat >>> 8 % 256,
      address.toNat >>> 16 % 256, address.toNat >>> 24 % 256] := rfl
  have hroom : (address.toNat >>> 0 % 256) >>> 8 = 0 := by
    rw [Nat.shiftRight_eq_div_pow]
    omega
  have hsum := sum_octets address.toNat address.toNat_lt
  unfold Ipv4.parse
  rw [splitDots_ipv4]
  dsimp only
  rw [hreverse]
  dsimp only
  rw [if_neg hfits, hnumbers]
  dsimp only
  rw [hlist]
  dsimp only
  rw [if_neg]
  · exact congrArg Except.ok ((congrArg UInt32.ofNat hsum).trans UInt32.ofNat_toNat)
  · rintro (hlast | hothers)
    · exact hlast hroom
    · simp only [List.any_cons, List.any_nil, Bool.or_false, Bool.or_eq_true,
        decide_eq_true_eq] at hothers
      omega

end Ipv4

section Ipv6

open Ipv6

theorem hex_spec (piece : UInt16) : (hex piece).toList ≠ [] ∧
    (∀ c ∈ (hex piece).toList, c ≠ ':' ∧ c ≠ '.') ∧ piece? (hex piece).toList = some piece := by
  have hlist : (hex piece).toList = Nat.toDigits 16 piece.toNat := String.toList_ofList
  rw [hlist]
  refine ⟨Nat.toDigits_ne_nil, fun c hc => ?_, ?_⟩
  · have halpha := (isAlphanum_of_mem_toDigits (by omega) (by omega) _ c hc).1
    constructor
    · rintro rfl
      exact absurd halpha (by decide)
    · rintro rfl
      exact absurd halpha (by decide)
  · have hlength : (Nat.toDigits 16 piece.toNat).length ≤ 4 :=
      (Nat.length_toDigits_le_iff (by omega) (by omega)).mpr piece.toNat_lt
    have hne : (Nat.toDigits 16 piece.toNat).isEmpty = false :=
      List.isEmpty_eq_false_iff.mpr Nat.toDigits_ne_nil
    unfold piece?
    rw [hne, numberIn?_toDigits (by omega) (by omega), if_neg (by simpa using hlength)]
    exact congrArg some UInt16.ofNat_toNat

/-- What is read first of a text that begins with a piece. -/
theorem word_hex (piece : UInt16) (rest : List Char) (hrest : ∀ c ∈ rest.head?, c = ':') :
    ((hex piece).toList ++ rest).takeWhile (· ≠ ':') = (hex piece).toList ∧
      ((hex piece).toList ++ rest).dropWhile (· ≠ ':') = rest ∧
      (hex piece).toList.contains '.' = false ∧
      (∀ rest', (hex piece).toList ++ rest = ':' :: rest' → False) := by
  obtain ⟨hne, hplain, -⟩ := hex_spec piece
  have hcolons : ∀ c ∈ (hex piece).toList, decide (c ≠ ':') = true := fun c hc =>
    decide_eq_true (hplain c hc).1
  have hstop : ∀ c ∈ rest.head?, decide (c ≠ ':') = false := by
    intro c hc
    rw [hrest c hc]
    rfl
  refine ⟨Text.takeWhile_stop hcolons hstop, Text.dropWhile_stop hcolons hstop, ?_,
    fun rest' heq => ?_⟩
  · rw [List.contains_eq_mem, decide_eq_false_iff_not]
    exact fun hdot => (hplain '.' hdot).2 rfl
  · obtain ⟨c, cs, hcs⟩ := List.exists_cons_of_ne_nil hne
    rw [hcs, List.cons_append] at heq
    have hc := (hplain c (hcs ▸ List.mem_cons_self)).1
    exact hc (List.cons.inj heq).1

theorem pieces_hex (fuel : Nat) (p : Draft) (hroom : p.size < 8) (piece : UInt16) :
    pieces (fuel + 1) p (hex piece).toList = (p.add piece).finish := by
  obtain ⟨hne, -, hpiece⟩ := hex_spec piece
  obtain ⟨htake, hdrop, hdots, hcolon⟩ := word_hex piece [] (by simp)
  rw [List.append_nil] at htake hdrop hcolon
  rw [pieces, if_neg (by omega)]
  · simp only [htake, hdrop, hdots, hpiece, Bool.false_eq_true, if_false]
  · exact hne
  · exact hcolon

theorem pieces_hex_colon (fuel : Nat) (p : Draft) (hroom : p.size < 8) (piece : UInt16)
    {rest : List Char} (hrest : rest ≠ []) :
    pieces (fuel + 1) p ((hex piece).toList ++ ':' :: rest) = pieces fuel (p.add piece) rest := by
  obtain ⟨hne, -, hpiece⟩ := hex_spec piece
  obtain ⟨htake, hdrop, hdots, hcolon⟩ := word_hex piece (':' :: rest) (by simp)
  obtain ⟨c, cs, rfl⟩ := List.exists_cons_of_ne_nil hrest
  rw [pieces, if_neg (by omega)]
  · simp only [htake, hdrop, hdots, hpiece, Bool.false_eq_true, if_false]
  · simp
  · exact hcolon

theorem pieces_colon (fuel : Nat) (p : Draft) (hroom : p.size < 8) (hplain : p.compressed = false)
    (rest : List Char) :
    pieces (fuel + 1) p (':' :: rest) = pieces fuel { p with compressed := true } rest := by
  rw [pieces, if_neg (by omega), hplain]
  rfl

def addAll (p : Draft) (list : List UInt16) : Draft := list.foldl Draft.add p

theorem size_add (p : Draft) (piece : UInt16) : (p.add piece).size = p.size + 1 := by
  unfold Draft.add Draft.size
  split
  · rw [List.length_append, List.length_singleton]
    dsimp only
    omega
  · rw [List.length_append, List.length_singleton]
    dsimp only
    omega

theorem toList_joined (list : List UInt16) :
    (joined list).toList = [':'].intercalate (list.map fun piece => (hex piece).toList) := by
  have hcolon : ":".toList = [':'] := by decide
  unfold joined
  rw [String.toList_intercalate, List.map_map, hcolon]
  rfl

theorem joined_cons (piece next : UInt16) (list : List UInt16) :
    (joined (piece :: next :: list)).toList =
      (hex piece).toList ++ ':' :: (joined (next :: list)).toList := by
  rw [toList_joined, toList_joined, List.map_cons, List.map_cons, List.intercalate_cons_cons,
    List.append_assoc]
  rfl

theorem joined_singleton (piece : UInt16) : (joined [piece]).toList = (hex piece).toList := by
  rw [toList_joined]
  simp

theorem joined_ne_nil {list : List UInt16} (hne : list ≠ []) : (joined list).toList ≠ [] := by
  cases list with
  | nil => exact absurd rfl hne
  | cons piece list =>
    obtain ⟨hpiece, -, -⟩ := hex_spec piece
    cases list with
    | nil =>
      rw [joined_singleton]
      exact hpiece
    | cons next list =>
      rw [joined_cons]
      exact fun h => hpiece (List.append_eq_nil_iff.mp h).1

theorem pieces_joined (fuel : Nat) (p : Draft) (list : List UInt16) (hne : list ≠ [])
    (hroom : p.size + list.length ≤ 8) :
    pieces (fuel + list.length) p (joined list).toList = (addAll p list).finish := by
  induction list generalizing p with
  | nil => exact absurd rfl hne
  | cons piece list ih =>
    rw [List.length_cons] at hroom ⊢
    cases list with
    | nil =>
      rw [joined_singleton]
      exact pieces_hex fuel p (by omega) piece
    | cons next list =>
      rw [joined_cons, ← Nat.add_assoc, pieces_hex_colon _ p (by omega) piece
        (joined_ne_nil (List.cons_ne_nil _ _))]
      refine ih (p.add piece) (List.cons_ne_nil _ _) ?_
      rw [size_add]
      omega

/-- Pieces in front of the compressed run. -/
theorem pieces_front (fuel : Nat) (p : Draft) (list : List UInt16) (hne : list ≠ [])
    (hroom : p.size + list.length ≤ 8) {rest : List Char} (hrest : rest ≠ []) :
    pieces (fuel + list.length) p ((joined list).toList ++ ':' :: rest) =
      pieces fuel (addAll p list) rest := by
  induction list generalizing p with
  | nil => exact absurd rfl hne
  | cons piece list ih =>
    rw [List.length_cons] at hroom ⊢
    cases list with
    | nil =>
      rw [joined_singleton]
      exact pieces_hex_colon fuel p (by omega) piece hrest
    | cons next list =>
      rw [joined_cons, List.append_assoc, List.cons_append, ← Nat.add_assoc,
        pieces_hex_colon _ p (by omega) piece (by simp)]
      refine ih (p.add piece) (List.cons_ne_nil _ _) ?_
      rw [size_add]
      omega

theorem addAll_plain (front : List UInt16) (list : List UInt16) :
    addAll ⟨front, false, []⟩ list = ⟨front ++ list, false, []⟩ := by
  induction list generalizing front with
  | nil => simp [addAll]
  | cons piece list ih =>
    have hstep := ih (front ++ [piece])
    rw [List.append_assoc] at hstep
    exact hstep

theorem addAll_compressed (front back : List UInt16) (list : List UInt16) :
    addAll ⟨front, true, back⟩ list = ⟨front, true, back ++ list⟩ := by
  induction list generalizing back with
  | nil => simp [addAll]
  | cons piece list ih =>
    have hstep := ih (back ++ [piece])
    rw [List.append_assoc] at hstep
    exact hstep

theorem finish_compressed (front back : List UInt16) (n : Nat)
    (hlength : front.length + n + back.length = 8) :
    (Draft.mk front true back).finish = .ok (front ++ List.replicate n 0 ++ back) := by
  have hsize : 9 - (Draft.mk front true back).size = n := by
    unfold Draft.size
    rw [if_pos rfl]
    dsimp only
    omega
  unfold Draft.finish
  rw [hsize]
  rfl

/-- A run of zeros of an address, or none. -/
structure IsRun (list : List UInt16) (run : Nat × Nat) : Prop where
  inside : run.1 + run.2 ≤ list.length
  zero : (list.drop run.1).take run.2 = List.replicate run.2 0

theorem isRun_zeroRun (list : List UInt16) {i : Nat} (hi : i ≤ list.length) :
    IsRun list (i, zeroRun (list.drop i)) := by
  have hprefix := List.takeWhile_prefix (· == 0) (l := list.drop i)
  refine ⟨?_, ?_⟩
  · have hlength := hprefix.length_le
    rw [List.length_drop] at hlength
    unfold zeroRun
    dsimp only
    omega
  · unfold zeroRun
    dsimp only
    rw [← List.prefix_iff_eq_take.mp hprefix, List.eq_replicate_iff]
    refine ⟨rfl, fun piece hpiece => ?_⟩
    have hall := List.all_eq_true.mp (List.all_takeWhile (p := (· == 0)) (l := list.drop i))
    exact beq_iff_eq.mp (hall piece hpiece)

theorem isRun_longestRun (list : List UInt16) : IsRun list (longestRun list) := by
  have hfold : ∀ (is : List Nat) (best : Nat × Nat), (∀ i ∈ is, i ≤ list.length) →
      IsRun list best → IsRun list (is.foldl (fun best i =>
        if zeroRun (list.drop i) > best.2 ∧ zeroRun (list.drop i) ≥ 2 then
          (i, zeroRun (list.drop i)) else best) best) := by
    intro is
    induction is with
    | nil => exact fun best _ hbest => hbest
    | cons i is ih =>
      intro best his hbest
      refine ih _ (fun j hj => his j (List.mem_cons_of_mem _ hj)) ?_
      dsimp only
      split
      · exact isRun_zeroRun list (his i List.mem_cons_self)
      · exact hbest
  refine hfold (List.range list.length) (0, 0) (fun i hi => ?_) ⟨Nat.zero_le _, rfl⟩
  exact Nat.le_of_lt (List.mem_range.mp hi)

/-- The pieces around a run are all of the address. -/
theorem IsRun.split {list : List UInt16} {start n : Nat} (hrun : IsRun list (start, n)) :
    list.take start ++ List.replicate n 0 ++ list.drop (start + n) = list := by
  have hzero := hrun.zero
  dsimp only at hzero
  rw [← hzero, List.append_assoc, ← List.drop_drop, List.take_append_drop, List.take_append_drop]

theorem pieces_back (fuel : Nat) (front back : List UInt16) (n : Nat)
    (hlength : front.length + n + back.length = 8) (hn : n ≠ 0) :
    pieces (fuel + 1 + back.length) ⟨front, true, []⟩ (joined back).toList =
      .ok (front ++ List.replicate n 0 ++ back) := by
  have hfinish := finish_compressed front back n hlength
  by_cases hback : back = []
  · subst hback
    exact hfinish
  · have hsize : (Draft.mk front true []).size = front.length + 1 := rfl
    rw [pieces_joined (fuel + 1) _ back hback (by omega), addAll_compressed]
    exact hfinish

/-- A piece takes at least one character. -/
theorem length_joined (list : List UInt16) : list.length ≤ (joined list).toList.length := by
  induction list with
  | nil => exact Nat.zero_le _
  | cons piece list ih =>
    have hpiece := List.length_pos_iff.mpr (hex_spec piece).1
    cases list with
    | nil =>
      rw [joined_singleton]
      exact hpiece
    | cons next list =>
      rw [joined_cons, List.length_append, List.length_cons, List.length_cons (a := ':')]
      omega

/-- A text that begins with a piece has no compressed run in front. -/
theorem parse_joined (piece : UInt16) (list : List UInt16) (rest : List Char) :
    Ipv6.parse ((joined (piece :: list)).toList ++ rest) =
      pieces (((joined (piece :: list)).toList ++ rest).length + 1) ⟨[], false, []⟩
        ((joined (piece :: list)).toList ++ rest) := by
  obtain ⟨hne, hplain, -⟩ := hex_spec piece
  obtain ⟨c, cs, hcs⟩ := List.exists_cons_of_ne_nil hne
  have hc : c ≠ ':' := (hplain c (hcs ▸ List.mem_cons_self)).1
  have hfirst : ∃ cs', (joined (piece :: list)).toList ++ rest = c :: cs' := by
    cases list with
    | nil =>
      rw [joined_singleton, hcs]
      exact ⟨_, rfl⟩
    | cons next list =>
      rw [joined_cons, hcs]
      exact ⟨_, rfl⟩
  obtain ⟨cs', hcs'⟩ := hfirst
  rw [hcs']
  unfold Ipv6.parse
  split
  · rename_i heq
    exact absurd (List.cons.inj heq).1 hc
  · rename_i heq
    exact absurd (List.cons.inj heq).1 hc
  · rename_i heq
    cases heq
  · rfl

theorem parse_whole {list : List UInt16} (hlength : list.length = 8) :
    Ipv6.parse (joined list).toList = .ok list := by
  cases list with
  | nil => cases hlength
  | cons piece others =>
    have hshort := length_joined (piece :: others)
    obtain ⟨fuel, hfuel⟩ := Nat.exists_eq_add_of_le' (Nat.le_succ_of_le hshort)
    have hroom : (Draft.mk [] false []).size + (piece :: others).length ≤ 8 := by
      rw [hlength]
      exact Nat.le_refl 8
    have hparse := parse_joined piece others []
    rw [List.append_nil, Nat.add_one, hfuel,
      pieces_joined fuel _ _ (List.cons_ne_nil _ _) hroom, addAll_plain, List.nil_append] at hparse
    rw [hparse]
    unfold Draft.finish
    rw [if_neg Bool.false_ne_true]
    exact if_pos hlength

/-- Pieces around a run of zeros are read back with the run. -/
theorem parse_run (front back : List UInt16) (n : Nat)
    (hlength : front.length + n + back.length = 8) (hn : n ≠ 0) :
    Ipv6.parse ((joined front).toList ++ ':' :: ':' :: (joined back).toList) =
      .ok (front ++ List.replicate n 0 ++ back) := by
  have hback := length_joined back
  cases front with
  | nil =>
    have htext : (joined []).toList ++ ':' :: ':' :: (joined back).toList =
        ':' :: ':' :: (joined back).toList := rfl
    obtain ⟨fuel, hfuel⟩ : ∃ fuel, (joined back).toList.length + 1 + 1 + 1 =
        fuel + 1 + back.length := ⟨(joined back).toList.length + 2 - back.length, by omega⟩
    rw [htext]
    unfold Ipv6.parse
    rw [List.length_cons, List.length_cons, hfuel]
    exact pieces_back fuel [] back n hlength hn
  | cons piece front =>
    have hfront := length_joined (piece :: front)
    have hlong : ((joined (piece :: front)).toList ++ ':' :: ':' :: (joined back).toList).length =
        (joined (piece :: front)).toList.length + ((joined back).toList.length + 2) := by
      rw [List.length_append, List.length_cons, List.length_cons]
    -- Pieces and colons take at least as many characters as turns, so the fuel lasts.
    obtain ⟨fuel, hfuel⟩ := Nat.exists_eq_add_of_le' (Nat.add_le_add hfront hback)
    have hfuel' : ((joined (piece :: front)).toList ++
        ':' :: ':' :: (joined back).toList).length + 1 =
          fuel + 1 + 1 + back.length + 1 + (piece :: front).length := by
      omega
    have hroom : (Draft.mk (piece :: front) false []).size < 8 := by
      have hsize : (Draft.mk (piece :: front) false []).size = (piece :: front).length := rfl
      omega
    have hnone : (Draft.mk [] false []).size + (piece :: front).length ≤ 8 := by
      have hsize : (Draft.mk [] false []).size = 0 := rfl
      omega
    rw [parse_joined, hfuel', pieces_front _ _ _ (List.cons_ne_nil _ _) hnone
      (List.cons_ne_nil _ _), addAll_plain, List.nil_append, pieces_colon _ _ hroom rfl]
    exact pieces_back (fuel + 1) (piece :: front) back n hlength hn

theorem parse_ipv6 {list : List UInt16} (hlength : list.length = 8) :
    Ipv6.parse (Ipv6.text list).toList = .ok list := by
  have hrun := isRun_longestRun list
  unfold Ipv6.text
  generalize longestRun list = run at hrun
  obtain ⟨start, n⟩ := run
  have hsplit := hrun.split
  have hinside := hrun.inside
  dsimp only at hinside ⊢
  by_cases hn : n = 0
  · rw [if_pos hn]
    exact parse_whole hlength
  · have hlengths : (list.take start).length + n + (list.drop (start + n)).length = 8 := by
      rw [List.length_take, List.length_drop]
      omega
    have hmark : "::".toList = [':', ':'] := by decide
    rw [if_neg hn, String.toList_append, String.toList_append, List.append_assoc, hmark]
    exact (parse_run _ _ n hlengths hn).trans (congrArg Except.ok hsplit)

/-- A draft on the way to eight pieces. -/
structure IsDraft (p : Draft) : Prop where
  room : p.size ≤ 8
  back : p.compressed = false → p.back = []

theorem IsDraft.add {p : Draft} (hdraft : IsDraft p) (hroom : p.size < 8) (piece : UInt16) :
    IsDraft (p.add piece) := by
  refine ⟨by rw [size_add]; exact hroom, fun hplain => ?_⟩
  unfold Draft.add at hplain ⊢
  split
  · rename_i hcompressed
    rw [if_pos hcompressed] at hplain
    exact absurd (hcompressed.symm.trans hplain) (by decide)
  · rename_i hcompressed
    exact hdraft.back (Bool.eq_false_iff.mpr hcompressed)

theorem IsDraft.length_of_finish {p : Draft} (hdraft : IsDraft p) {list : List UInt16}
    (hlist : p.finish = .ok list) : list.length = 8 := by
  have hroom := hdraft.room
  unfold Draft.finish at hlist
  split at hlist
  · rename_i hcompressed
    cases hlist
    have hsize : p.size = p.front.length + 1 + p.back.length := by
      unfold Draft.size
      rw [if_pos hcompressed]
    rw [List.length_append, List.length_append, List.length_replicate]
    omega
  · rename_i hcompressed
    split at hlist
    · rename_i hsize
      cases hlist
      unfold Draft.size at hsize
      rw [if_neg hcompressed, hdraft.back (Bool.eq_false_iff.mpr hcompressed)] at hsize
      exact hsize
    · cases hlist

/-- However the text goes on, eight pieces come out. -/
theorem length_of_pieces {fuel : Nat} {p : Draft} {cs : List Char} {list : List UInt16}
    (hdraft : IsDraft p) (hlist : pieces fuel p cs = .ok list) : list.length = 8 := by
  induction fuel generalizing p cs with
  | zero => cases hlist
  | succ fuel ih =>
    cases cs with
    | nil => exact hdraft.length_of_finish hlist
    | cons c cs =>
      unfold pieces at hlist
      dsimp only at hlist
      split at hlist
      · cases hlist
      · rename_i hroom
        -- Whatever comes next is counted before it is put in, so there is room for it.
        have hadd := hdraft.add (Nat.not_le.mp hroom)
        split at hlist
        · split at hlist
          · cases hlist
          · rename_i hplain
            refine ih ⟨?_, fun h => absurd h.symm Bool.false_ne_true⟩ hlist
            have hsize : p.size = p.front.length + p.back.length := by
              unfold Draft.size
              rw [if_neg hplain, Nat.add_zero]
            unfold Draft.size
            rw [if_pos rfl]
            dsimp only
            omega
        · split at hlist
          · split at hlist
            · split at hlist
              · rename_i a b _ _ hsix
                have hroom' : (p.add a).size < 8 := by
                  rw [size_add]
                  omega
                exact ((hadd a).add hroom' b).length_of_finish hlist
              · cases hlist
            · cases hlist
          · split at hlist
            · exact (hadd _).length_of_finish hlist
            · cases hlist
            · exact ih (hadd _) hlist
            · cases hlist

theorem length_of_parse {cs : List Char} {list : List UInt16}
    (hlist : Ipv6.parse cs = .ok list) : list.length = 8 := by
  unfold Ipv6.parse at hlist
  split at hlist
  · exact length_of_pieces ⟨by decide, fun _ => rfl⟩ hlist
  · cases hlist
  · cases hlist
  · exact length_of_pieces ⟨by decide, fun _ => rfl⟩ hlist

end Ipv6

end ZigbeeBridge.Url
