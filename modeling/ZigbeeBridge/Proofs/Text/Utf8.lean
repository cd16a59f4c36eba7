import ZigbeeBridge.Text.Utf8

/-!
Cuts counted in bytes. A number of bytes cuts a text exactly where some characters at its beginning
take that many. The last such place within a limit is found by stepping back from the limit, and
what stands before it is the longest beginning of the text that fits.
-/
namespace ZigbeeBridge.Text

theorem byteLength_append (front back : List Char) :
    byteLength (front ++ back) = byteLength front + byteLength back := by
  induction front with
  | nil => simp [byteLength]
  | cons c front ih =>
    rw [List.cons_append, byteLength_cons, byteLength_cons, ih]
    omega

theorem dropBytes?_of_byteLength (front back : List Char) :
    dropBytes? (byteLength front) (front ++ back) = some back := by
  induction front with
  | nil => simp [byteLength, dropBytes?]
  | cons c front ih =>
    have hpos := c.utf8Size_pos
    obtain ⟨count, hcount⟩ : ∃ count, byteLength (c :: front) = count + 1 :=
      ⟨c.utf8Size + byteLength front - 1, by rw [byteLength_cons]; omega⟩
    have hrest : count + 1 - c.utf8Size = byteLength front := by
      rw [byteLength_cons] at hcount
      omega
    rw [hcount, List.cons_append, dropBytes?, hrest, ih, if_pos]
    rw [byteLength_cons] at hcount
    omega

/-- What is left is the end of the text, and what is gone took as many bytes. -/
theorem dropBytes?_eq_some_iff {count : Nat} {cs back : List Char} :
    dropBytes? count cs = some back ↔
      ∃ front, cs = front ++ back ∧ byteLength front = count := by
  constructor
  · intro h
    fun_induction dropBytes? count cs with
    | case1 cs =>
      cases h
      exact ⟨[], rfl, rfl⟩
    | case2 count => cases h
    | case3 count c cs hle ih =>
      obtain ⟨front, rfl, hfront⟩ := ih h
      refine ⟨c :: front, rfl, ?_⟩
      rw [byteLength_cons]
      omega
    | case4 count c cs hle => cases h
  · rintro ⟨front, rfl, rfl⟩
    exact dropBytes?_of_byteLength front back

/-- The first bytes of a text; none where they end inside a character or past the end. -/
def headBytes? (count : Nat) (cs : List Char) : Option (List Char) :=
  (dropBytes? count cs).map fun rest => cs.take (cs.length - rest.length)

theorem headBytes?_eq_some_iff {count : Nat} {cs front : List Char} :
    headBytes? count cs = some front ↔
      ∃ rest, cs = front ++ rest ∧ byteLength front = count := by
  unfold headBytes?
  rw [Option.map_eq_some_iff]
  constructor
  · rintro ⟨rest, hrest, rfl⟩
    obtain ⟨front, rfl, hfront⟩ := dropBytes?_eq_some_iff.mp hrest
    have htake : (front ++ rest).take ((front ++ rest).length - rest.length) = front := by simp
    rw [htake]
    exact ⟨rest, rfl, hfront⟩
  · rintro ⟨rest, rfl, rfl⟩
    exact ⟨rest, dropBytes?_of_byteLength front rest, by simp⟩

section Boundaries

theorem utf8ByteSize_eq_byteLength (s : String) : s.utf8ByteSize = byteLength s.toList := by
  obtain ⟨cs, rfl⟩ := s.exists_eq_ofList
  rw [String.toList_ofList]
  induction cs with
  | nil => rfl
  | cons c cs ih =>
    rw [byteLength_cons, ← ih, String.ofList_cons, String.utf8ByteSize_append,
      String.utf8ByteSize_singleton]

/-- A search from a place towards the beginning, byte by byte, for one where no character is cut:
the end, or a byte that starts a character. It fails when there is no byte left to step back over. -/
def lastBoundary? (s : String) : Nat → Option Nat
  | 0 => if String.Pos.Raw.isValid s ⟨0⟩ then some 0 else none
  | place + 1 =>
    if String.Pos.Raw.isValid s ⟨place + 1⟩ then some (place + 1) else lastBoundary? s place

theorem isValid_iff {s : String} {place : Nat} :
    String.Pos.Raw.isValid s ⟨place⟩ = true ↔
      ∃ front back, s = front ++ back ∧ front.utf8ByteSize = place := by
  rw [String.Pos.Raw.isValid_eq_true_iff, String.Pos.Raw.isValid_iff_exists_append]
  simp only [String.Pos.Raw.ext_iff, String.byteIdx_rawEndPos, eq_comm]

/-- The search ends at the last boundary on its way. -/
theorem lastBoundary?_of_isValid {s : String} {start place : Nat} (hle : place ≤ start)
    (hvalid : String.Pos.Raw.isValid s ⟨place⟩ = true)
    (hnone : ∀ between, place < between → between ≤ start →
      String.Pos.Raw.isValid s ⟨between⟩ = false) :
    lastBoundary? s start = some place := by
  induction start with
  | zero =>
    obtain rfl : place = 0 := by omega
    rw [lastBoundary?, if_pos hvalid]
  | succ start ih =>
    rw [lastBoundary?]
    rcases Nat.lt_or_eq_of_le hle with hlt | rfl
    · have hhere := hnone (start + 1) hlt (Nat.le_refl _)
      rw [hhere, if_neg Bool.false_ne_true]
      exact ih (by omega) fun between hback hfar => hnone between hback (by omega)
    · rw [if_pos hvalid]

end Boundaries

section Shortening

/-- Every beginning of a text that fits is a beginning of what is taken. -/
theorem prefix_takeBytes {limit : Nat} {front cs : List Char} (hfront : front <+: cs)
    (hfits : byteLength front ≤ limit) : front <+: takeBytes limit cs := by
  induction cs generalizing limit front with
  | nil => rwa [takeBytes]
  | cons c cs ih =>
    cases front with
    | nil => exact List.nil_prefix
    | cons d front =>
      obtain ⟨rfl, hrest⟩ := List.cons_prefix_cons.mp hfront
      rw [byteLength_cons] at hfits
      rw [takeBytes, if_pos (by omega)]
      exact (List.prefix_cons_inj d).mpr (ih hrest (by omega))

theorem takeBytes_of_fits {limit : Nat} {cs : List Char} (hfits : byteLength cs ≤ limit) :
    takeBytes limit cs = cs := by
  have hbeginning := takeBytes_prefix limit cs
  have hwhole := prefix_takeBytes (List.prefix_refl cs) hfits
  exact hbeginning.eq_of_length_le hwhole.length_le

/-- The first character that is left out takes at most four bytes and does not fit. -/
theorem le_byteLength_takeBytes {limit : Nat} {cs : List Char} (hlong : limit < byteLength cs) :
    limit ≤ byteLength (takeBytes limit cs) + 3 := by
  obtain ⟨rest, hcs⟩ := takeBytes_prefix limit cs
  cases rest with
  | nil =>
    have hbound := byteLength_takeBytes limit cs
    rw [List.append_nil] at hcs
    rw [hcs] at hbound
    omega
  | cons c rest =>
    have hmore : takeBytes limit cs ++ [c] <+: cs := ⟨rest, by rw [List.append_assoc]; exact hcs⟩
    have hsize : byteLength (takeBytes limit cs ++ [c]) =
        byteLength (takeBytes limit cs) + c.utf8Size := byteLength_append _ [c]
    have hfour := c.utf8Size_le_four
    have hover : limit < byteLength (takeBytes limit cs ++ [c]) := by
      refine Nat.lt_of_not_le fun hfits => ?_
      have hlonger := (prefix_takeBytes hmore hfits).length_le
      rw [List.length_append, List.length_singleton] at hlonger
      omega
    omega

/-- One byte and then four at a time leave three bytes of the limit empty. -/
example : byteLength (takeBytes 200 ('a' :: List.replicate 50 '💡')) = 197 := by decide

/-- The beginning of a text up to the last boundary within a limit. There is none where the search
for it runs out of bytes, or where a character would be cut. -/
def shorten? (limit : Nat) (s : String) : Option String := do
  let place ← lastBoundary? s (min s.utf8ByteSize limit)
  let front ← headBytes? place s.toList
  some (String.ofList front)

/-- What the search leaves of a text that is to take no more than a number of bytes. -/
structure Shortened (limit : Nat) (s short : String) : Prop where
  found : shorten? limit s = some short
  beginning : ∃ rest, s = short ++ rest
  fits : short.utf8ByteSize ≤ limit
  longest : ∀ front rest, s = front ++ rest → front.utf8ByteSize ≤ limit →
    ∃ more, short = front ++ more
  whole : s.utf8ByteSize ≤ limit → short = s
  full : limit < s.utf8ByteSize → limit - 3 ≤ short.utf8ByteSize

theorem toList_takeBytesOf (limit : Nat) (s : String) :
    (takeBytesOf limit s).toList = takeBytes limit s.toList := String.toList_ofList

theorem exists_append_takeBytesOf (limit : Nat) (s : String) :
    ∃ rest, s = takeBytesOf limit s ++ rest := by
  obtain ⟨rest, hrest⟩ := takeBytes_prefix limit s.toList
  refine ⟨String.ofList rest, String.toList_inj.mp ?_⟩
  rw [String.toList_append, toList_takeBytesOf, String.toList_ofList, hrest]

theorem utf8ByteSize_takeBytesOf (limit : Nat) (s : String) :
    (takeBytesOf limit s).utf8ByteSize ≤ limit := by
  rw [utf8ByteSize_eq_byteLength, toList_takeBytesOf]
  exact byteLength_takeBytes limit s.toList

theorem exists_append_of_fits {limit : Nat} {s front rest : String} (hs : s = front ++ rest)
    (hfits : front.utf8ByteSize ≤ limit) : ∃ more, takeBytesOf limit s = front ++ more := by
  have hfront : front.toList <+: s.toList := ⟨rest.toList, by rw [hs, String.toList_append]⟩
  rw [utf8ByteSize_eq_byteLength] at hfits
  obtain ⟨more, hmore⟩ := prefix_takeBytes hfront hfits
  refine ⟨String.ofList more, String.toList_inj.mp ?_⟩
  rw [String.toList_append, toList_takeBytesOf, String.toList_ofList, hmore]

/-- The search from the limit ends where the characters that fit do. -/
theorem lastBoundary?_takeBytesOf (limit : Nat) (s : String) :
    lastBoundary? s (min s.utf8ByteSize limit) = some (takeBytesOf limit s).utf8ByteSize := by
  obtain ⟨rest, hrest⟩ := exists_append_takeBytesOf limit s
  apply lastBoundary?_of_isValid
  · have hsize := congrArg String.utf8ByteSize hrest
    rw [String.utf8ByteSize_append] at hsize
    have hfits := utf8ByteSize_takeBytesOf limit s
    omega
  · exact isValid_iff.mpr ⟨_, rest, hrest, rfl⟩
  · intro between hback hfar
    -- at a boundary further on, a longer beginning that still fits would end
    rw [← Bool.not_eq_true, isValid_iff]
    rintro ⟨front, back, hs, rfl⟩
    have hfits : front.utf8ByteSize ≤ limit := by omega
    obtain ⟨more, hmore⟩ := exists_append_of_fits hs hfits
    rw [hmore, String.utf8ByteSize_append] at hback
    omega

theorem shorten?_eq (limit : Nat) (s : String) :
    shorten? limit s = some (takeBytesOf limit s) := by
  obtain ⟨rest, hrest⟩ := takeBytes_prefix limit s.toList
  have hhead : headBytes? (takeBytesOf limit s).utf8ByteSize s.toList =
      some (takeBytes limit s.toList) := by
    rw [utf8ByteSize_eq_byteLength, toList_takeBytesOf, headBytes?_eq_some_iff]
    exact ⟨rest, hrest.symm, rfl⟩
  unfold shorten?
  rw [lastBoundary?_takeBytesOf, Option.bind_eq_bind, Option.bind_some, hhead]
  rfl

theorem takeBytesOf_of_fits {limit : Nat} {s : String} (hfits : s.utf8ByteSize ≤ limit) :
    takeBytesOf limit s = s := by
  apply String.toList_inj.mp
  rw [toList_takeBytesOf]
  exact takeBytes_of_fits (utf8ByteSize_eq_byteLength s ▸ hfits)

theorem shortened_takeBytesOf (limit : Nat) (s : String) :
    Shortened limit s (takeBytesOf limit s) where
  found := shorten?_eq limit s
  beginning := exists_append_takeBytesOf limit s
  fits := utf8ByteSize_takeBytesOf limit s
  longest _ _ := exists_append_of_fits
  whole := takeBytesOf_of_fits
  full hlong := by
    rw [utf8ByteSize_eq_byteLength] at hlong ⊢
    rw [toList_takeBytesOf]
    have hbound := le_byteLength_takeBytes hlong
    omega

end Shortening

end ZigbeeBridge.Text
