import Mathlib
import ZigbeeBridge.Proofs.Text.Hex
import ZigbeeBridge.Proofs.Url.Root

/-!
How a text that is put into a path between two slashes comes out. It is a segment of its own if it
holds nothing that ends, divides or leaves a segment, and nothing that is dropped or taken for
escaped.
-/
namespace ZigbeeBridge.Url

/-- Characters that are escaped where a text is to be a single segment. -/
def inSegment : EncodeSet := fun c => inPath c || ['/', '\\', '%'].contains c

/-- Any text as a single segment. -/
def segment (text : String) : String := String.ofList (encode inSegment text.toList)

/-- A character that a segment may hold, written as itself or as its bytes. -/
def isHarmless (c : Char) : Bool :=
  !(isSlash true c || isBreak c || c == '%' || c == '?' || c == '#')

/-- What of a text behind a slash belongs to the path. -/
def kept (cs : List Char) : List Char := ((cleaned cs).takeWhile (· ≠ '#')).takeWhile (· ≠ '?')

/-- The segments of what is kept, before the dots are resolved. -/
def pieces (cs : List Char) : List (List Char) := (kept cs).splitOnP (isSlash true)

section Decoding

theorem decode_encodeByte (b : UInt8) (rest : List Char) :
    decode (encodeByte b ++ rest) = b :: decode rest := by
  have hbound : b.toNat < 256 := b.toNat_lt
  have hhigh := Text.hexValue_upperHexDigit (b.toNat / 16) (by omega)
  have hlow := Text.hexValue_upperHexDigit (b.toNat % 16) (by omega)
  have hdigits : 16 * (b.toNat / 16) + b.toNat % 16 = b.toNat := Nat.div_add_mod _ _
  rw [encodeByte, List.cons_append, List.cons_append, List.cons_append, List.nil_append, decode]
  simp only [hhigh, hlow, hdigits, UInt8.ofNat_toNat]

theorem decode_encodeBytes (bytes : List UInt8) (rest : List Char) :
    decode (bytes.flatMap encodeByte ++ rest) = bytes ++ decode rest := by
  induction bytes with
  | nil => rfl
  | cons b bytes ih =>
    rw [List.flatMap_cons, List.append_assoc, decode_encodeByte, ih, List.cons_append]

/-- Where percent signs are escaped too, the bytes of a text can be told from what is written. -/
theorem decode_encode {set : EncodeSet} (hset : set '%' = true) (cs : List Char) :
    decode (encode set cs) = cs.flatMap utf8 := by
  induction cs with
  | nil => rfl
  | cons c cs ih =>
    have hcons : encode set (c :: cs) = encodeChar set c ++ encode set cs := List.flatMap_cons
    rw [hcons, List.flatMap_cons, encodeChar]
    split
    · rw [decode_encodeBytes, ih]
    · rename_i hc
      have hpercent : c ≠ '%' := by
        rintro rfl
        exact hc hset
      have hplain : ∀ rest : List Char, decode (c :: rest) = utf8 c ++ decode rest := by
        intro rest
        rw [decode]
        rintro a b back heq
        exact absurd heq hpercent
      rw [List.singleton_append, hplain, ih]

/-- Different texts are different segments. -/
theorem segment_injective : Function.Injective segment := by
  intro text other h
  have hencode : encode inSegment text.toList = encode inSegment other.toList :=
    String.ofList_injective h
  have hbytes : text.toList.flatMap utf8 = other.toList.flatMap utf8 := by
    have hset : inSegment '%' = true := rfl
    rw [← decode_encode hset, ← decode_encode hset, hencode]
  have hutf8 : text.toList.utf8Encode = other.toList.utf8Encode :=
    congrArg List.toByteArray hbytes
  rw [← String.ofList_toList (s := text), ← String.ofList_toList (s := other)]
  exact String.toByteArray_inj.mp hutf8

end Decoding

section Pieces

variable {word : List Char} (hword : ∀ c ∈ word, isHarmless c = true)

include hword

theorem harmless_split {c : Char} (hc : c ∈ word) :
    isSlash true c = false ∧ isBreak c = false ∧ c ≠ '%' ∧ c ≠ '?' ∧ c ≠ '#' := by
  have h := hword c hc
  simp only [isHarmless, Bool.not_eq_true', Bool.or_eq_false_iff, beq_eq_false_iff_ne] at h
  exact ⟨h.1.1.1.1, h.1.1.1.2, h.1.1.2, h.1.2, h.2⟩

theorem filter_harmless : word.filter (!isBreak ·) = word := by
  rw [List.filter_eq_self]
  intro c hc
  rw [(harmless_split hword hc).2.1]
  rfl

theorem cleaned_harmless (back : List Char) :
    cleaned (word ++ '/' :: back) = word ++ '/' :: cleaned back := by
  unfold cleaned
  rw [List.reverse_append, List.reverse_cons, List.append_assoc, List.singleton_append,
    dropWhile_append_stop isEdge back.reverse word.reverse '/' rfl, List.reverse_append,
    List.reverse_cons, List.reverse_reverse, List.append_assoc, List.singleton_append,
    List.filter_append, filter_harmless hword, List.filter_cons_of_pos rfl]

theorem kept_harmless (back : List Char) :
    kept (word ++ '/' :: back) = word ++ '/' :: kept back := by
  have hhash : ∀ c ∈ word, decide (c ≠ '#') = true := fun c hc =>
    decide_eq_true (harmless_split hword hc).2.2.2.2
  have hquestion : ∀ c ∈ word, decide (c ≠ '?') = true := fun c hc =>
    decide_eq_true (harmless_split hword hc).2.2.2.1
  unfold kept
  rw [cleaned_harmless hword, List.takeWhile_append_of_pos hhash,
    List.takeWhile_cons_of_pos (by decide), List.takeWhile_append_of_pos hquestion,
    List.takeWhile_cons_of_pos (by decide)]

theorem pieces_harmless (back : List Char) :
    pieces (word ++ '/' :: back) = word :: pieces back := by
  unfold pieces
  rw [kept_harmless hword]
  exact List.splitOnP_append_cons_of_forall_mem
    (fun c hc => (harmless_split hword hc).1) '/' rfl _

/-- At the end of a text an edge does not stay. -/
theorem cleaned_last (hlast : ∀ c, word.getLast? = some c → isEdge c = false) :
    cleaned word = word := by
  have htrim : (word.reverse.dropWhile isEdge).reverse = word := by
    cases hreverse : word.reverse with
    | nil => simpa using hreverse.symm
    | cons c rest =>
      have hc : word.getLast? = some c := by
        rw [← List.head?_reverse, hreverse]
        rfl
      rw [List.dropWhile_cons_of_neg (by simp [hlast c hc]), ← hreverse, List.reverse_reverse]
  unfold cleaned
  rw [htrim, filter_harmless hword]

theorem pieces_last (hlast : ∀ c, word.getLast? = some c → isEdge c = false) :
    pieces word = [word] := by
  have hhash : word.takeWhile (· ≠ '#') = word := by
    rw [List.takeWhile_eq_self_iff]
    exact fun c hc => decide_eq_true (harmless_split hword hc).2.2.2.2
  have hquestion : word.takeWhile (· ≠ '?') = word := by
    rw [List.takeWhile_eq_self_iff]
    exact fun c hc => decide_eq_true (harmless_split hword hc).2.2.2.1
  unfold pieces kept
  rw [cleaned_last hword hlast, hhash, hquestion]
  exact List.splitOnP_eq_singleton fun c hc => (harmless_split hword hc).1

theorem encode_harmless : encode inPath word = encode inSegment word := by
  unfold encode
  rw [List.flatMap_def, List.flatMap_def]
  refine congrArg List.flatten (List.map_congr_left ?_)
  intro c hc
  obtain ⟨hslash, -, hpercent, -⟩ := harmless_split hword hc
  have hsame : inSegment c = inPath c := by
    simp only [isSlash, Bool.true_and, Bool.or_eq_false_iff, beq_eq_false_iff_ne] at hslash
    simp [inSegment, hslash.1, hslash.2, hpercent]
  unfold encodeChar
  rw [hsame]

end Pieces

section Dots

theorem toLower_eq {c d : Char} (hd : d.isLower = false) (h : c.toLower = d) : c = d := by
  unfold Char.toLower at h
  split at h
  · rename_i hupper
    subst h
    simp only [Char.isLower, UInt32.le_iff_toNat_le, ge_iff_le, UInt32.toNat_add,
      Bool.and_eq_false_iff, decide_eq_false_iff_not] at hd hupper
    change (65 ≤ c.toNat ∧ c.toNat ≤ 90) at hupper
    change ¬97 ≤ (c.toNat + 32) % 4294967296 ∨ ¬(c.toNat + 32) % 4294967296 ≤ 122 at hd
    omega
  · exact h

theorem map_toLower_eq {cs word : List Char} (hword : word.any Char.isLower = false)
    (h : cs.map Char.toLower = word) : cs = word := by
  subst h
  refine (List.map_id cs).symm.trans (List.map_congr_left ?_)
  intro c hc
  have hlower := List.any_eq_false.mp hword _ (List.mem_map_of_mem hc)
  exact toLower_eq (Bool.eq_false_iff.mpr hlower) rfl

theorem mem_map_toLower {cs : List Char} {d : Char} (hd : d.isLower = false)
    (h : d ∈ cs.map Char.toLower) : d ∈ cs := by
  obtain ⟨c, hc, hlower⟩ := List.mem_map.mp h
  exact toLower_eq hd hlower ▸ hc

theorem toList_lowercase (cs : List Char) :
    (Text.lowercase (String.ofList cs)).toList = cs.map Char.toLower := by
  rw [Text.lowercase, String.toList_ofList, String.toList_ofList]

/-- Without a percent sign only the dots themselves count as dots. -/
theorem isDoubleDot_iff {cs : List Char} (hcs : '%' ∉ cs) :
    isDoubleDot cs = true ↔ cs = ['.', '.'] := by
  constructor
  · intro h
    simp only [isDoubleDot, List.contains_eq_mem, List.mem_cons, List.not_mem_nil, or_false,
      decide_eq_true_eq] at h
    have hlist := toList_lowercase cs
    rcases h with h | h | h | h
    · rw [h] at hlist
      exact map_toLower_eq (by decide) hlist.symm
    all_goals
      rw [h] at hlist
      exact absurd (mem_map_toLower rfl (hlist ▸ by decide)) hcs
  · rintro rfl
    decide

theorem isSingleDot_iff {cs : List Char} (hcs : '%' ∉ cs) :
    isSingleDot cs = true ↔ cs = ['.'] := by
  constructor
  · intro h
    simp only [isSingleDot, List.contains_eq_mem, List.mem_cons, List.not_mem_nil, or_false,
      decide_eq_true_eq] at h
    have hlist := toList_lowercase cs
    rcases h with h | h
    · rw [h] at hlist
      exact map_toLower_eq (by decide) hlist.symm
    · rw [h] at hlist
      exact absurd (mem_map_toLower rfl (hlist ▸ by decide)) hcs
  · rintro rfl
    decide

end Dots

section Sizes

/-- The length of a text that is written into a path. -/
def extent (cs : List Char) : Nat := (encode inPath cs).length

/-- What a piece comes to in a path: dots vanish. -/
def cost (piece : List Char) : Nat :=
  if isDoubleDot piece || isSingleDot piece then 0 else extent piece

def size (list : List String) : Nat := (list.map String.length).sum

theorem extent_cons (c : Char) (cs : List Char) :
    extent (c :: cs) = (encodeChar inPath c).length + extent cs := by
  simp [extent, encode]

theorem extent_append (front back : List Char) :
    extent (front ++ back) = extent front + extent back := by
  simp [extent, encode]

theorem size_cons (text : String) (list : List String) :
    size (text :: list) = text.length + size list := by
  simp [size]

theorem size_leave (before : List String) : size (leave false before) ≤ size before := by
  unfold leave
  split
  · exact Nat.zero_le _
  · cases before with
    | nil => exact Nat.le_refl _
    | cons text before =>
      rw [size_cons]
      exact Nat.le_add_left _ _

/-- A path is no longer than what it was made of. -/
theorem size_resolveDots (before : List String) (list : List (List Char)) :
    size (resolveDots false before list) ≤ size before + (list.map cost).sum := by
  induction list generalizing before with
  | nil => simp [resolveDots, size]
  | cons piece rest ih =>
    rw [List.map_cons, List.sum_cons]
    unfold resolveDots
    dsimp only
    refine (ih _).trans ?_
    have hleave := size_leave before
    cases hdouble : isDoubleDot piece with
    | true =>
      rw [if_pos rfl]
      split
      · rw [size_cons]
        simp only [String.length_empty]
        omega
      · omega
    | false =>
      cases hsingle : isSingleDot piece with
      | true =>
        rw [if_neg (by decide), if_pos rfl]
        split
        · rw [size_cons]
          simp only [String.length_empty]
          omega
        · omega
      | false =>
        have hcost : cost piece = extent piece := by simp [cost, hdouble, hsingle]
        have hlength : (segmentText false before piece).length = extent piece := by
          simp [segmentText, extent]
        rw [if_neg (by decide), if_neg (by decide), size_cons, hcost, hlength]
        omega

/-- Slashes apart, all of a text goes into its pieces. -/
theorem sum_extent (cs : List Char) :
    ((cs.splitOnP (isSlash true)).map extent).sum = extent (cs.filter (!isSlash true ·)) := by
  induction cs with
  | nil => rfl
  | cons c cs ih =>
    rw [List.splitOnP_cons_eq_if_modifyHead]
    cases hslash : isSlash true c with
    | true =>
      rw [if_pos rfl, List.filter_cons_of_neg (by simp [hslash]), List.map_cons, List.sum_cons, ih]
      exact Nat.zero_add _
    | false =>
      obtain ⟨piece, rest, hsplit⟩ :=
        List.exists_cons_of_ne_nil (List.splitOnP_ne_nil (isSlash true) cs)
      rw [if_neg (by decide), List.filter_cons_of_pos (by simp [hslash]), extent_cons, ← ih, hsplit]
      simp [extent_cons, Nat.add_assoc]

theorem one_le_encodeChar (set : EncodeSet) (c : Char) : 1 ≤ (encodeChar set c).length := by
  have hbytes : 1 ≤ (utf8 c).length := by
    rw [utf8, String.length_utf8EncodeChar]
    exact Char.utf8Size_pos c
  unfold encodeChar
  split
  · obtain ⟨b, bs, hsplit⟩ := List.exists_cons_of_length_pos hbytes
    rw [hsplit, List.flatMap_cons, encodeByte, List.cons_append, List.length_cons]
    exact Nat.le_add_left 1 _
  · exact Nat.le_refl 1

theorem extent_le_of_sublist {part whole : List Char} (h : List.Sublist part whole) :
    extent part ≤ extent whole := by
  induction h with
  | slnil => exact Nat.le_refl _
  | cons c _ ih =>
    rw [extent_cons]
    exact Nat.le_add_left_of_le ih
  | cons_cons c _ ih =>
    rw [extent_cons, extent_cons]
    exact Nat.add_le_add_left ih _

/-- What loses nothing of its extent has lost no character. -/
theorem eq_of_extent_le {part whole : List Char} (h : List.Sublist part whole)
    (hextent : extent whole ≤ extent part) : part = whole := by
  induction h with
  | slnil => rfl
  | cons c hrest _ =>
    have hone := one_le_encodeChar inPath c
    have hle := extent_le_of_sublist hrest
    rw [extent_cons] at hextent
    omega
  | cons_cons c _ ih =>
    rw [extent_cons, extent_cons] at hextent
    rw [ih (Nat.le_of_add_le_add_left hextent)]

theorem cleaned_sublist (cs : List Char) : List.Sublist (cleaned cs) cs := by
  have htrim := (List.dropWhile_sublist isEdge (l := cs.reverse)).reverse
  rw [List.reverse_reverse] at htrim
  exact List.filter_sublist.trans htrim

theorem kept_sublist (cs : List Char) : List.Sublist (kept cs) cs :=
  ((List.takeWhile_sublist _).trans (List.takeWhile_sublist _)).trans (cleaned_sublist cs)

/-- Escaping slashes and percent signs takes room. -/
theorem encodeChar_inSegment (c : Char) :
    (isSlash true c = true ∧ 1 ≤ (encodeChar inSegment c).length) ∨
      (isSlash true c = false ∧ c = '%' ∧
        (encodeChar inPath c).length < (encodeChar inSegment c).length) ∨
      (isSlash true c = false ∧ c ≠ '%' ∧
        (encodeChar inPath c).length = (encodeChar inSegment c).length) := by
  cases hslash : isSlash true c with
  | true => exact Or.inl ⟨rfl, one_le_encodeChar inSegment c⟩
  | false =>
    by_cases hpercent : c = '%'
    · subst hpercent
      exact Or.inr (Or.inl ⟨rfl, rfl, by decide⟩)
    · have hsame : inSegment c = inPath c := by
        simp only [isSlash, Bool.true_and, Bool.or_eq_false_iff, beq_eq_false_iff_ne] at hslash
        simp [inSegment, hslash.1, hslash.2, hpercent]
      refine Or.inr (Or.inr ⟨rfl, hpercent, ?_⟩)
      unfold encodeChar
      rw [hsame]

theorem extent_le_encode (cs : List Char) :
    extent (cs.filter (!isSlash true ·)) ≤ (encode inSegment cs).length := by
  induction cs with
  | nil => exact Nat.le_refl _
  | cons c cs ih =>
    have hcons : (encode inSegment (c :: cs)).length =
        (encodeChar inSegment c).length + (encode inSegment cs).length := by simp [encode]
    rw [hcons]
    rcases encodeChar_inSegment c with ⟨hslash, -⟩ | ⟨hslash, -, hlt⟩ | ⟨hslash, -, heq⟩
    · rw [List.filter_cons_of_neg (by simp [hslash])]
      omega
    · rw [List.filter_cons_of_pos (by simp [hslash]), extent_cons]
      omega
    · rw [List.filter_cons_of_pos (by simp [hslash]), extent_cons]
      omega

/-- Only a text without slashes and percent signs takes no more room as a segment. -/
theorem unescaped_of_encode_le {cs : List Char}
    (h : (encode inSegment cs).length ≤ extent (cs.filter (!isSlash true ·))) :
    ∀ c ∈ cs, isSlash true c = false ∧ c ≠ '%' := by
  induction cs with
  | nil => simp
  | cons c cs ih =>
    have hcons : (encode inSegment (c :: cs)).length =
        (encodeChar inSegment c).length + (encode inSegment cs).length := by simp [encode]
    have hrest := extent_le_encode cs
    rw [hcons] at h
    rcases encodeChar_inSegment c with ⟨hslash, hone⟩ | ⟨hslash, -, hlt⟩ | ⟨hslash, hpercent, heq⟩
    · rw [List.filter_cons_of_neg (by simp [hslash])] at h
      omega
    · rw [List.filter_cons_of_pos (by simp [hslash]), extent_cons] at h
      omega
    · rw [List.filter_cons_of_pos (by simp [hslash]), extent_cons] at h
      intro d hd
      rcases List.mem_cons.mp hd with rfl | hd
      · exact ⟨hslash, hpercent⟩
      · exact ih (by omega) d hd

end Sizes

section Resolution

/-- A text that a path takes as one segment, at its end or with a part below. -/
structure Plain (id : String) (below : Option String) : Prop where
  harmless : ∀ c ∈ id.toList, isHarmless c = true
  dot : id ≠ "."
  dots : id ≠ ".."
  ending : below = none → ∀ c, id.toList.getLast? = some c → isEdge c = false

/-- A part of a path that stands for itself. -/
def IsWord (part : String) : Prop := ∀ c ∈ part.toList, c.isAlphanum = true

instance (part : String) : Decidable (IsWord part) :=
  decidable_of_iff (part.toList.all Char.isAlphanum = true) List.all_eq_true

/-- What follows a text in a path. -/
def belowText : Option String → List Char
  | none => []
  | some part => '/' :: part.toList

theorem isHarmless_of_isAlphanum {c : Char} (hc : c.isAlphanum = true) : isHarmless c = true := by
  have hsolid := solid_of_isAlphanum hc
  have hinner := hsolid.inner
  have hpercent : c ≠ '%' := by
    rintro rfl
    cases hc
  simp only [endsAuthority, Bool.or_eq_false_iff, beq_eq_false_iff_ne] at hinner
  simp [isHarmless, hinner.1.1, hinner.1.2, hinner.2, hsolid.not_break, hpercent]

/-- A harmless text other than dots adds a segment. -/
theorem resolveDots_plain {id : String} (hid : ∀ c ∈ id.toList, isHarmless c = true)
    (hdot : id ≠ ".") (hdots : id ≠ "..") (before : List String) (rest : List (List Char)) :
    resolveDots false before (id.toList :: rest) =
      resolveDots false (segment id :: before) rest := by
  have hpercent : '%' ∉ id.toList := fun hmem => (harmless_split hid hmem).2.2.1 rfl
  have hdouble : isDoubleDot id.toList = false := by
    rw [Bool.eq_false_iff]
    intro h
    exact hdots (String.toList_injective ((isDoubleDot_iff hpercent).mp h))
  have hsingle : isSingleDot id.toList = false := by
    rw [Bool.eq_false_iff]
    intro h
    exact hdot (String.toList_injective ((isSingleDot_iff hpercent).mp h))
  have htext : segmentText false before id.toList = segment id := by
    simp [segmentText, segment, encode_harmless hid]
  rw [resolveDots, hdouble, hsingle, htext]
  rfl

theorem encode_word {set : EncodeSet} (hset : ∀ c : Char, c.isAlphanum = true → set c = false)
    {part : String} (hpart : IsWord part) : encode set part.toList = part.toList := by
  unfold encode
  rw [List.flatMap_def, List.map_congr_left (g := fun c => [c]), ← List.flatMap_def,
    List.flatMap_singleton']
  intro c hc
  rw [encodeChar, hset c (hpart c hc)]
  rfl

theorem inSegment_of_isAlphanum {c : Char} (hc : c.isAlphanum = true) : inSegment c = false := by
  have hcontrols : controls c = false := by
    simp only [Char.isAlphanum, Char.isAlpha, Char.isUpper, Char.isLower, Char.isDigit,
      Bool.or_eq_true, Bool.and_eq_true, decide_eq_true_eq, UInt32.le_iff_toNat_le, ge_iff_le] at hc
    change ((65 ≤ c.toNat ∧ c.toNat ≤ 90) ∨ (97 ≤ c.toNat ∧ c.toNat ≤ 122)) ∨
      (48 ≤ c.toNat ∧ c.toNat ≤ 57) at hc
    simp only [controls, Bool.or_eq_false_iff, decide_eq_false_iff_not]
    change ¬c.toNat < 32 ∧ ¬126 < c.toNat
    omega
  have hlist : ∀ list : List Char, list.any Char.isAlphanum = false →
      list.contains c = false := by
    intro list hnone
    rw [List.contains_eq_mem, decide_eq_false_iff_not]
    intro hmem
    exact List.any_eq_false.mp hnone c hmem hc
  simp only [inSegment, inPath, inFragment, hcontrols, Bool.false_or]
  rw [hlist _ (by decide), hlist _ (by decide), hlist _ (by decide)]
  rfl

theorem inPath_of_isAlphanum {c : Char} (hc : c.isAlphanum = true) : inPath c = false := by
  have h := inSegment_of_isAlphanum hc
  rw [inSegment, Bool.or_eq_false_iff] at h
  exact h.1

theorem segment_word {part : String} (hpart : IsWord part) : segment part = part := by
  rw [segment, encode_word (fun c => inSegment_of_isAlphanum) hpart, String.ofList_toList]

theorem IsWord.ne_dots {part : String} (hpart : IsWord part) : part ≠ "." ∧ part ≠ ".." := by
  constructor
  · rintro rfl
    exact absurd (hpart '.' (by decide)) (by decide)
  · rintro rfl
    exact absurd (hpart '.' (by decide)) (by decide)

/-- A plain text comes out as its segment. -/
theorem resolveDots_of_plain {id : String} {below : Option String} (hid : Plain id below)
    (hbelow : ∀ part, below = some part → IsWord part) (before : List String) :
    resolveDots false before (pieces (id.toList ++ belowText below)) =
      before.reverse ++ segment id :: below.toList := by
  cases below with
  | none =>
    rw [belowText, List.append_nil, pieces_last hid.harmless (hid.ending rfl),
      resolveDots_plain hid.harmless hid.dot hid.dots]
    simp [resolveDots]
  | some part =>
    have hpart := hbelow part rfl
    have hharmless : ∀ c ∈ part.toList, isHarmless c = true := fun c hc =>
      isHarmless_of_isAlphanum (hpart c hc)
    have hlast : ∀ c, part.toList.getLast? = some c → isEdge c = false := fun c hc =>
      (solid_of_isAlphanum (hpart c (List.mem_of_getLast? hc))).edge
    rw [belowText, pieces_harmless hid.harmless, pieces_last hharmless hlast,
      resolveDots_plain hid.harmless hid.dot hid.dots,
      resolveDots_plain hharmless hpart.ne_dots.1 hpart.ne_dots.2, segment_word hpart]
    simp [resolveDots]

theorem mem_kept {cs : List Char} {c : Char} (hc : c ∈ kept cs) :
    isBreak c = false ∧ c ≠ '?' ∧ c ≠ '#' := by
  have hquestion := List.mem_takeWhile_imp hc
  have hfront := (List.takeWhile_sublist _).subset hc
  have hhash := List.mem_takeWhile_imp hfront
  have hcleaned := (List.takeWhile_sublist _).subset hfront
  have hbreak := (List.mem_filter.mp hcleaned).2
  simp only [decide_eq_true_eq, Bool.not_eq_true'] at hquestion hhash hbreak
  exact ⟨hbreak, hquestion, hhash⟩

theorem kept_concat_edge {front : List Char} {c : Char} (hc : isEdge c = true) :
    kept (front ++ [c]) = kept front := by
  unfold kept cleaned
  rw [List.reverse_append, List.reverse_singleton, List.singleton_append,
    List.dropWhile_cons_of_pos hc]

theorem extent_word {part : String} (hpart : IsWord part) : extent part.toList = part.length := by
  rw [extent, encode_word (fun c => inPath_of_isAlphanum) hpart, String.length_toList]

theorem extent_belowText {below : Option String}
    (hbelow : ∀ part, below = some part → IsWord part) :
    extent ((belowText below).filter (!isSlash true ·)) = size below.toList := by
  cases below with
  | none => rfl
  | some part =>
    have hpart := hbelow part rfl
    have hfilter : part.toList.filter (!isSlash true ·) = part.toList := by
      rw [List.filter_eq_self]
      intro c hc
      rw [(harmless_split (fun d hd => isHarmless_of_isAlphanum (hpart d hd)) hc).1]
      rfl
    rw [belowText, List.filter_cons_of_neg (by decide), hfilter, extent_word hpart]
    rfl

theorem cost_le_extent (piece : List Char) : cost piece ≤ extent piece := by
  unfold cost
  split
  · exact Nat.zero_le _
  · exact Nat.le_refl _

theorem sum_cost_le (list : List (List Char)) : (list.map cost).sum ≤ (list.map extent).sum := by
  induction list with
  | nil => exact Nat.le_refl _
  | cons piece rest ih =>
    rw [List.map_cons, List.map_cons, List.sum_cons, List.sum_cons]
    exact Nat.add_le_add (cost_le_extent piece) ih

section Room

variable {id : String} {below : Option String}
  (hbelow : ∀ part, below = some part → IsWord part)

/-- The pieces must pay for the segment and what is below it. -/
theorem room_of_resolveDots {before : List String} {list : List (List Char)}
    (h : resolveDots false before list = before.reverse ++ segment id :: below.toList) :
    (encode inSegment id.toList).length + size below.toList ≤ (list.map cost).sum := by
  have hsize := size_resolveDots before list
  have hall : size (before.reverse ++ segment id :: below.toList) =
      size before + ((encode inSegment id.toList).length + size below.toList) := by
    simp [size, segment]
  rw [h, hall] at hsize
  exact Nat.le_of_add_le_add_left hsize

include hbelow

theorem extent_text : extent ((id.toList ++ belowText below).filter (!isSlash true ·)) =
    extent (id.toList.filter (!isSlash true ·)) + size below.toList := by
  rw [List.filter_append, extent_append, extent_belowText hbelow]

/-- If what is kept has room for the segment, all but slashes was kept, and nothing had to be
escaped. -/
theorem kept_of_room
    (hroom : (encode inSegment id.toList).length + size below.toList ≤
      extent ((kept (id.toList ++ belowText below)).filter (!isSlash true ·))) :
    (∀ c ∈ id.toList, isSlash true c = false ∧ c ≠ '%') ∧
      (kept (id.toList ++ belowText below)).filter (!isSlash true ·) =
        (id.toList ++ belowText below).filter (!isSlash true ·) := by
  have hsublist := (kept_sublist (id.toList ++ belowText below)).filter (!isSlash true ·)
  have hkept := extent_le_of_sublist hsublist
  have htext : extent ((id.toList ++ belowText below).filter (!isSlash true ·)) =
      extent (id.toList.filter (!isSlash true ·)) + size below.toList := extent_text hbelow
  have hid := extent_le_encode id.toList
  have hescaped : (encode inSegment id.toList).length ≤
      extent (id.toList.filter (!isSlash true ·)) := by omega
  exact ⟨unescaped_of_encode_le hescaped, eq_of_extent_le hsublist (by omega)⟩

omit hbelow

variable (hunescaped : ∀ c ∈ id.toList, isSlash true c = false ∧ c ≠ '%')
  (hkept : (kept (id.toList ++ belowText below)).filter (!isSlash true ·) =
    (id.toList ++ belowText below).filter (!isSlash true ·))

include hunescaped

theorem filter_unescaped : id.toList.filter (!isSlash true ·) = id.toList := by
  rw [List.filter_eq_self]
  intro c hc
  rw [(hunescaped c hc).1]
  rfl

include hkept

theorem harmless_of_kept : ∀ c ∈ id.toList, isHarmless c = true := by
  intro c hc
  obtain ⟨hslash, hpercent⟩ := hunescaped c hc
  have hmem : c ∈ (kept (id.toList ++ belowText below)).filter (!isSlash true ·) := by
    rw [hkept, List.mem_filter]
    exact ⟨List.mem_append_left _ hc, by rw [hslash]; rfl⟩
  obtain ⟨hbreak, hquestion, hhash⟩ := mem_kept (List.mem_filter.mp hmem).1
  simp [isHarmless, hslash, hbreak, hpercent, hquestion, hhash]

/-- An edge at the end would not have been kept. -/
theorem ending_of_kept (hnone : below = none) :
    ∀ c, id.toList.getLast? = some c → isEdge c = false := by
  intro c hc
  rw [hnone, belowText, List.append_nil, filter_unescaped hunescaped] at hkept
  obtain ⟨front, hfront⟩ := List.getLast?_eq_some_iff.mp hc
  cases hedge : isEdge c with
  | false => rfl
  | true =>
    have hlength := congrArg List.length hkept
    have hfilter := List.length_filter_le (!isSlash true ·) (kept id.toList)
    have hfrontLength := (kept_sublist front).length_le
    rw [hfront, kept_concat_edge hedge] at hlength hfilter
    rw [List.length_append, List.length_singleton] at hlength
    omega

end Room

/-- Whatever comes out as its segment was plain: escaping takes room that the path does not give,
and so does anything that is dropped. -/
theorem plain_of_resolveDots {id : String} {below : Option String}
    (hbelow : ∀ part, below = some part → IsWord part) (before : List String)
    (h : resolveDots false before (pieces (id.toList ++ belowText below)) =
      before.reverse ++ segment id :: below.toList) : Plain id below := by
  have hroom := room_of_resolveDots h
  have hextent : ((pieces (id.toList ++ belowText below)).map extent).sum =
      extent ((kept (id.toList ++ belowText below)).filter (!isSlash true ·)) := sum_extent _
  obtain ⟨hunescaped, hkept⟩ := kept_of_room hbelow
    ((hroom.trans (sum_cost_le _)).trans (Nat.le_of_eq hextent))
  have hharmless := harmless_of_kept hunescaped hkept
  have hending := ending_of_kept hunescaped hkept
  have hpieces : ∃ rest, pieces (id.toList ++ belowText below) = id.toList :: rest := by
    cases below with
    | none =>
      rw [belowText, List.append_nil]
      exact ⟨[], pieces_last hharmless (hending rfl)⟩
    | some part => exact ⟨pieces part.toList, pieces_harmless hharmless part.toList⟩
  -- What is below pays for itself only, so the piece of the id pays for the whole segment.
  have hpaid : (encode inSegment id.toList).length ≤ cost id.toList := by
    obtain ⟨rest, hrest⟩ := hpieces
    have hrestCost := sum_cost_le rest
    rw [hrest, List.map_cons, List.sum_cons] at hroom hextent
    rw [hkept, extent_text hbelow, filter_unescaped hunescaped] at hextent
    omega
  refine ⟨hharmless, ?_, ?_, hending⟩
  · rintro rfl
    exact absurd hpaid (by decide)
  · rintro rfl
    exact absurd hpaid (by decide)

end Resolution

section Urls

variable {scheme : String} (hscheme : scheme = "http" ∨ scheme = "https") (host : Host)
  (port : Option UInt16) (rest : List Char)

include hscheme

/-- The path of a URL behind its host. -/
theorem path_urlAt : (urlAt scheme host port (cleaned rest)).path =
    .segments (resolveDots false [] (pieces rest)) := by
  obtain ⟨hfile, hspecial⟩ := special_of_http hscheme
  have htail : (tail scheme ('/' :: cleaned rest)).path = '/' :: kept rest := by
    unfold tail kept
    dsimp only
    rw [List.takeWhile_cons_of_pos (by decide), List.takeWhile_cons_of_pos (by decide)]
  unfold urlAt
  dsimp only
  rw [htail]
  simp [authorityPath, pathSegments, pieces, hspecial, hfile, isSlash]

omit hscheme in
theorem query_urlAt (hrest : '?' ∉ rest) :
    (urlAt scheme host port (cleaned rest)).query = none := by
  have hnone : (('/' :: cleaned rest).takeWhile (· ≠ '#')).dropWhile (· ≠ '?') = [] := by
    rw [List.dropWhile_eq_nil_iff]
    intro c hc
    refine decide_eq_true ?_
    rintro rfl
    rcases List.mem_cons.mp ((List.takeWhile_sublist _).subset hc) with hslash | hmem
    · cases hslash
    · exact hrest ((cleaned_sublist rest).subset hmem)
  unfold urlAt tail
  dsimp only
  rw [hnone]

end Urls

end ZigbeeBridge.Url
