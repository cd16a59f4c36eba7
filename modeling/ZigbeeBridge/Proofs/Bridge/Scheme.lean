import ZigbeeBridge.Proofs.Bridge.Address
import ZigbeeBridge.Proofs.Bridge.Location
import ZigbeeBridge.Proofs.Bridge.Session
import ZigbeeBridge.Proofs.Text.Utf8

/-!
What becomes of an address. White space around it goes, and `http://` comes in front of one that
does not name its scheme. Whether it does can be told from as many bytes as the scheme takes:
letters of the other case count, and bytes that end inside a character are no scheme.
-/
namespace ZigbeeBridge

namespace Text

section Letters

/-- The case of a letter does not change how many bytes it takes. -/
theorem utf8Size_toLower (c : Char) : c.toLower.utf8Size = c.utf8Size := by
  unfold Char.toLower
  split
  · rename_i hupper
    have hlow : c.val.toNat ≤ 90 := UInt32.le_iff_toNat_le.mp hupper.2
    have hshift : ('a'.val - 'A'.val).toNat = 32 := rfl
    have hsmall : c.val ≤ 0x7F := UInt32.le_iff_toNat_le.mpr (Nat.le_trans hlow (by decide))
    have hsmall' : c.val + ('a'.val - 'A'.val) ≤ 0x7F := by
      rw [UInt32.le_iff_toNat_le, UInt32.toNat_add, hshift]
      change (c.val.toNat + 32) % 4294967296 ≤ 127
      omega
    rw [Char.utf8Size_eq_one_iff.mpr hsmall]
    exact Char.utf8Size_eq_one_iff.mpr hsmall'
  · rfl

theorem byteLength_map_toLower (cs : List Char) :
    byteLength (cs.map Char.toLower) = byteLength cs := by
  induction cs with
  | nil => rfl
  | cons c cs ih => rw [List.map_cons, byteLength_cons, byteLength_cons, utf8Size_toLower, ih]

theorem sameLetters_iff (word cs : List Char) :
    sameLetters word cs = true ↔ cs.map Char.toLower = word.map Char.toLower := by
  refine ⟨Bridge.map_toLower_of_sameLetters, fun hsame => ?_⟩
  induction word generalizing cs with
  | nil =>
    rw [List.map_eq_nil_iff.mp hsame]
    rfl
  | cons d word ih =>
    obtain ⟨c, rest, rfl, hc, hrest⟩ := List.map_eq_cons_iff.mp hsame
    rw [sameLetters, sameLetter, hc, ih rest hrest, BEq.rfl, Bool.and_self]

theorem beginsWith_iff (word cs : List Char) :
    beginsWith word cs = true ↔
      ∃ letters rest, cs = letters ++ rest ∧ sameLetters word letters = true := by
  constructor
  · intro hbegins
    exact ⟨_, _, (List.take_append_drop word.length cs).symm, hbegins⟩
  · rintro ⟨letters, rest, rfl, hletters⟩
    have hlength : letters.length = word.length := by
      simpa using congrArg List.length ((sameLetters_iff word letters).mp hletters)
    unfold beginsWith
    rw [← hlength, List.take_left, hletters]

/-- It is told from as many bytes as the word takes. -/
theorem beginsWith_iff_headBytes? (word cs : List Char) :
    beginsWith word cs = true ↔
      ∃ front, headBytes? (byteLength word) cs = some front ∧ sameLetters word front = true := by
  rw [beginsWith_iff]
  constructor
  · rintro ⟨letters, rest, hcs, hletters⟩
    have hbytes : byteLength letters = byteLength word := by
      rw [← byteLength_map_toLower letters, (sameLetters_iff word letters).mp hletters,
        byteLength_map_toLower]
    exact ⟨letters, headBytes?_eq_some_iff.mpr ⟨rest, hcs, hbytes⟩, hletters⟩
  · rintro ⟨front, hfront, hletters⟩
    obtain ⟨rest, hcs, -⟩ := headBytes?_eq_some_iff.mp hfront
    exact ⟨front, rest, hcs, hletters⟩

end Letters

section Ends

structure Bare (s : String) : Prop where
  first : ∀ c ∈ s.toList.head?, isBlank c = false
  last : ∀ c ∈ s.toList.getLast?, isBlank c = false

theorem exists_trimChars (cs : List Char) :
    ∃ front back, (∀ c ∈ front, isBlank c = true) ∧ (∀ c ∈ back, isBlank c = true) ∧
      cs = front ++ trimChars cs ++ back := by
  obtain ⟨back, hback, hrest⟩ : ∃ back, (∀ c ∈ back, isBlank c = true) ∧
      cs.dropWhile isBlank = trimChars cs ++ back := by
    refine ⟨((cs.dropWhile isBlank).reverse.takeWhile isBlank).reverse,
      fun c hc => List.mem_takeWhile_imp (List.mem_reverse.mp hc), ?_⟩
    unfold trimChars dropBlankEnd
    rw [← List.reverse_append, List.takeWhile_append_dropWhile, List.reverse_reverse]
  refine ⟨cs.takeWhile isBlank, back, fun c hc => List.mem_takeWhile_imp hc, hback, ?_⟩
  rw [List.append_assoc, ← hrest, List.takeWhile_append_dropWhile]

/-- What is trimmed away is white space, and there is none left. -/
theorem exists_trim (s : String) :
    Bare (trim s) ∧ ∃ front back, isAllBlank front = true ∧ isAllBlank back = true ∧
      s = front ++ trim s ++ back := by
  obtain ⟨front, back, hfront, hback, hcs⟩ := exists_trimChars s.toList
  refine ⟨⟨?_, ?_⟩, String.ofList front, String.ofList back, ?_, ?_, ?_⟩
  · rw [trim, String.toList_ofList]
    exact Bridge.first_trimChars s.toList
  · rw [trim, String.toList_ofList]
    exact Bridge.last_trimChars s.toList
  · rw [isAllBlank, String.toList_ofList]
    exact List.all_eq_true.mpr hfront
  · rw [isAllBlank, String.toList_ofList]
    exact List.all_eq_true.mpr hback
  · apply String.toList_inj.mp
    rw [trim, String.toList_append, String.toList_append, String.toList_ofList,
      String.toList_ofList, String.toList_ofList]
    exact hcs

end Ends

end Text

namespace Bridge

open Text

def schemes : List String := ["http://", "https://"]

def NamesScheme (s : String) : Prop :=
  ∃ scheme ∈ schemes, ∃ letters rest, s.toList = letters ++ rest ∧
    letters.map Char.toLower = scheme.toList

theorem hasScheme_iff (cs : List Char) :
    hasScheme cs = true ↔ ∃ scheme ∈ schemes, beginsWith scheme.toList cs = true := by
  unfold hasScheme plainScheme secureScheme schemes
  rw [Bool.or_eq_true]
  simp only [List.mem_cons, List.not_mem_nil, or_false, exists_eq_or_imp, exists_eq_left]

theorem map_toLower_scheme {scheme : String} (hscheme : scheme ∈ schemes) :
    scheme.toList.map Char.toLower = scheme.toList := by
  rcases List.mem_pair.mp hscheme with rfl | rfl
  · rfl
  · rfl

theorem namesScheme_iff (s : String) : NamesScheme s ↔ hasScheme s.toList = true := by
  rw [hasScheme_iff]
  unfold NamesScheme
  refine exists_congr fun scheme => and_congr_right fun hscheme => ?_
  rw [beginsWith_iff]
  simp only [sameLetters_iff, map_toLower_scheme hscheme]

theorem toList_normalizeAddress (address : String) :
    (normalizeAddress address).toList = normalizeChars address.toList := String.toList_ofList

theorem bare_normalizeAddress (address : String) : Bare (normalizeAddress address) := by
  have htrimmed := trimChars_normalizeChars address.toList
  constructor
  · rw [toList_normalizeAddress, ← htrimmed]
    exact first_trimChars _
  · rw [toList_normalizeAddress, ← htrimmed]
    exact last_trimChars _

theorem normalizeAddress_eq (address : String) :
    normalizeAddress address =
      if hasScheme (trim address).toList then trim address else "http://" ++ trim address := by
  have htrim : (trim address).toList = trimChars address.toList := String.toList_ofList
  apply String.toList_inj.mp
  rw [toList_normalizeAddress, normalizeChars, ← htrim]
  split
  · rfl
  · rw [String.toList_append]
    rfl

/-- An address is trimmed and has a scheme put in front of it unless it names one, in whatever
letter case. What comes of it has no white space at its ends and names a scheme, and nothing becomes
of it any more, so that a session which is told it again keeps its client. -/
theorem normalizeAddress_spec (address : String) :
    (Bare (trim address) ∧ ∃ front back, isAllBlank front = true ∧ isAllBlank back = true ∧
        address = front ++ trim address ++ back) ∧
      (NamesScheme (trim address) ↔ ∃ scheme ∈ schemes, ∃ front,
        headBytes? (byteLength scheme.toList) (trim address).toList = some front ∧
          sameLetters scheme.toList front = true) ∧
      Bare (normalizeAddress address) ∧ NamesScheme (normalizeAddress address) ∧
      (NamesScheme (trim address) → normalizeAddress address = trim address) ∧
      (¬NamesScheme (trim address) → normalizeAddress address = "http://" ++ trim address) ∧
      normalizeAddress (normalizeAddress address) = normalizeAddress address ∧
      ∀ s : Session, (s.setAddress address).setAddress (normalizeAddress address) =
        s.setAddress address := by
  refine ⟨exists_trim address, ?_, bare_normalizeAddress address, ?_, ?_, ?_,
    normalizeAddress_normalizeAddress address, ?_⟩
  · rw [namesScheme_iff, hasScheme_iff]
    refine exists_congr fun scheme => and_congr_right fun hscheme => ?_
    rw [beginsWith_iff_headBytes?]
  · rw [namesScheme_iff, toList_normalizeAddress]
    exact hasScheme_normalizeChars _
  · intro hnames
    rw [normalizeAddress_eq, if_pos ((namesScheme_iff _).mp hnames)]
  · intro hnames
    rw [normalizeAddress_eq, if_neg fun hscheme => hnames ((namesScheme_iff _).mpr hscheme)]
  · intro s
    exact Session.setAddress_of_same ((normalizeAddress_normalizeAddress address).trans
      (address_setAddress s address).symm)

end Bridge

end ZigbeeBridge
