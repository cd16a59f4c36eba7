import ZigbeeBridge.Json.Printer
import ZigbeeBridge.Proofs.Json.Keys
import ZigbeeBridge.Proofs.Json.Numeral
import ZigbeeBridge.Proofs.Text.Hex

/-!
What is written on one line reads back as it was, as long as its numbers are integers, it nests no
deeper than a reader goes, and it names no member twice.
-/
namespace ZigbeeBridge

open Data

namespace Json

section Strings

private theorem escape_control (c : Char) (hcontrol : c < ' ') (cs : List Char) :
    escape ('u' :: '0' :: '0' :: Text.hexDigit (c.toNat / 16) :: Text.hexDigit (c.toNat % 16) ::
      cs) = .ok (c, cs) := by
  have hbound : c.toNat < 32 := hcontrol
  have hdigits : 16 * (c.toNat / 16) + c.toNat % 16 = c.toNat := Nat.div_add_mod _ _
  have hquad : hexQuad ('0' :: '0' :: Text.hexDigit (c.toNat / 16) ::
      Text.hexDigit (c.toNat % 16) :: cs) = .ok (c.toNat, cs) := by
    have hzero : Text.hexValue? '0' = some 0 := by decide
    have hhigh := Text.hexValue_hexDigit (c.toNat / 16) (by omega)
    have hlow := Text.hexValue_hexDigit (c.toNat % 16) (by omega)
    simp only [hexQuad, hzero, hhigh, hlow, Nat.mul_zero, Nat.zero_add, hdigits]
  unfold escape
  simp only [hquad, bind, Except.bind]
  rw [if_neg (by omega), if_neg (by omega), Char.ofNat_toNat]

/-- Each character is read back from the way it is written. -/
theorem stringBody_escapeChar (fuel : Nat) (c : Char) (cs : List Char) :
    stringBody (fuel + 1) (escapeChar c ++ cs) =
      (stringBody fuel cs >>= fun read => .ok (c :: read.1, read.2)) := by
  unfold escapeChar
  split
  case h_8 hquote hslash _ _ _ _ _ =>
    split
    · rename_i hcontrol
      change (escape ('u' :: '0' :: '0' :: Text.hexDigit (c.toNat / 16) ::
        Text.hexDigit (c.toNat % 16) :: cs) >>= _) = _
      rw [escape_control c hcontrol]
      rfl
    · rename_i hcontrol
      simp only [List.singleton_append, stringBody]
      rw [if_neg hcontrol]
  all_goals rfl

theorem stringBody_quoted (body rest : List Char) (fuel : Nat) (hfuel : body.length < fuel) :
    stringBody fuel (body.flatMap escapeChar ++ '"' :: rest) = .ok (body, rest) := by
  induction body generalizing fuel with
  | nil =>
    obtain ⟨fuel, rfl⟩ := Nat.exists_eq_succ_of_ne_zero (Nat.ne_zero_of_lt hfuel)
    rfl
  | cons c body ih =>
    obtain ⟨fuel, rfl⟩ := Nat.exists_eq_succ_of_ne_zero (Nat.ne_zero_of_lt hfuel)
    rw [List.flatMap_cons, List.append_assoc, stringBody_escapeChar,
      ih fuel (Nat.lt_of_succ_lt_succ hfuel)]
    rfl

theorem length_escapeChar (c : Char) : 1 ≤ (escapeChar c).length := by
  unfold escapeChar
  split <;> try simp
  split <;> simp

/-- A string that is written in quotes is read back. -/
theorem string_quoted (s : String) (rest : List Char) :
    string (s.toList.flatMap escapeChar ++ '"' :: rest) = .ok (s, rest) := by
  have hlength : ∀ body : List Char, body.length ≤ (body.flatMap escapeChar).length := by
    intro body
    induction body with
    | nil => exact Nat.le_refl 0
    | cons c body ih =>
      rw [List.flatMap_cons, List.length_append, List.length_cons]
      have := length_escapeChar c
      omega
  unfold string
  rw [stringBody_quoted]
  · simp [bind, Except.bind]
  · have := hlength s.toList
    rw [List.length_append]
    omega

end Strings

section Values

/-- Documents without doubles that nest at most so deep and name no member twice. -/
inductive Readable : Nat → Value → Prop where
  | null (depth : Nat) : Readable depth .null
  | bool (depth : Nat) (b : Bool) : Readable depth (.bool b)
  | string (depth : Nat) (s : String) : Readable depth (.string s)
  | integer (depth : Nat) (n : Int)
    (fits : -0x8000000000000000 ≤ n ∧ n < 0x10000000000000000) :
    Readable depth (.number (.integer n fits))
  | array (depth : Nat) (vs : List Value) (hitems : ∀ v ∈ vs, Readable depth v) :
    Readable (depth + 1) (.array vs)
  | object (depth : Nat) (ms : Entries Value) (hkeys : (Entries.keys ms).Nodup)
    (hmembers : ∀ m ∈ ms, Readable depth m.2) : Readable (depth + 1) (.object ms)

theorem compactItems_eq (vs : List Value) : compactItems vs = vs.map compact := by
  induction vs with
  | nil => rfl
  | cons v vs ih => rw [compactItems, ih, List.map_cons]

def memberText (m : String × Value) : String := quote m.1 ++ ":" ++ compact m.2

theorem compactMembers_eq (ms : List (String × Value)) :
    compactMembers ms = ms.map memberText := by
  induction ms with
  | nil => rfl
  | cons m ms ih =>
    rw [compactMembers, ih, List.map_cons]
    rfl

/-- Texts with a comma in front of each but the first. -/
theorem toList_intercalate_comma (text : String) (texts : List String) :
    (",".intercalate (text :: texts)).toList =
      text.toList ++ texts.flatMap fun t => ',' :: t.toList := by
  rw [String.toList_intercalate]
  induction texts generalizing text with
  | nil => simp
  | cons t texts ih =>
    have htail := ih t
    rw [List.map_cons] at htail
    rw [List.map_cons, List.map_cons, List.intercalate_cons_cons, htail]
    simp

theorem skipBlank_cons {c : Char} (hc : isBlank c = false) (cs : List Char) :
    skipBlank (c :: cs) = c :: cs := by
  unfold skipBlank
  rw [List.dropWhile_cons_of_neg (by simp [hc])]

private theorem exists_start_integer (n : Int) :
    ∃ c cs, (toString n).toList = c :: cs ∧ isBlank c = false ∧ c ≠ ']' := by
  rw [Text.toList_toString_int]
  by_cases hn : 0 ≤ n
  · obtain ⟨c, cs, hcs⟩ := List.exists_cons_of_ne_nil
      (Nat.toDigits_ne_nil (n := n.toNat) (b := 10))
    have hc : Numeral.isDigit c = true := isDigit_of_mem_toDigits (n := n.toNat) (by simp [hcs])
    refine ⟨c, cs, by rw [if_pos hn, hcs], isBlank_of_isDigit hc, ?_⟩
    rintro rfl
    cases hc
  · exact ⟨'-', _, by rw [if_neg hn], rfl, by decide⟩

/-- A value neither starts with a blank nor like the end of an array. -/
theorem exists_start {depth : Nat} {v : Value} (hv : Readable depth v) :
    ∃ c cs, (compact v).toList = c :: cs ∧ isBlank c = false ∧ c ≠ ']' := by
  cases hv with
  | null => exact ⟨'n', "ull".toList, rfl, rfl, by decide⟩
  | bool depth b =>
    cases b with
    | true => exact ⟨'t', "rue".toList, rfl, rfl, by decide⟩
    | false => exact ⟨'f', "alse".toList, rfl, rfl, by decide⟩
  | string depth s =>
    exact ⟨'"', s.toList.flatMap escapeChar ++ ['"'], by simp [compact, quote], rfl, by decide⟩
  | integer depth n fits => exact exists_start_integer n
  | array depth vs hitems =>
    exact ⟨'[', _, by simp [compact]; rfl, rfl, by decide⟩
  | object depth ms hkeys hmembers =>
    exact ⟨'\x7b', _, by simp [compact]; rfl, rfl, by decide⟩

/-- From its place in a text a value is read, up to what follows it. -/
def ReadBack (depth : Nat) (v : Value) : Prop :=
  ∀ rest, Ends rest → value depth ((compact v).toList ++ rest) = .ok (v, rest)

/-- Whether others follow or none, there is a comma or the closing bracket. -/
theorem ends_commas {α : Type} (text : α → List Char) (others : List α) {c : Char}
    (hc : c = ']' ∨ c = '\x7d') (rest : List Char) :
    Ends ((others.flatMap fun a => ',' :: text a) ++ c :: rest) := by
  cases others with
  | nil => exact ends_cons (Or.inr hc) rest
  | cons a others => exact ends_cons (Or.inl rfl) _

theorem elements_rest {depth : Nat} (vs : List Value) (hitems : ∀ v ∈ vs, Readable depth v)
    (hback : ∀ v ∈ vs, ReadBack depth v) (rest : List Char) (fuel : Nat)
    (hfuel : vs.length < fuel) :
    elements (value depth) false fuel
      ((vs.flatMap fun v => ',' :: (compact v).toList) ++ ']' :: rest) = .ok (vs, rest) := by
  induction vs generalizing fuel with
  | nil =>
    obtain ⟨fuel, rfl⟩ := Nat.exists_eq_succ_of_ne_zero (Nat.ne_zero_of_lt hfuel)
    rfl
  | cons v vs ih =>
    obtain ⟨fuel, rfl⟩ := Nat.exists_eq_succ_of_ne_zero (Nat.ne_zero_of_lt hfuel)
    obtain ⟨c, cs, hstart, hblank, hclosing⟩ := exists_start (hitems v List.mem_cons_self)
    have hvalue := hback v List.mem_cons_self
      ((vs.flatMap fun v => ',' :: (compact v).toList) ++ ']' :: rest)
      (ends_commas (fun v => (compact v).toList) vs (Or.inl rfl) rest)
    have hrest := ih (fun w hw => hitems w (List.mem_cons_of_mem _ hw))
      (fun w hw => hback w (List.mem_cons_of_mem _ hw)) fuel (Nat.lt_of_succ_lt_succ hfuel)
    rw [List.flatMap_cons, List.cons_append, List.cons_append, List.append_assoc]
    rw [hstart, List.cons_append] at hvalue ⊢
    unfold elements
    rw [skipBlank_cons rfl]
    simp only [Bool.false_eq_true, ↓reduceIte, Char.reduceEq]
    rw [skipBlank_cons hblank]
    split
    · rename_i hnil
      cases hnil
    · rename_i heq
      cases heq
      exact absurd rfl hclosing
    · rw [hvalue]
      simp only [bind, Except.bind]
      rw [hrest]

theorem elements_items {depth : Nat} (vs : List Value) (hitems : ∀ v ∈ vs, Readable depth v)
    (hback : ∀ v ∈ vs, ReadBack depth v) (rest : List Char) (fuel : Nat)
    (hfuel : vs.length < fuel) :
    elements (value depth) true fuel
      ((",".intercalate (vs.map compact)).toList ++ ']' :: rest) = .ok (vs, rest) := by
  obtain ⟨fuel, rfl⟩ := Nat.exists_eq_succ_of_ne_zero (Nat.ne_zero_of_lt hfuel)
  cases vs with
  | nil => rfl
  | cons v vs =>
    obtain ⟨c, cs, hstart, hblank, hclosing⟩ := exists_start (hitems v List.mem_cons_self)
    have hvalue := hback v List.mem_cons_self
      ((vs.flatMap fun v => ',' :: (compact v).toList) ++ ']' :: rest)
      (ends_commas (fun v => (compact v).toList) vs (Or.inl rfl) rest)
    have hrest := elements_rest vs (fun w hw => hitems w (List.mem_cons_of_mem _ hw))
      (fun w hw => hback w (List.mem_cons_of_mem _ hw)) rest fuel
      (Nat.lt_of_succ_lt_succ hfuel)
    rw [List.map_cons, toList_intercalate_comma, List.flatMap_map, List.append_assoc]
    rw [hstart, List.cons_append] at hvalue ⊢
    unfold elements
    rw [skipBlank_cons hblank]
    simp only [hclosing, ↓reduceIte]
    rw [hvalue]
    simp only [bind, Except.bind]
    rw [hrest]

theorem toList_memberText (m : String × Value) (rest : List Char) :
    (memberText m).toList ++ rest =
      '"' :: (m.1.toList.flatMap escapeChar ++ '"' :: ':' :: ((compact m.2).toList ++ rest)) := by
  simp [memberText, quote]

/-- The key of a member is read wherever a key may stand. -/
theorem nextKey_memberText (m : String × Value) (cs : List Char) :
    nextKey true ((memberText m).toList ++ cs) =
        .ok (some m.1, ':' :: ((compact m.2).toList ++ cs)) ∧
      nextKey false (',' :: ((memberText m).toList ++ cs)) =
        .ok (some m.1, ':' :: ((compact m.2).toList ++ cs)) := by
  rw [toList_memberText]
  constructor
  · unfold nextKey
    rw [skipBlank_cons rfl]
    change (string _ >>= _) = _
    rw [string_quoted]
    rfl
  · unfold nextKey
    rw [skipBlank_cons rfl]
    simp only [Bool.false_eq_true, ↓reduceIte, Char.reduceEq]
    rw [skipBlank_cons rfl]
    change (string _ >>= _) = _
    rw [string_quoted]
    rfl

/-- After its key a member is read up to the members behind it. -/
theorem pairs_member {depth : Nat} {first : Bool} {m : String × Value} {text cs : List Char}
    (hback : ReadBack depth m.2) (hends : Ends cs)
    (hkey : nextKey first text = .ok (some m.1, ':' :: ((compact m.2).toList ++ cs)))
    {fuel : Nat} {ms : List (String × Value)} {rest : List Char}
    (hmembers : pairs (value depth) false fuel cs = .ok (ms, rest)) :
    pairs (value depth) first (fuel + 1) text = .ok (m :: ms, rest) := by
  have hcolon : colon (':' :: ((compact m.2).toList ++ cs)) =
      .ok ((compact m.2).toList ++ cs) := rfl
  unfold pairs
  simp only [hkey, hcolon, hback cs hends, hmembers, bind, Except.bind]

theorem pairs_rest {depth : Nat} (ms : List (String × Value))
    (hback : ∀ m ∈ ms, ReadBack depth m.2) (rest : List Char) (fuel : Nat)
    (hfuel : ms.length < fuel) :
    pairs (value depth) false fuel
      ((ms.flatMap fun m => ',' :: (memberText m).toList) ++ '\x7d' :: rest) =
        .ok (ms, rest) := by
  induction ms generalizing fuel with
  | nil =>
    obtain ⟨fuel, rfl⟩ := Nat.exists_eq_succ_of_ne_zero (Nat.ne_zero_of_lt hfuel)
    rfl
  | cons m ms ih =>
    obtain ⟨fuel, rfl⟩ := Nat.exists_eq_succ_of_ne_zero (Nat.ne_zero_of_lt hfuel)
    rw [List.flatMap_cons, List.cons_append, List.cons_append, List.append_assoc]
    exact pairs_member (hback m List.mem_cons_self)
      (ends_commas (fun m => (memberText m).toList) ms (Or.inr rfl) rest)
      (nextKey_memberText m _).2
      (ih (fun w hw => hback w (List.mem_cons_of_mem _ hw)) fuel
        (Nat.lt_of_succ_lt_succ hfuel))

theorem pairs_members {depth : Nat} (ms : List (String × Value))
    (hback : ∀ m ∈ ms, ReadBack depth m.2) (rest : List Char) (fuel : Nat)
    (hfuel : ms.length < fuel) :
    pairs (value depth) true fuel
      ((",".intercalate (ms.map memberText)).toList ++ '\x7d' :: rest) = .ok (ms, rest) := by
  obtain ⟨fuel, rfl⟩ := Nat.exists_eq_succ_of_ne_zero (Nat.ne_zero_of_lt hfuel)
  cases ms with
  | nil => rfl
  | cons m ms =>
    rw [List.map_cons, toList_intercalate_comma, List.flatMap_map, List.append_assoc]
    exact pairs_member (hback m List.mem_cons_self)
      (ends_commas (fun m => (memberText m).toList) ms (Or.inr rfl) rest)
      (nextKey_memberText m _).1
      (pairs_rest ms (fun w hw => hback w (List.mem_cons_of_mem _ hw)) rest fuel
        (Nat.lt_of_succ_lt_succ hfuel))

/-- Commas alone make a text as long as there are items. -/
theorem length_le_intercalate (texts : List String) :
    texts.length ≤ (",".intercalate texts).toList.length + 1 := by
  cases texts with
  | nil => exact Nat.zero_le _
  | cons text texts =>
    have hlength : texts.length ≤ (texts.flatMap fun t => ',' :: t.toList).length := by
      induction texts with
      | nil => exact Nat.le_refl 0
      | cons t texts ih =>
        rw [List.flatMap_cons, List.length_append, List.length_cons, List.length_cons]
        omega
    rw [toList_intercalate_comma, List.length_append, List.length_cons]
    omega

/-- A document that can be read is read back from the line on which it was written. -/
theorem value_compact {depth : Nat} {v : Value} (hv : Readable depth v) : ReadBack depth v := by
  induction hv with
  | null depth =>
    intro rest hends
    unfold value
    rfl
  | bool depth b =>
    intro rest hends
    unfold value
    cases b with
    | true => rfl
    | false => rfl
  | string depth s =>
    intro rest hends
    have htext : (compact (.string s)).toList ++ rest =
        '"' :: (s.toList.flatMap escapeChar ++ '"' :: rest) := by simp [compact, quote]
    rw [htext]
    unfold value
    rw [skipBlank_cons rfl]
    simp only [string_quoted, bind, Except.bind]
  | integer depth n fits =>
    intro rest hends
    exact value_integer depth fits hends
  | array depth vs hitems ih =>
    intro rest hends
    have htext : (compact (.array vs)).toList ++ rest =
        '[' :: ((",".intercalate (vs.map compact)).toList ++ ']' :: rest) := by
      simp [compact, compactItems_eq]
    have hread := elements_items vs hitems ih rest
      (((",".intercalate (vs.map compact)).toList ++ ']' :: rest).length + 1) (by
        have := length_le_intercalate (vs.map compact)
        rw [List.length_map] at this
        rw [List.length_append, List.length_cons]
        omega)
    rw [htext]
    unfold value
    rw [skipBlank_cons rfl]
    simp only [hread, bind, Except.bind]
  | object depth ms hkeys hmembers ih =>
    intro rest hends
    have htext : (compact (.object ms)).toList ++ rest =
        '\x7b' :: ((",".intercalate (ms.map memberText)).toList ++ '\x7d' :: rest) := by
      simp [compact, compactMembers_eq]
    have hread := pairs_members ms ih rest
      (((",".intercalate (ms.map memberText)).toList ++ '\x7d' :: rest).length + 1) (by
        have := length_le_intercalate (ms.map memberText)
        rw [List.length_map] at this
        rw [List.length_append, List.length_cons]
        omega)
    rw [htext]
    unfold value
    rw [skipBlank_cons rfl]
    simp only [hread, bind, Except.bind, Entries.ofList_of_nodup hkeys]

theorem parse_compact {v : Value} (hv : Readable maxDepth v) : parse (compact v) = .ok v := by
  have hvalue := value_compact hv [] ends_nil
  rw [List.append_nil] at hvalue
  unfold parse document
  simp only [hvalue, bind, Except.bind]
  rfl

end Values

end Json

end ZigbeeBridge
