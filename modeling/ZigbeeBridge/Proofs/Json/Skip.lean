import Mathlib.Data.List.DropRight
import Mathlib.Data.List.TakeWhile
import ZigbeeBridge.Json.Skip
import ZigbeeBridge.Proofs.Json.Written

/-!
What can be read can be passed over, to the same end. The brackets that stand open are all that is
kept of a text that is passed over, so a value is passed over in whatever it is nested, once what
follows it can be.
-/
namespace ZigbeeBridge.Json

open Data Numeral

variable {cs rest after : List Char}

section Strings

theorem length_hexQuad {n : Nat} (h : hexQuad cs = .ok (n, rest)) : rest.length ≤ cs.length := by
  unfold hexQuad at h
  split at h
  · split at h
    · cases h
      simp only [List.length_cons]
      omega
    · cases h
  · split_ifs at h

theorem length_skipEscape (h : skipEscape cs = .ok rest) : rest.length ≤ cs.length := by
  unfold skipEscape at h
  split at h
  · cases h
  · obtain ⟨⟨n, behind⟩, hquad, hdone⟩ := bind_eq_ok h
    cases hdone
    exact Nat.le_succ_of_le (length_hexQuad hquad)
  · split_ifs at h
    cases h
    exact Nat.le_succ _

theorem length_skipStringBody {fuel : Nat} (h : skipStringBody fuel cs = .ok rest) :
    rest.length ≤ cs.length := by
  induction fuel generalizing cs with
  | zero => cases h
  | succ fuel ih =>
    unfold skipStringBody at h
    split at h
    · cases h
    · cases h
      exact Nat.le_succ _
    · obtain ⟨behind, hescape, hrest⟩ := bind_eq_ok h
      exact Nat.le_succ_of_le (Nat.le_trans (ih hrest) (length_skipEscape hescape))
    · split_ifs at h
      exact Nat.le_succ_of_le (ih h)

/-- The text is passed over as the rest of a string, with as much fuel as there is text. -/
def Unquotes (cs rest : List Char) : Prop :=
  ∀ fuel, cs.length < fuel → skipStringBody fuel cs = .ok rest

theorem unquotes_escape (hescape : skipEscape cs = .ok after) (h : Unquotes after rest) :
    Unquotes ('\\' :: cs) rest := by
  intro fuel hfuel
  obtain ⟨fuel, rfl⟩ := Nat.exists_eq_succ_of_ne_zero (Nat.ne_zero_of_lt hfuel)
  rw [List.length_cons] at hfuel
  have hlength := length_skipEscape hescape
  unfold skipStringBody
  simp only [hescape, bind, Except.bind]
  exact h fuel (by omega)

/-- A pair of surrogates is one escape to those who read it and two to those who pass it over. -/
theorem unquotes_of_escape {c : Char} (hescape : escape cs = .ok (c, after))
    (h : Unquotes after rest) : Unquotes ('\\' :: cs) rest := by
  have hquad : ∀ {digits behind : List Char} {n : Nat}, hexQuad digits = .ok (n, behind) →
      skipEscape ('u' :: digits) = .ok behind := by
    intro digits behind n hdigits
    simp only [skipEscape, hdigits, bind, Except.bind]
  unfold escape at hescape
  split at hescape
  · cases hescape
  · obtain ⟨⟨n, behind⟩, hdigits, hescape⟩ := bind_eq_ok hescape
    dsimp only at hescape
    split at hescape
    · cases hescape
    split at hescape
    · unfold lowSurrogate at hescape
      split at hescape
      · cases hescape
      · split at hescape
        · cases hescape
        · obtain ⟨⟨low, last⟩, hlow, hdone⟩ := bind_eq_ok hescape
          dsimp only at hdone
          split at hdone
          · obtain ⟨-, rfl⟩ := Prod.mk.inj (Except.ok.inj hdone)
            exact unquotes_escape (hquad hdigits) (unquotes_escape (hquad hlow) h)
          · cases hdone
        · cases hescape
      · cases hescape
    · cases hescape
      exact unquotes_escape (hquad hdigits) h
  · rename_i first behind hunicode
    split at hescape
    · rename_i e hsimple
      cases hescape
      have hskip : skipEscape (first :: after) = .ok after := by
        unfold skipEscape
        split
        · contradiction
        · rename_i heq
          cases heq
          exact absurd rfl hunicode
        · rename_i heq
          cases heq
          rw [hsimple]
          rfl
      exact unquotes_escape hskip h
    · cases hescape

theorem unquotes_of_stringBody {fuel : Nat} {body : List Char}
    (h : stringBody fuel cs = .ok (body, rest)) : Unquotes cs rest := by
  induction fuel generalizing cs body with
  | zero => cases h
  | succ fuel ih =>
    unfold stringBody at h
    split at h
    · cases h
    · cases h
      intro fuel hfuel
      obtain ⟨fuel, rfl⟩ := Nat.exists_eq_succ_of_ne_zero (Nat.ne_zero_of_lt hfuel)
      rfl
    · obtain ⟨⟨c, behind⟩, hescape, h⟩ := bind_eq_ok h
      obtain ⟨⟨_, _⟩, hbody, hdone⟩ := bind_eq_ok h
      cases hdone
      exact unquotes_of_escape hescape (ih hbody)
    · rename_i c behind hquote hescape
      split_ifs at h with hcontrol
      obtain ⟨⟨_, _⟩, hbody, hdone⟩ := bind_eq_ok h
      cases hdone
      intro fuel hfuel
      obtain ⟨fuel, rfl⟩ := Nat.exists_eq_succ_of_ne_zero (Nat.ne_zero_of_lt hfuel)
      simp only [skipStringBody, hcontrol, ↓reduceIte]
      exact ih hbody fuel (Nat.lt_of_succ_lt_succ hfuel)

theorem skipString_of_string {s : String} (h : string cs = .ok (s, rest)) :
    skipString cs = .ok rest := by
  obtain ⟨⟨body, _⟩, hbody, hdone⟩ := bind_eq_ok h
  cases hdone
  exact unquotes_of_stringBody hbody _ (Nat.lt_succ_self _)

end Strings

section Numbers

/-- What follows the letter of an exponent, without a sign. -/
def unsigned (cs : List Char) : List Char :=
  match cs with
  | '+' :: rest | '-' :: rest => rest
  | _ => cs

/-- The extent of an exponent is that of its digits. -/
theorem skipExponent_eq (cs : List Char) :
    skipExponent cs =
      match unsigned cs with
      | [] => .error (.before .badNumber [])
      | c :: _ =>
        if isDigit c then .ok ((unsigned cs).dropWhile isDigit)
        else .error (.next .badNumber (unsigned cs)) := rfl

theorem length_unsigned (cs : List Char) : (unsigned cs).length ≤ cs.length := by
  unfold unsigned
  split <;> simp

theorem length_skipExponent (h : skipExponent cs = .ok rest) : rest.length ≤ cs.length := by
  rw [skipExponent_eq] at h
  split at h
  · cases h
  · split_ifs at h
    cases h
    exact Nat.le_trans (List.length_dropWhile_le ..) (length_unsigned cs)

theorem rest_of_sized {negative : Bool} {s : Significand} {n : Number}
    (h : sized negative s cs = .ok (n, rest)) : rest = cs := by
  unfold sized at h
  split at h
  · cases h
    rfl
  · cases h

theorem rest_of_wholeNumber {negative : Bool} {whole : List Char} {n : Number}
    (h : wholeNumber negative whole cs = .ok (n, rest)) : rest = cs := by
  unfold wholeNumber at h
  dsimp only at h
  split at h
  · cases h
    rfl
  · split at h
    · cases h
      rfl
    · cases h

theorem skipExponent_of_exponentPart {negative : Bool} {s : Significand} {n : Number}
    (h : exponentPart negative s cs = .ok (n, rest)) : skipExponent cs = .ok rest := by
  unfold exponentPart at h
  split at h
  rename_i down ds hsign
  have hds : unsigned cs = ds := by
    unfold unsigned
    split at hsign
    · cases hsign; rfl
    · cases hsign; rfl
    · cases hsign; simp
  rw [skipExponent_eq, hds]
  split at h
  · cases h
  · rename_i c behind
    dsimp only at h ⊢
    split at h
    · cases h
    · rename_i hdigit
      rw [if_pos (by simpa using hdigit)]
      split at h
      · rw [rest_of_sized h]
      · split at h
        · cases h
        · rw [(Prod.mk.inj (Except.ok.inj h)).2]

/-- Behind the point there are digits, and perhaps an exponent. -/
theorem skip_of_fractionPart {negative : Bool} {s : Significand} {n : Number}
    (h : fractionPart negative s cs = .ok (n, rest)) :
    (match cs.takeWhile isDigit, cs.dropWhile isDigit with
      | [], rest => .error (.next .badNumber rest)
      | _, 'e' :: after => skipExponent after
      | _, 'E' :: after => skipExponent after
      | _, rest => .ok rest) = (.ok rest : Except (Fault Flaw) (List Char)) := by
  unfold fractionPart at h
  dsimp only at h
  split at h
  · cases h
  · cases h
  · rename_i hdigits _
    split
    · rename_i hnone
      exact absurd hnone hdigits
    · rename_i hexponent _
      rw [hexponent] at h
      exact skipExponent_of_exponentPart h
    · rename_i hexponent _
      rw [hexponent] at h
      exact skipExponent_of_exponentPart h
    · rename_i hlower hupper
      split at h
      · rename_i hexponent
        exact absurd hexponent (hlower _)
      · rename_i hexponent
        exact absurd hexponent (hupper _)
      · rw [rest_of_sized h]

/-- A number is as long as its digits are, whatever its size. -/
theorem skipNumber_of_number {negative : Bool} {n : Number}
    (h : number negative cs = .ok (n, rest)) : skipNumber cs = .ok rest := by
  unfold number at h
  split at h
  · cases h
  · unfold skipNumber
    dsimp only
    split at h
    · cases h
    · split at h
      · cases h
      · rename_i hdigit hzero
        rw [if_neg hdigit, if_neg hzero]
        dsimp only at h
        split at h
        · exact skip_of_fractionPart h
        · exact skipExponent_of_exponentPart h
        · exact skipExponent_of_exponentPart h
        · rw [rest_of_wholeNumber h]

theorem length_skipNumber (h : skipNumber cs = .ok rest) : rest.length < cs.length := by
  have hdrop : ∀ {digits behind : List Char} {c : Char}, digits.dropWhile isDigit = c :: behind →
      behind.length < digits.length := by
    intro digits behind c hdigits
    have hlength := List.length_dropWhile_le isDigit digits
    rw [hdigits] at hlength
    exact hlength
  unfold skipNumber at h
  split at h
  · cases h
  · rename_i c behind
    split at h
    · cases h
    · rename_i hdigit
      split at h
      · cases h
      · split at h
        · rename_i fraction hpoint
          have hfraction := hdrop hpoint
          split at h
          · cases h
          · rename_i hexponent _
            have := hdrop hexponent
            have := length_skipExponent h
            omega
          · rename_i hexponent _
            have := hdrop hexponent
            have := length_skipExponent h
            omega
          · cases h
            exact Nat.lt_of_le_of_lt (List.length_dropWhile_le ..) hfraction
        · rename_i hexponent
          exact Nat.lt_of_le_of_lt (length_skipExponent h) (hdrop hexponent)
        · rename_i hexponent
          exact Nat.lt_of_le_of_lt (length_skipExponent h) (hdrop hexponent)
        · cases h
          rw [List.dropWhile_cons_of_pos (by simpa using hdigit)]
          exact Nat.lt_succ_of_le (List.length_dropWhile_le ..)

end Numbers

section Words

theorem skipBlank_skipBlank (cs : List Char) : skipBlank (skipBlank cs) = skipBlank cs :=
  List.dropWhile_idempotent ..

theorem length_skipBlank (cs : List Char) : (skipBlank cs).length ≤ cs.length :=
  List.length_dropWhile_le ..

theorem length_word {ws : List Char} (h : word ws cs = .ok rest) : rest.length ≤ cs.length := by
  induction ws generalizing cs with
  | nil =>
    cases h
    exact Nat.le_refl _
  | cons w ws ih =>
    cases cs with
    | nil => cases h
    | cons c cs =>
      unfold word at h
      split_ifs at h
      exact Nat.le_succ_of_le (ih h)

end Words

section Brackets

variable {fresh : Bool} {inner : Bracket} {outer : List Bracket} {r : List Char}

/-- What is done behind an opened bracket (`fresh`) or a finished value. -/
def carryOn (fuel : Nat) (fresh : Bool) (outer : List Bracket) (cs : List Char) :
    Except (Fault Flaw) (List Char) := do
  let (place, rest) ← match outer with
    | inner :: outer => closeBrackets fresh inner outer cs (cs.length + 1)
    | [] => .ok (.done, cs)
  match place with
  | .done => .ok rest
  | .inside .square outer => skipNested fuel (.square :: outer) rest
  | .inside .curly outer => do skipNested fuel (.curly :: outer) (← skipKey rest)

theorem skipNested_succ (fuel : Nat) (outer : List Bracket) (cs : List Char) :
    skipNested (fuel + 1) outer cs = (do
      let (bracket?, rest) ← skipStart cs
      carryOn fuel bracket?.isSome (bracket?.toList ++ outer) rest) := by
  rw [skipNested]
  cases skipStart cs with
  | error e => rfl
  | ok start =>
    obtain ⟨bracket?, rest⟩ := start
    cases bracket? with
    | none => cases outer <;> rfl
    | some bracket => rfl

/-- Passing over a value in open brackets ends at `r`. -/
def Passes (outer : List Bracket) (cs r : List Char) : Prop :=
  ∀ fuel, cs.length < fuel → skipNested fuel outer cs = .ok r

/-- So does carrying on behind it. -/
def CarriesOn (fresh : Bool) (outer : List Bracket) (cs r : List Char) : Prop :=
  ∀ fuel, cs.length < fuel → carryOn fuel fresh outer cs = .ok r

theorem skipStart_skipBlank (cs : List Char) : skipStart (skipBlank cs) = skipStart cs := by
  unfold skipStart
  rw [skipBlank_skipBlank]

theorem passes_of_skipBlank (h : Passes outer (skipBlank cs) r) : Passes outer cs r := by
  intro fuel hfuel
  obtain ⟨fuel, rfl⟩ := Nat.exists_eq_succ_of_ne_zero (Nat.ne_zero_of_lt hfuel)
  have hpasses := h (fuel + 1) (Nat.lt_of_le_of_lt (length_skipBlank cs) hfuel)
  rw [skipNested_succ, skipStart_skipBlank] at hpasses
  rw [Nat.succ_eq_add_one, skipNested_succ]
  exact hpasses

theorem length_skipStart {bracket? : Option Bracket} (h : skipStart cs = .ok (bracket?, rest)) :
    rest.length < cs.length := by
  have hblank := length_skipBlank cs
  unfold skipStart at h
  split at h
  · cases h
  · rename_i c behind hstart
    rw [hstart, List.length_cons] at hblank
    split at h
    case h_1 | h_2 | h_3 =>
      obtain ⟨_, hword, hdone⟩ := bind_eq_ok h
      cases hdone
      exact Nat.lt_of_le_of_lt (length_word hword) hblank
    case h_4 =>
      obtain ⟨_, hstring, hdone⟩ := bind_eq_ok h
      cases hdone
      exact Nat.lt_of_le_of_lt (length_skipStringBody hstring) hblank
    case h_5 =>
      obtain ⟨_, hnumber, hdone⟩ := bind_eq_ok h
      cases hdone
      exact Nat.lt_trans (length_skipNumber hnumber) hblank
    case h_6 | h_7 =>
      cases h
      exact hblank
    case h_8 =>
      split at h
      · obtain ⟨_, hnumber, hdone⟩ := bind_eq_ok h
        cases hdone
        exact Nat.lt_of_lt_of_le (length_skipNumber hnumber) hblank
      · cases h

theorem passes_of_start {bracket? : Option Bracket} (hstart : skipStart cs = .ok (bracket?, after))
    (h : CarriesOn bracket?.isSome (bracket?.toList ++ outer) after r) : Passes outer cs r := by
  intro fuel hfuel
  obtain ⟨fuel, rfl⟩ := Nat.exists_eq_succ_of_ne_zero (Nat.ne_zero_of_lt hfuel)
  have hlength := length_skipStart hstart
  rw [Nat.succ_eq_add_one, skipNested_succ, hstart]
  exact h fuel (by omega)

/-- A closing bracket is a character, so as much fuel as there is text is enough. -/
theorem closeBrackets_fuel {fuel fuel' : Nat} (hfuel : cs.length < fuel)
    (hfuel' : cs.length < fuel') :
    closeBrackets fresh inner outer cs fuel = closeBrackets fresh inner outer cs fuel' := by
  induction fuel generalizing fresh inner outer cs fuel' with
  | zero => exact absurd hfuel (Nat.not_lt_zero _)
  | succ fuel ih =>
    obtain ⟨fuel', rfl⟩ := Nat.exists_eq_succ_of_ne_zero (Nat.ne_zero_of_lt hfuel')
    have hblank := length_skipBlank cs
    unfold closeBrackets
    cases hstart : skipBlank cs with
    | nil => rfl
    | cons c behind =>
      rw [hstart, List.length_cons] at hblank
      cases outer with
      | nil => rfl
      | cons b outer =>
        dsimp only
        rw [ih (by omega) (Nat.lt_of_lt_of_le hblank (Nat.le_of_lt_succ hfuel'))]

theorem carryOn_close (fuel : Nat) (hblank : skipBlank cs = inner.close :: after) :
    carryOn fuel fresh (inner :: outer) cs = carryOn fuel false outer after := by
  have hlength := length_skipBlank cs
  rw [hblank, List.length_cons] at hlength
  have hcomma : ¬(inner.close = ',' ∧ (!fresh) = true) := by
    cases inner <;> simp [Bracket.close]
  unfold carryOn
  dsimp only
  rw [closeBrackets, hblank]
  dsimp only
  rw [if_neg hcomma, if_pos rfl]
  cases outer with
  | nil => rfl
  | cons b outer =>
    dsimp only
    rw [closeBrackets_fuel hlength (Nat.lt_succ_self _)]

/-- The outermost of the open brackets stays open where a comma or a first element comes. -/
theorem carryOn_inside (fuel : Nat)
    (h : closeBrackets fresh inner outer cs (cs.length + 1) = .ok (.inside inner outer, after)) :
    carryOn fuel fresh (inner :: outer) cs =
      match inner with
      | .square => skipNested fuel (.square :: outer) after
      | .curly => skipKey after >>= skipNested fuel (.curly :: outer) := by
  unfold carryOn
  dsimp only
  rw [h]
  cases inner <;> rfl

theorem closeBrackets_first {c : Char} (hblank : skipBlank cs = c :: after)
    (hclose : c ≠ inner.close) :
    closeBrackets true inner outer cs (cs.length + 1) = .ok (.inside inner outer, c :: after) := by
  rw [closeBrackets, hblank]
  simp [hclose]

theorem closeBrackets_comma (hblank : skipBlank cs = ',' :: after) :
    closeBrackets false inner outer cs (cs.length + 1) = .ok (.inside inner outer, after) := by
  rw [closeBrackets, hblank]
  simp

theorem length_after_blank {c : Char} (hblank : skipBlank cs = c :: after) :
    after.length < cs.length := by
  have hlength := length_skipBlank cs
  rw [hblank] at hlength
  exact hlength

theorem carriesOn_close (hblank : skipBlank cs = inner.close :: after)
    (h : CarriesOn false outer after r) : CarriesOn fresh (inner :: outer) cs r := by
  intro fuel hfuel
  rw [carryOn_close fuel hblank]
  exact h fuel (Nat.lt_trans (length_after_blank hblank) hfuel)

/-- Where an element is read one is passed over, from the blanks in front of it. -/
theorem inside_of_elementAt {start : List Char} (h : ElementAt fresh cs start) :
    ∃ after, closeBrackets fresh .square outer cs (cs.length + 1) =
        .ok (.inside .square outer, after) ∧
      skipBlank after = start ∧ after.length ≤ cs.length := by
  cases h with
  | @first _ c behind hblank hclose =>
    refine ⟨c :: behind, closeBrackets_first hblank hclose, ?_, length_after_blank hblank⟩
    rw [← hblank, skipBlank_skipBlank]
  | @later _ behind _ _ hblank hbehind _ =>
    exact ⟨behind, closeBrackets_comma hblank, hbehind, Nat.le_of_lt (length_after_blank hblank)⟩

theorem length_colon (h : colon cs = .ok rest) : rest.length ≤ cs.length := by
  unfold colon at h
  split at h
  · cases h
  · rename_i hblank
    cases h
    exact Nat.le_of_lt (length_after_blank hblank)
  · cases h

theorem length_skipKey (h : skipKey cs = .ok rest) : rest.length ≤ cs.length := by
  unfold skipKey at h
  split at h
  · cases h
  · rename_i hblank
    obtain ⟨behind, hstring, hcolon⟩ := bind_eq_ok h
    have := length_after_blank hblank
    have := length_skipStringBody hstring
    have := length_colon hcolon
    omega
  · cases h

theorem skipKey_of_string {start behind : List Char} {key : String}
    (hblank : skipBlank cs = '"' :: after) (hkey : string after = .ok (key, behind))
    (hcolon : colon behind = .ok start) : skipKey cs = .ok start := by
  simp only [skipKey, hblank, skipString_of_string hkey, bind, Except.bind]
  exact hcolon

/-- Where a key is read one is passed over, up to its value. -/
theorem inside_of_nextKey {start behind : List Char} {key : String}
    (hkey : nextKey fresh cs = .ok (some key, behind)) (hcolon : colon behind = .ok start) :
    ∃ after, closeBrackets fresh .curly outer cs (cs.length + 1) =
        .ok (.inside .curly outer, after) ∧
      skipKey after = .ok start ∧ start.length ≤ cs.length := by
  unfold nextKey at hkey
  split at hkey
  · cases hkey
  · rename_i c after hblank
    split_ifs at hkey with hclose hfirst hquote hcomma
    · cases hkey
    · obtain ⟨_, hstring, hdone⟩ := bind_eq_ok hkey
      cases hdone
      subst hfirst hquote
      have hskip : skipKey ('"' :: after) = .ok start :=
        skipKey_of_string (by rw [← hblank, skipBlank_skipBlank]) hstring hcolon
      refine ⟨_, closeBrackets_first hblank hclose, hskip, ?_⟩
      exact Nat.le_trans (length_skipKey hskip) (length_after_blank hblank)
    · rw [Bool.not_eq_true] at hfirst
      subst hfirst hcomma
      split at hkey
      · cases hkey
      · rename_i hafter
        obtain ⟨_, hstring, hdone⟩ := bind_eq_ok hkey
        cases hdone
        have hskip := skipKey_of_string hafter hstring hcolon
        refine ⟨_, closeBrackets_comma hblank, hskip, ?_⟩
        exact Nat.le_trans (length_skipKey hskip) (Nat.le_of_lt (length_after_blank hblank))
      · cases hkey
      · cases hkey

theorem close_of_nextKey (hkey : nextKey fresh cs = .ok (none, rest)) :
    skipBlank cs = '\x7d' :: rest.drop 1 := by
  unfold nextKey at hkey
  split at hkey
  · cases hkey
  · rename_i c after hblank
    split_ifs at hkey with hclose hfirst hquote hcomma
    · cases hkey
      rw [hblank, hclose]
      rfl
    · obtain ⟨_, _, hdone⟩ := bind_eq_ok hkey
      cases hdone
    · split at hkey
      · cases hkey
      · obtain ⟨_, _, hdone⟩ := bind_eq_ok hkey
        cases hdone
      · cases hkey
      · cases hkey

end Brackets

section Values

variable {fresh : Bool} {outer : List Bracket} {r : List Char}

/-- What is read can be passed over in whatever it is nested, if one can carry on behind it. -/
def Skippable {α : Type} (item : Reader Flaw α) : Prop :=
  ∀ {cs x after}, item cs = .ok (x, after) →
    ∀ {outer r}, CarriesOn false outer after r → Passes outer cs r

variable {α : Type} {item : Reader Flaw α}

theorem carriesOn_elements (hitem : Skippable item) {xs : List α}
    (h : Elements item fresh cs xs rest) (hrest : CarriesOn false outer rest r) :
    CarriesOn fresh (.square :: outer) cs r := by
  induction h with
  | close hblank => exact carriesOn_close hblank hrest
  | next hstart hread _ ih =>
    obtain ⟨after, hinside, hblank, hlength⟩ := inside_of_elementAt hstart
    have hpasses : Passes (.square :: outer) after r :=
      passes_of_skipBlank (hblank ▸ hitem hread (ih hrest))
    intro fuel hfuel
    rw [carryOn_inside fuel hinside]
    exact hpasses fuel (Nat.lt_of_le_of_lt hlength hfuel)

theorem carriesOn_members (hitem : Skippable item) {ms : List (String × α)}
    (h : Members item fresh cs ms rest) (hrest : CarriesOn false outer rest r) :
    CarriesOn fresh (.curly :: outer) cs r := by
  induction h with
  | close hkey => exact carriesOn_close (close_of_nextKey hkey) hrest
  | next hkey hcolon hread _ ih =>
    obtain ⟨after, hinside, hskip, hlength⟩ := inside_of_nextKey hkey hcolon
    intro fuel hfuel
    rw [carryOn_inside fuel hinside, hskip]
    exact hitem hread (ih hrest) fuel (Nat.lt_of_le_of_lt hlength hfuel)

theorem skipStart_digit {c : Char} (hc : isDigit c = true) (hblank : skipBlank cs = c :: after) :
    skipStart cs = (skipNumber (c :: after) >>= fun rest => .ok (none, rest)) := by
  unfold skipStart
  rw [hblank]
  dsimp only
  split
  case h_8 => rw [if_pos hc]
  all_goals cases hc

/-- By the bracket that opens, or to its end if none does. -/
theorem skipStart_of_form {depth : Nat} {start : List Char} {v : Value}
    (hblank : skipBlank cs = start) (h : Form depth start v rest) :
    skipStart cs = .ok (none, rest) ∨
      (∃ behind vs below, depth = below + 1 ∧ skipStart cs = .ok (some .square, behind) ∧
        Elements (written below) true behind vs rest) ∨
      ∃ behind ms below, depth = below + 1 ∧ skipStart cs = .ok (some .curly, behind) ∧
        Members (written below) true behind ms rest := by
  cases h with
  | null hword | yes hword | no hword =>
    left
    simp only [skipStart, hblank, hword, bind, Except.bind]
  | string hstring =>
    left
    simp only [skipStart, hblank, skipString_of_string hstring, bind, Except.bind]
  | negative hnumber =>
    left
    simp only [skipStart, hblank, skipNumber_of_number hnumber, bind, Except.bind]
  | digit hc hnumber =>
    left
    rw [skipStart_digit hc hblank, skipNumber_of_number hnumber]
    rfl
  | array hitems =>
    right; left
    exact ⟨_, _, _, rfl, by simp only [skipStart, hblank], hitems⟩
  | object hmembers =>
    right; right
    exact ⟨_, _, _, rfl, by simp only [skipStart, hblank], (members_of_ok hmembers).1⟩

theorem skippable_written (depth : Nat) : Skippable (written depth) := by
  induction depth using Nat.strong_induction_on with
  | _ depth ih =>
    intro cs v after h outer r hafter
    obtain hstart | ⟨behind, vs, below, rfl, hstart, hitems⟩ |
      ⟨behind, ms, below, rfl, hstart, hmembers⟩ := skipStart_of_form rfl (form_of_written h)
    · exact passes_of_start hstart hafter
    · exact passes_of_start hstart
        (carriesOn_elements (ih below (Nat.lt_succ_self _)) hitems hafter)
    · exact passes_of_start hstart
        (carriesOn_members (ih below (Nat.lt_succ_self _)) hmembers hafter)

/-- A value that can be read is passed over to its end. -/
theorem skipValue_of_written {depth : Nat} {v : Value} (h : written depth cs = .ok (v, rest)) :
    skipValue cs = .ok rest :=
  skippable_written depth h (fun _ _ => rfl) _ (Nat.lt_succ_self _)

end Values

end ZigbeeBridge.Json
