import Mathlib.Data.List.DropRight
import ZigbeeBridge.Bridge.Address
import ZigbeeBridge.Proofs.Url.Authority
import ZigbeeBridge.Proofs.Url.Segment

/-!
Addresses written in full: what an address becomes has no blanks around it and names its scheme,
and nothing becomes of it any more. What can be asked at such an address can also be told where its
pushes come from.
-/
namespace ZigbeeBridge.Bridge

open Text

section Trimming

variable (cs : List Char)

theorem trimChars_of_ends (hfirst : ∀ c ∈ cs.head?, isBlank c = false)
    (hlast : ∀ c ∈ cs.getLast?, isBlank c = false) : trimChars cs = cs := by
  have hdrop : cs.dropWhile isBlank = cs := by
    cases cs with
    | nil => rfl
    | cons c rest => simp [hfirst c rfl]
  unfold trimChars
  rw [hdrop]
  refine List.rdropWhile_eq_self_iff.mpr fun hne => ?_
  rw [hlast _ (List.getLast?_eq_some_getLast hne)]
  exact Bool.false_ne_true

theorem first_trimChars : ∀ c ∈ (trimChars cs).head?, isBlank c = false := by
  intro c hc
  have hhead : (cs.dropWhile isBlank).head? = some c := by
    obtain ⟨after, hafter⟩ : trimChars cs <+: cs.dropWhile isBlank := List.rdropWhile_prefix _ _
    rw [← hafter, List.head?_append, hc]
    rfl
  have hnot := List.head?_dropWhile_not isBlank cs
  rw [hhead] at hnot
  exact hnot

theorem last_trimChars : ∀ c ∈ (trimChars cs).getLast?, isBlank c = false := by
  intro c hc
  obtain ⟨hne, rfl⟩ := List.mem_getLast?_eq_getLast hc
  exact Bool.eq_false_iff.mpr (List.rdropWhile_last_not isBlank (cs.dropWhile isBlank) hne)

end Trimming

section Normalizing

variable (cs : List Char)

theorem hasScheme_plainScheme : hasScheme (plainScheme ++ cs) = true := by
  have hhead : beginsWith plainScheme (plainScheme ++ cs) = true := by
    unfold beginsWith
    rw [List.take_left]
    decide
  unfold hasScheme
  rw [hhead, Bool.true_or]

theorem normalizeChars_of_full (hfull : trimChars cs = cs) (hscheme : hasScheme cs = true) :
    normalizeChars cs = cs := by
  unfold normalizeChars
  rw [hfull]
  exact if_pos hscheme

theorem trimChars_normalizeChars : trimChars (normalizeChars cs) = normalizeChars cs := by
  unfold normalizeChars
  dsimp only
  split
  · exact trimChars_of_ends _ (first_trimChars cs) (last_trimChars cs)
  · refine trimChars_of_ends _ ?_ ?_
    · intro c hc
      cases hc
      decide
    · intro c hc
      rw [List.getLast?_append] at hc
      cases hlast : (trimChars cs).getLast? with
      | none =>
        rw [hlast] at hc
        cases hc
        decide
      | some last =>
        rw [hlast] at hc
        cases hc
        exact last_trimChars cs c hlast

theorem hasScheme_normalizeChars : hasScheme (normalizeChars cs) = true := by
  unfold normalizeChars
  dsimp only
  split
  · rename_i hscheme
    exact hscheme
  · exact hasScheme_plainScheme _

end Normalizing

theorem normalizeAddress_normalizeAddress (address : String) :
    normalizeAddress (normalizeAddress address) = normalizeAddress address := by
  unfold normalizeAddress
  rw [String.toList_ofList, normalizeChars_of_full _ (trimChars_normalizeChars _)
    (hasScheme_normalizeChars _)]

section Places

open Url

theorem isAlpha_of_toLower {c : Char} (hc : c.toLower.isAlpha = true) : c.isAlpha = true := by
  unfold Char.toLower at hc
  split at hc
  · rename_i hupper
    rw [Char.isAlpha, Char.isUpper, Bool.or_eq_true]
    exact Or.inl (decide_eq_true hupper)
  · exact hc

theorem map_toLower_of_sameLetters {word cs : List Char} (hsame : sameLetters word cs = true) :
    cs.map Char.toLower = word.map Char.toLower := by
  induction word generalizing cs with
  | nil =>
    cases cs with
    | nil => rfl
    | cons c cs => cases hsame
  | cons d word ih =>
    cases cs with
    | nil => cases hsame
    | cons c cs =>
      unfold sameLetters sameLetter at hsame
      rw [Bool.and_eq_true, beq_iff_eq] at hsame
      rw [List.map_cons, List.map_cons, hsame.1, ih hsame.2]

/-- A colon stands in the same place, whatever case the letters in front of it have. -/
theorem colon_of_sameLetters {word back cs : List Char}
    (hsame : sameLetters (word ++ ':' :: back) cs = true) :
    ∃ letters rest, cs = letters ++ ':' :: rest ∧
      letters.map Char.toLower = word.map Char.toLower := by
  have hmap := map_toLower_of_sameLetters hsame
  rw [List.map_append, List.map_cons] at hmap
  obtain ⟨letters, behind, rfl, hletters, hbehind⟩ := List.map_eq_append_iff.mp hmap
  obtain ⟨c, rest, rfl, hc, -⟩ := List.map_eq_cons_iff.mp hbehind
  have hcolon : c = ':' := toLower_eq (by decide) hc
  exact ⟨letters, rest, by rw [hcolon], hletters⟩

/-- A text with a scheme begins with letters that spell the scheme. -/
theorem letters_of_hasScheme {cs : List Char} (hscheme : hasScheme cs = true) :
    ∃ scheme letters rest, (scheme = "http" ∨ scheme = "https") ∧ cs = letters ++ ':' :: rest ∧
      letters.map Char.toLower = scheme.toList := by
  have hcolon : ∀ scheme : String, scheme.toList.map Char.toLower = scheme.toList →
      beginsWith (scheme.toList ++ "://".toList) cs = true →
        ∃ letters rest, cs = letters ++ ':' :: rest ∧
          letters.map Char.toLower = scheme.toList := by
    intro scheme hlower hbegins
    have hsame : sameLetters (scheme.toList ++ ':' :: ['/', '/'])
        (cs.take (scheme.toList ++ "://".toList).length) = true := hbegins
    obtain ⟨letters, rest, htake, hletters⟩ := colon_of_sameLetters hsame
    have hcs := List.take_append_drop (scheme.toList ++ "://".toList).length cs
    rw [htake, List.append_assoc, List.cons_append] at hcs
    exact ⟨letters, _, hcs.symm, hletters.trans hlower⟩
  rcases Bool.or_eq_true_iff.mp hscheme with hplain | hsecure
  · obtain ⟨letters, rest, hcs, hletters⟩ := hcolon "http" (by decide) hplain
    exact ⟨"http", letters, rest, Or.inl rfl, hcs, hletters⟩
  · obtain ⟨letters, rest, hcs, hletters⟩ := hcolon "https" (by decide) hsecure
    exact ⟨"https", letters, rest, Or.inr rfl, hcs, hletters⟩

/-- What can be asked at an address is a URL with an authority. -/
theorem hosted_of_baseUrl {address : String} {base : Url} (hbase : baseUrl address = .ok base) :
    Hosted base := by
  obtain ⟨scheme, letters, rest, hscheme, hcs, hletters⟩ :=
    letters_of_hasScheme (hasScheme_normalizeChars address.toList)
  obtain ⟨hfile, hspecial⟩ := special_of_http hscheme
  obtain ⟨hsome, hsmall, -⟩ := letters_of_special hspecial
  have hne : letters ≠ [] := by
    rintro rfl
    exact hsome hletters.symm
  -- They are letters in the text too, since those of the scheme are and only their case can differ.
  have halpha : ∀ c ∈ letters, c.isAlpha = true := fun c hc =>
    isAlpha_of_toLower (hsmall _ (hletters ▸ List.mem_map_of_mem hc))
  have hspelt : lowercase (String.ofList letters) = scheme := by
    rw [lowercase, String.toList_ofList, hletters, String.ofList_toList]
  have hreads : Url.parse (String.ofList (letters ++ ':' :: rest)) = .ok base := by
    rw [← hcs]
    unfold baseUrl normalizeAddress at hbase
    dsimp only at hbase
    exact Data.mapError_eq_ok hbase
  rw [parse_letters hne halpha, hspelt] at hreads
  unfold afterScheme at hreads
  rw [if_neg hfile, if_pos hspecial] at hreads
  exact hosted_of_withAuthority hscheme hreads

/-- So pushes have a place to come from, at any port. -/
theorem pushUrl_of_baseUrl {address : String} {base : Url} (hbase : baseUrl address = .ok base)
    (port : UInt16) : ∃ url, pushUrl base port = .ok url := by
  obtain ⟨host, hhost, hread⟩ := (hosted_of_baseUrl hbase).host
  have hne : host.text ≠ "" := by
    intro hempty
    exact (solid_host (specialHost_text hread)).2 (by rw [hempty]; rfl)
  have htext : base.hostText? = some host.text := by
    unfold Url.hostText?
    rw [hhost]
    simp [hne]
  have hscheme : (if base.scheme = "https" then "wss" else "ws") ≠ "file" ∧
      isSpecial (if base.scheme = "https" then "wss" else "ws") = true := by
    split
    · decide
    · decide
  obtain ⟨url, hurl⟩ := parse_place hscheme.1 hscheme.2 hread port
  unfold pushUrl
  rw [htext]
  dsimp only
  rw [hurl]
  exact ⟨url, rfl⟩

end Places

end ZigbeeBridge.Bridge
