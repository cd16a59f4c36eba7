import ZigbeeBridge.Proofs.Bridge.Address
import ZigbeeBridge.Proofs.Bridge.Command
import ZigbeeBridge.Proofs.Bridge.Effect
import ZigbeeBridge.Proofs.Text.Span
import ZigbeeBridge.Proofs.Text.Utf8

/-!
Locations of announcements. A location is cut at the first slash behind its ninth byte, and it is
left as it is where there is none, or where a character goes across that place. What is left is the
scheme and the host exactly where the search does not begin behind the host or inside a character.
-/
namespace ZigbeeBridge.Bridge

open Text Operation
open Dialogue (Behaviour)

section Cuts

variable {scheme rest : List Char}

def hostPart (rest : List Char) : List Char := rest.takeWhile (· ≠ '/')

/-- The search for a slash begins between two characters of the host, or at its end. -/
def BeginsInHost (scheme rest : List Char) : Prop :=
  ∃ skipped behind, rest = skipped ++ behind ∧ '/' ∉ skipped ∧
    byteLength (scheme ++ skipped) = locationStart

/-- There is no path to drop, or its slash is the first one that is found. -/
def Cuttable (scheme rest : List Char) : Prop := '/' ∉ rest ∨ BeginsInHost scheme rest

theorem slash_not_mem_hostPart (rest : List Char) : '/' ∉ hostPart rest := by
  intro hmem
  have hne := List.mem_takeWhile_imp hmem
  simp at hne

theorem hostPart_of_not_mem (hrest : '/' ∉ rest) : hostPart rest = rest :=
  List.takeWhile_eq_self_iff.mpr (ne_mark hrest)

theorem hostPart_append {front : List Char} (hfront : '/' ∉ front) (back : List Char) :
    hostPart (front ++ back) = front ++ hostPart back :=
  List.takeWhile_append_of_pos (ne_mark hfront)

/-- A location that can be searched keeps what is skipped, and what stands before a slash there. -/
theorem reduceLocation_skipped {front : List Char} (hfront : byteLength front = locationStart)
    (back : List Char) :
    reduceLocation (String.ofList (front ++ back)) = String.ofList (front ++ hostPart back) := by
  have hdrop := dropBytes?_of_byteLength front back
  rw [hfront] at hdrop
  unfold reduceLocation
  dsimp only
  rw [String.toList_ofList, hdrop]
  dsimp only
  rw [List.length_append, Nat.add_sub_cancel, List.take_left]
  split
  · rfl
  · rename_i hslash
    rw [hostPart_of_not_mem (by simpa using hslash)]

theorem reduceLocation_unsearched {cs : List Char}
    (hnone : ∀ front back, cs = front ++ back → byteLength front ≠ locationStart) :
    reduceLocation (String.ofList cs) = String.ofList cs := by
  have hdrop : dropBytes? locationStart cs = none := by
    cases hfound : dropBytes? locationStart cs with
    | none => rfl
    | some back =>
      obtain ⟨front, hcs, hlength⟩ := dropBytes?_eq_some_iff.mp hfound
      exact absurd hlength (hnone front back hcs)
  unfold reduceLocation
  dsimp only
  rw [String.toList_ofList, hdrop]

theorem byteLength_scheme (hscheme : scheme = plainScheme ∨ scheme = secureScheme) :
    byteLength scheme < locationStart := by
  obtain rfl | rfl := hscheme <;> decide

theorem exists_skipped (hscheme : scheme = plainScheme ∨ scheme = secureScheme)
    {front back : List Char} (hsplit : scheme ++ rest = front ++ back)
    (hfront : byteLength front = locationStart) :
    ∃ skipped, front = scheme ++ skipped ∧ rest = skipped ++ back := by
  obtain ⟨skipped, hskipped, hrest⟩ | ⟨left, hleft, -⟩ := List.append_eq_append_iff.mp hsplit
  · exact ⟨skipped, hskipped, hrest⟩
  · have hlength := congrArg byteLength hleft
    rw [byteLength_append] at hlength
    have hshort := byteLength_scheme hscheme
    omega

/-- Behind the scheme a reduced location keeps the host alone, or else a slash. -/
theorem exists_kept (hscheme : scheme = plainScheme ∨ scheme = secureScheme)
    (rest : List Char) :
    ∃ kept, reduceLocation (String.ofList (scheme ++ rest)) = String.ofList (scheme ++ kept) ∧
      (Cuttable scheme rest → kept = hostPart rest) ∧
      (¬Cuttable scheme rest → '/' ∈ kept) := by
  by_cases hsearched : ∃ front back, scheme ++ rest = front ++ back ∧
      byteLength front = locationStart
  · obtain ⟨front, back, hsplit, hfront⟩ := hsearched
    obtain ⟨skipped, rfl, rfl⟩ := exists_skipped hscheme hsplit hfront
    refine ⟨skipped ++ hostPart back, ?_, ?_, ?_⟩
    · rw [hsplit, reduceLocation_skipped hfront, List.append_assoc]
    · rintro (hnone | ⟨skipped', behind, hrest, hslash, hlength⟩)
      · rw [List.mem_append, not_or] at hnone
        rw [hostPart_append hnone.1]
      · -- As many bytes are skipped either way, so the same characters are.
        have hsame := dropBytes?_of_byteLength (scheme ++ skipped) back
        have hsame' := dropBytes?_of_byteLength (scheme ++ skipped') behind
        rw [hfront, List.append_assoc, hrest] at hsame
        rw [hlength, List.append_assoc, hsame, Option.some.injEq] at hsame'
        subst hsame'
        rw [List.append_cancel_right hrest, hostPart_append hslash]
    · intro hbeyond
      unfold Cuttable at hbeyond
      rw [not_or] at hbeyond
      have hmem : '/' ∈ skipped := by
        by_contra hslash
        exact hbeyond.2 ⟨skipped, back, rfl, hslash, hfront⟩
      exact List.mem_append_left _ hmem
  · have hnone : ∀ front back, scheme ++ rest = front ++ back →
        byteLength front ≠ locationStart :=
      fun front back hsplit hfront => hsearched ⟨front, back, hsplit, hfront⟩
    refine ⟨rest, reduceLocation_unsearched hnone, ?_, ?_⟩
    · rintro (hslash | ⟨skipped, behind, hrest, -, hlength⟩)
      · exact (hostPart_of_not_mem hslash).symm
      · exact absurd hlength (hnone _ behind (by rw [hrest, List.append_assoc]))
    · intro hbeyond
      by_contra hslash
      exact hbeyond (Or.inl hslash)

end Cuts

section Announcements

variable {scheme kept : List Char}

def IsPathless (scheme : List Char) (address : String) : Prop :=
  ∃ host, '/' ∉ host ∧ address = String.ofList (scheme ++ host)

theorem isPathless_iff : IsPathless scheme (String.ofList (scheme ++ kept)) ↔ '/' ∉ kept := by
  constructor
  · rintro ⟨host, hhost, heq⟩
    have hsame := List.append_cancel_left (String.ofList_injective heq)
    rwa [hsame]
  · intro hkept
    exact ⟨kept, hkept, rfl⟩

theorem dropBlankEnd_stop {c : Char} (hc : isBlank c = false) (front back : List Char) :
    dropBlankEnd (front ++ c :: back) = front ++ c :: dropBlankEnd back := by
  unfold dropBlankEnd
  rw [List.reverse_append, List.reverse_cons, List.append_assoc, List.singleton_append,
    Url.dropWhile_append_stop isBlank _ _ c hc, List.reverse_append, List.reverse_cons,
    List.reverse_reverse, List.append_assoc, List.singleton_append]

theorem mem_dropBlankEnd {c : Char} (hc : isBlank c = false) (cs : List Char) :
    c ∈ dropBlankEnd cs ↔ c ∈ cs := by
  constructor
  · intro hmem
    have hprefix : dropBlankEnd cs <+: cs := List.rdropWhile_prefix _ _
    exact hprefix.subset hmem
  · intro hmem
    obtain ⟨front, back, rfl⟩ := List.append_of_mem hmem
    rw [dropBlankEnd_stop hc]
    exact List.mem_append_right _ List.mem_cons_self

theorem hasScheme_append (hscheme : scheme = plainScheme ∨ scheme = secureScheme)
    (kept : List Char) : hasScheme (scheme ++ kept) = true := by
  obtain rfl | rfl := hscheme
  · exact hasScheme_plainScheme kept
  · have hhead : beginsWith secureScheme (secureScheme ++ kept) = true := by
      unfold beginsWith
      rw [List.take_left]
      decide
    unfold hasScheme
    rw [hhead, Bool.or_true]

theorem normalizeAddress_scheme (hscheme : scheme = plainScheme ∨ scheme = secureScheme)
    (kept : List Char) :
    normalizeAddress (String.ofList (scheme ++ kept)) =
      String.ofList (scheme ++ dropBlankEnd kept) := by
  obtain ⟨front, hfront⟩ : ∃ front, scheme = 'h' :: (front ++ ['/']) := by
    obtain rfl | rfl := hscheme
    · exact ⟨"ttp:/".toList, by decide⟩
    · exact ⟨"ttps:/".toList, by decide⟩
  have hstart : (scheme ++ kept).dropWhile isBlank = ('h' :: front) ++ '/' :: kept := by
    rw [hfront]
    simp [isBlank]
  have htrim : trimChars (scheme ++ kept) = scheme ++ dropBlankEnd kept := by
    have hslash : isBlank '/' = false := by decide
    rw [trimChars, hstart, dropBlankEnd_stop hslash, hfront]
    simp
  unfold normalizeAddress normalizeChars
  rw [String.toList_ofList, htrim]
  exact congrArg String.ofList (if_pos (hasScheme_append hscheme _))

theorem address_setAddress (s : Session) (address : String) :
    (s.setAddress address).address = normalizeAddress address := by
  unfold Session.setAddress
  dsimp only
  split
  · rename_i hsame
    exact hsame.symm
  · rfl

theorem enact_announcement (gateway : Behaviour) (m : Moment) (model serial location : String) :
    enact gateway (handle (.discovered model serial location)) m =
      if m.state.session.recognizes model serial then
        (true, m.withSession (m.state.session.setAddress (reduceLocation location)))
      else (false, m) := by
  rw [enact_handle]
  exact enact_announced gateway m model serial location

theorem address_announced {gateway : Behaviour} {m after : Moment} {model serial location : String}
    (hheeded : enact gateway (handle (.discovered model serial location)) m = (true, after)) :
    after.state.session.address = normalizeAddress (reduceLocation location) := by
  rw [enact_announcement] at hheeded
  split at hheeded
  · cases hheeded
    rw [Moment.session_withSession, address_setAddress]
  · cases hheeded

/-- A location loses everything from the first slash behind its scheme on, and nothing else, exactly
where the search for that slash does not begin too late or inside a character. Only then does an
announcement that is heeded lead to an address without a path. -/
theorem reduceLocation_eq_iff (hscheme : scheme = plainScheme ∨ scheme = secureScheme)
    (rest : List Char) :
    (reduceLocation (String.ofList (scheme ++ rest)) = String.ofList (scheme ++ hostPart rest) ↔
        Cuttable scheme rest) ∧
      ∀ (gateway : Behaviour) (m after : Moment) (model serial : String),
        enact gateway (handle (.discovered model serial (String.ofList (scheme ++ rest)))) m =
            (true, after) →
          (IsPathless scheme after.state.session.address ↔ Cuttable scheme rest) := by
  obtain ⟨kept, hkept, hhost, hslash⟩ := exists_kept hscheme rest
  have hcut : '/' ∉ kept ↔ Cuttable scheme rest := by
    constructor
    · intro hnone
      by_contra hbeyond
      exact hnone (hslash hbeyond)
    · intro hcuttable
      rw [hhost hcuttable]
      exact slash_not_mem_hostPart rest
  refine ⟨⟨?_, ?_⟩, ?_⟩
  · intro hreduced
    rw [hkept] at hreduced
    have hsame := List.append_cancel_left (String.ofList_injective hreduced)
    rw [← hcut, hsame]
    exact slash_not_mem_hostPart rest
  · intro hcuttable
    rw [hkept, hhost hcuttable]
  · intro gateway m after model serial hheeded
    have hblank : isBlank '/' = false := by decide
    rw [address_announced hheeded, hkept, normalizeAddress_scheme hscheme, isPathless_iff,
      mem_dropBlankEnd hblank, hcut]

def followingMoment : Moment :=
  .start ⟨"gw", "T", "00212EFF", 5, 1000, 0, false, none, .abort, false⟩

/-- The search begins right behind a character of two bytes. -/
theorem reduceLocation_eq_iff_accented :
    let rest := "é:80/desc.xml".toList
    let location := String.ofList (plainScheme ++ rest)
    (plainScheme = plainScheme ∨ plainScheme = secureScheme) ∧
      reduceLocation location = String.ofList (plainScheme ++ hostPart rest) ∧
      hostPart rest = "é:80".toList ∧
      ∃ after, enact obliging (handle (.discovered "deCONZ bridge 2" "00212EFF" location))
          followingMoment = (true, after) ∧
        IsPathless plainScheme after.state.session.address := by
  intro rest location
  have hscheme : plainScheme = plainScheme ∨ plainScheme = secureScheme := Or.inl rfl
  have hcuttable : Cuttable plainScheme rest :=
    Or.inr ⟨['é'], ":80/desc.xml".toList, rfl, by decide, by decide⟩
  have hknown : followingMoment.state.session.recognizes "deCONZ bridge 2" "00212EFF" = true := by
    decide
  have hheeded := (enact_announcement obliging followingMoment "deCONZ bridge 2" "00212EFF"
    location).trans (if_pos hknown)
  obtain ⟨hreduced, hannounced⟩ := reduceLocation_eq_iff hscheme rest
  exact ⟨hscheme, hreduced.mpr hcuttable, by decide, _, hheeded,
    (hannounced _ _ _ _ _ hheeded).mpr hcuttable⟩

/-- The path behind a host of one letter is looked for beyond its slash, and the one behind a host
that begins with a longer character is not looked for at all. -/
theorem not_reduceLocation_short :
    reduceLocation "http://h/x/y" = "http://h/x" ∧ hostPart "h/x/y".toList = "h".toList ∧
      reduceLocation "https://é/x" = "https://é/x" ∧ hostPart "é/x".toList = "é".toList ∧
      ∃ after, enact obliging
          (handle (.discovered "deCONZ bridge 2" "00212EFF" "http://h/x/y")) followingMoment =
            (true, after) ∧
        after.state.session.address = "http://h/x" ∧
        ¬IsPathless plainScheme after.state.session.address := by
  have hshort : reduceLocation "http://h/x/y" = "http://h/x" := by decide +kernel
  have hlong : reduceLocation "https://é/x" = "https://é/x" := by decide +kernel
  have hknown : followingMoment.state.session.recognizes "deCONZ bridge 2" "00212EFF" = true := by
    decide
  have hheeded := (enact_announcement obliging followingMoment "deCONZ bridge 2" "00212EFF"
    "http://h/x/y").trans (if_pos hknown)
  have haddress := (address_announced hheeded).trans
    (show normalizeAddress (reduceLocation "http://h/x/y") = "http://h/x" by rw [hshort]; decide)
  refine ⟨hshort, by decide, hlong, by decide, _, hheeded, haddress, ?_⟩
  rw [haddress]
  have hpath : '/' ∈ "h/x".toList := by decide
  exact fun hpathless => isPathless_iff.mp hpathless hpath

end Announcements

end ZigbeeBridge.Bridge
