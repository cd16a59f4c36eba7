import ZigbeeBridge.Proofs.Url.Address
import ZigbeeBridge.Proofs.Url.Domain

/-!
A host is read back from how a URL writes it, whatever it was written like before. So a place that
is put together from a scheme, such a host and a port is always a URL.
-/
namespace ZigbeeBridge.Url

open Data Text

section Plain

/-- A character of ASCII that stands for itself, and that is taken for no mark of a URL. -/
structure Bare (c : Char) : Prop where
  ascii : c.toNat < 0x80
  free : Domain.isReserved c = false

theorem Bare.ne {c d : Char} (hc : Bare c) (hd : Domain.isReserved d = true) : c ≠ d := by
  rintro rfl
  exact absurd (hc.free.symm.trans hd) Bool.false_ne_true

theorem bare_digit {radix : Nat} (hlow : 0 < radix) (hhigh : radix ≤ 16) {n : Nat} {c : Char}
    (hc : c ∈ Nat.toDigits radix n) : Bare c := by
  obtain ⟨d, hd, rfl⟩ := exists_digitChar radix hlow n c hc
  have hall : ∀ d < 16, (Nat.digitChar d).toNat < 0x80 ∧
      Domain.isReserved (Nat.digitChar d) = false := by decide
  obtain ⟨hascii, hfree⟩ := hall d (by omega)
  exact ⟨hascii, hfree⟩

theorem startByte_ascii {c : Char} (hc : c.toNat < 0x80) :
    startByte (UInt8.ofNat c.toNat) = ([c], none) := by
  have hn : (UInt8.ofNat c.toNat).toNat = c.toNat :=
    UInt8.toNat_ofNat_of_lt' (Nat.lt_trans hc (by decide))
  unfold startByte Lead.of?
  rw [hn]
  dsimp only
  rw [if_pos hc]
  dsimp only
  rw [if_pos rfl, Char.ofNat_toNat]

theorem decode_bare {cs : List Char} (hcs : ∀ c ∈ cs, Bare c) :
    (decodeBytes (decode cs)).toList = cs := by
  unfold decodeBytes
  rw [String.toList_ofList]
  induction cs with
  | nil => rfl
  | cons c cs ih =>
    have hc := hcs c List.mem_cons_self
    have hpercent : c ≠ '%' := hc.ne (by decide)
    have hbyte : utf8 c = [UInt8.ofNat c.toNat] := if_pos (Nat.le_of_lt_succ hc.ascii)
    have hdecode : decode (c :: cs) = UInt8.ofNat c.toNat :: decode cs := by
      rw [decode, hbyte, List.singleton_append]
      rintro a b back heq
      exact absurd heq hpercent
    rw [hdecode, decodeFrom, startByte_ascii hc.ascii,
      ih fun d hd => hcs d (List.mem_cons_of_mem _ hd)]
    rfl

end Plain

section Hosts

variable {cs : List Char} {host : Host}

/-- What a host that was read can be. -/
inductive IsHost : Host → Prop
  | domain {name : List Char} (hne : name ≠ []) (hbare : ∀ c ∈ name, Bare c)
      (hname : Domain.toAscii name = .ok name) (hletters : Ipv4.looksLike name = false) :
      IsHost (.domain (String.ofList name))
  | ipv4 (address : UInt32) : IsHost (.ipv4 address)
  | ipv6 {pieces : List UInt16} (hlength : pieces.length = 8) : IsHost (.ipv6 pieces)

theorem isHost_of_specialHost (hhost : specialHost cs = .ok host) : IsHost host := by
  unfold specialHost at hhost
  split at hhost
  · unfold bracketedHost at hhost
    split at hhost
    · obtain ⟨pieces, hpieces, rfl⟩ := map_eq_ok hhost
      exact .ipv6 (length_of_parse hpieces)
    · cases hhost
  · obtain ⟨name, hname, hrest⟩ := bind_eq_ok hhost
    obtain ⟨hbare, hsame⟩ := Domain.toAscii_toAscii hname
    by_cases hne : name.isEmpty = true
    · rw [if_pos hne] at hrest
      cases hrest
    · rw [if_neg hne] at hrest
      split at hrest
      · obtain ⟨address, -, rfl⟩ := map_eq_ok hrest
        exact .ipv4 address
      · rename_i hletters
        cases hrest
        refine .domain (by simpa using hne) (fun c hc => ?_) hsame (Bool.eq_false_iff.mpr hletters)
        obtain ⟨hascii, hfree⟩ := hbare c hc
        exact ⟨hascii, hfree⟩

theorem specialHost_bare {name : List Char} (hbare : ∀ c ∈ name, Bare c) (hne : name ≠ [])
    (hname : Domain.toAscii name = .ok name) :
    specialHost name =
      if Ipv4.looksLike name then (Ipv4.parse name).map .ipv4
      else .ok (.domain (String.ofList name)) := by
  have hempty : ¬name.isEmpty = true := by simpa using hne
  unfold specialHost
  split
  · exact absurd rfl ((hbare '[' List.mem_cons_self).ne (by decide))
  · rw [decode_bare hbare, hname]
    dsimp only [bind, Except.bind]
    rw [if_neg hempty]
    rfl

theorem bare_ipv4 (address : UInt32) : ∀ c ∈ (Ipv4.text address).toList, Bare c := by
  rw [toList_ipv4]
  intro c hc
  rcases Domain.mem_intercalate hc with rfl | ⟨part, hpart, hc⟩
  · exact ⟨by decide, by decide⟩
  · obtain ⟨n, -, rfl⟩ := List.mem_map.mp hpart
    exact bare_digit (by omega) (by omega) hc

theorem isLabel_toDigits (n : Nat) :
    Domain.IsLabel (Nat.toDigits 10 n) ∧ Domain.isAscii (Nat.toDigits 10 n) = true := by
  have hplain : ∀ c ∈ Nat.toDigits 10 n, c.isAlphanum = true ∧ c.toNat < 0x80 ∧ c.toLower = c :=
    isAlphanum_of_mem_toDigits (by omega) (by omega) n
  have hascii : Domain.isAscii (Nat.toDigits 10 n) = true :=
    Domain.isAscii_iff.mpr fun c hc => (hplain c hc).2.1
  have hmark : ∀ c : Char, c.isAlphanum = false → c ∉ Nat.toDigits 10 n := fun c hc hmem =>
    absurd (hc.symm.trans (hplain c hmem).1) Bool.false_ne_true
  refine ⟨⟨?_, hmark '.' (by decide), ?_⟩, hascii⟩
  · unfold Domain.isValid
    rw [hascii, Bool.true_or, Bool.and_true, List.all_eq_true]
    intro c hc
    rw [Domain.mapChar_ascii (hplain c hc).2.1, (hplain c hc).2.2]
    exact beq_self_eq_true _
  · rw [Bool.eq_false_iff]
    intro hmarked
    have hdash := (List.isPrefixOf_iff_prefix.mp hmarked).subset (by decide : '-' ∈ Domain.punycodeMark)
    exact hmark '-' (by decide) hdash

theorem toAscii_ipv4 (address : UInt32) :
    Domain.toAscii (Ipv4.text address).toList = .ok (Ipv4.text address).toList := by
  have hbare := bare_ipv4 address
  rw [toList_ipv4] at hbare ⊢
  refine Domain.toAscii_plain (fun own hown => ?_) (by simp [octets]) fun c hc => (hbare c hc).free
  obtain ⟨n, -, rfl⟩ := List.mem_map.mp hown
  exact isLabel_toDigits n

theorem toList_ipv6 (pieces : List UInt16) :
    (Host.ipv6 pieces).text.toList = '[' :: ((Ipv6.text pieces).toList ++ [']']) := by
  simp [Host.text]

/-- A host is read back from its text. -/
theorem specialHost_text (hhost : IsHost host) : specialHost host.text.toList = .ok host := by
  cases hhost with
  | domain hne hbare hname hletters =>
    unfold Host.text
    rw [String.toList_ofList, specialHost_bare hbare hne hname, hletters]
    rfl
  | ipv4 address =>
    have hne : (Ipv4.text address).toList ≠ [] := by simp [Ipv4.text]
    unfold Host.text
    rw [specialHost_bare (bare_ipv4 address) hne (toAscii_ipv4 address), looksLike_ipv4,
      parse_ipv4]
    rfl
  | @ipv6 pieces hlength =>
    rw [toList_ipv6]
    change bracketedHost ((Ipv6.text pieces).toList ++ [']']) = _
    unfold bracketedHost
    rw [List.getLast?_concat, if_pos rfl, List.dropLast_concat, parse_ipv6 hlength]
    rfl

end Hosts

section Places

variable {host : Host}

/-- A colon in front of which there is no bracket ends a host. -/
theorem splitHost_plain {name : List Char} (hname : ∀ c ∈ name, c ≠ ':' ∧ c ≠ '[')
    {rest : List Char} (hrest : ∀ c ∈ rest.head?, c = ':') :
    splitHost false (name ++ rest) = (name, rest) := by
  induction name with
  | nil =>
    cases rest with
    | nil => rfl
    | cons c rest =>
      rw [hrest c rfl]
      rfl
  | cons c name ih =>
    obtain ⟨hcolon, hbracket⟩ := hname c List.mem_cons_self
    have hlater := ih fun d hd => hname d (List.mem_cons_of_mem _ hd)
    have hstays : (if c = '[' then true else if c = ']' then false else false) = false := by
      rw [if_neg hbracket, ite_self]
    rw [List.cons_append, splitHost, if_neg (fun h => hcolon h.1), hstays]
    dsimp only
    rw [hlater]

/-- One behind a bracket that is open does not. -/
theorem splitHost_bracketed {inner : List Char} (hinner : ∀ c ∈ inner, c ≠ ']')
    {rest : List Char} (hrest : ∀ c ∈ rest.head?, c = ':') :
    splitHost true (inner ++ ']' :: rest) = (inner ++ [']'], rest) := by
  induction inner with
  | nil =>
    have hbehind : splitHost false ([] ++ rest) = ([], rest) := splitHost_plain (by simp) hrest
    rw [List.nil_append] at hbehind
    rw [List.nil_append, splitHost, if_neg (by decide)]
    dsimp only
    rw [if_neg (by decide), if_pos rfl, hbehind]
    rfl
  | cons c inner ih =>
    have hopen := hinner c List.mem_cons_self
    have hlater := ih fun d hd => hinner d (List.mem_cons_of_mem _ hd)
    have hstays : (if c = '[' then true else if c = ']' then false else true) = true := by
      rw [if_neg hopen, ite_self]
    rw [List.cons_append, splitHost, if_neg (fun h => absurd h.2 (by decide)), hstays]
    dsimp only
    rw [hlater]
    rfl

theorem mem_joined {pieces : List UInt16} {c : Char} (hc : c ∈ (Ipv6.joined pieces).toList) :
    c = ':' ∨ Bare c := by
  rw [toList_joined] at hc
  rcases Domain.mem_intercalate hc with rfl | ⟨part, hpart, hc⟩
  · exact Or.inl rfl
  · obtain ⟨piece, -, rfl⟩ := List.mem_map.mp hpart
    rw [Ipv6.hex, String.toList_ofList] at hc
    exact Or.inr (bare_digit (by omega) (by omega) hc)

theorem unbracketed_ipv6 (pieces : List UInt16) :
    ∀ c ∈ (Ipv6.text pieces).toList, c ≠ ']' := by
  have hplain : ∀ c : Char, c = ':' ∨ Bare c → c ≠ ']' := by
    rintro c (rfl | hbare)
    · decide
    · exact hbare.ne (by decide)
  intro c hc
  refine hplain c ?_
  unfold Ipv6.text at hc
  dsimp only at hc
  split at hc
  · exact mem_joined hc
  · rw [String.toList_append, String.toList_append, List.mem_append, List.mem_append] at hc
    rcases hc with (hc | hc) | hc
    · exact mem_joined hc
    · exact Or.inl (by simpa using hc)
    · exact mem_joined hc

/-- A host is told from what follows it. -/
theorem splitHost_text (hhost : IsHost host) {rest : List Char}
    (hrest : ∀ c ∈ rest.head?, c = ':') :
    splitHost false (host.text.toList ++ rest) = (host.text.toList, rest) := by
  have hbare : ∀ {name : List Char}, (∀ c ∈ name, Bare c) → ∀ c ∈ name, c ≠ ':' ∧ c ≠ '[' :=
    fun hbare c hc => ⟨(hbare c hc).ne (by decide), (hbare c hc).ne (by decide)⟩
  cases hhost with
  | domain hne hname _ _ =>
    unfold Host.text
    rw [String.toList_ofList]
    exact splitHost_plain (hbare hname) hrest
  | ipv4 address => exact splitHost_plain (hbare (bare_ipv4 address)) hrest
  | @ipv6 pieces hlength =>
    have hinner := splitHost_bracketed (unbracketed_ipv6 pieces) hrest
    rw [toList_ipv6, List.cons_append, List.append_assoc, splitHost, if_neg (by decide)]
    dsimp only
    rw [if_pos rfl, List.singleton_append, hinner]

theorem portIn_toDigits (scheme : String) (port : UInt16) :
    portIn scheme (Nat.toDigits 10 port.toNat) =
      .ok (if defaultPort scheme = some port then none else some port) := by
  have hne : (Nat.toDigits 10 port.toNat).isEmpty = false :=
    List.isEmpty_eq_false_iff.mpr Nat.toDigits_ne_nil
  unfold portIn
  rw [hne, numberIn?_toDigits (by omega) (by omega)]
  dsimp only
  rw [if_neg Bool.false_ne_true, if_pos port.toNat_lt, UInt16.ofNat_toNat]

theorem hostAndPort_text {scheme : String} (hspecial : isSpecial scheme = true)
    (hhost : IsHost host) {rest : List Char} (hrest : ∀ c ∈ rest.head?, c = ':') :
    hostAndPort scheme (host.text.toList ++ rest) =
      (portIn scheme (rest.drop 1)).map fun port => (host, port) := by
  have hreads := specialHost_text hhost
  have hne : ¬(host.text.toList.isEmpty = true ∧
      (isSpecial scheme = true ∨ (!rest.isEmpty) = true)) := by
    rw [List.isEmpty_iff]
    exact fun h => (solid_host hreads).2 h.1
  unfold hostAndPort
  rw [splitHost_text hhost hrest]
  dsimp only
  rw [if_neg hne, if_pos hspecial, hreads]
  cases portIn scheme (rest.drop 1) with
  | error flaw => rfl
  | ok port => rfl

/-- A scheme, a host and a port make a URL, where the scheme asks for a host. -/
theorem parse_place {scheme : String} (hfile : scheme ≠ "file")
    (hspecial : isSpecial scheme = true) (hhost : IsHost host) (port : UInt16) :
    ∃ url, parse s!"{scheme}://{host.text}:{port}" = .ok url := by
  have hdigits : (toString port).toList = Nat.toDigits 10 port.toNat := Nat.toList_repr
  have htext : s!"{scheme}://{host.text}:{port}" = String.ofList (scheme.toList ++
      ':' :: '/' :: '/' :: (host.text.toList ++ ':' :: Nat.toDigits 10 port.toNat)) := by
    have hparts : s!"{scheme}://{host.text}:{port}" =
        scheme ++ "://" ++ host.text ++ ":" ++ toString port := rfl
    have hmark : "://".toList = [':', '/', '/'] := by decide
    have hcolon : ":".toList = [':'] := by decide
    apply String.toList_injective
    rw [hparts, String.toList_ofList, ← hdigits]
    simp [hmark, hcolon]
  have hsolid : ∀ c ∈ host.text.toList ++ ':' :: Nat.toDigits 10 port.toNat, Solid c := by
    intro c hc
    rcases List.mem_append.mp hc with hc | hc
    · exact (solid_host (specialHost_text hhost)).1 c hc
    · rcases List.mem_cons.mp hc with rfl | hc
      · exact ⟨rfl, rfl, by decide⟩
      · exact solid_digit 10 (by omega) (by omega) _ c hc
  have hcolon : ∀ c ∈ (':' :: Nat.toDigits 10 port.toNat).head?, c = ':' := by
    rintro _ ⟨⟩
    rfl
  have hend : ∀ c ∈ [].head?, endsAuthority true c = true := fun c hc => nomatch hc
  have hreads := parse_special hfile hspecial (fun c hc => (hsolid c hc).edge)
    (fun c hc => (hsolid c hc).inner) (by simp) []
  have hclean : cleaned [] = [] := rfl
  rw [hclean, withAuthority_front hspecial hsolid hend, hostAndPort_text hspecial hhost hcolon,
    List.drop_one, List.tail_cons, portIn_toDigits, List.append_nil] at hreads
  rw [htext, hreads]
  exact ⟨_, rfl⟩

end Places

end ZigbeeBridge.Url
