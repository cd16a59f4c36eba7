import Mathlib
import ZigbeeBridge.Proofs.Data.Result
import ZigbeeBridge.Proofs.Text.Span
import ZigbeeBridge.Proofs.Url.Stem

/-!
A URL that is no more than a scheme, a host and maybe a port: what is appended to its text becomes
path, query and fragment, and nothing else of it changes.
-/
namespace ZigbeeBridge.Url

open Data

/-- A character that stays where it is in the authority of a URL. -/
structure Solid (c : Char) : Prop where
  edge : isEdge c = false
  inner : endsAuthority true c = false
  apart : c ≠ '@'

theorem not_break_of_not_edge {c : Char} (hc : isEdge c = false) : isBreak c = false := by
  cases hbreak : isBreak c with
  | false => rfl
  | true =>
    simp only [isBreak, Bool.or_eq_true, beq_iff_eq] at hbreak
    rcases hbreak with (rfl | rfl) | rfl <;> cases hc

theorem Solid.not_break {c : Char} (hc : Solid c) : isBreak c = false :=
  not_break_of_not_edge hc.edge

theorem solid_of_not_reserved {c : Char} (hc : Domain.isReserved c = false) : Solid c := by
  simp only [Domain.isReserved, Bool.or_eq_false_iff] at hc
  obtain ⟨⟨hedge, -⟩, hlist⟩ := hc
  have hne : ∀ d ∈ "%#/:<>?@[\\]^|".toList, c ≠ d := by
    rintro d hd rfl
    rw [List.contains_eq_mem, decide_eq_false_iff_not] at hlist
    exact hlist hd
  refine ⟨hedge, ?_, hne '@' (by decide)⟩
  simp [endsAuthority, isSlash, hne '/' (by decide), hne '\\' (by decide), hne '?' (by decide),
    hne '#' (by decide)]

theorem solid_of_isAlphanum {c : Char} (hc : c.isAlphanum = true) : Solid c := by
  have hne : ∀ d : Char, d.isAlphanum = false → c ≠ d := by
    rintro d hd rfl
    rw [hc] at hd
    cases hd
  refine ⟨?_, ?_, hne '@' (by decide)⟩
  · simp only [isEdge, decide_eq_false_iff_not]
    intro hle
    simp only [Char.isAlphanum, Char.isAlpha, Char.isUpper, Char.isLower, Char.isDigit,
      Bool.or_eq_true, Bool.and_eq_true, decide_eq_true_eq, UInt32.le_iff_toNat_le, ge_iff_le] at hc
    change ((65 ≤ c.toNat ∧ c.toNat ≤ 90) ∨ (97 ≤ c.toNat ∧ c.toNat ≤ 122)) ∨
      (48 ≤ c.toNat ∧ c.toNat ≤ 57) at hc
    have hle : c.toNat ≤ 32 := hle
    omega
  · simp [endsAuthority, isSlash, hne '/' (by decide), hne '\\' (by decide), hne '?' (by decide),
      hne '#' (by decide)]

section Hosts

/-- A digit of a number in some radix. -/
theorem exists_digitChar (radix : Nat) (hradix : 0 < radix) (n : Nat) (c : Char)
    (hc : c ∈ Nat.toDigits radix n) : ∃ d < radix, c = Nat.digitChar d := by
  have hcore : ∀ (fuel n : Nat) (before : List Char),
      c ∈ Nat.toDigitsCore radix fuel n before →
        (∃ d < radix, c = Nat.digitChar d) ∨ c ∈ before := by
    intro fuel
    induction fuel with
    | zero => exact fun n before hmem => Or.inr hmem
    | succ fuel ih =>
      intro n before hmem
      have hlast : n % radix < radix := Nat.mod_lt n hradix
      simp only [Nat.toDigitsCore] at hmem
      split at hmem
      · rcases List.mem_cons.mp hmem with rfl | hbefore
        · exact Or.inl ⟨_, hlast, rfl⟩
        · exact Or.inr hbefore
      · rcases ih _ _ hmem with hdigit | hbefore
        · exact Or.inl hdigit
        · rcases List.mem_cons.mp hbefore with rfl | hbefore
          · exact Or.inl ⟨_, hlast, rfl⟩
          · exact Or.inr hbefore
  rcases hcore _ n [] hc with hdigit | hnone
  · exact hdigit
  · cases hnone

theorem solid_digit (radix : Nat) (hradix : 0 < radix) (hbound : radix ≤ 16) (n : Nat) (c : Char)
    (hc : c ∈ Nat.toDigits radix n) : Solid c := by
  obtain ⟨d, hd, rfl⟩ := exists_digitChar radix hradix n c hc
  have hall : ∀ d < 16, (Nat.digitChar d).isAlphanum = true := by decide
  exact solid_of_isAlphanum (hall d (by omega))

/-- Solid texts with a solid mark in between. -/
theorem solid_intercalate (mark : String) (hmark : ∀ c ∈ mark.toList, Solid c)
    (texts : List String) (htexts : ∀ text ∈ texts, ∀ c ∈ text.toList, Solid c) :
    ∀ c ∈ (mark.intercalate texts).toList, Solid c := by
  rw [String.toList_intercalate]
  induction texts with
  | nil => simp
  | cons text texts ih =>
    have htext := htexts text List.mem_cons_self
    have hrest := ih fun other hother => htexts other (List.mem_cons_of_mem _ hother)
    cases texts with
    | nil => simpa using htext
    | cons next texts =>
      intro c hc
      rw [List.map_cons] at hrest
      rw [List.map_cons, List.map_cons, List.intercalate_cons_cons, List.mem_append,
        List.mem_append] at hc
      rcases hc with (hc | hc) | hc
      · exact htext c hc
      · exact hmark c hc
      · exact hrest c hc

theorem solid_toString (n : Nat) : ∀ c ∈ (toString n).toList, Solid c := by
  intro c hc
  rw [Nat.toString_eq_repr, Nat.repr, String.toList_ofList] at hc
  exact solid_digit 10 (by decide) (by decide) n c hc

theorem solid_mark {mark : Char} (hmark : Solid mark) : ∀ c ∈ [mark], Solid c := by
  intro c hc
  rw [List.mem_singleton.mp hc]
  exact hmark

theorem solid_append {front back : String} (hfront : ∀ c ∈ front.toList, Solid c)
    (hback : ∀ c ∈ back.toList, Solid c) : ∀ c ∈ (front ++ back).toList, Solid c := by
  intro c hc
  rw [String.toList_append, List.mem_append] at hc
  exact hc.elim (hfront c) (hback c)

theorem solid_ipv4 (address : UInt32) : ∀ c ∈ (Ipv4.text address).toList, Solid c := by
  refine solid_intercalate "." (solid_mark ⟨rfl, rfl, by decide⟩) _ ?_
  intro text htext
  obtain ⟨shift, -, rfl⟩ := List.mem_map.mp htext
  exact solid_toString _

theorem solid_joined (pieces : List UInt16) : ∀ c ∈ (Ipv6.joined pieces).toList, Solid c := by
  refine solid_intercalate ":" (solid_mark ⟨rfl, rfl, by decide⟩) _ ?_
  intro text htext c hc
  obtain ⟨piece, -, rfl⟩ := List.mem_map.mp htext
  rw [Ipv6.hex, String.toList_ofList] at hc
  exact solid_digit 16 (by decide) (by decide) _ c hc

theorem solid_ipv6 (pieces : List UInt16) : ∀ c ∈ (Ipv6.text pieces).toList, Solid c := by
  unfold Ipv6.text
  dsimp only
  split
  · exact solid_joined pieces
  · refine solid_append (solid_append (solid_joined _) ?_) (solid_joined _)
    intro c hc
    rcases List.mem_cons.mp hc with rfl | hc
    · exact ⟨rfl, rfl, by decide⟩
    · exact solid_mark ⟨rfl, rfl, by decide⟩ c hc

theorem solid_domain {cs name : List Char} (hname : Domain.toAscii cs = .ok name) :
    ∀ c ∈ name, Solid c := by
  unfold Domain.toAscii at hname
  split at hname
  · dsimp only at hname
    split at hname
    · cases hname
    · rename_i hsound
      cases hname
      rw [Bool.or_eq_true, not_or] at hsound
      intro c hc
      refine solid_of_not_reserved ?_
      rw [Bool.not_eq_true, List.any_eq_false] at hsound
      exact Bool.eq_false_iff.mpr (hsound.1 c hc)
  · cases hname

/-- A host that was read is written in solid characters, of which there is at least one. -/
theorem solid_host {cs : List Char} {host : Host} (hhost : specialHost cs = .ok host) :
    (∀ c ∈ host.text.toList, Solid c) ∧ host.text.toList ≠ [] := by
  unfold specialHost at hhost
  split at hhost
  · unfold bracketedHost at hhost
    split at hhost
    · obtain ⟨pieces, -, rfl⟩ := map_eq_ok hhost
      refine ⟨solid_append (solid_append (solid_mark ⟨rfl, rfl, by decide⟩) (solid_ipv6 pieces))
        (solid_mark ⟨rfl, rfl, by decide⟩), ?_⟩
      simp [Host.text]
    · cases hhost
  · obtain ⟨name, hname, hrest⟩ := bind_eq_ok hhost
    have hsolid := solid_domain hname
    cases name with
    | nil => cases hrest
    | cons c name =>
      simp only [List.isEmpty_cons, Bool.false_eq_true, ↓reduceIte] at hrest
      split at hrest
      · obtain ⟨address, -, rfl⟩ := map_eq_ok hrest
        refine ⟨solid_ipv4 address, ?_⟩
        simp [Host.text, Ipv4.text]
      · cases hrest
        refine ⟨?_, by simp [Host.text]⟩
        intro d hd
        rw [Host.text, String.toList_ofList] at hd
        exact hsolid d hd

end Hosts

section Schemes

/-- What is left of a text behind a slash when its last edges and its line breaks are gone. -/
def cleaned (cs : List Char) : List Char :=
  (cs.reverse.dropWhile isEdge).reverse.filter (!isBreak ·)

theorem cleaned_cons {c : Char} (hc : isEdge c = false) (cs : List Char) :
    cleaned (c :: cs) = c :: cleaned cs := by
  have hbreak : (!isBreak c) = true := by
    rw [not_break_of_not_edge hc]
    rfl
  unfold cleaned
  rw [List.reverse_cons, dropWhile_append_stop isEdge cs.reverse [] c hc, List.reverse_append,
    List.reverse_singleton, List.singleton_append]
  exact List.filter_cons_of_pos hbreak

theorem cleaned_append {front : List Char} (hfront : ∀ c ∈ front, isEdge c = false)
    (back : List Char) : cleaned (front ++ back) = front ++ cleaned back := by
  induction front with
  | nil => rfl
  | cons c front ih =>
    have hrest := ih fun d hd => hfront d (List.mem_cons_of_mem _ hd)
    rw [List.cons_append, cleaned_cons (hfront c List.mem_cons_self), hrest, List.cons_append]

/-- Letters in front of a colon are the scheme. -/
theorem parse_letters {letters : List Char} (hne : letters ≠ [])
    (hletters : ∀ c ∈ letters, c.isAlpha = true) (rest : List Char) :
    parse (String.ofList (letters ++ ':' :: rest)) =
      afterScheme (Text.lowercase (String.ofList letters)) (cleaned rest) := by
  have hsolid : ∀ c ∈ letters, Solid c := fun c hc =>
    solid_of_isAlphanum (by rw [Char.isAlphanum, hletters c hc, Bool.true_or])
  have hinside : ∀ c ∈ letters, inScheme c = true := fun c hc => by
    rw [inScheme, Char.isAlphanum, hletters c hc, Bool.true_or, Bool.true_or, Bool.true_or,
      Bool.true_or]
  have hclean : (letters ++ ':' :: (rest.reverse.dropWhile isEdge).reverse).filter (!isBreak ·) =
      letters ++ ':' :: cleaned rest := by
    have hkept : letters.filter (!isBreak ·) = letters := by
      rw [List.filter_eq_self]
      intro c hc
      rw [(hsolid c hc).not_break]
      rfl
    rw [List.filter_append, hkept, List.filter_cons_of_pos rfl]
    rfl
  obtain ⟨first, others, rfl⟩ := List.exists_cons_of_ne_nil hne
  have hfirst : (first :: others).dropWhile isEdge = first :: others := by
    rw [List.dropWhile_cons, (hsolid first List.mem_cons_self).edge]
    rfl
  have hscheme : scheme? (first :: others ++ ':' :: cleaned rest) =
      some (Text.lowercase (String.ofList (first :: others)), cleaned rest) := by
    unfold scheme?
    have hcolon : ∀ c ∈ (':' :: cleaned rest).head?, inScheme c = false := by
      rintro _ ⟨⟩
      rfl
    rw [Text.takeWhile_stop hinside hcolon, Text.dropWhile_stop hinside hcolon]
    exact if_pos (hletters first List.mem_cons_self)
  unfold parse
  dsimp only
  rw [String.toList_ofList, trim_stop _ rest ':' rfl, hfirst, hclean, hscheme]
  rfl

/-- A scheme whose URLs always have a host is written in small letters. -/
theorem letters_of_special {scheme : String} (hspecial : isSpecial scheme = true) :
    scheme.toList ≠ [] ∧ (∀ c ∈ scheme.toList, c.isAlpha = true) ∧
      Text.lowercase (String.ofList scheme.toList) = scheme := by
  have hall : ["http", "https", "ws", "wss", "ftp", "file"].all (fun scheme =>
      scheme.toList != [] && scheme.toList.all Char.isAlpha &&
        Text.lowercase (String.ofList scheme.toList) == scheme) = true := by
    decide
  have hscheme := List.all_eq_true.mp hall scheme (List.contains_iff_mem.mp hspecial)
  simpa [and_assoc] using hscheme

/-- Behind such a scheme and two slashes stands an authority. -/
theorem parse_special {scheme : String} (hfile : scheme ≠ "file")
    (hspecial : isSpecial scheme = true) {front : List Char}
    (hedge : ∀ c ∈ front, isEdge c = false) (hinner : ∀ c ∈ front, endsAuthority true c = false)
    (hne : front ≠ []) (back : List Char) :
    parse (String.ofList (scheme.toList ++ ':' :: '/' :: '/' :: (front ++ back))) =
      withAuthority scheme (front ++ cleaned back) := by
  obtain ⟨hletter, hletters, hlower⟩ := letters_of_special hspecial
  have hslashes : ('/' :: '/' :: (front ++ cleaned back)).dropWhile (isSlash true) =
      front ++ cleaned back := by
    obtain ⟨first, others, rfl⟩ := List.exists_cons_of_ne_nil hne
    have hfirst := hinner first List.mem_cons_self
    simp only [endsAuthority, Bool.or_eq_false_iff] at hfirst
    rw [List.dropWhile_cons_of_pos rfl, List.dropWhile_cons_of_pos rfl, List.cons_append,
      List.dropWhile_cons_of_neg (by simp [hfirst.1.1])]
  rw [parse_letters hletter hletters, hlower, cleaned_cons rfl, cleaned_cons rfl,
    cleaned_append hedge]
  unfold afterScheme
  rw [if_neg hfile, if_pos hspecial, hslashes]

end Schemes

/-- A URL that names a gateway and nothing on it, and is read as it is written. -/
structure Root (base : Url) : Prop where
  scheme : base.scheme = "http" ∨ base.scheme = "https"
  username : base.username = ""
  password : base.password = ""
  path : base.path = .segments [""]
  query : base.query = none
  fragment : base.fragment = none
  reads : parse base.text = .ok base

section Roots

/-- Where host and port stand. -/
def place (base : Url) : List Char := ((base.host.map Host.text).getD "" ++ base.portText).toList

def stem (base : Url) : List Char := base.scheme.toList ++ ':' :: '/' :: '/' :: place base

variable {base : Url}

theorem special_of_http {scheme : String} (hscheme : scheme = "http" ∨ scheme = "https") :
    scheme ≠ "file" ∧ isSpecial scheme = true := by
  rcases hscheme with rfl | rfl <;> decide

theorem exists_host_of_withAuthority {scheme : String} (hspecial : isSpecial scheme = true)
    {cs : List Char} {url : Url} (hurl : withAuthority scheme cs = .ok url) :
    ∃ host name, url.host = some host ∧ specialHost name = .ok host := by
  obtain ⟨⟨username, password, text⟩, -, hurl⟩ := bind_eq_ok hurl
  obtain ⟨⟨host, port⟩, hplace, hurl⟩ := bind_eq_ok hurl
  have hhost : url.host = some host := by
    dsimp only at hurl
    split at hurl
    · cases hurl
    · cases hurl
      rfl
  unfold hostAndPort at hplace
  dsimp only at hplace
  split at hplace
  · cases hplace
  · obtain ⟨host', hname, hplace⟩ := bind_eq_ok hplace
    obtain ⟨port', -, hplace⟩ := bind_eq_ok hplace
    cases hplace
    exact ⟨host, _, hhost, hname⟩

theorem Root.exists_host (hbase : Root base) :
    ∃ host name, base.host = some host ∧ specialHost name = .ok host := by
  have hreads := hbase.reads
  unfold parse at hreads
  dsimp only at hreads
  split at hreads
  · cases hreads
  · rename_i scheme rest _
    have hscheme : base.scheme = scheme := afterScheme_scheme scheme rest base hreads
    obtain ⟨hfile, hspecial⟩ := special_of_http hbase.scheme
    rw [hscheme] at hfile hspecial
    rw [if_neg hfile, if_pos hspecial] at hreads
    exact exists_host_of_withAuthority hspecial hreads

theorem Root.text_eq (hbase : Root base) : base.text = String.ofList (stem base ++ ['/']) := by
  obtain ⟨host, cs, hhost, -⟩ := hbase.exists_host
  apply String.toList_injective
  simp [Url.text, stem, place, authority, credentials, guard, pathText, hbase.username,
    hbase.password, hbase.path, hbase.query, hbase.fragment, hhost]

theorem solid_place {host : Host} {name : List Char} (hhost : base.host = some host)
    (hname : specialHost name = .ok host) : (∀ c ∈ place base, Solid c) ∧ place base ≠ [] := by
  obtain ⟨hsolid, hne⟩ := solid_host hname
  have hplace : place base = (host.text ++ base.portText).toList := by
    rw [place, hhost]
    rfl
  rw [hplace]
  refine ⟨solid_append hsolid ?_, ?_⟩
  · intro c hc
    unfold portText at hc
    cases hport : base.port with
    | none =>
      rw [hport] at hc
      cases hc
    | some port =>
      rw [hport] at hc
      have htext : ((some port).map fun p => s!":{p}").getD "" = ":" ++ toString port.toNat := rfl
      rw [htext] at hc
      refine solid_append ?_ (solid_toString _) c hc
      exact solid_mark ⟨rfl, rfl, by decide⟩
  · rw [String.toList_append]
    exact fun h => hne (List.append_eq_nil_iff.mp h).1

theorem Root.solid_place (hbase : Root base) :
    (∀ c ∈ place base, Solid c) ∧ place base ≠ [] := by
  obtain ⟨host, name, hhost, hname⟩ := hbase.exists_host
  exact Url.solid_place hhost hname

/-- Slashes are dropped behind the last character that is none. -/
theorem dropSlashesEnd_stop {last : Char} (hlast : last ≠ '/') (front back : List Char) :
    Gateway.dropSlashesEnd (String.ofList (front ++ last :: back)) =
      String.ofList (front ++ last :: back.rdropWhile (· = '/')) := by
  have hstop := dropWhile_append_stop (fun c => decide (c = '/')) back.reverse front.reverse last
    (decide_eq_false hlast)
  unfold Gateway.dropSlashesEnd List.rdropWhile
  rw [String.toList_ofList, List.reverse_append, List.reverse_cons, List.append_assoc,
    List.singleton_append, hstop]
  simp

theorem Root.stem_eq (hbase : Root base) :
    Gateway.dropSlashesEnd base.text = String.ofList (stem base) := by
  obtain ⟨hsolid, hne⟩ := hbase.solid_place
  obtain ⟨front, last, hplace⟩ := List.eq_nil_or_concat (place base) |>.resolve_left hne
  have hslash : last ≠ '/' := by
    rintro rfl
    cases (hsolid '/' (by simp [hplace])).inner
  have hstem : stem base = (base.scheme.toList ++ ':' :: '/' :: '/' :: front) ++ [last] := by
    simp [stem, hplace]
  rw [hbase.text_eq, hstem, List.append_assoc, List.singleton_append, dropSlashesEnd_stop hslash]
  rfl

/-- What follows the host of a root is cleaned by itself. -/
theorem Root.parse_stem (hbase : Root base) (rest : List Char) :
    parse (String.ofList (stem base ++ '/' :: rest)) =
      withAuthority base.scheme (place base ++ '/' :: cleaned rest) := by
  obtain ⟨hsolid, hne⟩ := hbase.solid_place
  obtain ⟨hfile, hspecial⟩ := special_of_http hbase.scheme
  have hstem : stem base ++ '/' :: rest =
      base.scheme.toList ++ ':' :: '/' :: '/' :: (place base ++ '/' :: rest) := by
    unfold stem
    rw [List.append_assoc, List.cons_append, List.cons_append, List.cons_append]
  rw [hstem, parse_special hfile hspecial (fun c hc => (hsolid c hc).edge)
    (fun c hc => (hsolid c hc).inner) hne, cleaned_cons rfl]

/-- A URL on a host, whatever stands behind its first slash. -/
def urlAt (scheme : String) (host : Host) (port : Option UInt16) (cs : List Char) : Url :=
  let t := tail scheme ('/' :: cs)
  ⟨scheme, "", "", some host, port, authorityPath scheme t.path, t.query, t.fragment⟩

/-- An authority goes as far as the first character that ends it. -/
theorem authority_split {scheme : String} (hspecial : isSpecial scheme = true)
    {front rest : List Char} (hinner : ∀ c ∈ front, endsAuthority true c = false)
    (hrest : ∀ c ∈ rest.head?, endsAuthority true c = true) :
    (front ++ rest).takeWhile (!endsAuthority (isSpecial scheme) ·) = front ∧
      (front ++ rest).dropWhile (!endsAuthority (isSpecial scheme) ·) = rest := by
  have hgo : ∀ c ∈ front, (!endsAuthority (isSpecial scheme) c) = true := by
    intro c hc
    rw [hspecial, hinner c hc]
    rfl
  have hstop : ∀ c ∈ rest.head?, (!endsAuthority (isSpecial scheme) c) = false := by
    intro c hc
    rw [hspecial, hrest c hc]
    rfl
  exact ⟨Text.takeWhile_stop hgo hstop, Text.dropWhile_stop hgo hstop⟩

/-- Solid characters up to where an authority ends are host and port. -/
theorem withAuthority_front {scheme : String} (hspecial : isSpecial scheme = true)
    {front : List Char} (hsolid : ∀ c ∈ front, Solid c) {rest : List Char}
    (hrest : ∀ c ∈ rest.head?, endsAuthority true c = true) :
    withAuthority scheme (front ++ rest) = (hostAndPort scheme front).map fun found =>
      ⟨scheme, "", "", some found.1, found.2, authorityPath scheme (tail scheme rest).path,
        (tail scheme rest).query, (tail scheme rest).fragment⟩ := by
  obtain ⟨htake, hdrop⟩ := authority_split hspecial (fun c hc => (hsolid c hc).inner) hrest
  have hinfo : userinfo front rest = .ok ("", "", front) := by
    have hat : front.contains '@' = false := by
      rw [List.contains_eq_mem, decide_eq_false_iff_not]
      exact fun hmem => (hsolid '@' hmem).apart rfl
    unfold userinfo
    rw [hat]
    rfl
  unfold withAuthority
  dsimp only
  rw [htake, hdrop, hinfo]
  cases hfound : hostAndPort scheme front with
  | error flaw =>
    simp only [bind, Except.bind, hfound]
    rfl
  | ok found =>
    simp only [bind, Except.bind, hfound, ne_eq, not_true_eq_false, and_false, ↓reduceIte]
    rfl

/-- So they are up to a slash. -/
theorem withAuthority_solid {scheme : String} (hspecial : isSpecial scheme = true)
    {front : List Char} (hsolid : ∀ c ∈ front, Solid c) (cs : List Char) :
    withAuthority scheme (front ++ '/' :: cs) =
      (hostAndPort scheme front).map fun found => urlAt scheme found.1 found.2 cs := by
  refine withAuthority_front hspecial hsolid fun c hc => ?_
  cases hc
  rfl

/-- Behind a root, path, query and fragment are read off what is left of the text. -/
theorem Root.parse_append (hbase : Root base) (rest : List Char) :
    ∃ host, base.host = some host ∧
      parse (String.ofList (stem base ++ '/' :: rest)) =
        .ok (urlAt base.scheme host base.port (cleaned rest)) := by
  obtain ⟨-, hspecial⟩ := special_of_http hbase.scheme
  have hsolid := hbase.solid_place.1
  have hreads := hbase.reads
  rw [hbase.text_eq, hbase.parse_stem, withAuthority_solid hspecial hsolid] at hreads
  obtain ⟨⟨host, port⟩, hfound, hurl⟩ := map_eq_ok hreads
  rw [hbase.parse_stem, withAuthority_solid hspecial hsolid, hfound]
  rw [← hurl]
  exact ⟨host, rfl, rfl⟩

end Roots

end ZigbeeBridge.Url
