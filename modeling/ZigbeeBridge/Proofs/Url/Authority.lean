import ZigbeeBridge.Proofs.Url.Host

/-!
What stands in front of the path of a URL that was read. Credentials, host and port are told from
each other in what is written of it. So to put another path behind it leaves its scheme, its host
and its port as they are.
-/
namespace ZigbeeBridge.Url

open Data Gateway

section Credentials

/-- Where percent signs and digits stand for themselves, nothing is left to be escaped. -/
theorem encode_escaped {set : EncodeSet} (hpercent : set '%' = false)
    (hdigits : ∀ d < 16, set (Text.upperHexDigit d) = false) (cs : List Char) :
    ∀ c ∈ encode set cs, set c = false := by
  intro c hc
  obtain ⟨d, -, hc⟩ := List.mem_flatMap.mp hc
  unfold encodeChar at hc
  split at hc
  · obtain ⟨b, -, hb⟩ := List.mem_flatMap.mp hc
    have hbound := b.toNat_lt
    simp only [encodeByte, List.mem_cons, List.not_mem_nil, or_false] at hb
    rcases hb with rfl | rfl | rfl
    · exact hpercent
    · exact hdigits _ (by omega)
    · exact hdigits _ (by omega)
  · rename_i hd
    rw [List.mem_singleton.mp hc]
    exact Bool.eq_false_iff.mpr hd

theorem encode_inUserinfo (cs : List Char) :
    ∀ c ∈ (String.ofList (encode inUserinfo cs)).toList, inUserinfo c = false := by
  rw [String.toList_ofList]
  exact encode_escaped (by decide) (by decide) cs

theorem solid_of_not_inUserinfo {c : Char} (hc : inUserinfo c = false) : Solid c := by
  have hne : ∀ d : Char, inUserinfo d = true → c ≠ d := by
    rintro d hd rfl
    rw [hc] at hd
    cases hd
  have hedge : isEdge c = false := by
    simp only [inUserinfo, inPath, inFragment, controls, Bool.or_eq_false_iff,
      decide_eq_false_iff_not] at hc
    rw [isEdge, decide_eq_false_iff_not]
    intro hle
    rcases hle.lt_or_eq with hlt | heq
    · exact hc.1.1.1.1 hlt
    · exact hne ' ' rfl heq
  refine ⟨hedge, ?_, hne '@' rfl⟩
  simp [endsAuthority, isSlash, hne '/' rfl, hne '\\' rfl, hne '?' rfl, hne '#' rfl]

theorem escaped_userinfo {authority after place : List Char} {username password : String}
    (h : userinfo authority after = .ok (username, password, place)) :
    (∀ c ∈ username.toList, inUserinfo c = false) ∧
      ∀ c ∈ password.toList, inUserinfo c = false := by
  unfold userinfo at h
  split at h
  · cases h
    exact ⟨nofun, nofun⟩
  · dsimp only at h
    split at h
    · cases h
    · cases h
      exact ⟨encode_inUserinfo _, encode_inUserinfo _⟩

/-- The last at sign ends the credentials. -/
theorem userinfo_append {place : List Char} (hplace : '@' ∉ place) (hne : place ≠ [])
    (info after : List Char) :
    ∃ username password,
      userinfo (info ++ '@' :: place) after = .ok (username, password, place) := by
  have hat : (info ++ '@' :: place).contains '@' = true := by simp
  have hback : (info ++ '@' :: place).reverse = place.reverse ++ '@' :: info.reverse := by simp
  have hhost : ((info ++ '@' :: place).reverse.takeWhile (· ≠ '@')).reverse = place := by
    rw [hback, Text.takeWhile_ne_mark (by simpa using hplace), List.reverse_reverse]
  unfold userinfo
  rw [hat]
  dsimp only
  rw [hhost, if_neg (by decide : ¬(!true) = true), if_neg (by simp [hne])]
  exact ⟨_, _, rfl⟩

end Credentials

/-- A URL to be asked over http, as it is read: its credentials are escaped, its host is one, and
its port is not the usual one. -/
structure Hosted (url : Url) : Prop where
  scheme : url.scheme = "http" ∨ url.scheme = "https"
  username : ∀ c ∈ url.username.toList, inUserinfo c = false
  password : ∀ c ∈ url.password.toList, inUserinfo c = false
  host : ∃ host, url.host = some host ∧ IsHost host
  port : ∀ port, url.port = some port → defaultPort url.scheme ≠ some port
  path : ∃ list, url.path = .segments list

section Reading

theorem unusual_portIn {scheme : String} {cs : List Char} {port : UInt16}
    (h : portIn scheme cs = .ok (some port)) : defaultPort scheme ≠ some port := by
  unfold portIn at h
  split at h
  · cases h
  · split at h
    · split at h
      · dsimp only at h
        split at h
        · cases h
        · rename_i hother
          cases h
          exact hother
      · cases h
    · cases h

theorem unusual_hostAndPort {scheme : String} (hspecial : isSpecial scheme = true)
    {cs : List Char} {host : Host} {port : UInt16}
    (h : hostAndPort scheme cs = .ok (host, some port)) : defaultPort scheme ≠ some port := by
  unfold hostAndPort at h
  rw [hspecial] at h
  dsimp only at h
  split at h
  · cases h
  · obtain ⟨_, -, h⟩ := bind_eq_ok h
    obtain ⟨_, hport, h⟩ := bind_eq_ok h
    cases h
    exact unusual_portIn hport

theorem hosted_of_withAuthority {scheme : String} (hscheme : scheme = "http" ∨ scheme = "https")
    {cs : List Char} {url : Url} (hurl : withAuthority scheme cs = .ok url) : Hosted url := by
  obtain ⟨-, hspecial⟩ := special_of_http hscheme
  obtain ⟨host, name, hhost, hname⟩ := exists_host_of_withAuthority hspecial hurl
  obtain ⟨⟨username, password, text⟩, hinfo, hurl⟩ := bind_eq_ok hurl
  obtain ⟨⟨host', port⟩, hplace, hurl⟩ := bind_eq_ok hurl
  obtain ⟨husername, hpassword⟩ := escaped_userinfo hinfo
  have hport : ∀ p, port = some p → defaultPort scheme ≠ some p := by
    rintro p rfl
    exact unusual_hostAndPort hspecial hplace
  have hread : IsHost host := isHost_of_specialHost hname
  dsimp only at hurl
  split at hurl
  · cases hurl
  · cases hurl
    refine ⟨hscheme, husername, hpassword, ⟨host, hhost, hread⟩, hport, ?_⟩
    unfold authorityPath
    split
    · exact ⟨_, rfl⟩
    · exact ⟨_, rfl⟩

end Reading

section Writing

variable {url : Url}

/-- Credentials, host and port, as they are written. -/
def front (url : Url) : List Char := url.credentials.toList ++ place url

theorem Hosted.solid_place (hurl : Hosted url) :
    (∀ c ∈ place url, Solid c) ∧ place url ≠ [] := by
  obtain ⟨host, hhost, hread⟩ := hurl.host
  exact Url.solid_place hhost (specialHost_text hread)

/-- There are no credentials, or they end in an at sign. -/
theorem Hosted.credentials_cases (hurl : Hosted url) :
    url.credentials.toList = [] ∨
      ∃ info, url.credentials.toList = info ++ ['@'] ∧ ∀ c ∈ info, Solid c := by
  have hname : ∀ c ∈ url.username.toList, Solid c := fun c hc =>
    solid_of_not_inUserinfo (hurl.username c hc)
  have hword : ∀ c ∈ (if url.password = "" then "" else ":" ++ url.password).toList,
      Solid c := by
    split
    · exact nofun
    · exact solid_append (solid_mark ⟨rfl, rfl, by decide⟩) fun c hc =>
        solid_of_not_inUserinfo (hurl.password c hc)
  unfold credentials
  split
  · exact Or.inl rfl
  · refine Or.inr ⟨_, String.toList_append, solid_append hname hword⟩

theorem Hosted.front_inner (hurl : Hosted url) :
    ∀ c ∈ front url, isEdge c = false ∧ endsAuthority true c = false := by
  have hplace : ∀ c ∈ place url, isEdge c = false ∧ endsAuthority true c = false := fun c hc =>
    ⟨(hurl.solid_place.1 c hc).edge, (hurl.solid_place.1 c hc).inner⟩
  intro c hc
  rcases List.mem_append.mp hc with hc | hc
  · rcases hurl.credentials_cases with hnone | ⟨info, hinfo, hsolid⟩
    · rw [hnone] at hc
      cases hc
    · rw [hinfo] at hc
      rcases List.mem_append.mp hc with hc | hc
      · exact ⟨(hsolid c hc).edge, (hsolid c hc).inner⟩
      · rw [List.mem_singleton.mp hc]
        exact ⟨rfl, rfl⟩
  · exact hplace c hc

theorem Hosted.front_ne_nil (hurl : Hosted url) : front url ≠ [] :=
  List.append_ne_nil_of_right_ne_nil _ hurl.solid_place.2

theorem Hosted.userinfo_front (hurl : Hosted url) (after : List Char) :
    ∃ username password, userinfo (front url) after = .ok (username, password, place url) := by
  obtain ⟨hsolid, hne⟩ := hurl.solid_place
  have hat : '@' ∉ place url := fun hmem => (hsolid '@' hmem).apart rfl
  unfold front
  rcases hurl.credentials_cases with hnone | ⟨info, hinfo, -⟩
  · rw [hnone, List.nil_append]
    unfold userinfo
    rw [if_pos (by simpa using hat)]
    exact ⟨_, _, rfl⟩
  · rw [hinfo, List.append_assoc, List.singleton_append]
    exact userinfo_append hat hne info after

theorem Hosted.hostAndPort_place (hurl : Hosted url) :
    ∃ host, url.host = some host ∧ host ≠ .domain "" ∧
      hostAndPort url.scheme (place url) = .ok (host, url.port) := by
  obtain ⟨host, hhost, hread⟩ := hurl.host
  obtain ⟨-, hspecial⟩ := special_of_http hurl.scheme
  refine ⟨host, hhost, ?_, ?_⟩
  · rintro rfl
    exact (solid_host (specialHost_text hread)).2 rfl
  · have hplace : place url = host.text.toList ++ url.portText.toList := by
      rw [place, hhost, String.toList_append]
      rfl
    rw [hplace]
    unfold portText
    cases hport : url.port with
    | none => exact hostAndPort_text hspecial hread (by simp)
    | some port =>
      have hdigits : (s!":{port}").toList = ':' :: Nat.toDigits 10 port.toNat := by
        have hparts : s!":{port}" = ":" ++ toString port.toNat := rfl
        rw [hparts, String.toList_append, Nat.toString_eq_repr, Nat.toList_repr]
        rfl
      rw [Option.map_some, Option.getD_some, hdigits, hostAndPort_text hspecial hread (by simp),
        List.drop_one, List.tail_cons, portIn_toDigits, if_neg (hurl.port port hport)]
      rfl

/-- In front of a path scheme, host and port are read as they were. -/
theorem Hosted.withAuthority_front (hurl : Hosted url) {rest : List Char}
    (hrest : ∀ c ∈ rest.head?, endsAuthority true c = true) :
    ∃ read, withAuthority url.scheme (front url ++ rest) = .ok read ∧
      read.scheme = url.scheme ∧ read.host = url.host ∧ read.port = url.port := by
  obtain ⟨-, hspecial⟩ := special_of_http hurl.scheme
  obtain ⟨htake, hdrop⟩ := authority_split hspecial (fun c hc => (hurl.front_inner c hc).2) hrest
  obtain ⟨username, password, hinfo⟩ := hurl.userinfo_front rest
  obtain ⟨host, hhost, hne, hplace⟩ := hurl.hostAndPort_place
  unfold withAuthority
  dsimp only
  rw [htake, hdrop, hinfo]
  simp only [bind, Except.bind, hplace, hne, false_and, if_false]
  exact ⟨_, rfl, rfl, hhost.symm, rfl⟩

end Writing

section Below

/-- What can stand behind an authority: nothing, or what begins with a mark that ends it. -/
def Behind (cs : List Char) : Prop :=
  ∀ c ∈ cs.head?, isEdge c = false ∧ endsAuthority true c = true

theorem behind_cons {mark : Char} (hmark : isEdge mark = false ∧ endsAuthority true mark = true)
    (cs : List Char) : Behind (mark :: cs) := by
  intro c hc
  cases hc
  exact hmark

theorem Behind.append {front back : List Char} (hfront : Behind front) (hback : Behind back) :
    Behind (front ++ back) := by
  cases front with
  | nil => exact hback
  | cons c front => exact hfront

theorem Behind.of_prefix {kept rest : List Char} (hrest : Behind rest) (hkept : kept <+: rest) :
    Behind kept := by
  obtain ⟨after, rfl⟩ := hkept
  cases kept with
  | nil => exact nofun
  | cons c kept => exact hrest

variable {url : Url}

theorem behind_pathText {list : List String} (hpath : url.path = .segments list) :
    Behind url.pathText.toList := by
  unfold pathText
  rw [hpath]
  cases list with
  | nil => exact nofun
  | cons segment list =>
    have htext : (String.join ((segment :: list).map ("/" ++ ·))).toList =
        '/' :: (segment.toList ++ (String.join (list.map ("/" ++ ·))).toList) := by
      simp [String.join_cons]
    exact htext ▸ behind_cons ⟨rfl, rfl⟩ _

theorem behind_part {sign : String} {mark : Char} (hsign : sign.toList = [mark])
    (hmark : isEdge mark = false ∧ endsAuthority true mark = true) (part : Option String) :
    Behind ((part.map (sign ++ ·)).getD "").toList := by
  cases part with
  | none => exact nofun
  | some text =>
    rw [Option.map_some, Option.getD_some, String.toList_append, hsign]
    exact behind_cons hmark _

theorem Hosted.text_eq (hurl : Hosted url) :
    ∃ rest, Behind rest ∧
      url.text = String.ofList (url.scheme.toList ++ ':' :: '/' :: '/' :: (front url ++ rest)) := by
  obtain ⟨host, hhost, -⟩ := hurl.host
  obtain ⟨list, hpath⟩ := hurl.path
  have hguard : url.guard = "" := by
    unfold guard
    rw [hhost]
  refine ⟨url.pathText.toList ++ (((url.query.map ("?" ++ ·)).getD "").toList ++
    ((url.fragment.map ("#" ++ ·)).getD "").toList), ?_, ?_⟩
  · exact (behind_pathText hpath).append
      ((behind_part rfl ⟨rfl, rfl⟩ url.query).append (behind_part rfl ⟨rfl, rfl⟩ url.fragment))
  · apply String.toList_injective
    simp [Url.text, front, place, authority, hguard, hhost]

/-- No slash at the end is one of the authority's. -/
theorem Hosted.dropSlashesEnd_text (hurl : Hosted url) :
    ∃ kept, Behind kept ∧ dropSlashesEnd url.text =
      String.ofList (url.scheme.toList ++ ':' :: '/' :: '/' :: (front url ++ kept)) := by
  obtain ⟨rest, hrest, htext⟩ := hurl.text_eq
  obtain ⟨before, last, hfront⟩ :=
    List.eq_nil_or_concat (front url) |>.resolve_left hurl.front_ne_nil
  have hslash : last ≠ '/' := by
    rintro rfl
    cases (hurl.front_inner '/' (by simp [hfront])).2
  refine ⟨rest.rdropWhile (· = '/'), hrest.of_prefix (List.rdropWhile_prefix _ _), ?_⟩
  have hsplit : ∀ back, url.scheme.toList ++ ':' :: '/' :: '/' :: (front url ++ back) =
      (url.scheme.toList ++ ':' :: '/' :: '/' :: before) ++ last :: back := by
    intro back
    simp [hfront]
  rw [htext, hsplit, hsplit, dropSlashesEnd_stop hslash]

/-- A path below a URL leaves its scheme, its host and its port as they are. -/
theorem Hosted.parse_below (hurl : Hosted url) (path : List Char) :
    ∃ read, parse (String.ofList ((dropSlashesEnd url.text).toList ++ '/' :: path)) = .ok read ∧
      read.scheme = url.scheme ∧ read.host = url.host ∧ read.port = url.port := by
  obtain ⟨kept, hkept, htext⟩ := hurl.dropSlashesEnd_text
  obtain ⟨hfile, hspecial⟩ := special_of_http hurl.scheme
  have hback : Behind (kept ++ '/' :: path) := hkept.append (behind_cons ⟨rfl, rfl⟩ path)
  -- Nothing is cleaned away in front of the first character behind the authority.
  have hclean : ∀ c ∈ (cleaned (kept ++ '/' :: path)).head?, endsAuthority true c = true := by
    obtain ⟨first, others, hcons⟩ :=
      List.exists_cons_of_ne_nil (List.append_ne_nil_of_right_ne_nil kept (List.cons_ne_nil '/' path))
    obtain ⟨hedge, hends⟩ := hback first (by rw [hcons]; rfl)
    rw [hcons, cleaned_cons hedge]
    rintro _ ⟨⟩
    exact hends
  rw [htext, String.toList_ofList, List.append_assoc, List.cons_append, List.cons_append,
    List.cons_append, List.append_assoc,
    parse_special hfile hspecial (fun c hc => (hurl.front_inner c hc).1)
      (fun c hc => (hurl.front_inner c hc).2) hurl.front_ne_nil]
  exact hurl.withAuthority_front hclean

end Below

end ZigbeeBridge.Url
