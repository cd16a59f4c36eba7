import ZigbeeBridge.Gateway.Client

/-!
Whether a text is a URL that can be asked over http is settled by what stands in front of its
path: host and port end at the first slash behind them, and a path can hold anything. So a client
can form the URLs of all its resources or of none.
-/
namespace ZigbeeBridge.Url

open Gateway

def Reaches (cs : List Char) : Prop :=
  ∃ url, parse (String.ofList cs) = .ok url ∧ Client.isHttp url = true

/-- What the path of every request to a gateway begins with. -/
def pathStart : List Char := ['/', 'a', 'p', 'i', '/']

section Lists

variable {α : Type} (p : α → Bool) (front back : List α) (x : α)

theorem takeWhile_append_stop (hx : p x = false) :
    (front ++ x :: back).takeWhile p = front.takeWhile p := by
  rw [List.takeWhile_append]
  split
  · rename_i hall
    have hfront : front.takeWhile p = front :=
      List.IsPrefix.eq_of_length (List.takeWhile_prefix p) hall
    simp [hx, hfront]
  · rfl

theorem dropWhile_append_stop (hx : p x = false) :
    (front ++ x :: back).dropWhile p = front.dropWhile p ++ x :: back := by
  rw [List.dropWhile_append]
  split
  · rename_i hempty
    rw [List.isEmpty_iff.mp hempty, List.dropWhile_cons, hx]
    rfl
  · rfl

end Lists

/-- The edges of a text are cut off without regard to what stands between them. -/
theorem trim_stop (front back : List Char) (c : Char) (hc : isEdge c = false) :
    (((front ++ c :: back).dropWhile isEdge).reverse.dropWhile isEdge).reverse =
      front.dropWhile isEdge ++ c :: (back.reverse.dropWhile isEdge).reverse := by
  rw [dropWhile_append_stop isEdge front back c hc, List.reverse_append, List.reverse_cons,
    List.append_assoc, List.singleton_append,
    dropWhile_append_stop isEdge back.reverse _ c hc]
  simp

private theorem scheme?_stem (stem : List Char) :
    (∀ rest, scheme? (stem ++ '/' :: rest) = none) ∨
      ∃ scheme tail, ∀ rest,
        scheme? (stem ++ '/' :: rest) = some (scheme, tail ++ '/' :: rest) := by
  have hslash : inScheme '/' = false := by decide
  cases stem with
  | nil =>
    left
    intro rest
    simp [scheme?, hslash]
  | cons first stem =>
    have htake := fun rest => takeWhile_append_stop inScheme (first :: stem) rest '/' hslash
    have hdrop := fun rest => dropWhile_append_stop inScheme (first :: stem) rest '/' hslash
    simp only [List.cons_append] at htake hdrop
    cases hrest : (first :: stem).dropWhile inScheme with
    | nil =>
      left
      intro rest
      simp [scheme?, hdrop, hrest]
    | cons mark tail =>
      by_cases hmark : mark = ':'
      · subst hmark
        by_cases hfirst : first.isAlpha
        · right
          refine ⟨Text.lowercase (String.ofList ((first :: stem).takeWhile inScheme)), tail, ?_⟩
          intro rest
          simp [scheme?, hdrop, htake, hrest, hfirst]
        · left
          intro rest
          simp [scheme?, hdrop, hrest, hfirst]
      · left
        intro rest
        simp [scheme?, hdrop, hrest, hmark]

/-- Of what follows an authority only that there is something counts for its credentials. -/
private theorem userinfo_of_ne_nil (authority after after' : List Char)
    (h : after ≠ []) (h' : after' ≠ []) : userinfo authority after = userinfo authority after' := by
  have hempty : after.isEmpty = after'.isEmpty := by
    rw [List.isEmpty_eq_false_iff.mpr h, List.isEmpty_eq_false_iff.mpr h']
  simp only [userinfo, hempty]

private theorem withAuthority_stem (scheme : String) (place : List Char) :
    (∀ rest, ∃ flaw, withAuthority scheme (place ++ '/' :: rest) = .error flaw) ∨
      ∀ rest, ∃ url, withAuthority scheme (place ++ '/' :: rest) = .ok url ∧
        url.scheme = scheme := by
  have hslash : (!endsAuthority (isSpecial scheme) '/') = false := by
    simp [endsAuthority, isSlash]
  have htake := fun rest =>
    takeWhile_append_stop (fun c => !endsAuthority (isSpecial scheme) c) place rest '/' hslash
  have hinfo : ∀ rest, userinfo (place.takeWhile (!endsAuthority (isSpecial scheme) ·))
      ((place ++ '/' :: rest).dropWhile (!endsAuthority (isSpecial scheme) ·)) =
        userinfo (place.takeWhile (!endsAuthority (isSpecial scheme) ·)) ['/'] := by
    intro rest
    apply userinfo_of_ne_nil
    · rw [dropWhile_append_stop _ place rest '/' hslash]
      simp
    · simp
  cases huser : userinfo (place.takeWhile (!endsAuthority (isSpecial scheme) ·)) ['/'] with
  | error flaw =>
    left
    intro rest
    refine ⟨flaw, ?_⟩
    simp only [withAuthority, htake, hinfo, huser]
    rfl
  | ok info =>
    obtain ⟨username, password, host⟩ := info
    cases hhost : hostAndPort scheme host with
    | error flaw =>
      left
      intro rest
      refine ⟨flaw, ?_⟩
      simp only [withAuthority, htake, hinfo, huser, bind, Except.bind, hhost]
    | ok found =>
      by_cases hbare : found.1 = .domain "" ∧ (username, password) ≠ ("", "")
      · left
        intro rest
        refine ⟨.emptyHost, ?_⟩
        simp only [withAuthority, htake, hinfo, huser, bind, Except.bind, hhost, if_pos hbare]
        rfl
      · right
        intro rest
        simp only [withAuthority, htake, hinfo, huser, bind, Except.bind, hhost, if_neg hbare]
        exact ⟨_, rfl, rfl⟩

/-- The slashes in front of a host are passed over, and the host ends at the next one. -/
private theorem dropSlashes_stem (tail : List Char) :
    ∃ place path, ∀ rest, (tail ++ pathStart ++ rest).dropWhile (isSlash true) =
      place ++ '/' :: (path ++ rest) := by
  cases htail : tail.dropWhile (isSlash true) with
  | nil =>
    refine ⟨['a', 'p', 'i'], [], ?_⟩
    intro rest
    rw [List.append_assoc, List.dropWhile_append, htail]
    simp [pathStart, isSlash]
  | cons c place =>
    refine ⟨c :: place, ['a', 'p', 'i', '/'], ?_⟩
    intro rest
    rw [List.append_assoc, List.dropWhile_append, htail]
    simp [pathStart]

theorem isHttp_iff (url : Url) :
    Client.isHttp url = true ↔ url.scheme = "http" ∨ url.scheme = "https" := by
  simp [Client.isHttp]

private theorem file_scheme (cs : List Char) (url : Url) (h : file cs = .ok url) :
    url.scheme = "file" := by
  unfold file at h
  simp only [bind, Except.bind] at h
  split at h
  · cases h
  · cases h
    rfl

private theorem withAuthority_scheme (scheme : String) (cs : List Char) (url : Url)
    (h : withAuthority scheme cs = .ok url) : url.scheme = scheme := by
  simp only [withAuthority, bind, Except.bind] at h
  split at h
  · cases h
  · split at h
    · cases h
    · split at h
      · cases h
      · cases h
        rfl

def afterScheme (scheme : String) (rest : List Char) : Except Flaw Url :=
  if scheme = "file" then file rest
  else if isSpecial scheme then withAuthority scheme (rest.dropWhile (isSlash true))
  else match rest with
    | '/' :: '/' :: rest => withAuthority scheme rest
    | _ => .ok (withoutAuthority scheme rest)

theorem afterScheme_scheme (scheme : String) (rest : List Char) (url : Url)
    (h : afterScheme scheme rest = .ok url) : url.scheme = scheme := by
  unfold afterScheme at h
  split at h
  · rename_i hfile
    rw [file_scheme rest url h, hfile]
  · split at h
    · exact withAuthority_scheme _ _ _ h
    · split at h
      · exact withAuthority_scheme _ _ _ h
      · cases h
        rfl

private theorem afterScheme_stem (scheme : String) (tail : List Char)
    (hscheme : scheme = "http" ∨ scheme = "https") :
    (∀ rest, ∃ flaw, afterScheme scheme (tail ++ pathStart ++ rest) = .error flaw) ∨
      ∀ rest, ∃ url, afterScheme scheme (tail ++ pathStart ++ rest) = .ok url ∧
        url.scheme = scheme := by
  have hfile : scheme ≠ "file" := by
    rcases hscheme with rfl | rfl <;> decide
  have hspecial : isSpecial scheme = true := by
    rcases hscheme with rfl | rfl <;> decide
  obtain ⟨place, path, hplace⟩ := dropSlashes_stem tail
  simp only [afterScheme, if_neg hfile, if_pos hspecial, hplace]
  rcases withAuthority_stem scheme place with herror | hok
  · exact Or.inl fun rest => herror (path ++ rest)
  · exact Or.inr fun rest => hok (path ++ rest)

/-- A text whose path begins with the given start is cleaned in two parts. -/
private theorem parse_stem (stem rest : List Char) :
    ∃ cleaned, parse (String.ofList (stem ++ pathStart ++ rest)) =
      match scheme? ((stem.dropWhile isEdge).filter (!isBreak ·) ++ pathStart ++ cleaned) with
      | none => .error .noScheme
      | some (scheme, rest) => afterScheme scheme rest := by
  have hedge : isEdge '/' = false := by decide
  refine ⟨((rest.reverse.dropWhile isEdge).reverse).filter (!isBreak ·), ?_⟩
  have htext : stem ++ pathStart ++ rest = (stem ++ ['/', 'a', 'p', 'i']) ++ '/' :: rest := by
    simp [pathStart]
  have hfront : (stem ++ ['/', 'a', 'p', 'i']).dropWhile isEdge =
      stem.dropWhile isEdge ++ ['/', 'a', 'p', 'i'] :=
    dropWhile_append_stop isEdge stem ['a', 'p', 'i'] '/' hedge
  have hfilter : ∀ cleaned : List Char,
      ((stem ++ ['/', 'a', 'p', 'i']).dropWhile isEdge ++ '/' :: cleaned).filter (!isBreak ·) =
        (stem.dropWhile isEdge).filter (!isBreak ·) ++ pathStart ++
          cleaned.filter (!isBreak ·) := by
    intro cleaned
    rw [hfront]
    simp [pathStart, isBreak]
  unfold parse
  dsimp only
  rw [String.toList_ofList, htext, trim_stop _ rest '/' hedge, hfilter]
  rfl

/-- Whether a request can be sent does not depend on the resource that it is for. -/
theorem reaches_of_reaches (stem rest rest' : List Char)
    (h : Reaches (stem ++ pathStart ++ rest)) : Reaches (stem ++ pathStart ++ rest') := by
  obtain ⟨url, hparse, hhttp⟩ := h
  obtain ⟨cleaned, hcleaned⟩ := parse_stem stem rest
  obtain ⟨cleaned', hcleaned'⟩ := parse_stem stem rest'
  rw [hcleaned] at hparse
  have hsplit : ∀ text : List Char, (stem.dropWhile isEdge).filter (!isBreak ·) ++ pathStart ++
      text = (stem.dropWhile isEdge).filter (!isBreak ·) ++
        '/' :: (['a', 'p', 'i', '/'] ++ text) := by
    simp [pathStart]
  rw [hsplit] at hparse hcleaned'
  rcases scheme?_stem ((stem.dropWhile isEdge).filter (!isBreak ·)) with
    hnone | ⟨scheme, tail, hsome⟩
  · rw [hnone] at hparse
    cases hparse
  · rw [hsome] at hparse hcleaned'
    have hscheme : url.scheme = scheme := afterScheme_scheme _ _ _ hparse
    have hhttp' := (isHttp_iff url).mp hhttp
    rw [hscheme] at hhttp'
    have hjoin : ∀ text : List Char, tail ++ '/' :: (['a', 'p', 'i', '/'] ++ text) =
        tail ++ pathStart ++ text := by
      simp [pathStart]
    simp only [hjoin] at hparse hcleaned'
    rcases afterScheme_stem scheme tail hhttp' with herror | hok
    · obtain ⟨flaw, hflaw⟩ := herror cleaned
      rw [hflaw] at hparse
      cases hparse
    · obtain ⟨url', hurl', hscheme'⟩ := hok cleaned'
      refine ⟨url', hcleaned'.trans hurl', (isHttp_iff url').mpr ?_⟩
      rw [hscheme']
      exact hhttp'

end ZigbeeBridge.Url
