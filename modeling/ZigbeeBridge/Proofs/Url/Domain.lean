import ZigbeeBridge.Proofs.Data.Result
import ZigbeeBridge.Proofs.Url.Punycode
import ZigbeeBridge.Url.Domain

/-!
A domain name in ASCII is read as itself: its labels are those that it was made of, each in its own
script, and they are written once more as they were.
-/
namespace ZigbeeBridge.Url.Domain

open Text Data

section Labels

/-- A label in its own script, as a domain name may have it. -/
structure IsLabel (own : List Char) : Prop where
  valid : isValid own = true
  whole : '.' ∉ own
  unmarked : punycodeMark.isPrefixOf own = false

variable {own label : List Char}

theorem isLabel_of_decoded? (hdecoded : decoded? label = some own) : IsLabel own := by
  unfold decoded? at hdecoded
  obtain ⟨own', -, hchecked⟩ := Option.bind_eq_some_iff.mp hdecoded
  split at hchecked
  · cases hchecked
  · rename_i hgood
    cases hchecked
    simp only [not_or, Bool.not_eq_true, Bool.not_eq_false'] at hgood
    obtain ⟨-, hwhole, hunmarked, hvalid⟩ := hgood
    refine ⟨hvalid, ?_, hunmarked⟩
    rw [List.contains_eq_mem, decide_eq_false_iff_not] at hwhole
    exact hwhole

theorem isLabel_of_own? (hwhole : '.' ∉ label) (hown : own? label = some own) : IsLabel own := by
  unfold own? at hown
  split at hown
  · split at hown
    · exact isLabel_of_decoded? hown
    · cases hown
  · rename_i hunmarked
    split at hown
    · rename_i hvalid
      cases hown
      exact ⟨hvalid, hwhole, Bool.eq_false_iff.mpr hunmarked⟩
    · cases hown

/-- A character of ASCII is brought to lower case, and otherwise stays. -/
theorem mapChar_ascii {c : Char} (hc : c.toNat < 0x80) : mapChar c = some [c.toLower] :=
  if_pos hc

theorem IsLabel.lower (hlabel : IsLabel own) {c : Char} (hc : c ∈ own) (hascii : c.toNat < 0x80) :
    c.toLower = c := by
  have hvalid := hlabel.valid
  unfold isValid at hvalid
  rw [Bool.and_eq_true, List.all_eq_true] at hvalid
  have hsame := hvalid.1 c hc
  rw [mapChar_ascii hascii, beq_iff_eq] at hsame
  exact (List.cons.inj (Option.some.inj hsame)).1

theorem IsLabel.plain_written (hlabel : IsLabel own) :
    ∀ c ∈ written own, c.toNat < 0x80 ∧ c.toLower = c ∧ c ≠ '.' := by
  unfold written
  split
  · rename_i hascii
    intro c hc
    have hlt : c.toNat < 0x80 := of_decide_eq_true (List.all_eq_true.mp hascii c hc)
    exact ⟨hlt, hlabel.lower hc hlt, fun h => hlabel.whole (h ▸ hc)⟩
  · intro c hc
    have hmark : punycodeMark.all
        (fun c => c.toNat < 0x80 && (c.toLower == c && c != '.')) = true := by decide
    rcases List.mem_append.mp hc with hc | hc
    · simpa using List.all_eq_true.mp hmark c hc
    · exact Punycode.plain_encode (fun c hc => hlabel.lower hc) hlabel.whole c hc

theorem isAscii_iff {cs : List Char} : isAscii cs = true ↔ ∀ c ∈ cs, c.toNat < 0x80 := by
  simp [isAscii]

theorem IsLabel.own?_written (hlabel : IsLabel own) : own? (written own) = some own := by
  have hplain := hlabel.plain_written
  unfold written at hplain ⊢
  split
  · unfold own?
    rw [hlabel.unmarked, hlabel.valid]
    rfl
  · rename_i hscript
    rw [if_neg hscript] at hplain
    have hascii : isAscii (punycodeMark ++ Punycode.encode own) = true :=
      isAscii_iff.mpr fun c hc => (hplain c hc).1
    have hmarked : punycodeMark.isPrefixOf (punycodeMark ++ Punycode.encode own) = true :=
      List.isPrefixOf_iff_prefix.mpr (List.prefix_append _ _)
    have hdrop : (punycodeMark ++ Punycode.encode own).drop 4 = Punycode.encode own :=
      List.drop_left' rfl
    have hwhole : own.contains '.' = false := by
      rw [List.contains_eq_mem, decide_eq_false_iff_not]
      exact hlabel.whole
    have hgood : ¬(isAscii own = true ∨ own.contains '.' = true ∨
        punycodeMark.isPrefixOf own = true ∨ (!isValid own) = true) := by
      rw [hwhole, hlabel.unmarked, hlabel.valid]
      simpa using hscript
    unfold own?
    rw [if_pos hmarked, if_pos hascii]
    unfold decoded?
    rw [hdrop, Punycode.decode?_encode]
    exact if_neg hgood

theorem not_mem_of_mem_splitOn {x : Char} {cs part : List Char} (hpart : part ∈ cs.splitOn x) :
    x ∉ part := by
  induction cs generalizing part with
  | nil =>
    rw [List.splitOn_nil, List.mem_singleton] at hpart
    rw [hpart]
    exact List.not_mem_nil
  | cons c cs ih =>
    rw [List.splitOn_cons_eq_if_modifyHead] at hpart
    split at hpart
    · rcases List.mem_cons.mp hpart with rfl | hpart
      · exact List.not_mem_nil
      · exact ih hpart
    · rename_i hc
      cases hsplit : cs.splitOn x with
      | nil => exact absurd hsplit (List.splitOn_ne_nil x cs)
      | cons first rest =>
        rw [hsplit, List.modifyHead_cons] at hpart
        rw [hsplit] at ih
        rcases List.mem_cons.mp hpart with rfl | hpart
        · intro hmem
          rcases List.mem_cons.mp hmem with rfl | hmem
          · exact hc (beq_self_eq_true _)
          · exact ih List.mem_cons_self hmem
        · exact ih (List.mem_cons_of_mem _ hpart)

end Labels

section Names

theorem isLabel_of_mapM {parts labels : List (List Char)} (hparts : ∀ part ∈ parts, '.' ∉ part)
    (hlabels : parts.mapM own? = some labels) :
    labels.length = parts.length ∧ ∀ own ∈ labels, IsLabel own := by
  induction parts generalizing labels with
  | nil =>
    cases hlabels
    exact ⟨rfl, by simp⟩
  | cons part parts ih =>
    rw [List.mapM_cons] at hlabels
    obtain ⟨own, hown, hlabels⟩ := Option.bind_eq_some_iff.mp hlabels
    obtain ⟨rest, hrest, hlabels⟩ := Option.bind_eq_some_iff.mp hlabels
    cases hlabels
    obtain ⟨hlength, hall⟩ := ih (fun part' hpart => hparts part' (List.mem_cons_of_mem _ hpart)) hrest
    refine ⟨congrArg (· + 1) hlength, fun own' hown' => ?_⟩
    rcases List.mem_cons.mp hown' with rfl | hmem
    · exact isLabel_of_own? (hparts part List.mem_cons_self) hown
    · exact hall own' hmem

theorem mapM_own?_written {labels : List (List Char)} (hlabels : ∀ own ∈ labels, IsLabel own) :
    (labels.map written).mapM own? = some labels := by
  induction labels with
  | nil => rfl
  | cons own labels ih =>
    have hrest := ih fun own' hown' => hlabels own' (List.mem_cons_of_mem _ hown')
    rw [List.map_cons, List.mapM_cons, (hlabels own List.mem_cons_self).own?_written, hrest]
    rfl

theorem mapAll_plain {cs : List Char} (hcs : ∀ c ∈ cs, c.toNat < 0x80 ∧ c.toLower = c) :
    mapAll cs = some cs := by
  have hparts : cs.mapM mapChar = some (cs.map fun c => [c]) := by
    induction cs with
    | nil => rfl
    | cons c cs ih =>
      obtain ⟨hascii, hlower⟩ := hcs c List.mem_cons_self
      rw [List.mapM_cons, mapChar_ascii hascii, hlower,
        ih fun d hd => hcs d (List.mem_cons_of_mem _ hd)]
      rfl
  have hflat : (cs.map fun c => [c]).flatten = cs := by
    rw [← List.flatMap_def]
    exact List.flatMap_singleton' cs
  have hascii : isAscii cs = true := isAscii_iff.mpr fun c hc => (hcs c hc).1
  unfold mapAll
  rw [hparts]
  dsimp only [Option.bind_eq_bind, Option.bind_some]
  rw [hflat, hascii]
  rfl

theorem mem_intercalate {mark : Char} {parts : List (List Char)} {c : Char}
    (hc : c ∈ [mark].intercalate parts) : c = mark ∨ ∃ part ∈ parts, c ∈ part := by
  induction parts with
  | nil => cases hc
  | cons part parts ih =>
    cases parts with
    | nil => exact Or.inr ⟨part, List.mem_cons_self, by simpa using hc⟩
    | cons next rest =>
      rw [List.intercalate_cons_cons, List.mem_append, List.mem_append] at hc
      rcases hc with (hc | hc) | hc
      · exact Or.inr ⟨part, List.mem_cons_self, hc⟩
      · exact Or.inl (List.mem_singleton.mp hc)
      · rcases ih hc with hmark | ⟨part', hpart', hc⟩
        · exact Or.inl hmark
        · exact Or.inr ⟨part', List.mem_cons_of_mem _ hpart', hc⟩

theorem plain_name {labels : List (List Char)} (hlabels : ∀ own ∈ labels, IsLabel own) :
    ∀ c ∈ ['.'].intercalate (labels.map written), c.toNat < 0x80 ∧ c.toLower = c := by
  intro c hc
  rcases mem_intercalate hc with rfl | ⟨part, hpart, hc⟩
  · decide
  · obtain ⟨own, hown, rfl⟩ := List.mem_map.mp hpart
    obtain ⟨hascii, hlower, -⟩ := (hlabels own hown).plain_written c hc
    exact ⟨hascii, hlower⟩

theorem splitOn_name {labels : List (List Char)} (hlabels : ∀ own ∈ labels, IsLabel own)
    (hne : labels ≠ []) :
    (['.'].intercalate (labels.map written)).splitOn '.' = labels.map written := by
  refine List.splitOn_intercalate '.' (fun part hpart hdot => ?_) (by simpa using hne)
  obtain ⟨own, hown, rfl⟩ := List.mem_map.mp hpart
  exact ((hlabels own hown).plain_written '.' hdot).2.2 rfl

/-- A name that sound labels make is read as itself. -/
theorem toAscii_name {labels : List (List Char)} (hlabels : ∀ own ∈ labels, IsLabel own)
    (hne : labels ≠ [])
    (hfree : ¬((['.'].intercalate (labels.map written)).any isReserved ||
      !Script.agree labels) = true) :
    toAscii (['.'].intercalate (labels.map written)) =
      .ok (['.'].intercalate (labels.map written)) := by
  unfold toAscii
  rw [mapAll_plain (plain_name hlabels)]
  dsimp only [Option.bind_eq_bind, Option.bind_some]
  rw [splitOn_name hlabels hne, mapM_own?_written hlabels]
  exact if_neg hfree

/-- A domain name in ASCII holds nothing reserved and is read as itself. -/
theorem toAscii_toAscii {cs name : List Char} (hname : toAscii cs = .ok name) :
    (∀ c ∈ name, c.toNat < 0x80 ∧ isReserved c = false) ∧ toAscii name = .ok name := by
  unfold toAscii at hname
  split at hname
  · rename_i labels hlabels
    dsimp only at hname
    split at hname
    · cases hname
    · rename_i hfree
      cases hname
      obtain ⟨all, -, hparts⟩ := Option.bind_eq_some_iff.mp hlabels
      obtain ⟨hlength, hown⟩ :=
        isLabel_of_mapM (fun part hpart => not_mem_of_mem_splitOn hpart) hparts
      have hne : labels ≠ [] := by
        rintro rfl
        exact List.splitOn_ne_nil '.' all (List.length_eq_zero_iff.mp hlength.symm)
      have hname := toAscii_name hown hne hfree
      rw [Bool.or_eq_true, not_or, Bool.not_eq_true, List.any_eq_false] at hfree
      exact ⟨fun c hc => ⟨(plain_name hown c hc).1, Bool.eq_false_iff.mpr (hfree.1 c hc)⟩, hname⟩
  · cases hname

/-- Nothing of ASCII goes from right to left. -/
theorem agree_of_ascii {labels : List (List Char)}
    (hlabels : ∀ own ∈ labels, ∀ c ∈ own, c.toNat < 0x80) : Script.agree labels = true := by
  have hleft : ∀ own ∈ labels, ∀ c ∈ own,
      Script.kind c ≠ .right ∧ Script.kind c ≠ .arabicDigit := by
    intro own hown c hc
    unfold Script.kind
    rw [if_pos (hlabels own hown c hc)]
    split
    · decide
    · split
      · decide
      · decide
  have hnone : (labels.any (·.any fun c =>
      Script.kind c == .right || Script.kind c == .arabicDigit)) = false := by
    rw [List.any_eq_false]
    intro own hown hany
    obtain ⟨c, hc, hright⟩ := List.any_eq_true.mp hany
    obtain ⟨hnright, hndigit⟩ := hleft own hown c hc
    rw [Bool.or_eq_true, beq_iff_eq, beq_iff_eq] at hright
    exact hright.elim hnright hndigit
  unfold Script.agree
  dsimp only
  rw [hnone]
  rfl

theorem toAscii_plain {labels : List (List Char)}
    (hlabels : ∀ own ∈ labels, IsLabel own ∧ isAscii own = true) (hne : labels ≠ [])
    (hfree : ∀ c ∈ ['.'].intercalate labels, isReserved c = false) :
    toAscii (['.'].intercalate labels) = .ok (['.'].intercalate labels) := by
  have hwritten : labels.map written = labels :=
    (List.map_congr_left fun own hown => if_pos (hlabels own hown).2).trans (List.map_id labels)
  have hagree : Script.agree labels = true :=
    agree_of_ascii fun own hown => isAscii_iff.mp (hlabels own hown).2
  have hsound := toAscii_name (fun own hown => (hlabels own hown).1) hne
  rw [hwritten] at hsound
  refine hsound ?_
  rw [hagree, Bool.not_true, Bool.or_false, List.any_eq_true]
  rintro ⟨c, hc, hreserved⟩
  exact absurd ((hfree c hc).symm.trans hreserved) Bool.false_ne_true

end Names

end ZigbeeBridge.Url.Domain
