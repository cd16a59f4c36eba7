import Mathlib.Data.List.Nodup
import Mathlib.Data.List.Perm.Subperm
import ZigbeeBridge.Data.Entries

/-!
Entries whose keys are all different. What stands under a key does not depend on the order, and
new keys are put behind the old ones. Of pairs with one key the first place and the last value are
kept.
-/
namespace ZigbeeBridge.Data.Entries

variable {α β : Type} {entries others : Entries α} {key : String}

section Lookup

theorem get?_eq_none (hkey : key ∉ keys entries) : entries.get? key = none := by
  induction entries with
  | nil => rfl
  | cons entry rest ih =>
    obtain ⟨name, v⟩ := entry
    have hname : name ≠ key := by
      rintro rfl
      exact hkey List.mem_cons_self
    rw [get?, if_neg hname]
    exact ih fun hmem => hkey (List.mem_cons_of_mem _ hmem)

theorem mem_of_get? {v : α} (hget : entries.get? key = some v) : (key, v) ∈ entries := by
  induction entries with
  | nil => cases hget
  | cons entry rest ih =>
    obtain ⟨name, w⟩ := entry
    by_cases hname : name = key
    · simp_all [get?]
    · rw [get?, if_neg hname] at hget
      exact List.mem_cons_of_mem _ (ih hget)

theorem get?_of_mem (hnodup : (keys entries).Nodup) {v : α} (hmem : (key, v) ∈ entries) :
    entries.get? key = some v := by
  induction entries with
  | nil => cases hmem
  | cons entry rest ih =>
    obtain ⟨name, w⟩ := entry
    obtain ⟨hname, hrest⟩ := List.nodup_cons.mp hnodup
    obtain heq | hmem := List.mem_cons.mp hmem
    · cases heq
      simp [get?]
    · have hne : name ≠ key := by
        rintro rfl
        exact hname (List.mem_map.mpr ⟨(name, v), hmem, rfl⟩)
      rw [get?, if_neg hne]
      exact ih hrest hmem

theorem get?_eq_some_iff (hnodup : (keys entries).Nodup) {v : α} :
    entries.get? key = some v ↔ (key, v) ∈ entries :=
  ⟨mem_of_get?, get?_of_mem hnodup⟩

/-- The order does not matter for what is found. -/
theorem get?_perm (hnodup : (keys entries).Nodup) (hperm : entries.Perm others) (key : String) :
    entries.get? key = others.get? key := by
  have hothers : (keys others).Nodup := (hperm.map Prod.fst).nodup_iff.mp hnodup
  apply Option.ext
  intro v
  rw [get?_eq_some_iff hnodup, get?_eq_some_iff hothers]
  exact hperm.mem_iff

/-- Keys that are renamed to different keys find what they found before. -/
theorem get?_map_of_injective {rename : String → String} (hrename : Function.Injective rename)
    (f : α → β) (entries : Entries α) (key : String) :
    get? (entries.map fun entry => (rename entry.1, f entry.2)) (rename key) =
      (entries.get? key).map f := by
  induction entries with
  | nil => rfl
  | cons entry rest ih =>
    obtain ⟨name, v⟩ := entry
    by_cases hname : name = key
    · simp [get?, hname]
    · have hne : rename name ≠ rename key := fun h => hname (hrename h)
      simpa [get?, hname, hne] using ih

theorem get?_map (f : α → β) (entries : Entries α) (key : String) :
    get? (entries.map fun entry => (entry.1, f entry.2)) key = (entries.get? key).map f :=
  get?_map_of_injective Function.injective_id f entries key

/-- Among different keys, one that is there is there once. -/
theorem length_filter_ne (hnodup : (keys entries).Nodup) (hkey : key ∈ keys entries) :
    (entries.filter (·.1 ≠ key)).length + 1 = entries.length := by
  have hkeys : keys (entries.filter (·.1 ≠ key)) = (keys entries).erase key := by
    rw [hnodup.erase_eq_filter, keys, keys, List.filter_map]
    congr 2
    funext entry
    by_cases heq : entry.1 = key <;> simp [heq]
  have hlength : (entries.filter (·.1 ≠ key)).length = ((keys entries).erase key).length := by
    rw [← hkeys, keys, List.length_map]
  have hpos : 0 < entries.length := by simpa [keys] using List.length_pos_of_mem hkey
  rw [hlength, List.length_erase_of_mem hkey, keys, List.length_map]
  omega

end Lookup

section Comparison

theorem isSome_get?_iff : (entries.get? key).isSome ↔ key ∈ keys entries := by
  constructor
  · intro hsome
    obtain ⟨v, hget⟩ := Option.isSome_iff_exists.mp hsome
    exact List.mem_map_of_mem (mem_of_get? hget)
  · intro hkey
    by_contra hnone
    rw [Option.not_isSome_iff_eq_none] at hnone
    induction entries with
    | nil => cases hkey
    | cons entry rest ih =>
      obtain ⟨name, v⟩ := entry
      by_cases hname : name = key
      · simp [get?, hname] at hnone
      · rw [get?, if_neg hname] at hnone
        obtain rfl | hrest := List.mem_cons.mp hkey
        · exact hname rfl
        · exact ih hrest hnone

/-- Of two objects with different keys, one has what the other has if it is no longer and finds
what the other one lists. -/
theorem get?_ext_iff (hentries : (keys entries).Nodup) (hothers : (keys others).Nodup) :
    (∀ key, entries.get? key = others.get? key) ↔
      entries.length = others.length ∧ ∀ entry ∈ entries, others.get? entry.1 = some entry.2 := by
  constructor
  · intro hget
    have hkeys : (keys entries).Perm (keys others) := by
      rw [List.perm_ext_iff_of_nodup hentries hothers]
      intro key
      rw [← isSome_get?_iff, ← isSome_get?_iff, hget]
    refine ⟨by simpa [keys] using hkeys.length_eq, ?_⟩
    intro entry hmem
    rw [← hget, get?_of_mem hentries hmem]
  · rintro ⟨hlength, hfound⟩ key
    have hsubset : keys entries ⊆ keys others := by
      intro name hname
      obtain ⟨entry, hmem, rfl⟩ := List.mem_map.mp hname
      rw [← isSome_get?_iff, hfound entry hmem]
      rfl
    have hkeys : (keys entries).Perm (keys others) :=
      (List.subperm_of_subset hentries hsubset).perm_of_length_le (by simp [keys, hlength])
    cases hget : entries.get? key with
    | some v => exact (hfound (key, v) (mem_of_get? hget)).symm
    | none =>
      have hkey : key ∉ keys others := by
        rw [← hkeys.mem_iff, ← isSome_get?_iff, hget]
        simp
      exact (get?_eq_none hkey).symm

/-- Entries are the values of their keys, in the order of the keys. -/
theorem ext_of_keys (hnodup : (keys entries).Nodup) (hkeys : keys entries = keys others)
    (hget : ∀ key, entries.get? key = others.get? key) : entries = others := by
  have hothers : (keys others).Nodup := hkeys ▸ hnodup
  have hvalues : ∀ {entries : Entries α}, (keys entries).Nodup →
      entries.map some = (keys entries).map fun key => (entries.get? key).map (key, ·) := by
    intro entries hentries
    rw [keys, List.map_map]
    apply List.map_congr_left
    rintro ⟨name, v⟩ hmem
    simp [get?_of_mem hentries hmem]
  apply List.map_injective_iff.mpr fun _ _ heq => Option.some.inj heq
  rw [hvalues hnodup, hvalues hothers, hkeys]
  simp only [hget]

end Comparison

section Putting

theorem put_of_absent (hkey : key ∉ keys entries) (v : α) :
    entries.put key v = entries ++ [(key, v)] := by
  induction entries with
  | nil => rfl
  | cons entry rest ih =>
    obtain ⟨name, w⟩ := entry
    have hname : name ≠ key := by
      rintro rfl
      exact hkey List.mem_cons_self
    rw [put, if_neg hname, ih fun hmem => hkey (List.mem_cons_of_mem _ hmem)]
    rfl

theorem get?_concat (hkey : key ∉ keys entries) (v : α) :
    get? (entries ++ [(key, v)]) key = some v := by
  rw [← put_of_absent hkey v, get?_put, if_pos rfl]

theorem put_put (entries : Entries α) (key : String) (v w : α) :
    (entries.put key v).put key w = entries.put key w := by
  induction entries with
  | nil => simp [put]
  | cons entry rest ih =>
    obtain ⟨name, u⟩ := entry
    by_cases hname : name = key
    · simp [put, hname]
    · simp [put, hname, ih]

theorem put_concat (hkey : key ∉ keys entries) (v w : α) :
    put (entries ++ [(key, v)]) key w = entries ++ [(key, w)] := by
  rw [← put_of_absent hkey v, put_put, put_of_absent hkey w]

/-- Entries put one after the other, all of them new. -/
theorem foldl_put_of_nodup (entries pairs : Entries α)
    (hnodup : (keys (entries ++ pairs)).Nodup) :
    pairs.foldl (fun entries pair => put entries pair.1 pair.2) entries = entries ++ pairs := by
  induction pairs generalizing entries with
  | nil => simp
  | cons pair rest ih =>
    have hassoc : entries ++ pair :: rest = entries ++ [pair] ++ rest := by simp
    have hkey : pair.1 ∉ keys entries := by
      rw [keys, List.map_append, List.map_cons, List.nodup_append] at hnodup
      intro hmem
      exact hnodup.2.2 pair.1 hmem pair.1 List.mem_cons_self rfl
    rw [List.foldl_cons, put_of_absent hkey, hassoc]
    exact ih _ (hassoc ▸ hnodup)

theorem ofList_of_nodup {pairs : Entries α} (hpairs : (keys pairs).Nodup) :
    ofList pairs = pairs :=
  foldl_put_of_nodup [] pairs hpairs

/-- What is put under the first key lands there, and the rest behind it. -/
theorem foldl_put_cons {pairs : Entries α} (hnodup : (keys pairs).Nodup) (entries : Entries α)
    (key : String) (v : α) :
    pairs.foldl (fun entries pair => put entries pair.1 pair.2) ((key, v) :: entries) =
      (key, (pairs.get? key).getD v) ::
        (pairs.filter (·.1 ≠ key)).foldl (fun entries pair => put entries pair.1 pair.2)
          entries := by
  induction pairs generalizing entries v with
  | nil => rfl
  | cons pair rest ih =>
    obtain ⟨name, w⟩ := pair
    obtain ⟨hname, hrest⟩ := List.nodup_cons.mp hnodup
    by_cases heq : name = key
    · subst heq
      have hnone : get? rest name = none := get?_eq_none hname
      simp [put, ih hrest, get?, hnone]
    · have hne : ¬key = name := Ne.symm heq
      simp [put, ih hrest, get?, heq, hne]

theorem nodup_keys_foldl_put (entries pairs : Entries α) (hnodup : (keys entries).Nodup) :
    (keys (pairs.foldl (fun entries pair => put entries pair.1 pair.2) entries)).Nodup := by
  induction pairs generalizing entries with
  | nil => exact hnodup
  | cons pair rest ih => exact ih _ (nodup_keys_put hnodup pair.1 pair.2)

theorem nodup_keys_ofList (pairs : Entries α) : (keys (ofList pairs)).Nodup :=
  nodup_keys_foldl_put [] pairs List.nodup_nil

end Putting

section Merging

theorem get?_append (entries others : Entries α) (key : String) :
    get? (entries ++ others) key = (entries.get? key).or (others.get? key) := by
  induction entries with
  | nil => rfl
  | cons entry rest ih =>
    obtain ⟨name, v⟩ := entry
    by_cases hname : name = key
    · simp [get?, hname]
    · simpa [get?, hname] using ih

theorem get?_foldl_put (entries pairs : Entries α) (key : String) :
    get? (pairs.foldl (fun entries pair => put entries pair.1 pair.2) entries) key =
      (get? pairs.reverse key).or (entries.get? key) := by
  induction pairs generalizing entries with
  | nil => rfl
  | cons pair rest ih =>
    obtain ⟨name, v⟩ := pair
    rw [List.foldl_cons, ih, List.reverse_cons, get?_append, get?_put, Option.or_assoc]
    by_cases hname : name = key <;> simp [get?, hname]

/-- The last value of a key is the one that it keeps. -/
theorem get?_ofList (pairs : Entries α) (key : String) :
    (ofList pairs).get? key = get? pairs.reverse key := by
  rw [ofList, get?_foldl_put, get?_nil, Option.or_none]

theorem keys_cons (entry : String × α) (entries : Entries α) :
    keys (entry :: entries) = entry.1 :: keys entries := rfl

theorem keys_foldl_put (entries pairs : Entries α) :
    keys (pairs.foldl (fun entries pair => put entries pair.1 pair.2) entries) =
      keys entries ++ ((keys pairs).filter (· ∉ keys entries)).eraseDups := by
  induction pairs generalizing entries with
  | nil => simp [keys]
  | cons pair rest ih =>
    rw [List.foldl_cons, ih, keys_put, keys_cons]
    by_cases hname : pair.1 ∈ keys entries
    · rw [if_pos hname, List.filter_cons_of_neg (by simpa using hname)]
    · have hrest : ((keys rest).filter (· ∉ keys entries)).filter (fun name => !name == pair.1) =
          (keys rest).filter (· ∉ keys entries ++ [pair.1]) := by
        rw [List.filter_filter]
        congr 1
        funext name
        by_cases heq : name = pair.1 <;> simp [heq]
      rw [if_neg hname, List.filter_cons_of_pos (by simpa using hname), List.eraseDups_cons, hrest,
        List.append_assoc, List.singleton_append]

/-- The keys stand where they first came. -/
theorem keys_ofList (pairs : Entries α) : keys (ofList pairs) = (keys pairs).eraseDups := by
  have hall : (keys pairs).filter (· ∉ keys ([] : Entries α)) = keys pairs := by simp [keys]
  rw [ofList, keys_foldl_put, hall]
  rfl

end Merging

end ZigbeeBridge.Data.Entries
