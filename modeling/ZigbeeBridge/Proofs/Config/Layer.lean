import Mathlib.Data.String.Basic
import ZigbeeBridge.Config.Layer
import ZigbeeBridge.Proofs.Toml.Document

/-!
What is left of the keys and the values of a table when its keys are put in order and when it is
laid over another.
-/
namespace ZigbeeBridge

open Data

namespace Data.Entries

variable {α : Type}

/-- The keys increase. -/
def Ordered (entries : Entries α) : Prop := (keys entries).Pairwise (· < ·)

theorem Ordered.nodup {entries : Entries α} (h : Ordered entries) : (keys entries).Nodup :=
  h.imp fun hlt => ne_of_lt hlt

theorem get?_putSorted (entries : Entries α) (key : String) (v : α) (other : String) :
    get? (putSorted entries key v) other = if key = other then some v else get? entries other := by
  induction entries with
  | nil => simp [putSorted, get?]
  | cons entry rest ih =>
    obtain ⟨k, w⟩ := entry
    by_cases hk : k = key
    · by_cases hother : k = other <;> simp_all [putSorted, get?]
    · by_cases hlt : key < k
      · rw [putSorted, if_neg hk, if_pos hlt, get?]
      · rw [putSorted, if_neg hk, if_neg hlt, get?, ih]
        by_cases hother : k = other
        · have hne : key ≠ other := fun hsame => hk (hother.trans hsame.symm)
          rw [if_pos hother, if_neg hne, get?, if_pos hother]
        · rw [if_neg hother, get?, if_neg hother]

theorem mem_putSorted {entries : Entries α} {key : String} {v : α} {entry : String × α}
    (h : entry ∈ putSorted entries key v) : entry = (key, v) ∨ entry ∈ entries := by
  induction entries with
  | nil => exact Or.inl (List.mem_singleton.mp h)
  | cons first rest ih =>
    obtain ⟨k, w⟩ := first
    rw [putSorted] at h
    split at h
    · rename_i hk
      subst hk
      rcases List.mem_cons.mp h with hsame | hmem
      · exact Or.inl hsame
      · exact Or.inr (List.mem_cons_of_mem _ hmem)
    split at h
    · exact List.mem_cons.mp h
    · rcases List.mem_cons.mp h with hsame | hmem
      · exact Or.inr (hsame ▸ List.mem_cons_self)
      · exact (ih hmem).imp_right (List.mem_cons_of_mem _)

/-- A key below all others comes first. -/
theorem putSorted_of_below {entries : Entries α} {key : String}
    (h : ∀ other ∈ keys entries, key < other) (v : α) :
    putSorted entries key v = (key, v) :: entries := by
  cases entries with
  | nil => rfl
  | cons first rest =>
    obtain ⟨k, w⟩ := first
    have hlt : key < k := h k List.mem_cons_self
    rw [putSorted, if_neg (ne_of_gt hlt), if_pos hlt]

/-- A key above all others comes last. -/
theorem putSorted_of_above {entries : Entries α} {key : String}
    (h : ∀ other ∈ keys entries, other < key) (v : α) :
    putSorted entries key v = entries ++ [(key, v)] := by
  induction entries with
  | nil => rfl
  | cons first rest ih =>
    obtain ⟨k, w⟩ := first
    have hlt : k < key := h k List.mem_cons_self
    rw [putSorted, if_neg (ne_of_lt hlt), if_neg (lt_asymm hlt),
      ih fun other hmem => h other (List.mem_cons_of_mem _ hmem)]
    rfl

theorem ordered_putSorted {entries : Entries α} (h : Ordered entries) (key : String) (v : α) :
    Ordered (putSorted entries key v) := by
  have hkeys : ∀ {entries : Entries α} {other}, other ∈ keys (putSorted entries key v) →
      other = key ∨ other ∈ keys entries := by
    intro entries other hmem
    obtain ⟨entry, hentry, rfl⟩ := List.mem_map.mp hmem
    rcases mem_putSorted hentry with rfl | hold
    · exact Or.inl rfl
    · exact Or.inr (List.mem_map_of_mem hold)
  induction entries with
  | nil => exact List.pairwise_singleton _ _
  | cons first rest ih =>
    obtain ⟨k, w⟩ := first
    obtain ⟨hfirst, hrest⟩ := List.pairwise_cons.mp h
    rw [putSorted]
    by_cases hk : k = key
    · rw [if_pos hk]
      exact h
    by_cases hlt : key < k
    · rw [if_neg hk, if_pos hlt]
      apply List.pairwise_cons.mpr
      refine ⟨fun other hmem => ?_, h⟩
      rcases List.mem_cons.mp hmem with rfl | hlater
      · exact hlt
      · exact lt_trans hlt (hfirst other hlater)
    · rw [if_neg hk, if_neg hlt]
      apply List.pairwise_cons.mpr
      refine ⟨fun other hmem => ?_, ih hrest⟩
      rcases hkeys hmem with rfl | hold
      · exact lt_of_le_of_ne (le_of_not_gt hlt) hk
      · exact hfirst other hold

end Data.Entries

section Sorted

variable {members : List (String × Value)}

theorem get?_sortedMembers (members : List (String × Value)) (key : String) :
    Entries.get? (sortedMembers members) key = (Entries.get? members key).map sorted := by
  induction members with
  | nil => rfl
  | cons member rest ih =>
    obtain ⟨k, v⟩ := member
    rw [sortedMembers, Entries.get?_putSorted, Entries.get?, ih]
    by_cases hk : k = key
    · rw [if_pos hk, if_pos hk]
      rfl
    · rw [if_neg hk, if_neg hk]

theorem mem_sortedMembers {member : String × Value} (h : member ∈ sortedMembers members) :
    ∃ v, (member.1, v) ∈ members ∧ member.2 = sorted v := by
  induction members with
  | nil => exact absurd h List.not_mem_nil
  | cons first rest ih =>
    obtain ⟨k, w⟩ := first
    rw [sortedMembers] at h
    rcases Entries.mem_putSorted h with rfl | hold
    · exact ⟨w, List.mem_cons_self, rfl⟩
    · obtain ⟨v, hmem, hv⟩ := ih hold
      exact ⟨v, List.mem_cons_of_mem _ hmem, hv⟩

/-- What is in order stays in that order. -/
theorem sortedMembers_of_ordered (h : Entries.Ordered members) :
    sortedMembers members = members.map fun member => (member.1, sorted member.2) := by
  induction members with
  | nil => rfl
  | cons member rest ih =>
    obtain ⟨k, v⟩ := member
    obtain ⟨hfirst, hrest⟩ := List.pairwise_cons.mp h
    rw [sortedMembers, ih hrest, List.map_cons]
    apply Entries.putSorted_of_below
    intro other hmem
    obtain ⟨entry, hentry, rfl⟩ := List.mem_map.mp hmem
    obtain ⟨member, hmember, rfl⟩ := List.mem_map.mp hentry
    have hkey : member.1 ∈ Entries.keys rest := List.mem_map_of_mem hmember
    exact hfirst _ hkey

/-- Members in order, laid over what has only lesser keys, come behind it. -/
theorem overlayMembers_of_above {base : Entries Value} (h : Entries.Ordered (base ++ members)) :
    overlayMembers base members =
      base ++ members.map fun member => (member.1, sorted member.2) := by
  induction members generalizing base with
  | nil => exact (List.append_nil base).symm
  | cons member rest ih =>
    obtain ⟨k, v⟩ := member
    have hkeys : (Entries.keys base ++ k :: Entries.keys rest).Pairwise (· < ·) := by
      unfold Entries.Ordered Entries.keys at h
      rw [List.map_append] at h
      exact h
    have habove : ∀ other ∈ Entries.keys base, other < k := fun other hmem =>
      (List.pairwise_append.mp hkeys).2.2 other hmem k List.mem_cons_self
    have habsent : Entries.get? base k = none :=
      Entries.get?_eq_none fun hmem => lt_irrefl k (habove k hmem)
    have hnext : Entries.Ordered (base ++ [(k, sorted v)] ++ rest) := by
      unfold Entries.Ordered Entries.keys
      rw [List.append_assoc, List.map_append]
      exact hkeys
    rw [overlayMembers, habsent]
    show overlayMembers (Entries.putSorted base k (sorted v)) rest = _
    rw [Entries.putSorted_of_above habove, ih hnext, List.append_assoc]
    rfl

end Sorted

end ZigbeeBridge
