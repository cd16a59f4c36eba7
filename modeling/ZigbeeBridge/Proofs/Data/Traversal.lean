import Mathlib.Data.List.Perm.Basic
import ZigbeeBridge.Proofs.Data.Result

/-!
Lists that are decoded one element after the other. A list is decoded when each of its elements
is, and the results stand in the order of the elements, whatever that order is.
-/
namespace ZigbeeBridge.Data

variable {ε α β : Type} {f : α → Except ε β} {as others : List α} {bs : List β}

theorem mapM_eq_ok_iff :
    as.mapM f = .ok bs ↔ List.Forall₂ (fun a b => f a = .ok b) as bs := by
  constructor
  · intro h
    induction as generalizing bs with
    | nil =>
      cases h
      exact .nil
    | cons a as ih =>
      rw [List.mapM_cons] at h
      obtain ⟨b, hb, hrest⟩ := bind_eq_ok h
      obtain ⟨bs, hbs, hdone⟩ := bind_eq_ok hrest
      cases hdone
      exact .cons hb (ih hbs)
  · intro h
    induction h with
    | nil => rfl
    | cons hb _ ih =>
      rw [List.mapM_cons, hb, ih]
      rfl

/-- Elements in another order have the same results, each beside its element. -/
theorem exists_mapM_of_perm (hperm : as.Perm others) (h : as.mapM f = .ok bs) :
    ∃ results, others.mapM f = .ok results ∧ results.length = others.length ∧
      (as.zip bs).Perm (others.zip results) := by
  obtain ⟨hlength, hzip⟩ := List.forall₂_iff_zip.mp (mapM_eq_ok_iff.mp h)
  have hpairs : List.Forall₂ (fun a (pair : α × β) => pair.1 = a ∧ f a = .ok pair.2) as
      (as.zip bs) := by
    have hfst : as = (as.zip bs).map Prod.fst :=
      (List.map_fst_zip (Nat.le_of_eq hlength)).symm
    nth_rewrite 1 [hfst]
    rw [List.forall₂_map_left_iff, List.forall₂_same]
    exact fun pair hmem => ⟨rfl, hzip hmem⟩
  obtain ⟨pairs, hothers, hsame⟩ := List.perm_comp_forall₂ hperm.symm hpairs
  have hfst : pairs.map Prod.fst = others := by
    rw [← List.forall₂_eq_eq_eq, List.forall₂_map_left_iff]
    exact hothers.flip.imp fun _ _ h => h.1
  refine ⟨pairs.map Prod.snd, ?_, ?_, ?_⟩
  · rw [mapM_eq_ok_iff, List.forall₂_map_right_iff]
    exact hothers.imp fun _ _ h => h.2
  · rw [List.length_map, hothers.length_eq]
  · rw [← List.zip_of_prod hfst rfl]
    exact hsame.symm

/-- Lists whose elements have the same results one by one have the same results. -/
theorem toOption_mapM_congr
    (h : List.Forall₂ (fun a other => (f a).toOption = (f other).toOption) as others) :
    (as.mapM f).toOption = (others.mapM f).toOption := by
  induction h with
  | nil => rfl
  | cons hfirst _ ih => simp only [List.mapM_cons, toOption_bind, hfirst, ih]

end ZigbeeBridge.Data
