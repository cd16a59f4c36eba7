import Mathlib
import ZigbeeBridge.Proofs.Text.Span
import ZigbeeBridge.Url.Punycode

/-!
What is written in Punycode is read back. A reader of the digits is at any time where the writer was
that wrote them: it has the characters below the one that is written, with those that are equal to
it as far as the writer has come, and the distance to the next of them is the one that the writer
counts.
-/
namespace ZigbeeBridge.Url.Punycode

section Digits

theorem digitValue?_digit : ∀ d < 36, digitValue? (digit d) = some d := by
  decide

def IsDigit (c : Char) : Prop := ∃ d < 36, c = digit d

/-- Digits are in ASCII and lower case, and nothing that divides a label. -/
theorem IsDigit.plain {c : Char} (hc : IsDigit c) :
    c.toNat < 0x80 ∧ c.toLower = c ∧ c ≠ '-' ∧ c ≠ '.' := by
  have hall : ∀ d < 36, (digit d).toNat < 0x80 ∧ (digit d).toLower = digit d ∧ digit d ≠ '-' ∧
      digit d ≠ '.' := by decide
  obtain ⟨d, hd, rfl⟩ := hc
  exact hall d hd

theorem isDigit_of_mem_digits (bias k delta : Nat) : ∀ c ∈ digits bias k delta, IsDigit c := by
  induction k, delta using digits.induct bias with
  | case1 k delta t hlt =>
    intro c hc
    rw [digits, if_pos hlt, List.mem_singleton] at hc
    have := threshold_bounds bias k
    exact ⟨delta, by omega, hc⟩
  | case2 k delta t hge ih =>
    intro c hc
    rw [digits, if_neg hge, List.mem_cons] at hc
    have := threshold_bounds bias k
    rcases hc with rfl | hc
    · have hmod := Nat.mod_lt (delta - threshold bias k)
        (show 0 < 36 - threshold bias k by omega)
      exact ⟨_, by omega, rfl⟩
    · exact ih c hc

theorem digits_ne_nil (bias k delta : Nat) : digits bias k delta ≠ [] := by
  rw [digits]
  split
  · exact List.cons_ne_nil _ _
  · exact List.cons_ne_nil _ _

theorem distance?_digits (bias k delta weight n : Nat) (rest : List Char) :
    distance? bias (digits bias k delta ++ rest) k weight n = some (n + delta * weight, rest) := by
  induction k, delta using digits.induct bias generalizing weight n with
  | case1 k delta t hlt =>
    have := threshold_bounds bias k
    have hvalue := digitValue?_digit delta (by omega)
    rw [digits, if_pos hlt, List.singleton_append, distance?, hvalue]
    exact if_pos hlt
  | case2 k delta t hge ih =>
    have hbounds : 1 ≤ t ∧ t ≤ 26 := threshold_bounds bias k
    have hmod := Nat.mod_lt (delta - t) (show 0 < 36 - t by omega)
    have hvalue := digitValue?_digit (t + (delta - t) % (36 - t)) (by omega)
    have hsplit : t + (delta - t) % (36 - t) + (delta - t) / (36 - t) * (36 - t) = delta := by
      have := Nat.mod_add_div' (delta - t) (36 - t)
      omega
    -- What the digits behind the first stand for counts that much more.
    have htotal : n + (t + (delta - t) % (36 - t)) * weight +
        (delta - t) / (36 - t) * (weight * (36 - t)) = n + delta * weight := by
      calc _ = n + (t + (delta - t) % (36 - t) + (delta - t) / (36 - t) * (36 - t)) * weight := by
            ring
        _ = n + delta * weight := by rw [hsplit]
    rw [digits, if_neg hge, List.cons_append, distance?, hvalue]
    dsimp only [Option.bind_eq_bind, Option.bind_some]
    rw [if_neg (by omega), ih]
    exact congrArg (fun total => some (total, rest)) htotal

end Digits

section Reading

/-- How far one has come who reads distances. -/
structure Reader where
  text : List Char
  n : Nat
  i : Nat
  bias : Nat
  first : Bool

def Reader.read (r : Reader) (fuel : Nat) (cs : List Char) : Option (List Char) :=
  readAll fuel r.text r.n r.i r.bias r.first cs

/-- The digits take a reader from where it is to where the other one is. -/
structure Leads (r : Reader) (out : List Char) (r' : Reader) : Prop where
  digits : ∀ c ∈ out, IsDigit c
  read : ∃ steps ≤ out.length, ∀ fuel rest,
    r.read (fuel + steps) (out ++ rest) = r'.read fuel rest

theorem leads_refl (r : Reader) : Leads r [] r where
  digits := by simp
  read := ⟨0, Nat.le_refl 0, fun _ _ => rfl⟩

theorem Leads.trans {r r' r'' : Reader} {out out' : List Char} (hfirst : Leads r out r')
    (hnext : Leads r' out' r'') : Leads r (out ++ out') r'' := by
  obtain ⟨steps, hsteps, hread⟩ := hfirst.read
  obtain ⟨steps', hsteps', hread'⟩ := hnext.read
  refine ⟨fun c hc => ?_, steps' + steps, ?_, fun fuel rest => ?_⟩
  · rcases List.mem_append.mp hc with hc | hc
    · exact hfirst.digits c hc
    · exact hnext.digits c hc
  · rw [List.length_append]
    omega
  · rw [← Nat.add_assoc, List.append_assoc, hread, hread']

theorem insertIdx_length (front back : List Char) (c : Char) :
    (front ++ back).insertIdx front.length c = front ++ c :: back := by
  induction front with
  | nil => exact List.insertIdx_zero
  | cons d front ih => exact congrArg (d :: ·) ih

theorem leads_digits {r : Reader} {c : Char} {front back : List Char} {delta : Nat}
    (htext : r.text = front ++ back) (hn : r.n ≤ c.toNat)
    (hdelta : r.i + delta = (c.toNat - r.n) * (r.text.length + 1) + front.length) :
    Leads r (digits r.bias 36 delta)
      ⟨front ++ c :: back, c.toNat, front.length + 1, adapt delta (r.text.length + 1) r.first,
        false⟩ := by
  obtain ⟨text, n, i, bias, first⟩ := r
  dsimp only at htext hn hdelta ⊢
  have hplace : front.length < text.length + 1 := by
    rw [htext, List.length_append]
    omega
  have hquotient : (i + delta) / (text.length + 1) = c.toNat - n := by
    rw [hdelta, Nat.mul_comm, Nat.mul_add_div (Nat.succ_pos _), Nat.div_eq_of_lt hplace]
    exact Nat.add_zero _
  have hremainder : (i + delta) % (text.length + 1) = front.length := by
    rw [hdelta, Nat.mul_comm, Nat.mul_add_mod, Nat.mod_eq_of_lt hplace]
  have hcode : n + (c.toNat - n) = c.toNat := by omega
  have hinsert : text.insertIdx front.length c = front ++ c :: back := by
    rw [htext, insertIdx_length]
  have hvalid : c.toNat.isValidChar := c.valid
  have hchar : Char.ofNatAux c.toNat hvalid = c := by
    have := Char.ofNat_toNat c
    unfold Char.ofNat at this
    rwa [dif_pos hvalid] at this
  refine ⟨isDigit_of_mem_digits bias 36 delta, 1, ?_, fun fuel rest => ?_⟩
  · exact List.length_pos_iff.mpr (digits_ne_nil bias 36 delta)
  · have hread := distance?_digits bias 36 delta 1 0 rest
    obtain ⟨d, ds, hds⟩ := List.exists_cons_of_ne_nil (digits_ne_nil bias 36 delta)
    unfold Reader.read
    rw [hds, List.cons_append] at hread ⊢
    rw [readAll, hread]
    · simp only [Option.bind_eq_bind, Option.bind_some, Nat.zero_add, Nat.mul_one, hquotient,
        hremainder, hcode, dif_pos hvalid, hchar, hinsert]
    · exact List.cons_ne_nil d (ds ++ rest)

end Reading

section Writing

/-- What a reader has while `m` is written: what is up to `m` of the part that the writer has passed,
and what is below `m` of the rest. -/
def placed (m : Nat) (front back : List Char) : List Char :=
  front.filter (·.toNat ≤ m) ++ back.filter (·.toNat < m)

/-- The reader of what is written so far: from where it is, the distance that the writer has counted
leads to place `k` of the characters that are equal to `m`. -/
structure Follows (basics : Nat) (w : Writing) (m k : Nat) (r : Reader) : Prop where
  count : w.count = r.text.length
  bias : r.bias = w.bias
  first : r.first = (w.count == basics)
  basics_le : basics ≤ w.count
  place_le : k ≤ r.text.length
  distance : r.n * (r.text.length + 1) + r.i + w.delta = m * (r.text.length + 1) + k

variable {basics m k : Nat} {w : Writing} {r : Reader}

theorem Follows.n_le (hfollows : Follows basics w m k r) : r.n ≤ m := by
  have hdistance := hfollows.distance
  have hplace := hfollows.place_le
  by_contra hlt
  have hmul : (m + 1) * (r.text.length + 1) ≤ r.n * (r.text.length + 1) :=
    Nat.mul_le_mul_right _ (by omega)
  rw [Nat.add_mul, Nat.one_mul] at hmul
  omega

/-- What the writer adds from `w` to `w'` leads the reader to where the front of the text is passed. -/
def Carries (basics m : Nat) (w w' : Writing) (r : Reader) (front back : List Char) : Prop :=
  ∃ out r', w'.written = w.written ++ out ∧ Leads r out r' ∧
    Follows basics w' m (front.filter (·.toNat ≤ m)).length r' ∧ r'.text = placed m front back

section Passing

variable {front back : List Char} {c : Char}

theorem Follows.pass_below (hlt : c.toNat < m)
    (hfollows : Follows basics w m (front.filter (·.toNat ≤ m)).length r)
    (htext : r.text = placed m front (c :: back)) :
    Carries basics m w { w with delta := w.delta + 1 } r (front ++ [c]) back := by
  have hfront : (front ++ [c]).filter (·.toNat ≤ m) = front.filter (·.toNat ≤ m) ++ [c] := by
    rw [List.filter_append]
    exact congrArg _ (List.filter_cons_of_pos (decide_eq_true (Nat.le_of_lt hlt)))
  have hback : (c :: back).filter (·.toNat < m) = c :: back.filter (·.toNat < m) :=
    List.filter_cons_of_pos (decide_eq_true hlt)
  unfold placed at htext
  rw [hback] at htext
  have hlength := congrArg List.length htext
  rw [List.length_append, List.length_cons] at hlength
  have hdistance := hfollows.distance
  unfold Carries placed
  rw [hfront]
  refine ⟨[], r, (List.append_nil _).symm, leads_refl r, ⟨hfollows.count, hfollows.bias,
    hfollows.first, hfollows.basics_le, ?_, ?_⟩, ?_⟩
  · rw [List.length_append, List.length_singleton]
    omega
  · rw [List.length_append, List.length_singleton]
    dsimp only
    omega
  · rw [htext, List.append_assoc, List.singleton_append]

/-- One that is equal to it is written as its distance from the last. -/
theorem Follows.pass_equal (heq : c.toNat = m)
    (hfollows : Follows basics w m (front.filter (·.toNat ≤ m)).length r)
    (htext : r.text = placed m front (c :: back)) :
    Carries basics m w ⟨w.written ++ digits w.bias 36 w.delta, 0,
      adapt w.delta (w.count + 1) (w.count == basics), w.count + 1⟩ r (front ++ [c]) back := by
  have hfront : (front ++ [c]).filter (·.toNat ≤ m) = front.filter (·.toNat ≤ m) ++ [c] := by
    rw [List.filter_append]
    exact congrArg _ (List.filter_cons_of_pos (decide_eq_true (Nat.le_of_eq heq)))
  have hback : (c :: back).filter (·.toNat < m) = back.filter (·.toNat < m) :=
    List.filter_cons_of_neg (by simp [heq])
  unfold placed at htext
  rw [hback] at htext
  have hlength := congrArg List.length htext
  rw [List.length_append] at hlength
  have hn : r.n ≤ c.toNat := heq ▸ hfollows.n_le
  have hdelta : r.i + w.delta = (c.toNat - r.n) * (r.text.length + 1) +
      (front.filter (·.toNat ≤ m)).length := by
    have hdistance := hfollows.distance
    have hmul := Nat.mul_le_mul_right (r.text.length + 1) hn
    rw [← heq] at hdistance ⊢
    rw [Nat.sub_mul]
    omega
  have hleads := leads_digits htext hn hdelta
  have hcount := hfollows.count
  have hbasics := hfollows.basics_le
  have hnew : (w.count + 1 == basics) = false := by
    rw [beq_eq_false_iff_ne]
    omega
  rw [hfollows.bias, ← hfollows.count, hfollows.first] at hleads
  unfold Carries placed
  rw [hfront]
  refine ⟨_, _, rfl, hleads, ⟨?_, rfl, hnew.symm, Nat.le_succ_of_le hbasics, ?_, ?_⟩, ?_⟩
  · rw [List.length_append, List.length_cons]
    dsimp only
    omega
  · rw [List.length_append, List.length_append, List.length_singleton, List.length_cons]
    omega
  · dsimp only
    rw [heq, List.length_append, List.length_append, List.length_singleton]
    rfl
  · rw [List.append_assoc, List.singleton_append]

theorem Follows.pass_above (hgt : m < c.toNat)
    (hfollows : Follows basics w m (front.filter (·.toNat ≤ m)).length r)
    (htext : r.text = placed m front (c :: back)) : Carries basics m w w r (front ++ [c]) back := by
  have hfront : (front ++ [c]).filter (·.toNat ≤ m) = front.filter (·.toNat ≤ m) := by
    have hnone : [c].filter (·.toNat ≤ m) = [] :=
      List.filter_cons_of_neg (by simpa using hgt)
    rw [List.filter_append, hnone, List.append_nil]
  have hback : (c :: back).filter (·.toNat < m) = back.filter (·.toNat < m) :=
    List.filter_cons_of_neg (by simpa using Nat.le_of_lt hgt)
  unfold placed at htext
  rw [hback] at htext
  unfold Carries placed
  rw [hfront]
  exact ⟨[], r, (List.append_nil _).symm, leads_refl r, hfollows, htext⟩

theorem Follows.pass (hfollows : Follows basics w m (front.filter (·.toNat ≤ m)).length r)
    (htext : r.text = placed m front (c :: back)) :
    Carries basics m w (Punycode.pass basics m w c) r (front ++ [c]) back := by
  unfold Punycode.pass
  split
  · rename_i hlt
    exact hfollows.pass_below hlt htext
  · rename_i hge
    split
    · rename_i heq
      exact hfollows.pass_equal heq htext
    · rename_i hne
      exact hfollows.pass_above (by omega) htext

end Passing

theorem Follows.passAll (front back : List Char)
    (hfollows : Follows basics w m (front.filter (·.toNat ≤ m)).length r)
    (htext : r.text = placed m front back) :
    Carries basics m w (back.foldl (Punycode.pass basics m) w) r (front ++ back) [] := by
  induction back generalizing front w r with
  | nil =>
    rw [List.append_nil]
    exact ⟨[], r, (List.append_nil _).symm, leads_refl r, hfollows, htext⟩
  | cons c back ih =>
    obtain ⟨out, r', hwritten, hleads, hfollows', htext'⟩ := hfollows.pass htext
    obtain ⟨out', r'', hwritten', hleads', hfollows'', htext''⟩ := ih (front ++ [c]) hfollows' htext'
    rw [List.append_assoc, List.singleton_append] at hfollows'' htext''
    refine ⟨out ++ out', r'', ?_, hleads.trans hleads', hfollows'', htext''⟩
    rw [List.foldl_cons, hwritten', hwritten, List.append_assoc]

theorem Follows.skip (text : List Char) {n : Nat} (hfollows : Follows basics w n 0 r)
    (htext : r.text = text.filter (·.toNat < n)) (hle : n ≤ m)
    (hnone : ∀ c ∈ text, n ≤ c.toNat → m ≤ c.toNat) :
    Follows basics { w with delta := w.delta + (m - n) * (w.count + 1) } m 0 r ∧
      r.text = placed m [] text := by
  refine ⟨⟨hfollows.count, hfollows.bias, hfollows.first, hfollows.basics_le, Nat.zero_le _, ?_⟩, ?_⟩
  · have hdistance := hfollows.distance
    have hmul := Nat.mul_le_mul_right (r.text.length + 1) hle
    dsimp only
    rw [hfollows.count, Nat.sub_mul]
    omega
  · rw [htext]
    refine (List.filter_congr fun c hc => ?_).trans (List.nil_append _).symm
    have hjump := hnone c hc
    exact decide_eq_decide.mpr (by omega)

theorem Follows.next (hfollows : Follows basics w m k r) (hplace : k = r.text.length) :
    Follows basics { w with delta := w.delta + 1 } (m + 1) 0 r := by
  refine ⟨hfollows.count, hfollows.bias, hfollows.first, hfollows.basics_le, Nat.zero_le _, ?_⟩
  have hdistance := hfollows.distance
  dsimp only
  rw [Nat.add_mul, Nat.one_mul]
  omega

theorem Follows.writeAll (text : List Char) (ms : List Nat) {n : Nat}
    (hfollows : Follows basics w n 0 r) (htext : r.text = text.filter (·.toNat < n))
    (hsorted : ms.Pairwise (· < ·)) (hlow : ∀ m ∈ ms, n ≤ m)
    (hall : ∀ c ∈ text, n ≤ c.toNat → c.toNat ∈ ms) :
    ∃ out r', (Punycode.writeAll text basics n w ms).written = w.written ++ out ∧ Leads r out r' ∧
      r'.text = text := by
  induction ms generalizing n w r with
  | nil =>
    refine ⟨[], r, (List.append_nil _).symm, leads_refl r, ?_⟩
    rw [htext, List.filter_eq_self]
    intro c hc
    rw [decide_eq_true_iff]
    by_contra hge
    cases hall c hc (Nat.le_of_not_lt hge)
  | cons m ms ih =>
    obtain ⟨hfirst, hrest⟩ := List.pairwise_cons.mp hsorted
    have hnext : ∀ c ∈ text, n ≤ c.toNat → m ≤ c.toNat := by
      intro c hc hge
      rcases List.mem_cons.mp (hall c hc hge) with heq | hmem
      · exact Nat.le_of_eq heq.symm
      · exact Nat.le_of_lt (hfirst _ hmem)
    obtain ⟨hskipped, hplaced⟩ := hfollows.skip text htext (hlow m List.mem_cons_self) hnext
    obtain ⟨out, r', hwritten, hleads, hpassed, htext'⟩ := hskipped.passAll [] text hplaced
    rw [List.nil_append] at hpassed htext'
    have hdone : r'.text = text.filter (·.toNat < m + 1) := by
      refine htext'.trans ((List.append_nil _).trans (List.filter_congr fun c _ => ?_))
      exact decide_eq_decide.mpr Nat.lt_succ_iff.symm
    have hplace : (text.filter (·.toNat ≤ m)).length = r'.text.length :=
      (congrArg List.length (htext'.trans (List.append_nil _))).symm
    have hlater : ∀ c ∈ text, m + 1 ≤ c.toNat → c.toNat ∈ ms := by
      intro c hc hge
      have hm := hlow m List.mem_cons_self
      rcases List.mem_cons.mp (hall c hc (by omega)) with heq | hmem
      · omega
      · exact hmem
    obtain ⟨out', r'', hwritten', hleads', htext''⟩ :=
      ih (hpassed.next hplace) hdone hrest hfirst hlater
    refine ⟨out ++ out', r'', ?_, hleads.trans hleads', htext''⟩
    rw [Punycode.writeAll, hwritten', hwritten, List.append_assoc]

end Writing

section Texts

theorem mem_insertNew {n x : Nat} {ns : List Nat} : x ∈ insertNew n ns ↔ x = n ∨ x ∈ ns := by
  induction ns with
  | nil => simp [insertNew]
  | cons m ms ih =>
    unfold insertNew
    split
    · exact List.mem_cons
    · split
      · rename_i heq
        subst heq
        simp
      · rw [List.mem_cons, ih, List.mem_cons]
        exact or_left_comm

theorem pairwise_insertNew {n : Nat} {ns : List Nat} (hsorted : ns.Pairwise (· < ·)) :
    (insertNew n ns).Pairwise (· < ·) := by
  induction ns with
  | nil => simp [insertNew]
  | cons m ms ih =>
    obtain ⟨hfirst, hrest⟩ := List.pairwise_cons.mp hsorted
    unfold insertNew
    split
    · rename_i hlt
      refine List.pairwise_cons.mpr ⟨fun x hx => ?_, hsorted⟩
      rcases List.mem_cons.mp hx with rfl | hx
      · exact hlt
      · exact Nat.lt_trans hlt (hfirst x hx)
    · split
      · exact hsorted
      · refine List.pairwise_cons.mpr ⟨fun x hx => ?_, ih hrest⟩
        rcases mem_insertNew.mp hx with rfl | hx
        · omega
        · exact hfirst x hx

/-- The code points of a text beyond ASCII, in increasing order. -/
theorem others_spec (cs : List Char) :
    (cs.foldr (fun c ns => insertNew c.toNat ns) []).Pairwise (· < ·) ∧
      ∀ n, n ∈ cs.foldr (fun c ns => insertNew c.toNat ns) [] ↔ ∃ c ∈ cs, c.toNat = n := by
  induction cs with
  | nil => simp
  | cons c cs ih =>
    obtain ⟨hsorted, hmem⟩ := ih
    rw [List.foldr_cons]
    refine ⟨pairwise_insertNew hsorted, fun n => ?_⟩
    rw [mem_insertNew, hmem]
    simp only [List.mem_cons, exists_eq_or_imp]
    exact or_congr_left eq_comm

/-- The ASCII characters, a hyphen behind them if there are any, and the distances to the others. -/
theorem encode_eq (text : List Char) :
    ∃ out r, encode text = text.filter (·.toNat < 0x80) ++
        (if (text.filter (·.toNat < 0x80)).isEmpty then [] else ['-']) ++ out ∧
      Leads ⟨text.filter (·.toNat < 0x80), 0x80, 0, 72, true⟩ out r ∧ r.text = text := by
  obtain ⟨hsorted, hmem⟩ := others_spec (text.filter (0x80 ≤ ·.toNat))
  have hstart : Follows (text.filter (·.toNat < 0x80)).length
      ⟨[], 0, 72, (text.filter (·.toNat < 0x80)).length⟩ 0x80 0
      ⟨text.filter (·.toNat < 0x80), 0x80, 0, 72, true⟩ :=
    ⟨rfl, rfl, (beq_self_eq_true _).symm, Nat.le_refl _, Nat.zero_le _, rfl⟩
  obtain ⟨out, r, hwritten, hleads, htext⟩ := hstart.writeAll text _ rfl hsorted
    (fun m hm => by
      obtain ⟨c, hc, rfl⟩ := (hmem m).mp hm
      simpa using (List.mem_filter.mp hc).2)
    (fun c hc hge => (hmem c.toNat).mpr ⟨c, List.mem_filter.mpr ⟨hc, decide_eq_true hge⟩, rfl⟩)
  refine ⟨out, r, ?_, hleads, htext⟩
  unfold encode
  dsimp only
  rw [hwritten, List.nil_append]

theorem decode?_split {basic out : List Char} (hout : ∀ c ∈ out, c ≠ '-') :
    decode? (basic ++ (if basic.isEmpty then [] else ['-']) ++ out) =
      if basic.all (·.toNat < 0x80) then readAll out.length basic 0x80 0 72 true out else none := by
  have hmark : '-' ∉ out.reverse := fun hmem => hout '-' (List.mem_reverse.mp hmem) rfl
  have hreversed := Text.ne_mark hmark
  unfold decode?
  dsimp only
  cases basic with
  | nil =>
    rw [List.isEmpty_nil, if_pos rfl, List.nil_append, List.nil_append,
      List.takeWhile_eq_self_iff.mpr hreversed, List.dropWhile_eq_nil_iff.mpr hreversed,
      List.reverse_reverse]
    rfl
  | cons c basic =>
    rw [List.isEmpty_cons, if_neg Bool.false_ne_true, List.append_assoc, List.singleton_append,
      List.reverse_append, List.reverse_cons, List.append_assoc, List.singleton_append,
      Text.takeWhile_ne_mark hmark, Text.dropWhile_ne_mark hmark, List.reverse_reverse,
      List.drop_one, List.tail_cons, List.reverse_reverse]

theorem read_nil (r : Reader) (fuel : Nat) : r.read fuel [] = some r.text := by
  unfold Reader.read
  cases fuel with
  | zero => rfl
  | succ fuel => rfl

theorem decode?_encode (text : List Char) : decode? (encode text) = some text := by
  obtain ⟨out, r, hencode, hleads, htext⟩ := encode_eq text
  have hbasic : (text.filter (·.toNat < 0x80)).all (·.toNat < 0x80) = true :=
    List.all_eq_true.mpr fun c hc => (List.mem_filter.mp hc).2
  obtain ⟨steps, hsteps, hread⟩ := hleads.read
  have hfuel : out.length - steps + steps = out.length := by omega
  have hall := hread (out.length - steps) []
  rw [hfuel, List.append_nil, read_nil, htext] at hall
  rw [hencode, decode?_split fun c hc => (hleads.digits c hc).plain.2.2.1, if_pos hbasic]
  exact hall

/-- What is written is in ASCII and lower case, if what of the text is in ASCII is, and holds no
dot that is not in the text. -/
theorem plain_encode {text : List Char} (hlower : ∀ c ∈ text, c.toNat < 0x80 → c.toLower = c)
    (hdot : '.' ∉ text) : ∀ c ∈ encode text, c.toNat < 0x80 ∧ c.toLower = c ∧ c ≠ '.' := by
  obtain ⟨out, r, hencode, hleads, -⟩ := encode_eq text
  intro c hc
  rw [hencode, List.mem_append, List.mem_append] at hc
  rcases hc with (hc | hc) | hc
  · obtain ⟨hmem, hascii⟩ := List.mem_filter.mp hc
    have hlt : c.toNat < 0x80 := of_decide_eq_true hascii
    exact ⟨hlt, hlower c hmem hlt, fun h => hdot (h ▸ hmem)⟩
  · split at hc
    · cases hc
    · rw [List.mem_singleton.mp hc]
      decide
  · obtain ⟨hascii, hlow, -, hplain⟩ := (hleads.digits c hc).plain
    exact ⟨hascii, hlow, hplain⟩

end Texts

end ZigbeeBridge.Url.Punycode
