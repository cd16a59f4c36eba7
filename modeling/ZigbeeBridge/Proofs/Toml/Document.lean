import ZigbeeBridge.Proofs.Data.Entries
import ZigbeeBridge.Proofs.Toml.Line

/-!
A document that was printed is read back: in each table first the scalars and then the tables, in
the order in which they were given.
-/
namespace ZigbeeBridge

open Data

namespace Toml

section Changes

/-- A change of the table at the end of a path; what is missing on the way is made. -/
inductive Changes (change : Table → Table → Prop) : List String → Table → Table → Prop where
  | here {table after : Table} (h : change table after) : Changes change [] table after
  | made {key : String} {path : List String} {table after : Table}
    (habsent : table.get? key = none) (h : Changes change path [] after) :
    Changes change (key :: path) table (table.put key (.table .passing after))
  | inside {key : String} {path : List String} {table entries after : Table} {origin : Origin}
    (hthere : table.get? key = some (.table origin entries))
    (h : Changes change path entries after) :
    Changes change (key :: path) table (table.put key (.table origin after))

variable {change first second : Table → Table → Prop} {path : List String} {table after : Table}

theorem Changes.changeAt {act : Origin → Table → Except String Table}
    (hact : ∀ origin table after, change table after → act origin table = .ok after)
    (h : Changes change path table after) (origin : Origin) :
    changeAt false act path origin table = .ok after := by
  induction h generalizing origin with
  | here h => exact hact origin _ _ h
  | made habsent _ ih =>
    unfold Toml.changeAt
    simp only [habsent, Bool.false_eq_true, if_false, ih]
    rfl
  | inside hthere _ ih =>
    unfold Toml.changeAt
    simp only [hthere, Bool.false_eq_true, false_and, if_false, ih]
    rfl

/-- A change that has two parts has them at the end of a path too. -/
theorem Changes.split (hsplit : ∀ table after, change table after →
      ∃ mid, first table mid ∧ second mid after)
    (h : Changes change path table after) :
    ∃ mid, Changes first path table mid ∧ Changes second path mid after := by
  induction h with
  | here h =>
    obtain ⟨mid, hfirst, hsecond⟩ := hsplit _ _ h
    exact ⟨mid, .here hfirst, .here hsecond⟩
  | @made key path table after habsent _ ih =>
    obtain ⟨mid, hfirst, hsecond⟩ := ih
    have hthere : (table.put key (.table .passing mid)).get? key =
        some (.table .passing mid) := by rw [Entries.get?_put, if_pos rfl]
    refine ⟨_, .made habsent hfirst, ?_⟩
    have hrest := Changes.inside hthere hsecond
    rwa [Entries.put_put] at hrest
  | @inside key path table entries after origin hthere _ ih =>
    obtain ⟨mid, hfirst, hsecond⟩ := ih
    have hthen : (table.put key (.table origin mid)).get? key =
        some (.table origin mid) := by rw [Entries.get?_put, if_pos rfl]
    refine ⟨_, .inside hthere hfirst, ?_⟩
    have hrest := Changes.inside hthen hsecond
    rwa [Entries.put_put] at hrest

theorem Changes.append {inner : List String}
    (h : Changes (Changes change inner) path table after) :
    Changes change (path ++ inner) table after := by
  induction h with
  | here h => exact h
  | made habsent _ ih => exact .made habsent ih
  | inside hthere _ ih => exact .inside hthere ih

theorem Changes.mono (himp : ∀ table after, first table after → second table after)
    (h : Changes first path table after) : Changes second path table after := by
  induction h with
  | here h => exact .here (himp _ _ h)
  | made habsent _ ih => exact .made habsent ih
  | inside hthere _ ih => exact .inside hthere ih

end Changes

section Gains

/-- A table that has more at its end, with all keys different. -/
def Gains (nodes table after : Table) : Prop :=
  after = table ++ nodes ∧ (Entries.keys after).Nodup

/-- The table at the end of a path has more at its end. -/
def Gained (path : List String) (nodes root after : Table) : Prop :=
  if nodes = [] then after = root else Changes (Gains nodes) path root after

variable {path : List String} {key : String} {nodes more table root after : Table}
  {origin : Origin} {node : Node}

theorem Gains.append (h : Gains (nodes ++ more) table after) :
    ∃ mid, Gains nodes table mid ∧ Gains more mid after := by
  obtain ⟨rfl, hkeys⟩ := h
  refine ⟨table ++ nodes, ⟨rfl, ?_⟩, (List.append_assoc _ _ _).symm, hkeys⟩
  rw [← List.append_assoc] at hkeys
  unfold Entries.keys at hkeys ⊢
  rw [List.map_append] at hkeys
  exact (List.nodup_append.mp hkeys).1

theorem Gains.absent (h : Gains [(key, node)] table after) : key ∉ Entries.keys table := by
  obtain ⟨rfl, hkeys⟩ := h
  unfold Entries.keys at hkeys ⊢
  rw [List.map_append, List.nodup_append] at hkeys
  exact fun hmem => hkeys.2.2 key hmem key (List.mem_singleton.mpr rfl) rfl

theorem gained_nil (path : List String) (root : Table) : Gained path [] root root := by
  unfold Gained
  rw [if_pos rfl]

theorem Gained.eq_of_nil (h : Gained path [] root after) : after = root := by
  unfold Gained at h
  rwa [if_pos rfl] at h

theorem gained_iff (hnodes : nodes ≠ []) :
    Gained path nodes root after ↔ Changes (Gains nodes) path root after := by
  unfold Gained
  rw [if_neg hnodes]

theorem Gained.append (h : Gained path (nodes ++ more) root after) :
    ∃ mid, Gained path nodes root mid ∧ Gained path more mid after := by
  by_cases hnodes : nodes = []
  · subst hnodes
    exact ⟨root, gained_nil path root, h⟩
  by_cases hmore : more = []
  · subst hmore
    rw [List.append_nil] at h
    exact ⟨after, h, gained_nil path after⟩
  · have hboth : nodes ++ more ≠ [] := by simp [hnodes]
    rw [gained_iff hboth] at h
    obtain ⟨mid, hfirst, hsecond⟩ := h.split fun _ _ hgains => Gains.append hgains
    exact ⟨mid, (gained_iff hnodes).mpr hfirst, (gained_iff hmore).mpr hsecond⟩

theorem Gained.fill (hkeys : (Entries.keys (nodes ++ more)).Nodup)
    (h : Gained path [(key, .table origin (nodes ++ more))] root after) :
    ∃ mid, Gained path [(key, .table origin nodes)] root mid ∧
      Gained (path ++ [key]) more mid after := by
  by_cases hmore : more = []
  · subst hmore
    rw [List.append_nil] at h
    exact ⟨after, h, gained_nil _ after⟩
  · rw [gained_iff (List.cons_ne_nil _ _)] at h
    have hparts : ∀ table after, Gains [(key, .table origin (nodes ++ more))] table after →
        ∃ mid, Gains [(key, .table origin nodes)] table mid ∧
          Changes (Gains more) [key] mid after := by
      intro table after hgains
      have habsent := hgains.absent
      obtain ⟨rfl, hall⟩ := hgains
      refine ⟨table ++ [(key, .table origin nodes)], ⟨rfl, ?_⟩, ?_⟩
      · unfold Entries.keys at hall ⊢
        rw [List.map_append] at hall ⊢
        exact hall
      · have hthere := Entries.get?_concat habsent (Node.table origin nodes)
        have hrest : Changes (Gains more) [key] _ _ :=
          .inside hthere (.here ⟨rfl, hkeys⟩)
        rwa [Entries.put_concat habsent] at hrest
    obtain ⟨mid, hfirst, hsecond⟩ := h.split hparts
    exact ⟨mid, (gained_iff (List.cons_ne_nil _ _)).mpr hfirst,
      (gained_iff hmore).mpr hsecond.append⟩

theorem Gained.pass (hmore : more ≠ []) (hkeys : (Entries.keys more).Nodup)
    (h : Gained path [(key, .table .passing more)] root after) :
    Gained (path ++ [key]) more root after := by
  rw [gained_iff (List.cons_ne_nil _ _)] at h
  rw [gained_iff hmore]
  apply Changes.append
  refine h.mono fun table after hgains => ?_
  have habsent := hgains.absent
  obtain ⟨rfl, -⟩ := hgains
  have hmade : Changes (Gains more) [key] table _ :=
    .made (Entries.get?_eq_none habsent) (.here ⟨rfl, hkeys⟩)
  rwa [Entries.put_of_absent habsent] at hmade

end Gains

section Blocks

/-- The members that have lines of their own. -/
def scalars : List (String × Value) → Entries Value
  | [] => []
  | (_, .null) :: rest => scalars rest
  | (_, .object _) :: rest => scalars rest
  | (key, v) :: rest => (key, v) :: scalars rest

/-- The tables among the members, each with its scalars in front. -/
def tables : List (String × Value) → Entries Value
  | [] => []
  | (key, .object inner) :: rest => (key, .object (scalars inner ++ tables inner)) :: tables rest
  | _ :: rest => tables rest

def leaves (members : List (String × Value)) : Table :=
  (scalars members).map fun member => (member.1, .leaf member.2)

/-- A table with nothing but tables has no header. -/
def originOf (inner : List (String × Value)) : Origin :=
  if leaves inner = [] ∧ inner ≠ [] then .passing else .header

/-- The tables as they are put together. -/
def branches : List (String × Value) → Table
  | [] => []
  | (key, .object inner) :: rest =>
    (key, .table (originOf inner) (leaves inner ++ branches inner)) :: branches rest
  | _ :: rest => branches rest

/-- Members that a document can hold: no key twice, and no table of nothing but null. -/
inductive Writable : List (String × Value) → Prop where
  | members {members : List (String × Value)} (hkeys : (Entries.keys members).Nodup)
    (hinner : ∀ key inner, (key, .object inner) ∈ members → Writable inner)
    (hseen : ∀ key inner, (key, .object inner) ∈ members →
      inner = [] ∨ leaves inner ++ branches inner ≠ []) : Writable members

/-- Lines, read one after the other. -/
inductive Runs : Draft → List String → Draft → Prop where
  | nil (draft : Draft) : Runs draft [] draft
  | cons {draft mid after : Draft} {text : String} {texts : List String}
    (htakes : Takes text draft mid) (hrest : Runs mid texts after) :
    Runs draft (text :: texts) after

theorem Runs.append {draft mid after : Draft} {texts more : List String}
    (hfirst : Runs draft texts mid) (hrest : Runs mid more after) :
    Runs draft (texts ++ more) after := by
  induction hfirst with
  | nil => exact hrest
  | cons htakes _ ih => exact .cons htakes (ih hrest)

variable {path : List String} {root after : Table} {members : List (String × Value)}

theorem runs_header {key : String} {current : List String}
    (h : Gained path [(key, .table .header [])] root after) :
    Takes (headerLine (path ++ [key])) ⟨root, current⟩ ⟨after, path ++ [key]⟩ := by
  rw [gained_iff (List.cons_ne_nil _ _)] at h
  apply takes_header (by simp)
  rw [List.getLastD_concat, List.dropLast_concat]
  apply h.changeAt
  intro origin table after hgains
  have habsent := hgains.absent
  obtain ⟨rfl, -⟩ := hgains
  unfold openTable
  rw [Entries.get?_eq_none habsent, Entries.put_of_absent habsent]

theorem takes_leaf {key : String} {v : Value} {text : String} (hv : scalarText v = .ok text)
    (h : Gained path [(key, .leaf v)] root after) :
    Takes s!"{keyText key} = {text}" ⟨root, path⟩ ⟨after, path⟩ := by
  rw [gained_iff (List.cons_ne_nil _ _)] at h
  apply takes_entry key hv
  apply h.changeAt
  intro origin table after hgains
  have habsent := hgains.absent
  obtain ⟨rfl, -⟩ := hgains
  show assign key false v .header table = _
  unfold assign
  rw [Entries.get?_eq_none habsent, Entries.put_of_absent habsent]
  simp

theorem leaves_cases (key : String) (v : Value) (rest : List (String × Value)) :
    leaves ((key, v) :: rest) = leaves rest ∧
        scalarLines ((key, v) :: rest) = scalarLines rest ∨
      leaves ((key, v) :: rest) = [(key, .leaf v)] ++ leaves rest ∧
        scalarLines ((key, v) :: rest) = (do
          let line := s!"{keyText key} = {← scalarText v}"
          .ok (line :: (← scalarLines rest))) := by
  cases v with
  | null => exact Or.inl ⟨rfl, rfl⟩
  | object => exact Or.inl ⟨rfl, rfl⟩
  | bool => exact Or.inr ⟨rfl, rfl⟩
  | number => exact Or.inr ⟨rfl, rfl⟩
  | string => exact Or.inr ⟨rfl, rfl⟩
  | array => exact Or.inr ⟨rfl, rfl⟩

theorem runs_leaves {lines : List String} (hlines : scalarLines members = .ok lines)
    (h : Gained path (leaves members) root after) : Runs ⟨root, path⟩ lines ⟨after, path⟩ := by
  induction members generalizing lines root with
  | nil =>
    cases hlines
    rw [h.eq_of_nil]
    exact .nil _
  | cons member rest ih =>
    obtain ⟨key, v⟩ := member
    rcases leaves_cases key v rest with ⟨hleaves, hsame⟩ | ⟨hleaves, hmore⟩
    · rw [hleaves] at h
      rw [hsame] at hlines
      exact ih hlines h
    · rw [hmore] at hlines
      obtain ⟨text, htext, hlater⟩ := bind_eq_ok hlines
      obtain ⟨texts, htexts, hdone⟩ := bind_eq_ok hlater
      cases hdone
      rw [hleaves] at h
      obtain ⟨mid, hfirst, hrest⟩ := h.append
      exact .cons (takes_leaf htext hfirst) (ih htexts hrest)

theorem leaves_eq_nil_iff {lines : List String} (hlines : scalarLines members = .ok lines) :
    leaves members = [] ↔ lines = [] := by
  induction members generalizing lines with
  | nil =>
    cases hlines
    simp [leaves, scalars]
  | cons member rest ih =>
    obtain ⟨key, v⟩ := member
    rcases leaves_cases key v rest with ⟨hleaves, hsame⟩ | ⟨hleaves, hmore⟩
    · rw [hsame] at hlines
      rw [hleaves]
      exact ih hlines
    · rw [hmore] at hlines
      obtain ⟨text, -, hlater⟩ := bind_eq_ok hlines
      obtain ⟨texts, -, hdone⟩ := bind_eq_ok hlater
      cases hdone
      rw [hleaves]
      simp

theorem mem_keys_leaves {key : String} (hkey : key ∈ Entries.keys (leaves members)) :
    key ∈ Entries.keys members := by
  induction members with
  | nil => exact hkey
  | cons member rest ih =>
    obtain ⟨name, v⟩ := member
    rcases leaves_cases name v rest with ⟨hleaves, -⟩ | ⟨hleaves, -⟩
    · rw [hleaves] at hkey
      exact List.mem_cons_of_mem _ (ih hkey)
    · rw [hleaves] at hkey
      rcases List.mem_cons.mp hkey with rfl | hmem
      · exact List.mem_cons_self
      · exact List.mem_cons_of_mem _ (ih hmem)

theorem branches_of_ne {member : String × Value}
    (hmember : ∀ key inner, member = (key, .object inner) → False)
    (rest : List (String × Value)) : branches (member :: rest) = branches rest := by
  rw [branches]
  exact hmember

theorem mem_keys_branches {key : String} (hkey : key ∈ Entries.keys (branches members)) :
    ∃ inner, (key, .object inner) ∈ members := by
  induction members with
  | nil =>
    rw [branches] at hkey
    cases hkey
  | cons member rest ih =>
    by_cases hmember : ∃ name inner, member = (name, .object inner)
    · obtain ⟨name, inner, rfl⟩ := hmember
      rw [branches] at hkey
      rcases List.mem_cons.mp hkey with rfl | hmem
      · exact ⟨inner, List.mem_cons_self⟩
      · obtain ⟨found, hfound⟩ := ih hmem
        exact ⟨found, List.mem_cons_of_mem _ hfound⟩
    · rw [branches_of_ne (fun name inner hsame => hmember ⟨name, inner, hsame⟩)] at hkey
      obtain ⟨found, hfound⟩ := ih hkey
      exact ⟨found, List.mem_cons_of_mem _ hfound⟩

theorem nodup_keys_node (hkeys : (Entries.keys members).Nodup) :
    (Entries.keys (leaves members ++ branches members)).Nodup := by
  induction members with
  | nil =>
    rw [branches]
    exact List.nodup_nil
  | cons member rest ih =>
    obtain ⟨name, v⟩ := member
    have hname : name ∉ Entries.keys rest := (List.nodup_cons.mp hkeys).1
    have hrest := ih (List.nodup_cons.mp hkeys).2
    have hfresh : name ∉ Entries.keys (leaves rest ++ branches rest) := by
      unfold Entries.keys
      rw [List.map_append, List.mem_append]
      rintro (hmem | hmem)
      · exact hname (mem_keys_leaves hmem)
      · obtain ⟨inner, hinner⟩ := mem_keys_branches hmem
        exact hname (List.mem_map_of_mem hinner)
    have hcons : (name :: Entries.keys (leaves rest ++ branches rest)).Nodup :=
      List.nodup_cons.mpr ⟨hfresh, hrest⟩
    by_cases hmember : ∃ inner, v = .object inner
    · obtain ⟨inner, rfl⟩ := hmember
      have hleaves : leaves ((name, .object inner) :: rest) = leaves rest := rfl
      rw [hleaves, branches]
      unfold Entries.keys at hcons ⊢
      rw [List.map_append] at hcons
      rw [List.map_append, List.map_cons, List.nodup_middle]
      exact hcons
    · have hbranches : branches ((name, v) :: rest) = branches rest :=
        branches_of_ne (fun _ inner hsame => hmember ⟨inner, (Prod.mk.inj hsame).2⟩) rest
      rw [hbranches]
      rcases leaves_cases name v rest with ⟨hleaves, -⟩ | ⟨hleaves, -⟩
      · rw [hleaves]
        exact hrest
      · rw [hleaves, List.append_assoc]
        exact hcons

/-- The tables among some members are written and read. -/
def Written (path : List String) (members : List (String × Value)) : Prop :=
  ∀ blocks root after current, innerBlocks path members = .ok blocks →
    Gained path (branches members) root after →
    ∃ later, Runs ⟨root, current⟩ blocks.flatten ⟨after, later⟩

theorem runs_table {key : String} {inner : List (String × Value)} {blocks : List (List String)}
    (hinner : Written (path ++ [key]) inner) (hkeys : (Entries.keys inner).Nodup)
    (hseen : inner = [] ∨ leaves inner ++ branches inner ≠ [])
    (hblocks : tableBlocks (path ++ [key]) inner = .ok blocks)
    (h : Gained path [(key, .table (originOf inner) (leaves inner ++ branches inner))] root after)
    (current : List String) : ∃ later, Runs ⟨root, current⟩ blocks.flatten ⟨after, later⟩ := by
  have hnodup := nodup_keys_node hkeys
  rw [tableBlocks] at hblocks
  obtain ⟨lines, hlines, hrest⟩ := bind_eq_ok hblocks
  obtain ⟨inners, hinners, hdone⟩ := bind_eq_ok hrest
  cases hdone
  have hnil := leaves_eq_nil_iff hlines
  unfold originOf at h
  unfold block
  rw [if_neg (by simp)]
  by_cases hpassing : leaves inner = [] ∧ inner ≠ []
  · obtain ⟨hleaves, hne⟩ := hpassing
    have hbranches : branches inner ≠ [] := by
      rw [hleaves, List.nil_append] at hseen
      exact hseen.resolve_left hne
    rw [if_pos ⟨hleaves, hne⟩, hleaves, List.nil_append] at h
    rw [hleaves, List.nil_append] at hnodup
    have hlines : lines.isEmpty = true ∧ (!inner.isEmpty) = true := by
      simp [hnil.mp hleaves, hne]
    rw [if_pos hlines, List.nil_append]
    exact hinner inners root after current hinners (h.pass hbranches hnodup)
  · rw [if_neg hpassing] at h
    obtain ⟨mid, hscalars, htables⟩ := h.fill hnodup
    have hfront : (Entries.keys ([] ++ leaves inner)).Nodup := by
      unfold Entries.keys at hnodup ⊢
      rw [List.map_append] at hnodup
      exact (List.nodup_append.mp hnodup).1
    have hempty : Gained path [(key, .table .header ([] ++ leaves inner))] root mid := hscalars
    obtain ⟨opened, hopen, hfilled⟩ := hempty.fill hfront
    have hheaded : ¬(lines.isEmpty = true ∧ (!inner.isEmpty) = true) := by
      rintro ⟨hempty, hne⟩
      exact hpassing ⟨hnil.mpr (List.isEmpty_iff.mp hempty), by simpa using hne⟩
    obtain ⟨later, hruns⟩ := hinner inners mid after (path ++ [key]) hinners htables
    rw [if_neg hheaded, List.flatten_append, List.flatten_singleton]
    exact ⟨later, (Runs.cons (runs_header hopen) (runs_leaves hlines hfilled)).append hruns⟩

theorem Writable.tail {member : String × Value} (h : Writable (member :: members)) :
    Writable members := by
  obtain ⟨hkeys, hinner, hseen⟩ := h
  exact .members (List.nodup_cons.mp hkeys).2
    (fun key inner hmem => hinner key inner (List.mem_cons_of_mem _ hmem))
    fun key inner hmem => hseen key inner (List.mem_cons_of_mem _ hmem)

/-- The tables of a document, whatever stands in them and however deep. -/
theorem written_of_writable (hmembers : Writable members) (path : List String) :
    Written path members := by
  refine innerBlocks.induct (fun path members => Writable members → Written path members)
    (fun path members => Writable members → Written path members) (fun _ _ h => h) ?_ ?_ ?_
    path members hmembers
  · intro path _ blocks root after current hblocks h
    rw [innerBlocks] at hblocks
    cases hblocks
    rw [branches] at h
    rw [h.eq_of_nil]
    exact ⟨current, .nil _⟩
  · intro path key inner rest htable hrest hmembers blocks root after current hblocks h
    rw [innerBlocks] at hblocks
    obtain ⟨first, hfirst, hlater⟩ := bind_eq_ok hblocks
    obtain ⟨others, hothers, hdone⟩ := bind_eq_ok hlater
    cases hdone
    rw [branches] at h
    have hboth : Gained path ([(key, .table (originOf inner) (leaves inner ++ branches inner))] ++
      branches rest) root after := h
    obtain ⟨mid, hown, hmore⟩ := hboth.append
    obtain ⟨hinner, hseen⟩ : Writable inner ∧
        (inner = [] ∨ leaves inner ++ branches inner ≠ []) := by
      obtain ⟨-, hinner, hseen⟩ := hmembers
      exact ⟨hinner key inner List.mem_cons_self, hseen key inner List.mem_cons_self⟩
    have hkeys : (Entries.keys inner).Nodup := by
      obtain ⟨hkeys, -, -⟩ := hinner
      exact hkeys
    obtain ⟨between, hruns⟩ := runs_table (htable hinner) hkeys hseen hfirst hown current
    obtain ⟨later, hthen⟩ := hrest hmembers.tail others mid after between hothers hmore
    rw [List.flatten_append]
    exact ⟨later, hruns.append hthen⟩
  · intro path member rest hmember hrest hmembers blocks root after current hblocks h
    rw [innerBlocks] at hblocks
    · rw [branches_of_ne hmember] at h
      exact hrest hmembers.tail blocks root after current hblocks h
    · exact hmember

/-- All lines of a document lead from nothing to its tables. -/
theorem runs_blocks {blocks : List (List String)} (hmembers : Writable members)
    (hblocks : tableBlocks [] members = .ok blocks) :
    ∃ current, Runs ⟨[], []⟩ blocks.flatten ⟨leaves members ++ branches members, current⟩ := by
  have hnodup : (Entries.keys (leaves members ++ branches members)).Nodup := by
    obtain ⟨hkeys, -, -⟩ := hmembers
    exact nodup_keys_node hkeys
  have hall : Gained [] (leaves members ++ branches members) []
      (leaves members ++ branches members) := by
    by_cases hnone : leaves members ++ branches members = []
    · rw [hnone]
      exact gained_nil [] []
    · exact (gained_iff hnone).mpr (.here ⟨rfl, hnodup⟩)
  rw [tableBlocks] at hblocks
  obtain ⟨lines, hlines, hrest⟩ := bind_eq_ok hblocks
  obtain ⟨inners, hinners, hdone⟩ := bind_eq_ok hrest
  cases hdone
  obtain ⟨mid, hscalars, htables⟩ := hall.append
  obtain ⟨current, hruns⟩ := written_of_writable hmembers [] inners mid _ [] hinners htables
  have hown : (block [] members lines).flatten = lines := by
    unfold block
    rw [if_pos List.isEmpty_nil]
    cases lines with
    | nil => rfl
    | cons text texts => simp
  rw [List.flatten_append, hown]
  exact ⟨current, (runs_leaves hlines hscalars).append hruns⟩

end Blocks

section Texts

/-- Lines one after the other in a text, which may have empty lines between them. -/
inductive Laid : List String → List Char → Prop where
  | nil : Laid [] []
  | blank {texts : List String} {cs : List Char} (hrest : Laid texts cs) : Laid texts ('\n' :: cs)
  | line {texts : List String} {cs : List Char} (text : String) (hrest : Laid texts cs) :
    Laid (text :: texts) (text.toList ++ '\n' :: cs)

theorem Laid.join {rest : List String} {cs : List Char} (hrest : Laid rest cs)
    (texts : List String) :
    Laid (texts ++ rest) ((String.join (texts.map (· ++ "\n"))).toList ++ cs) := by
  induction texts with
  | nil => exact hrest
  | cons text texts ih =>
    have hcs : (String.join ((text :: texts).map (· ++ "\n"))).toList ++ cs = text.toList ++
        '\n' :: ((String.join (texts.map (· ++ "\n"))).toList ++ cs) := by
      simp
    rw [hcs]
    exact .line text ih

theorem laid_blocks (blocks : List (List String)) :
    Laid blocks.flatten ("\n".intercalate
      (blocks.map fun lines => String.join (lines.map (· ++ "\n")))).toList := by
  induction blocks with
  | nil =>
    rw [List.map_nil, String.intercalate_nil]
    exact .nil
  | cons lines blocks ih =>
    by_cases hlast : blocks = []
    · subst hlast
      have hlaid := Laid.nil.join lines
      rw [List.append_nil, List.append_nil] at hlaid
      rw [List.map_singleton, String.intercalate_singleton, List.flatten_singleton]
      exact hlaid
    · have hmore : (blocks.map fun lines => String.join (lines.map (· ++ "\n"))) ≠ [] := by
        simpa using hlast
      rw [List.map_cons, String.intercalate_cons_of_ne_nil hmore, String.toList_append,
        String.toList_append, List.append_assoc, List.flatten_cons]
      exact (Laid.blank ih).join lines

theorem Opens.not_isBlank {c : Char} (hc : Opens c) : isBlank c = false := by
  rcases hc with rfl | hopens
  · decide
  · exact isBlank_of_opens hopens

theorem Opens.ne {c d : Char} (hc : Opens c)
    (hd : d ≠ '[' ∧ d ≠ '"' ∧ d ≠ '\'' ∧ isBareKey d = false) : c ≠ d := by
  rintro rfl
  rcases hc with rfl | rfl | rfl | hbare
  · exact hd.1 rfl
  · exact hd.2.1 rfl
  · exact hd.2.2.1 rfl
  · rw [hd.2.2.2] at hbare
    cases hbare

theorem skipLines_of_opens {c : Char} (hc : Opens c) (fuel : Nat) (cs : List Char) :
    skipLines fuel (c :: cs) = c :: cs := by
  cases fuel with
  | zero => rfl
  | succ fuel =>
    have hcomment : skipComment (c :: cs) = c :: cs := by
      unfold skipComment
      split
      · rename_i heq
        exact absurd (List.cons.inj heq).1 (hc.ne (by decide))
      · rfl
    have hbreak : lineBreak? (c :: cs) = none := by
      unfold lineBreak?
      split
      · rename_i heq
        exact absurd (List.cons.inj heq).1 (hc.ne (by decide))
      · rename_i heq
        exact absurd (List.cons.inj heq).1 (hc.ne (by decide))
      · rfl
    unfold skipLines
    rw [skipBlank_of_not_isBlank hc.not_isBlank, hcomment]
    dsimp only
    rw [hbreak]

variable {texts : List String} {cs : List Char} {draft after : Draft}

theorem document_of_laid (hlaid : Laid texts cs) (hruns : Runs draft texts after) (fuel : Nat)
    (hfuel : cs.length < fuel) : document fuel draft cs = .ok after.root := by
  induction hlaid generalizing draft fuel with
  | nil =>
    obtain ⟨fuel, rfl⟩ := Nat.exists_eq_succ_of_ne_zero (Nat.ne_zero_of_lt hfuel)
    cases hruns
    rfl
  | @blank texts cs _ ih =>
    obtain ⟨fuel, rfl⟩ := Nat.exists_eq_succ_of_ne_zero (Nat.ne_zero_of_lt hfuel)
    have hsame : document (fuel + 1) draft ('\n' :: cs) = document (fuel + 1) draft cs := rfl
    rw [hsame]
    exact ih hruns (fuel + 1) (Nat.lt_of_succ_lt hfuel)
  | @line texts cs text _ ih =>
    obtain ⟨fuel, rfl⟩ := Nat.exists_eq_succ_of_ne_zero (Nat.ne_zero_of_lt hfuel)
    obtain ⟨⟩ | @⟨_, mid, _, _, _, htakes, hrest⟩ := hruns
    obtain ⟨c, later, htext, hc⟩ := htakes.opens
    have hread := htakes.reads cs
    rw [List.length_append, List.length_cons] at hfuel
    have hthen := ih hrest fuel (by omega)
    unfold document
    rw [htext, List.cons_append] at hread ⊢
    rw [skipLines_of_opens hc]
    show (line draft (c :: (later ++ '\n' :: cs)) >>= fun read =>
      lineEnd read.2 >>= fun rest => document fuel read.1 rest) = _
    rw [hread]
    exact hthen

theorem tableMembers_append (first second : Table) :
    tableMembers (first ++ second) = tableMembers first ++ tableMembers second := by
  induction first with
  | nil => rfl
  | cons entry first ih =>
    obtain ⟨key, node⟩ := entry
    rw [List.cons_append, tableMembers, tableMembers, ih]
    rfl

theorem tableMembers_leaves (members : List (String × Value)) :
    tableMembers (leaves members) = scalars members := by
  unfold leaves
  induction scalars members with
  | nil => rfl
  | cons member rest ih =>
    obtain ⟨key, v⟩ := member
    rw [List.map_cons, tableMembers, ih, Node.value]

theorem tableMembers_branches (members : List (String × Value)) :
    tableMembers (branches members) = tables members := by
  induction members using branches.induct with
  | case1 => rw [branches, tables, tableMembers]
  | case2 key inner rest ihinner ihrest =>
    rw [branches, tables, tableMembers, Node.value, tableMembers_append, tableMembers_leaves,
      ihinner, ihrest]
  | case3 member rest hmember ih =>
    rw [branches_of_ne hmember, ih, tables]
    exact hmember

/-- The text of a document begins with a line, an empty line or nothing. -/
theorem ne_mark_of_laid (hlaid : Laid texts cs) (hruns : Runs draft texts after)
    (later : List Char) : cs ≠ '\ufeff' :: later := by
  rintro rfl
  generalize hcs : '\ufeff' :: later = cs at hlaid
  cases hlaid with
  | nil => cases hcs
  | blank => cases hcs
  | line text =>
    cases hruns with
    | cons htakes =>
      obtain ⟨c, front, htext, hc⟩ := htakes.opens
      rw [htext] at hcs
      exact hc.ne (by decide) (List.cons.inj hcs).1.symm

/-- What is printed is read back. -/
theorem parse_print {members : List (String × Value)} {text : String}
    (hmembers : Writable members) (htext : print members = .ok text) :
    parse text = .ok (scalars members ++ tables members) := by
  unfold print at htext
  obtain ⟨blocks, hblocks, hdone⟩ := bind_eq_ok htext
  obtain ⟨current, hruns⟩ := runs_blocks hmembers hblocks
  have hlaid := laid_blocks blocks
  cases hdone
  generalize "\n".intercalate
    (blocks.map fun lines => String.join (lines.map (· ++ "\n"))) = text at hlaid
  have hread := document_of_laid hlaid hruns (text.toList.length + 1) (Nat.lt_succ_self _)
  unfold parse
  split
  · rename_i later heq
    exact absurd heq (ne_mark_of_laid hlaid hruns later)
  · show (document (text.toList.length + 1) ⟨[], []⟩ text.toList >>= fun root =>
      .ok (tableMembers root)) = _
    rw [hread]
    show Except.ok (tableMembers (leaves members ++ branches members)) = _
    rw [tableMembers_append, tableMembers_leaves, tableMembers_branches]

end Texts

end Toml

end ZigbeeBridge
