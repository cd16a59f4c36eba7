import ZigbeeBridge.Proofs.Config.Profile

/-!
A configuration that was saved is loaded again as it was, but for one field: where no profile is
the usual one, the built-in layer names it.
-/
namespace ZigbeeBridge

open Data Bridge

section Members

/-- The tables of the profiles, each under its name. -/
def profileTables (profiles : Entries Profile) : Entries Value :=
  profiles.map fun entry => (entry.1, entry.2.value)

variable {profiles : Entries Profile}

theorem keys_profileTables (profiles : Entries Profile) :
    Entries.keys (profileTables profiles) = Entries.keys profiles := by
  unfold profileTables Entries.keys
  rw [List.map_map]
  rfl

theorem tables_profileTables (profiles : Entries Profile) :
    Toml.tables (profileTables profiles) =
      profiles.map fun entry => (entry.1, .object (Toml.scalars entry.2.value.members)) := by
  induction profiles with
  | nil => exact Toml.tables.eq_1
  | cons entry rest ih =>
    show Toml.tables ((entry.1, .object entry.2.value.members) :: profileTables rest) = _
    rw [Toml.tables, (flat_profile entry.2).tables, ih, List.append_nil]
    rfl

theorem scalars_profileTables (profiles : Entries Profile) :
    Toml.scalars (profileTables profiles) = [] := by
  induction profiles with
  | nil => rfl
  | cons entry rest ih => exact ih

theorem writable_profileTables (hnames : (Entries.keys profiles).Nodup) :
    Toml.Writable (profileTables profiles) := by
  have hentry : ∀ key inner, (key, .object inner) ∈ profileTables profiles →
      ∃ p : Profile, inner = p.value.members := by
    intro key inner hmem
    obtain ⟨entry, -, hsame⟩ := List.mem_map.mp hmem
    refine ⟨entry.2, ?_⟩
    have hvalue := (Prod.mk.inj hsame).2
    exact (Value.object.inj hvalue).symm
  refine .members (by rwa [keys_profileTables]) (fun key inner hmem => ?_) fun key inner hmem => ?_
  · obtain ⟨p, rfl⟩ := hentry key inner hmem
    exact (flat_profile p).writable (nodup_keys_profile p)
  · obtain ⟨p, rfl⟩ := hentry key inner hmem
    exact Or.inr (List.cons_ne_nil _ _)

theorem writable_config (c : Config) (hnames : (Entries.keys c.profiles).Nodup) :
    Toml.Writable c.value.members := by
  have hkeys : (Entries.keys c.value.members).Nodup := by
    have hkeys : Entries.keys c.value.members = ["default_profile", "defaults", "profiles"] := rfl
    rw [hkeys]
    decide
  have hentry : ∀ key inner, (key, .object inner) ∈ c.value.members →
      inner = c.defaults.value.members ∨ inner = profileTables c.profiles := by
    intro key inner hmem
    rcases List.mem_cons.mp hmem with hsame | hmem
    · exact absurd (Prod.mk.inj hsame).2 (object_ne_ofOption (fun _ => Value.noConfusion) _)
    rcases List.mem_cons.mp hmem with hsame | hmem
    · exact Or.inl (Value.object.inj (Prod.mk.inj hsame).2)
    · have hsame := List.mem_singleton.mp hmem
      exact Or.inr (Value.object.inj (Prod.mk.inj hsame).2)
  refine .members hkeys (fun key inner hmem => ?_) fun key inner hmem => ?_
  · rcases hentry key inner hmem with rfl | rfl
    · exact (flat_defaults c.defaults).writable (nodup_keys_defaults c.defaults)
    · exact writable_profileTables hnames
  · rcases hentry key inner hmem with rfl | rfl
    · exact Or.inr (List.cons_ne_nil _ _)
    · cases hprofiles : c.profiles with
      | nil => exact Or.inl rfl
      | cons entry rest =>
        right
        show Toml.leaves _ ++ Toml.branches ((entry.1, .object entry.2.value.members) ::
          profileTables rest) ≠ []
        rw [Toml.branches]
        simp

/-- What is read from the text of a configuration. -/
def savedMembers (c : Config) : Entries Value :=
  (c.defaultProfile.map fun name => ("default_profile", Value.string name)).toList ++
    [("defaults", c.defaults.value),
      ("profiles", .object (c.profiles.map fun entry =>
        (entry.1, .object (Toml.scalars entry.2.value.members))))]

theorem parse_text {c : Config} (hnames : (Entries.keys c.profiles).Nodup) {text : String}
    (htext : c.text = .ok text) : Toml.parse text = .ok (savedMembers c) := by
  have hprint : Toml.print c.value.members = .ok text := by
    unfold Config.text Config.toml at htext
    cases hprint : Toml.print c.value.members with
    | error e =>
      rw [hprint] at htext
      cases htext
    | ok written =>
      rw [hprint] at htext
      cases htext
      rfl
  have htables : Toml.tables c.value.members =
      [("defaults", .object (Toml.scalars c.defaults.value.members ++
        Toml.tables c.defaults.value.members)),
        ("profiles", .object (Toml.scalars (profileTables c.profiles) ++
          Toml.tables (profileTables c.profiles)))] := by
    show Toml.tables (("default_profile", Value.ofOption .string c.defaultProfile) ::
      ("defaults", .object c.defaults.value.members) ::
      ("profiles", .object (profileTables c.profiles)) :: []) = _
    rw [Toml.tables, Toml.tables, Toml.tables, Toml.tables]
    intro key inner hsame
    exact object_ne_ofOption (fun _ => Value.noConfusion) _ (Prod.mk.inj hsame).2.symm
  have hscalars : Toml.scalars c.value.members =
      (c.defaultProfile.map fun name => ("default_profile", Value.string name)).toList := by
    show Toml.scalars (("default_profile", Value.ofOption .string c.defaultProfile) ::
      ("defaults", .object c.defaults.value.members) ::
      ("profiles", .object (profileTables c.profiles)) :: []) = _
    rw [scalars_cons]
    cases c.defaultProfile with
    | none => rfl
    | some name => rfl
  rw [Toml.parse_print (writable_config c hnames) hprint, hscalars, htables,
    (flat_defaults c.defaults).tables, scalars_profileTables, tables_profileTables,
    List.append_nil]
  rfl

end Members

section Loading

variable {c : Config} {shown : String}

/-- What all layers hold together, where the environment holds nothing. -/
def mergedSaved (c : Config) : Value :=
  .object [("default_profile", .string (c.defaultProfile.getD "default")),
    ("defaults", sorted c.defaults.value),
    ("profiles", .object (c.profiles.map fun entry =>
      (entry.1, .object (settled entry.2.value.members))))]

theorem ordered_map {α : Type} {entries : Entries α} (h : entries.Ordered)
    (f : String × α → Value) : Entries.Ordered (entries.map fun entry => (entry.1, f entry)) := by
  have hkeys : Entries.keys (entries.map fun entry => (entry.1, f entry)) = entries.keys := by
    unfold Entries.keys
    rw [List.map_map]
    rfl
  unfold Entries.Ordered
  rw [hkeys]
  exact h

theorem overlay_profiles (hnames : c.profiles.Ordered) :
    overlay (.object []) (sorted (.object (c.profiles.map fun entry =>
      (entry.1, .object (Toml.scalars entry.2.value.members))))) =
    .object (c.profiles.map fun entry => (entry.1, .object (settled entry.2.value.members))) := by
  have hordered := ordered_map hnames fun entry =>
    .object (Toml.scalars entry.2.value.members)
  show Value.object (overlayMembers [] (sortedMembers _)) = _
  rw [sortedMembers_of_ordered hordered, List.map_map]
  have hagain := ordered_map hnames fun entry =>
    sorted (.object (Toml.scalars entry.2.value.members))
  rw [overlayMembers_of_above hagain, List.nil_append, List.map_map]
  rfl

theorem merged_saved (hnames : c.profiles.Ordered) :
    merged [Layer.builtIn, ⟨.file shown, sorted (.object (savedMembers c))⟩,
      ⟨.environment, .object []⟩] = mergedSaved c := by
  have hprofiles := overlay_profiles hnames
  unfold mergedSaved savedMembers
  rw [← hprofiles]
  cases c.defaultProfile with
  | none => rfl
  | some name => rfl

theorem load_profiles (profiles : Entries Profile) (path : List String) :
    Load.profiles path (profiles.map fun entry =>
      (entry.1, .object (settled entry.2.value.members))) = .ok profiles := by
  induction profiles with
  | nil => rfl
  | cons entry rest ih =>
    obtain ⟨name, p⟩ := entry
    have hpresence : Shape.checkPresence (settled p.value.members)
        (Profile.shape .named).fields = .ok () := by
      have haddress : Entries.get? (settled p.value.members) "address" =
        some (.string p.address) := get?_settled (nodup_keys_profile p) "address"
      simp [Profile.shape, Shape.checkPresence, Field.required, Field.optional, Field.defaulted,
        haddress]
    have hrecord := record_settled (fits_profile p) (nodup_keys_profile p)
      (fun _ => mem_settled) hpresence (path ++ [name])
    show (Load.record (Profile.shape .named) (path ++ [name]) (.object _) >>= fun ms =>
      Load.profiles path _ >>= fun later => .ok ((name, Profile.ofMembers .named ms) :: later)) = _
    rw [hrecord, ih]
    show Except.ok ((name, Profile.ofMembers .named (settled p.value.members)) :: rest) = _
    rw [profile_settled]

theorem load_mergedSaved (c : Config) : Load.config (mergedSaved c) =
    .ok { c with defaultProfile := some (c.defaultProfile.getD "default") } := by
  have hdefaults : Load.record Defaults.shape ["defaults"] (sorted c.defaults.value) =
      .ok (sorted c.defaults.value).members := by
    have hplain : ∀ member ∈ c.defaults.value.members, held member.2 = some member.2 := by
      intro member hmem
      have hscalar : member ∈ Toml.scalars c.defaults.value.members := hmem
      exact (mem_scalars hscalar).2
    exact record_settled (fits_defaults c.defaults) (nodup_keys_defaults c.defaults)
      (fun _ => mem_sorted_scalars hplain) rfl ["defaults"]
  have hprofiles := load_profiles c.profiles ["profiles"]
  have hback := defaults_sorted c.defaults
  show (Load.record Defaults.shape ["defaults"] (sorted c.defaults.value) >>= fun defaults =>
    Load.profiles ["profiles"] _ >>= fun profiles =>
      .ok (Config.mk (some (c.defaultProfile.getD "default")) (.ofMembers defaults) profiles)) = _
  rw [hdefaults, hprofiles]
  show Except.ok (Config.mk _ (Defaults.ofMembers (sorted c.defaults.value).members) _) = _
  rw [hback]

theorem ofVariables_eq {environment : Entries String}
    (henvironment : ∀ entry ∈ environment, Variable.path? entry.1 = none) :
    Layer.ofVariables environment = ⟨.environment, .object []⟩ := by
  have hnone : environment.filterMap (fun entry => (Variable.path? entry.1).map fun path =>
      Variable.nest path (Variable.ofText entry.2)) = [] := by
    rw [List.filterMap_eq_nil_iff]
    intro entry hentry
    rw [henvironment entry hentry, Option.map_none]
  unfold Layer.ofVariables
  rw [hnone]
  rfl

theorem ordered_usual : Config.usual.profiles.Ordered := List.Pairwise.nil

/-- Profiles that are added find their place among the names. -/
theorem ordered_putProfile (hnames : c.profiles.Ordered) (name : String) (p : Profile) :
    (c.putProfile name p).profiles.Ordered :=
  Entries.ordered_putSorted hnames name p

/-- Whatever was saved is loaded from the text of the file as it was, where no variable of the
environment is meant for it. Where the configuration names no usual profile, the built-in name
takes its place: what the file leaves out is not left out by the layer below. -/
theorem loadConfig_text (c : Config) (hnames : c.profiles.Ordered) {text : String}
    (htext : c.text = .ok text) (shown : String) (environment : Entries String)
    (henvironment : ∀ entry ∈ environment, Variable.path? entry.1 = none) :
    loadConfig shown (some text) environment =
      .ok { c with defaultProfile := some (c.defaultProfile.getD "default") } := by
  have hparse := parse_text hnames.nodup htext
  have hlayer : Load.fileLayer shown text =
      .ok ⟨.file shown, sorted (.object (savedMembers c))⟩ := by
    unfold Load.fileLayer
    rw [hparse]
  unfold loadConfig
  rw [ofVariables_eq henvironment]
  show (Load.fileLayer shown text >>= fun layer =>
    (Load.config (merged [Layer.builtIn, layer, ⟨.environment, .object []⟩])).mapError
      fun flaw => ConfigError.unreadable (Load.message
        [Layer.builtIn, layer, ⟨.environment, .object []⟩] flaw)) = _
  rw [hlayer]
  show (Load.config (merged [Layer.builtIn, _, _])).mapError _ = _
  rw [merged_saved hnames, load_mergedSaved]
  rfl

/-- A configuration that names no usual profile, and a token with quotes and a line break. -/
def atticProfile : Profile := { Profile.ofAddress "gw" with token := some "it's a \"key\"\n" }

def atticConfig : Config := ⟨none, .usual, [("attic", atticProfile)]⟩

def atticText : String :=
  "[defaults]\noutput = \"table\"\ntimeout = 10\nrefresh_interval = 5\n" ++
    "request_spacing_ms = 100\n\n[profiles.attic]\naddress = \"gw\"\nidentity = \"\"\n" ++
    "token = \"\"\"\nit's a \"key\"\n\"\"\"\nwebsocket = true\nitem_failure = \"abort\"\n" ++
    "insecure = false\n"

theorem text_attic : atticConfig.text = .ok atticText := by
  have hprofiles : Toml.tableBlocks ([] ++ ["profiles"])
      [("attic", .object atticProfile.value.members)] =
      (Toml.scalarLines atticProfile.value.members >>= fun lines =>
        .ok (Toml.block ["profiles", "attic"] atticProfile.value.members lines)) := by
    rw [Toml.tableBlocks, Toml.innerBlocks, Toml.innerBlocks, (flat_profile _).tableBlocks]
    rfl
  have hblocks : Toml.tableBlocks [] atticConfig.value.members =
      .ok [["[defaults]", "output = \"table\"", "timeout = 10", "refresh_interval = 5",
          "request_spacing_ms = 100"],
        ["[profiles.attic]", "address = \"gw\"", "identity = \"\"",
          "token = \"\"\"\nit's a \"key\"\n\"\"\"", "websocket = true",
          "item_failure = \"abort\"", "insecure = false"]] := by
    show Toml.tableBlocks [] [("default_profile", .null),
      ("defaults", .object Defaults.usual.value.members),
      ("profiles", .object [("attic", .object atticProfile.value.members)])] = _
    rw [Toml.tableBlocks, Toml.innerBlocks, Toml.innerBlocks, (flat_defaults _).tableBlocks,
      Toml.innerBlocks, hprofiles, Toml.innerBlocks]
    · refine (toOption_eq_some_iff _ _).mp ?_
      decide +kernel
    · rintro key inner ⟨⟩
  unfold Config.text Config.toml Toml.print
  rw [hblocks]
  refine (toOption_eq_some_iff _ _).mp ?_
  decide +kernel

theorem loadConfig_text_attic :
    atticConfig.profiles.Ordered ∧ atticConfig.text = .ok atticText ∧
      (∀ entry ∈ [("HOME", "/root")], Variable.path? entry.1 = none) ∧
        loadConfig "deconz.toml" (some atticText) [("HOME", "/root")] =
          .ok { atticConfig with defaultProfile := some "default" } :=
  ⟨List.pairwise_singleton _ _, text_attic, by decide,
    loadConfig_text atticConfig (List.pairwise_singleton _ _) text_attic "deconz.toml"
      [("HOME", "/root")] (by decide)⟩

/-- Not every configuration that was saved is loaded as it was: one without a usual profile has
one afterwards. -/
theorem not_loadConfig_text :
    ¬ ∀ (c : Config) (text shown : String) (environment : Entries String), c.profiles.Ordered →
      c.text = .ok text → (∀ entry ∈ environment, Variable.path? entry.1 = none) →
        loadConfig shown (some text) environment = .ok c := by
  intro hall
  have hload := hall atticConfig atticText "deconz.toml" [] (List.pairwise_singleton _ _)
    text_attic (by simp)
  have hother : (loadConfig "deconz.toml" (some atticText) []).toOption ≠ some atticConfig := by
    decide +kernel
  exact hother ((toOption_eq_some_iff _ _).mpr hload)

end Loading

end ZigbeeBridge
