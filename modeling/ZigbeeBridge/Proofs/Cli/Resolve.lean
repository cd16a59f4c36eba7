import ZigbeeBridge.Cli.Resolve

/-!
The settings that a command line works with. They are made in two passes, one over the profile and
one over the settings that come of it, and the options have a say in both. Each setting ends up
with the value of the first that has one: the options, the environment, the profile, the defaults.
Where the configuration has no such profile the options alone decide, and other errors come first.
-/
namespace ZigbeeBridge.Cli

open Data Bridge

variable (options : Options) (profile : Profile) (defaults : Defaults)
  (environment : Entries String) (name : String)

def Options.addressFor : String := options.address.getD profile.address

/-- The token in use, if there is one: that of the options, of the variable that the profile names,
or of the profile itself. -/
def Options.tokenFor : Option String :=
  options.token.or ((profile.tokenVariable.bind environment.get?).or profile.token)

/-- Each of the settings comes from the first that has it. -/
structure Effective (settings : Settings) : Prop where
  address : settings.address = options.addressFor profile
  token : options.tokenFor profile environment = some settings.token
  timeout : settings.timeoutMs =
    1000 * ((options.timeout.or profile.timeout).getD defaults.timeout).toNat
  interval : settings.refreshInterval = profile.refreshInterval.getD defaults.refreshInterval
  spacing : settings.spacingMs = (profile.spacingMs.getD defaults.spacingMs).toNat
  certificates : settings.acceptAnyCertificate = true ↔
    options.insecure = true ∨ profile.insecure = true
  identity : settings.identity = profile.identity
  push : settings.pushEnabled = profile.push
  port : settings.pushPort = profile.pushPort
  itemFailure : settings.itemFailure = profile.itemFailure

/-- What a profile comes to with the options: settings if there is an address and a token. A missing
address is told before a missing token. -/
structure Settles (result : Except Error (String × Settings)) : Prop where
  success : (∃ settings, result = .ok (name, settings)) ↔
    Text.isAllBlank (options.addressFor profile) = false ∧
      (options.tokenFor profile environment).isSome
  effective : ∀ picked settings, result = .ok (picked, settings) →
    picked = name ∧ Effective options profile defaults environment settings
  addressless : Text.isAllBlank (options.addressFor profile) = true →
    result = .error (.invalid "address" s!"profile '{name}' has no address")
  tokenless : Text.isAllBlank (options.addressFor profile) = false →
    options.tokenFor profile environment = none → result = .error (.noToken name)

/-- What the options come to without a profile: settings if they have an address and a token. A
missing token is told before an address that is blank. -/
structure SettlesAlone (config : Config) (result : Except Error (String × Settings)) : Prop where
  success : (∃ settings, result = .ok (name, settings)) ↔
    ∃ address token, options.address = some address ∧ options.token = some token ∧
      Text.isAllBlank address = false
  effective : ∀ picked settings, result = .ok (picked, settings) → picked = name ∧
    ∃ address, options.address = some address ∧
      Effective options (.ofAddress address) config.defaults environment settings
  unknown : options.address = none → options.profile.isSome = true →
    result = .error (.unknownProfile name config.profiles.keys)
  unset : options.address = none → options.profile = none →
    result = .error (.noGateway (configPath environment))
  tokenless : options.address.isSome = true → options.token = none →
    result = .error (.noToken name)
  addressless : ∀ address, options.address = some address → options.token.isSome = true →
    Text.isAllBlank address = true →
      result = .error (.invalid "address" s!"profile '{name}' has no address")

section Passes

/-- The token that the first pass finds: the options have their say only after the environment. -/
def Options.firstToken : Option String :=
  (profile.tokenVariable.bind environment.get?).or (options.token.or profile.token)

theorem isSome_firstToken :
    (options.firstToken profile environment).isSome =
      (options.tokenFor profile environment).isSome := by
  unfold Options.firstToken Options.tokenFor
  cases options.token <;> cases profile.tokenVariable.bind environment.get? <;> rfl

theorem tokenFor_of_firstToken {token : String}
    (htoken : options.firstToken profile environment = some token) :
    options.tokenFor profile environment = some (options.token.getD token) := by
  unfold Options.firstToken at htoken
  unfold Options.tokenFor
  cases hflag : options.token with
  | none =>
    rw [hflag] at htoken
    exact htoken
  | some flag => rfl

theorem effective_adjust {token : String}
    (htoken : options.firstToken profile environment = some token) :
    Effective options profile defaults environment
      (options.adjust ((options.apply profile).settingsWith defaults token)) where
  address := rfl
  token := tokenFor_of_firstToken options profile environment htoken
  timeout := by
    unfold Options.adjust Options.apply Profile.settingsWith
    cases options.timeout with
    | none | some => rfl
  interval := rfl
  spacing := rfl
  certificates := by simp [Options.adjust, Options.apply, Profile.settingsWith, or_comm]
  identity := rfl
  push := rfl
  port := rfl
  itemFailure := rfl

theorem resolveToken_eq :
    profile.resolveToken name environment =
      ((profile.tokenVariable.bind environment.get?).or profile.token).elim
        (.error (.noToken name)) .ok := by
  unfold Profile.resolveToken
  cases (profile.tokenVariable.bind environment.get?).or profile.token <;> rfl

theorem settingsOf_apply :
    settingsOf options defaults environment name (options.apply profile) =
      if Text.isAllBlank (options.addressFor profile) then
        .error (.invalid "address" s!"profile '{name}' has no address")
      else (options.firstToken profile environment).elim (.error (.noToken name)) fun token =>
        .ok (options.adjust ((options.apply profile).settingsWith defaults token)) := by
  have hblank : (options.apply profile).hasAddress =
      !Text.isAllBlank (options.addressFor profile) := rfl
  have htoken : (options.apply profile).resolveToken name environment =
      (options.firstToken profile environment).elim (.error (.noToken name)) .ok :=
    resolveToken_eq (options.apply profile) environment name
  unfold settingsOf Profile.settings
  rw [hblank, htoken]
  cases Text.isAllBlank (options.addressFor profile) with
  | true => rfl
  | false => cases options.firstToken profile environment <;> rfl

theorem settles_apply :
    Settles options profile defaults environment name
      ((settingsOf options defaults environment name (options.apply profile)).map (name, ·)) := by
  have hsome := isSome_firstToken options profile environment
  rw [settingsOf_apply]
  cases hblank : Text.isAllBlank (options.addressFor profile) with
  | true => constructor <;> simp [hblank, Except.map]
  | false =>
    cases htoken : options.firstToken profile environment with
    | none =>
      have hnone : options.tokenFor profile environment = none := by
        rw [htoken] at hsome
        simpa using hsome.symm
      constructor <;> simp [hblank, hnone, Except.map]
    | some token =>
      have heffective := effective_adjust options profile defaults environment htoken
      constructor
      · simp [hblank, heffective.token, Except.map]
      · rintro picked settings hok
        cases hok
        exact ⟨rfl, heffective⟩
      · simp [hblank]
      · simp [heffective.token]

end Passes

section Resolving

variable (config : Config)

def chosenProfile : Except Error Profile :=
  match config.profiles.get? (config.profileName options.profile) with
  | some profile => .ok (options.apply profile)
  | none => profileOf options config (configPath environment) (config.profileName options.profile)

theorem resolve_eq :
    resolve options config environment =
      (chosenProfile options environment config).bind fun profile =>
        (settingsOf options config.defaults environment (config.profileName options.profile)
          profile).map (config.profileName options.profile, ·) := by
  have hpure : ∀ result : Except Error Settings,
      (do .ok (config.profileName options.profile, ← result)) =
        result.map (config.profileName options.profile, ·) := by
    intro result
    cases result <;> rfl
  unfold resolve chosenProfile
  simp only [hpure]
  cases config.profiles.get? (config.profileName options.profile) <;> rfl

theorem settles_resolve
    (hprofile : config.profiles.get? (config.profileName options.profile) = some profile) :
    Settles options profile config.defaults environment (config.profileName options.profile)
      (resolve options config environment) := by
  rw [resolve_eq, chosenProfile, hprofile]
  exact settles_apply options profile config.defaults environment _

section Alone

variable (hprofile : config.profiles.get? (config.profileName options.profile) = none)
include hprofile

theorem chosenProfile_of_absent :
    chosenProfile options environment config = profileOf options config (configPath environment)
      (config.profileName options.profile) := by
  rw [chosenProfile, hprofile]

/-- Options with an address and a token make a profile of no more than these. -/
theorem chosenProfile_of_flags {address token : String} (haddress : options.address = some address)
    (htoken : options.token = some token) :
    chosenProfile options environment config = .ok (options.apply (.ofAddress address)) := by
  rw [chosenProfile_of_absent options environment config hprofile]
  unfold profileOf Options.apply
  rw [haddress, htoken]
  rfl

theorem settlesAlone_resolve :
    SettlesAlone options environment (config.profileName options.profile) config
      (resolve options config environment) := by
  rw [resolve_eq]
  cases haddress : options.address with
  | none =>
    rw [chosenProfile_of_absent options environment config hprofile, profileOf, haddress]
    cases hnamed : options.profile with
    | none | some => constructor <;> simp [haddress, hnamed, Except.bind]
  | some address =>
    cases htoken : options.token with
    | none =>
      rw [chosenProfile_of_absent options environment config hprofile, profileOf, haddress, htoken]
      constructor <;> simp [haddress, htoken, Except.bind]
    | some token =>
      have hsettles := settles_apply options (.ofAddress address) config.defaults environment
        (config.profileName options.profile)
      have haddressFor : options.addressFor (.ofAddress address) = address := by
        rw [Options.addressFor, haddress, Option.getD_some]
      have htokenFor : options.tokenFor (.ofAddress address) environment = some token := by
        rw [Options.tokenFor, htoken, Option.some_or]
      rw [chosenProfile_of_flags options environment config hprofile haddress htoken]
      constructor
      · refine hsettles.success.trans ?_
        simp [haddress, htoken, haddressFor, htokenFor]
      · intro picked settings hok
        obtain ⟨hname, heffective⟩ := hsettles.effective picked settings hok
        exact ⟨hname, address, haddress, heffective⟩
      · simp [haddress]
      · simp [haddress]
      · simp [htoken]
      · rintro _ haddress' - hblank
        cases haddress.symm.trans haddress'
        exact hsettles.addressless (haddressFor.symm ▸ hblank)

end Alone

/-- The profile is that of the option, else the usual one of the configuration, else "default"; with
it the settings come from the options, the environment, the profile and the defaults in that order,
without it from the options and the defaults. -/
theorem resolve_layers :
    let name := (options.profile.or config.defaultProfile).getD "default"
    (∀ profile, config.profiles.get? name = some profile →
      config.profile options.profile = .ok (name, profile) ∧
        Settles options profile config.defaults environment name
          (resolve options config environment)) ∧
      (config.profiles.get? name = none →
        config.profile options.profile = .error (.unknownProfile name) ∧
          SettlesAlone options environment name config (resolve options config environment)) := by
  intro name
  have hpicked : config.profile options.profile =
      match config.profiles.get? name with
      | some profile => .ok (name, profile)
      | none => .error (.unknownProfile name) := rfl
  refine ⟨fun profile hprofile => ⟨?_, settles_resolve options profile environment config hprofile⟩,
    fun hprofile => ⟨?_, settlesAlone_resolve options environment config hprofile⟩⟩
  · rw [hpicked, hprofile]
  · rw [hpicked, hprofile]

end Resolving

end ZigbeeBridge.Cli
