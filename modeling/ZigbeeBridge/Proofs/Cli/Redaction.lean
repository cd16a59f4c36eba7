import Mathlib.Data.List.Forall2
import ZigbeeBridge.Cli.Program
import ZigbeeBridge.Proofs.Config.Layer
import ZigbeeBridge.Proofs.Data.Entries

/-!
What is shown of a configuration. Configurations that differ in nothing but which tokens their
profiles hold are shown alike, and no others are; what is shown differs from the configuration in
its tokens alone.
-/
namespace ZigbeeBridge

open Data

/-- Profiles that differ at most in which token they hold: both hold one or neither does. -/
structure Profile.Alike (p q : Profile) : Prop where
  token : p.token.isSome = q.token.isSome
  rest : { p with token := q.token } = q

/-- Configurations that differ at most in which tokens their profiles hold. The profiles are in the
order of their names, so that those of one name stand in one place. -/
structure Config.Alike (a b : Config) : Prop where
  defaultProfile : a.defaultProfile = b.defaultProfile
  defaults : a.defaults = b.defaults
  profiles : List.Forall₂ (fun entry other => entry.1 = other.1 ∧ entry.2.Alike other.2)
    a.profiles b.profiles

namespace Data.Entries

variable {α : Type} {entries others : Entries α}

/-- In the order of their keys, entries are what their keys find. -/
theorem Ordered.ext (hentries : entries.Ordered) (hothers : others.Ordered)
    (hget : ∀ key, entries.get? key = others.get? key) : entries = others := by
  have hperm : (keys entries).Perm (keys others) := by
    rw [List.perm_ext_iff_of_nodup hentries.nodup hothers.nodup]
    intro key
    rw [← isSome_get?_iff, ← isSome_get?_iff, hget]
  have hkeys : keys entries = keys others :=
    hperm.eq_of_pairwise (fun _ _ _ _ hlt hgt => absurd hlt (lt_asymm hgt)) hentries hothers
  exact ext_of_keys hentries.nodup hkeys hget

end Data.Entries

namespace Cli

section Profiles

variable (p q : Profile)

theorem alike_redactedProfile : p.Alike (redactedProfile p) where
  token := (Option.isSome_map ..).symm
  rest := rfl

theorem redactedProfile_eq_iff : redactedProfile p = redactedProfile q ↔ p.Alike q := by
  constructor
  · intro h
    constructor
    · have htoken := congrArg (fun shown : Profile => shown.token.isSome) h
      simpa [redactedProfile] using htoken
    · -- Under the same token what is hidden is the same as what is shown.
      exact congrArg (fun shown : Profile => { shown with token := q.token }) h
  · rintro ⟨htoken, hrest⟩
    have hmask : p.token.map (fun _ => maskedToken) = q.token.map fun _ => maskedToken := by
      cases hp : p.token <;> cases hq : q.token <;> simp_all
    calc redactedProfile p
        = { ({ p with token := q.token } : Profile) with
            token := q.token.map fun _ => maskedToken } := by rw [redactedProfile, hmask]
      _ = redactedProfile q := by rw [hrest, redactedProfile]

end Profiles

section Configs

variable (a b : Config)

theorem redacted_eq_iff : redacted a = redacted b ↔ a.Alike b := by
  have hentry : ∀ entry other : String × Profile,
      (entry.1, redactedProfile entry.2) = (other.1, redactedProfile other.2) ↔
        entry.1 = other.1 ∧ entry.2.Alike other.2 := by
    intro entry other
    rw [Prod.mk.injEq, redactedProfile_eq_iff]
  have hprofiles :
      (a.profiles.map fun entry => (entry.1, redactedProfile entry.2)) =
          (b.profiles.map fun entry => (entry.1, redactedProfile entry.2)) ↔
        List.Forall₂ (fun entry other => entry.1 = other.1 ∧ entry.2.Alike other.2)
          a.profiles b.profiles := by
    rw [← List.forall₂_eq_eq_eq, List.forall₂_map_left_iff, List.forall₂_map_right_iff]
    simp only [hentry]
  unfold redacted
  rw [Config.mk.injEq, hprofiles]
  exact ⟨fun ⟨hname, hdefaults, hrest⟩ => ⟨hname, hdefaults, hrest⟩,
    fun ⟨hname, hdefaults, hrest⟩ => ⟨hname, hdefaults, hrest⟩⟩

theorem alike_redacted : a.Alike (redacted a) where
  defaultProfile := rfl
  defaults := rfl
  profiles := by
    unfold redacted
    rw [List.forall₂_map_right_iff]
    exact List.forall₂_same.mpr fun entry _ => ⟨rfl, alike_redactedProfile entry.2⟩

theorem get?_redacted (name : String) :
    (redacted a).profiles.get? name = (a.profiles.get? name).map redactedProfile :=
  Entries.get?_map redactedProfile a.profiles name

theorem ordered_redacted (ha : a.profiles.Ordered) : (redacted a).profiles.Ordered := by
  have hkeys : (redacted a).profiles.keys = a.profiles.keys := by simp [redacted, Entries.keys]
  unfold Entries.Ordered
  rw [hkeys]
  exact ha

theorem map_redactedProfile_eq_iff (p q : Option Profile) :
    p.map redactedProfile = q.map redactedProfile ↔ Option.Rel Profile.Alike p q := by
  cases p with
  | none => cases q <;> simp
  | some p =>
    cases q with
    | none => simp
    | some q => simp [redactedProfile_eq_iff]

/-- To differ in tokens alone is to have the same names, and under each of them profiles that do. -/
theorem alike_iff_get? (ha : a.profiles.Ordered) (hb : b.profiles.Ordered) :
    a.Alike b ↔ a.defaultProfile = b.defaultProfile ∧ a.defaults = b.defaults ∧
      ∀ name, Option.Rel Profile.Alike (a.profiles.get? name) (b.profiles.get? name) := by
  have hprofiles : (redacted a).profiles = (redacted b).profiles ↔
      ∀ name, Option.Rel Profile.Alike (a.profiles.get? name) (b.profiles.get? name) := by
    simp only [← map_redactedProfile_eq_iff, ← get?_redacted]
    exact ⟨fun heq name => by rw [heq], (ordered_redacted a ha).ext (ordered_redacted b hb)⟩
  rw [← redacted_eq_iff, ← hprofiles]
  unfold redacted
  rw [Config.mk.injEq]

end Configs

/-- What is shown of a configuration depends on all of it but on which tokens it holds, in every
format. It differs from the configuration in the tokens alone, for each of which there is a mask, and
to hide the tokens once more changes nothing. -/
theorem configShow_of_alike (a b : Config) :
    (a.profiles.Ordered → b.profiles.Ordered →
      (a.Alike b ↔ a.defaultProfile = b.defaultProfile ∧ a.defaults = b.defaults ∧
        ∀ name, Option.Rel Profile.Alike (a.profiles.get? name) (b.profiles.get? name))) ∧
      (redacted a = redacted b ↔ a.Alike b) ∧
      (a.Alike b → ∀ (around around' : Surroundings) (options : Options),
        around.config = .ok a → around'.config = .ok b →
          task around options .configShow = task around' options .configShow) ∧
      a.Alike (redacted a) ∧
      (∀ entry ∈ (redacted a).profiles, ∀ token ∈ entry.2.token, token = maskedToken) ∧
      redacted (redacted a) = redacted a := by
  have hsame := alike_redacted a
  refine ⟨alike_iff_get? a b, redacted_eq_iff a b, ?_, hsame, ?_, ?_⟩
  · intro halike around around' options ha hb
    have hshown : around.shownConfig options = around'.shownConfig options := by
      unfold Surroundings.shownConfig
      rw [ha, hb]
      simp only [bind, Except.bind, (redacted_eq_iff a b).mpr halike]
    exact congrArg settled hshown
  · intro entry hentry token htoken
    obtain ⟨own, -, rfl⟩ := List.mem_map.mp hentry
    obtain ⟨secret, -, rfl⟩ := Option.map_eq_some_iff.mp htoken
    rfl
  · exact ((redacted_eq_iff a (redacted a)).mpr hsame).symm

/-- A configuration file with one profile, which holds a key. -/
def keyed (key : String) : Surroundings :=
  ⟨[], some ("[profiles.attic]\naddress = \"gw\"\ntoken = \"" ++ key ++ "\"\n"), "config.toml"⟩

def keyedConfig (key : String) : Config :=
  ⟨some "default", .usual, [("attic", { Profile.ofAddress "gw" with token := some key })]⟩

/-- Nobody sees which of two keys the file holds. -/
theorem configShow_of_alike_keys :
    (keyed "secret").config = .ok (keyedConfig "secret") ∧
      (keyed "other").config = .ok (keyedConfig "other") ∧
      keyedConfig "secret" ≠ keyedConfig "other" ∧
      (keyedConfig "secret").Alike (keyedConfig "other") ∧
      ∀ options, task (keyed "secret") options .configShow =
        task (keyed "other") options .configShow := by
  have hsecret : (keyed "secret").config = .ok (keyedConfig "secret") :=
    (toOption_eq_some_iff _ _).mp (by decide +kernel)
  have hother : (keyed "other").config = .ok (keyedConfig "other") :=
    (toOption_eq_some_iff _ _).mp (by decide +kernel)
  have hspec := configShow_of_alike (keyedConfig "secret") (keyedConfig "other")
  have halike : (keyedConfig "secret").Alike (keyedConfig "other") := hspec.2.1.mp rfl
  exact ⟨hsecret, hother, by decide, halike, fun options =>
    hspec.2.2.1 halike (keyed "secret") (keyed "other") options hsecret hother⟩

end Cli

end ZigbeeBridge
