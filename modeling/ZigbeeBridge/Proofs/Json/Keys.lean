import ZigbeeBridge.Json.Parser
import ZigbeeBridge.Proofs.Data.Entries
import ZigbeeBridge.Proofs.Data.Result

/-!
The keys of an object that was read are all different, whatever its text repeats.
-/
namespace ZigbeeBridge

open Data

namespace Json

/-- An object is put together from what stands between its braces. -/
private theorem value_object (depth : Nat) (cs rest : List Char) (members : Entries Value)
    (hvalue : value depth cs = .ok (.object members, rest)) :
    ∃ pairs, members = Entries.ofList pairs := by
  unfold value at hvalue
  split at hvalue
  · cases hvalue
  · split at hvalue
    · obtain ⟨_, -, hdone⟩ := bind_eq_ok hvalue
      cases hdone
    · obtain ⟨_, -, hdone⟩ := bind_eq_ok hvalue
      cases hdone
    · obtain ⟨_, -, hdone⟩ := bind_eq_ok hvalue
      cases hdone
    · obtain ⟨_, -, hdone⟩ := bind_eq_ok hvalue
      cases hdone
    · obtain ⟨_, -, hdone⟩ := bind_eq_ok hvalue
      cases hdone
    · split at hvalue
      · cases hvalue
      · obtain ⟨_, -, hdone⟩ := bind_eq_ok hvalue
        cases hdone
    · split at hvalue
      · cases hvalue
      · obtain ⟨⟨pairs, _⟩, -, hdone⟩ := bind_eq_ok hvalue
        cases hdone
        exact ⟨pairs, rfl⟩
    · split at hvalue
      · obtain ⟨_, -, hdone⟩ := bind_eq_ok hvalue
        cases hdone
      · cases hvalue

theorem nodup_keys_parse (text : String) (members : Entries Value)
    (hparse : parse text = .ok (.object members)) : (Entries.keys members).Nodup := by
  unfold parse at hparse
  cases hdocument : document text.toList with
  | error fault =>
    rw [hdocument] at hparse
    cases hparse
  | ok v =>
    rw [hdocument] at hparse
    cases hparse
    obtain ⟨⟨v, rest⟩, hvalue, hfinish⟩ := bind_eq_ok hdocument
    obtain ⟨_, -, hdone⟩ := bind_eq_ok hfinish
    cases hdone
    obtain ⟨pairs, hpairs⟩ := value_object maxDepth text.toList rest members hvalue
    rw [hpairs]
    exact Entries.nodup_keys_ofList pairs

end Json

end ZigbeeBridge
