import ZigbeeBridge.Cli.Errand

/-!
How an event looks in each of the formats. There is always something to be seen, so an event that is
printed can be told from none.
-/
namespace ZigbeeBridge.Cli

open Bus Data

variable (options : Options) (event : Event)

theorem printed_of_ne_empty (hloud : options.quiet = false) {text : String} (htext : text ≠ "") :
    Outcome.printed options text = ⟨text ++ "\n", none⟩ := by
  unfold Outcome.printed
  rw [hloud, String.isEmpty_eq_false_iff.mpr htext]
  rfl

theorem label_ne_empty (key : String) : label key ≠ "" := by
  unfold label
  simp [String.append_eq_empty_iff]

theorem intercalate_ne_empty (separator : String) {first : String} (hfirst : first ≠ "")
    (rest : List String) : separator.intercalate (first :: rest) ≠ "" := by
  cases rest with
  | nil => simpa using hfirst
  | cons second rest =>
    rw [String.intercalate_cons_cons]
    simp [String.append_eq_empty_iff, hfirst]

/-- An event with attributes takes some lines. -/
theorem eventLines_ne_empty (hattributes : event.attributes ≠ []) : eventLines event ≠ "" := by
  obtain ⟨pair, pairs, hpairs⟩ := List.exists_cons_of_ne_nil hattributes
  unfold eventLines
  rw [hpairs, List.map_cons]
  apply intercalate_ne_empty
  simp [String.append_eq_empty_iff, label_ne_empty]

theorem pretty_object_ne_empty (ms : List (String × Value)) : Json.pretty (.object ms) ≠ "" := by
  unfold Json.pretty Json.prettyAt Json.block
  split <;> simp [String.append_eq_empty_iff]

theorem compact_object_ne_empty (ms : List (String × Value)) :
    Json.compact (.object ms) ≠ "" := by
  unfold Json.compact
  simp [String.append_eq_empty_iff]

theorem print_ne_empty (v : Value) (hlines : Yaml.valueLines v ≠ []) : Yaml.print v ≠ "" := by
  obtain ⟨line, lines, hcons⟩ := List.exists_cons_of_ne_nil hlines
  unfold Yaml.print
  rw [hcons, List.map_cons, String.join_cons]
  simp [String.append_eq_empty_iff]

theorem hang_ne_nil (mark : String) (lines : List String) : Yaml.hang mark lines ≠ [] := by
  cases lines <;> exact List.cons_ne_nil _ _

theorem entryLines_ne_nil (key : String) (v : Value) (lines : List String) :
    Yaml.entryLines key v lines ≠ [] := by
  unfold Yaml.entryLines
  split
  · dsimp only
    split
    · exact hang_ne_nil _ _
    · exact List.cons_ne_nil _ _
    · exact hang_ne_nil _ _
  · exact List.append_ne_nil_of_left_ne_nil (hang_ne_nil _ _) _

/-- An event is never printed as nothing. -/
theorem render_ne_empty (format : Format) (hattributes : event.attributes ≠ []) :
    format.render (eventLines event) event.value ≠ "" := by
  cases format with
  | table => exact eventLines_ne_empty event hattributes
  | json => exact pretty_object_ne_empty _
  | jsonCompact => exact compact_object_ne_empty _
  | yaml =>
    apply print_ne_empty
    unfold Event.value Yaml.valueLines
    exact List.append_ne_nil_of_left_ne_nil (entryLines_ne_nil _ _ _) _

end ZigbeeBridge.Cli
