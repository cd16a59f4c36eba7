/-!
Where a word ends. A reader that takes characters as long as they belong to a word gets all of the
word, and leaves the rest, where the next character does not belong to it.
-/
namespace ZigbeeBridge.Text

variable {p : Char → Bool} {front rest : List Char}

theorem takeWhile_stop (hfront : ∀ c ∈ front, p c = true)
    (hrest : ∀ c ∈ rest.head?, p c = false) : (front ++ rest).takeWhile p = front := by
  rw [List.takeWhile_append_of_pos hfront]
  cases rest with
  | nil => exact List.append_nil front
  | cons c rest =>
    rw [List.takeWhile_cons, hrest c rfl]
    exact List.append_nil front

theorem dropWhile_stop (hfront : ∀ c ∈ front, p c = true)
    (hrest : ∀ c ∈ rest.head?, p c = false) : (front ++ rest).dropWhile p = rest := by
  rw [List.dropWhile_append_of_pos hfront]
  cases rest with
  | nil => rfl
  | cons c rest =>
    rw [List.dropWhile_cons, hrest c rfl]
    rfl

section Marks

variable {mark : Char} (hfront : mark ∉ front) (back : List Char)
include hfront

theorem ne_mark : ∀ c ∈ front, decide (c ≠ mark) = true := by
  intro c hc
  rw [decide_eq_true_eq]
  rintro rfl
  exact hfront hc

/-- A mark ends what has none in it. -/
theorem takeWhile_ne_mark : (front ++ mark :: back).takeWhile (· ≠ mark) = front :=
  takeWhile_stop (ne_mark hfront) (by simp)

theorem dropWhile_ne_mark : (front ++ mark :: back).dropWhile (· ≠ mark) = mark :: back :=
  dropWhile_stop (ne_mark hfront) (by simp)

end Marks

end ZigbeeBridge.Text
