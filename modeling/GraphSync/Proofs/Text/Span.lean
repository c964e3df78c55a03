import Mathlib.Data.List.TakeDrop
import Mathlib.Data.List.TakeWhile

/-! # The longest beginning of a kind

    Readers take characters of a kind off the front of a text as long as there
    are any.  What they take is told by what follows it
    (`Text.span_eq_iff`). -/

namespace GraphSync.Text

variable {p : Char → Bool}

theorem dropWhile_eq_self_of_head {s : List Char} (h : ∀ c ∈ s.head?, p c = false) :
    s.dropWhile p = s := by
  cases s with
  | nil => rfl
  | cons c rest => simp [h c rfl]

theorem head_dropWhile (s : List Char) : ∀ c ∈ (s.dropWhile p).head?, p c = false := by
  intro c hc
  have h := List.head?_dropWhile_not p s
  rw [Option.mem_def.1 hc] at h
  simpa using h

/-- A text is cut where the characters of a kind end. -/
theorem span_eq_iff {s front rest : List Char} :
    s.span p = (front, rest) ↔
      s = front ++ rest ∧ (∀ c ∈ front, p c = true) ∧ ∀ c ∈ rest.head?, p c = false := by
  rw [List.span_eq_takeWhile_dropWhile, Prod.mk.injEq]
  constructor
  · rintro ⟨rfl, rfl⟩
    exact ⟨List.takeWhile_append_dropWhile.symm, fun c hc => List.mem_takeWhile_imp hc,
      head_dropWhile s⟩
  · rintro ⟨rfl, hfront, hrest⟩
    have hnone : rest.takeWhile p = [] := by
      cases rest with
      | nil => rfl
      | cons c rest => simp [hrest c rfl]
    rw [List.takeWhile_append_of_pos hfront, List.dropWhile_append_of_pos hfront, hnone,
      dropWhile_eq_self_of_head hrest, List.append_nil]
    exact ⟨rfl, rfl⟩

end GraphSync.Text
