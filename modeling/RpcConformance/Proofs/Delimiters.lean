import Mathlib.Data.List.TakeWhile

/-!
# Texts between marks

A text is cut at the first mark in it, so what stands before a mark is found again where the mark
does not occur in it.  Lines are the special case in which every piece ends in the mark.

## Main results

* `takeWhile_ne_append`, `dropWhile_ne_append` — the two sides of the first mark.
* `splitOn_lines` — all lines of a text.
-/

namespace RpcConformance

variable {mark : Char} {front : List Char}

theorem all_ne_of_notMem (h : mark ∉ front) : ∀ d ∈ front, decide (d ≠ mark) = true :=
  fun _ hd => decide_eq_true (ne_of_mem_of_not_mem hd h)

theorem takeWhile_ne_append (h : mark ∉ front) (rest : List Char) :
    (front ++ mark :: rest).takeWhile (· ≠ mark) = front := by
  rw [List.takeWhile_append_of_pos (all_ne_of_notMem h), List.takeWhile_cons_of_neg (by simp),
    List.append_nil]

theorem dropWhile_ne_append (h : mark ∉ front) (rest : List Char) :
    (front ++ mark :: rest).dropWhile (· ≠ mark) = mark :: rest := by
  rw [List.dropWhile_append_of_pos (all_ne_of_notMem h), List.dropWhile_cons_of_neg (by simp)]

/-- Pieces that each end in a mark are found again between the marks. -/
theorem splitOn_lines {lines : List (List Char)} (h : ∀ line ∈ lines, mark ∉ line) :
    (lines.flatMap (· ++ [mark])).splitOn mark = lines ++ [[]] := by
  induction lines with
  | nil => exact List.splitOn_nil mark
  | cons line rest ih =>
      have hline : mark ∉ line := h line List.mem_cons_self
      have hrest := ih fun l hl => h l (List.mem_cons_of_mem line hl)
      simp only [List.flatMap_cons, List.append_assoc, List.singleton_append]
      rw [List.splitOn_append_cons_self_of_not_mem hline, hrest, List.cons_append]

end RpcConformance
