/-! # Pieces of texts

What separators separate: no piece holds the separator, and there is one piece more than there are
separators. -/

namespace Companion.Text

/-- A character that is no separator belongs to the first piece of `List.splitOn`. -/
theorem splitOn_cons_of_ne {separator c : Char} (hc : c ≠ separator) (rest : List Char) :
    ∃ first others, rest.splitOn separator = first :: others ∧
      (c :: rest).splitOn separator = (c :: first) :: others := by
  obtain ⟨first, others, hrest⟩ := List.exists_cons_of_ne_nil (List.splitOn_ne_nil separator rest)
  refine ⟨first, others, hrest, ?_⟩
  rw [List.splitOn_cons_eq_if_modifyHead, if_neg (by simpa using hc), hrest, List.modifyHead_cons]

/-- A separator ends an empty first piece of `List.splitOn`. -/
theorem splitOn_cons_self (separator : Char) (rest : List Char) :
    (separator :: rest).splitOn separator = [] :: rest.splitOn separator := by
  rw [List.splitOn_cons_eq_if_modifyHead, if_pos (beq_self_eq_true separator)]

/-- No piece of `List.splitOn` holds the separator. -/
theorem not_mem_of_mem_splitOn {separator : Char} {text piece : List Char}
    (hpiece : piece ∈ text.splitOn separator) : separator ∉ piece := by
  induction text generalizing piece with
  | nil =>
    rw [List.splitOn_nil, List.mem_singleton] at hpiece
    rw [hpiece]
    exact List.not_mem_nil
  | cons c rest ih =>
    by_cases hc : c = separator
    · rw [hc, splitOn_cons_self] at hpiece
      -- the separator starts a new piece, which is empty so far
      rcases List.mem_cons.mp hpiece with rfl | hmem
      · exact List.not_mem_nil
      · exact ih hmem
    · obtain ⟨first, others, hrest, hcons⟩ := splitOn_cons_of_ne hc rest
      rw [hrest] at ih
      rw [hcons] at hpiece
      rcases List.mem_cons.mp hpiece with rfl | hmem
      · rw [List.mem_cons, not_or]
        exact ⟨Ne.symm hc, ih List.mem_cons_self⟩
      · exact ih (List.mem_cons_of_mem _ hmem)

/-- There is one piece more in `text.splitOn separator` than there are separators in the text. -/
theorem length_splitOn (separator : Char) (text : List Char) :
    (text.splitOn separator).length = text.count separator + 1 := by
  induction text with
  | nil => rfl
  | cons c rest ih =>
    by_cases hc : c = separator
    · rw [hc, splitOn_cons_self, List.length_cons, ih, List.count_cons_self]
    · obtain ⟨first, others, hrest, hcons⟩ := splitOn_cons_of_ne hc rest
      rw [hcons, List.length_cons, List.count_cons_of_ne hc, ← ih, hrest, List.length_cons]

end Companion.Text
