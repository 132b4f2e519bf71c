/-! Sets of characters as tables of ranges. A table is ascending, so that a search of it ends at the
first range that is not below the number. -/
namespace RpcRouting.Text

/-- Whether a number lies in one of the ranges, each given by its first and its last number. -/
def inRanges (ranges : List (Nat × Nat)) (n : Nat) : Bool :=
  match ranges.find? (n ≤ ·.2) with
  | some range => range.1 ≤ n
  | none => false

/-- Whether no range begins below a number, none is empty, and there is a gap between any two. -/
def ascendingFrom (bound : Nat) : List (Nat × Nat) → Bool
  | [] => true
  | range :: rest => bound ≤ range.1 && range.1 ≤ range.2 && ascendingFrom (range.2 + 2) rest

theorem le_of_ascendingFrom {bound : Nat} {ranges : List (Nat × Nat)}
    (ascending : ascendingFrom bound ranges = true) {range : Nat × Nat} (member : range ∈ ranges) :
    bound ≤ range.1 := by
  induction ranges generalizing bound with
  | nil => cases member
  | cons first rest ih =>
    simp only [ascendingFrom, Bool.and_eq_true, decide_eq_true_eq] at ascending
    obtain ⟨⟨above, nonempty⟩, later⟩ := ascending
    rcases List.mem_cons.1 member with rfl | member
    · exact above
    · have := ih later member
      omega

/-- In an ascending table the search finds the range that holds the number. -/
theorem inRanges_iff {bound : Nat} {ranges : List (Nat × Nat)}
    (ascending : ascendingFrom bound ranges = true) (n : Nat) :
    inRanges ranges n = true ↔ ∃ range ∈ ranges, range.1 ≤ n ∧ n ≤ range.2 := by
  induction ranges generalizing bound with
  | nil => simp [inRanges]
  | cons first rest ih =>
    simp only [ascendingFrom, Bool.and_eq_true, decide_eq_true_eq] at ascending
    obtain ⟨-, later⟩ := ascending
    by_cases reached : n ≤ first.2
    · simp only [inRanges, List.find?_cons, reached, decide_true, decide_eq_true_eq]
      constructor
      · intro holds
        exact ⟨first, by simp, holds, reached⟩
      · rintro ⟨range, member, low, -⟩
        rcases List.mem_cons.1 member with rfl | member
        · exact low
        · have := le_of_ascendingFrom later member
          omega
    · have skipped : inRanges (first :: rest) n = inRanges rest n := by
        simp [inRanges, reached]
      rw [skipped, ih later]
      simp only [List.mem_cons, exists_eq_or_imp]
      constructor
      · exact Or.inr
      · rintro (⟨-, high⟩ | found)
        · exact absurd high reached
        · exact found

end RpcRouting.Text
