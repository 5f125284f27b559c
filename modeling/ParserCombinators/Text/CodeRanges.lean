/-!
Character classes given as tables: a list of inclusive code-point ranges, in increasing order and
pairwise apart. Membership is a scan of the list, so a table is data that a proof can unfold and
that `decide` evaluates on small tables.
-/

namespace ParserCombinators.Text

/-- Whether a code point lies in one of the inclusive ranges of a table. -/
def inRanges (table : List (Nat × Nat)) (n : Nat) : Bool :=
  table.any fun r => r.1 ≤ n && n ≤ r.2

def offsetInRanges : List (Nat × Nat) → Nat → Option Nat
  | [], _ => none
  | r :: rs, n => if r.1 ≤ n ∧ n ≤ r.2 then some (n - r.1) else offsetInRanges rs n

@[simp] theorem inRanges_nil (n : Nat) : inRanges [] n = false := rfl

theorem inRanges_cons (r : Nat × Nat) (rs : List (Nat × Nat)) (n : Nat) :
    inRanges (r :: rs) n = ((r.1 ≤ n && n ≤ r.2) || inRanges rs n) := rfl

theorem inRanges_iff (table : List (Nat × Nat)) (n : Nat) :
    inRanges table n = true ↔ ∃ r ∈ table, r.1 ≤ n ∧ n ≤ r.2 := by
  simp [inRanges]

theorem offsetInRanges_isSome (table : List (Nat × Nat)) (n : Nat) :
    (offsetInRanges table n).isSome = inRanges table n := by
  induction table with
  | nil => rfl
  | cons r rs ih =>
    by_cases h : r.1 ≤ n ∧ n ≤ r.2
    · simp [offsetInRanges, inRanges_cons, h]
    · simp only [offsetInRanges, h, if_false, ih, inRanges_cons]
      simp only [not_and, Nat.not_le] at h
      by_cases h1 : r.1 ≤ n
      · simp [h1, Nat.not_le.mpr (h h1)]
      · simp [h1]

end ParserCombinators.Text
