/-!
# Totals

The total of a list of integers, added up from the end.
-/

namespace ComponentCensus.Number

/-- The sum of integers. -/
def total : List Int → Int
  | [] => 0
  | count :: rest => count + total rest

@[simp] theorem total_nil : total [] = 0 := rfl

@[simp] theorem total_cons (count : Int) (rest : List Int) :
    total (count :: rest) = count + total rest := rfl

theorem total_append (xs ys : List Int) : total (xs ++ ys) = total xs + total ys := by
  induction xs with
  | nil => simp
  | cons x xs ih => simp [ih, Int.add_assoc]

end ComponentCensus.Number
