/-
  Text as a list of Unicode scalar values, and sets of characters given by code point ranges.
-/

namespace JsxTemplate

/-- Source and output text, one Unicode scalar value an entry. -/
abbrev Text := List Char

/-- A set of characters as closed ranges of code points. -/
abbrev Ranges := List (Nat × Nat)

def Ranges.contains (ranges : Ranges) (c : Char) : Bool :=
  ranges.any fun range => range.1 ≤ c.toNat && c.toNat ≤ range.2

theorem Ranges.contains_iff (ranges : Ranges) (c : Char) :
    ranges.contains c = true ↔ ∃ range ∈ ranges, range.1 ≤ c.toNat ∧ c.toNat ≤ range.2 := by
  simp [Ranges.contains]

/-- To rule out the characters of a text, test each of them. -/
theorem Text.eq_false_of_all {p : Char → Bool} {text : Text}
    (h : text.all (fun c => !p c) = true) : ∀ c ∈ text, p c = false := by
  intro c hc
  simpa using List.all_eq_true.1 h c hc

/-- The decimal digits of a number. -/
def decimal (n : Nat) : Text := Nat.toDigits 10 n

end JsxTemplate
