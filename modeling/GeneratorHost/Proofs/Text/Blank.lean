import GeneratorHost.Text.Blank

/-! Trimmed texts. Neither end of a trimmed text is white space, and trimming leaves a text of which that is true. -/

namespace GeneratorHost
namespace Text

variable {α : Type} {p : α → Bool} {xs : List α} {x : α}

theorem mem_of_mem_trimWhere (h : x ∈ trimWhere p xs) : x ∈ xs := by
  have h' := (List.dropWhile_sublist p).subset (List.mem_reverse.mp h)
  exact (List.dropWhile_sublist p).subset (List.mem_reverse.mp h')

theorem not_of_head?_dropWhile (h : (xs.dropWhile p).head? = some x) : ¬p x := by
  have hn := List.head?_dropWhile_not p xs
  rw [h] at hn
  simpa using hn

theorem not_of_getLast?_trimWhere (h : (trimWhere p xs).getLast? = some x) : ¬p x := by
  rw [trimWhere, List.getLast?_reverse] at h
  exact not_of_head?_dropWhile h

theorem not_of_head?_trimWhere (h : (trimWhere p xs).head? = some x) : ¬p x := by
  rw [trimWhere, List.head?_reverse] at h
  -- What is left behind the front ends as all of it did.
  have hsuffix := List.dropWhile_suffix (l := (xs.dropWhile p).reverse) p
  obtain ⟨front, hfront⟩ := hsuffix
  have hlast : (xs.dropWhile p).reverse.getLast? = some x := by
    rw [← hfront, List.getLast?_append, h, Option.some_or]
  rw [List.getLast?_reverse] at hlast
  exact not_of_head?_dropWhile hlast

theorem dropWhile_of_head? (h : ∀ x, xs.head? = some x → ¬p x) : xs.dropWhile p = xs := by
  cases xs with
  | nil => rfl
  | cons x xs => exact List.dropWhile_cons_of_neg (h x rfl)

theorem trimWhere_of_ends (hf : ∀ x, xs.head? = some x → ¬p x) (hl : ∀ x, xs.getLast? = some x → ¬p x) :
    trimWhere p xs = xs := by
  have hback : xs.reverse.dropWhile p = xs.reverse := dropWhile_of_head? fun x hx => hl x (List.head?_reverse ▸ hx)
  rw [trimWhere, dropWhile_of_head? hf, hback, List.reverse_reverse]

end Text
end GeneratorHost
