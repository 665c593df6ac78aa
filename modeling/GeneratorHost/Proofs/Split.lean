import GeneratorHost.Text.Split

/-! The pieces of a text. No piece holds a separator, and a text is its pieces with separators between
    them. -/

namespace GeneratorHost
namespace Text

variable {α : Type} {p : α → Bool}

theorem splitWhere_cons_of_pos {x : α} (h : p x) (xs : List α) :
    splitWhere p (x :: xs) = [] :: splitWhere p xs := by
  simp [splitWhere, h]

theorem splitWhere_cons_of_neg {x : α} (h : ¬p x) {xs piece : List α} {pieces : List (List α)}
    (hs : splitWhere p xs = piece :: pieces) : splitWhere p (x :: xs) = (x :: piece) :: pieces := by
  simp [splitWhere, h, hs]

theorem exists_splitWhere (p : α → Bool) (xs : List α) :
    ∃ piece pieces, splitWhere p xs = piece :: pieces :=
  List.exists_cons_of_ne_nil (splitWhere_ne_nil p xs)

theorem splitWhere_of_forall_not {xs : List α} (h : ∀ x ∈ xs, ¬p x) : splitWhere p xs = [xs] := by
  induction xs with
  | nil => rfl
  | cons x xs ih =>
    rw [List.forall_mem_cons] at h
    exact splitWhere_cons_of_neg h.1 (ih h.2)

theorem splitWhere_append_cons {xs : List α} (h : ∀ x ∈ xs, ¬p x) {y : α} (hy : p y) (ys : List α) :
    splitWhere p (xs ++ y :: ys) = xs :: splitWhere p ys := by
  induction xs with
  | nil => exact splitWhere_cons_of_pos hy ys
  | cons x xs ih =>
    rw [List.forall_mem_cons] at h
    exact splitWhere_cons_of_neg h.1 (ih h.2)

/-- No piece holds a separator. -/
theorem not_of_mem_splitWhere {xs piece : List α} (h : piece ∈ splitWhere p xs) : ∀ x ∈ piece, ¬p x := by
  induction xs generalizing piece with
  | nil =>
    obtain rfl := List.mem_singleton.mp h
    intro x hx
    cases hx
  | cons x xs ih =>
    by_cases hp : p x
    · rw [splitWhere_cons_of_pos hp, List.mem_cons] at h
      rcases h with rfl | h
      · intro y hy
        cases hy
      · exact ih h
    · obtain ⟨first, rest, hs⟩ := exists_splitWhere p xs
      rw [splitWhere_cons_of_neg hp hs, List.mem_cons] at h
      rcases h with rfl | h
      · intro y hy
        rcases List.mem_cons.mp hy with rfl | hy
        · exact hp
        · exact ih (hs ▸ List.mem_cons_self) y hy
      · exact ih (hs ▸ List.mem_cons_of_mem _ h)

theorem not_of_mem_lastPiece {xs : List α} : ∀ x ∈ lastPiece p xs, ¬p x :=
  not_of_mem_splitWhere (List.getLast_mem _)

theorem splitWhere_eq_singleton_iff {xs piece : List α} :
    splitWhere p xs = [piece] ↔ xs = piece ∧ ∀ x ∈ piece, ¬p x := by
  constructor
  · intro h
    have hp : ∀ x ∈ piece, ¬p x := not_of_mem_splitWhere (h ▸ List.mem_singleton_self piece)
    refine ⟨?_, hp⟩
    induction xs generalizing piece with
    | nil => exact (List.cons.inj h).1
    | cons x xs ih =>
      obtain ⟨first, rest, hs⟩ := exists_splitWhere p xs
      by_cases hx : p x
      · rw [splitWhere_cons_of_pos hx, hs] at h
        cases h
      · rw [splitWhere_cons_of_neg hx hs] at h
        cases h
        rw [List.forall_mem_cons] at hp
        rw [ih hs hp.2]
  · rintro ⟨rfl, h⟩
    exact splitWhere_of_forall_not h

/-- There are two pieces if there is one separator, which stands between them. -/
theorem splitWhere_eq_pair_iff {xs first second : List α} :
    splitWhere p xs = [first, second] ↔
      ∃ y, p y ∧ xs = first ++ y :: second ∧ (∀ x ∈ first, ¬p x) ∧ ∀ x ∈ second, ¬p x := by
  constructor
  · intro h
    induction xs generalizing first with
    | nil => cases h
    | cons x xs ih =>
      by_cases hx : p x
      · rw [splitWhere_cons_of_pos hx, List.cons.injEq] at h
        obtain ⟨rfl, h⟩ := h
        obtain ⟨rfl, h⟩ := splitWhere_eq_singleton_iff.mp h
        exact ⟨x, hx, rfl, by simp, h⟩
      · obtain ⟨piece, pieces, hs⟩ := exists_splitWhere p xs
        rw [splitWhere_cons_of_neg hx hs, List.cons.injEq] at h
        obtain ⟨rfl, rfl⟩ := h
        obtain ⟨y, hy, rfl, h₁, h₂⟩ := ih hs
        exact ⟨y, hy, rfl, List.forall_mem_cons.mpr ⟨hx, h₁⟩, h₂⟩
  · rintro ⟨y, hy, rfl, h₁, h₂⟩
    rw [splitWhere_append_cons h₁ hy, splitWhere_of_forall_not h₂]

/-- Either there is no separator, or the first piece stands before one. -/
theorem eq_or_append_of_splitWhere_eq_cons {xs first : List α} {rest : List (List α)}
    (h : splitWhere p xs = first :: rest) : xs = first ∨ ∃ y ys, p y ∧ xs = first ++ y :: ys := by
  induction xs generalizing first rest with
  | nil =>
    cases h
    exact Or.inl rfl
  | cons x xs ih =>
    by_cases hx : p x
    · rw [splitWhere_cons_of_pos hx] at h
      cases h
      exact Or.inr ⟨x, xs, hx, rfl⟩
    · obtain ⟨piece, pieces, hs⟩ := exists_splitWhere p xs
      rw [splitWhere_cons_of_neg hx hs] at h
      cases h
      rcases ih hs with rfl | ⟨y, ys, hy, rfl⟩
      · exact Or.inl rfl
      · exact Or.inr ⟨y, ys, hy, rfl⟩

/-! ### The last piece -/

theorem splitWhere_append_separator {y : α} (hy : p y) (xs ys : List α) :
    splitWhere p (xs ++ y :: ys) = splitWhere p xs ++ splitWhere p ys := by
  induction xs with
  | nil => exact splitWhere_cons_of_pos hy ys
  | cons x xs ih =>
    by_cases hx : p x
    · rw [List.cons_append, splitWhere_cons_of_pos hx, splitWhere_cons_of_pos hx, ih, List.cons_append]
    · obtain ⟨piece, pieces, hs⟩ := exists_splitWhere p xs
      rw [hs, List.cons_append] at ih
      rw [List.cons_append, splitWhere_cons_of_neg hx ih, splitWhere_cons_of_neg hx hs, List.cons_append]

/-- What stands before a separator has no part in the last piece. -/
theorem lastPiece_append_separator {y : α} (hy : p y) (xs ys : List α) :
    lastPiece p (xs ++ y :: ys) = lastPiece p ys := by
  simp only [lastPiece, splitWhere_append_separator hy]
  exact List.getLast_append_of_ne_nil _ (splitWhere_ne_nil p ys)

theorem lastPiece_of_forall_not {xs : List α} (h : ∀ x ∈ xs, ¬p x) : lastPiece p xs = xs := by
  simp only [lastPiece, splitWhere_of_forall_not h, List.getLast_singleton]

/-- Either there is no separator, or the last piece stands behind one. -/
theorem lastPiece_cases (p : α → Bool) (xs : List α) :
    lastPiece p xs = xs ∨ ∃ front y, p y ∧ xs = front ++ y :: lastPiece p xs := by
  induction xs with
  | nil => exact Or.inl rfl
  | cons x xs ih =>
    by_cases hx : p x
    · have hlast : lastPiece p (x :: xs) = lastPiece p xs := lastPiece_append_separator hx [] xs
      rw [hlast]
      rcases ih with h | ⟨front, y, hy, h⟩
      · exact Or.inr ⟨[], x, hx, by rw [h, List.nil_append]⟩
      · exact Or.inr ⟨x :: front, y, hy, by rw [List.cons_append, ← h]⟩
    · rcases ih with h | ⟨front, y, hy, h⟩
      · refine Or.inl (lastPiece_of_forall_not (List.forall_mem_cons.mpr ⟨hx, ?_⟩))
        rw [← h]
        exact not_of_mem_lastPiece
      · have hlast : lastPiece p (x :: xs) = lastPiece p xs := by
          have hwhole := lastPiece_append_separator hy (x :: front) (lastPiece p xs)
          rw [List.cons_append, ← h] at hwhole
          exact hwhole.trans (lastPiece_of_forall_not not_of_mem_lastPiece)
        exact Or.inr ⟨x :: front, y, hy, by rw [hlast, List.cons_append, ← h]⟩

end Text
end GeneratorHost
