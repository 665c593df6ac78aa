import GeneratorHost.Options
import GeneratorHost.Proofs.LastValue
import Mathlib.Data.List.Induction
import Mathlib.Data.List.Nodup

/-! Looking up options. Options made from pairs hold, for every folded key, the value of the last pair with a
    key of that form; options set on top of others are looked up first. -/

namespace GeneratorHost
namespace Options

variable {α : Type}

/-- Whether a key is `key`, whatever its case. -/
def alike (key other : Text) : Bool := Text.foldCase other == Text.foldCase key

/-! ### Setting a key -/

theorem findIn_insertIn (folded : Text) (key : Text) (value : α) (entries : List (Text × α)) :
    findIn folded (insertIn key value entries) =
      if Text.foldCase key = folded then some (key, value) else findIn folded entries := by
  induction entries with
  | nil => rfl
  | cons entry rest ih =>
    by_cases h : Options.folded entry = Text.foldCase key
    · have hk : Options.folded (key, value) = Text.foldCase key := rfl
      simp only [insertIn, h, ↓reduceIte, findIn, hk]
      split <;> rfl
    · simp only [insertIn, h, ↓reduceIte, findIn, ih]
      by_cases hk : Text.foldCase key = folded
      · have hne : Options.folded entry ≠ folded := fun e => h (e.trans hk.symm)
        simp [hk, hne]
      · simp [hk]

theorem insertIn_of_notMem {key : Text} {entries : List (Text × α)}
    (h : Text.foldCase key ∉ entries.map folded) (value : α) :
    insertIn key value entries = entries ++ [(key, value)] := by
  induction entries with
  | nil => rfl
  | cons entry rest ih =>
    rw [List.map_cons, List.mem_cons, not_or] at h
    have hne : folded entry ≠ Text.foldCase key := fun e => h.1 e.symm
    simp [insertIn, hne, ih h.2]

theorem ext {o o' : Options α} (h : o.entries = o'.entries) : o = o' := by
  cases o
  cases o'
  cases h
  rfl

theorem insertAll_append (o : Options α) (xs ys : List (Text × α)) :
    o.insertAll (xs ++ ys) = (o.insertAll xs).insertAll ys := List.foldl_append

theorem get?_insert (o : Options α) (key : Text) (value : α) (other : Text) :
    (o.insert key value).get? other = if alike other key then some value else o.get? other := by
  simp only [get?, insert, findIn_insertIn, alike, beq_iff_eq]
  split <;> rfl

/-- The last of the pairs with a key counts; without one, the options are as before. -/
theorem get?_insertAll (o : Options α) (pairs : List (Text × α)) (key : Text) :
    (o.insertAll pairs).get? key = (lastValue? (alike key) pairs).or (o.get? key) := by
  induction pairs using List.reverseRecOn with
  | nil => rfl
  | append_singleton xs pair ih =>
    rw [insertAll_append, lastValue?_concat]
    show ((o.insertAll xs).insert pair.1 pair.2).get? key = _
    rw [get?_insert, ih]
    split <;> rfl

/-! ### Options from their own pairs -/

theorem entries_insertAll (o : Options α) {pairs : List (Text × α)}
    (h : ((o.entries ++ pairs).map folded).Nodup) : (o.insertAll pairs).entries = o.entries ++ pairs := by
  induction pairs generalizing o with
  | nil => simp [insertAll]
  | cons pair rest ih =>
    have hnew : Text.foldCase pair.1 ∉ o.entries.map folded := by
      rw [List.map_append, List.map_cons, List.nodup_append] at h
      intro hm
      exact h.2.2 _ hm _ List.mem_cons_self rfl
    have he : (o.insert pair.1 pair.2).entries = o.entries ++ [pair] := insertIn_of_notMem hnew pair.2
    show ((o.insert pair.1 pair.2).insertAll rest).entries = _
    rw [ih _ (by rwa [he, List.append_assoc]), he, List.append_assoc]
    rfl

/-- The pairs of options make the same options again, in the same order. -/
theorem ofPairs_toPairs (o : Options α) : ofPairs o.toPairs = o :=
  ext (@entries_insertAll α empty o.entries o.distinct)

theorem mergedPairs_eq (o : Options α) (pairs : List (Text × α)) : o.mergedPairs pairs = o.insertAll pairs := by
  have h : o.mergedPairs pairs = (ofPairs o.toPairs).insertAll pairs := insertAll_append empty _ _
  rw [h, ofPairs_toPairs]

theorem get?_mergedPairs (o : Options α) (pairs : List (Text × α)) (key : Text) :
    (o.mergedPairs pairs).get? key = (lastValue? (alike key) pairs).or (o.get? key) := by
  rw [mergedPairs_eq, get?_insertAll]

end Options
end GeneratorHost
