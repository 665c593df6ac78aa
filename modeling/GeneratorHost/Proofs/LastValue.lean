import Mathlib.Data.List.Induction
import Mathlib.Data.List.Nodup

/-! The last value in a list of pairs: what is left of pairs that are put in one place after the other; and the order of
    first places, in which they stand then. Setting pairs one after the other comes to the two together. -/

namespace GeneratorHost

variable {κ α : Type}

/-- The value of the last pair whose key satisfies `p`. -/
def lastValue? (p : κ → Bool) (pairs : List (κ × α)) : Option α :=
  (pairs.reverse.find? fun pair => p pair.1).map (·.2)

theorem lastValue?_append (p : κ → Bool) (xs ys : List (κ × α)) :
    lastValue? p (xs ++ ys) = (lastValue? p ys).or (lastValue? p xs) := by
  simp only [lastValue?, List.reverse_append, List.find?_append]
  cases ys.reverse.find? fun pair => p pair.1 <;> simp

theorem lastValue?_concat (p : κ → Bool) (xs : List (κ × α)) (pair : κ × α) :
    lastValue? p (xs ++ [pair]) = if p pair.1 then some pair.2 else lastValue? p xs := by
  rw [lastValue?_append]
  by_cases h : p pair.1 <;> simp [lastValue?, h]

theorem mem_of_lastValue?_eq_some {p : κ → Bool} {pairs : List (κ × α)} {a : α} (h : lastValue? p pairs = some a) :
    ∃ key, p key ∧ (key, a) ∈ pairs := by
  obtain ⟨pair, hpair, rfl⟩ := Option.map_eq_some_iff.mp h
  have hp := List.find?_some hpair
  exact ⟨pair.1, hp, List.mem_reverse.mp (List.mem_of_find?_eq_some hpair)⟩

theorem lastValue?_eq_none_iff {p : κ → Bool} {pairs : List (κ × α)} :
    lastValue? p pairs = none ↔ ∀ pair ∈ pairs, ¬p pair.1 := by
  simp [lastValue?, List.find?_eq_none]

/-- A member that is added comes last, unless it is there already. -/
theorem eraseDups_concat [BEq α] [LawfulBEq α] (xs : List α) (x : α) [Decidable (x ∈ xs)] :
    (xs ++ [x]).eraseDups = if x ∈ xs then xs.eraseDups else xs.eraseDups ++ [x] := by
  rw [List.eraseDups_append]
  split
  · next h => simp [List.removeAll, h]
  · next h => simp [List.removeAll, h, List.eraseDups_cons]

theorem eraseDups_of_nodup [BEq α] [LawfulBEq α] : ∀ {xs : List α}, xs.Nodup → xs.eraseDups = xs
  | [], _ => List.eraseDups_nil
  | x :: xs, h => by
    rw [List.nodup_cons] at h
    have hothers : xs.filter (fun y => !y == x) = xs := by
      rw [List.filter_eq_self]
      intro y hy
      have hne : y ≠ x := fun he => h.1 (he ▸ hy)
      simpa using hne
    rw [List.eraseDups_cons, hothers, eraseDups_of_nodup h.2]

theorem eraseDups_filter [BEq α] [LawfulBEq α] (p : α → Bool) (xs : List α) :
    (xs.filter p).eraseDups = xs.eraseDups.filter p := by
  classical
  induction xs using List.reverseRecOn with
  | nil => rfl
  | append_singleton xs x ih =>
    rw [List.filter_append, eraseDups_concat]
    by_cases hp : p x
    · have hm : x ∈ xs.filter p ↔ x ∈ xs := by simp [hp]
      rw [List.filter_cons_of_pos hp, List.filter_nil, eraseDups_concat, ih, if_congr hm rfl rfl]
      split
      · rfl
      · rw [List.filter_append, List.filter_cons_of_pos hp, List.filter_nil]
    · rw [List.filter_cons_of_neg hp, List.filter_nil, List.append_nil, ih]
      split
      · rfl
      · rw [List.filter_append, List.filter_cons_of_neg hp, List.filter_nil, List.append_nil]

theorem nodup_eraseDups [BEq α] [LawfulBEq α] (xs : List α) : xs.eraseDups.Nodup := by
  classical
  induction xs using List.reverseRecOn with
  | nil => exact List.nodup_nil
  | append_singleton xs x ih =>
    rw [eraseDups_concat]
    split
    · exact ih
    · next h =>
      rw [← List.concat_eq_append]
      exact List.Nodup.concat (fun hm => h (List.mem_eraseDups.mp hm)) ih

/-! ### Pairs that are set one after the other -/

section Keyed
variable [DecidableEq κ]

/-- Sets the value of a key, in its place. -/
def setKeyed (key : κ) (value : α) : List (κ × α) → List (κ × α)
  | [] => [(key, value)]
  | pair :: rest => if pair.1 = key then (key, value) :: rest else pair :: setKeyed key value rest

/-- What is left of pairs that are set one after the other. -/
def setAll (pairs : List (κ × α)) : List (κ × α) := pairs.foldl (fun made pair => setKeyed pair.1 pair.2 made) []

/-- The keys of pairs in the order in which each came first, with the last value of each. -/
def lastValues (pairs : List (κ × α)) : List (κ × α) :=
  (pairs.map (·.1)).eraseDups.filterMap fun key => (lastValue? (· == key) pairs).map fun value => (key, value)

theorem keys_setKeyed (key : κ) (value : α) (pairs : List (κ × α)) :
    (setKeyed key value pairs).map (·.1) =
      if key ∈ pairs.map (·.1) then pairs.map (·.1) else pairs.map (·.1) ++ [key] := by
  induction pairs with
  | nil => simp [setKeyed]
  | cons pair rest ih =>
    by_cases h : pair.1 = key
    · simp [setKeyed, h]
    · have h' : ¬key = pair.1 := fun e => h e.symm
      simp only [setKeyed, h, ↓reduceIte, List.map_cons, ih, List.mem_cons, h', false_or]
      split <;> rfl

theorem find?_setKeyed (key : κ) (value : α) (other : κ) (pairs : List (κ × α)) :
    (setKeyed key value pairs).find? (·.1 == other) =
      if key = other then some (key, value) else pairs.find? (·.1 == other) := by
  induction pairs with
  | nil => by_cases h : key = other <;> simp [setKeyed, h]
  | cons pair rest ih =>
    by_cases hp : pair.1 = key
    · by_cases h : key = other <;> simp [setKeyed, hp, h]
    · by_cases ho : pair.1 = other
      · have hne : ¬other = key := fun e => hp (ho.trans e)
        simp [setKeyed, ho, hne, Ne.symm hne]
      · simp [setKeyed, hp, ho, ih]

theorem setAll_concat (pairs : List (κ × α)) (pair : κ × α) :
    setAll (pairs ++ [pair]) = setKeyed pair.1 pair.2 (setAll pairs) := List.foldl_append

/-- A key that is set again keeps its place. -/
theorem keys_setAll (pairs : List (κ × α)) : (setAll pairs).map (·.1) = (pairs.map (·.1)).eraseDups := by
  induction pairs using List.reverseRecOn with
  | nil => rfl
  | append_singleton pairs pair ih =>
    have hm : pair.1 ∈ (pairs.map (·.1)).eraseDups ↔ pair.1 ∈ pairs.map (·.1) := List.mem_eraseDups
    rw [setAll_concat, keys_setKeyed, ih, List.map_append, List.map_singleton, eraseDups_concat]
    exact if_congr hm rfl rfl

theorem nodup_keys_setAll (pairs : List (κ × α)) : ((setAll pairs).map (·.1)).Nodup := by
  rw [keys_setAll]
  exact nodup_eraseDups _

/-- It takes the value that it was set to last. -/
theorem find?_setAll (pairs : List (κ × α)) (key : κ) :
    (setAll pairs).find? (·.1 == key) = (lastValue? (· == key) pairs).map fun value => (key, value) := by
  induction pairs using List.reverseRecOn with
  | nil => rfl
  | append_singleton pairs pair ih =>
    rw [setAll_concat, find?_setKeyed, lastValue?_concat, ih]
    by_cases h : pair.1 = key <;> simp [h]

/-- Pairs of different keys are found under these, one after the other. -/
theorem filterMap_find? : ∀ {pairs : List (κ × α)}, (pairs.map (·.1)).Nodup →
    (pairs.map (·.1)).filterMap (fun key => pairs.find? (·.1 == key)) = pairs
  | [], _ => rfl
  | pair :: rest, h => by
    rw [List.map_cons, List.nodup_cons] at h
    have hself : (pair :: rest).find? (·.1 == pair.1) = some pair := by simp
    have hrest : ∀ key ∈ rest.map (·.1), (pair :: rest).find? (·.1 == key) = rest.find? (·.1 == key) := by
      intro key hm
      have hne : pair.1 ≠ key := fun he => h.1 (he ▸ hm)
      simp [hne]
    rw [List.map_cons, List.filterMap_cons, hself, List.filterMap_congr hrest, filterMap_find? h.2]

/-- To set values that were changed beforehand comes to changing the values that were set. -/
theorem setAll_map {β : Type} (f : α → β) (pairs : List (κ × α)) :
    setAll (pairs.map fun pair => (pair.1, f pair.2)) = (setAll pairs).map fun pair => (pair.1, f pair.2) := by
  have hset : ∀ (key : κ) (value : α) (pairs : List (κ × α)), setKeyed key (f value)
      (pairs.map fun pair => (pair.1, f pair.2)) = (setKeyed key value pairs).map fun pair => (pair.1, f pair.2) := by
    intro key value pairs
    induction pairs with
    | nil => rfl
    | cons pair rest ih => by_cases h : pair.1 = key <;> simp [setKeyed, h, ih]
  induction pairs using List.reverseRecOn with
  | nil => rfl
  | append_singleton pairs pair ih =>
    rw [List.map_append, List.map_singleton, setAll_concat, ih, hset, setAll_concat]

theorem setAll_eq_lastValues (pairs : List (κ × α)) : setAll pairs = lastValues pairs := by
  rw [lastValues, ← keys_setAll, ← List.filterMap_congr fun key _ => find?_setAll pairs key]
  exact (filterMap_find? (nodup_keys_setAll pairs)).symm

theorem lastValue?_of_mem_setAll {pairs : List (κ × α)} {pair : κ × α} (h : pair ∈ setAll pairs) :
    lastValue? (· == pair.1) pairs = some pair.2 := by
  rw [setAll_eq_lastValues] at h
  obtain ⟨key, -, hv⟩ := List.mem_filterMap.mp h
  obtain ⟨value, hvalue, rfl⟩ := Option.map_eq_some_iff.mp hv
  exact hvalue

end Keyed

end GeneratorHost
