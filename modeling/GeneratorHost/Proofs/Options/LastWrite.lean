import GeneratorHost.Proofs.Options

/-! Options made from pairs, as a map from folded keys. The place of a key is that of the first pair of its folded form;
    its spelling and its value are those of the last one. All the ways of looking a key up tell the same of it. -/

namespace GeneratorHost
namespace Options

variable {α : Type}

/-- The last of the pairs whose key has a folded form. -/
def lastPair? (pairs : List (Text × α)) (form : Text) : Option (Text × α) :=
  pairs.reverse.find? fun pair => folded pair == form

/-- The value that pairs give a key of any kind: the last one under a key of the same folded form. Only texts are
    keys. -/
def given? (pairs : List (Text × α)) : Value → Option α
  | .text key => lastValue? (alike key) pairs
  | _ => none

theorem lastPair?_concat (pairs : List (Text × α)) (pair : Text × α) (form : Text) :
    lastPair? (pairs ++ [pair]) form = if folded pair = form then some pair else lastPair? pairs form := by
  rw [lastPair?, List.reverse_append]
  by_cases h : folded pair = form <;> simp [lastPair?, h]

theorem ofPairs_concat (pairs : List (Text × α)) (pair : Text × α) :
    ofPairs (pairs ++ [pair]) = (ofPairs pairs).insert pair.1 pair.2 := insertAll_append empty pairs [pair]

/-! ### Places, spellings and values -/

/-- The folded keys stand in the order in which each of them came first. -/
theorem folded_ofPairs (pairs : List (Text × α)) :
    (ofPairs pairs).entries.map folded = (pairs.map folded).eraseDups := by
  induction pairs using List.reverseRecOn with
  | nil => rfl
  | append_singleton pairs pair ih =>
    have hm : folded pair ∈ (pairs.map folded).eraseDups ↔ folded pair ∈ pairs.map folded := List.mem_eraseDups
    rw [ofPairs_concat, List.map_append, List.map_singleton, eraseDups_concat]
    show (insertIn pair.1 pair.2 (ofPairs pairs).entries).map folded = _
    rw [folded_insertIn, ih]
    exact if_congr hm rfl rfl

/-- Of the pairs of one folded form the last one is held. -/
theorem findIn_ofPairs (pairs : List (Text × α)) (form : Text) :
    findIn form (ofPairs pairs).entries = lastPair? pairs form := by
  induction pairs using List.reverseRecOn with
  | nil => rfl
  | append_singleton pairs pair ih =>
    rw [ofPairs_concat, lastPair?_concat, ← ih]
    exact findIn_insertIn form pair.1 pair.2 (ofPairs pairs).entries

/-- Entries of different folded forms are found under these, one after the other. -/
theorem filterMap_findIn : ∀ {entries : List (Text × α)}, (entries.map folded).Nodup →
    (entries.map folded).filterMap (fun form => findIn form entries) = entries
  | [], _ => rfl
  | entry :: rest, h => by
    rw [List.map_cons, List.nodup_cons] at h
    have hself : findIn (folded entry) (entry :: rest) = some entry := if_pos rfl
    have hrest : ∀ form ∈ rest.map folded, findIn form (entry :: rest) = findIn form rest := by
      intro form hm
      have hne : folded entry ≠ form := fun he => h.1 (he ▸ hm)
      exact if_neg hne
    rw [List.map_cons, List.filterMap_cons, hself, List.filterMap_congr hrest, filterMap_findIn h.2]

theorem toPairs_ofPairs (pairs : List (Text × α)) :
    (ofPairs pairs).toPairs = (pairs.map folded).eraseDups.filterMap (lastPair? pairs) := by
  have h := filterMap_findIn (ofPairs pairs).distinct
  rw [folded_ofPairs] at h
  rw [← List.filterMap_congr fun form _ => findIn_ofPairs pairs form]
  exact h.symm

/-! ### Looking a key up -/

theorem find?_ofPairs (pairs : List (Text × α)) (key : Value) : (ofPairs pairs).find? key = given? pairs key := by
  cases key with
  | text key =>
    have h := get?_insertAll empty pairs key
    rw [show empty.get? key = (none : Option α) from rfl, Option.or_none] at h
    exact h
  | _ => rfl

section Lookup
variable (o : Options α) (key : Value)

theorem get_eq_ok {value : α} : o.get key = .ok value ↔ o.find? key = some value := by
  unfold get
  cases o.find? key <;> simp

theorem get_eq_error {e : Failure} : o.get key = .error e ↔ o.find? key = none ∧ e = missing key := by
  unfold get
  cases o.find? key with
  | none => simp [eq_comm]
  | some value => simp

theorem getD_eq (other : α) : o.getD key other = (o.find? key).getD other := by
  unfold getD get
  cases o.find? key <;> rfl

end Lookup

/-- Options made from pairs hold one entry for each folded key, in the order in which the folded keys came first, each
    with the spelling and the value of its last pair. However a key is looked up, it is there exactly if it is a text
    whose folded form a pair has, with the value of the last such pair. The options are made again from what they
    hold. -/
theorem ofPairs_refines (pairs : List (Text × α)) :
    (∀ key, (ofPairs pairs).find? key = given? pairs key ∧
      (ofPairs pairs).contains key = (given? pairs key).isSome ∧
      (∀ value, (ofPairs pairs).get key = .ok value ↔ given? pairs key = some value) ∧
      (∀ e, (ofPairs pairs).get key = .error e ↔ given? pairs key = none ∧ e = missing key) ∧
      ∀ other, (ofPairs pairs).getD key other = (given? pairs key).getD other) ∧
    (ofPairs pairs).keys.map Text.foldCase = (pairs.map folded).eraseDups ∧
    (ofPairs pairs).toPairs = (pairs.map folded).eraseDups.filterMap (lastPair? pairs) ∧
    (ofPairs pairs).size = (ofPairs pairs).keys.length ∧
    ofPairs (ofPairs pairs).toPairs = ofPairs pairs := by
  refine ⟨fun key => ?_, ?_, toPairs_ofPairs pairs, ?_, ofPairs_toPairs _⟩
  · have hfind := find?_ofPairs pairs key
    refine ⟨hfind, ?_, fun value => ?_, fun e => ?_, fun other => ?_⟩
    · rw [contains, hfind]
    · rw [get_eq_ok, hfind]
    · rw [get_eq_error, hfind]
    · rw [getD_eq, hfind]
  · rw [keys, List.map_map]
    exact folded_ofPairs pairs
  · rw [keys, List.length_map]
    rfl

/-- A key that is set again keeps its place and takes the new spelling. -/
example : (ofPairs [("First", 1), ("second", 2), ("FIRST", 3)]).toPairs = [(("FIRST" : Text), 3), ("second", 2)] := by
  decide +kernel

end Options
end GeneratorHost
