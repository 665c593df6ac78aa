import GeneratorHost.Proofs.Options.LastWrite

/-! Options with others set on top. An entry that is overlaid keeps its place and takes the spelling and the value of
    the last pair of its folded form; the other forms follow in the order of the pairs. So merging is associative, and
    neither the empty options nor the options themselves add anything. -/

namespace GeneratorHost
namespace Options

variable {α : Type}

/-- What becomes of an entry when pairs are set on top: the last pair of its folded form takes its place. -/
def overlaid (pairs : List (Text × α)) (entry : Text × α) : Text × α := (lastPair? pairs (folded entry)).getD entry

/-- The pairs of the folded forms that options have no entry of: the last pair of each form, in the order in which the
    forms came first. -/
def added (o : Options α) (pairs : List (Text × α)) : List (Text × α) :=
  ((pairs.map folded).removeAll (o.toPairs.map folded)).eraseDups.filterMap (lastPair? pairs)

/-! ### The last pair of a form -/

theorem lastPair?_append (xs ys : List (Text × α)) (form : Text) :
    lastPair? (xs ++ ys) form = (lastPair? ys form).or (lastPair? xs form) := by
  simp only [lastPair?, List.reverse_append, List.find?_append]

theorem lastPair?_eq_none {pairs : List (Text × α)} {form : Text} (h : form ∉ pairs.map folded) :
    lastPair? pairs form = none := by
  rw [lastPair?, List.find?_eq_none]
  intro pair hp he
  rw [List.mem_reverse] at hp
  exact h (List.mem_map.mpr ⟨pair, hp, beq_iff_eq.mp he⟩)

/-- Every entry of options is the last one of its form, as it is the only one. -/
theorem lastPair?_of_mem {o : Options α} {entry : Text × α} (h : entry ∈ o.toPairs) :
    lastPair? o.toPairs (folded entry) = some entry := by
  cases hl : lastPair? o.toPairs (folded entry) with
  | none =>
    rw [lastPair?, List.find?_eq_none] at hl
    exact absurd (beq_iff_eq.mpr rfl) (hl entry (List.mem_reverse.mpr h))
  | some other =>
    have hm : other ∈ o.toPairs := List.mem_reverse.mp (List.mem_of_find?_eq_some hl)
    have hf := List.find?_some (p := fun pair => folded pair == folded entry) hl
    rw [List.inj_on_of_nodup_map o.distinct hm h (beq_iff_eq.mp hf)]

theorem lastPair?_toPairs_ofPairs (pairs : List (Text × α)) : lastPair? (ofPairs pairs).toPairs = lastPair? pairs := by
  funext form
  have h := findIn_ofPairs (ofPairs pairs).toPairs form
  rw [ofPairs_toPairs, findIn_ofPairs] at h
  exact h.symm

/-! ### Places, spellings and values -/

theorem toPairs_mergedPairs (o : Options α) (pairs : List (Text × α)) :
    (o.mergedPairs pairs).toPairs = o.toPairs.map (overlaid pairs) ++ added o pairs := by
  have hkept : (o.toPairs.map folded).filterMap (lastPair? (o.toPairs ++ pairs)) = o.toPairs.map (overlaid pairs) := by
    rw [List.filterMap_map, ← List.filterMap_eq_map]
    refine List.filterMap_congr fun entry he => ?_
    show lastPair? (o.toPairs ++ pairs) (folded entry) = some (overlaid pairs entry)
    rw [lastPair?_append, lastPair?_of_mem he, overlaid]
    cases lastPair? pairs (folded entry) <;> rfl
  have hadded : ((pairs.map folded).removeAll (o.toPairs.map folded)).eraseDups.filterMap
      (lastPair? (o.toPairs ++ pairs)) = added o pairs := by
    refine List.filterMap_congr fun form hf => ?_
    have hnew : form ∉ o.toPairs.map folded := by
      have hmem := List.mem_eraseDups.mp hf
      simp only [List.removeAll, List.mem_filter, Bool.not_eq_true', List.elem_eq_mem, decide_eq_false_iff_not] at hmem
      exact hmem.2
    rw [lastPair?_append, lastPair?_eq_none hnew, Option.or_none]
  have hforms : (o.toPairs.map folded).eraseDups = o.toPairs.map folded := eraseDups_of_nodup o.distinct
  calc (o.mergedPairs pairs).toPairs
      = ((o.toPairs ++ pairs).map folded).eraseDups.filterMap (lastPair? (o.toPairs ++ pairs)) := toPairs_ofPairs _
    _ = (o.toPairs.map folded).filterMap (lastPair? (o.toPairs ++ pairs)) ++
          ((pairs.map folded).removeAll (o.toPairs.map folded)).eraseDups.filterMap
            (lastPair? (o.toPairs ++ pairs)) := by
        rw [List.map_append, List.eraseDups_append, List.filterMap_append, hforms]
    _ = o.toPairs.map (overlaid pairs) ++ added o pairs := by rw [hkept, hadded]

theorem find?_mergedPairs (o : Options α) (pairs : List (Text × α)) (key : Value) :
    (o.mergedPairs pairs).find? key = (given? pairs key).or (o.find? key) := by
  cases key with
  | text key => exact get?_mergedPairs o pairs key
  | _ => rfl

/-! ### Merging as an operation -/

theorem added_toPairs_ofPairs (o : Options α) (pairs : List (Text × α)) :
    added o (ofPairs pairs).toPairs = added o pairs := by
  have hforms : (ofPairs pairs).toPairs.map folded = (pairs.map folded).eraseDups := folded_ofPairs pairs
  have htwice : (pairs.map folded).eraseDups.eraseDups = (pairs.map folded).eraseDups := by
    rw [← hforms]
    exact eraseDups_of_nodup (ofPairs pairs).distinct
  unfold added
  rw [lastPair?_toPairs_ofPairs, hforms, List.removeAll, List.removeAll, eraseDups_filter, htwice, ← eraseDups_filter]

/-- Pairs that are set one after the other come to the same as the options that they make. -/
theorem mergedPairs_toPairs_ofPairs (o : Options α) (pairs : List (Text × α)) :
    o.mergedPairs (ofPairs pairs).toPairs = o.mergedPairs pairs := by
  have hoverlaid : overlaid (ofPairs pairs).toPairs = overlaid pairs := by
    unfold overlaid
    rw [lastPair?_toPairs_ofPairs]
  apply ext
  show (o.mergedPairs _).toPairs = (o.mergedPairs _).toPairs
  rw [toPairs_mergedPairs, toPairs_mergedPairs, hoverlaid, added_toPairs_ofPairs]

theorem merged_assoc (a b c : Options α) : (a.merged b).merged c = a.merged (b.merged c) := by
  calc (a.merged b).merged c
      = (a.insertAll b.toPairs).insertAll c.toPairs := by
        rw [← mergedPairs_eq, ← mergedPairs_eq]
        rfl
    _ = a.mergedPairs (b.toPairs ++ c.toPairs) := by rw [mergedPairs_eq, insertAll_append]
    _ = a.merged (b.merged c) := (mergedPairs_toPairs_ofPairs a _).symm

theorem merged_self (a : Options α) : a.merged a = a := by
  have hnone : added a a.toPairs = [] := by
    have hremoved : (a.toPairs.map folded).removeAll (a.toPairs.map folded) = [] := by
      rw [List.removeAll, List.filter_eq_nil_iff]
      intro form hf
      simpa using hf
    rw [added, hremoved, List.eraseDups_nil, List.filterMap_nil]
  have hsame : a.toPairs.map (overlaid a.toPairs) = a.toPairs := by
    refine (List.map_congr_left fun entry he => ?_).trans (List.map_id _)
    rw [overlaid, lastPair?_of_mem he]
    rfl
  apply ext
  show (a.mergedPairs a.toPairs).toPairs = a.toPairs
  rw [toPairs_mergedPairs, hsame, hnone, List.append_nil]

/-! ### Mappings with keys of any kind -/

/-- A pair as an entry of a mapping whose keys may be of any kind. -/
def keyed (pair : Text × Value) : Value × Value := (.text pair.1, pair.2)

theorem checkKeys_keyed : ∀ pairs : List (Text × Value), checkKeys (pairs.map keyed) = .ok ()
  | [] => rfl
  | _ :: pairs => checkKeys_keyed pairs

theorem insertEntry_keyed {key : Text} (value : Value) : ∀ {pairs : List (Text × Value)}, key ∉ pairs.map (·.1) →
    Value.insertEntry (.text key) value (pairs.map keyed) = (pairs ++ [(key, value)]).map keyed
  | [], _ => rfl
  | pair :: pairs, h => by
    rw [List.map_cons, List.mem_cons, not_or] at h
    have hne : ¬(Value.text pair.1).sameKey (.text key) := fun he => h.1 (beq_iff_eq.mp he).symm
    rw [List.map_cons, Value.insertEntry, keyed, if_neg hne, insertEntry_keyed value h.2]
    rfl

/-- A mapping whose keys are different texts is made of the pairs as they are. -/
theorem mapping_keyed {pairs : List (Text × Value)} (h : (pairs.map (·.1)).Nodup) :
    mapping (pairs.map keyed) = .ok (pairs.map keyed) := by
  have hentries : Value.ofEntries (pairs.map keyed) = pairs.map keyed := by
    induction pairs using List.reverseRecOn with
    | nil => rfl
    | append_singleton pairs pair ih =>
      rw [List.map_append, List.nodup_append] at h
      have hnew : pair.1 ∉ pairs.map (·.1) := fun hm => h.2.2 _ hm _ (List.mem_singleton_self _) rfl
      rw [List.map_append, Value.ofEntries, List.foldl_append, ← Value.ofEntries, ih h.1]
      exact (insertEntry_keyed pair.2 hnew).trans List.map_append
  rw [mapping, checkKeys_keyed, hentries]
  rfl

theorem foldlM_keyed : ∀ (pairs : List (Text × Value)) (o : Options Value),
    (pairs.map keyed).foldlM (fun o pair => match pair.1 with
      | .text key => .ok (o.insert key pair.2)
      | key => .error (.noAttribute key.kindName "casefold")) o = (.ok (o.insertAll pairs) : Except Failure _)
  | [], _ => rfl
  | pair :: pairs, o => foldlM_keyed pairs (o.insert pair.1 pair.2)

theorem mergedMapping_keyed (o : Options Value) {pairs : List (Text × Value)} (h : (pairs.map (·.1)).Nodup) :
    o.mergedMapping (pairs.map keyed) = .ok (o.mergedPairs pairs) := by
  have happend : o.toEntries ++ pairs.map keyed = (o.toPairs ++ pairs).map keyed := List.map_append.symm
  rw [mergedMapping, mapping_keyed h]
  show ofValuePairs (o.toEntries ++ pairs.map keyed) = _
  rw [happend]
  exact foldlM_keyed (o.toPairs ++ pairs) empty

/-! ### The laws -/

/-- Options with pairs on top look a key up in the pairs first, and their entries are those from before, respelled where
    pairs overlay them, followed by the new forms. Merging with the empty options on either side, or with the options
    themselves, gives the same options; merging is associative, down to order and spelling. A mapping whose keys are
    texts is set on top by its pairs. Options are values, so those that are merged stay as they are. -/
theorem merged_laws (a b c : Options α) (pairs : List (Text × α)) :
    (∀ key, (a.mergedPairs pairs).find? key = (given? pairs key).or (a.find? key)) ∧
    (a.mergedPairs pairs).toPairs = a.toPairs.map (overlaid pairs) ++ added a pairs ∧
    (∀ key, (a.merged b).find? key = (b.find? key).or (a.find? key)) ∧
    a.merged b = a.mergedPairs b.toPairs ∧
    a.merged empty = a ∧ empty.merged a = a ∧ a.merged a = a ∧
    (a.merged b).merged c = a.merged (b.merged c) ∧
    ∀ (o : Options Value) (entries : List (Text × Value)), (entries.map (·.1)).Nodup →
      o.mergedMapping (entries.map keyed) = .ok (o.mergedPairs entries) := by
  have hbelow : a.merged empty = a := by
    show ofPairs (a.toPairs ++ []) = a
    rw [List.append_nil, ofPairs_toPairs]
  have habove : empty.merged a = a := ofPairs_toPairs a
  have hlookup : ∀ key, (a.merged b).find? key = (b.find? key).or (a.find? key) := by
    intro key
    have hgiven : given? b.toPairs key = b.find? key := by rw [← find?_ofPairs, ofPairs_toPairs]
    rw [← hgiven]
    exact find?_mergedPairs a b.toPairs key
  exact ⟨find?_mergedPairs a pairs, toPairs_mergedPairs a pairs, hlookup, rfl, hbelow, habove, merged_self a,
    merged_assoc a b c, fun o _ => mergedMapping_keyed o⟩

/-- An entry that is set again in other letters stays in its place; a new one comes last. -/
theorem merged_laws_respelled :
    let host : Options Value := ofPairs [("First", .int 1), ("second", .int 2)]
    let cli : List (Text × Value) := [("SECOND", .int 3), ("third", .int 4)]
    (cli.map (·.1)).Nodup ∧ host.mergedMapping (cli.map keyed) = .ok (host.mergedPairs cli) ∧
      (host.toPairs.map (overlaid cli) ++ added host cli).map (·.1) = ["First", "SECOND", "third"] ∧
      (host.mergedPairs cli).keys = ["First", "SECOND", "third"] := by
  intro host cli
  have hkeys : (host.toPairs.map (overlaid cli) ++ added host cli).map (·.1) = ["First", "SECOND", "third"] := by
    decide +kernel
  have hdistinct : (cli.map (·.1)).Nodup := by decide +kernel
  obtain ⟨-, hpairs, -, -, -, -, -, -, hmapping⟩ := merged_laws host host host cli
  refine ⟨hdistinct, hmapping host cli hdistinct, hkeys, ?_⟩
  rw [← hkeys, ← hpairs]
  rfl

end Options
end GeneratorHost
