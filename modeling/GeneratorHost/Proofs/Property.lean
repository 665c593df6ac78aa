import GeneratorHost.Proofs.Options
import GeneratorHost.Proofs.Split
import GeneratorHost.Property

/-! Properties from the command line, looked up on top of other options. A key that is given again, spelled
    exactly so, keeps the place of its first entry among the properties; only then are keys of one folded form
    set over one another. So of the spellings of a key the one that was used first last counts, with the last
    value given under it. -/

namespace GeneratorHost
namespace Property
open Options

/-- An entry without its marker is a key, one equals sign and a value. -/
def Says (entry key value : Text) : Prop :=
  (stripMarker entry marker).letters = key.letters ++ Letter.char '=' :: value.letters ∧
    Letter.char '=' ∉ key.letters ∧ Letter.char '=' ∉ value.letters

theorem split?_eq_some_iff {entry key value : Text} : split? entry = some (key, value) ↔ Says entry key value := by
  have hsplit : split? entry = some (key, value) ↔
      Text.splitWhere (· == Letter.char '=') (stripMarker entry marker).letters = [key.letters, value.letters] := by
    simp only [split?, Text.splitAt]
    generalize Text.splitWhere (· == Letter.char '=') (stripMarker entry marker).letters = pieces
    rcases pieces with _ | ⟨first, _ | ⟨second, _ | ⟨third, rest⟩⟩⟩
    · simp
    · simp
    · simp only [List.map_cons, List.map_nil, Option.some.injEq, Prod.mk.injEq, List.cons.injEq, and_true]
      constructor
      · rintro ⟨rfl, rfl⟩
        exact ⟨rfl, rfl⟩
      · rintro ⟨rfl, rfl⟩
        exact ⟨rfl, rfl⟩
    · simp
  rw [hsplit, Text.splitWhere_eq_pair_iff]
  constructor
  · rintro ⟨y, hy, h, hk, hv⟩
    obtain rfl := beq_iff_eq.mp hy
    exact ⟨h, fun hm => hk _ hm (by simp), fun hm => hv _ hm (by simp)⟩
  · rintro ⟨h, hk, hv⟩
    refine ⟨_, beq_self_eq_true _, h, fun x hx hp => hk ?_, fun x hx hp => hv ?_⟩
    · rwa [← beq_iff_eq.mp hp]
    · rwa [← beq_iff_eq.mp hp]

/-! ### What was given -/

/-- The full key and the value of an entry that has the form of a property. -/
def pair? (entry : Text) : Option (Text × Text) := (split? entry).map fun pair => (keyStart ++ pair.1, pair.2)

/-- The full keys and the values that entries give, in order. -/
def given (entries : List Text) : List (Text × Text) := entries.filterMap pair?

/-- The spellings of a key among pairs, in the order in which each was used first. -/
def spellings (key : Text) (pairs : List (Text × Text)) : List Text :=
  (pairs.map (·.1)).eraseDups.filter (alike key)

theorem pair?_eq_some_iff {entry : Text} {pair : Text × Text} :
    pair? entry = some pair ↔ ∃ key, Says entry key pair.2 ∧ keyStart ++ key = pair.1 := by
  obtain ⟨full, value⟩ := pair
  simp only [pair?, Option.map_eq_some_iff, Prod.exists, split?_eq_some_iff, Prod.mk.injEq]
  constructor
  · rintro ⟨key, value', h, hk, rfl⟩
    exact ⟨key, h, hk⟩
  · rintro ⟨key, h, hk⟩
    exact ⟨key, value, h, hk, rfl⟩

theorem mem_given_iff {entries : List Text} {pair : Text × Text} :
    pair ∈ given entries ↔ ∃ entry ∈ entries, ∃ key, Says entry key pair.2 ∧ keyStart ++ key = pair.1 := by
  simp only [given, List.mem_filterMap, pair?_eq_some_iff]

/-- The properties that pairs make, each key as it is spelled. -/
def collapse (pairs : List (Text × Text)) : List (Text × Text) :=
  pairs.foldl (fun properties pair => insertExact pair.1 pair.2 properties) []

theorem properties_foldl (parsed : Parsed) (entries : List Text) :
    (entries.foldl Parsed.take parsed).properties =
      (given entries).foldl (fun properties pair => insertExact pair.1 pair.2 properties) parsed.properties := by
  induction entries generalizing parsed with
  | nil => rfl
  | cons entry entries ih =>
    rw [List.foldl_cons, ih]
    cases h : split? entry with
    | none => simp [Parsed.take, given, pair?, h]
    | some pair => simp [Parsed.take, given, pair?, h]

theorem properties_parse (entries : List Text) : (parse entries).properties = collapse (given entries) :=
  properties_foldl _ entries

/-! ### The properties -/

theorem insertExact_eq_setKeyed (key value : Text) :
    ∀ pairs : List (Text × Text), insertExact key value pairs = setKeyed key value pairs
  | [] => rfl
  | pair :: rest => by rw [insertExact, setKeyed, insertExact_eq_setKeyed key value rest]

theorem collapse_eq_setAll (pairs : List (Text × Text)) : collapse pairs = setAll pairs := by
  simp only [collapse, setAll, insertExact_eq_setKeyed]

/-- The last property that is spelled as a key, whatever its case, is the spelling that was used first last; it
    holds the last value given under that spelling. -/
theorem lastValue?_collapse (key : Text) (pairs : List (Text × Text)) :
    lastValue? (alike key) (collapse pairs) =
      (spellings key pairs).getLast?.bind fun newest => lastValue? (· == newest) pairs := by
  have hs : (spellings key pairs).getLast? =
      ((setAll pairs).reverse.find? fun pair => alike key pair.1).map (·.1) := by
    rw [spellings, ← keys_setAll, List.getLast?_filter, ← List.map_reverse, List.find?_map]
    rfl
  rw [hs, collapse_eq_setAll, lastValue?]
  cases h : (setAll pairs).reverse.find? fun pair => alike key pair.1 with
  | none => rfl
  | some pair =>
    have hm : pair ∈ setAll pairs := List.mem_reverse.mp (List.mem_of_find?_eq_some h)
    exact (lastValue?_of_mem_setAll hm).symm

/-! ### Looking up a property -/

theorem lastValue?_given {p : Text → Bool} {before after : List Text} {entry key value : Text}
    (h : Says entry key value) (hp : p (keyStart ++ key))
    (hafter : ∀ later ∈ after, ∀ key' value', Says later key' value' → ¬p (keyStart ++ key')) :
    lastValue? p (given (before ++ entry :: after)) = some value := by
  have hentry : pair? entry = some (keyStart ++ key, value) := pair?_eq_some_iff.mpr ⟨key, h, rfl⟩
  have hnone : lastValue? p (given after) = none := by
    rw [lastValue?_eq_none_iff]
    intro pair hm
    obtain ⟨later, hl, key', hs, hk⟩ := mem_given_iff.mp hm
    exact hk ▸ hafter later hl key' pair.2 hs
  have hsplit : given (before ++ entry :: after) =
      (given before ++ [(keyStart ++ key, value)]) ++ given after := by
    simp only [given, List.filterMap_append, List.filterMap_cons, hentry, List.append_assoc]
    rfl
  rw [hsplit, lastValue?_append, hnone, lastValue?_concat]
  simp [hp]

/-- A key that is given has a newest spelling, and a last value under it. -/
theorem exists_newest {key : Text} {pairs : List (Text × Text)} {pair : Text × Text} (h : pair ∈ pairs)
    (hk : alike key pair.1) :
    ∃ newest current, (spellings key pairs).getLast? = some newest ∧
      lastValue? (· == newest) pairs = some current := by
  have hm : pair.1 ∈ spellings key pairs :=
    List.mem_filter.mpr ⟨List.mem_eraseDups.mpr (List.mem_map_of_mem h), hk⟩
  cases hn : (spellings key pairs).getLast? with
  | none =>
    rw [List.getLast?_eq_none_iff] at hn
    rw [hn] at hm
    cases hm
  | some newest =>
    have hin : newest ∈ spellings key pairs := List.mem_of_getLast? hn
    obtain ⟨pair', hp', he⟩ := List.mem_map.mp (List.mem_eraseDups.mp (List.mem_filter.mp hin).1)
    cases hv : lastValue? (· == newest) pairs with
    | none =>
      rw [lastValue?_eq_none_iff] at hv
      exact absurd (beq_iff_eq.mpr he) (hv pair' hp')
    | some current => exact ⟨newest, current, rfl, hv⟩

/-- A key that no entry gives is looked up in the options below. Of one that entries give, the value is the last
    one given under its newest spelling; so it is the value of the last entry exactly if the two are the same,
    as they are if that entry is spelled in the newest way. -/
theorem get?_layered (options : List (Text × Text)) (entries : List Text) (key : Text) :
    ((∀ entry ∈ entries, ∀ own value, Says entry own value → ¬alike key (keyStart ++ own)) →
      ((ofPairs options).mergedPairs (parse entries).properties).get? key = (ofPairs options).get? key) ∧
    ∀ before entry after own value, entries = before ++ entry :: after → Says entry own value →
      alike key (keyStart ++ own) →
      (∀ later ∈ after, ∀ own' value', Says later own' value' → ¬alike key (keyStart ++ own')) →
      ∃ newest current, (spellings key (given entries)).getLast? = some newest ∧
        lastValue? (· == newest) (given entries) = some current ∧
        ((ofPairs options).mergedPairs (parse entries).properties).get? key = some current ∧
        (((ofPairs options).mergedPairs (parse entries).properties).get? key = some value ↔ current = value) ∧
        (keyStart ++ own = newest → current = value) := by
  have hlookup : ((ofPairs options).mergedPairs (parse entries).properties).get? key =
      ((spellings key (given entries)).getLast?.bind fun newest => lastValue? (· == newest) (given entries)).or
        ((ofPairs options).get? key) := by
    rw [get?_mergedPairs, properties_parse, lastValue?_collapse]
  constructor
  · intro hnot
    have hnil : spellings key (given entries) = [] := by
      rw [spellings, List.filter_eq_nil_iff]
      intro spelling hm
      obtain ⟨pair, hp, rfl⟩ := List.mem_map.mp (List.mem_eraseDups.mp hm)
      obtain ⟨entry, he, own, hs, hk⟩ := mem_given_iff.mp hp
      exact hk ▸ hnot entry he own pair.2 hs
    rw [hlookup, hnil]
    rfl
  · intro before entry after own value hentries hentry hkey hafter
    have hm : (keyStart ++ own, value) ∈ given entries :=
      mem_given_iff.mpr ⟨entry, by simp [hentries], own, hentry, rfl⟩
    obtain ⟨newest, current, hn, hv⟩ := exists_newest hm hkey
    have hfound : ((ofPairs options).mergedPairs (parse entries).properties).get? key = some current := by
      rw [hlookup, hn, Option.bind_some, hv]
      rfl
    refine ⟨newest, current, hn, hv, hfound, ?_, ?_⟩
    · rw [hfound, Option.some.injEq]
    · intro hown
      have hlast : lastValue? (· == newest) (given entries) = some value := by
        rw [hentries]
        refine lastValue?_given hentry (beq_iff_eq.mpr hown) fun later hl own' value' hs he => ?_
        exact hafter later hl own' value' hs (by rwa [beq_iff_eq.mp he, ← hown])
      rw [hv, Option.some.injEq] at hlast
      exact hlast

/-- A key given as `A`, then as `a`, then as `A` again: its newest spelling is `a`, whose value is found, and not
    that of the last entry. -/
theorem get?_layered_respelled :
    Says "A=3" "A" "3" ∧ alike "build_property.A" (keyStart ++ "A") ∧
      ((ofPairs []).mergedPairs (parse ["A=1", "a=2", "A=3"]).properties).get? "build_property.A" = some "2" ∧
      ((ofPairs []).mergedPairs (parse ["A=1", "a=2", "A=3"]).properties).get? "build_property.A" ≠ some "3" := by
  have hentry : Says "A=3" "A" "3" := ⟨by decide +kernel, by decide +kernel, by decide +kernel⟩
  have hkey : alike "build_property.A" (keyStart ++ "A") := by decide +kernel
  obtain ⟨newest, current, hn, hv, hfound, hiff, -⟩ :=
    (get?_layered [] ["A=1", "a=2", "A=3"] "build_property.A").2 ["A=1", "a=2"] "A=3" [] "A" "3" rfl hentry hkey
      (fun _ h => nomatch h)
  have hnewest : (spellings "build_property.A" (given ["A=1", "a=2", "A=3"])).getLast? =
      some ("build_property.a" : Text) := by decide +kernel
  have hlast : lastValue? (· == ("build_property.a" : Text)) (given ["A=1", "a=2", "A=3"]) = some ("2" : Text) := by
    decide +kernel
  obtain rfl := Option.some.inj (hnewest.symm.trans hn)
  obtain rfl := Option.some.inj (hlast.symm.trans hv)
  exact ⟨hentry, hkey, hfound, fun h => absurd (hiff.mp h) (by decide +kernel)⟩

end Property
end GeneratorHost
