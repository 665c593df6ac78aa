import GeneratorHost.Failure
import GeneratorHost.Text.Fold

/-! Options: an ordered mapping whose keys are looked up without regard to case. Main statement: no two
    entries have keys of one folded form. A key that is set again keeps its place and takes the new
    spelling. -/

namespace GeneratorHost
namespace Options

variable {α : Type}

/-- The folded form of an entry's key. -/
def folded (entry : Text × α) : Text := Text.foldCase entry.1

/-- Sets a key, in the place of the entry whose key has the same folded form. -/
def insertIn (key : Text) (value : α) : List (Text × α) → List (Text × α)
  | [] => [(key, value)]
  | entry :: rest =>
    if folded entry = Text.foldCase key then (key, value) :: rest else entry :: insertIn key value rest

theorem folded_insertIn (key : Text) (value : α) (entries : List (Text × α)) :
    (insertIn key value entries).map folded =
      if Text.foldCase key ∈ entries.map folded then entries.map folded
      else entries.map folded ++ [Text.foldCase key] := by
  induction entries with
  | nil => simp [insertIn, folded]
  | cons entry rest ih =>
    by_cases h : folded entry = Text.foldCase key
    · simp [insertIn, h]
      simp [folded]
    · have h' : ¬Text.foldCase key = folded entry := fun e => h e.symm
      simp only [insertIn, h, ↓reduceIte, List.map_cons, ih, List.mem_cons, h', false_or]
      split <;> simp

theorem nodup_insertIn (key : Text) (value : α) {entries : List (Text × α)}
    (h : (entries.map folded).Nodup) : ((insertIn key value entries).map folded).Nodup := by
  rw [folded_insertIn]
  split
  · exact h
  · next hn =>
    rw [List.nodup_append]
    refine ⟨h, by simp, ?_⟩
    intro a ha b hb hab
    rw [List.mem_singleton] at hb
    exact hn (hb ▸ hab ▸ ha)

/-- The first entry whose key has the given folded form. -/
def findIn (key : Text) : List (Text × α) → Option (Text × α)
  | [] => none
  | entry :: rest => if folded entry = key then some entry else findIn key rest

end Options

/-- An ordered mapping from keys to values, one entry for each folded form of a key. -/
structure Options (α : Type) where
  entries : List (Text × α)
  distinct : (entries.map Options.folded).Nodup

namespace Options

variable {α : Type}

instance : Inhabited (Options α) := ⟨⟨[], by simp⟩⟩

def empty : Options α := ⟨[], by simp⟩

def insert (o : Options α) (key : Text) (value : α) : Options α :=
  ⟨insertIn key value o.entries, nodup_insertIn key value o.distinct⟩

/-- Sets the keys of `pairs`, in order. -/
def insertAll (o : Options α) (pairs : List (Text × α)) : Options α :=
  pairs.foldl (fun o pair => o.insert pair.1 pair.2) o

/-- The options that pairs make, in order; the last value of a key counts. -/
def ofPairs (pairs : List (Text × α)) : Options α := empty.insertAll pairs

/-- The keys, as spelled when they were last set, with their values. -/
def toPairs (o : Options α) : List (Text × α) := o.entries

def keys (o : Options α) : List Text := o.entries.map (·.1)

def values (o : Options α) : List α := o.entries.map (·.2)

def size (o : Options α) : Nat := o.entries.length

/-- The value of a key, whatever its case. -/
def get? (o : Options α) (key : Text) : Option α :=
  (findIn (Text.foldCase key) o.entries).map (·.2)

/-- The value of a key of any kind; only texts are keys. -/
def find? (o : Options α) : Value → Option α
  | .text key => o.get? key
  | _ => none

def contains (o : Options α) (key : Value) : Bool := (o.find? key).isSome

/-- What is missing when a key is looked up in vain. -/
def missing : Value → Failure
  | .text key => .missingKey (.text (Text.foldCase key))
  | key => .missingKey key

/-- The value of a key that has to be there. -/
def get (o : Options α) (key : Value) : Except Failure α :=
  match o.find? key with
  | some value => .ok value
  | none => .error (missing key)

/-- The value of a key, or `default` where the key is missing. -/
def getD (o : Options α) (key : Value) (default : α) : α :=
  match o.get key with
  | .ok value => value
  | .error _ => default

/-- The options with those of `other` set on top. -/
def merged (o other : Options α) : Options α := ofPairs (o.toPairs ++ other.toPairs)

/-- The options with pairs set on top. -/
def mergedPairs (o : Options α) (pairs : List (Text × α)) : Options α := ofPairs (o.toPairs ++ pairs)

/-- Whether two lists of pairs hold the same keys, as spelled, with equal values. -/
def samePairs (equal : α → α → Bool) (xs ys : List (Text × α)) : Bool :=
  xs.length == ys.length &&
    xs.all fun x => ys.any fun y => x.1 == y.1 && equal x.2 y.2

/-- How options are shown, given how a value is written. -/
def shown (written : α → String) (o : Options α) : String :=
  "ConfigurationContext(\x7b" ++
    ", ".intercalate (o.entries.map fun entry => Text.quoted entry.1 ++ ": " ++ written entry.2) ++ "\x7d)"

/-- Checks that values can be keys of a mapping, which collections cannot. -/
def checkKeys : List (Value × α) → Except Failure Unit
  | [] => .ok ()
  | (key, _) :: rest => if key.isKey then checkKeys rest else .error (.unhashable key.kindName)

/-- The options that pairs with keys of any kind make. Every key has to be a text. -/
def ofValuePairs : List (Value × α) → Except Failure (Options α) :=
  List.foldlM (fun o pair => match pair.1 with
    | .text key => .ok (o.insert key pair.2)
    | key => .error (.noAttribute key.kindName "casefold")) empty

/-- The mapping that pairs make, in which each key stands once, as it is spelled. -/
def mapping (pairs : List (Value × Value)) : Except Failure (List (Value × Value)) := do
  checkKeys pairs
  pure (Value.ofEntries pairs)

/-- The options that a mapping of pairs makes. -/
def ofMapping (pairs : List (Value × Value)) : Except Failure (Options Value) := do
  ofValuePairs (← mapping pairs)

def toEntries (o : Options Value) : List (Value × Value) := o.entries.map fun entry => (.text entry.1, entry.2)

/-- The options with a mapping of pairs set on top. -/
def mergedMapping (o : Options Value) (pairs : List (Value × Value)) : Except Failure (Options Value) := do
  ofValuePairs (o.toEntries ++ (← mapping pairs))

/-- Whether options hold the same keys, as spelled, with the same values as a mapping of pairs. -/
def isMapping (o : Options Value) (pairs : List (Value × Value)) : Except Failure Bool := do
  return (Value.map o.toEntries).equal (.map (← mapping pairs))

/-- Options cannot be changed: neither an entry nor an attribute. -/
def change (_ : Options α) (what : Fixed) : Except Failure (Options α) := .error (.fixed what)

end Options
end GeneratorHost
