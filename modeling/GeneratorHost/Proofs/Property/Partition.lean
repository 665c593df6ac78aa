import GeneratorHost.Command
import GeneratorHost.Proofs.Property

/-! Properties and warnings part the entries between them: an entry with exactly one equals sign behind its marker is a
    property, and every other one is warned about. The marker that the command puts back before a colon makes no
    difference to this; only the entry that a warning quotes shows it. -/

namespace GeneratorHost
namespace Property

/-- Whether an entry without its marker holds exactly one equals sign. -/
def isProperty (entry : Text) : Bool := (stripMarker entry marker).letters.count (.char '=') == 1

/-- An entry as it was typed: what starts with a colon stood behind the letter of the option. -/
def restored (entry : Text) : Text := if Text.startsWith ":" entry then "-P" ++ entry else entry

variable {entry : Text} {entries : List Text}

/-! ### Keys and values -/

theorem isProperty_iff : isProperty entry ↔ ∃ key value, Says entry key value := by
  rw [isProperty, beq_iff_eq]
  constructor
  · intro hone
    obtain ⟨key, value, h⟩ := List.append_of_mem (List.count_pos_iff.mp (hone ▸ Nat.one_pos))
    have hsplit := congrArg (List.count (Letter.char '=')) h
    rw [hone, List.count_append, List.count_cons_self] at hsplit
    have hkey : key.count (Letter.char '=') = 0 := by omega
    have hvalue : value.count (Letter.char '=') = 0 := by omega
    exact ⟨⟨key⟩, ⟨value⟩, h, List.count_eq_zero.mp hkey, List.count_eq_zero.mp hvalue⟩
  · rintro ⟨key, value, h, hkey, hvalue⟩
    rw [h, List.count_append, List.count_cons_self, List.count_eq_zero.mpr hkey, List.count_eq_zero.mpr hvalue]

theorem isProperty_eq_isSome (entry : Text) : isProperty entry = (split? entry).isSome := by
  rw [Bool.eq_iff_iff, isProperty_iff, Option.isSome_iff_exists]
  simp only [Prod.exists, split?_eq_some_iff]

theorem given_cons_of_property (h : isProperty entry) :
    ∃ key value, Says entry key value ∧ given (entry :: entries) = (keyStart ++ key, value) :: given entries := by
  obtain ⟨key, value, hsays⟩ := isProperty_iff.mp h
  have hpair : pair? entry = some (keyStart ++ key, value) := pair?_eq_some_iff.mpr ⟨key, hsays, rfl⟩
  exact ⟨key, value, hsays, by rw [given, List.filterMap_cons, hpair]; rfl⟩

theorem given_cons_of_not_property (h : ¬isProperty entry) : given (entry :: entries) = given entries := by
  have hpair : pair? entry = none := by
    rw [isProperty_eq_isSome, Option.not_isSome_iff_eq_none] at h
    rw [pair?, h]
    rfl
  rw [given, List.filterMap_cons, hpair]
  rfl

theorem forall₂_given (entries : List Text) :
    List.Forall₂ (fun entry pair => ∃ key, Says entry key pair.2 ∧ pair.1 = keyStart ++ key)
      (entries.filter isProperty) (given entries) := by
  induction entries with
  | nil => exact .nil
  | cons entry entries ih =>
    by_cases h : isProperty entry
    · obtain ⟨key, value, hsays, hgiven⟩ : ∃ key value, Says entry key value ∧
          given (entry :: entries) = (keyStart ++ key, value) :: given entries := given_cons_of_property h
      rw [List.filter_cons_of_pos h, hgiven]
      exact .cons ⟨key, hsays, rfl⟩ ih
    · rwa [List.filter_cons_of_neg h, given_cons_of_not_property h]

theorem given_filter (entries : List Text) : given (entries.filter isProperty) = given entries := by
  induction entries with
  | nil => rfl
  | cons entry entries ih =>
    by_cases h : isProperty entry
    · rw [List.filter_cons_of_pos h, given, List.filterMap_cons, ← given, ih, given, given, List.filterMap_cons]
    · rw [List.filter_cons_of_neg h, given_cons_of_not_property h, ih]

theorem properties_eq_lastValues (entries : List Text) : (parse entries).properties = lastValues (given entries) := by
  rw [properties_parse, collapse_eq_setAll, setAll_eq_lastValues]

/-! ### Warnings -/

theorem warnings_foldl (parsed : Parsed) (entries : List Text) :
    (entries.foldl Parsed.take parsed).warnings =
      parsed.warnings ++ (entries.filter fun entry => !isProperty entry).map warning := by
  induction entries generalizing parsed with
  | nil => simp
  | cons entry entries ih =>
    rw [List.foldl_cons, ih]
    cases h : split? entry <;> simp [Parsed.take, isProperty_eq_isSome, h]

theorem warnings_parse (entries : List Text) :
    (parse entries).warnings = (entries.filter fun entry => !isProperty entry).map warning := warnings_foldl _ entries

/-! ### The marker -/

theorem stripMarker_restored (entry : Text) : stripMarker (restored entry) marker = stripMarker entry marker := by
  unfold restored
  split
  · next h =>
    obtain ⟨rest, hrest⟩ := List.isPrefixOf_iff_prefix.mp h
    obtain ⟨letters⟩ := entry
    obtain rfl : Letter.char ':' :: rest = letters := hrest
    rfl
  · rfl

theorem isProperty_restored (entry : Text) : isProperty (restored entry) = isProperty entry := by
  rw [isProperty, stripMarker_restored, isProperty]

theorem given_restored (entries : List Text) : given (entries.map restored) = given entries := by
  have hpair : ∀ entry, pair? (restored entry) = pair? entry := by
    intro entry
    rw [pair?, split?, stripMarker_restored, pair?, split?]
  rw [given, List.filterMap_map]
  exact List.filterMap_congr fun entry _ => hpair entry

theorem restoreMarker_eq (property : Text) : Command.restoreMarker property = restored property := by
  have hcolon : (property.letters.head? == some (.char ':')) = Text.startsWith ":" property := by
    obtain ⟨letters⟩ := property
    cases letters with
    | nil => rfl
    | cons l ls =>
      show (some l == some (.char ':')) = ((Letter.char ':' == l) && true)
      rw [Bool.and_true, Bool.eq_iff_iff, beq_iff_eq, beq_iff_eq, Option.some.injEq]
      exact eq_comm
  rw [Command.restoreMarker, hcolon]
  rfl

/-- Every entry is either one of the properties or warned about. The warnings are about the entries that do not hold
    exactly one equals sign behind their marker, in order, and quote them as given. The others give a key and a value
    each, and every key that is given is a property, in the order in which the keys came first, with its last value; so
    the properties are the same for any entries that have these in common. They are the same too for the entries that the
    command hands over, with the marker put back where only the colon was left, and so are the warnings but for what they
    quote. -/
theorem parse_partition (entries : List Text) :
    (parse entries).warnings = (entries.filter fun entry => !isProperty entry).map warning ∧
    List.Forall₂ (fun entry pair => ∃ key, Says entry key pair.2 ∧ pair.1 = keyStart ++ key)
      (entries.filter isProperty) (given entries) ∧
    (parse entries).properties = lastValues (given entries) ∧
    (∀ others, others.filter isProperty = entries.filter isProperty →
      (parse others).properties = (parse entries).properties) ∧
    (parse (entries.map restored)).properties = (parse entries).properties ∧
    (parse (entries.map restored)).warnings =
      (entries.filter fun entry => !isProperty entry).map (fun entry => warning (restored entry)) ∧
    ∀ i : Command.Invocation, (Command.request i).properties = i.properties.map restored := by
  refine ⟨warnings_parse entries, forall₂_given entries, properties_eq_lastValues entries, fun others h => ?_, ?_, ?_,
    fun i => ?_⟩
  · rw [properties_eq_lastValues, ← given_filter, h, given_filter, ← properties_eq_lastValues]
  · rw [properties_eq_lastValues, given_restored, ← properties_eq_lastValues]
  · rw [warnings_parse, List.filter_map, List.map_map]
    simp only [Function.comp_def, isProperty_restored]
  · exact List.map_congr_left fun property _ => restoreMarker_eq property

/-- A line of entries with each spelling of the marker, two that are no properties, and a key that is given twice. -/
theorem parse_partition_spelled :
    let entries : List Text := ["-P:a=1", "b", ":c=", "-P:a=2", ":d=e=f"]
    let others : List Text := ["x=y=z", "-P:a=1", ":c=", "-P:a=2"]
    others.filter isProperty = entries.filter isProperty ∧
      (parse others).properties = (parse entries).properties ∧
      (parse entries).properties = ([("build_property.a", "2"), ("build_property.c", "")] : List (Text × Text)) ∧
      (parse (entries.map restored)).warnings = [warning "b", warning "-P:d=e=f"] := by
  intro entries others
  have hsame : others.filter isProperty = entries.filter isProperty := by decide +kernel
  obtain ⟨-, -, hproperties, hothers, -, hwarnings, -⟩ := parse_partition entries
  refine ⟨hsame, hothers others hsame, ?_, ?_⟩
  · rw [hproperties]
    decide +kernel
  · rw [hwarnings]
    decide +kernel

end Property
end GeneratorHost
