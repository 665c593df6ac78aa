import GeneratorHost.Proofs.LastValue
import GeneratorHost.Proofs.Settings

/-! What a mapping comes to as settings. Its options are taken by the texts of their keys, so that keys of one text are one
    option. Each value has a text or is refused, and all that are refused are told together. Paths are taken from the
    directory of the file. -/

namespace GeneratorHost

namespace Reading

variable {α : Type} {rs : List (Reading α)}

def issues : Reading α → List Issue
  | .ok _ => []
  | .error found => found

theorem all_eq_ok_iff {values : List α} : all rs = .ok values ↔ rs = values.map .ok := by
  induction rs generalizing values with
  | nil => cases values <;> simp [all]
  | cons r rs ih =>
    rw [all]
    cases r with
    | error found => cases values <;> cases all rs <;> simp [both, Except.map]
    | ok a =>
      cases h : all rs with
      | error found =>
        have hne : ∀ values : List α, rs ≠ values.map .ok := by
          intro values he
          rw [ih.mpr he] at h
          cases h
        cases values <;> simp [both, Except.map, hne]
      | ok rest =>
        obtain rfl := ih.mp h
        have hinj : Function.Injective (Except.ok : α → Reading α) := fun _ _ he => Except.ok.inj he
        cases values <;> simp [both, Except.map, hinj.list_map.eq_iff]

/-- Where one of many readings fails, the issues of all of them are told, in order. -/
theorem all_eq_error_iff {found : List Issue} :
    all rs = .error found ↔ (∃ fault, .error fault ∈ rs) ∧ found = rs.flatMap issues := by
  induction rs generalizing found with
  | nil => simp [all]
  | cons r rs ih =>
    rw [all]
    cases h : all rs with
    | ok values =>
      have hnone : ∀ fault, (.error fault : Reading α) ∉ rs := by
        rw [all_eq_ok_iff.mp h]
        simp
      have hissues : rs.flatMap issues = [] := by
        rw [all_eq_ok_iff.mp h, List.flatMap_map]
        simp [issues]
      cases r <;> simp [both, Except.map, hnone, hissues, issues, eq_comm]
    | error more =>
      obtain ⟨hsome, rfl⟩ := ih.mp h
      cases r <;> simp [both, Except.map, hsome, issues, eq_comm]

end Reading

namespace Settings

open FileTree (bytesOf)

/-- The text of the value of an option: truth values and numbers as they are written, a text as it is, bytes as the text
    that they are in UTF-8. -/
def optionText? : Value → Option Text
  | .text t => some t
  | .bool b => some (if b then "true" else "false")
  | .int n => some (Text.ofInt n)
  | .float x => some x.text
  | .bytes bytes => match Text.decode bytes with
    | .ok s => some s
    | .error _ => none
  | _ => none

def complaintOn : Value → Complaint
  | .bytes _ => .brokenText
  | _ => .notText

/-- The options by the texts of their keys. -/
def keyed (options : List (Value × Value)) : List (Text × Value) :=
  lastValues (options.map fun entry => (entry.1.display, entry.2))

/-- The issues of the options without a text. -/
def refusals (options : List (Value × Value)) : List Issue :=
  ((keyed options).filter fun pair => (optionText? pair.2).isNone).map fun pair =>
    ⟨[.field "options", .field (placeName pair.1)], complaintOn pair.2⟩

/-- No key and no value of the options has too many digits to be written. -/
def Writable (options : List (Value × Value)) : Prop :=
  ∀ entry ∈ options, isWritable entry.1 ∧ isWritable entry.2

/-- A mapping whose options are a mapping, and whose additional texts, if there are any, are a list of texts. -/
structure Gives (entries options : List (Value × Value)) (texts : List Text) : Prop where
  options : (Diagnostic.fieldsOf entries).get? "options" = some (.map options)
  texts : (Diagnostic.fieldsOf entries).get? "additional_texts" = none ∧ texts = [] ∨
    (Diagnostic.fieldsOf entries).get? "additional_texts" = some (.list (texts.map .text))

variable {entries options : List (Value × Value)} {texts : List Text}

/-! ### Options -/

theorem textKeyed_eq_keyed (options : List (Value × Value)) :
    textKeyed options = (keyed options).map fun pair => (pair.1, scalarText pair.2) := by
  have hinsert : ∀ (key : Text) (v : Value) (pairs : List (Text × Value)),
      insertKey key v pairs = setKeyed key v pairs := by
    intro key v pairs
    induction pairs with
    | nil => rfl
    | cons pair rest ih => rw [insertKey, setKeyed, ih]
  rw [keyed, ← setAll_eq_lastValues, ← setAll_map, List.map_map, setAll, List.foldl_map, textKeyed]
  simp only [hinsert]
  rfl

theorem readOption_scalarText (pair : Text × Value) : readOption (pair.1, scalarText pair.2) =
    match optionText? pair.2 with
    | some t => .ok (pair.1, t)
    | none => .error [⟨[.field (placeName pair.1)], complaintOn pair.2⟩] := by
  obtain ⟨key, v⟩ := pair
  cases v with
  | bytes bytes =>
    simp only [readOption, scalarText, Value.readText, optionText?]
    cases Text.decode bytes <;> rfl
  | _ => rfl

theorem readOptions_eq_ok_iff {made : List (Text × Text)} : readOptions (.map options) = .ok made ↔
    (keyed options).map (fun pair => (pair.1, optionText? pair.2)) = made.map fun option => (option.1, some option.2) := by
  rw [readOptions, Reading.all_eq_ok_iff, textKeyed_eq_keyed, List.map_map]
  induction keyed options generalizing made with
  | nil => cases made <;> simp
  | cons pair pairs ih =>
    cases made with
    | nil => simp
    | cons option made =>
      rw [List.map_cons, List.map_cons, List.map_cons, List.map_cons, List.cons.injEq, List.cons.injEq, ih]
      refine and_congr_left' ?_
      rw [Function.comp_apply, readOption_scalarText]
      cases optionText? pair.2 <;> simp [Prod.ext_iff]

theorem isSome_of_map_eq {made : List (Text × Text)} (h : (keyed options).map (fun pair => (pair.1, optionText? pair.2)) =
    made.map fun option => (option.1, some option.2)) : ∀ pair ∈ keyed options, (optionText? pair.2).isSome := by
  intro pair hp
  have hm := List.mem_map_of_mem (f := fun pair => (pair.1, optionText? pair.2)) hp
  rw [h] at hm
  obtain ⟨option, -, he⟩ := List.mem_map.mp hm
  have hv : some option.2 = optionText? pair.2 := congrArg Prod.snd he
  rw [← hv]
  rfl

theorem readOptions_eq_error_iff {found : List Issue} : readOptions (.map options) = .error found ↔
    (∃ pair ∈ keyed options, optionText? pair.2 = none) ∧
      found = ((keyed options).filter fun pair => (optionText? pair.2).isNone).map fun pair =>
        ⟨[.field (placeName pair.1)], complaintOn pair.2⟩ := by
  rw [readOptions, Reading.all_eq_error_iff, textKeyed_eq_keyed, List.map_map, List.flatMap_map]
  refine and_congr ?_ (Eq.congr_right ?_)
  · simp only [List.mem_map, Function.comp_apply, readOption_scalarText]
    constructor
    · rintro ⟨fault, pair, hp, h⟩
      refine ⟨pair, hp, ?_⟩
      cases ho : optionText? pair.2 with
      | none => rfl
      | some t =>
        rw [ho] at h
        cases h
    · rintro ⟨pair, hp, ho⟩
      exact ⟨_, pair, hp, by rw [ho]⟩
  · induction keyed options with
    | nil => rfl
    | cons pair pairs ih =>
      rw [List.flatMap_cons, ih, Function.comp_apply, readOption_scalarText]
      cases ho : optionText? pair.2 <;> simp [Reading.issues, ho]

/-! ### Paths -/

theorem readPathsFrom_text (place : Nat) (texts : List Text) :
    readPathsFrom place (texts.map .text) = (texts.map Path.ofText).map .ok := by
  induction texts generalizing place with
  | nil => rfl
  | cons text texts ih =>
    rw [List.map_cons, readPathsFrom, ih]
    rfl

theorem readPaths_text (texts : List Text) : readPaths (.list (texts.map .text)) = .ok (texts.map Path.ofText) :=
  Reading.all_eq_ok_iff.mpr (readPathsFrom_text 0 texts)

theorem forall₂_join {directory : Path} (hd : directory.isAbsolute) (texts : List Text) :
    List.Forall₂ (fun text path => path.isAbsolute ∧ path = if (Path.ofText text).isAbsolute then Path.ofText text
        else ⟨directory.anchor, directory.names ++ (Path.ofText text).names⟩)
      texts ((texts.map Path.ofText).map directory.join) := by
  rw [List.map_map, List.forall₂_map_right_iff, List.forall₂_same]
  intro text _
  refine ⟨?_, rfl⟩
  rw [Function.comp_apply, Path.join]
  split
  · assumption
  · exact hd

/-! ### The mapping as a whole -/

theorem ofFields_of_gives (h : Gives entries options texts) : ofFields (Diagnostic.fieldsOf entries) =
    ((readOptions (.map options)).within (.field "options")).map fun made => ⟨made, texts.map Path.ofText⟩ := by
  have hpaths : (Diagnostic.fieldsOf entries).optional "additional_texts" [] readPaths =
      .ok (texts.map Path.ofText) := by
    rcases h.texts with ⟨hnone, rfl⟩ | hsome
    · rw [Fields.optional, hnone]
      rfl
    · rw [Fields.optional, hsome]
      simp only [readPaths_text]
      rfl
  rw [ofFields, hpaths, Fields.optional, h.options]
  simp only []
  cases (readOptions (.map options)).within (.field "options") <;> rfl

theorem hasWritableOptions_iff (h : Gives entries options texts) :
    hasWritableOptions (Diagnostic.fieldsOf entries) ↔ Writable options := by
  rw [hasWritableOptions, h.options]
  simp [Writable]

/-- The three things that a mapping can come to: an option with too many digits, issues, or settings. -/
theorem ofValue_cases (h : Gives entries options texts) (shown : Text) :
    ¬Writable options ∧ ofValue shown (.map entries) = .error (.scalar .unwritable) ∨
    Writable options ∧
      ((∃ pair ∈ keyed options, optionText? pair.2 = none) ∧
        ofValue shown (.map entries) = .error (.settings (.invalid shown (refusals options))) ∨
      ∃ made : List (Text × Text), (keyed options).map (fun pair => (pair.1, optionText? pair.2)) =
          made.map (fun option => (option.1, some option.2)) ∧
        ofValue shown (.map entries) = .ok ⟨made, texts.map Path.ofText⟩) := by
  rw [← hasWritableOptions_iff h, ofValue, ofFields_of_gives h]
  by_cases hw : hasWritableOptions (Diagnostic.fieldsOf entries)
  · simp only [hw, ↓reduceIte]
    refine Or.inr ⟨trivial, ?_⟩
    cases hr : readOptions (.map options) with
    | ok made => exact Or.inr ⟨made, readOptions_eq_ok_iff.mp hr, rfl⟩
    | error found =>
      obtain ⟨hnone, rfl⟩ := readOptions_eq_error_iff.mp hr
      refine Or.inl ⟨hnone, ?_⟩
      simp only [refusals, Reading.within, Except.map, Except.mapError, List.map_map, Function.comp_def]
  · simp only [hw, Bool.false_eq_true, ↓reduceIte]
    exact Or.inl ⟨not_false, trivial⟩

theorem load_of_read {path : Option Path} {w : World} (hl : ¬Lost path w)
    (hf : w.files.isFile (placeOf path w) = .ok true) :
    (∀ settings, read (filesRead (placeOf path w) w) (placeOf path w) = .ok settings →
      ∃ v, load path w = .ok settings v) ∧
    ∀ e, read (filesRead (placeOf path w) w) (placeOf path w) = .error e → ∃ v, load path w = .error e v := by
  have hload : load path w = loadFile (placeOf path w) w := by rw [load_eq hl, hf]
  rw [hload]
  rcases loadFile_cases (placeOf path w) w with ⟨settings, v, hr, hl⟩ | ⟨e, v, hr, hl⟩ <;> simp [hr, hl]

/-- What a file that holds a mapping is read as depends on the mapping, and then on whether there is something to take
    the directory of the file from. -/
theorem read_of_gives {t : FileTree} {path : Path} {bytes : List UInt8} {s : String} (hb : bytesOf path.text = .ok bytes)
    (hr : t.readText path = .ok s) (hy : Yaml.read shownDepth s = .ok (.map entries)) (hg : Gives entries options texts) :
    ¬Writable options ∧ read t path = .error (.scalar .unwritable) ∨
    Writable options ∧
      (¬(∀ pair ∈ keyed options, (optionText? pair.2).isSome) ∧
        read t path = .error (.settings (.invalid path.text (refusals options))) ∨
      (∀ pair ∈ keyed options, (optionText? pair.2).isSome) ∧
        (t.lookup (t.start path) ≠ some .directory ∧ read t path = .error .noWorkingDirectory ∨
        t.lookup (t.start path) = some .directory ∧ ∃ made : List (Text × Text),
          (keyed options).map (fun pair => (pair.1, optionText? pair.2)) =
            made.map (fun option => (option.1, some option.2)) ∧
          read t path = .ok ⟨made, (texts.map Path.ofText).map
            (Path.join (.ofRoute (path.parent.route t.workingDirectory)))⟩)) := by
  have hread := read_of_value hb hr hy
  rcases ofValue_cases hg path.text with ⟨hlong, ho⟩ | ⟨hfit, ⟨⟨pair, hp, hnone⟩, ho⟩ | ⟨made, hmade, ho⟩⟩
  · rw [ho] at hread
    exact Or.inl ⟨hlong, hread⟩
  · rw [ho] at hread
    exact Or.inr ⟨hfit, Or.inl ⟨fun h => by simpa [hnone] using h pair hp, hread⟩⟩
  · rw [ho] at hread
    refine Or.inr ⟨hfit, Or.inr ⟨isSome_of_map_eq hmade, ?_⟩⟩
    rcases FileTree.checkStart_cases t path with ⟨hthere, hs⟩ | ⟨hnot, hs⟩
    · rw [hs] at hread
      exact Or.inr ⟨hthere, made, hmade, hread⟩
    · rw [hs] at hread
      exact Or.inl ⟨hnot, hread⟩

/-- What the path of settings is taken from is no file, so it is there when they are read if it was there before. -/
theorem lookup_start_filesRead (path : Path) (w : World) :
    (filesRead path w).lookup ((filesRead path w).start path) = some .directory ↔
      w.files.lookup (w.files.start path) = some .directory := by
  rw [filesRead, FileTree.start_eq (World.workingDirectory_logged w _), World.lookup_logged_directory]

/-- A file that holds a mapping is taken for settings if and only if none of its options has too many digits to be written,
    each has a text, and its directory can be found; it cannot if the working directory was removed and is asked for. With
    too many digits loading fails with something that is no fault of settings; otherwise the fault names the options without
    a text, in order. What is loaded are the options by the texts of their keys, with the texts of their values, and one
    absolute path for each text, taken from the directory of the file. -/
theorem load_mapping (path : Option Path) (w : World) {s : String}
    (hf : w.files.isFile (placeOf path w) = .ok true)
    (hr : (filesRead (placeOf path w) w).readText (placeOf path w) = .ok s)
    (hy : Yaml.read shownDepth s = .ok (.map entries)) (hg : Gives entries options texts) :
    ((∃ settings v, load path w = .ok settings v) ↔
      (Writable options ∧ ∀ pair ∈ keyed options, (optionText? pair.2).isSome) ∧
        ¬Lost path w ∧ w.files.lookup (w.files.start (placeOf path w)) = some .directory) ∧
    (Lost path w → ∃ v, load path w = .error .noWorkingDirectory v) ∧
    (¬Lost path w →
      (¬Writable options → ∃ v, load path w = .error (.scalar .unwritable) v) ∧
      (Writable options → ¬(∀ pair ∈ keyed options, (optionText? pair.2).isSome) →
        ∃ v, load path w = .error (.settings (.invalid (placeOf path w).text (refusals options))) v) ∧
      (Writable options → (∀ pair ∈ keyed options, (optionText? pair.2).isSome) →
        w.files.lookup (w.files.start (placeOf path w)) ≠ some .directory →
        ∃ v, load path w = .error .noWorkingDirectory v)) ∧
    ∀ settings v, load path w = .ok settings v →
      (settings.options.map fun option => (option.1, some option.2)) =
        (keyed options).map (fun pair => (pair.1, optionText? pair.2)) ∧
      ∃ directory, w.files.resolve (placeOf path w).parent = .ok directory ∧
        List.Forall₂ (fun text path => path.isAbsolute ∧ path = if (Path.ofText text).isAbsolute then Path.ofText text
          else ⟨directory.anchor, directory.names ++ (Path.ofText text).names⟩) texts settings.texts := by
  by_cases hl : Lost path w
  · have hload := load_of_lost hl
    refine ⟨⟨fun ⟨settings, u, h⟩ => ?_, fun h => absurd hl h.2.1⟩, fun _ => ⟨w, hload⟩, fun h => absurd hl h,
      fun settings u h => ?_⟩
    all_goals
      rw [hload] at h
      cases h
  obtain ⟨bytes, hb⟩ := FileTree.bytesOf_of_isFile hf
  obtain ⟨hok, herror⟩ := load_of_read hl hf
  have hread := read_of_gives hb hr hy hg
  simp only [ne_eq, lookup_start_filesRead] at hread
  rcases hread with ⟨hlong, hread⟩ | ⟨hfit, ⟨hnone, hread⟩ | ⟨hsome, ⟨hstart, hread⟩ | ⟨hstart, made, hmade, hread⟩⟩⟩
  · obtain ⟨v, hload⟩ := herror _ hread
    refine ⟨⟨fun ⟨settings, u, h⟩ => ?_, fun h => absurd h.1.1 hlong⟩, fun h => absurd h hl,
      fun _ => ⟨fun _ => ⟨v, hload⟩, fun hfit => absurd hfit hlong, fun hfit => absurd hfit hlong⟩, fun settings u h => ?_⟩
    all_goals
      rw [hload] at h
      cases h
  · obtain ⟨v, hload⟩ := herror _ hread
    refine ⟨⟨fun ⟨settings, u, h⟩ => ?_, fun h => absurd h.1.2 hnone⟩, fun h => absurd h hl,
      fun _ => ⟨fun hlong => absurd hfit hlong, fun _ _ => ⟨v, hload⟩, fun _ h => absurd h hnone⟩, fun settings u h => ?_⟩
    all_goals
      rw [hload] at h
      cases h
  · obtain ⟨v, hload⟩ := herror _ hread
    refine ⟨⟨fun ⟨settings, u, h⟩ => ?_, fun h => absurd h.2.2 hstart⟩, fun h => absurd h hl,
      fun _ => ⟨fun hlong => absurd hfit hlong, fun _ h => absurd hsome h, fun _ _ _ => ⟨v, hload⟩⟩, fun settings u h => ?_⟩
    all_goals
      rw [hload] at h
      cases h
  · obtain ⟨v, hload⟩ := hok _ hread
    refine ⟨⟨fun _ => ⟨⟨hfit, hsome⟩, hl, hstart⟩, fun _ => ⟨_, v, hload⟩⟩, fun h => absurd h hl,
      fun _ => ⟨fun hlong => absurd hfit hlong, fun _ h => absurd hsome h, fun _ _ h => absurd hstart h⟩,
      fun settings u h => ?_⟩
    rw [hload] at h
    cases h
    -- That the settings are going to be read may be logged; no directory changes by that.
    have hdirectory : w.files.resolve (placeOf path w).parent = .ok
        (.ofRoute ((placeOf path w).parent.route (filesRead (placeOf path w) w).workingDirectory)) := by
      rw [filesRead, World.workingDirectory_logged, FileTree.resolve_parent_of_bytesOf hb,
        FileTree.checkStart_eq_ok.mpr hstart]
      rfl
    exact ⟨hmade.symm, _, hdirectory, forall₂_join rfl texts⟩

/-- A world whose settings give one option under two keys of one text, and a text beside the settings. -/
def doubled : World :=
  .new ⟨[], [(fileName, .file (.bytes (FileTree.writtenBytes
    "options:\n  1: a\n  k: true\n  '1': 2\nadditional_texts: [a.txt]\n")))]⟩ default

/-- The texts, the numbers and the truth value in settings of the shape of those of `doubled`. -/
def doubledParts? : Except Yaml.Fault Value → Option (List Text × List Int × Bool)
  | .ok (.map [(.text s, .map [(.int m, .text a), (.text k, .bool b), (.text n, .int i)]),
      (.text t, .list [.text p])]) => some ([s, a, k, n, t, p], [m, i], b)
  | _ => none

theorem load_mapping_doubled : ∃ settings v, load none doubled = .ok settings v ∧
    (settings.options.map fun option => (option.1, some option.2)) =
      ([("1", some "2"), ("k", some "true")] : List (Text × Option Text)) := by
  have hr : (filesRead (placeOf none doubled) doubled).readText (placeOf none doubled) =
      .ok "options:\n  1: a\n  k: true\n  '1': 2\nadditional_texts: [a.txt]\n" := by rfl
  have hyaml : doubledParts? (Yaml.read shownDepth
      "options:\n  1: a\n  k: true\n  '1': 2\nadditional_texts: [a.txt]\n") =
      some ((["options", "a", "k", "1", "additional_texts", "a.txt"] : List Text), [1, 2], true) := by
    decide +kernel
  unfold doubledParts? at hyaml
  split at hyaml
  · next s m a k b n i t p hy =>
    cases hyaml
    obtain ⟨hok, -, -, hloaded⟩ := load_mapping none doubled rfl hr hy (show Gives _ _ ["a.txt"] from ⟨rfl, Or.inr rfl⟩)
    have hkeyed : keyed [(.int 1, .text "a"), (.text "k", .bool true), (.text "1", .int 2)] =
        ([("1", .int 2), ("k", .bool true)] : List (Text × Value)) := by rfl
    have hfit : Writable [(.int 1, .text "a"), (.text "k", .bool true), (.text "1", .int 2)] := by
      unfold Writable
      decide +kernel
    have hthere : ¬Lost none doubled := fun h => h.2 rfl
    obtain ⟨settings, v, hl⟩ := hok.mpr ⟨⟨hfit, by rw [hkeyed]; simp [optionText?]⟩, hthere, rfl⟩
    exact ⟨settings, v, hl, (hloaded settings v hl).1.trans (by rw [hkeyed]; rfl)⟩
  · cases hyaml

end Settings
end GeneratorHost
