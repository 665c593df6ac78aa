import GeneratorHost.Proofs.FileTree.Resolve
import GeneratorHost.Proofs.World.Unwritten
import GeneratorHost.Settings

/-! How settings fail to load. Most of what can be wrong with a settings file is told as a fault of settings. What is
    not is told here: a path that is too long to be looked up, bytes that are no text, a scalar that does not fit its
    kind, an option with too many digits, and a working directory that was removed and is asked for. -/

namespace GeneratorHost

namespace FileTree

variable {t : FileTree} {p : Path}

/-- Whether there is a file cannot be told if the path, or a name on the way, is too long; then that is all that is
    wrong with it. -/
theorem isFile_eq_error {e : Failure} : t.isFile p = .error e ↔
    (∃ bytes, bytesOf p.text = .ok bytes) ∧ t.stat p = .error .nameTooLong ∧ e = .os .nameTooLong p.text := by
  rw [← entryAt_eq_error, isFile]
  cases t.entryAt p <;> simp [Except.map]

theorem bytesOf_of_isFile (h : t.isFile p = .ok true) : ∃ bytes, bytesOf p.text = .ok bytes := by
  rw [isFile, entryAt] at h
  cases hb : bytesOf p.text with
  | error e =>
    rw [hb] at h
    cases h
  | ok bytes => exact ⟨bytes, rfl⟩

end FileTree

namespace Settings

open FileTree (bytesOf)

variable {path : Path} {w v : World} {e : Failure}

/-- What can be wrong with a settings file without being told as a fault of settings. -/
inductive Escape (t : FileTree) (path : Path) : Failure → Prop
  /-- its bytes are no text -/
  | bytes {content : Content} {error : Text.DecodeError} (hr : t.read path = .ok content)
      (hd : Text.decode content.toBytes = .error error) : Escape t path (.undecodable error)
  /-- a scalar of its text does not fit its kind -/
  | scalar {s : String} {fault : Yaml.Fault} (hr : t.readText path = .ok s)
      (hy : Yaml.read shownDepth s = .error fault) (hf : fault ≠ .malformed) : Escape t path (.scalar fault)
  /-- an option of its text is an integer with too many digits -/
  | option {s : String} {entries : List (Value × Value)} (hr : t.readText path = .ok s)
      (hy : Yaml.read shownDepth s = .ok (.map entries))
      (ho : hasWritableOptions (Diagnostic.fieldsOf entries) = false) : Escape t path (.scalar .unwritable)
  /-- nothing is wrong with it, but there is nothing to take its directory from -/
  | start {s : String} {v : Value} {settings : Settings} (hr : t.readText path = .ok s)
      (hy : Yaml.read shownDepth s = .ok v) (ho : ofValue path.text v = .ok settings)
      (hs : t.lookup (t.start path) ≠ some .directory) : Escape t path .noWorkingDirectory

/-- Any value but a mapping with an option that cannot be written makes settings, or is told as a fault of settings. -/
theorem ofValue_escapes_iff {shown : Text} {v : Value} :
    (ofValue shown v = .error e ∧ ∀ fault, e ≠ .settings fault) ↔
      ∃ entries, v = .map entries ∧ hasWritableOptions (Diagnostic.fieldsOf entries) = false ∧
        e = .scalar .unwritable := by
  constructor
  · rintro ⟨h, hne⟩
    cases v with
    | map entries =>
      rw [ofValue] at h
      split at h
      · cases hf : ofFields (Diagnostic.fieldsOf entries) with
        | ok s =>
          rw [hf] at h
          cases h
        | error issues =>
          rw [hf] at h
          cases h
          exact absurd rfl (hne _)
      · next hw =>
        cases h
        exact ⟨entries, rfl, Bool.eq_false_iff.mpr hw, rfl⟩
    | null => cases h
    | _ =>
      cases h
      exact absurd rfl (hne _)
  · rintro ⟨entries, rfl, hw, rfl⟩
    refine ⟨?_, fun fault hf => nomatch hf⟩
    rw [ofValue, hw]
    rfl

section Reading
variable {t : FileTree} {bytes : List UInt8}

theorem read_of_text {s : String} (hr : t.readText path = .ok s) :
    read t path = (do
      let v ← (Yaml.read shownDepth s).mapError (yamlFailure path.text)
      let settings ← ofValue path.text v
      let directory ← t.resolve path.parent
      pure (settings.rebase directory)) := by
  rw [read, hr]
  rfl

theorem read_of_fault {s : String} {fault : Yaml.Fault} (hr : t.readText path = .ok s)
    (hy : Yaml.read shownDepth s = .error fault) : read t path = .error (yamlFailure path.text fault) := by
  rw [read_of_text hr, hy]
  rfl

/-- Once a value was read, the directory of its file is found if there is something to take it from. -/
theorem read_of_value (hb : bytesOf path.text = .ok bytes) {s : String} {v : Value} (hr : t.readText path = .ok s)
    (hy : Yaml.read shownDepth s = .ok v) :
    read t path = ofValue path.text v >>= fun settings =>
      (t.checkStart path).map fun _ => settings.rebase (.ofRoute (path.parent.route t.workingDirectory)) := by
  rw [read_of_text hr, hy, FileTree.resolve_parent_of_bytesOf hb]
  show (ofValue path.text v >>= fun settings => _) = _
  refine congrArg _ (funext fun settings => ?_)
  cases t.checkStart path <;> rfl

theorem readText_eq_error (hb : bytesOf path.text = .ok bytes) (h : t.readText path = .error e) :
    (∃ cause, e = .os cause path.text) ∨ ∃ content error, t.read path = .ok content ∧
      Text.decode content.toBytes = .error error ∧ e = .undecodable error := by
  cases hr : t.read path with
  | ok content =>
    rw [FileTree.readText_of_read hr] at h
    cases hd : Text.decode content.toBytes with
    | ok s =>
      rw [hd] at h
      cases h
    | error error =>
      rw [hd] at h
      exact Or.inr ⟨content, error, rfl, hd, (Except.error.inj h).symm⟩
  | error e' =>
    rw [FileTree.readText, hr] at h
    obtain rfl := Except.error.inj h
    rw [FileTree.read, hb] at hr
    cases hs : t.stat path with
    | error cause =>
      rw [hs] at hr
      exact Or.inl ⟨cause, (Except.error.inj hr).symm⟩
    | ok entry =>
      rw [hs] at hr
      cases entry with
      | file content => cases hr
      | directory => exact Or.inl ⟨.isDirectory, (Except.error.inj hr).symm⟩

/-- Reading a settings file fails with something that is no fault of settings if and only if it is one of these. -/
theorem read_escapes_iff (hb : bytesOf path.text = .ok bytes) :
    (read t path = .error e ∧ ∀ fault, e ≠ .settings fault) ↔ Escape t path e := by
  constructor
  · rintro ⟨h, hne⟩
    cases hr : t.readText path with
    | error e' =>
      rw [read, hr] at h
      rcases readText_eq_error hb hr with ⟨cause, rfl⟩ | ⟨content, error, hread, hd, rfl⟩
      · cases h
        exact absurd rfl (hne _)
      · cases h
        exact .bytes hread hd
    | ok s =>
      cases hy : Yaml.read shownDepth s with
      | error fault =>
        rw [read_of_fault hr hy] at h
        cases fault with
        | malformed =>
          cases h
          exact absurd rfl (hne _)
        | _ =>
          cases h
          exact .scalar hr hy nofun
      | ok v =>
        -- Nothing can go wrong any more but the value, and then what its directory is taken from.
        rw [read_of_value hb hr hy] at h
        cases ho : ofValue path.text v with
        | ok settings =>
          rw [ho] at h
          rcases FileTree.checkStart_cases t path with ⟨-, hs⟩ | ⟨hnot, hs⟩
          · rw [hs] at h
            cases h
          · rw [hs] at h
            cases h
            exact .start hr hy ho hnot
        | error e' =>
          rw [ho] at h
          obtain rfl := Except.error.inj h
          obtain ⟨entries, rfl, hw, rfl⟩ := ofValue_escapes_iff.mp ⟨ho, hne⟩
          exact .option hr hy hw
  · intro h
    cases h with
    | @bytes content error hread hd =>
      refine ⟨?_, nofun⟩
      have hr : t.readText path = .error (.undecodable error) := by
        rw [FileTree.readText_of_read hread, hd]
        rfl
      rw [read, hr]
      rfl
    | scalar hr hy hf =>
      refine ⟨?_, nofun⟩
      rw [read_of_fault hr hy, yamlFailure.eq_2 _ _ hf]
    | option hr hy hw =>
      obtain ⟨ho, hne⟩ := ofValue_escapes_iff.mpr ⟨_, rfl, hw, rfl⟩
      rw [read_of_value hb hr hy, ho]
      exact ⟨rfl, hne⟩
    | start hr hy ho hs =>
      refine ⟨?_, nofun⟩
      rw [read_of_value hb hr hy, ho, FileTree.checkStart_of_not_directory hs]
      rfl

end Reading

/-- Where the settings are: at the given path, or under their own name in the working directory. -/
def placeOf (path : Option Path) (w : World) : Path :=
  path.getD ((Path.ofRoute w.files.workingDirectory).child fileName)

/-- The files at the moment the settings are read; that they are going to be read may be in the log by then. -/
def filesRead (path : Path) (w : World) : FileTree :=
  (w.logged ⟨Level.debug, .settings, "Loading harness config from " ++ path.text⟩).files

/-- A settings file that is not there is a fault if its path was given. -/
def absent (path : Option Path) : Except Failure Settings :=
  match path with
  | some path => .error (.settings (.notFound path.text))
  | none => .ok empty

/-- No path is given, and the working directory was removed. -/
def Lost (path : Option Path) (w : World) : Prop :=
  path = none ∧ w.files.lookup w.files.workingDirectory ≠ some .directory

theorem load_of_lost {path : Option Path} (h : Lost path w) : load path w = .error .noWorkingDirectory w := by
  obtain ⟨rfl, hd⟩ := h
  have hfind : find? w.files none = .error .noWorkingDirectory := by
    have hstart : w.files.lookup (w.files.start (.ofText ".")) ≠ some .directory := hd
    rw [find?, FileTree.checkStart_of_not_directory hstart]
    rfl
  exact Act.bind_error (World.ask_of_error hfind)

theorem load_eq {path : Option Path} (hl : ¬Lost path w) :
    load path w = match w.files.isFile (placeOf path w) with
      | .error e => .error e w
      | .ok true => loadFile (placeOf path w) w
      | .ok false => (Act.ofExcept (absent path) : Act World Settings) w := by
  cases path with
  | some path =>
    show (World.ask (·.isFile path) >>= fun there => _) w = match w.files.isFile path with
      | .error e => _
      | .ok true => _
      | .ok false => _
    cases hf : w.files.isFile path with
    | error e => exact Act.bind_error (World.ask_of_error hf)
    | ok there =>
      rw [Act.bind_ok (World.ask_of_ok hf)]
      cases there <;> rfl
  | none =>
    have hfind : find? w.files none = (w.files.isFile (placeOf none w)).map fun there =>
        if there then some (placeOf none w) else none := by
      have hd : w.files.lookup w.files.workingDirectory = some .directory := Classical.not_not.mp fun h => hl ⟨rfl, h⟩
      rw [find?, FileTree.checkStart_of_directory hd]
      show (w.files.isFile (placeOf none w) >>= fun there => _) = _
      cases w.files.isFile (placeOf none w) with
      | error e => rfl
      | ok there => cases there <;> rfl
    cases hf : w.files.isFile (placeOf none w) with
    | error e =>
      rw [hf] at hfind
      exact Act.bind_error (World.ask_of_error hfind)
    | ok there =>
      rw [hf] at hfind
      refine (Act.bind_ok (World.ask_of_ok hfind)).trans ?_
      cases there <;> rfl

/-- Reading the file is all that can fail. -/
theorem loadFile_cases (path : Path) (w : World) :
    (∃ settings v, read (filesRead path w) path = .ok settings ∧ loadFile path w = .ok settings v) ∨
      ∃ e v, read (filesRead path w) path = .error e ∧ loadFile path w = .error e v := by
  have hload : loadFile path w = (World.ask (read · path) >>= fun settings =>
      World.log Level.info .settings settings.remark >>= fun _ => pure settings)
        (w.logged ⟨Level.debug, .settings, "Loading harness config from " ++ path.text⟩) := rfl
  cases hr : read (filesRead path w) path with
  | error e => exact Or.inr ⟨e, _, rfl, hload.trans (Act.bind_error (World.ask_of_error hr))⟩
  | ok settings => exact Or.inl ⟨settings, _, rfl, hload.trans (Act.bind_ok (World.ask_of_ok hr))⟩

theorem loadFile_eq_error (path : Path) (w : World) :
    (∃ v, loadFile path w = .error e v) ↔ read (filesRead path w) path = .error e := by
  rcases loadFile_cases path w with ⟨settings, v, hr, hl⟩ | ⟨e', v, hr, hl⟩ <;> simp [hr, hl]

/-- Loading settings always comes to an end, and it fails with something that is no fault of settings if and only
    if no path is given and the working directory is not there, or else their path is too long to be looked up, or there
    is a file that cannot be taken for settings in one of four ways. -/
theorem load_escapes_iff (path : Option Path) (w : World) (e : Failure) :
    (∃ v, load path w = .error e v ∧ ∀ fault, e ≠ .settings fault) ↔
      (Lost path w ∧ e = .noWorkingDirectory) ∨
        ¬Lost path w ∧
          (((∃ bytes, bytesOf (placeOf path w).text = .ok bytes) ∧
              w.files.stat (placeOf path w) = .error .nameTooLong ∧ e = .os .nameTooLong (placeOf path w).text) ∨
            (w.files.isFile (placeOf path w) = .ok true ∧
              Escape (filesRead (placeOf path w) w) (placeOf path w) e)) := by
  by_cases hl : Lost path w
  · rw [load_of_lost hl]
    simp only [hl, true_and, not_true_eq_false, false_and, or_false]
    refine ⟨fun ⟨v, h, _⟩ => ?_, ?_⟩
    · cases h
      rfl
    · rintro rfl
      exact ⟨w, rfl, nofun⟩
  simp only [hl, false_and, false_or, not_false_eq_true, true_and]
  rw [← FileTree.isFile_eq_error, load_eq hl]
  cases hf : w.files.isFile (placeOf path w) with
  | error e' =>
    constructor
    · rintro ⟨v, h, -⟩
      cases h
      exact Or.inl rfl
    · rintro (h | ⟨h, -⟩)
      · obtain rfl := Except.error.inj h
        obtain ⟨-, -, rfl⟩ := FileTree.isFile_eq_error.mp hf
        exact ⟨w, rfl, nofun⟩
      · cases h
  | ok there =>
    cases there with
    | true =>
      -- A file is found under a path only if the path has bytes.
      obtain ⟨bytes, hb⟩ := FileTree.bytesOf_of_isFile hf
      rw [← read_escapes_iff hb, ← loadFile_eq_error]
      simp only [exists_and_right, reduceCtorEq, false_or, true_and]
    | false =>
      constructor
      · rintro ⟨v, h, hne⟩
        cases path with
        | some path =>
          cases h
          exact absurd rfl (hne _)
        | none => cases h
      · rintro (h | ⟨h, -⟩)
        · cases h
        · cases h

/-- A world whose settings have an option that looks like a day of a month that there is none of. -/
def misdated : World :=
  .new ⟨[], [(fileName, .file (.bytes (FileTree.writtenBytes "options:\n  k: 2020-13-45\n")))]⟩ default

theorem load_escapes_misdated : ∃ v, load none misdated = .error (.scalar (.outOfCalendar "month must be in 1..12")) v ∧
    ∀ fault, Failure.scalar (.outOfCalendar "month must be in 1..12") ≠ .settings fault := by
  have hread : (filesRead (placeOf none misdated) misdated).readText (placeOf none misdated) =
      .ok "options:\n  k: 2020-13-45\n" := by rfl
  have hyaml : (match Yaml.read shownDepth "options:\n  k: 2020-13-45\n" with
      | .error fault => some fault
      | .ok _ => none) = some (.outOfCalendar "month must be in 1..12") := by decide +kernel
  cases hy : Yaml.read shownDepth "options:\n  k: 2020-13-45\n" with
  | ok v =>
    rw [hy] at hyaml
    cases hyaml
  | error fault =>
    rw [hy] at hyaml
    cases hyaml
    have hthere : ¬Lost none misdated := fun h => h.2 rfl
    exact (load_escapes_iff none misdated _).mpr (Or.inr ⟨hthere, Or.inr ⟨rfl, .scalar hread hy nofun⟩⟩)

end Settings
end GeneratorHost
