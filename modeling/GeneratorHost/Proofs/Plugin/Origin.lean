import GeneratorHost.Proofs.FileTree.Found
import GeneratorHost.Proofs.Plugin.Loaded

/-! Which paths are accepted. A resolved path is checked before anything is executed: it has to be a file with the right
    suffix or a package, and a path that is neither is refused without a trace. -/

namespace GeneratorHost
namespace Plugin

/-- The file that a package is executed from. -/
def initial (q : Path) : Path := q.child "__init__.py"

/-- A resolved path is accepted, and what is executed for it. -/
inductive Accepts (files : FileTree) (q : Path) : Origin → Prop
  | file {content : Content} (h : files.lookup q.place = some (.file content)) (hs : q.suffix = ".py") :
    Accepts files q ⟨q, none⟩
  | package {content : Content} (h : files.lookup q.place = some .directory) (hf : (initial q).Fits)
    (hi : files.lookup (initial q).place = some (.file content)) : Accepts files q ⟨initial q, some q⟩

section
variable {files : FileTree} {q : Path}

theorem direct_initial (hd : q.Direct) : (initial q).Direct := hd.child (by decide)

theorem nameable_initial (hn : q.Nameable) : (initial q).Nameable := hn.child ⟨_, rfl⟩ (by decide)

/-! ### The checks one by one -/

theorem origin_of_long (hd : q.Direct) (ha : q.anchor = .root) (hn : q.Nameable) (hf : ¬q.Fits) :
    origin files q = .error (.os .nameTooLong q.text) := by
  rw [origin, FileTree.exists, FileTree.entryAt_of_direct hd ha hn, if_neg hf]
  rfl

theorem origin_of_none (hd : q.Direct) (ha : q.anchor = .root) (hn : q.Nameable) (hf : q.Fits)
    (h : files.lookup q.place = none) : origin files q = .error (.moduleMissing q.text) := by
  rw [origin, FileTree.exists, FileTree.entryAt_of_direct hd ha hn, if_pos hf, h]
  rfl

theorem origin_of_file {content : Content} (hd : q.Direct) (ha : q.anchor = .root) (hn : q.Nameable) (hf : q.Fits)
    (h : files.lookup q.place = some (.file content)) :
    origin files q = if q.suffix = ".py" then .ok ⟨q, none⟩ else .error (.plugin (.unsupported q.text)) := by
  have hsuffix : origin files q =
      if q.suffix == (".py" : Text) then .ok ⟨q, none⟩ else .error (.plugin (.unsupported q.text)) := by
    rw [origin, FileTree.exists, FileTree.isDirectory, FileTree.entryAt_of_direct hd ha hn, if_pos hf, h]
    rfl
  rw [hsuffix]
  simp only [beq_iff_eq]

theorem origin_of_directory (hd : q.Direct) (ha : q.anchor = .root) (hn : q.Nameable) (hf : q.Fits)
    (h : files.lookup q.place = some .directory) :
    origin files q = if (initial q).Fits then
        match files.lookup (initial q).place with
        | some (.file _) => .ok ⟨initial q, some q⟩
        | _ => .error (.plugin (.notPackage q.text))
      else .error (.os .nameTooLong (initial q).text) := by
  have hentry := FileTree.entryAt_of_direct (direct_initial hd) ha (nameable_initial hn) files
  have hinit : origin files q = (files.isFile (initial q) >>= fun isFile =>
      if isFile then pure ⟨initial q, some q⟩ else throw (.plugin (.notPackage q.text))) := by
    rw [origin, FileTree.exists, FileTree.isDirectory, FileTree.entryAt_of_direct hd ha hn, if_pos hf, h]
    rfl
  rw [hinit, FileTree.isFile, hentry]
  by_cases hfi : (initial q).Fits
  · rw [if_pos hfi, if_pos hfi]
    cases files.lookup (initial q).place with
    | none => rfl
    | some e => cases e <;> rfl
  · rw [if_neg hfi, if_neg hfi]
    rfl

/-- What a path that is short enough is refused with. -/
theorem origin_eq_error_iff (hd : q.Direct) (ha : q.anchor = .root) (hn : q.Nameable) (hf : q.Fits) {e : Failure} :
    origin files q = .error e ↔
      files.lookup q.place = none ∧ e = .moduleMissing q.text ∨
      ((∃ content, files.lookup q.place = some (.file content)) ∧ q.suffix ≠ ".py") ∧
        e = .plugin (.unsupported q.text) ∨
      (files.lookup q.place = some .directory ∧ (initial q).Fits ∧
        ∀ content, files.lookup (initial q).place ≠ some (.file content)) ∧ e = .plugin (.notPackage q.text) ∨
      (files.lookup q.place = some .directory ∧ ¬(initial q).Fits) ∧ e = .os .nameTooLong (initial q).text := by
  cases hl : files.lookup q.place with
  | none => simp [origin_of_none hd ha hn hf hl, eq_comm]
  | some entry =>
    cases entry with
    | file content =>
      rw [origin_of_file hd ha hn hf hl]
      by_cases hs : q.suffix = ".py" <;> simp [hs, eq_comm]
    | directory =>
      rw [origin_of_directory hd ha hn hf hl]
      by_cases hfi : (initial q).Fits
      · cases hi : files.lookup (initial q).place with
        | none => simp [hfi, eq_comm]
        | some inner => cases inner <;> simp [hfi, eq_comm]
      · simp [hfi, eq_comm]

/-- A path that is accepted by its check. -/
theorem accepts_iff (hd : q.Direct) (ha : q.anchor = .root) (hn : q.Nameable) (hf : q.Fits) {o : Origin} :
    Accepts files q o ↔ origin files q = .ok o := by
  constructor
  · intro h
    cases h with
    | file h hs => rw [origin_of_file hd ha hn hf h, if_pos hs]
    | package h hfi hi => rw [origin_of_directory hd ha hn hf h, if_pos hfi, hi]
  · intro h
    cases hl : files.lookup q.place with
    | none =>
      rw [origin_of_none hd ha hn hf hl] at h
      cases h
    | some e =>
      cases e with
      | file content =>
        rw [origin_of_file hd ha hn hf hl] at h
        split at h
        · next hs =>
          cases h
          exact .file hl hs
        · cases h
      | directory =>
        rw [origin_of_directory hd ha hn hf hl] at h
        split at h
        · next hfi =>
          split at h
          · next content hi =>
            cases h
            exact .package hl hfi hi
          · cases h
        · cases h

end

namespace Registry

variable {files : FileTree} {p q : Path} {r : Registry} {e : Failure} {o : Origin}

/-! ### What the checks come to -/

theorem execution?_of_resolve (hq : files.resolve p = .ok q) (r : Registry) :
    execution? files p r = (origin files q).map fun o => ⟨files, q, o, r⟩ := by
  rw [execution?, hq]
  show (origin files q >>= fun o => pure (⟨files, q, o, r⟩ : Execution)) = _
  cases origin files q <;> rfl

/-- Loading fails and leaves the registry as it is: no name was given out and nothing was registered. -/
def refuses (r : Registry) (files : FileTree) (p : Path) (e : Failure) : Prop := load files p r = .error e r

/-- An execution has taken a token, so what leaves the registry as it was has executed nothing. -/
theorem refuses_iff (hq : files.resolve p = .ok q) :
    r.refuses files p e ↔ origin files q = .error e := by
  have hx := execution?_of_resolve hq r
  constructor
  · intro h
    rcases load_error h with ⟨he, -⟩ | ⟨x, hok, hstop⟩
    · rw [hx] at he
      cases ho : origin files q with
      | error e' =>
        rw [ho] at he
        cases he
        rfl
      | ok o =>
        rw [ho] at he
        cases he
    · obtain rfl := before_of_execution? hok
      have hissued : x.before.issued = x.before.issued + 1 := by
        have hkept : (if e.isOrdinary then x.stop.without x.name else x.stop).issued = x.stop.issued := by
          split <;> rfl
        conv_lhs => rw [hstop, hkept]
        exact issued_registryAt x _
      omega
  · intro ho
    rw [refuses, load_eq, hx, ho]
    rfl

/-- A path that is accepted is executed, under a name that no module of the registry has or lies below. -/
theorem load_of_accepts (hr : Named r) (hq : files.resolve p = .ok q) (hd : q.Direct) (ha : q.anchor = .root)
    (hn : q.Nameable) (hf : q.Fits) (h : Accepts files q o) :
    let x : Execution := ⟨files, q, o, r⟩
    (∀ m ∈ r.modules, ¬Within x.name m.name) ∧ ∃ content, files.lookup o.file.place = some (.file content) ∧
      load files p r = (do
        orRemoveOrdinary x.name do
          let statements ← Act.ofExcept (Registry.statements content)
          executeAll x.load x.name statements
        pure x.name) x.start := by
  intro x
  have hx : execution? files p r = .ok x := by
    rw [execution?_of_resolve hq r, (accepts_iff hd ha hn hf).mp h]
    rfl
  obtain ⟨content, hl, hread⟩ : ∃ content, files.lookup o.file.place = some (.file content) ∧
      files.read o.file = .ok content := by
    cases h with
    | @file content hl hs => exact ⟨content, hl, FileTree.read_of_direct hd ha hn hf hl⟩
    | @package content hl hfi hi =>
      exact ⟨content, hi, FileTree.read_of_direct (direct_initial hd) ha (nameable_initial hn) hfi hi⟩
  refine ⟨Named.not_within (x := x) hr, content, hl, ?_⟩
  have hbody : x.body = (do
      let statements ← Act.ofExcept (Registry.statements content)
      executeAll x.load x.name statements) := by
    rw [Execution.body, show x.files.read x.origin.file = .ok content from hread]
    rfl
  rw [load_eq, hx]
  simp only [hbody]

end Registry
end Plugin
end GeneratorHost
