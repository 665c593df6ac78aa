import GeneratorHost.Proofs.Act
import GeneratorHost.Proofs.FileTree.Changes
import GeneratorHost.Proofs.FileTree.Shape
import GeneratorHost.World

/-! Steps that write no file. A record may go to the log file, and directories may be made on the way to one route;
    everything else in the file tree stays as it is. A row of such steps is such a step. -/

namespace GeneratorHost
namespace World

variable {w v u : World} {route : Route}

/-! ### The log file -/

/-- Whether a route is that of the log file. -/
def Logs (w : World) (x : Route) : Prop := ∃ h, w.logging.file = some h ∧ h.route = x

/-- The log file, if there is one, is a file. -/
def LogOpen (w : World) : Prop := ∀ x, w.Logs x → ∃ content, w.files.lookup x = some (.file content)

theorem logs_congr (h : v.logging = w.logging) (x : Route) : v.Logs x ↔ w.Logs x := by
  rw [Logs, Logs, h]

theorem logOpen_new (files : FileTree) (host : Host) : (new files host).LogOpen := by
  rintro x ⟨h, hf, -⟩
  cases hf

/-- A log file that was opened is a file. -/
theorem file_of_openFile {t opened : FileTree} {file : Text} (h : Logging.openFile t file = .ok (opened, route)) :
    ∃ content, opened.lookup route = some (.file content) := by
  obtain ⟨path, hopen⟩ : ∃ path : Path, (do
      let place ← t.fileRoute path
      pure (if (t.lookup place).isNone then t.put place (.file (.bytes [])) else t, place)) =
        Except.ok (opened, route) := by
    rw [Logging.openFile] at h
    cases hs : t.checkStart (.ofText file) with
    | error e =>
      rw [hs] at h
      cases h
    | ok u =>
      rw [hs] at h
      exact ⟨_, h⟩
  cases hr : t.fileRoute path with
  | error e =>
    rw [hr] at hopen
    cases hopen
  | ok place =>
    rw [hr] at hopen
    obtain ⟨-, hnd, hne, -⟩ := FileTree.fileRoute_eq_ok hr
    obtain ⟨rfl, rfl⟩ := Prod.mk.inj (Except.ok.inj hopen)
    cases hl : t.lookup place with
    | none =>
      simp only [Option.isNone_none, if_true]
      exact ⟨.bytes [], FileTree.lookup_put_self hne _⟩
    | some e =>
      cases e with
      | directory => exact absurd hl hnd
      | file content => exact ⟨content, hl⟩

/-- However a log is set up, its file is a file. -/
theorem logOpen_setUpLog (p : Logging.Plan) (w : World) : ((setUpLog p).after w).LogOpen := by
  rcases hs : w.logging.setUp w.files p with ⟨logging, files, failed⟩
  have hafter : (setUpLog p).after w = { w with logging, files } := by
    cases failed with
    | none => exact Act.after_of_ok (by rw [setUpLog, hs])
    | some e => exact Act.after_of_error (by rw [setUpLog, hs])
  rw [hafter]
  rintro x ⟨handler, hh, rfl⟩
  replace hh : logging.file = some handler := hh
  show ∃ content, files.lookup handler.route = some (.file content)
  unfold Logging.setUp at hs
  split at hs
  · cases hs
    cases hh
  · split at hs
    · cases hs
      cases hh
    · next opened place ho =>
      cases hs
      cases hh
      exact file_of_openFile ho

/-! ### Worlds between which no file was written -/

/-- Between two worlds no file but the log file was written, and at most directories on the way to a route were
    made. -/
structure Unwritten (route : Route) (w v : World) : Prop where
  logging : v.logging = w.logging
  workingDirectory : v.files.workingDirectory = w.files.workingDirectory
  logOpen : v.LogOpen
  lookup : ∀ x, ¬w.Logs x → v.files.lookup x = w.files.lookup x ∨
    x <+: route ∧ w.files.lookup x = none ∧ v.files.lookup x = some .directory

theorem Unwritten.refl (route : Route) (hw : w.LogOpen) : Unwritten route w w := ⟨rfl, rfl, hw, fun _ _ => Or.inl rfl⟩

theorem Unwritten.trans (h : Unwritten route w v) (h' : Unwritten route v u) : Unwritten route w u := by
  refine ⟨h'.logging.trans h.logging, h'.workingDirectory.trans h.workingDirectory, h'.logOpen, fun x hx => ?_⟩
  have hx' : ¬v.Logs x := fun hl => hx ((logs_congr h.logging x).mp hl)
  rcases h.lookup x hx with he | ⟨hp, hn, hd⟩
  · rw [← he]
    exact h'.lookup x hx'
  · rcases h'.lookup x hx' with he' | ⟨-, hn', -⟩
    · exact Or.inr ⟨hp, hn, he'.trans hd⟩
    · rw [hd] at hn'
      cases hn'

theorem Unwritten.mono {longer : Route} (h : Unwritten route w v) (hp : route <+: longer) : Unwritten longer w v :=
  ⟨h.logging, h.workingDirectory, h.logOpen,
    fun x hx => (h.lookup x hx).imp_right fun ⟨hx', hn, hd⟩ => ⟨hx'.trans hp, hn, hd⟩⟩

/-- On the way to the root nothing is missing. -/
theorem Unwritten.lookup_eq (h : Unwritten [] w v) {x : Route} (hx : ¬w.Logs x) :
    v.files.lookup x = w.files.lookup x := by
  rcases h.lookup x hx with he | ⟨hp, hn, -⟩
  · exact he
  · rw [List.prefix_nil.mp hp] at hn
    cases hn

/-- A world with the same files and the same log is as good as the one before. -/
theorem unwritten_of_files_eq (route : Route) (hw : w.LogOpen) (hf : v.files = w.files) (hl : v.logging = w.logging) :
    Unwritten route w v where
  logging := hl
  workingDirectory := by rw [hf]
  logOpen x hx := by
    rw [hf]
    exact hw x ((logs_congr hl x).mp hx)
  lookup x _ := Or.inl (by rw [hf])

theorem lookup_of_isSome (h : Unwritten route w v) {x : Route} (hx : ¬w.Logs x) {e : Entry}
    (he : w.files.lookup x = some e) : v.files.lookup x = some e := by
  rcases h.lookup x hx with h' | ⟨-, hn, -⟩
  · rw [h', he]
  · rw [he] at hn
    cases hn

/-- A directory stays one; the log file is none. -/
theorem Unwritten.directory (h : Unwritten route w v) (hw : w.LogOpen) {x : Route}
    (hx : w.files.lookup x = some .directory) : v.files.lookup x = some .directory := by
  refine lookup_of_isSome h (fun hl => ?_) hx
  obtain ⟨content, hc⟩ := hw x hl
  rw [hx] at hc
  cases hc

/-- Where the end of the route is a directory already, nothing on the way to it was missing. -/
theorem Unwritten.of_directory (h : Unwritten route w v) (hd : w.files.lookup route = some .directory) :
    Unwritten [] w v := by
  refine ⟨h.logging, h.workingDirectory, h.logOpen, fun x hx => Or.inl ?_⟩
  rcases h.lookup x hx with he | ⟨hp, hn, -⟩
  · exact he
  · by_cases hxr : x = route
    · rw [hxr, hd] at hn
      cases hn
    · rw [FileTree.lookup_of_prefix hd hp hxr] at hn
      cases hn

theorem logs_of_inFile? {r : Record} {place : Route} {line : Text} (h : w.logging.inFile? r = some (place, line)) :
    w.Logs place := by
  unfold Logging.inFile? at h
  cases hf : w.logging.file with
  | none =>
    rw [hf] at h
    cases h
  | some handler =>
    rw [hf] at h
    simp only [Option.ite_none_right_eq_some, Option.some.injEq, Prod.mk.injEq] at h
    exact ⟨handler, hf, h.2.1⟩

theorem files_logged_of_inFile? {r : Record} {place : Route} {line : Text}
    (h : w.logging.inFile? r = some (place, line)) : (w.logged r).files = w.files.appendAt place line := by
  simp only [logged, h]

/-- A record leaves the files as they are, or it is added to the log file. -/
theorem files_logged_cases (w : World) (r : Record) : (w.logged r).files = w.files ∨
    ∃ place old new, w.Logs place ∧ w.files.lookup place = some (.file old) ∧
      (w.logged r).files = w.files.put place (.file (.bytes new)) := by
  cases hr : w.logging.inFile? r with
  | none => exact Or.inl (by simp only [logged, hr])
  | some target =>
    obtain ⟨place, line⟩ := target
    rw [files_logged_of_inFile? hr]
    exact (FileTree.appendAt_cases w.files place line).imp_right fun ⟨old, new, hc, hput⟩ =>
      ⟨place, old, new, logs_of_inFile? hr, hc, hput⟩

theorem workingDirectory_logged (w : World) (r : Record) :
    (w.logged r).files.workingDirectory = w.files.workingDirectory := by
  rcases files_logged_cases w r with hf | ⟨place, old, new, -, -, hput⟩
  · rw [hf]
  · rw [hput]
    rfl

/-- A record makes no difference to which entries there are. -/
theorem shape_logged (w : World) (r : Record) : (w.logged r).files.shape = w.files.shape := by
  rcases files_logged_cases w r with hf | ⟨place, old, new, -, hc, hput⟩
  · rw [hf]
  · rw [hput, FileTree.shape_put_file hc]

/-- A record makes no directory, and takes none away. -/
theorem lookup_logged_directory (w : World) (r : Record) (x : Route) :
    (w.logged r).files.lookup x = some .directory ↔ w.files.lookup x = some .directory := by
  rcases files_logged_cases w r with hf | ⟨place, old, new, -, hc, hput⟩
  · rw [hf]
  · rw [hput, FileTree.lookup_put_file hc]
    split
    · next hx => simp [hx, hc]
    · rfl

theorem lookup_logged (w : World) (r : Record) {x : Route} (hx : ¬w.Logs x) :
    (w.logged r).files.lookup x = w.files.lookup x := by
  rcases files_logged_cases w r with hf | ⟨place, old, new, hplace, hc, hput⟩
  · rw [hf]
  · have hne : x ≠ place := fun h => hx (h ▸ hplace)
    rw [hput, FileTree.lookup_put_file hc, if_neg hne]

theorem logOpen_logged (hw : w.LogOpen) (r : Record) : (w.logged r).LogOpen := fun x hx => by
  obtain ⟨content, hx⟩ := hw x hx
  rcases files_logged_cases w r with hf | ⟨place, old, new, -, hc, hput⟩
  · exact ⟨content, hf ▸ hx⟩
  · rw [hput, FileTree.lookup_put_file hc]
    split
    · exact ⟨.bytes new, rfl⟩
    · exact ⟨content, hx⟩

theorem unwritten_logged (route : Route) (hw : w.LogOpen) (r : Record) : Unwritten route w (w.logged r) :=
  ⟨rfl, workingDirectory_logged w r, logOpen_logged hw r, fun _ hx => Or.inl (lookup_logged w r hx)⟩

/-! ### Steps that write no file -/

/-- A step that writes no file but the log file, and makes no directory but on the way to a route. -/
def Spares {α : Type} (route : Route) (step : Act World α) : Prop :=
  ∀ w, w.LogOpen → Unwritten route w (step.after w)

section Steps
variable {α β : Type}

/-- What was not written by a step, nor by the next one from where it left off, was not written by both. -/
theorem Unwritten.bind {x : Act World α} {f : α → Act World β} (hx : Unwritten route w (x.after w))
    (hf : ∀ a v, x w = .ok a v → v.LogOpen → Unwritten route v ((f a).after v)) :
    Unwritten route w ((x >>= f).after w) := by
  cases hr : x w with
  | ok a v =>
    rw [Act.after_of_ok hr] at hx
    rw [Act.after_bind_of_ok hr]
    exact hx.trans (hf a v hr hx.logOpen)
  | error e v =>
    rw [Act.after_of_error hr] at hx
    rw [Act.after_bind_of_error hr]
    exact hx

theorem Spares.bind {x : Act World α} {f : α → Act World β} (hx : Spares route x) (hf : ∀ a, Spares route (f a)) :
    Spares route (x >>= f) := fun w hw => (hx w hw).bind fun a v _ hv => hf a v hv

theorem Spares.ok {step : Act World α} (h : Spares route step) (hw : w.LogOpen) {a : α} (hs : step w = .ok a v) :
    Unwritten route w v := Act.after_of_ok hs ▸ h w hw

theorem Spares.error {step : Act World α} (h : Spares route step) (hw : w.LogOpen) {e : Failure}
    (hs : step w = .error e v) : Unwritten route w v := Act.after_of_error hs ▸ h w hw

theorem spares_of_reads (route : Route) {step : Act World α} (h : step.Reads) : Spares route step := fun w hw => by
  rw [h w]
  exact .refl route hw

theorem spares_pure (route : Route) (a : α) : Spares route (pure a : Act World α) :=
  spares_of_reads route (Act.reads_pure a)

theorem spares_throw (route : Route) (e : Failure) : Spares route (throw e : Act World α) :=
  spares_of_reads route fun _ => rfl

theorem reads_ask (question : FileTree → Except Failure α) : Act.Reads (ask question) := fun w =>
  Act.reads_ofExcept (question w.files) w

theorem spares_ask (route : Route) (question : FileTree → Except Failure α) : Spares route (ask question) :=
  spares_of_reads route (reads_ask question)

theorem ask_eq_ok {question : FileTree → Except Failure α} {a : α} (h : ask question w = .ok a v) :
    question w.files = .ok a ∧ v = w := by
  obtain ⟨w', w'', hg, h⟩ := Act.bind_eq_ok.mp h
  cases hg
  obtain ⟨hq, rfl⟩ := Act.ofExcept_eq_ok.mp h
  exact ⟨hq, rfl⟩

theorem ask_of_ok {question : FileTree → Except Failure α} {a : α} (h : question w.files = .ok a) :
    ask question w = .ok a w := (congrArg (Act.ofExcept · w) h :)

theorem ask_of_error {question : FileTree → Except Failure α} {e : Failure} (h : question w.files = .error e) :
    ask question w = .error e w := (congrArg (Act.ofExcept · w) h :)

theorem spares_log (route : Route) (level : Level) (logger : Logger) (message : Text) :
    Spares route (log level logger message) := fun _ hw => unwritten_logged route hw _

theorem spares_freshToken (route : Route) : Spares route freshToken := fun _ hw =>
  unwritten_of_files_eq route hw rfl rfl

end Steps

/-! ### Making directories -/

theorem change_cases (attempt : FileTree → FileTree.Attempt) (w : World) :
    ((attempt w.files).2 = none ∧ change attempt w = .ok () { w with files := (attempt w.files).1 }) ∨
      ∃ e, (attempt w.files).2 = some e ∧ change attempt w = .error e { w with files := (attempt w.files).1 } := by
  rw [change]
  cases attempt w.files with
  | mk files failed =>
    cases failed with
    | none => exact Or.inl ⟨rfl, rfl⟩
    | some e => exact Or.inr ⟨e, rfl, rfl⟩

theorem after_change (attempt : FileTree → FileTree.Attempt) (w : World) :
    (change attempt).after w = { w with files := (attempt w.files).1 } := by
  rcases change_cases attempt w with ⟨-, h⟩ | ⟨e, -, h⟩
  · exact Act.after_of_ok h
  · exact Act.after_of_error h

theorem spares_makeDirectory {p : Path} (hp : p.Direct) : Spares p.place (makeDirectory p) := by
  intro w hw
  obtain ⟨hm, -⟩ := FileTree.makes_makeDirectory p w.files
  rw [makeDirectory, after_change]
  refine ⟨rfl, hm.workingDirectory, fun x hx => ?_, fun x _ => ?_⟩
  · obtain ⟨content, hc⟩ := hw x hx
    exact ⟨content, hm.lookup_of_isSome hc⟩
  · exact (hm.lookup x).imp_right fun ⟨hx, hn, hd⟩ => ⟨hp.prefix_of_onWay hx, hn, hd⟩

/-- Making a directory changes nothing in the world but the files. -/
theorem makeDirectory_eq_ok {p : Path} (h : makeDirectory p w = .ok () v) :
    v = { w with files := v.files } ∧ FileTree.Makes p w.files (v.files, none) := by
  have hm := FileTree.makes_makeDirectory p w.files
  rcases change_cases (fun t => t.makeDirectory p) w with ⟨hn, hc⟩ | ⟨e, -, hc⟩
  · cases hc.symm.trans h
    exact ⟨rfl, hm.1, fun _ => hm.2 hn⟩
  · cases hc.symm.trans h

theorem logOpen_of_makeDirectory {p : Path} (hw : w.LogOpen) (h : makeDirectory p w = .ok () v) : v.LogOpen := by
  obtain ⟨hv, hprepared, -⟩ := makeDirectory_eq_ok h
  intro x hx
  obtain ⟨content, hc⟩ := hw x ((logs_congr (congrArg logging hv) x).mp hx)
  exact ⟨content, hprepared.lookup_of_isSome hc⟩

theorem makeDirectory_eq_error {p : Path} {e : Failure} (h : makeDirectory p w = .error e v) :
    FileTree.Prepared (p.OnWay w.files.workingDirectory) w.files v.files := by
  obtain ⟨hprepared, -⟩ := FileTree.makes_makeDirectory p w.files
  rcases change_cases (fun t => t.makeDirectory p) w with ⟨-, hc⟩ | ⟨e', -, hc⟩
  · cases hc.symm.trans h
  · cases hc.symm.trans h
    exact hprepared

end World
end GeneratorHost
