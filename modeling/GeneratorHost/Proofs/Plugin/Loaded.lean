import GeneratorHost.Proofs.Plugin.Execution
import GeneratorHost.Proofs.Plugin.Sound

/-! Loading plug-ins one after the other. A plug-in is executed in a module whose name no module of another one has, and
    what is not of the plug-in stays as it is. -/

namespace GeneratorHost
namespace Plugin
namespace Registry

open Act

/-! ### The execution of a plug-in -/

/-- The execution of a plug-in whose path was accepted. -/
structure Execution where
  files : FileTree
  path : Path
  origin : Origin
  before : Registry

/-- What is executed to load a plug-in, if its path is accepted. -/
def execution? (files : FileTree) (p : Path) (r : Registry) : Except Failure Execution := do
  let resolved ← files.resolve p
  let o ← origin files resolved
  pure ⟨files, resolved, o, r⟩

namespace Execution

variable (x : Execution)

def name : Text := moduleName x.path (x.before.issued + 1)

def ownModule : Module :=
  .registered x.name (if x.origin.package.isSome then x.name else .empty) x.origin.package x.origin.file false

/-- The registry before the first statement. -/
def start : Registry := { x.before with issued := x.before.issued + 1 }.withModule x.ownModule

def load : Text → Text → Act Registry Unit := loadSubmodule x.files (x.files.entries.length + 1)

/-- What is executed: the statements of the file, if it can be read. -/
def body : Act Registry Unit := do
  let statements ← Act.ofExcept (do statements (← x.files.read x.origin.file))
  executeAll x.load x.name statements

/-- The statements of the file, none if it cannot be read. -/
def statements : List Statement :=
  match (do Registry.statements (← x.files.read x.origin.file) : Except Failure (List Statement)) with
  | .ok statements => statements
  | .error _ => []

/-- The registry after a number of statements, or where the execution failed among them. -/
def registryAt (n : Nat) : Registry := (executeAll x.load x.name (x.statements.take n)).after x.start

/-- The registry in which the execution ended. -/
def stop : Registry := x.registryAt x.statements.length

theorem after_body : x.body.after x.start = x.stop := by
  rw [body, stop, registryAt, List.take_length, statements]
  cases (do Registry.statements (← x.files.read x.origin.file) : Except Failure (List Statement)) with
  | ok statements => rfl
  | error e => rfl

end Execution

variable {files : FileTree} {p : Path} {r s : Registry} {x : Execution} {e : Failure} {name : Text}

theorem before_of_execution? (h : execution? files p r = .ok x) : x.before = r := by
  obtain ⟨resolved, -, h⟩ := except_bind_eq_ok.mp h
  obtain ⟨o, -, h⟩ := except_bind_eq_ok.mp h
  cases h
  rfl

theorem orRemoveOrdinary_of_error {step : Act Registry Unit} (h : step r = .error e s) :
    orRemoveOrdinary name step r = .error e (if e.isOrdinary then s.without name else s) := by
  cases hordinary : e.isOrdinary <;> simp only [orRemoveOrdinary, h, hordinary] <;> rfl

/-- A path that is not accepted is refused at once, and otherwise the plug-in is executed. -/
theorem load_eq (files : FileTree) (p : Path) (r : Registry) :
    load files p r = match execution? files p r with
      | .error e => .error e r
      | .ok x => (do
          orRemoveOrdinary x.name x.body
          pure x.name) x.start := by
  unfold load execution?
  cases hresolve : files.resolve p with
  | error e => rfl
  | ok resolved =>
    show (Act.ofExcept (origin files resolved) >>= fun o => importOrigin files resolved o) r =
      match (origin files resolved >>= fun o => pure ⟨files, resolved, o, r⟩ : Except Failure Execution) with
      | .error e => .error e r
      | .ok x => (do
          orRemoveOrdinary x.name x.body
          pure x.name) x.start
    cases origin files resolved with
    | error e => rfl
    | ok o => rfl

/-- The registry after a plug-in was loaded or not: an execution that fails has its own module taken out if the failure is
    an ordinary one. -/
theorem load_cases (files : FileTree) (p : Path) (r : Registry) :
    (∃ e, execution? files p r = .error e ∧ load files p r = .error e r) ∨
      ∃ x, execution? files p r = .ok x ∧ (load files p r = .ok x.name x.stop ∨
        ∃ e, load files p r = .error e (if e.isOrdinary then x.stop.without x.name else x.stop)) := by
  rw [load_eq]
  cases hx : execution? files p r with
  | error e => exact Or.inl ⟨e, rfl, rfl⟩
  | ok x =>
    refine Or.inr ⟨x, rfl, ?_⟩
    have hstop := x.after_body
    cases hb : x.body x.start with
    | ok a s =>
      have hok : orRemoveOrdinary x.name x.body x.start = .ok a s := by rw [orRemoveOrdinary, hb]
      rw [after_of_ok hb] at hstop
      exact Or.inl (hstop ▸ bind_ok hok)
    | error e s =>
      rw [after_of_error hb] at hstop
      exact Or.inr ⟨e, hstop ▸ bind_error (orRemoveOrdinary_of_error hb)⟩

theorem load_ok (h : load files p r = .ok name s) :
    ∃ x, execution? files p r = .ok x ∧ name = x.name ∧ s = x.stop := by
  rcases load_cases files p r with ⟨e, -, hl⟩ | ⟨x, hx, hl | ⟨e, hl⟩⟩
  · cases h.symm.trans hl
  · cases h.symm.trans hl
    exact ⟨x, hx, rfl, rfl⟩
  · cases h.symm.trans hl

theorem load_error (h : load files p r = .error e s) :
    (execution? files p r = .error e ∧ s = r) ∨
      ∃ x, execution? files p r = .ok x ∧ s = if e.isOrdinary then x.stop.without x.name else x.stop := by
  rcases load_cases files p r with ⟨e', hx, hl⟩ | ⟨x, hx, hl | ⟨e', hl⟩⟩
  · cases h.symm.trans hl
    exact Or.inl ⟨hx, rfl⟩
  · cases h.symm.trans hl
  · cases h.symm.trans hl
    exact Or.inr ⟨x, hx, rfl⟩

/-! ### Registries that come about -/

/-- A registry that comes about by loading plug-ins, whether that succeeds or not. -/
inductive Reached : Registry → Prop
  | empty : Reached empty
  | load {r : Registry} (h : Reached r) (files : FileTree) (p : Path) : Reached ((load files p).after r)

/-- Every module is of a plug-in that was given its token before. -/
def Named (r : Registry) : Prop :=
  ∀ m ∈ r.modules, ∃ (q : Path) (token : Nat), token ≤ r.issued ∧ Within (moduleName q token) m.name

theorem Named.without (h : Named r) (name : Text) : Named (r.without name) :=
  fun m hm => h m (List.mem_filter.mp hm).1

/-- No module is of the plug-in that is loaded next. -/
theorem Named.not_within (h : Named x.before) : ∀ m ∈ x.before.modules, ¬Within x.name m.name := by
  intro m hm hwithin
  obtain ⟨q, token, hle, hold⟩ := h m hm
  have htoken := hold.token_eq hwithin
  omega

theorem Execution.dot_notMem_name (x : Execution) : .char '.' ∉ x.name.letters := dot_notMem_moduleName _ _

theorem course_registryAt (x : Execution) (n : Nat) : Course x.name (fun _ => True) x.start (x.registryAt n) :=
  course_executeAll x.dot_notMem_name (loads_loadSubmodule x.files x.dot_notMem_name (fun _ _ => trivial) _) (Or.inl rfl)
    trivial _

/-- A statement is a step, unless the execution ended before it. -/
theorem registryAt_succ (x : Execution) (n : Nat) :
    x.registryAt (n + 1) = x.registryAt n ∨ ∃ statement, x.statements[n]? = some statement ∧
      x.registryAt (n + 1) = (execute x.load x.name statement).after (x.registryAt n) := by
  by_cases hn : n < x.statements.length
  · have htake : x.statements.take (n + 1) = x.statements.take n ++ [x.statements[n]] :=
      (List.take_append_getElem hn).symm
    simp only [Execution.registryAt, htake]
    rcases after_executeAll_concat (x.statements.take n) x.statements[n] with h | h
    · exact Or.inl h
    · exact Or.inr ⟨_, List.getElem?_eq_getElem hn, h⟩
  · have hall : ∀ k, n ≤ k → x.statements.take k = x.statements := fun k hk => List.take_of_length_le (by omega)
    simp only [Execution.registryAt, hall n (Nat.le_refl n), hall (n + 1) (Nat.le_succ n), true_or]

/-- A statement that does not delete a name takes none from the module itself. -/
theorem course_registryAt_succ (x : Execution) (n : Nat) {loses : Text → Prop}
    (hbelow : ∀ name, Below x.name name → loses name)
    (hown : (∃ name, x.statements[n]? = some (.delete name)) → loses x.name) :
    Course x.name loses (x.registryAt n) (x.registryAt (n + 1)) := by
  rcases registryAt_succ x n with hstep | ⟨statement, hstatement, hstep⟩
  · exact hstep ▸ .refl _
  · rw [hstep]
    refine course_execute x.dot_notMem_name (loads_loadSubmodule x.files x.dot_notMem_name hbelow _) (Or.inl rfl) statement ?_
    rintro ⟨name, rfl⟩
    exact hown ⟨name, hstatement⟩

theorem stop_eq_registryAt {n : Nat} (h : x.statements.length ≤ n) : x.stop = x.registryAt n := by
  simp only [Execution.stop, Execution.registryAt, List.take_length, List.take_of_length_le h]

/-- A module that is there after some statement is there in the end. -/
theorem mem_names_stop {n : Nat} (hname : name ∈ (x.registryAt n).names) : name ∈ x.stop.names := by
  have hlater : ∀ k, name ∈ (x.registryAt (n + k)).names := by
    intro k
    induction k with
    | zero => exact hname
    | succ k ih =>
      exact (course_registryAt_succ x (n + k) (fun _ _ => trivial) fun _ => trivial).mem_names ih
  -- Beyond the last statement nothing is executed, so the end may be counted from any number on.
  rw [stop_eq_registryAt (Nat.le_add_left _ n)]
  exact hlater _

/-- What is there besides the modules that were there before. -/
theorem exists_modules_registryAt (h : Named x.before) (n : Nat) :
    ∃ own, (x.registryAt n).modules = x.before.modules ++ own :=
  (course_registryAt x n).modules_eq rfl h.not_within

theorem names_registryAt (x : Execution) (n : Nat) :
    ∃ more, (x.registryAt n).names = x.before.names ++ x.name :: more ∧ ∀ name ∈ more, Below x.name name := by
  obtain ⟨more, hmore, hbelow⟩ := (course_registryAt x n).names
  refine ⟨more, ?_, fun name hname => (hbelow name hname).2⟩
  have hstart : x.start.names = x.before.names ++ [x.name] := names_withModule _ _
  rw [hmore, hstart, List.append_assoc, List.singleton_append]

theorem mem_names_registryAt (x : Execution) (n : Nat) : x.name ∈ (x.registryAt n).names := by
  obtain ⟨more, hmore, -⟩ := names_registryAt x n
  exact hmore ▸ List.mem_append_right _ List.mem_cons_self

theorem issued_registryAt (x : Execution) (n : Nat) : (x.registryAt n).issued = x.before.issued + 1 :=
  (course_registryAt x n).issued

theorem sound_registryAt (hs : Sound x.before) (n : Nat) : Sound (x.registryAt n) := by
  have hissued : Sound { x.before with issued := x.before.issued + 1 } := by
    refine hs.of_reachable (fun c hc => ?_) rfl hs.nodup
    refine hc.of_entries ?_
    exact fun m hm name c hc => .bound (r := x.before) hm hc
  exact (course_registryAt x n).sound (hissued.withModule (bare_registered ..))

theorem named_registryAt (h : Named x.before) (n : Nat) : Named (x.registryAt n) := by
  obtain ⟨more, hmore, hbelow⟩ := names_registryAt x n
  intro m hm
  rw [issued_registryAt x n]
  have hname : m.name ∈ x.before.names ++ x.name :: more := hmore ▸ List.mem_map_of_mem hm
  rcases List.mem_append.mp hname with hname | hname
  · obtain ⟨m₀, hm₀, hname⟩ := List.mem_map.mp hname
    obtain ⟨q, token, hle, hwithin⟩ := h m₀ hm₀
    exact ⟨q, token, Nat.le_succ_of_le hle, hname ▸ hwithin⟩
  · refine ⟨x.path, x.before.issued + 1, Nat.le_refl _, ?_⟩
    rcases List.mem_cons.mp hname with hname | hname
    · exact Or.inl hname
    · exact Or.inr (hbelow _ hname)

theorem Reached.sound_named (h : Reached r) : Sound r ∧ Named r := by
  induction h with
  | empty => exact ⟨sound_empty, by simp [Named, Registry.empty]⟩
  | @load r h files p ih =>
    obtain ⟨hs, hn⟩ := ih
    have hstop : ∀ x, execution? files p r = .ok x → Sound x.stop ∧ Named x.stop := by
      intro x hx
      obtain rfl := before_of_execution? hx
      exact ⟨sound_registryAt hs _, named_registryAt hn _⟩
    cases hl : Registry.load files p r with
    | ok name s =>
      obtain ⟨x, hx, -, rfl⟩ := load_ok hl
      rw [after_of_ok hl]
      exact hstop x hx
    | error e s =>
      rw [after_of_error hl]
      rcases load_error hl with ⟨-, rfl⟩ | ⟨x, hx, rfl⟩
      · exact ⟨hs, hn⟩
      · obtain ⟨hs', hn'⟩ := hstop x hx
        split
        · exact ⟨hs'.without _, hn'.without _⟩
        · exact ⟨hs', hn'⟩

end Registry
end Plugin
end GeneratorHost
