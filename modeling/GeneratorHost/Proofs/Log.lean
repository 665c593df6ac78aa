import GeneratorHost.Proofs.FileTree.Lookup
import GeneratorHost.World

/-! Setting up the log again and again. Other code may have left handlers of its own; the last plan that is put into
    effect drops them, and what it leaves reaches every handler that a record is important enough for. -/

namespace GeneratorHost
namespace Logging

/-! ### Handlers of every origin -/

/-- A handler: one for the terminal, one for a log file, or one that other code has put there. -/
inductive Handler
  | terminal (level : Level)
  | file (handler : FileHandler)
  | foreign (level : Level)
  deriving DecidableEq, Repr

def Handler.level : Handler → Level
  | terminal level => level
  | file handler => handler.level
  | foreign level => level

/-- A log that other code may have put handlers in. -/
structure Root where
  threshold : Level
  handlers : List Handler
  deriving DecidableEq, Repr

/-- The handlers of a log, in the order in which they were put there. -/
def root (l : Logging) : Root :=
  ⟨l.threshold, (l.terminal.map Handler.terminal).toList ++ (l.file.map Handler.file).toList⟩

namespace Root

/-- Puts a plan into effect where there may be handlers of other code. All of them are dropped first. -/
def setUp (root : Root) (t : FileTree) (p : Plan) : Root × FileTree × Option Failure :=
  let done := Logging.setUp ⟨root.threshold, none, none⟩ t p
  (done.1.root, done.2)

/-- The handlers that a record reaches. -/
def reached (root : Root) (r : Record) : List Handler :=
  root.handlers.filter fun h => 0 < r.level && root.threshold ≤ r.level && h.level ≤ r.level

theorem setUp_of_no_file {t : FileTree} {p : Plan} (h : given? p.file = none) (root : Root) :
    root.setUp t p = (⟨Level.ofName p.level, [.terminal (Level.ofName p.level)]⟩, t, none) := by
  rw [setUp, Logging.setUp, h]
  rfl

theorem setUp_of_error {t : FileTree} {p : Plan} {file : Text} {e : Failure} (h : given? p.file = some file)
    (ho : openFile t file = .error e) (root : Root) :
    root.setUp t p = ({ root with handlers := [.terminal (Level.ofName p.level)] }, t, some e) := by
  rw [setUp, Logging.setUp, h]
  simp only [ho]
  rfl

theorem setUp_of_ok {t opened : FileTree} {p : Plan} {file : Text} {route : Route} (h : given? p.file = some file)
    (ho : openFile t file = .ok (opened, route)) (root : Root) :
    root.setUp t p = (⟨min (Level.ofName p.level) p.levelOfFile,
      [.terminal (Level.ofName p.level), .file ⟨p.levelOfFile, route⟩]⟩, opened, none) := by
  rw [setUp, Logging.setUp, h]
  simp only [ho]
  rfl

/-- A setup that returns leaves nothing of what was there before it. -/
theorem setUp_of_returns {t : FileTree} {p : Plan} {root : Root} (h : (root.setUp t p).2.2 = none) :
    (given? p.file = none ∧ ∀ other : Root,
      other.setUp t p = (⟨Level.ofName p.level, [.terminal (Level.ofName p.level)]⟩, t, none)) ∨
    ∃ opened route, (given? p.file).isSome ∧ ∀ other : Root,
      other.setUp t p = (⟨min (Level.ofName p.level) p.levelOfFile,
        [.terminal (Level.ofName p.level), .file ⟨p.levelOfFile, route⟩]⟩, opened, none) := by
  cases hf : given? p.file with
  | none => exact Or.inl ⟨rfl, setUp_of_no_file hf⟩
  | some file =>
    cases ho : openFile t file with
    | error e =>
      rw [setUp_of_error hf ho] at h
      cases h
    | ok found => exact Or.inr ⟨found.1, found.2, rfl, setUp_of_ok hf ho⟩

end Root

/-- What a handler does with a record. -/
def Handler.emit (r : Record) (w : World) : Handler → World
  | terminal level => { w with err := w.err ++ ((Layout.ofLevel level).line r ++ "\n").shown }
  | file handler => { w with files := w.files.appendAt handler.route (Layout.dated.line r ++ "\n") }
  | foreign _ => w

/-- The handlers that a plan left are told from those of other code by nothing. -/
theorem root_setUp (l : Logging) (t : FileTree) (p : Plan) :
    l.root.setUp t p = ((l.setUp t p).1.root, (l.setUp t p).2) := by
  rw [Root.setUp, Logging.setUp, Logging.setUp]
  cases given? p.file with
  | none => rfl
  | some file =>
    cases h : openFile t file with
    | error e =>
      simp only [h]
      rfl
    | ok opened => simp only [h]

section
variable (l : Logging) (r : Record) (w : World)

theorem foldl_emit_terminal :
    ((l.terminal.map Handler.terminal).toList.filter fun h => l.passes h.level r).foldl (Handler.emit r) w =
      { w with err := w.err ++ (l.onTerminal r).shown } := by
  have hempty : w = { w with err := w.err ++ Text.empty.shown } := by
    rw [show Text.empty.shown = "" from rfl, String.append_empty]
  unfold onTerminal
  cases l.terminal with
  | none => exact hempty
  | some level =>
    cases h : l.passes level r with
    | false => simpa [Handler.level, h] using hempty
    | true => simp [Handler.level, h, Handler.emit]

theorem foldl_emit_file :
    ((l.file.map Handler.file).toList.filter fun h => l.passes h.level r).foldl (Handler.emit r) w =
      { w with files := match l.inFile? r with
          | some (route, line) => w.files.appendAt route line
          | none => w.files } := by
  unfold inFile?
  cases l.file with
  | none => rfl
  | some handler =>
    cases h : l.passes handler.level r with
    | false => simp [Handler.level, h]
    | true => simp [Handler.level, h, Handler.emit]

/-- A record is made by handing it to the handlers that it reaches, one after the other. -/
theorem logged_eq :
    w.logged r = (w.logging.root.reached r).foldl (Handler.emit r) { w with records := w.records ++ [r] } := by
  have hreached : w.logging.root.reached r = w.logging.root.handlers.filter fun h => w.logging.passes h.level r := rfl
  rw [hreached, root, List.filter_append, List.foldl_append, foldl_emit_terminal, foldl_emit_file]
  rfl

end

/-- The content of a file after a line was added to it; what has no bytes is not added. -/
def withLine (old : Content) (line : Text) : Content :=
  match line.encode with
  | .ok bytes => .bytes (old.toBytes ++ bytes)
  | .error _ => old

theorem lookup_appendAt {t : FileTree} {route : Route} {old : Content} (h : t.lookup route = some (.file old))
    (line : Text) : (t.appendAt route line).lookup route = some (.file (withLine old line)) := by
  have hne : route ≠ [] := by
    rintro rfl
    cases h
  unfold FileTree.appendAt withLine
  rw [h]
  cases line.encode with
  | error e => exact h
  | ok bytes => exact FileTree.lookup_put_self hne _

theorem file_mem_root {l : Logging} {handler : FileHandler} :
    Handler.file handler ∈ l.root.handlers ↔ l.file = some handler := by
  obtain ⟨threshold, terminal, file⟩ := l
  cases terminal with
  | none => cases file <;> simp [root, eq_comm]
  | some level => cases file <;> simp [root, eq_comm]

/-- A record that reaches a log file is one line more at its end. -/
theorem lookup_logged {w : World} {r : Record} {handler : FileHandler} {old : Content}
    (hm : Handler.file handler ∈ w.logging.root.reached r) (hc : w.files.lookup handler.route = some (.file old)) :
    (w.logged r).files.lookup handler.route = some (.file (withLine old (Layout.dated.line r ++ "\n"))) := by
  obtain ⟨hm, hpasses⟩ := List.mem_filter.mp hm
  have hin : w.logging.inFile? r = some (handler.route, Layout.dated.line r ++ "\n") := by
    rw [inFile?, file_mem_root.mp hm]
    exact if_pos hpasses
  simp only [World.logged, hin]
  exact lookup_appendAt hc _

/-! ### One setup after another -/

/-- A setup from the command line, with the files that it finds. -/
structure Call where
  flags : Flags
  environment : Environment
  files : FileTree

namespace Call

def plan (c : Call) : Plan := Logging.plan c.flags c.environment

/-- What a setup leaves, whether it returns or not. -/
def leaves (root : Root) (c : Call) : Root := (root.setUp c.files c.plan).1

def Returns (root : Root) (c : Call) : Prop := (root.setUp c.files c.plan).2.2 = none

/-- The value of a variable that is set to something. -/
def given? (c : Call) (name : String) : Option Text := Logging.given? (c.environment.get? name)

/-- The level for the terminal: a flag comes before the environment. -/
def level (c : Call) : Level :=
  if c.flags.debug then Level.debug
  else if c.flags.verbose then Level.info
  else if c.flags.quiet then Level.error
  else ((c.given? levelVariable).map Level.ofName).getD Level.warning

/-- The level for the log file. -/
def fileLevel (c : Call) : Level := ((c.given? fileLevelVariable).map Level.ofName).getD c.level

theorem ofName_plan (c : Call) : Level.ofName c.plan.level = c.level := by
  show Level.ofName (c.flags.resolve (c.environment.get? levelVariable)) = c.level
  unfold Flags.resolve level
  split
  · rfl
  · split
    · rfl
    · split
      · rfl
      · rw [given?]
        cases Logging.given? (c.environment.get? levelVariable) with
        | none => rfl
        | some name => rfl

theorem levelOfFile_plan (c : Call) : c.plan.levelOfFile = c.fileLevel := by
  have hgiven : Logging.given? c.plan.fileLevel = c.given? fileLevelVariable := rfl
  unfold Plan.levelOfFile fileLevel
  rw [hgiven]
  cases c.given? fileLevelVariable with
  | none => exact c.ofName_plan
  | some name => rfl

end Call

theorem Root.reached_eq {root : Root} (h : ∀ handler ∈ root.handlers, root.threshold ≤ handler.level) {r : Record}
    (hr : 0 < r.level) : root.reached r = root.handlers.filter (·.level ≤ r.level) := by
  refine List.filter_congr fun handler hm => ?_
  have hle := h handler hm
  by_cases hreach : handler.level ≤ r.level
  · simp [hr, hreach, Nat.le_trans hle hreach]
  · simp [hreach]

theorem Root.reached_of_level_zero (root : Root) {r : Record} (hr : r.level = 0) : root.reached r = [] := by
  simp [reached, hr]

/-- What a setup leaves if it returns: its own handlers and no other, and a threshold that keeps no record from them. -/
structure Root.OfCall (c : Call) (root : Root) : Prop where
  handlers : ∃ file, root.handlers = .terminal c.level :: file ∧
    ((c.given? fileVariable).isSome ∧ (∃ route, file = [.file ⟨c.fileLevel, route⟩]) ∨
      c.given? fileVariable = none ∧ file = [])
  threshold : ∀ handler ∈ root.handlers, root.threshold ≤ handler.level

theorem Call.leaves_of_returns {root : Root} {c : Call} (h : c.Returns root) :
    (∀ other : Root, other.setUp c.files c.plan = root.setUp c.files c.plan) ∧ (c.leaves root).OfCall c := by
  obtain ⟨hf, hs⟩ | ⟨opened, route, hf, hs⟩ := Root.setUp_of_returns h
  · refine ⟨fun other => (hs other).trans (hs root).symm, ?_⟩
    have hl : c.leaves root = ⟨c.level, [.terminal c.level]⟩ := by
      rw [leaves, hs root, ofName_plan]
    rw [hl]
    refine ⟨⟨[], rfl, Or.inr ⟨hf, rfl⟩⟩, fun handler hm => ?_⟩
    rw [List.mem_singleton.mp hm]
    exact Nat.le_refl c.level
  · refine ⟨fun other => (hs other).trans (hs root).symm, ?_⟩
    have hl : c.leaves root = ⟨min c.level c.fileLevel, [.terminal c.level, .file ⟨c.fileLevel, route⟩]⟩ := by
      rw [leaves, hs root, ofName_plan, levelOfFile_plan]
    rw [hl]
    refine ⟨⟨_, rfl, Or.inl ⟨hf, route, rfl⟩⟩, fun handler hm => ?_⟩
    rcases List.mem_cons.mp hm with rfl | hm
    · exact Nat.min_le_left c.level c.fileLevel
    · rw [List.mem_singleton.mp hm]
      exact Nat.min_le_right c.level c.fileLevel

/-- After any number of setups, failed ones among them, what the last one leaves if it returns is decided by that one
    alone: one handler for the terminal, and one for a file if and only if a file is named. From then on a record of a
    level above zero is handed once to each handler that it is important enough for. -/
theorem logging_after_last_setUp (start : Root) (calls : List Call) (last : Call)
    (h : last.Returns (calls.foldl Call.leaves start)) :
    let root := (calls ++ [last]).foldl Call.leaves start
    (∀ other : Root, last.leaves other = root) ∧
    (∃ file, root.handlers = .terminal last.level :: file ∧
      ((last.given? fileVariable).isSome ∧ (∃ route, file = [.file ⟨last.fileLevel, route⟩]) ∨
        last.given? fileVariable = none ∧ file = [])) ∧
    ∀ w : World, w.files = last.files → ∃ v, World.setUpLog last.plan w = .ok () v ∧ v.logging.root = root ∧
      ∀ (u : World) (r : Record), u.logging = v.logging →
        (0 < r.level → u.logged r = (root.handlers.filter (·.level ≤ r.level)).foldl (Handler.emit r)
          { u with records := u.records ++ [r] }) ∧
        (r.level = 0 → u.logged r = { u with records := u.records ++ [r] }) ∧
        ∀ handler old, Handler.file handler ∈ root.handlers → 0 < r.level → handler.level ≤ r.level →
          u.files.lookup handler.route = some (.file old) →
          (u.logged r).files.lookup handler.route = some (.file (withLine old (Layout.dated.line r ++ "\n"))) := by
  intro root
  have hroot : root = last.leaves (calls.foldl Call.leaves start) := by
    simp only [root, List.foldl_append, List.foldl_cons, List.foldl_nil]
  obtain ⟨hsame, hof⟩ := Call.leaves_of_returns h
  rw [← hroot] at hof
  refine ⟨fun other => (congrArg Prod.fst (hsame other)).trans hroot.symm, hof.handlers, fun w hw => ?_⟩
  -- What is left does not depend on the log that was there, so the log of any world will do as the one before.
  have hset : ((w.logging.setUp last.files last.plan).1.root, (w.logging.setUp last.files last.plan).2) =
      (calls.foldl Call.leaves start).setUp last.files last.plan :=
    (root_setUp w.logging last.files last.plan).symm.trans (hsame w.logging.root)
  rcases hs : w.logging.setUp last.files last.plan with ⟨logging, files, failed⟩
  rw [hs] at hset
  have hfailed : failed = none := (congrArg (fun result : Root × FileTree × Option Failure => result.2.2) hset).trans h
  subst hfailed
  have hlogging : logging.root = root := (congrArg Prod.fst hset).trans hroot.symm
  refine ⟨{ w with logging, files }, by rw [World.setUpLog, hw, hs], hlogging, fun u r hu => ?_⟩
  have hreached : u.logging.root = root := by rw [hu, ← hlogging]
  refine ⟨fun hr => ?_, fun hr => ?_, fun handler old hm hr hle hc => ?_⟩
  · rw [logged_eq, hreached, Root.reached_eq hof.threshold hr]
  · rw [logged_eq, hreached, Root.reached_of_level_zero root hr]
    rfl
  · refine lookup_logged ?_ hc
    rw [hreached, Root.reached_eq hof.threshold hr]
    exact List.mem_filter.mpr ⟨hm, decide_eq_true hle⟩

/-- A setup whose log file cannot be opened, and another one after it. -/
def failedSetUp : Call := ⟨⟨true, false, false⟩, [(fileVariable, "missing/run.log")], ⟨[], []⟩⟩

def quietSetUp : Call :=
  ⟨⟨false, false, true⟩, [(fileVariable, "run.log"), (fileLevelVariable, "info")], ⟨[], []⟩⟩

theorem logging_after_failedSetUp :
    ¬failedSetUp.Returns ⟨Level.warning, [.foreign 0, .foreign 50]⟩ ∧
      ∃ file, ([failedSetUp, quietSetUp].foldl Call.leaves ⟨Level.warning, [.foreign 0, .foreign 50]⟩).handlers =
        .terminal 40 :: file ∧ ∃ route, file = [.file ⟨20, route⟩] := by
  have hfailed : ¬failedSetUp.Returns ⟨Level.warning, [.foreign 0, .foreign 50]⟩ := by
    unfold Call.Returns
    decide
  have hreturns : quietSetUp.Returns ([failedSetUp].foldl Call.leaves ⟨Level.warning, [.foreign 0, .foreign 50]⟩) := by
    unfold Call.Returns
    decide
  obtain ⟨-, ⟨file, hh, ⟨-, route, hr⟩ | ⟨hf, -⟩⟩, -⟩ := logging_after_last_setUp _ _ _ hreturns
  · exact ⟨hfailed, file, hh, route, hr⟩
  · cases hf

/-- A record of level zero goes to no handler, although all handlers here have that level; and a line that has no bytes
    does not get into the log file. -/
theorem logging_after_setUp_of_level_zero :
    let last : Call := ⟨⟨false, false, false⟩, [(levelVariable, "NOTSET"), (fileVariable, "run.log")], ⟨[], []⟩⟩
    ∃ v, World.setUpLog last.plan (.new ⟨[], []⟩ default) = .ok () v ∧
      v.logging.root = ⟨0, [.terminal 0, .file ⟨0, ["run.log"]⟩]⟩ ∧
      (v.logged ⟨0, .named "genharness.x", "m"⟩).err = v.err ∧
      (v.logged ⟨0, .named "genharness.x", "m"⟩).files = v.files ∧
      (v.logged ⟨Level.warning, .named "genharness.x", ⟨[.half 0]⟩⟩).files = v.files :=
  ⟨_, rfl, by decide, rfl, rfl, rfl⟩

end Logging
end GeneratorHost
