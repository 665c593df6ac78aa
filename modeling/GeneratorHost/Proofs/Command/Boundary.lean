import GeneratorHost.Command
import GeneratorHost.Proofs.Run.Stages
import GeneratorHost.Proofs.Run.Touching
import GeneratorHost.Proofs.Text.Utf8

/-! How the command ends. What fails in the run itself is reported in one line and makes the exit code one. The log is set
    up before anything is caught, and the outcome is told when nothing is caught any more: what fails there makes the exit
    code one without a word. -/

namespace GeneratorHost

namespace Text

/-- What stands before the first control sequence stays as it is. -/
theorem dropSequences_append {before : List Letter} (h : ∀ l ∈ before, l.code ≠ 0x1B) (rest : List Letter) :
    dropSequences 0 (before ++ rest) = before ++ dropSequences 0 rest := by
  induction before with
  | nil => rfl
  | cons l ls ih =>
    obtain ⟨hl, hls⟩ := List.forall_mem_cons.mp h
    have hne : (l.code == 0x1B) = false := beq_eq_false_iff_ne.mpr hl
    rw [List.cons_append, dropSequences, hne, ih hls]
    rfl

/-- Characters without control sequences are characters. -/
theorem chars_dropSequences : ∀ (skip : Nat) (cs : List Char),
    ∃ ds : List Char, dropSequences skip (cs.map .char) = ds.map .char
  | _, [] => ⟨[], rfl⟩
  | skip + 1, _ :: cs => chars_dropSequences skip cs
  | 0, c :: cs => by
    obtain ⟨ds, hds⟩ := chars_dropSequences 0 cs
    rw [List.map_cons, dropSequences]
    split
    · split
      · exact chars_dropSequences _ cs
      · exact ⟨c :: ds, by rw [hds]; rfl⟩
    · exact ⟨c :: ds, by rw [hds]; rfl⟩

theorem append_assoc (s t u : Text) : s ++ t ++ u = s ++ (t ++ u) :=
  congrArg Text.mk (List.append_assoc _ _ _)

end Text

/-- The standard output takes whatever was one string. -/
theorem World.print_ofString (s : String) (w : World) :
    print s w = .ok () { w with out := w.out ++ (s : Text).shown } := by
  obtain ⟨bytes, hbytes, -⟩ := Text.decode_encode s
  rw [print, hbytes]

namespace Command

variable {environment : Logging.Environment} {arguments : List Text} {i : Invocation} {w v : World} {e : Failure}

/-! ### The log -/

/-- The log file that the environment names cannot be opened. -/
def LogFails (environment : Logging.Environment) (w : World) (e : Failure) : Prop :=
  ∃ file, Logging.given? (environment.get? Logging.fileVariable) = some file ∧
    Logging.openFile w.files file = .error e

/-- Whether the log can be set up depends on its file alone, and nothing is said about it. -/
theorem setUpLog_cases (f : Logging.Flags) (environment : Logging.Environment) (w : World) :
    (∃ e v, World.setUpLog (Logging.plan f environment) w = .error e v ∧ LogFails environment w e ∧ v.out = w.out ∧
      v.err = w.err) ∨
    ∃ v, World.setUpLog (Logging.plan f environment) w = .ok () v ∧ (∀ e, ¬LogFails environment w e) ∧ v.out = w.out ∧
      v.err = w.err := by
  have hfile : (Logging.plan f environment).file = environment.get? Logging.fileVariable := rfl
  unfold World.setUpLog Logging.setUp
  rw [hfile]
  cases hg : Logging.given? (environment.get? Logging.fileVariable) with
  | none => exact Or.inr ⟨_, rfl, (fun e ⟨file, hf, _⟩ => nomatch hg.symm.trans hf), rfl, rfl⟩
  | some file =>
    cases ho : Logging.openFile w.files file with
    | error e =>
      simp only [ho]
      exact Or.inl ⟨e, _, rfl, ⟨file, hg, ho⟩, rfl, rfl⟩
    | ok opened =>
      simp only [ho]
      refine Or.inr ⟨_, rfl, fun e ⟨file', hf, he⟩ => ?_, rfl, rfl⟩
      obtain rfl := Option.some.inj (hg.symm.trans hf)
      cases ho.symm.trans he

/-! ### Reports -/

/-- The lines of diagnostics, in their order, up to the first that cannot be written. -/
def diagnosticLines : List Diagnostic → String
  | [] => ""
  | d :: ds =>
    match d.text with
    | .ok t => (t.plain ++ "\n").shown ++ diagnosticLines ds
    | .error _ => ""

/-- What the standard output shows of a line. -/
def printed (t : Text) : Except Failure String :=
  match (t.plain ++ "\n").encode with
  | .ok _ => .ok (t.plain ++ "\n").shown
  | .error e => .error (.unencodable e)

/-- What a success comes to on the standard output, if every diagnostic and then its last line can be written. -/
def successLine (json : Bool) (r : Run.Report) : Except Failure String := do
  let _ ← r.diagnostics.mapM Diagnostic.text
  printed (← outcomeText json r)

/-- Every diagnostic has a line. -/
def Writable (ds : List Diagnostic) : Prop := ∀ d ∈ ds, ∃ t, d.text = .ok t

/-- The only diagnostics without a line point to a line whose number has too many digits. -/
theorem text_eq_error {d : Diagnostic} : d.text = .error e ↔
    e = .scalar .unwritable ∧ ∃ l n, d.location = some l ∧ l.line = some n ∧ Text.fitsDigits n = false := by
  unfold Diagnostic.text Diagnostic.placeText Location.text
  cases d.location with
  | none => simp [Except.map]
  | some l =>
    cases hl : l.line with
    | none => simp [hl, Except.map]
    | some n => cases hn : Text.fitsDigits n <;> simp [hl, hn, Except.map, eq_comm (a := e)]

theorem mapM_text_eq_ok : ∀ {ds : List Diagnostic}, (∃ ts, ds.mapM Diagnostic.text = .ok ts) ↔ Writable ds
  | [] => ⟨fun _ _ h => (nomatch h), fun _ => ⟨[], rfl⟩⟩
  | d :: ds => by
    have ih : (∃ ts, ds.mapM Diagnostic.text = .ok ts) ↔ Writable ds := mapM_text_eq_ok
    rw [Writable, List.forall_mem_cons, ← Writable, ← ih, List.mapM_cons]
    cases d.text with
    | error e => exact ⟨fun ⟨_, h⟩ => (nomatch h), fun ⟨⟨_, h⟩, _⟩ => (nomatch h)⟩
    | ok t =>
      cases ds.mapM Diagnostic.text with
      | error e => exact ⟨fun ⟨_, h⟩ => (nomatch h), fun ⟨_, _, h⟩ => (nomatch h)⟩
      | ok ts => exact ⟨fun _ => ⟨⟨t, rfl⟩, ts, rfl⟩, fun _ => ⟨t :: ts, rfl⟩⟩

theorem printed_eq_ok {t : Text} : (∃ line, printed t = .ok line) ↔ ∃ bytes, (t.plain ++ "\n").encode = .ok bytes := by
  unfold printed
  cases (t.plain ++ "\n").encode with
  | ok bytes => exact ⟨fun _ => ⟨bytes, rfl⟩, fun _ => ⟨_, rfl⟩⟩
  | error e => exact ⟨fun ⟨_, h⟩ => (nomatch h), fun ⟨_, h⟩ => (nomatch h)⟩

/-- A text that was one string has bytes without its control sequences too. -/
theorem printed_ofString (s : String) : ∃ line, printed s = .ok line := by
  obtain ⟨cs, hcs⟩ := Text.chars_dropSequences 0 s.toList
  have hletters : ((s : Text).plain ++ "\n").letters = (cs ++ ['\n']).map .char := by
    show Text.dropSequences 0 (s.toList.map .char) ++ _ = _
    rw [hcs, List.map_append]
    rfl
  refine printed_eq_ok.mpr ⟨(cs ++ ['\n']).flatMap Text.encodeChar, ?_⟩
  rw [Text.encode, hletters, Text.encodeFrom_chars]

/-- When a success can be told: each diagnostic has a line, and the name of the generator is a text in the one way, while
    in the other there is no half in the last line. -/
theorem successLine_eq_ok {json : Bool} {r : Run.Report} : (∃ line, successLine json r = .ok line) ↔
    Writable r.diagnostics ∧ if json then ∃ name, r.generator = .text name
      else ∃ bytes, ((successText r).plain ++ "\n").encode = .ok bytes := by
  rw [← mapM_text_eq_ok, successLine]
  cases hm : r.diagnostics.mapM Diagnostic.text with
  | error e => exact ⟨fun ⟨_, h⟩ => (nomatch h), fun ⟨⟨_, h⟩, _⟩ => (nomatch h)⟩
  | ok ts =>
    have htold : ∀ {p q : Prop}, (p ↔ q) → (p ↔ (∃ us, Except.ok (ε := Failure) ts = .ok us) ∧ q) :=
      fun h => h.trans (and_iff_right ⟨ts, rfl⟩).symm
    refine htold ?_
    cases json with
    | false => exact printed_eq_ok
    | true =>
      have hjson : (∃ j, reportJson r = .ok j) ↔ ∃ name, r.generator = .text name := by
        unfold reportJson
        rw [hm]
        cases r.generator with
        | text name => exact ⟨fun _ => ⟨name, rfl⟩, fun _ => ⟨_, rfl⟩⟩
        | method => exact ⟨fun ⟨_, h⟩ => (nomatch h), fun ⟨_, h⟩ => (nomatch h)⟩
      refine Iff.trans ?_ hjson
      unfold outcomeText
      cases reportJson r with
      | error e => exact ⟨fun ⟨_, h⟩ => (nomatch h), fun ⟨_, h⟩ => (nomatch h)⟩
      | ok j => exact ⟨fun _ => ⟨j, rfl⟩, fun _ => printed_ofString _⟩

theorem echoDiagnostics_eq : ∀ (ds : List Diagnostic) (w : World), echoDiagnostics ds w =
    match ds.mapM Diagnostic.text with
    | .ok _ => .ok () { w with err := w.err ++ diagnosticLines ds }
    | .error e => .error e { w with err := w.err ++ diagnosticLines ds }
  | [], w => by
    rw [diagnosticLines, String.append_empty]
    rfl
  | d :: ds, w => by
    have hcons : echoDiagnostics (d :: ds) = (Act.ofExcept d.text >>= fun t => echoError t >>= fun _ =>
      echoDiagnostics ds) := rfl
    rw [hcons, List.mapM_cons, diagnosticLines]
    cases d.text with
    | error e =>
      rw [String.append_empty]
      rfl
    | ok t =>
      refine (echoDiagnostics_eq ds { w with err := w.err ++ (t.plain ++ "\n").shown }).trans ?_
      rw [← String.append_assoc]
      cases ds.mapM Diagnostic.text <;> rfl

theorem echo_eq (t : Text) (w : World) : echo t w =
    match printed t with
    | .ok line => .ok () { w with out := w.out ++ line }
    | .error e => .error e w := by
  unfold echo World.print printed
  cases (t.plain ++ "\n").encode <;> rfl

/-- A success is told on both outputs, as far as it can be written. -/
theorem reportSuccess_eq (json : Bool) (r : Run.Report) (w : World) : reportSuccess json r w =
    match successLine json r with
    | .ok line => .ok () { w with err := w.err ++ diagnosticLines r.diagnostics, out := w.out ++ line }
    | .error e => .error e { w with err := w.err ++ diagnosticLines r.diagnostics } := by
  have hreport : reportSuccess json r = (echoDiagnostics r.diagnostics >>= fun _ =>
    Act.ofExcept (outcomeText json r) >>= echo) := rfl
  rw [hreport, Act.bind_eq, echoDiagnostics_eq, successLine]
  cases r.diagnostics.mapM Diagnostic.text with
  | error e => rfl
  | ok ts =>
    cases outcomeText json r with
    | error e => rfl
    | ok t => exact echo_eq t _

/-- What is said of a failure. -/
def reason : Failure → Text
  | .exit code => "generator exited (code " ++ code.display ++ ")"
  | e => e.message

/-- The line about a failure says what is said of it, unless the run was interrupted. -/
theorem failureText_eq {line : Text} (h : failureText e = .ok line) (hordinary : ∀ message, e ≠ .interrupt message) :
    line = "Error executing generator: " ++ reason e := by
  cases e with
  | interrupt message => exact absurd rfl (hordinary message)
  | exit code =>
    have hexit : Text.ofString "Error executing generator: generator exited (code " =
      "Error executing generator: " ++ "generator exited (code " := by decide +kernel
    rw [failureText] at h
    split at h <;> cases h
    rw [hexit, reason, Text.append_assoc, Text.append_assoc, Text.append_assoc]
  | missingKey key =>
    rw [failureText] at h
    split at h <;> cases h
    rfl
  | _ =>
    cases h
    rfl

/-- The failures that have no line: a value with too many digits is to be shown in it. -/
theorem failureText_eq_error : failureText e = .error escaped ↔
    escaped = .scalar .unwritable ∧ ∃ v : Value, v.isWritable = false ∧ (e = .exit v ∨ e = .missingKey v) := by
  cases e with
  | exit code =>
    rw [failureText]
    cases hw : code.isWritable <;> simp [hw, eq_comm (a := escaped)]
  | missingKey key =>
    rw [failureText]
    cases hw : key.isWritable <;> simp [hw, eq_comm (a := escaped)]
  | _ => simp [failureText]

/-- The line about a failure is printed without control sequences; there are none in its beginning. -/
theorem plain_failureLine (reason : Text) :
    ("Error executing generator: " ++ reason : Text).plain = "Error executing generator: " ++ reason.plain :=
  congrArg Text.mk (Text.dropSequences_append (by decide +kernel) _)

theorem reportFailure_eq (e : Failure) (w : World) : reportFailure e w =
    match failureText e with
    | .ok line => .ok 1 { w with err := w.err ++ (line.plain ++ "\n").shown }
    | .error escaped => .error escaped w := by
  unfold reportFailure
  cases failureText e <;> rfl

/-! ### The whole command -/

/-- Everything that an invocation does, if nothing that fails is caught. -/
def work (environment : Logging.Environment) (i : Invocation) : Act World Unit := do
  World.setUpLog (Logging.plan (flags i) environment)
  let report ← Run.run (request i)
  reportSuccess i.json report

/-- The run of an invocation fails. -/
def RunFails (environment : Logging.Environment) (i : Invocation) (w : World) (e : Failure) : Prop :=
  ∃ u v, World.setUpLog (Logging.plan (flags i) environment) w = .ok () u ∧ Run.run (request i) u = .error e v

/-- The run of an invocation succeeds, and that cannot be told. -/
def ReportFails (environment : Logging.Environment) (i : Invocation) (w : World) (e : Failure) : Prop :=
  ∃ u v report, World.setUpLog (Logging.plan (flags i) environment) w = .ok () u ∧
    Run.run (request i) u = .ok report v ∧ successLine i.json report = .error e

section Invoke
variable {environment : Logging.Environment} {i : Invocation} {w u v : World} {e : Failure} {report : Run.Report}

theorem invoke_of_setUpLog_error (h : World.setUpLog (Logging.plan (flags i) environment) w = .error e v) :
    invoke environment i w = .error e v :=
  Act.bind_error h

/-- A run that fails is told of. -/
theorem invoke_of_run_error (hset : World.setUpLog (Logging.plan (flags i) environment) w = .ok () u)
    (hrun : Run.run (request i) u = .error e v) : invoke environment i w = reportFailure e v :=
  (Act.bind_ok hset).trans (Act.attempt_bind_error hrun)

/-- A run that succeeds is told of, and then nothing is caught. -/
theorem invoke_of_run_ok (hset : World.setUpLog (Logging.plan (flags i) environment) w = .ok () u)
    (hrun : Run.run (request i) u = .ok report v) : invoke environment i w =
    match successLine i.json report with
    | .ok line => .ok 0 { v with err := v.err ++ diagnosticLines report.diagnostics, out := v.out ++ line }
    | .error e => .error e { v with err := v.err ++ diagnosticLines report.diagnostics } := by
  refine ((Act.bind_ok hset).trans (Act.attempt_bind_ok hrun)).trans ((Act.bind_eq _ _ _).trans ?_)
  rw [reportSuccess_eq]
  cases successLine i.json report <;> rfl

end Invoke

/-- An invocation exits with zero if nothing fails, and with one if anything does; then nothing was written on the standard
    output. A run that fails is reported in a last line on the other output, which says what failed. There are three ways
    out of the command that nothing catches: the log file cannot be opened, a run succeeds and that cannot be told, or what
    is said of a run that failed is a value with too many digits. -/
theorem run_boundary (environment : Logging.Environment) (w : World) (h : Parsed.ofArguments arguments = .invocation i) :
    match work environment i w with
    | .ok () v => run environment arguments w = .ok 0 v
    | .error e v => Run.Quiet w v ∧
        ((LogFails environment w e ∧ invoke environment i w = .error e v ∧ run environment arguments w = .ok 1 v ∧
            v.err = w.err) ∨
          (RunFails environment i w e ∧
            match failureText e with
            | .ok line =>
              run environment arguments w = .ok 1 { v with err := v.err ++ (line.plain ++ "\n").shown } ∧
                ((∀ message, e ≠ .interrupt message) → line.plain = "Error executing generator: " ++ (reason e).plain)
            | .error escaped =>
              (∃ value : Value, value.isWritable = false ∧ (e = .exit value ∨ e = .missingKey value)) ∧
                invoke environment i w = .error escaped v ∧ run environment arguments w = .ok 1 v) ∨
          (ReportFails environment i w e ∧ invoke environment i w = .error e v ∧
            run environment arguments w = .ok 1 v)) := by
  have hrun : run environment arguments w = silently (invoke environment i) w := by rw [run, h]
  rw [hrun]
  rcases setUpLog_cases (flags i) environment w with ⟨e, v, hset, hfails, hout, herr⟩ | ⟨v, hset, -, hout, herr⟩
  · -- the log is set up before anything is caught
    have hinvoke := invoke_of_setUpLog_error hset
    have hwork : work environment i w = .error e v := Act.bind_error hset
    rw [hwork]
    exact ⟨Run.quiet_of_eq hout herr, Or.inl ⟨hfails, hinvoke, by rw [silently, hinvoke], herr⟩⟩
  · have hwork : work environment i w = _ := Act.bind_ok hset
    have hquiet : Run.Quiet w ((Run.run (request i)).after v) :=
      (Run.quiet_of_eq hout herr).trans ((Run.Touching.run _).quiet v)
    rw [hwork]
    cases hr : Run.run (request i) v with
    | error e u =>
      -- the run is caught, and what there is to say of it makes a line or none
      rw [Act.after_of_error hr] at hquiet
      rw [Act.bind_error hr, silently, invoke_of_run_error hset hr, reportFailure_eq]
      refine ⟨hquiet, Or.inr (Or.inl ⟨⟨v, u, hset, hr⟩, ?_⟩)⟩
      cases hf : failureText e with
      | ok line => exact ⟨rfl, fun hordinary => by rw [failureText_eq hf hordinary, plain_failureLine]⟩
      | error escaped => exact ⟨(failureText_eq_error.mp hf).2, rfl, rfl⟩
    | ok report u =>
      rw [Act.after_of_ok hr] at hquiet
      rw [Act.bind_ok hr, silently, invoke_of_run_ok hset hr, reportSuccess_eq]
      cases hs : successLine i.json report with
      | ok line => rfl
      | error e =>
        -- nothing is caught any more, and the diagnostics that could be written stand on the other output
        obtain ⟨said, herr⟩ := hquiet.err
        refine ⟨⟨hquiet.out, said ++ diagnosticLines report.diagnostics, ?_⟩,
          Or.inr (Or.inr ⟨⟨v, u, report, hset, hr, hs⟩, rfl, rfl⟩)⟩
        show u.err ++ _ = _
        rw [herr, String.append_assoc]

/-- The environment names a log file in a directory that is not there. -/
theorem run_boundary_unopenable :
    LogFails [("GENHARNESS_LOG_FILE", "missing/run.log")] (Run.withPlugin none []) (.os .missing "/missing/run.log") ∧
      ∃ v, run [("GENHARNESS_LOG_FILE", "missing/run.log")] ["g.py", "out"] (Run.withPlugin none []) = .ok 1 v ∧
        v.out = "" ∧ v.err = "" := by
  have hopen : Logging.openFile (Run.withPlugin none []).files "missing/run.log" =
      .error (.os .missing "/missing/run.log") := by
    unfold Logging.openFile
    rfl
  have hfails : LogFails [("GENHARNESS_LOG_FILE", "missing/run.log")] (Run.withPlugin none [])
      (.os .missing "/missing/run.log") := ⟨"missing/run.log", by decide +kernel, hopen⟩
  refine ⟨hfails, ?_⟩
  obtain ⟨i, hi⟩ : ∃ i, Parsed.ofArguments ["g.py", "out"] = .invocation i := ⟨_, rfl⟩
  have hends := run_boundary [("GENHARNESS_LOG_FILE", "missing/run.log")] (Run.withPlugin none []) hi
  rcases setUpLog_cases (flags i) [("GENHARNESS_LOG_FILE", "missing/run.log")] (Run.withPlugin none []) with
    ⟨e, v, hset, hlog, -⟩ | ⟨v, -, hopens, -⟩
  · have hwork : work [("GENHARNESS_LOG_FILE", "missing/run.log")] i (Run.withPlugin none []) = .error e v :=
      Act.bind_error hset
    rw [hwork] at hends
    obtain ⟨⟨hout, -⟩, ⟨-, -, hrun, herr⟩ | ⟨⟨u, x, hset', -⟩, -⟩ | ⟨⟨u, x, report, hset', -⟩, -⟩⟩ := hends
    · exact ⟨v, hrun, hout, herr⟩
    · cases hset.symm.trans hset'
    · cases hset.symm.trans hset'
  · exact absurd hfails (hopens _)

/-- A failure that is caught is reported. -/
example :
    (match run [] ["absent.py", "out"] (Run.withPlugin none []) with
      | .ok code v => (code, v.out, v.err)
      | .error _ _ => (0, "", "")) =
      (1, "", "Error executing generator: Generator module not found: /absent.py\n") := by
  decide +kernel

end Command
end GeneratorHost
