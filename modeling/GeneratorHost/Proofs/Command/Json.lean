import GeneratorHost.Proofs.Command.Arguments
import GeneratorHost.Proofs.Command.Boundary
import GeneratorHost.Proofs.Run.Messages

/-! The command with JSON and without. The flag decides what is written on the standard output after a run that succeeded,
    and whether that can be written at all; what is said on the other output comes in a fixed order. -/

namespace GeneratorHost
namespace Command

open Run (Saying Said)

variable {environment : Logging.Environment} {arguments more : List Text} {i : Invocation} {w v u : World}

/-- The log is set up before anything is said. -/
theorem setUpLog_says_nothing {p : Logging.Plan} (h : World.setUpLog p w = .ok () v) :
    v.out = w.out ∧ v.err = w.err ∧ v.records = w.records := by
  unfold World.setUpLog at h
  split at h
  · cases h
    exact ⟨rfl, rfl, rfl⟩
  · cases h

/-! ### The command -/

/-- A run succeeds, and that can be told in one of the two ways alone: the name of its generator is a method, which is no
    value of JSON, or there is a half in the line that is printed otherwise, which is no text of the standard output. -/
def ToldApart (environment : Logging.Environment) (i : Invocation) (w : World) : Prop :=
  ∃ u v report, World.setUpLog (Logging.plan (flags i) environment) w = .ok () u ∧
    Run.run (request i) u = .ok report v ∧ Writable report.diagnostics ∧
    ¬((∃ name, report.generator = .text name) ↔ ∃ bytes, ((successText report).plain ++ "\n").encode = .ok bytes)

/-- What comes of a success in the two ways: the same, unless it can be told in one of them alone. -/
theorem successLine_withJson (json : Bool) (r : Run.Report) :
    ((∃ line, successLine json r = .ok line) ↔ ∃ line, successLine true r = .ok line) ∨ Writable r.diagnostics ∧
      ¬((∃ name, r.generator = .text name) ↔ ∃ bytes, ((successText r).plain ++ "\n").encode = .ok bytes) := by
  cases json with
  | true => exact Or.inl Iff.rfl
  | false =>
    rw [successLine_eq_ok, successLine_eq_ok]
    simp only [Bool.false_eq_true, if_false, if_true]
    by_cases hw : Writable r.diagnostics
    · by_cases hboth : (∃ name, r.generator = .text name) ↔ ∃ bytes, ((successText r).plain ++ "\n").encode = .ok bytes
      · exact Or.inl (and_congr_right fun _ => hboth.symm)
      · exact Or.inr ⟨hw, hboth⟩
    · exact Or.inl ⟨fun h => absurd h.1 hw, fun h => absurd h.1 hw⟩

/-- An invocation ends alike with the flag and without, but for the standard output after a success, and as far as a
    success can be told in both ways. -/
theorem invoke_withJson (environment : Logging.Environment) (i : Invocation) (w : World) :
    ∃ code code' v v', silently (invoke environment i) w = .ok code v ∧
      silently (invoke environment { i with json := true }) w = .ok code' v' ∧ v' = { v with out := v'.out } ∧
      (code ≠ 0 → v.out = w.out) ∧ (code' ≠ 0 → v'.out = w.out) ∧ (code' = code ∨ ToldApart environment i w) := by
  have hrequest : request { i with json := true } = request i := rfl
  have hflags : flags { i with json := true } = flags i := rfl
  unfold silently
  rcases setUpLog_cases (flags i) environment w with ⟨e, v, hset, -, hout, -⟩ | ⟨v, hset, -, hout, -⟩
  · have hset' : World.setUpLog (Logging.plan (flags { i with json := true }) environment) w = .error e v := hset
    rw [invoke_of_setUpLog_error hset, invoke_of_setUpLog_error hset']
    exact ⟨1, 1, v, v, rfl, rfl, rfl, fun _ => hout, fun _ => hout, Or.inl rfl⟩
  · have hset' : World.setUpLog (Logging.plan (flags { i with json := true }) environment) w = .ok () v := hset
    have hquiet : ((Run.run (request i)).after v).out = w.out := ((Run.Touching.run _).quiet v).out.trans hout
    cases hr : Run.run (request i) v with
    | error e u =>
      have hend : u.out = w.out := Act.after_of_error hr ▸ hquiet
      have hr' : Run.run (request { i with json := true }) v = .error e u := hr
      rw [invoke_of_run_error hset hr, invoke_of_run_error hset' hr', reportFailure_eq]
      cases failureText e <;> exact ⟨1, 1, _, _, rfl, rfl, rfl, fun _ => hend, fun _ => hend, Or.inl rfl⟩
    | ok report u =>
      have hend : u.out = w.out := Act.after_of_ok hr ▸ hquiet
      have hr' : Run.run (request { i with json := true }) v = .ok report u := hr
      rw [invoke_of_run_ok hset hr, invoke_of_run_ok hset' hr']
      -- Both tell of the same success, each in its way.
      have hsame := (successLine_withJson i.json report).imp_right fun ⟨hw, hways⟩ =>
        (⟨v, u, report, hset, hr, hw, hways⟩ : ToldApart environment i w)
      cases ha : successLine i.json report with
      | ok line =>
        cases hb : successLine true report with
        | ok line' => exact ⟨0, 0, _, _, rfl, rfl, rfl, fun h => absurd rfl h, fun h => absurd rfl h, Or.inl rfl⟩
        | error e =>
          refine ⟨0, 1, _, _, rfl, rfl, rfl, fun h => absurd rfl h, fun _ => hend, Or.inr (hsame.resolve_left ?_)⟩
          rw [ha, hb]
          exact fun h => nomatch h.mp ⟨line, rfl⟩
      | error e =>
        cases hb : successLine true report with
        | ok line' =>
          refine ⟨1, 0, _, _, rfl, rfl, rfl, fun _ => hend, fun h => absurd rfl h, Or.inr (hsame.resolve_left ?_)⟩
          rw [ha, hb]
          exact fun h => nomatch h.mpr ⟨line', rfl⟩
        | error e' => exact ⟨1, 1, _, _, rfl, rfl, rfl, fun _ => hend, fun _ => hend, Or.inl rfl⟩

/-- What an invocation that exits with zero has done. -/
theorem invoke_eq_zero (h : silently (invoke environment i) w = .ok 0 v) :
    ∃ u x report line, World.setUpLog (Logging.plan (flags i) environment) w = .ok () u ∧
      Run.run (request i) u = .ok report x ∧
      v = { x with err := x.err ++ diagnosticLines report.diagnostics, out := x.out ++ line } := by
  rw [silently] at h
  rcases setUpLog_cases (flags i) environment w with ⟨e, u, hset, -⟩ | ⟨u, hset, -⟩
  · rw [invoke_of_setUpLog_error hset] at h
    cases h
  · cases hr : Run.run (request i) u with
    | error e x =>
      rw [invoke_of_run_error hset hr, reportFailure_eq] at h
      cases hf : failureText e <;> rw [hf] at h <;> cases h
    | ok report x =>
      rw [invoke_of_run_ok hset hr] at h
      cases hs : successLine i.json report with
      | error e =>
        rw [hs] at h
        cases h
      | ok line =>
        rw [hs] at h
        cases h
        exact ⟨u, x, report, line, hset, hr, rfl⟩

/-- With the flag for JSON the command does what it does without, but for the standard output after a success, and it
    exits with the same code unless a success can be told in one of the two ways alone. Beside log records, what a success
    leaves on the other output are the warnings, those about properties before the one about generators, and then the
    diagnostics; and whoever is to be warned hears the warnings of the report, in their order. -/
theorem run_withJson (environment : Logging.Environment) (h : WithJson arguments more) (w : World) :
    (∃ code code' v v', run environment arguments w = .ok code v ∧ run environment more w = .ok code' v' ∧
      v' = { v with out := v'.out } ∧ (code ≠ 0 → v.out = w.out) ∧ (code' ≠ 0 → v'.out = w.out) ∧
      (code' = code ∨ ∃ i, Parsed.ofArguments arguments = .invocation i ∧ ToldApart environment i w)) ∧
    (∀ i v, Parsed.ofArguments arguments = .invocation i → run environment arguments w = .ok 0 v →
      ∃ (u x : World) (report : Run.Report) (sayings : List Saying),
        World.setUpLog (Logging.plan (flags i) environment) w = .ok () u ∧
        Run.run (request i) u = .ok report x ∧
        v.err = w.err ++ String.join (sayings.map (Saying.shown u.logging .terminal)) ++
          diagnosticLines report.diagnostics ∧
        v.records = w.records ++ sayings.filterMap (Saying.record? .terminal) ∧
        sayings.filterMap Saying.warning? = report.warnings ∧
        ∃ ambiguity : List Text, ambiguity.length ≤ 1 ∧ report.warnings =
          ((i.properties.map restoreMarker).filter fun entry => !Property.isProperty entry).map Property.warning ++
            ambiguity) ∧
    ∀ (r : Run.Request) (report : Run.Report) (u v : World), Run.run r u = .ok report v →
      ∃ sayings, Said r.audience sayings u v ∧ sayings.filterMap Saying.warning? = report.warnings ∧
        (r.audience = .caller → v.warned = u.warned ++ report.warnings) := by
  refine ⟨?_, fun i v hi hv => ?_, fun r report u v hr => ?_⟩
  · -- The flag changes nothing but a field of an invocation; what is no invocation is answered without it.
    have hparsed := h.parsed
    unfold run
    rw [hparsed]
    cases Parsed.ofArguments arguments with
    | help =>
      exact ⟨0, 0, _, _, Act.bind_ok (World.print_ofString _ _), Act.bind_ok (World.print_ofString _ _), rfl,
        fun h => absurd rfl h, fun h => absurd rfl h, Or.inl rfl⟩
    | version =>
      exact ⟨0, 0, _, _, Act.bind_ok (World.print_ofString _ _), Act.bind_ok (World.print_ofString _ _), rfl,
        fun h => absurd rfl h, fun h => absurd rfl h, Or.inl rfl⟩
    | refused e => exact ⟨2, 2, _, _, rfl, rfl, rfl, fun _ => rfl, fun _ => rfl, Or.inl rfl⟩
    | crash => exact ⟨1, 1, w, w, rfl, rfl, rfl, fun _ => rfl, fun _ => rfl, Or.inl rfl⟩
    | invocation i =>
      obtain ⟨code, code', v, v', hv, hv', hsame, hout, hout', hcode⟩ := invoke_withJson environment i w
      exact ⟨code, code', v, v', hv, hv', hsame, hout, hout', hcode.imp_right fun hways => ⟨i, rfl, hways⟩⟩
  · have hrun : silently (invoke environment i) w = .ok 0 v := by
      rw [run, hi] at hv
      exact hv
    obtain ⟨u, x, report, line, hset, hr, rfl⟩ := invoke_eq_zero hrun
    obtain ⟨-, herr, hrecords⟩ := setUpLog_says_nothing hset
    obtain ⟨sayings, hs, htold, ambiguity, hlength, hwarnings⟩ := Run.says_run (request i) u report x hr
    refine ⟨u, x, report, sayings, hset, hr, ?_, ?_, htold, ambiguity, hlength, ?_⟩
    · show x.err ++ _ = _
      rw [hs.err, herr]
      rfl
    · show x.records = _
      rw [hs.records, hrecords]
      rfl
    · rw [hwarnings, Property.warnings_parse]
      rfl
  · obtain ⟨sayings, hs, htold, -⟩ := Run.says_run r u report v hr
    refine ⟨sayings, hs, htold, fun hcaller => ?_⟩
    have hwarned := hs.warned
    rw [hcaller] at hwarned
    exact hwarned.trans (congrArg (u.warned ++ ·) htold)

/-- A plug-in with a diagnostic, on a host with a standard library. -/
def remarking : World :=
  { Run.withPlugin none [.source [.add (.text "a.txt") (.text "one"),
      .report [("id", .text "A"), ("message", .text "look here")]]] with
    host := ⟨some "/", "3.12.0", []⟩ }

/-- An entry that is no property, and the flag behind it. -/
theorem run_withJson_remarking :
    WithJson ["-P", "b", "g.py", "out"] ["-P", "b", "--json", "g.py", "out"] ∧
      ∃ v v', run [] ["-P", "b", "g.py", "out"] remarking = .ok 0 v ∧
        run [] ["-P", "b", "--json", "g.py", "out"] remarking = .ok 0 v' ∧ v' = { v with out := v'.out } ∧
        v.out = "Successfully generated 1 file(s) to /out\n" ∧
        v'.err = "Warning: Ignoring invalid property format: b\nwarning A: look here\n" := by
  have hjson : WithJson ["-P", "b", "g.py", "out"] ["-P", "b", "--json", "g.py", "out"] := by
    show WithJson ("-P" :: (["b"] ++ ["g.py", "out"])) ("-P" :: (["b"] ++ ["--json", "g.py", "out"]))
    exact .option (by decide) (by decide) (by decide) (.here (Or.inl rfl) _)
  have hends : (run [] ["-P", "b", "g.py", "out"]).value? remarking = some 0 ∧
      (run [] ["-P", "b", "--json", "g.py", "out"]).value? remarking = some 0 ∧
      ((run [] ["-P", "b", "g.py", "out"]).after remarking).out = "Successfully generated 1 file(s) to /out\n" ∧
      ((run [] ["-P", "b", "g.py", "out"]).after remarking).err =
        "Warning: Ignoring invalid property format: b\nwarning A: look here\n" := by decide +kernel
  obtain ⟨⟨code, code', v, v', hrun, hrun', hsame, -⟩, -⟩ := run_withJson [] hjson remarking
  rw [Act.value?_of_ok hrun, Act.value?_of_ok hrun', Act.after_of_ok hrun] at hends
  obtain ⟨hcode, hcode', hout, herr⟩ := hends
  obtain rfl := Option.some.inj hcode
  obtain rfl := Option.some.inj hcode'
  refine ⟨hjson, v, v', hrun, hrun', hsame, hout, ?_⟩
  rw [hsame]
  exact herr

/-- A success whose generator has a method in place of its name is told in one way alone. -/
example :
    let w := { Run.namedByMethod with host := ⟨some "/", "3.12.0", []⟩ }
    (run [] ["g.py", "out"]).value? w = some 0 ∧ (run [] ["--json", "g.py", "out"]).value? w = some 1 := by
  decide +kernel

end Command
end GeneratorHost
