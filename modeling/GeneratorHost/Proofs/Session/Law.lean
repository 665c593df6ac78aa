import GeneratorHost.Proofs.Session.Calls

/-! What every run of a script keeps. A law says of each elementary change of a session that it keeps an
    invariant and relates the session before it to the one after it; then so does every action and every list
    of actions, however they are nested and wherever they fail. The relation also sees the calls that
    returned. -/

namespace GeneratorHost
namespace Session

/-- What is known of the elementary changes of sessions in which `inv` holds, made through contexts that may be
    used. The inputs that are read are `inputs`, or those of an initialization context that may be used. -/
structure Law (inputs : Option Inputs) (inv : Session → Prop) (mayUse : Option Nat → Prop)
    (R : Session → List Call → Session → Prop) : Prop where
  refl : ∀ {s}, inv s → R s [] s
  trans : ∀ {s t u calls calls'}, R s calls t → R t calls' u → R s (calls ++ calls') u
  slot : ∀ {s name kept}, inv s → s.slot? name = some kept → mayUse kept
  noted : ∀ {s n}, inv s → (∀ o, n ≠ .observation o) → inv (s.withNote n) ∧ R s [] (s.withNote n)
  observed : ∀ {s i}, inv s →
    (inputs = some i ∨ ∃ id c, mayUse (some id) ∧ s.contexts[id]? = some c ∧ c.role.inputs? = some i) →
    inv (s.withNote (.observation (observe i))) ∧ R s [] (s.withNote (.observation (observe i)))
  kept : ∀ {s name context}, inv s → mayUse context →
    inv (s.withSlot name context) ∧ R s [] (s.withSlot name context)
  registered : ∀ {s id c role}, inv s → mayUse (some id) → s.contexts[id]? = some c → c.isSealed = false →
    Registers c.role role → inv (s.withRole id c role) ∧ R s [] (s.withRole id c role)
  added : ∀ {s id c sink source}, inv s → mayUse (some id) → s.contexts[id]? = some c → c.isSealed = false →
    c.role.sink? = some sink →
    inv (s.withDocument sink source) ∧ R s [.added source] (s.withDocument sink source)
  reported : ∀ {s id c sink d}, inv s → mayUse (some id) → s.contexts[id]? = some c → c.isSealed = false →
    c.role.sink? = some sink →
    inv (s.withDiagnostic sink d) ∧ R s [.reported d] (s.withDiagnostic sink d)

namespace Law

variable {inputs : Option Inputs} {inv : Session → Prop} {mayUse : Option Nat → Prop}
  {R : Session → List Call → Session → Prop} {files : FileTree} {context : Option Nat} {s : Session}

/-! ### Steps in a row -/

theorem stay (L : Law inputs inv mayUse R) (hs : inv s) {step : Act Session Unit} (h : step.after s = s) :
    inv (step.after s) ∧ R s [] (step.after s) := by
  rw [h]
  exact ⟨hs, L.refl hs⟩

/-- A step and, if it does not fail, the steps behind it. -/
theorem andThen (L : Law inputs inv mayUse R) {step : Act Session Unit} {rest : Act Session Unit} {calls : List Call}
    {more : Session → List Call} (hstep : inv (step.after s) ∧ R s calls (step.after s))
    (hrest : ∀ {t}, step s = .ok () t → inv t → inv (rest.after t) ∧ R t (more t) (rest.after t)) :
    inv ((step >>= fun _ => rest).after s) ∧
      R s (calls ++ match step s with
        | .ok _ t => more t
        | .error _ _ => []) ((step >>= fun _ => rest).after s) := by
  cases h : step s with
  | ok u t =>
    rw [Act.after_of_ok h] at hstep
    rw [Act.after_bind_of_ok h]
    obtain ⟨ht, hr⟩ := hrest h hstep.1
    exact ⟨ht, L.trans hstep.2 hr⟩
  | error e t =>
    rw [Act.after_of_error h] at hstep
    rw [Act.after_bind_of_error h]
    exact ⟨hstep.1, L.trans hstep.2 (L.refl hstep.1)⟩

/-! ### Single calls -/

theorem addThrough (L : Law inputs inv mayUse R) (hs : inv s) (hc : mayUse context) {content : Act Session Value}
    (hr : content.Reads) (name : Value) :
    inv ((Session.addThrough context name content).after s) ∧
      R s (addCalls context name content s) ((Session.addThrough context name content).after s) := by
  rcases addThrough_cases hr context name s with
    ⟨e, h⟩ | ⟨id, c, sink, path, text, rfl, hid, hopen, hsink, rfl, hcontent, h⟩
  · rw [addCalls_of_error h]
    exact L.stay hs (Act.after_of_error h)
  · have hcalls : addCalls (some id) (.text path) content s = [.added ⟨path, text⟩] := by
      simp only [addCalls, hcontent, h]
    rw [hcalls, Act.after_of_ok h]
    exact L.added hs hc hid hopen hsink

theorem reported_of_perform (L : Law inputs inv mayUse R) (hs : inv s) (hc : mayUse context) (fields : Fields) :
    inv ((perform files inputs context (.report fields)).after s) ∧
      R s (reportCalls files inputs context fields s) ((perform files inputs context (.report fields)).after s) := by
  rcases report_cases files inputs context fields s with
    ⟨e, h⟩ | ⟨id, c, sink, d, rfl, hid, hopen, hsink, hd, h⟩
  · rw [reportCalls_of_error h]
    exact L.stay hs (Act.after_of_error h)
  · have hcalls : reportCalls files inputs (some id) fields s = [.reported d] := by
      simp only [reportCalls, hd, h]
    rw [hcalls, Act.after_of_ok h]
    exact L.reported hs hc hid hopen hsink

theorem register (L : Law inputs inv mayUse R) (hs : inv s) (hc : mayUse context) {method : Method}
    (hm : method = .registerPost ∨ method = .registerSource) (script : Script) :
    let step := lookUp context method >>= fun held => Session.register held.1 held.2 method script
    inv (step.after s) ∧ R s [] (step.after s) := by
  intro step
  rcases register_cases context hm script s with ⟨e, h⟩ | ⟨id, c, role, rfl, hid, hopen, hrole, h⟩
  · exact L.stay hs (Act.after_of_error h)
  · rw [Act.after_of_ok h]
    exact L.registered hs hc hid hopen hrole

/-! ### Rows of calls -/

theorem echoTexts (L : Law inputs inv mayUse R) (hc : mayUse context) :
    ∀ (texts : List AdditionalText) {s : Session}, inv s →
      inv ((Session.echoTexts files context texts).after s) ∧
        R s (echoCalls files context texts s) ((Session.echoTexts files context texts).after s)
  | [], _, hs => L.stay hs rfl
  | _ :: texts, _, hs =>
    L.andThen (L.addThrough hs hc ((Act.reads_ofExcept _).bind fun _ => Act.reads_pure _) _)
      fun _ ht => L.echoTexts hc texts ht

theorem dumpOptions (L : Law inputs inv mayUse R) (hc : mayUse context) :
    ∀ (pairs : List (Text × Text)) {s : Session}, inv s →
      inv ((Session.dumpOptions context pairs).after s) ∧
        R s (dumpCalls context pairs s) ((Session.dumpOptions context pairs).after s)
  | [], _, hs => L.stay hs rfl
  | _ :: pairs, _, hs =>
    L.andThen (L.addThrough hs hc (Act.reads_pure _) _) fun _ ht => L.dumpOptions hc pairs ht

/-! ### Actions -/

theorem attempt (L : Law inputs inv mayUse R) {step : Act Session Unit} {calls : List Call}
    (hstep : inv (step.after s) ∧ R s calls (step.after s)) :
    inv ((Session.attempt step).after s) ∧ R s calls ((Session.attempt step).after s) := by
  rcases attempt_cases step s with ⟨n, hn, h⟩ | ⟨e, h⟩
  · obtain ⟨hi, hr⟩ := L.noted hstep.1 hn
    rw [Act.after_of_ok h]
    exact ⟨hi, List.append_nil calls ▸ L.trans hstep.2 hr⟩
  · rw [Act.after_of_error h]
    exact hstep

mutual

/-- Every action keeps the invariant, and relates its sessions by the calls that returned. -/
theorem perform (L : Law inputs inv mayUse R) {context : Option Nat} (hc : mayUse context) :
    ∀ (action : Action) {s : Session}, inv s →
      inv ((Session.perform files inputs context action).after s) ∧
        R s (performCalls files inputs context action s) ((Session.perform files inputs context action).after s)
  | .post actions, _, hs => L.register hs hc (Or.inl rfl) actions
  | .source actions, _, hs => L.register hs hc (Or.inr rfl) actions
  | .add name text, _, hs => L.addThrough hs hc (Act.reads_pure text) name
  | .report fields, _, hs => L.reported_of_perform hs hc fields
  | .reportValue v, s, hs => by
    obtain ⟨e, h⟩ := reportValue_error files inputs context v s
    exact L.stay hs (Act.after_of_error h)
  | .echoTexts, s, hs => by
    cases inputs with
    | none => exact L.stay hs rfl
    | some i => exact L.echoTexts hc i.texts hs
  | .echoOption key name, s, hs => by
    cases inputs with
    | none => exact L.stay hs rfl
    | some i =>
      cases h : i.options.find? key with
      | none =>
        rw [performCalls, Option.bind_some, h]
        exact L.stay hs (Act.after_of_ok (perform_echoOption_none h s))
      | some value =>
        rw [performCalls, Option.bind_some, h, perform_echoOption_some h]
        exact L.addThrough hs hc (Act.reads_pure _) name
  | .dumpOptions, s, hs => by
    cases inputs with
    | none => exact L.stay hs rfl
    | some i => exact L.dumpOptions hc i.options.toPairs hs
  | .observe true, s, hs => by
    rcases observe_cases files inputs context s with ⟨e, h⟩ | ⟨id, c, i, rfl, hid, hi, h⟩
    · exact L.stay hs (Act.after_of_error h)
    · rw [Act.after_of_ok h]
      exact L.observed hs (Or.inr ⟨id, c, hc, hid, hi⟩)
  | .observe false, s, hs => by
    cases inputs with
    | none => exact L.stay hs rfl
    | some i => exact L.observed hs (Or.inl rfl)
  | .note v, _, hs => L.noted hs (by simp)
  | .save slot, _, hs => L.kept hs hc
  | .within slot actions, s, hs => by
    cases h : s.slot? slot with
    | none =>
      rw [performCalls, h]
      exact L.stay hs (Act.after_of_ok (perform_within_none h))
    | some kept =>
      rw [performCalls, h, Act.after, perform_within_some h]
      exact L.performAll (L.slot hs h) actions hs
  | .attempt actions, _, hs => L.attempt (L.performAll hc actions hs)
  | .raise failure, _, hs => L.stay hs rfl

/-- Every list of actions keeps the invariant, and relates its sessions by the calls that returned. -/
theorem performAll (L : Law inputs inv mayUse R) {context : Option Nat} (hc : mayUse context) :
    ∀ (actions : List Action) {s : Session}, inv s →
      inv ((Session.performAll files inputs context actions).after s) ∧
        R s (performAllCalls files inputs context actions s)
          ((Session.performAll files inputs context actions).after s)
  | [], _, hs => L.stay hs rfl
  | action :: actions, _, hs => L.andThen (L.perform hc action hs) fun _ ht => L.performAll hc actions ht

end

end Law
end Session
end GeneratorHost
