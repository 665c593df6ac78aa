import GeneratorHost.Proofs.Property.Partition
import GeneratorHost.Proofs.Run.Stages

/-! What a run says, and in which order. Records are made all along; the warnings come up at two stages, and the report holds
    them in the order in which the audience heard them. -/

namespace GeneratorHost
namespace Run

variable {a : Audience} {w v u : World}

/-! ### Sayings -/

/-- Something that is said in the course of a run: a record, or a warning to the audience. -/
inductive Saying
  | record (r : Record)
  | warning (message : Text)

namespace Saying

def warning? : Saying → Option Text
  | record _ => none
  | warning message => some message

/-- The record that is made; to an audience that reads the log a warning is one. -/
def record? : Audience → Saying → Option Record
  | _, record r => some r
  | .log, warning message => some ⟨Level.warning, .run, message⟩
  | _, warning _ => none

/-- What is written on the terminal. -/
def shown (l : Logging) : Audience → Saying → String
  | _, record r => (l.onTerminal r).shown
  | .log, warning message => (l.onTerminal ⟨Level.warning, .run, message⟩).shown
  | .caller, warning _ => ""
  | .terminal, warning message => (Text.plain message ++ "\n").shown

/-- The warnings that are handed to a caller. -/
def handed : Audience → List Saying → List Text
  | .caller, sayings => sayings.filterMap warning?
  | _, _ => []

theorem handed_append (a : Audience) (sayings more : List Saying) :
    handed a (sayings ++ more) = handed a sayings ++ handed a more := by
  cases a with
  | caller => exact List.filterMap_append
  | _ => rfl

end Saying

/-- Between two worlds some things were said, in this order and no others. -/
structure Said (a : Audience) (sayings : List Saying) (w v : World) : Prop where
  logging : v.logging = w.logging
  out : v.out = w.out
  err : v.err = w.err ++ String.join (sayings.map (Saying.shown w.logging a))
  records : v.records = w.records ++ sayings.filterMap (Saying.record? a)
  warned : v.warned = w.warned ++ Saying.handed a sayings

theorem said_nil (hl : v.logging = w.logging) (ho : v.out = w.out) (he : v.err = w.err) (hr : v.records = w.records)
    (hw : v.warned = w.warned) : Said a [] w v where
  logging := hl
  out := ho
  err := by rw [he, List.map_nil, String.join_nil, String.append_empty]
  records := by rw [hr, List.filterMap_nil, List.append_nil]
  warned := by
    rw [hw]
    cases a <;> exact (List.append_nil _).symm

theorem Said.append {sayings more : List Saying} (h : Said a sayings w v) (h' : Said a more v u) :
    Said a (sayings ++ more) w u where
  logging := h'.logging.trans h.logging
  out := h'.out.trans h.out
  err := by rw [h'.err, h.err, h.logging, List.map_append, String.join_append, String.append_assoc]
  records := by rw [h'.records, h.records, List.filterMap_append, List.append_assoc]
  warned := by rw [h'.warned, h.warned, Saying.handed_append, List.append_assoc]

theorem err_of_one {said : String} (h : v.err = w.err ++ said) : v.err = w.err ++ String.join [said] := by
  rw [h, String.join_cons, String.join_nil, String.append_empty]

theorem said_record (a : Audience) (w : World) (r : Record) : Said a [.record r] w (w.logged r) where
  logging := rfl
  out := rfl
  err := err_of_one (by cases a <;> rfl)
  records := by cases a <;> rfl
  warned := by cases a <;> exact (List.append_nil _).symm

/-- To warn is to say just that. -/
theorem said_warn {message : Text} (h : warn a message w = .ok () v) : Said a [.warning message] w v := by
  cases a with
  | log =>
    cases h
    exact ⟨rfl, rfl, err_of_one rfl, rfl, (List.append_nil _).symm⟩
  | caller =>
    cases h
    exact ⟨rfl, rfl, err_of_one String.append_empty.symm, (List.append_nil _).symm, rfl⟩
  | terminal =>
    cases h
    exact ⟨rfl, rfl, err_of_one rfl, (List.append_nil _).symm, (List.append_nil _).symm⟩

/-! ### Steps -/

section Steps
variable {α β : Type} {step : Act World α}

/-- A step that says some things if it succeeds; what warnings are among them is told by its result. -/
def Says (a : Audience) (step : Act World α) (warnings : α → List Text → Prop) : Prop :=
  ∀ w b v, step w = .ok b v → ∃ sayings, Said a sayings w v ∧ warnings b (sayings.filterMap Saying.warning?)

/-- A step that gives no warning. -/
abbrev Mute (a : Audience) (step : Act World α) : Prop := Says a step fun _ warnings => warnings = []

theorem Says.bind {x : Act World α} {f : α → Act World β} {first : α → List Text → Prop} {both : β → List Text → Prop}
    (hx : Says a x first) (hf : ∀ b told, first b told → Says a (f b) fun c more => both c (told ++ more)) :
    Says a (x >>= f) both := by
  intro w c u h
  obtain ⟨b, v, hb, hc⟩ := Act.bind_eq_ok.mp h
  obtain ⟨sayings, hs, hfirst⟩ := hx w b v hb
  obtain ⟨more, hm, hboth⟩ := hf b _ hfirst v c u hc
  refine ⟨sayings ++ more, hs.append hm, ?_⟩
  rw [List.filterMap_append]
  exact hboth

/-- After a mute step, what is told is told by the next one. -/
theorem Mute.bind {x : Act World α} {f : α → Act World β} {warnings : β → List Text → Prop} (hx : Mute a x)
    (hf : ∀ b, Says a (f b) warnings) : Says a (x >>= f) warnings := by
  refine Says.bind hx fun b told htold => ?_
  subst htold
  exact hf b

theorem says_pure (b : α) {warnings : α → List Text → Prop} (h : warnings b []) :
    Says a (pure b : Act World α) warnings := by
  intro w c v hv
  cases hv
  exact ⟨[], said_nil rfl rfl rfl rfl rfl, h⟩

theorem mute_pure (b : α) : Mute a (pure b : Act World α) := says_pure b rfl

theorem says_throw (e : Failure) (warnings : α → List Text → Prop) : Says a (throw e : Act World α) warnings :=
  fun _ _ _ h => nomatch h

theorem mute_of_reads (h : step.Reads) : Mute a step := by
  intro w b v hv
  obtain rfl := h.ok hv
  exact ⟨[], said_nil rfl rfl rfl rfl rfl, rfl⟩

theorem mute_ask (question : FileTree → Except Failure α) : Mute a (World.ask question) :=
  mute_of_reads (World.reads_ask question)

theorem mute_ofExcept (r : Except Failure α) : Mute a (Act.ofExcept r : Act World α) :=
  mute_of_reads (Act.reads_ofExcept r)

theorem mute_get : Mute a (get : Act World World) := mute_of_reads fun _ => rfl

theorem mute_log (level : Level) (logger : Logger) (message : Text) : Mute a (World.log level logger message) := by
  intro w b v hv
  cases hv
  exact ⟨_, said_record a w _, rfl⟩

theorem mute_change (attempt : FileTree → FileTree.Attempt) : Mute a (World.change attempt) := by
  intro w b v hv
  obtain rfl : v = { w with files := (attempt w.files).1 } :=
    (Act.after_of_ok hv).symm.trans (World.after_change attempt w)
  exact ⟨[], said_nil rfl rfl rfl rfl rfl, rfl⟩

theorem mute_freshToken : Mute a World.freshToken := by
  intro w b v hv
  cases hv
  exact ⟨[], said_nil rfl rfl rfl rfl rfl, rfl⟩

theorem mute_onRegistry (step : Act Plugin.Registry α) : Mute a (World.onRegistry step) := by
  intro w b v hv
  obtain rfl := (Act.after_of_ok hv).symm.trans (Act.after_on _ _ step w)
  exact ⟨[], said_nil rfl rfl rfl rfl rfl, rfl⟩

theorem mute_onSession (step : Act Session α) : Mute a (World.onSession step) := by
  intro w b v hv
  obtain rfl := (Act.after_of_ok hv).symm.trans (Act.after_on _ _ step w)
  exact ⟨[], said_nil rfl rfl rfl rfl rfl, rfl⟩

end Steps

/-! ### Stages -/

theorem mute_logAll (level : Level) (logger : Logger) : ∀ messages, Mute a (logAll level logger messages)
  | [] => mute_pure _
  | message :: messages => (mute_log level logger message).bind fun _ => mute_logAll level logger messages

/-- The audience hears the warnings in order. -/
theorem says_warnAll (a : Audience) : ∀ messages, Says a (warnAll a messages) fun _ told => told = messages
  | [] => says_pure _ rfl
  | message :: messages => by
    have hfirst : Says a (warn a message) fun _ told => told = [message] := fun w b v h => ⟨_, said_warn h, rfl⟩
    refine hfirst.bind fun _ told htold => ?_
    subst htold
    intro w b v h
    obtain ⟨sayings, hs, hrest⟩ := says_warnAll a messages w b v h
    exact ⟨sayings, hs, congrArg (message :: ·) hrest⟩

theorem mute_loadFile (path : Path) : Mute a (Settings.loadFile path) :=
  (mute_log _ _ _).bind fun _ => (mute_ask _).bind fun _ => (mute_log _ _ _).bind fun _ => mute_pure _

theorem mute_load (path : Option Path) : Mute a (Settings.load path) := by
  cases path with
  | some path =>
    refine (mute_ask _).bind fun there => ?_
    cases there with
    | true => exact mute_loadFile path
    | false => exact says_throw _ _
  | none =>
    refine (mute_ask _).bind fun found => ?_
    cases found with
    | some path => exact mute_loadFile path
    | none => exact mute_pure _

theorem mute_checkPaths (plugin output : Path) : Mute a (checkPaths plugin output) := by
  rw [checkPaths_eq]
  refine (mute_ask _).bind fun there => ?_
  cases there with
  | false => exact says_throw _ _
  | true =>
    refine (mute_ask _).bind fun made => ?_
    cases made with
    | true => exact mute_pure _
    | false => exact (mute_log _ _ _).bind fun _ => mute_change _

/-- The first warnings are those about the properties. -/
theorem says_prepare (r : Request) : Says r.audience (prepare r) fun p told =>
    told = p.warnings ∧ p.warnings = (Property.parse r.properties).warnings := by
  refine (mute_ask _).bind fun plugin => (mute_ask _).bind fun output => (mute_load _).bind fun settings =>
    (mute_logAll _ _ _).bind fun _ => (says_warnAll _ _).bind fun _ told htold => ?_
  refine (mute_ask _).bind fun texts => (mute_checkPaths _ _).bind fun _ => says_pure _ ?_
  rw [List.append_nil]
  exact ⟨htold, rfl⟩

theorem mute_loadModule (plugin : Path) : Mute a (loadModule plugin) := by
  refine mute_get.bind fun _ => (mute_onRegistry _).bind fun name => (mute_log _ _ _).bind fun _ => mute_get.bind fun w => ?_
  split
  · exact mute_pure _
  · exact says_throw _ _

/-- Then there is a warning if the plug-in has more than one generator. -/
theorem says_chooseGenerator (r : Request) (m : Plugin.Module) : Says r.audience (chooseGenerator r m) fun chosen told =>
    told = chosen.2 ∧ chosen.2.length ≤ 1 := by
  refine (mute_ofExcept _).bind fun resolution => (mute_logAll _ _ _).bind fun _ =>
    (says_warnAll _ _).bind fun _ told htold => (mute_ofExcept _).bind fun generator => says_pure _ ?_
  rw [List.append_nil]
  exact ⟨htold, by cases resolution.warning <;> simp⟩

theorem mute_references (r : Request) : Mute a (references r) := by
  unfold Run.references
  split
  · exact mute_pure _
  · exact mute_get.bind fun _ => (mute_ask _).bind fun _ => (mute_log _ _ _).bind fun _ => mute_pure _

theorem mute_logNamed (level : Level) (logger : Logger) (name : Plugin.GeneratorName) (message : Text → Text) :
    Mute a (logNamed level logger name message) := by
  cases name with
  | text name => exact mute_log _ _ _
  | method =>
    refine mute_get.bind fun w => ?_
    split
    · exact says_throw _ _
    · exact mute_pure _

theorem mute_generate (r : Request) (p : Prepared) (g : Plugin.Generator) : Mute a (generate r p g) :=
  (mute_logNamed _ _ _ _).bind fun _ => (mute_references r).bind fun _ => mute_get.bind fun _ =>
    (mute_onSession _).bind fun _ => (mute_logNamed _ _ _ _).bind fun _ => mute_pure _

theorem mute_writeArtifact (directory : Path) (generator : Text) (artifact : Source) :
    Mute a (World.writeArtifact directory generator artifact) := by
  have hname : Mute a (World.nameArtifact generator artifact) := by
    unfold World.nameArtifact
    split
    · exact mute_pure _
    · exact mute_freshToken.bind fun _ => (mute_log _ _ _).bind fun _ => mute_pure _
  refine hname.bind fun name => (mute_ask _).bind fun there => ?_
  have hwrite : Mute a (World.writeText (directory.child name) artifact.text) := mute_change _
  cases there with
  | true => exact (mute_log _ _ _).bind fun _ => hwrite
  | false => exact hwrite

theorem mute_writeAll (directory : Path) (generator : Text) :
    ∀ artifacts, Mute a (World.writeAll directory generator artifacts)
  | [] => mute_pure _
  | artifact :: artifacts =>
    (mute_writeArtifact directory generator artifact).bind fun _ => mute_writeAll directory generator artifacts

theorem mute_writeArtifacts (directory : Path) (generator : Text) (artifacts : List Source) :
    Mute a (World.writeArtifacts directory generator artifacts) :=
  (mute_change _).bind fun _ => (mute_writeAll directory generator artifacts).bind fun _ => mute_pure _

/-- A run that succeeds has told the warnings of its report, in their order: those about the properties, and then at most
    one about the generators. -/
theorem says_run (r : Request) : Says r.audience (run r) fun report told => told = report.warnings ∧
    ∃ ambiguity : List Text, ambiguity.length ≤ 1 ∧
      report.warnings = (Property.parse r.properties).warnings ++ ambiguity := by
  have hproduce : Says r.audience (produce r) fun produced told => told = produced.2.2.1 ∧
      ∃ ambiguity : List Text, ambiguity.length ≤ 1 ∧
        produced.2.2.1 = (Property.parse r.properties).warnings ++ ambiguity := by
    refine (says_prepare r).bind fun p told hp => (mute_loadModule _).bind fun m =>
      (says_chooseGenerator r m).bind fun chosen more hchosen => (mute_generate _ _ _).bind fun result => says_pure _ ?_
    obtain ⟨rfl, hproperties⟩ := hp
    obtain ⟨rfl, hlength⟩ := hchosen
    rw [List.append_nil]
    exact ⟨rfl, chosen.2, hlength, by rw [hproperties]⟩
  refine hproduce.bind fun ⟨p, g, warnings, result⟩ told htold => (mute_writeArtifacts _ _ _).bind fun written =>
    says_pure _ ?_
  rw [List.append_nil]
  exact htold

end Run
end GeneratorHost
