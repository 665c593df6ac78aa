import GeneratorHost.Proofs.FileTree.Bytes
import GeneratorHost.Proofs.World.Unwritten
import GeneratorHost.Run

/-! What the steps of a run touch. There are few ways in which a run changes the world; whatever all of them keep is
    kept by every run, however it ends. A step that touches nothing at most tells: a record is made, a line is printed,
    or the caller is warned. It leaves every file but the log file as it is, which stays a file, and so no later step
    goes another way because of it. -/

namespace GeneratorHost
namespace World

/-! ### Worlds between which something was told -/

/-- Between two worlds something was told at most. -/
structure Told (w v : World) : Prop extends Unwritten [] w v where
  shape : v.files.shape = w.files.shape
  host : v.host = w.host
  registry : v.registry = w.registry
  session : v.session = w.session

variable {w v u : World}

theorem told_of_files_eq (hw : w.LogOpen) (hf : v.files = w.files) (hl : v.logging = w.logging) (hh : v.host = w.host)
    (hr : v.registry = w.registry) (hs : v.session = w.session) : Told w v :=
  ⟨unwritten_of_files_eq [] hw hf hl, by rw [hf], hh, hr, hs⟩

theorem Told.refl (hw : w.LogOpen) : Told w w := told_of_files_eq hw rfl rfl rfl rfl rfl

theorem Told.trans (h : Told w v) (h' : Told v u) : Told w u :=
  ⟨h.toUnwritten.trans h'.toUnwritten, h'.shape.trans h.shape, h'.host.trans h.host, h'.registry.trans h.registry,
    h'.session.trans h.session⟩

theorem told_logged (hw : w.LogOpen) (r : Record) : Told w (w.logged r) :=
  ⟨unwritten_logged [] hw r, shape_logged w r, rfl, rfl, rfl⟩

end World

namespace Run

open World (Told)

/-! ### Questions -/

theorem ofShape_findSettings (directory : Option Path) : FileTree.OfShape fun t => Settings.find? t directory :=
  fun f t => by
    simp only [Settings.find?, FileTree.checkStart_mapContent, FileTree.isFile_mapContent]
    rfl

theorem ofBytes_readSettings (path : Path) : FileTree.OfBytes fun t => Settings.read t path := fun f hf t => by
  simp only [Settings.read, FileTree.readText_mapContent hf.toBytes, FileTree.resolve_mapContent]

theorem ofBytes_content (text : AdditionalText) : FileTree.OfBytes text.content := fun f hf t => by
  cases text with
  | file path => simp only [AdditionalText.content, FileTree.readText_mapContent hf.toBytes]
  | inMemory path text => rfl

theorem ofShape_openTexts : ∀ paths, FileTree.OfShape fun t => openTexts t paths
  | [] => fun _ _ => rfl
  | path :: paths => fun f t => by
    have hrest : openTexts (t.mapContent f) paths = openTexts t paths := ofShape_openTexts paths f t
    simp only [openTexts, AdditionalText.ofPath, FileTree.resolve_mapContent, hrest]

theorem ofShape_libraries (host : Host) : FileTree.OfShape host.libraries := fun f t => by
  simp only [Host.libraries, FileTree.isDirectory_mapContent]

/-! ### Parts of a run -/

/-- What checking the paths comes to once the plug-in is there. -/
def requireOutput (output : Path) : Act World Unit := do
  if !(← World.ask (·.isDirectory output)) then
    World.log Level.info .run ("Output directory does not exist, creating: " ++ output.text)
    World.makeDirectory output

/-- The world once it was told that an output directory is about to be made. -/
def announced (output : Path) (w : World) : World :=
  w.logged ⟨Level.info, .run, "Output directory does not exist, creating: " ++ output.text⟩

theorem requireOutput_eq (output : Path) (w : World) :
    requireOutput output w = match w.files.isDirectory output with
      | .error e => .error e w
      | .ok true => .ok () w
      | .ok false => World.makeDirectory output (announced output w) := by
  unfold requireOutput
  cases hd : w.files.isDirectory output with
  | error e => exact Act.bind_error (World.ask_of_error hd)
  | ok there =>
    rw [Act.bind_ok (World.ask_of_ok hd)]
    cases there <;> rfl

theorem checkPaths_eq (plugin output : Path) : checkPaths plugin output = (World.ask (·.exists plugin) >>= fun there =>
    if there then requireOutput output else throw (.moduleMissing plugin.text)) := by
  refine congrArg (World.ask (·.exists plugin) >>= ·) (funext fun there => ?_)
  cases there <;> rfl

/-- What is done once everything is prepared, up to the point where files are written. -/
def produceFrom (r : Request) (p : Prepared) :
    Act World (Prepared × Plugin.Generator × List Text × Generation.Result) := do
  let m ← loadModule p.plugin
  let (g, ambiguities) ← chooseGenerator r m
  let result ← generate r p g
  pure (p, g, p.warnings ++ ambiguities, result)

/-! ### Parts of the world -/

/-- What a step may touch beside the log, the terminal and the caller, and beside looking at the host, at the handlers of
    the log and at what there is among the files. -/
inductive Part
  | files
  | tokens
  | registry
  | session
  /-- to look at more, such as what modules say -/
  | sight

/-- The steps that touch no parts but some, whether they fail or not. -/
inductive Touching (may : Part → Prop) : {α : Type} → Act World α → Prop
  | pure {α : Type} (a : α) : Touching may (pure a)
  | throw {α : Type} (e : Failure) : Touching may (throw e : Act World α)
  | get (h : may .sight) : Touching may get
  | ask {α : Type} {question : FileTree → Except Failure α} (h : FileTree.OfBytes question) :
    Touching may (World.ask question)
  | host {α : Type} {f : Host → Act World α} (hf : ∀ host, Touching may (f host)) :
    Touching may (get >>= fun w => f w.host)
  | logging {α : Type} {f : Logging → Act World α} (hf : ∀ logging, Touching may (f logging)) :
    Touching may (get >>= fun w => f w.logging)
  | bind {α β : Type} {x : Act World α} {f : α → Act World β} (hx : Touching may x) (hf : ∀ a, Touching may (f a)) :
    Touching may (x >>= f)
  | log (level : Level) (logger : Logger) (message : Text) : Touching may (World.log level logger message)
  | printError (t : Text) : Touching may (World.printError t)
  | tell (message : Text) : Touching may (modify fun w : World => { w with warned := w.warned ++ [message] })
  | change (h : may .files) {attempt : FileTree → FileTree.Attempt} (hb : FileTree.Blind attempt) :
    Touching may (World.change attempt)
  | freshToken (h : may .tokens) : Touching may World.freshToken
  | onRegistry {α : Type} (h : may .registry) (step : Act Plugin.Registry α) : Touching may (World.onRegistry step)
  | onSession {α : Type} (h : may .session) (step : Act Session α) : Touching may (World.onSession step)

/-- The steps that touch nothing. -/
abbrev Telling {α : Type} (step : Act World α) : Prop := Touching (fun _ => False) step

/-- The steps that touch no files. -/
abbrev Fileless {α : Type} (step : Act World α) : Prop := Touching (fun part => part ≠ .files) step

namespace Touching

variable {may : Part → Prop}

/-! ### The stages of a run -/

theorem ofExcept {α : Type} (r : Except Failure α) : Touching may (Act.ofExcept r) := by
  cases r with
  | ok a => exact .pure a
  | error e => exact .throw e

theorem warn (audience : Audience) (message : Text) : Touching may (warn audience message) := by
  cases audience with
  | log => exact .log _ _ _
  | caller => exact .tell message
  | terminal => exact .printError _

theorem warnAll (audience : Audience) : ∀ messages, Touching may (warnAll audience messages)
  | [] => .pure _
  | message :: messages => .bind (warn audience message) fun _ => warnAll audience messages

theorem logAll (level : Level) (logger : Logger) : ∀ messages, Touching may (logAll level logger messages)
  | [] => .pure _
  | message :: messages => .bind (.log level logger message) fun _ => logAll level logger messages

theorem loadFile (path : Path) : Touching may (Settings.loadFile path) :=
  .bind (.log _ _ _) fun _ => .bind (.ask (ofBytes_readSettings path)) fun _ => .bind (.log _ _ _) fun _ => .pure _

theorem load (path : Option Path) : Touching may (Settings.load path) := by
  cases path with
  | some path =>
    refine .bind (.ask (FileTree.ofShape_isFile path).ofBytes) fun there => ?_
    cases there with
    | true => exact loadFile path
    | false => exact .throw _
  | none =>
    refine .bind (.ask (ofShape_findSettings none).ofBytes) fun found => ?_
    cases found with
    | some path => exact loadFile path
    | none => exact .pure _

theorem requireOutput (h : may .files) (output : Path) : Touching may (requireOutput output) := by
  refine .bind (.ask (FileTree.ofShape_isDirectory output).ofBytes) fun there => ?_
  cases there with
  | true => exact .pure _
  | false => exact .bind (.log _ _ _) fun _ => .change h (FileTree.blind_makeDirectory output)

theorem checkPaths (h : may .files) (plugin output : Path) : Touching may (checkPaths plugin output) := by
  rw [checkPaths_eq]
  refine .bind (.ask (FileTree.ofShape_exists plugin).ofBytes) fun there => ?_
  cases there with
  | true => exact requireOutput h output
  | false => exact .throw _

theorem prepare (h : may .files) (r : Request) : Touching may (prepare r) :=
  .bind (.ask (FileTree.ofShape_resolve _).ofBytes) fun _ => .bind (.ask (FileTree.ofShape_resolve _).ofBytes) fun _ =>
    .bind (load _) fun _ => .bind (logAll _ _ _) fun _ => .bind (warnAll _ _) fun _ =>
      .bind (.ask (ofShape_openTexts _).ofBytes) fun _ => .bind (checkPaths h _ _) fun _ => .pure _

theorem loadModule (h : may .registry) (h' : may .sight) (plugin : Path) : Touching may (loadModule plugin) := by
  refine .bind (.get h') fun _ => .bind (.onRegistry h _) fun name => .bind (.log _ _ _) fun _ =>
    .bind (.get h') fun w => ?_
  split
  · exact .pure _
  · exact .throw _

theorem chooseGenerator (r : Request) (m : Plugin.Module) : Touching may (chooseGenerator r m) :=
  .bind (ofExcept _) fun _ => .bind (logAll _ _ _) fun _ => .bind (warnAll _ _) fun _ =>
    .bind (ofExcept _) fun _ => .pure _

theorem references (r : Request) : Touching may (references r) := by
  unfold Run.references
  split
  · exact .pure _
  · -- Of the world that is looked at, nothing but the host is used.
    refine .host (f := fun host => do
      let found ← World.ask host.libraries
      World.log Level.debug .host ("Found " ++ Text.ofNat found.length ++ " platform libraries")
      return found) fun host => ?_
    exact .bind (.ask (ofShape_libraries host).ofBytes) fun _ => .bind (.log _ _ _) fun _ => .pure _

theorem logNamed (level : Level) (logger : Logger) (name : Plugin.GeneratorName) (message : Text → Text) :
    Touching may (logNamed level logger name message) := by
  cases name with
  | text name => exact .log _ _ _
  | method =>
    refine .logging (f := fun logging => do
      if logging.takes ⟨level, logger, .empty⟩ then MonadExcept.throw .unshowable) fun logging => ?_
    split
    · exact .throw _
    · exact .pure _

theorem generate (h : may .session) (h' : may .sight) (r : Request) (p : Prepared) (g : Plugin.Generator) :
    Touching may (generate r p g) :=
  .bind (logNamed _ _ _ _) fun _ => .bind (references r) fun _ => .bind (.get h') fun _ =>
    .bind (.onSession h _) fun _ => .bind (logNamed _ _ _ _) fun _ => .pure _

theorem nameArtifact (h : may .tokens) (generator : Text) (artifact : Source) :
    Touching may (World.nameArtifact generator artifact) := by
  unfold World.nameArtifact
  split
  · exact .pure _
  · exact .bind (.freshToken h) fun _ => .bind (.log _ _ _) fun _ => .pure _

theorem writeArtifact (h : may .files) (h' : may .tokens) (directory : Path) (generator : Text) (artifact : Source) :
    Touching may (World.writeArtifact directory generator artifact) := by
  refine .bind (nameArtifact h' generator artifact) fun name =>
    .bind (.ask (FileTree.ofShape_exists _).ofBytes) fun there => ?_
  have hwrite : Touching may (World.writeText (directory.child name) artifact.text) :=
    .change h (FileTree.blind_writeText _ _)
  cases there with
  | true => exact .bind (.log _ _ _) fun _ => hwrite
  | false => exact hwrite

theorem writeAll (h : may .files) (h' : may .tokens) (directory : Path) (generator : Text) :
    ∀ artifacts, Touching may (World.writeAll directory generator artifacts)
  | [] => .pure _
  | artifact :: artifacts =>
    .bind (writeArtifact h h' directory generator artifact) fun _ => writeAll h h' directory generator artifacts

theorem writeArtifacts (h : may .files) (h' : may .tokens) (directory : Path) (generator : Text)
    (artifacts : List Source) : Touching may (World.writeArtifacts directory generator artifacts) :=
  .bind (.change h (FileTree.blind_makeDirectory directory)) fun _ => .bind (writeAll h h' _ _ _) fun _ => .pure _

theorem produceFrom (h : may .registry) (h' : may .session) (h'' : may .sight) (r : Request) (p : Prepared) :
    Touching may (produceFrom r p) :=
  .bind (loadModule h h'' _) fun m => .bind (chooseGenerator r m) fun _ => .bind (generate h' h'' r p _) fun _ =>
    .pure _

theorem run (r : Request) : Touching (fun _ => True) (run r) :=
  .bind (.bind (prepare trivial r) fun p => produceFrom trivial trivial trivial r p) fun _ =>
    .bind (writeArtifacts trivial trivial _ _ _) fun _ => .pure _

end Touching

/-! ### What is kept -/

/-- A relation of the worlds before and after that every elementary step keeps, if it touches no parts but some. -/
structure Frame (may : Part → Prop) (R : World → World → Prop) : Prop where
  refl : ∀ w, R w w
  trans : ∀ {w v u}, R w v → R v u → R w u
  logged : ∀ w r, R w (w.logged r)
  printed : ∀ (w : World) (said : String), R w { w with err := w.err ++ said }
  warned : ∀ (w : World) (warned : List Text), R w { w with warned }
  files : may .files → ∀ (w : World) (files : FileTree), R w { w with files }
  tokens : may .tokens → ∀ (w : World) (tokens : Nat), R w { w with tokens }
  registry : may .registry → ∀ (w : World) (registry : Plugin.Registry), R w { w with registry }
  session : may .session → ∀ (w : World) (session : Session), R w { w with session }

namespace Touching

variable {may : Part → Prop} {R : World → World → Prop} {α : Type} {step : Act World α} {w v : World}

/-- What the elementary steps keep is kept by every step, whether it fails or not. -/
theorem keeps (h : Touching may step) (F : Frame may R) : ∀ w, R w (step.after w) := by
  -- The induction is on how the step is made up of elementary ones; those in a row are the only case with two worlds.
  induction h with
  | pure | throw | get => exact F.refl
  | ask =>
    intro w
    rw [World.reads_ask _ w]
    exact F.refl w
  | host hf ih => exact fun w => ih w.host w
  | logging hf ih => exact fun w => ih w.logging w
  | log => exact fun w => F.logged w _
  | printError => exact fun w => F.printed w _
  | tell => exact fun w => F.warned w _
  | freshToken h => exact fun w => F.tokens h w _
  | change h attempt =>
    intro w
    rw [World.after_change]
    exact F.files h w _
  | onRegistry h step =>
    intro w
    rw [World.onRegistry, Act.after_on]
    exact F.registry h w _
  | onSession h step =>
    intro w
    rw [World.onSession, Act.after_on]
    exact F.session h w _
  | @bind α β x f hx hf ihx ihf =>
    intro w
    have hfirst := ihx w
    cases hr : x w with
    | ok a v =>
      rw [Act.after_of_ok hr] at hfirst
      rw [Act.after_bind_of_ok hr]
      exact F.trans hfirst (ihf a v)
    | error e v =>
      rw [Act.after_of_error hr] at hfirst
      rwa [Act.after_bind_of_error hr]

theorem host_eq (h : Touching may step) (w : World) : (step.after w).host = w.host := by
  refine h.keeps (R := fun w v => v.host = w.host)
    ⟨fun _ => rfl, fun h h' => h'.trans h, ?_, ?_, ?_, ?_, ?_, ?_, ?_⟩ w <;>
    intros <;> rfl

theorem session_eq (h : Touching may step) (hs : ¬may .session) (w : World) : (step.after w).session = w.session := by
  refine h.keeps (R := fun w v => v.session = w.session)
    ⟨fun _ => rfl, fun h h' => h'.trans h, ?_, ?_, ?_, ?_, ?_, ?_, fun h => absurd h hs⟩ w <;> intros <;> rfl

theorem told_frame : Frame (fun _ => False) fun w v => w.LogOpen → Told w v where
  refl _ hw := .refl hw
  trans h h' hw := (h hw).trans (h' (h hw).logOpen)
  logged _ r hw := World.told_logged hw r
  printed _ _ hw := World.told_of_files_eq hw rfl rfl rfl rfl rfl
  warned _ _ hw := World.told_of_files_eq hw rfl rfl rfl rfl rfl
  files h := h.elim
  tokens h := h.elim
  registry h := h.elim
  session h := h.elim

/-- A step that touches nothing only tells. -/
theorem told (h : Telling step) (hw : w.LogOpen) : Told w (step.after w) := h.keeps told_frame w hw

theorem told_of_ok (h : Telling step) (hw : w.LogOpen) {a : α} (hs : step w = .ok a v) : Told w v :=
  Act.after_of_ok hs ▸ h.told hw

theorem told_of_error (h : Telling step) (hw : w.LogOpen) {e : Failure} (hs : step w = .error e v) : Told w v :=
  Act.after_of_error hs ▸ h.told hw

theorem fileless_frame (route : Route) :
    Frame (fun part => part ≠ .files) fun w v => w.LogOpen → World.Unwritten route w v where
  refl _ hw := World.unwritten_of_files_eq route hw rfl rfl
  trans h h' hw := (h hw).trans (h' (h hw).logOpen)
  logged _ r hw := World.unwritten_logged route hw r
  printed _ _ hw := World.unwritten_of_files_eq route hw rfl rfl
  warned _ _ hw := World.unwritten_of_files_eq route hw rfl rfl
  files h := absurd rfl h
  tokens _ _ _ hw := World.unwritten_of_files_eq route hw rfl rfl
  registry _ _ _ hw := World.unwritten_of_files_eq route hw rfl rfl
  session _ _ _ hw := World.unwritten_of_files_eq route hw rfl rfl

/-- A step that touches no files makes none and takes none away. -/
theorem shape_eq (h : Fileless step) (w : World) : (step.after w).files.shape = w.files.shape := by
  refine h.keeps (R := fun w v => v.files.shape = w.files.shape)
    ⟨fun _ => rfl, fun h h' => h'.trans h, World.shape_logged, ?_, ?_, fun h => absurd rfl h, ?_, ?_, ?_⟩ w <;>
    intros <;> rfl

/-- A step that touches no files writes none. -/
theorem spares (h : Fileless step) (route : Route) : World.Spares route step := h.keeps (fileless_frame route)

end Touching

/-! ### The terminal -/

/-- Nothing was written on the standard output, and what was said on the other one stays said. -/
structure Quiet (w v : World) : Prop where
  out : v.out = w.out
  err : ∃ said, v.err = w.err ++ said

section Quiet
variable {w v u : World}

theorem quiet_of_eq (hout : v.out = w.out) (herr : v.err = w.err) : Quiet w v :=
  ⟨hout, "", by rw [herr, String.append_empty]⟩

theorem Quiet.trans (h : Quiet w v) (h' : Quiet v u) : Quiet w u := by
  obtain ⟨said, hs⟩ := h.err
  obtain ⟨more, hm⟩ := h'.err
  exact ⟨h'.out.trans h.out, said ++ more, by rw [hm, hs, String.append_assoc]⟩

/-- The steps of a run write nothing on the standard output, whether they fail or not. -/
theorem Touching.quiet {may : Part → Prop} {α : Type} {step : Act World α} (h : Touching may step) (w : World) :
    Quiet w (step.after w) := by
  refine h.keeps ⟨fun _ => quiet_of_eq rfl rfl, Quiet.trans, fun _ _ => ⟨rfl, _, rfl⟩, fun _ said => ⟨rfl, said, rfl⟩,
    ?_, ?_, ?_, ?_, ?_⟩ w <;> intros <;> exact quiet_of_eq rfl rfl

end Quiet
end Run
end GeneratorHost
