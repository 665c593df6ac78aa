import GeneratorHost.Proofs.Act.Simulation
import GeneratorHost.Proofs.FileTree.Apart
import GeneratorHost.Proofs.Plugin.Aside
import GeneratorHost.Proofs.World.Writes

/-! Worlds that differ in some regular files alone. A step that neither looks at such a file nor comes by one on its way
    goes alike in both worlds, and they differ in nothing else afterwards. -/

namespace GeneratorHost
namespace World

open Act
open Plugin (ImportsByName)

variable {aside : Route → Prop} {plugin : Route} {w₀ w v : World} {p : Path}

/-- Two worlds that differ in nothing but files that are set aside. -/
structure SameBut (aside : Route → Prop) (w v : World) : Prop where
  rest : v = { w with files := v.files }
  files : FileTree.SameBut aside w.files v.files

/-! ### What a run keeps -/

/-- What later steps of a run from a given world rely on, the modules of its plug-in among it. -/
structure Kept (plugin : Route) (w₀ w : World) : Prop where
  logOpen : w.LogOpen
  workingDirectory : w.files.workingDirectory = w₀.files.workingDirectory
  host : w.host = w₀.host
  reached : w.registry.Reached
  importsByName : ImportsByName w.files plugin

theorem importsByName_of_lookup {t u : FileTree} {route : Route} {bytes : List UInt8} (h : ImportsByName t plugin)
    (hu : ∀ x, u.lookup x = if x = route then some (.file (.bytes bytes)) else t.lookup x) :
    ImportsByName u plugin := fun x statements hx hl => by
  rw [hu] at hl
  split at hl
  · cases hl
  · exact h x statements hx hl

namespace Kept

theorem refl (hw : w.LogOpen) (hr : w.registry.Reached) (hi : ImportsByName w.files plugin) : Kept plugin w w :=
  ⟨hw, rfl, rfl, hr, hi⟩

theorem of_eq (h : Kept plugin w₀ w) (hf : v.files = w.files) (hl : v.logging = w.logging) (hh : v.host = w.host)
    (hr : v.registry = w.registry) : Kept plugin w₀ v :=
  ⟨(unwritten_of_files_eq [] h.logOpen hf hl).logOpen, hf ▸ h.workingDirectory, hh.trans h.host, hr ▸ h.reached,
    hf ▸ h.importsByName⟩

theorem logged (h : Kept plugin w₀ w) (r : Record) : Kept plugin w₀ (w.logged r) := by
  refine ⟨(unwritten_logged [] h.logOpen r).logOpen, (workingDirectory_logged w r).trans h.workingDirectory, h.host,
    h.reached, ?_⟩
  rcases files_logged_cases w r with hf | ⟨place, old, new, -, hold, hput⟩
  · exact hf ▸ h.importsByName
  · exact hput ▸ importsByName_of_lookup h.importsByName (FileTree.lookup_put_file hold _)

theorem makeDirectory (h : Kept plugin w₀ w) (hp : p.Direct) :
    Kept plugin w₀ { w with files := (w.files.makeDirectory p).1 } := by
  have hunwritten := spares_makeDirectory hp w h.logOpen
  obtain ⟨hm, -⟩ := FileTree.makes_makeDirectory p w.files
  rw [World.makeDirectory, after_change] at hunwritten
  refine ⟨hunwritten.logOpen, hm.workingDirectory.trans h.workingDirectory, h.host, h.reached,
    fun x statements hx hl => ?_⟩
  rcases hm.lookup x with he | ⟨-, -, hd⟩
  · exact h.importsByName x statements hx (he ▸ hl)
  · cases hd.symm.trans hl

theorem writeText (h : Kept plugin w₀ w) (p : Path) (text : Text) :
    Kept plugin w₀ { w with files := (w.files.writeText p text).1 } := by
  cases hr : w.files.fileRoute p with
  | error e =>
    rw [FileTree.writeText_of_error hr]
    exact h
  | ok route =>
    have hwritten := written_writeText h.logOpen hr text
    rw [World.writeText, after_change] at hwritten
    exact ⟨hwritten.logOpen, hwritten.workingDirectory.trans h.workingDirectory, h.host, h.reached,
      importsByName_of_lookup h.importsByName (FileTree.lookup_writeText_of_ok hr text)⟩

end Kept

/-! ### Runs side by side -/

/-- The worlds that two runs have come to, the first of them from a given world, if they differ in nothing but files that
    are set aside. -/
structure Beside (aside : Route → Prop) (plugin : Route) (w₀ w v : World) : Prop where
  same : SameBut aside w v
  kept : Kept plugin w₀ w

namespace Beside

theorem eq (h : Beside aside plugin w₀ w v) :
    ∃ u, v = { w with files := u } ∧ FileTree.SameBut aside w.files u := ⟨v.files, h.same.rest, h.same.files⟩

theorem logged (h : Beside aside plugin w₀ w v) (r : Record) :
    Beside aside plugin w₀ (w.logged r) (v.logged r) := by
  refine ⟨?_, h.kept.logged r⟩
  obtain ⟨u, rfl, hu⟩ := h.eq
  refine ⟨rfl, ?_⟩
  cases hr : w.logging.inFile? r with
  | none =>
    simp only [World.logged, hr]
    exact hu
  | some target =>
    obtain ⟨place, line⟩ := target
    simp only [World.logged, hr]
    exact hu.appendAt place line

end Beside

/-! ### Steps side by side -/

section Steps
variable {α : Type}

theorem abreast_log (h : Beside aside plugin w₀ w v) (level : Level) (logger : Logger) (message : Text) :
    Abreast (Beside aside plugin w₀) (log level logger message) (log level logger message) w v :=
  Or.inl ⟨(), _, _, rfl, rfl, h.logged _⟩

theorem abreast_printError (h : Beside aside plugin w₀ w v) (t : Text) :
    Abreast (Beside aside plugin w₀) (printError t) (printError t) w v := by
  obtain ⟨u, rfl, hu⟩ := h.eq
  exact Or.inl ⟨(), _, _, rfl, rfl, ⟨rfl, hu⟩, h.kept.of_eq rfl rfl rfl rfl⟩

theorem abreast_tell (h : Beside aside plugin w₀ w v) (message : Text) :
    Abreast (Beside aside plugin w₀) (modify fun w : World => { w with warned := w.warned ++ [message] })
      (modify fun w : World => { w with warned := w.warned ++ [message] }) w v := by
  obtain ⟨u, rfl, hu⟩ := h.eq
  exact Or.inl ⟨(), _, _, rfl, rfl, ⟨rfl, hu⟩, h.kept.of_eq rfl rfl rfl rfl⟩

theorem abreast_freshToken (h : Beside aside plugin w₀ w v) :
    Abreast (Beside aside plugin w₀) freshToken freshToken w v := by
  obtain ⟨u, rfl, hu⟩ := h.eq
  exact Or.inl ⟨_, _, _, rfl, rfl, ⟨rfl, hu⟩, h.kept.of_eq rfl rfl rfl rfl⟩

theorem abreast_ask (h : Beside aside plugin w₀ w v) {question : FileTree → Except Failure α}
    (hq : question v.files = question w.files) :
    Abreast (Beside aside plugin w₀) (ask question) (ask question) w v := by
  refine Abreast.get_bind ?_
  rw [hq]
  exact abreast_ofExcept _ h

theorem abreast_change (h : Beside aside plugin w₀ w v) {attempt : FileTree → FileTree.Attempt}
    (ha : FileTree.AttemptSameBut aside (attempt w.files) (attempt v.files))
    (hk : Kept plugin w₀ { w with files := (attempt w.files).1 }) :
    Abreast (Beside aside plugin w₀) (change attempt) (change attempt) w v := by
  obtain ⟨u, rfl, -⟩ := h.eq
  obtain ⟨hfailed, hfiles⟩ := ha
  rcases change_cases attempt w with ⟨hn, hw⟩ | ⟨e, he, hw⟩
  · rcases change_cases attempt { w with files := u } with ⟨-, hv⟩ | ⟨e', he', -⟩
    · exact Or.inl ⟨(), _, _, hw, hv, ⟨rfl, hfiles⟩, hk⟩
    · cases he'.symm.trans (hfailed.trans hn)
  · rcases change_cases attempt { w with files := u } with ⟨hn', -⟩ | ⟨e', he', hv⟩
    · cases hn'.symm.trans (hfailed.trans he)
    · cases he'.symm.trans (hfailed.trans he)
      exact Or.inr ⟨e, _, _, hw, hv, ⟨rfl, hfiles⟩, hk⟩

theorem abreast_makeDirectory (h : Beside aside plugin w₀ w v) (hp : p.Direct)
    (ha : ∀ x, aside x → ¬x <+: p.place) :
    Abreast (Beside aside plugin w₀) (makeDirectory p) (makeDirectory p) w v :=
  abreast_change h (h.same.files.makeDirectory fun x hx hway =>
    ha x hx (hp.prefix_of_onWay hway)) (h.kept.makeDirectory hp)

theorem abreast_writeText (h : Beside aside plugin w₀ w v) (hp : p.Direct)
    (ha : ∀ x, aside x → ¬x <+: p.place) (text : Text) :
    Abreast (Beside aside plugin w₀) (writeText p text) (writeText p text) w v :=
  abreast_change h (h.same.files.writeText (fun x hx hway => ha x hx (hp.prefix_of_onWay hway)) text)
    (h.kept.writeText p text)

theorem abreast_onSession (h : Beside aside plugin w₀ w v) {step step' : Act Session α}
    (hs : step' w.session = step w.session) :
    Abreast (Beside aside plugin w₀) (onSession step) (onSession step') w v := by
  obtain ⟨u, rfl, hu⟩ := h.eq
  exact abreast_on hs ⟨⟨rfl, hu⟩, h.kept.of_eq rfl rfl rfl rfl⟩

/-- A plug-in is loaded alike in both worlds if nothing that is set aside is there or below it. -/
theorem abreast_load (h : Beside aside p.place w₀ w v) (hp : p.Direct) (ha : p.anchor = .root)
    (he : ∀ x, aside x → ¬p.place <+: x) :
    Abreast (Beside aside p.place w₀) (onRegistry (Plugin.Registry.load w.files p))
      (onRegistry (Plugin.Registry.load v.files p)) w v := by
  obtain ⟨u, rfl, hu⟩ := h.eq
  have hsame : ∀ q, w.files.resolve p = .ok q → Plugin.Registry.SameAt aside q w.files u := fun q hq => by
    -- A path that leads straight from the root is resolved to itself.
    obtain rfl : q = p := by
      rw [FileTree.resolve_eq_ok hq, hp.eq_ofRoute ha, Path.route_ofRoute _ hp.forward]
    exact ⟨hp, hu, he, h.kept.importsByName⟩
  have hload := Plugin.Registry.load_same h.kept.reached.sound_named.2 (hu.resolve p) hsame
  exact abreast_on hload ⟨⟨rfl, hu⟩, h.kept.logOpen, h.kept.workingDirectory, h.kept.host,
    h.kept.reached.load w.files p, h.kept.importsByName⟩

end Steps

/-! ### Writing artifacts -/

section Artifacts
variable {directory : Path} {generator : Text} {artifact : Source} {name : Text}

theorem abreast_nameArtifact (h : Beside aside plugin w₀ w v) :
    Abreast (Beside aside plugin w₀) (nameArtifact generator artifact) (nameArtifact generator artifact) w v := by
  unfold nameArtifact
  cases Artifact.fileName? artifact.path with
  | some name => exact abreast_pure name h
  | none =>
    exact (abreast_freshToken h).bind fun _ _ _ _ h₁ => (abreast_log h₁ _ _ _).bind fun _ _ _ _ h₂ =>
      abreast_pure _ h₂

variable (hd : directory.Direct) (ha : ∀ x, aside x → ¬x <+: directory.place ∧ ¬directory.place <+: x)
include hd ha

/-- What is set aside is not on the way to an entry of a directory that it has nothing to do with. -/
theorem apart_child (hn : name ≠ Path.parentName) {x : Route} (hx : aside x) : ¬x <+: (directory.child name).place := by
  intro hp
  rw [← (hd.child hn).placeFrom_eq [], Path.placeFrom_child _ hn, hd.placeFrom_eq] at hp
  rcases List.prefix_concat_iff.mp hp with rfl | hp
  · exact (ha _ hx).2 (List.prefix_append _ _)
  · exact (ha _ hx).1 hp

theorem abreast_aim (h : Beside aside plugin w₀ w v) :
    Abreast (Beside aside plugin w₀) (aim directory generator artifact) (aim directory generator artifact) w v := by
  refine (abreast_nameArtifact h).bind fun name w₁ v₁ hname h₁ => ?_
  obtain ⟨w₁', hname', -⟩ := nameArtifact_eq_ok generator artifact w
  cases hname'.symm.trans hname
  have hn := (Artifact.isEntryName_nameOf generator w.tokens artifact).ne_dots
  refine (abreast_ask h₁ (h₁.same.files.exists ?_)).bind fun there _ _ _ h₂ => ?_
  · rw [(hd.child hn).placeFrom_eq]
    exact fun hx => apart_child hd ha hn hx (List.prefix_refl _)
  · cases there with
    | true => exact (abreast_log h₂ _ _ _).bind fun _ _ _ _ h₃ => abreast_pure _ h₃
    | false => exact abreast_pure _ h₂

theorem abreast_writeArtifact (h : Beside aside plugin w₀ w v) :
    Abreast (Beside aside plugin w₀) (writeArtifact directory generator artifact)
      (writeArtifact directory generator artifact) w v := by
  rw [writeArtifact_eq]
  refine (abreast_aim hd ha h).bind fun target w₁ v₁ htarget h₁ => ?_
  obtain ⟨rfl, -⟩ := aim_eq_ok htarget
  have hn := (Artifact.isEntryName_nameOf generator w.tokens artifact).ne_dots
  exact abreast_writeText h₁ (hd.child hn) (fun x hx => apart_child hd ha hn hx) _

theorem abreast_writeAll (artifacts : List Source) (h : Beside aside plugin w₀ w v) :
    Abreast (Beside aside plugin w₀) (writeAll directory generator artifacts) (writeAll directory generator artifacts)
      w v := by
  induction artifacts generalizing w v with
  | nil => exact abreast_pure _ h
  | cons artifact artifacts ih => exact (abreast_writeArtifact hd ha h).bind fun _ _ _ _ h' => ih h'

/-- Artifacts are written alike in both worlds if what is set aside has nothing to do with their directory. -/
theorem abreast_writeArtifacts (generator : Text) (artifacts : List Source) (h : Beside aside plugin w₀ w v) :
    Abreast (Beside aside plugin w₀) (writeArtifacts directory generator artifacts)
      (writeArtifacts directory generator artifacts) w v :=
  (abreast_makeDirectory h hd fun x hx => (ha x hx).1).bind fun _ _ _ _ h₁ =>
    (abreast_writeAll hd ha artifacts h₁).bind fun _ _ _ _ h₂ => abreast_pure _ h₂

end Artifacts

end World
end GeneratorHost
