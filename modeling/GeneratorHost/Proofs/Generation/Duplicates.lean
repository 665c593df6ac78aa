import GeneratorHost.Proofs.Generation.Output

/-! What a generation has to say about the paths of its documents. The document that the compilation had before has no
    path, and every document in the sink is new, whatever contexts were in use; so it is the names that were added, in their
    order, that decide. -/

namespace GeneratorHost
namespace Generation
open Session Compilation

variable {s t : Session} {k m : Nat}

/-- All documents in sink `k` have stamps from `m` on, and all that are still to come. -/
structure Stamped (k m : Nat) (s : Session) : Prop where
  stamps : m ≤ s.nextStamp
  fresh : ∀ d ∈ (s.sink k).documents, m ≤ d.stamp

theorem sink_modify (sinks : List Sink) (i k : Nat) (f : Sink → Sink) :
    (sinks.modify i f)[k]?.getD ⟨[], []⟩ = sinks[k]?.getD ⟨[], []⟩ ∨
      (sinks.modify i f)[k]?.getD ⟨[], []⟩ = f (sinks[k]?.getD ⟨[], []⟩) := by
  rw [List.getElem?_modify]
  cases sinks[k]? with
  | none => exact Or.inl rfl
  | some sink => by_cases h : i = k <;> simp [h]

theorem Stamped.added (h : Stamped k m s) (sink : Nat) (source : Source) : Stamped k m (s.withDocument sink source) where
  stamps := Nat.le_succ_of_le h.stamps
  fresh d hd := by
    rcases sink_modify s.sinks sink k (fun x => { x with documents := x.documents ++ [⟨s.nextStamp, source⟩] })
      with he | he
    · exact h.fresh d (congrArg Sink.documents he ▸ hd)
    · rcases List.mem_append.mp (congrArg Sink.documents he ▸ hd) with hd | hd
      · exact h.fresh d hd
      · rw [List.mem_singleton.mp hd]
        exact h.stamps

theorem Stamped.reported (h : Stamped k m s) (sink : Nat) (d : Diagnostic) : Stamped k m (s.withDiagnostic sink d) where
  stamps := h.stamps
  fresh x hx := by
    rcases sink_modify s.sinks sink k fun x => { x with diagnostics := x.diagnostics ++ [d] } with he | he
    · exact h.fresh x (congrArg Sink.documents he ▸ hx)
    · exact h.fresh x (congrArg Sink.documents he ▸ hx)

theorem stamped_law (inputs : Option Inputs) (k m : Nat) :
    Law inputs (Stamped k m) (fun _ => True) (fun _ _ _ => True) where
  refl _ := trivial
  trans _ _ := trivial
  slot _ _ := trivial
  noted hs _ := ⟨⟨hs.stamps, hs.fresh⟩, trivial⟩
  observed hs _ := ⟨⟨hs.stamps, hs.fresh⟩, trivial⟩
  kept hs _ := ⟨⟨hs.stamps, hs.fresh⟩, trivial⟩
  registered hs _ _ _ _ := ⟨⟨hs.stamps, hs.fresh⟩, trivial⟩
  added hs _ _ _ _ := ⟨hs.added _ _, trivial⟩
  reported hs _ _ _ _ := ⟨hs.reported _ _, trivial⟩

theorem stamp_of_run {files : FileTree} {inputs : Inputs} {script : Script} {sink : Sink}
    (h : run files inputs script s = .ok sink t) : ∀ d ∈ sink.documents, s.nextStamp ≤ d.stamp := by
  obtain rfl : sink = t.sink s.sinks.length := sink_of_run h
  have hempty : Stamped s.sinks.length s.nextStamp s.withSink :=
    ⟨Nat.le_refl _, fun d hd => by simp [withSink, Session.sink] at hd⟩
  have hrun : Stamped s.sinks.length s.nextStamp ((run files inputs script).after s) ∧ True := run_law
    (stamped_law (some inputs) s.sinks.length s.nextStamp)
    (fun _ hs => ⟨⟨hs.stamps, hs.fresh⟩, trivial, trivial⟩) (fun hs => ⟨⟨hs.stamps, hs.fresh⟩, trivial⟩) rfl hempty
    script
  exact (Act.after_of_ok h ▸ hrun.1).fresh

/-! ### Generations -/

/-- What a generation gives back are the documents in its sink, and what there is to say of them comes first. -/
theorem documents_of_execute {files : FileTree} {references : List Reference} {options : Options Text}
    {texts : List AdditionalText} {script : Script} {result : Result}
    (h : execute files references options texts script s = .ok result t) :
    ∃ base s₁ sink, baseCompilation references s = .ok base s₁ ∧
      run files ⟨base, options, texts⟩ script s₁ = .ok sink t ∧ result.artifacts = sink.documents ∧
      result.diagnostics = (repeated (result.artifacts.map (·.source.path))).map usedBefore ++ sink.diagnostics ∧
      sink.diagnostics.length = result.produced.2 := by
  obtain ⟨base, sink, s₁, hbase, hrun, hartifacts, hdiagnostics, hproduced⟩ := execute_eq_ok h
  obtain ⟨hb, rfl⟩ := baseCompilation_eq_ok hbase
  have hstamps : ∀ d ∈ sink.documents, ∀ b ∈ base.documents, b.stamp ≠ d.stamp := by
    intro d hd b hbd e
    rw [hb] at hbd
    rw [List.mem_singleton.mp hbd] at e
    have hlater : s.nextStamp + 2 ≤ d.stamp := stamp_of_run hrun d hd
    have hearlier : s.nextStamp = d.stamp := e
    omega
  have hnew : result.artifacts = sink.documents := by rw [hartifacts, newDocuments_add hstamps]
  refine ⟨base, _, sink, hbase, hrun, hnew, ?_, by rw [hproduced]⟩
  rw [hdiagnostics, hnew, diagnostics_add hbase]

/-- There is one warning for each document whose path is not empty and stands before, in the order of the documents, and
    nothing else to say about a compilation. So the warnings are as many as the documents with a path are more than the
    paths, and there are none exactly if no path is used twice. A generation comes to these warnings for the names of its
    documents, and then to what it reported itself; where nothing is kept from before, these are the names that were
    added by calls that returned. -/
theorem diagnostics_repeated :
    (∀ c : Compilation,
      c.diagnostics = (repeated (c.documents.map (·.source.path))).map usedBefore ∧
      c.diagnostics.length + (named (c.documents.map (·.source.path))).eraseDups.length =
        (named (c.documents.map (·.source.path))).length ∧
      (c.diagnostics = [] ↔ (named (c.documents.map (·.source.path))).Nodup)) ∧
    ∀ {files : FileTree} {references : List Reference} {options : Options Text} {texts : List AdditionalText}
      {script : Script} {s t : Session} {result : Result},
      execute files references options texts script s = .ok result t →
        (∃ reported, reported.length = result.produced.2 ∧
          result.diagnostics = (repeated (result.artifacts.map (·.source.path))).map usedBefore ++ reported) ∧
        ((∀ slot ∈ s.slots, slot.2 = none) → result.artifacts.map (·.source.path) =
          ((calls files references options texts script s).filterMap Call.source?).map (·.path)) := by
  refine ⟨fun c => ⟨diagnostics_eq c, ?_, ?_⟩, ?_⟩
  · rw [diagnostics_eq, List.length_map, length_repeated]
  · rw [diagnostics_eq, List.map_eq_nil_iff, repeated_eq_nil_iff]
  · intro files references options texts script s t result h
    obtain ⟨base, s₁, sink, hbase, hrun, hartifacts, hdiagnostics, hreported⟩ := documents_of_execute h
    refine ⟨⟨sink.diagnostics, hreported, hdiagnostics⟩, fun hslots => ?_⟩
    obtain ⟨-, rfl⟩ := baseCompilation_eq_ok hbase
    have hkept : ∀ slot ∈ (s.withStamps 2).slots, slot.2 = none := hslots
    obtain ⟨hdocuments, -, -⟩ := run_output hkept hrun
    have hcalls : calls files references options texts script s =
        runCalls files ⟨base, options, texts⟩ script (s.withStamps 2) := by
      simp only [calls, hbase]
    rw [hartifacts, hcalls, ← hdocuments, List.map_map]
    rfl

/-- A generator that adds one name three times, with a document without a name and one of another name in between. -/
def crowded : Script :=
  [.source [.add (.text "a") (.text "1"), .add (.text "") (.text ""), .add (.text "a") (.text "2"),
    .add (.text "b") (.text "3"), .add (.text "") (.text ""), .add (.text "a") (.text "1")]]

theorem diagnostics_repeated_crowded :
    ∃ result t, execute default [⟨"python", "", ""⟩] .empty [] crowded Session.new = .ok result t ∧
      result.diagnostics = [usedBefore "a", usedBefore "a"] := by
  have hreturns : (match execute default [⟨"python", "", ""⟩] .empty [] crowded Session.new with
    | .ok result _ => some result.produced
    | .error _ _ => none) = some (6, 0) := by decide +kernel
  have hnames : ((calls default [⟨"python", "", ""⟩] .empty [] crowded Session.new).filterMap Call.source?).map
      (·.path) = (["a", "", "a", "b", "", "a"] : List Text) := by decide +kernel
  cases h : execute default [⟨"python", "", ""⟩] .empty [] crowded Session.new with
  | error e t =>
    rw [h] at hreturns
    cases hreturns
  | ok result t =>
    rw [h] at hreturns
    obtain ⟨⟨reported, hlength, hdiagnostics⟩, hpaths⟩ := diagnostics_repeated.2 h
    have hnone : reported = [] :=
      List.eq_nil_of_length_eq_zero (hlength.trans (congrArg Prod.snd (Option.some.inj hreturns)))
    refine ⟨result, t, rfl, ?_⟩
    rw [hdiagnostics, hpaths (by intro _ h; cases h), hnames, hnone]
    decide +kernel

end Generation
end GeneratorHost
