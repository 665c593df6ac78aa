import GeneratorHost.Proofs.Compilation
import GeneratorHost.Proofs.Generation.Phases

/-! What a generation gives back. Its sink is its own: no context from before it is in use, and every context that
    it opens writes to that one sink. So the sink holds what the calls that returned handed over, in their order,
    and the stamps tell its documents from the document that the compilation had before. -/

namespace GeneratorHost

/-! ### Documents that are new -/

namespace Compilation

/-- Documents that share no stamp with those of a compilation are what is new once they are added to it. -/
theorem newDocuments_add {base : Compilation} {documents : List Document}
    (h : ∀ d ∈ documents, ∀ b ∈ base.documents, b.stamp ≠ d.stamp) :
    (base.add documents).newDocuments base = documents := by
  have hold : base.documents.filter (fun d => !(base.documents.any (·.stamp == d.stamp))) = [] := by
    refine List.filter_eq_nil_iff.mpr fun d hd => ?_
    have hany : base.documents.any (·.stamp == d.stamp) = true :=
      List.any_eq_true.mpr ⟨d, hd, beq_self_eq_true _⟩
    rw [hany]
    exact Bool.false_ne_true
  have hnew : documents.filter (fun d => !(base.documents.any (·.stamp == d.stamp))) = documents := by
    refine List.filter_eq_self.mpr fun d hd => ?_
    have hany : base.documents.any (·.stamp == d.stamp) = false :=
      List.any_eq_false.mpr fun b hb e => h d hd b hb (beq_iff_eq.mp e)
    rw [hany]
    rfl
  rw [newDocuments, add, List.filter_append, hold, hnew, List.nil_append]

end Compilation

namespace Generation
open Session

variable {s t : Session} {n k m : Nat}

/-! ### The sink of a generation -/

/-- A context that may be in use, if it was opened when there were `n` contexts or later. -/
def Recent (n : Nat) (context : Option Nat) : Prop := ∀ id, context = some id → n ≤ id

/-- Sink `k` belongs to those who opened the contexts from `n` on: these write to no other sink, none but these
    are kept under a name, and all documents in the sink have stamps from `m` on. -/
structure Own (n k m : Nat) (s : Session) : Prop where
  sink : k < s.sinks.length
  contexts : n ≤ s.contexts.length
  output : ∀ id c sink, n ≤ id → s.contexts[id]? = some c → c.role.sink? = some sink → sink = k
  slots : ∀ slot ∈ s.slots, Recent n slot.2
  stamps : m ≤ s.nextStamp
  fresh : ∀ d ∈ (s.sink k).documents, m ≤ d.stamp

/-- What went to sink `k` between two sessions is what the calls handed over. -/
structure Handed (k : Nat) (s : Session) (calls : List Call) (t : Session) : Prop where
  documents : (t.sink k).documents.map (·.source) = (s.sink k).documents.map (·.source) ++ calls.filterMap Call.source?
  diagnostics : (t.sink k).diagnostics = (s.sink k).diagnostics ++ calls.filterMap Call.diagnostic?

theorem Handed.of_sink_eq (h : t.sink k = s.sink k) : Handed k s [] t :=
  ⟨by simp [h], by simp [h]⟩

theorem Handed.trans {u : Session} {calls calls' : List Call} (h : Handed k s calls t) (h' : Handed k t calls' u) :
    Handed k s (calls ++ calls') u :=
  ⟨by rw [h'.documents, h.documents, List.filterMap_append, List.append_assoc],
    by rw [h'.diagnostics, h.diagnostics, List.filterMap_append, List.append_assoc]⟩

theorem sink_withDocument (h : k < s.sinks.length) (source : Source) :
    (s.withDocument k source).sink k =
      ⟨(s.sink k).documents ++ [⟨s.nextStamp, source⟩], (s.sink k).diagnostics⟩ := by
  simp [withDocument, Session.sink, List.getElem?_eq_getElem h]

theorem sink_withDiagnostic (h : k < s.sinks.length) (d : Diagnostic) :
    (s.withDiagnostic k d).sink k = ⟨(s.sink k).documents, (s.sink k).diagnostics ++ [d]⟩ := by
  simp [withDiagnostic, Session.sink, List.getElem?_eq_getElem h]

theorem Own.added (h : Own n k m s) (source : Source) : Own n k m (s.withDocument k source) where
  sink := by simpa [withDocument] using h.sink
  contexts := h.contexts
  output := h.output
  slots := h.slots
  stamps := Nat.le_succ_of_le h.stamps
  fresh := by
    rw [sink_withDocument h.sink]
    intro d hd
    rcases List.mem_append.mp hd with hd | hd
    · exact h.fresh d hd
    · rw [List.mem_singleton.mp hd]
      exact h.stamps

theorem Own.reported (h : Own n k m s) (d : Diagnostic) : Own n k m (s.withDiagnostic k d) where
  sink := by simpa [withDiagnostic] using h.sink
  contexts := h.contexts
  output := h.output
  slots := h.slots
  stamps := h.stamps
  fresh := by
    rw [sink_withDiagnostic h.sink]
    exact h.fresh

theorem Own.kept (h : Own n k m s) (name : Text) {context : Option Nat} (hc : Recent n context) :
    Own n k m (s.withSlot name context) where
  sink := h.sink
  contexts := h.contexts
  output := h.output
  slots := by
    intro slot hslot
    rcases List.mem_cons.mp hslot with rfl | hslot
    · exact hc
    · exact h.slots slot (List.mem_filter.mp hslot).1
  stamps := h.stamps
  fresh := h.fresh

/-- Contexts may change as long as those of the generation write to the sink or to none. -/
theorem Own.withContexts (h : Own n k m s) {contexts : List Context} (hl : n ≤ contexts.length)
    (ho : ∀ id c sink, n ≤ id → contexts[id]? = some c → c.role.sink? = some sink → sink = k) :
    Own n k m { s with contexts } :=
  ⟨h.sink, hl, ho, h.slots, h.stamps, h.fresh⟩

theorem Own.registered (h : Own n k m s) {id : Nat} {c : Context} {role : Role} (hr : Registers c.role role) :
    Own n k m (s.withRole id c role) := by
  refine h.withContexts (by simpa using h.contexts) fun id' c' sink hn hc' hsink => ?_
  rw [List.getElem?_set] at hc'
  split at hc'
  · split at hc'
    · obtain rfl := Option.some.inj hc'
      obtain ⟨inputs, post, source, script, -, rfl | rfl⟩ := hr
      · cases hsink
      · cases hsink
    · cases hc'
  · exact h.output id' c' sink hn hc' hsink

theorem Own.opened (h : Own n k m s) {role : Role} (hr : ∀ sink, role.sink? = some sink → sink = k) :
    Own n k m (s.withContext role) := by
  refine h.withContexts (by simpa using Nat.le_succ_of_le h.contexts) fun id c sink hn hc hsink => ?_
  rcases Nat.lt_or_ge id s.contexts.length with hid | hid
  · rw [List.getElem?_append_left hid] at hc
    exact h.output id c sink hn hc hsink
  · rw [List.getElem?_append_right hid, List.getElem?_singleton] at hc
    split at hc
    · obtain rfl := Option.some.inj hc
      exact hr sink hsink
    · cases hc

theorem Own.closed (h : Own n k m s) (id : Nat) : Own n k m (s.withSealed id) := by
  refine h.withContexts (by simpa using h.contexts) fun id' c sink hn hc hsink => ?_
  rw [List.getElem?_modify] at hc
  obtain ⟨c₀, hc₀, hc⟩ := Option.map_eq_some_iff.mp hc
  refine h.output id' c₀ sink hn hc₀ ?_
  split at hc
  · rwa [← hc] at hsink
  · rwa [← hc] at hsink

/-- Everything that is done through contexts of the generation keeps its sink its own, and hands over what the
    calls that returned hand over. -/
theorem own_law (inputs : Option Inputs) (n k m : Nat) : Law inputs (Own n k m) (Recent n) (Handed k) where
  refl _ := .of_sink_eq rfl
  trans := Handed.trans
  slot {s name kept} hs h := by
    obtain ⟨slot, hslot, rfl⟩ := Option.map_eq_some_iff.mp h
    exact hs.slots slot (List.mem_of_find?_eq_some hslot)
  noted hs _ := ⟨⟨hs.sink, hs.contexts, hs.output, hs.slots, hs.stamps, hs.fresh⟩, .of_sink_eq rfl⟩
  observed hs _ := ⟨⟨hs.sink, hs.contexts, hs.output, hs.slots, hs.stamps, hs.fresh⟩, .of_sink_eq rfl⟩
  kept hs hc := ⟨hs.kept _ hc, .of_sink_eq rfl⟩
  registered hs _ _ _ hr := ⟨hs.registered hr, .of_sink_eq rfl⟩
  added {s id c sink source} hs hid hc _ hsink := by
    obtain rfl := hs.output id c sink (hid id rfl) hc hsink
    refine ⟨hs.added source, ⟨?_, ?_⟩⟩
    · rw [sink_withDocument hs.sink, List.map_append]
      rfl
    · rw [sink_withDocument hs.sink]
      exact (List.append_nil _).symm
  reported {s id c sink d} hs hid hc _ hsink := by
    obtain rfl := hs.output id c sink (hid id rfl) hc hsink
    refine ⟨hs.reported d, ⟨?_, ?_⟩⟩
    · rw [sink_withDiagnostic hs.sink]
      exact (List.append_nil _).symm
    · rw [sink_withDiagnostic hs.sink]
      rfl

/-! ### Runs -/

/-- A new sink is the own one of whoever opens contexts from then on, if no context is kept from before. -/
theorem own_withSink (h : ∀ slot ∈ s.slots, slot.2 = none) :
    Own s.contexts.length s.sinks.length s.nextStamp s.withSink where
  sink := by simp [withSink]
  contexts := Nat.le_refl _
  output id c sink hn hc _ := by
    rw [show s.withSink.contexts = s.contexts from rfl, List.getElem?_eq_none hn] at hc
    cases hc
  slots slot hslot id hid := by
    rw [h slot hslot] at hid
    cases hid
  stamps := Nat.le_refl _
  fresh d hd := by
    simp [withSink, Session.sink] at hd

theorem own_opened {role : Role} (hr : ∀ sink, role.sink? = some sink → sink = k) {s : Session} (h : Own n k m s) :
    Own n k m (s.withContext role) ∧ Handed k s [] (s.withContext role) ∧ Recent n (some s.contexts.length) :=
  ⟨h.opened hr, .of_sink_eq rfl, fun _ e => Option.some.inj e ▸ h.contexts⟩

theorem own_closed {s : Session} {id : Nat} (h : Own n k m s) :
    Own n k m (s.withSealed id) ∧ Handed k s [] (s.withSealed id) :=
  ⟨h.closed id, .of_sink_eq rfl⟩

/-- A run that returns gives back what the calls that returned handed over. -/
theorem run_output {files : FileTree} {inputs : Inputs} {script : Script} {sink : Sink}
    (hslots : ∀ slot ∈ s.slots, slot.2 = none) (h : run files inputs script s = .ok sink t) :
    sink.documents.map (·.source) = (runCalls files inputs script s).filterMap Call.source? ∧
      sink.diagnostics = (runCalls files inputs script s).filterMap Call.diagnostic? ∧
      ∀ d ∈ sink.documents, s.nextStamp ≤ d.stamp := by
  obtain rfl : sink = t.sink s.sinks.length := sink_of_run h
  have L := own_law (some inputs) s.contexts.length s.sinks.length s.nextStamp
  obtain ⟨hown, hhanded⟩ : Own s.contexts.length s.sinks.length s.nextStamp t ∧
      Handed s.sinks.length s.withSink (runCalls files inputs script s) t :=
    Act.after_of_ok h ▸ run_law L (fun hr hs => own_opened (fun _ => hr.sink_eq) hs) own_closed rfl
      (own_withSink hslots) script
  have hempty : s.withSink.sink s.sinks.length = ⟨[], []⟩ := by
    simp [withSink, Session.sink]
  refine ⟨?_, ?_, hown.fresh⟩
  · rw [hhanded.documents, hempty]
    rfl
  · rw [hhanded.diagnostics, hempty]
    rfl

/-- What there is to say about a base compilation with further documents is said about their paths alone: the document
    that was there before has none. -/
theorem diagnostics_add {references : List Reference} {base : Compilation}
    (h : baseCompilation references s = .ok base t) (documents : List Document) :
    (base.add documents).diagnostics =
      (Compilation.repeated (documents.map (·.source.path))).map Compilation.usedBefore := by
  obtain ⟨hb, -⟩ := baseCompilation_eq_ok h
  have hpaths : (base.add documents).documents.map (·.source.path) =
      ("" : Text) :: documents.map (·.source.path) := by
    rw [hb]
    rfl
  rw [Compilation.diagnostics_eq, hpaths, Compilation.repeated_cons_empty]

/-- A generation that returns gives back the documents that were added by calls that returned, one for each call, in
    their order, and no document that was there before. Its diagnostics are one warning for each of these documents whose
    path is not empty and was that of an earlier one, which is all there is to say about the compilation with them, and
    then those that were reported by calls that returned, in their order. -/
theorem execute_output {files : FileTree} {references : List Reference} {options : Options Text}
    {texts : List AdditionalText} {script : Script} {result : Result} (hslots : ∀ slot ∈ s.slots, slot.2 = none)
    (h : execute files references options texts script s = .ok result t) :
    ∃ base s', baseCompilation references s = .ok base s' ∧
      result.artifacts.map (·.source) =
        (calls files references options texts script s).filterMap Call.source? ∧
      (∀ d ∈ result.artifacts, d ∉ base.documents) ∧
      (base.add result.artifacts).diagnostics =
        (Compilation.repeated (result.artifacts.map (·.source.path))).map Compilation.usedBefore ∧
      result.diagnostics = (Compilation.repeated (result.artifacts.map (·.source.path))).map Compilation.usedBefore ++
        (calls files references options texts script s).filterMap Call.diagnostic? := by
  obtain ⟨base, sink, s', hbase, hrun, hartifacts, hdiagnostics, -⟩ := execute_eq_ok h
  obtain ⟨hb, rfl⟩ := baseCompilation_eq_ok hbase
  have hkept : ∀ slot ∈ (s.withStamps 2).slots, slot.2 = none := hslots
  obtain ⟨hdocs, hdiags, hfresh⟩ := run_output hkept hrun
  have hcalls : calls files references options texts script s =
      runCalls files ⟨base, options, texts⟩ script (s.withStamps 2) := by
    simp only [calls, hbase]
  -- The compilation took its stamps before the run, and every document of the run took a later one.
  have hstamps : ∀ d ∈ sink.documents, ∀ b ∈ base.documents, b.stamp ≠ d.stamp := by
    intro d hd b hbd e
    rw [hb] at hbd
    rw [List.mem_singleton.mp hbd] at e
    have hlater : s.nextStamp + 2 ≤ d.stamp := hfresh d hd
    have hearlier : s.nextStamp = d.stamp := e
    omega
  have hnew : result.artifacts = sink.documents := by
    rw [hartifacts, Compilation.newDocuments_add hstamps]
  refine ⟨base, _, hbase, ?_, ?_, diagnostics_add hbase _, ?_⟩
  · rw [hnew, hcalls, hdocs]
  · rw [hnew]
    exact fun d hd hbd => hstamps d hd d hbd rfl
  · rw [← diagnostics_add hbase, hdiagnostics, hnew, hcalls, hdiags]

/-- A generator that adds one document twice, the second time in an attempt that fails later, and one that is like
    the document that was there before. -/
def repetitive : Script :=
  [.source
    [.save "kept",
      .add (.text "a") (.text "1"),
      .attempt [.within "kept" [.add (.text "a") (.text "1"), .add (.text "") (.text "")], .add .null .null,
        .add (.text "b") (.text "2")],
      .report [("id", .text "X"), ("message", .text "m")]],
    .source [.attempt [.within "kept" [.add (.text "late") (.text "")]]]]

theorem execute_output_repetitive :
    (∀ slot ∈ Session.new.slots, slot.2 = none) ∧ ∃ result t base s',
      execute default [⟨"python", "", ""⟩] .empty [] repetitive Session.new = .ok result t ∧
      baseCompilation [⟨"python", "", ""⟩] Session.new = .ok base s' ∧
      result.artifacts.map (·.source) = [⟨"a", "1"⟩, ⟨"a", "1"⟩, .placeholder] ∧
      (∀ d ∈ result.artifacts, d ∉ base.documents) ∧
      result.diagnostics =
        [⟨"GH0001", "Document path 'a' is used by more than one document", .warning, some ⟨"a", none⟩⟩,
          ⟨"X", "m", .warning, none⟩] := by
  have hreturns : (match execute default [⟨"python", "", ""⟩] .empty [] repetitive Session.new with
    | .ok _ _ => true
    | .error _ _ => false) = true := by decide +kernel
  have hsources : (calls default [⟨"python", "", ""⟩] .empty [] repetitive Session.new).filterMap Call.source? =
      [⟨"a", "1"⟩, ⟨"a", "1"⟩, .placeholder] := by decide +kernel
  have hreported : (calls default [⟨"python", "", ""⟩] .empty [] repetitive Session.new).filterMap
      Call.diagnostic? = [⟨"X", "m", .warning, none⟩] := by decide +kernel
  cases h : execute default [⟨"python", "", ""⟩] .empty [] repetitive Session.new with
  | error e t =>
    rw [h] at hreturns
    cases hreturns
  | ok result t =>
    have hnone : ∀ slot ∈ Session.new.slots, slot.2 = none := by intro _ h; cases h
    obtain ⟨base, s', hbase, hartifacts, hold, -, hdiagnostics⟩ := execute_output hnone h
    rw [hsources] at hartifacts
    have hpaths : result.artifacts.map (·.source.path) = (["a", "a", ""] : List Text) := by
      have hmap := congrArg (List.map Source.path) hartifacts
      rwa [List.map_map] at hmap
    rw [hreported, hpaths] at hdiagnostics
    refine ⟨hnone, result, t, base, s', rfl, hbase, hartifacts, hold, hdiagnostics.trans ?_⟩
    decide +kernel

end Generation
end GeneratorHost
