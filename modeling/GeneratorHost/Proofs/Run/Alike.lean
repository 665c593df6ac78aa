import GeneratorHost.Proofs.Act.Simulation
import GeneratorHost.Proofs.Run.Touching

/-! Runs side by side. Two worlds may be alike in one way or another: in all but the names of generators, or in all but
    the diagnostics that scripts report. Whatever way it is, a step that looks at nothing but the bytes of files goes
    the same way in both, with the same outcome, and leaves them alike. -/

namespace GeneratorHost
namespace Run

open Act (Matches)

variable {L : World → World → Prop} {w v : World}

/-- A way for worlds to be alike: all files hold the same bytes, and every elementary step leaves the worlds alike. -/
structure Likeness (L : World → World → Prop) : Prop where
  plain : ∀ {w v}, L w v → v.files.plain = w.files.plain
  host : ∀ {w v}, L w v → v.host = w.host
  logging : ∀ {w v}, L w v → v.logging = w.logging
  tokens : ∀ {w v}, L w v → v.tokens = w.tokens
  logged : ∀ {w v}, L w v → ∀ r, L (w.logged r) (v.logged r)
  printed : ∀ {w v : World}, L w v → ∀ said : String, L { w with err := w.err ++ said } { v with err := v.err ++ said }
  warned : ∀ {w v : World}, L w v → ∀ message,
    L { w with warned := w.warned ++ [message] } { v with warned := v.warned ++ [message] }
  counted : ∀ {w v : World}, L w v → ∀ tokens, L { w with tokens } { v with tokens }
  changed : ∀ {w v : World}, L w v → ∀ {attempt : FileTree → FileTree.Attempt}, FileTree.Blind attempt →
    L { w with files := (attempt w.files).1 } { v with files := (attempt v.files).1 }

/-- The steps that look at nothing but the host, the handlers of the log and the bytes of files, and touch no registry and no session. -/
abbrev Plain {α : Type} (step : Act World α) : Prop := Touching (fun part => part = .files ∨ part = .tokens) step

namespace Likeness

variable (H : Likeness L)
include H

theorem matches_ask {α : Type} {question : FileTree → Except Failure α} (h : FileTree.OfBytes question) :
    Matches L (fun a b => b = a) (World.ask question) (World.ask question) := by
  intro w v hl
  have hq := h.eq (H.plain hl)
  cases ha : question w.files with
  | ok a => exact Or.inl ⟨a, a, w, v, World.ask_of_ok ha, World.ask_of_ok (hq.trans ha), rfl, hl⟩
  | error e => exact Or.inr ⟨e, w, v, World.ask_of_error ha, World.ask_of_error (hq.trans ha), hl⟩

theorem matches_change {attempt : FileTree → FileTree.Attempt} (hb : FileTree.Blind attempt) :
    Matches L (fun a b => b = a) (World.change attempt) (World.change attempt) := by
  intro w v hl
  have hfailure : (attempt v.files).2 = (attempt w.files).2 := hb.failure.eq (H.plain hl)
  have hafter := H.changed hl hb
  simp only [World.change]
  cases hw : attempt w.files with
  | mk files failed =>
    cases hv : attempt v.files with
    | mk files' failed' =>
      rw [hw, hv] at hfailure hafter
      simp only [] at hfailure
      subst hfailure
      cases failed' with
      | none => exact Or.inl ⟨(), (), _, _, rfl, rfl, trivial, hafter⟩
      | some e => exact Or.inr ⟨e, _, _, rfl, rfl, hafter⟩

/-- A step that looks at nothing but bytes does the same in worlds that are alike. -/
theorem matches_plain {α : Type} {step : Act World α} (h : Plain step) : Matches L (fun a b => b = a) step step := by
  -- What goes on is decided by answers only, and these are the same in both worlds; so both take the same way.
  induction h with
  | pure a => exact Act.matches_pure rfl
  | throw e => exact Act.matches_throw e
  | get h => cases h <;> contradiction
  | ask h => exact H.matches_ask h
  | @host α f hf ih =>
    intro w v hl
    rw [Act.get_bind, Act.get_bind, H.host hl]
    exact ih w.host w v hl
  | @logging α f hf ih =>
    intro w v hl
    rw [Act.get_bind, Act.get_bind, H.logging hl]
    exact ih w.logging w v hl
  | bind hx hf ihx ihf =>
    refine ihx.bind fun a b hb => ?_
    subst hb
    exact ihf b
  | log level logger message => exact fun w v hl => Or.inl ⟨(), (), _, _, rfl, rfl, rfl, H.logged hl _⟩
  | printError t => exact fun w v hl => Or.inl ⟨(), (), _, _, rfl, rfl, rfl, H.printed hl _⟩
  | tell message => exact fun w v hl => Or.inl ⟨(), (), _, _, rfl, rfl, rfl, H.warned hl _⟩
  | change h hb => exact H.matches_change hb
  | freshToken h =>
    intro w v hl
    refine Or.inl ⟨_, _, _, _, rfl, rfl, ?_, H.tokens hl ▸ H.counted hl _⟩
    rw [H.tokens hl]
  | onRegistry h => cases h <;> contradiction
  | onSession h => cases h <;> contradiction

end Likeness
end Run
end GeneratorHost
