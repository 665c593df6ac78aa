import GeneratorHost.Command.Arguments

/-! Reading arguments one after the other. What has been read does not matter to what comes next, so the flag for JSON, where
    an option is read, adds itself and changes nothing else. -/

namespace GeneratorHost
namespace Command

/-! ### What is read later -/

namespace Given

/-- What is given first, followed by what is given then. -/
def append (g h : Given) : Given := ⟨g.options ++ h.options, g.positional ++ h.positional⟩

instance : Append Given := ⟨append⟩

variable (g h k : Given)

theorem append_nothing : g ++ nothing = g :=
  (congrArg (Given.mk · _) (List.append_nil _)).trans (congrArg (Given.mk _) (List.append_nil _))

theorem append_withOption (s : Switch) (value : Text) : g ++ h.withOption s value = (g ++ h).withOption s value :=
  congrArg (Given.mk · _) (List.append_assoc _ _ _).symm

end Given

variable {g : Given}

/-- What is read after something was given. -/
def following {α : Type} (g : Given) (r : Except UsageError (Given × α)) : Except UsageError (Given × α) :=
  r.map fun read => (g ++ read.1, read.2)

theorem takeValue_append (g h : Given) (s : Switch) (name : Text) (attached : Option Text) (rest : List Text) :
    takeValue (g ++ h) s name attached rest = following g (takeValue h s name attached rest) := by
  cases attached with
  | some value => exact congrArg (fun read => Except.ok (read, rest)) (Given.append_withOption g h s value).symm
  | none =>
    cases rest with
    | nil => rfl
    | cons value rest => exact congrArg (fun read => Except.ok (read, rest)) (Given.append_withOption g h s value).symm

theorem readLetters_append (g : Given) (rest : List Text) : ∀ (letters : List Letter) (h : Given),
    readLetters (g ++ h) rest letters = following g (readLetters h rest letters)
  | [], h => rfl
  | letter :: more, h => by
    simp only [readLetters]
    cases Switch.letters.find? fun entry => Letter.char entry.1 == letter with
    | none => rfl
    | some entry =>
      obtain ⟨_, s⟩ := entry
      simp only []
      split
      · exact takeValue_append g h s _ _ rest
      · rw [← Given.append_withOption]
        exact readLetters_append g rest more _

theorem readOption_append (g h : Given) (argument : Text) (rest : List Text) :
    readOption (g ++ h) argument rest = following g (readOption h argument rest) := by
  simp only [readOption]
  cases Switch.longNames.find? fun entry => Text.ofString entry.1 == (cutValue argument).1 with
  | some entry =>
    obtain ⟨_, s⟩ := entry
    simp only []
    split
    · exact takeValue_append g h s _ _ rest
    · split
      · rfl
      · exact congrArg (fun read => Except.ok (read, rest)) (Given.append_withOption g h s .empty).symm
  | none =>
    simp only []
    split
    · rfl
    · exact readLetters_append g rest _ h

theorem readArguments_append (g : Given) : ∀ (fuel : Nat) (h : Given) (arguments : List Text),
    readArguments (g ++ h) fuel arguments = (readArguments h fuel arguments).map (g ++ ·)
  | 0, _, _ => rfl
  | fuel + 1, h, [] => rfl
  | fuel + 1, h, argument :: rest => by
    simp only [readArguments]
    split
    · exact congrArg (fun positional => Except.ok (Given.mk _ positional)) (List.append_assoc _ _ _)
    · split
      · rw [readOption_append]
        cases readOption h argument rest with
        | error e => rfl
        | ok read => exact readArguments_append g fuel read.1 read.2
      · have hpositional : ({ g ++ h with positional := (g ++ h).positional ++ [argument] } : Given) =
            g ++ { h with positional := h.positional ++ [argument] } :=
          congrArg (Given.mk _) (List.append_assoc _ _ _)
        rw [hpositional]
        exact readArguments_append g fuel _ rest

/-! ### How much is read at once -/

/-- Whether joined letters take the next argument as a value. -/
def lettersTakeNext : List Letter → Bool
  | [] => false
  | letter :: more =>
    match Switch.letters.find? fun entry => Letter.char entry.1 == letter with
    | none => false
    | some (_, s) => if s.takesValue then more.isEmpty else lettersTakeNext more

/-- Whether an argument that is read as an option takes the next argument as its value. -/
def takesNext (argument : Text) : Bool :=
  let (name, attached) := cutValue argument
  match Switch.longNames.find? fun entry => Text.ofString entry.1 == name with
  | some (_, s) => s.takesValue && attached.isNone
  | none => !isLong argument && lettersTakeNext (argument.letters.drop 1)

/-- An option that was read, with other arguments behind it. -/
def withRest (rest : List Text) (r : Except UsageError (Given × List Text)) :
    Except UsageError (Given × List Text) :=
  r.map fun read => (read.1, rest)

section
variable {front : List Text} (rest other : List Text)

theorem takeValue_withRest {attached : Option Text} (h : front.length = attached.isNone.toNat) (g : Given) (s : Switch)
    (name : Text) :
    takeValue g s name attached (front ++ rest) = withRest rest (takeValue g s name attached (front ++ other)) := by
  cases attached with
  | some value =>
    obtain rfl := List.length_eq_zero_iff.mp h
    rfl
  | none =>
    obtain ⟨value, rfl⟩ := List.length_eq_one_iff.mp h
    rfl

theorem readLetters_withRest : ∀ {letters : List Letter} (g : Given), front.length = (lettersTakeNext letters).toNat →
    readLetters g (front ++ rest) letters = withRest rest (readLetters g (front ++ other) letters)
  | [], g, h => by
    obtain rfl := List.length_eq_zero_iff.mp h
    rfl
  | letter :: more, g, h => by
    simp only [lettersTakeNext] at h
    simp only [readLetters]
    cases hf : Switch.letters.find? fun entry => Letter.char entry.1 == letter with
    | none => rfl
    | some entry =>
      obtain ⟨_, s⟩ := entry
      rw [hf] at h
      simp only [] at h ⊢
      split
      · next hs =>
        rw [if_pos hs] at h
        refine takeValue_withRest rest other ?_ g s _
        cases more with
        | nil => exact h
        | cons second more => exact h
      · next hs =>
        rw [if_neg hs] at h
        exact readLetters_withRest _ h

/-- An option is read with the value that it takes, and without a look at what follows. -/
theorem readOption_withRest {argument : Text} (g : Given) (h : front.length = (takesNext argument).toNat) :
    readOption g argument (front ++ rest) = withRest rest (readOption g argument (front ++ other)) := by
  simp only [takesNext] at h
  simp only [readOption]
  cases hf : Switch.longNames.find? fun entry => Text.ofString entry.1 == (cutValue argument).1 with
  | some entry =>
    obtain ⟨_, s⟩ := entry
    rw [hf] at h
    simp only [] at h ⊢
    split
    · next hs =>
      rw [hs, Bool.true_and] at h
      exact takeValue_withRest rest other h g s _
    · next hs =>
      rw [Bool.not_eq_true] at hs
      rw [hs, Bool.false_and] at h
      obtain rfl := List.length_eq_zero_iff.mp h
      split <;> rfl
  | none =>
    rw [hf] at h
    simp only [] at h ⊢
    split
    · rfl
    · next hlong =>
      refine readLetters_withRest rest other g ?_
      rw [h, Bool.eq_false_iff.mpr hlong, Bool.not_false, Bool.true_and]

end

theorem length_takeValue {g h : Given} {s : Switch} {name : Text} {attached : Option Text} {rest more : List Text}
    (hr : takeValue g s name attached rest = .ok (h, more)) : more.length ≤ rest.length := by
  cases attached with
  | some value =>
    cases hr
    exact Nat.le_refl _
  | none =>
    cases rest with
    | nil => cases hr
    | cons value rest =>
      cases hr
      exact Nat.le_succ _

theorem length_readLetters {rest more : List Text} {h : Given} : ∀ {letters : List Letter} {g : Given},
    readLetters g rest letters = .ok (h, more) → more.length ≤ rest.length
  | [], g, hr => by
    cases hr
    exact Nat.le_refl _
  | letter :: letters, g, hr => by
    simp only [readLetters] at hr
    split at hr
    · cases hr
    · split at hr
      · exact length_takeValue hr
      · exact length_readLetters hr

/-- No argument is read twice. -/
theorem length_readOption {g h : Given} {argument : Text} {rest more : List Text}
    (hr : readOption g argument rest = .ok (h, more)) : more.length ≤ rest.length := by
  simp only [readOption] at hr
  split at hr
  · split at hr
    · exact length_takeValue hr
    · split at hr
      · cases hr
      · cases hr
        exact Nat.le_refl _
  · split at hr
    · cases hr
    · exact length_readLetters hr

/-! ### All arguments -/

/-- The bound on how many arguments are read makes no difference if it is high enough. -/
theorem readArguments_of_lt : ∀ {fuel other : Nat} {arguments : List Text} (g : Given), arguments.length < fuel →
    arguments.length < other → readArguments g fuel arguments = readArguments g other arguments
  | fuel + 1, other + 1, [], _, _, _ => rfl
  | fuel + 1, other + 1, argument :: rest, g, hf, ho => by
    have hf' := Nat.lt_of_succ_lt_succ hf
    have ho' := Nat.lt_of_succ_lt_succ ho
    simp only [readArguments]
    split
    · rfl
    · split
      · cases hr : readOption g argument rest with
        | error e => rfl
        | ok read =>
          have hle := length_readOption hr
          exact readArguments_of_lt read.1 (Nat.lt_of_le_of_lt hle hf') (Nat.lt_of_le_of_lt hle ho')
      · exact readArguments_of_lt _ hf' ho'

theorem readArguments_eq {fuel : Nat} {arguments : List Text} (g : Given) (h : arguments.length < fuel) :
    readArguments g fuel arguments = (Given.ofArguments arguments).map (g ++ ·) := by
  rw [Given.ofArguments, ← readArguments_append, Given.append_nothing]
  exact readArguments_of_lt g h (Nat.lt_succ_self _)

theorem ofArguments_positional {argument : Text} (hd : argument ≠ optionsEnd) (h : isOption argument = false)
    (rest : List Text) :
    Given.ofArguments (argument :: rest) = (Given.ofArguments rest).map (⟨[], [argument]⟩ ++ ·) := by
  rw [← readArguments_eq ⟨[], [argument]⟩ (Nat.lt_succ_self rest.length), Given.ofArguments, List.length_cons,
    readArguments, if_neg fun he => hd (beq_iff_eq.mp he)]
  exact if_neg (Bool.eq_false_iff.mp h)

theorem ofArguments_option {argument : Text} (hd : argument ≠ optionsEnd) (h : isOption argument = true) (front rest : List Text)
    (ht : front.length = (takesNext argument).toNat) :
    Given.ofArguments (argument :: (front ++ rest)) = (readOption .nothing argument (front ++ [])).bind fun read =>
      (Given.ofArguments rest).map (read.1 ++ ·) := by
  rw [Given.ofArguments, List.length_cons, readArguments, if_neg fun he => hd (beq_iff_eq.mp he), readOption_withRest rest [] _ ht]
  refine (if_pos h).trans ?_
  cases readOption .nothing argument (front ++ []) with
  | error e => rfl
  | ok read =>
    refine readArguments_eq read.1 ?_
    rw [List.length_append]
    omega

/-! ### The flag for JSON -/

/-- Arguments, and the same ones with the flag for JSON where an option may stand: before an argument, behind one that is
    no option, or behind an option with the value that it takes. -/
inductive WithJson : List Text → List Text → Prop
  | here {flag : Text} (h : flag = "--json" ∨ flag = "--json-output") (rest : List Text) : WithJson rest (flag :: rest)
  | positional {argument : Text} {rest more : List Text} (hd : argument ≠ optionsEnd) (h : isOption argument = false)
    (hr : WithJson rest more) : WithJson (argument :: rest) (argument :: more)
  | option {argument : Text} {front rest more : List Text} (hd : argument ≠ optionsEnd) (h : isOption argument = true)
    (ht : front.length = (takesNext argument).toNat) (hr : WithJson rest more) :
    WithJson (argument :: (front ++ rest)) (argument :: (front ++ more))

/-- What is given, and the same with the flag for JSON. -/
structure Given.AddsJson (g h : Given) : Prop where
  positional : h.positional = g.positional
  options : ∃ before after, g.options = before ++ after ∧ h.options = before ++ (.json, .empty) :: after

theorem Given.AddsJson.append {h : Given} (ha : AddsJson g h) (k : Given) : AddsJson (k ++ g) (k ++ h) := by
  obtain ⟨before, after, hg, hh⟩ := ha.options
  refine ⟨congrArg (k.positional ++ ·) ha.positional, k.options ++ before, after, ?_, ?_⟩
  · exact (congrArg (k.options ++ ·) hg).trans (List.append_assoc _ _ _).symm
  · exact (congrArg (k.options ++ ·) hh).trans (List.append_assoc _ _ _).symm

/-- Both are refused alike, or both are read and differ by the flag. -/
def SameButJson (r s : Except UsageError Given) : Prop :=
  (∃ e, r = .error e ∧ s = .error e) ∨ ∃ g h, r = .ok g ∧ s = .ok h ∧ g.AddsJson h

theorem SameButJson.map {r s : Except UsageError Given} (h : SameButJson r s) (k : Given) :
    SameButJson (r.map (k ++ ·)) (s.map (k ++ ·)) := by
  rcases h with ⟨e, rfl, rfl⟩ | ⟨g, h, rfl, rfl, ha⟩
  · exact Or.inl ⟨e, rfl, rfl⟩
  · exact Or.inr ⟨k ++ g, k ++ h, rfl, rfl, ha.append k⟩

theorem ofArguments_json {flag : Text} (h : flag = "--json" ∨ flag = "--json-output") (rest : List Text) :
    Given.ofArguments (flag :: rest) = (Given.ofArguments rest).map (⟨[(.json, .empty)], []⟩ ++ ·) := by
  rcases h with rfl | rfl
  · exact ofArguments_option (by decide) (by decide) [] rest (by decide)
  · exact ofArguments_option (by decide) (by decide) [] rest (by decide)

theorem WithJson.ofArguments {arguments more : List Text} (h : WithJson arguments more) :
    SameButJson (Given.ofArguments arguments) (Given.ofArguments more) := by
  -- The induction is on what stands before the flag; it is read alike, and what follows is read behind it.
  induction h with
  | here hflag rest =>
    rw [ofArguments_json hflag]
    cases Given.ofArguments rest with
    | error e => exact Or.inl ⟨e, rfl, rfl⟩
    | ok g => exact Or.inr ⟨g, _, rfl, rfl, rfl, [], g.options, rfl, rfl⟩
  | positional hd hoption hr ih =>
    rw [ofArguments_positional hd hoption, ofArguments_positional hd hoption]
    exact ih.map _
  | @option argument front rest more hd hoption ht hr ih =>
    rw [ofArguments_option hd hoption front _ ht, ofArguments_option hd hoption front _ ht]
    cases readOption .nothing argument (front ++ []) with
    | error e => exact Or.inl ⟨e, rfl, rfl⟩
    | ok read => exact ih.map read.1

/-! ### What the arguments come to -/

theorem valuesOf_addsJson {h : Given} (ha : g.AddsJson h) {s : Switch} (hs : s ≠ .json) : h.valuesOf s = g.valuesOf s := by
  obtain ⟨before, after, hg, hh⟩ := ha.options
  have hne : (Switch.json == s) = false := beq_eq_false_iff_ne.mpr fun he => hs he.symm
  simp [Given.valuesOf, hg, hh, hne]

theorem has_addsJson {h : Given} (ha : g.AddsJson h) {s : Switch} (hs : s ≠ .json) : h.has s = g.has s := by
  obtain ⟨before, after, hg, hh⟩ := ha.options
  have hne : (Switch.json == s) = false := beq_eq_false_iff_ne.mpr fun he => hs he.symm
  simp [Given.has, hg, hh, hne]

theorem has_json_of_addsJson {h : Given} (ha : g.AddsJson h) : h.has .json = true := by
  obtain ⟨before, after, -, hh⟩ := ha.options
  simp [Given.has, hh]

/-- What arguments come to, with the flag for JSON. -/
def Parsed.withJson : Parsed → Parsed
  | invocation i => invocation { i with json := true }
  | other => other

theorem readPath_withJson (argument : Text) (next : Path → Parsed) :
    (readPath argument next).withJson = readPath argument fun path => (next path).withJson := by
  unfold readPath
  split <;> rfl

theorem readPathIfGiven_withJson (argument : Option Text) (next : Option Path → Parsed) :
    (readPathIfGiven argument next).withJson = readPathIfGiven argument fun path => (next path).withJson := by
  cases argument with
  | none => rfl
  | some argument => exact readPath_withJson argument fun path => next (some path)

theorem readPositional_withJson (name : String) (argument : Option Text) (next : Path → Parsed) :
    (readPositional name argument next).withJson = readPositional name argument fun path => (next path).withJson := by
  cases argument with
  | none => rfl
  | some argument => exact readPath_withJson argument next

theorem ofGiven_addsJson {h : Given} (ha : g.AddsJson h) : Parsed.ofGiven h = (Parsed.ofGiven g).withJson := by
  have hfind : (h.options.find? fun option => option.1 == .help || option.1 == .version) =
      g.options.find? fun option => option.1 == .help || option.1 == .version := by
    obtain ⟨before, after, hg, hh⟩ := ha.options
    simp [hg, hh, List.find?_append]
  unfold Parsed.ofGiven
  rw [hfind]
  split
  · rfl
  · rfl
  · rw [readPathIfGiven_withJson, valuesOf_addsJson ha (s := .settings) nofun, ha.positional]
    congr 1
    funext settings
    rw [readPositional_withJson]
    congr 1
    funext plugin
    rw [readPositional_withJson]
    congr 1
    funext output
    cases g.positional.drop 2 with
    | nil =>
      simp only [Parsed.withJson, valuesOf_addsJson ha (s := .text) nofun, valuesOf_addsJson ha (s := .property) nofun,
        has_json_of_addsJson ha, has_addsJson ha (s := .debug) nofun, has_addsJson ha (s := .verbose) nofun,
        has_addsJson ha (s := .quiet) nofun]
    | cons extra rest => rfl

/-- The flag for JSON makes an invocation one with JSON, and changes nothing else that arguments come to. -/
theorem WithJson.parsed {arguments more : List Text} (h : WithJson arguments more) :
    Parsed.ofArguments more = (Parsed.ofArguments arguments).withJson := by
  unfold Parsed.ofArguments
  rcases h.ofArguments with ⟨e, he, he'⟩ | ⟨g, k, hg, hk, ha⟩
  · rw [he, he']
    rfl
  · rw [hg, hk]
    exact ofGiven_addsJson ha

end Command
end GeneratorHost
