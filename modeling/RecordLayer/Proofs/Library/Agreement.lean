import RecordLayer.Proofs.Context.Consistency
import RecordLayer.Proofs.Text.Trim

/-!
# What a process reports and what its contexts use

The summary of a process and a context without a preference of its own look at the same flag, each
for itself: the summary to name the native backend if it works, the context to choose a backend.
They always come to the same.

* `Truthy` says which flags ask for the native backend, without trimming or changing a letter;
* `result_choose_ready` and `result_choose_other` have the choice, `version_summarize` the summary;
* `Agrees` puts a choice and a summary together, and `Uses` a choice and a new context;
* `summary_agrees_with_choice` has both, and that a native backend nobody asks for is not tried.
-/

namespace RecordLayer

namespace Library

open Text (Trims lower)

/-! ### Flags -/

/-- The flag is set to one of four words, with any blanks around it and letters of any case. -/
def Truthy (flag : Option String) : Prop :=
  ∃ text ∈ flag, ∃ core, Trims text.toList core ∧
    String.ofList (lower core) ∈ ["1", "true", "yes", "on"]

theorem mem_truthy_iff {cs : List Char} :
    cs ∈ truthy ↔ String.ofList cs ∈ ["1", "true", "yes", "on"] := by
  have hwords : ["1", "true", "yes", "on"] = truthy.map String.ofList := by decide
  rw [hwords, List.mem_map_of_injective fun _ _ => String.ofList_inj.mp]

theorem any_isTruthy_iff {flag : Option String} : flag.any isTruthy = true ↔ Truthy flag := by
  simp only [Option.any_eq_true, Truthy, isTruthy, List.contains_iff_mem, mem_truthy_iff,
    ← Text.trim_eq_iff, exists_eq_left', Option.mem_def]

instance (flag : Option String) : Decidable (Truthy flag) :=
  decidable_of_iff _ any_isTruthy_iff

theorem nativeRequested_summarize (l : Library) (flag : Option String) :
    (l.summarize flag).2.nativeRequested = flag.any isTruthy := by
  rw [summarize]
  split
  · next hflag => exact hflag.symm
  · next hflag => exact (Bool.eq_false_iff.mpr hflag).symm

/-! ### The choice -/

/-- What the portable backend comes to. -/
def portableChoice (l : Library) : Except Error BackendChoice :=
  l.portable.map fun suites => ⟨l.portableBackend.name, l.portableBackend.native, suites⟩

theorem result_settle (l : Library) : l.portableBackend.settle.result = l.portableChoice := by
  cases hportable : l.portable with
  | ok suites => simp only [Backend.settle, portableBackend, portableChoice, hportable]; rfl
  | error e => simp only [Backend.settle, portableBackend, portableChoice, hportable]; rfl

theorem result_choose_ready {l : Library} {suites : List CipherSuite}
    (h : l.native = .ready suites) :
    (l.choose true).result =
      .ok ⟨l.nativeBackend.name, l.nativeBackend.native, suites⟩ := by
  simp only [choose, Backend.select, nativeBackend, h, if_true]
  rfl

/-- A native backend that fails or panics leaves the choice to the portable one, and so does one
that nobody asks for. -/
theorem result_choose_other {l : Library} {prefer : Bool}
    (h : ¬(prefer = true ∧ ∃ suites, l.native = .ready suites)) :
    (l.choose prefer).result = l.portableChoice := by
  rw [← result_settle]
  cases prefer with
  | false => rfl
  | true =>
    cases hnative : l.native with
    | ready suites => exact absurd ⟨rfl, suites, hnative⟩ h
    | failed e =>
      simp only [choose, Backend.select, nativeBackend, hnative, if_true]
      rfl
    | panicked =>
      simp only [choose, Backend.select, nativeBackend, hnative, if_true]
      rfl

theorem native_portableChoice {l : Library} {b : BackendChoice} (h : l.portableChoice = .ok b) :
    b.native = false := by
  rw [portableChoice] at h
  cases hportable : l.portable with
  | ok suites =>
    rw [hportable] at h
    cases h
    rfl
  | error e =>
    rw [hportable] at h
    cases h

/-! ### The summary -/

theorem version_summarize (l : Library) (flag : Option String) :
    ((Truthy flag ∧ ∃ suites, l.native = .ready suites) →
      (l.summarize flag).2.version = l.nativeBackend.name) ∧
    (¬(Truthy flag ∧ ∃ suites, l.native = .ready suites) →
      (l.summarize flag).2.version = Summary.unknownVersion) := by
  rw [summarize]
  constructor
  · rintro ⟨hflag, suites, hready⟩
    rw [if_pos (any_isTruthy_iff.mpr hflag)]
    simp only [result_choose_ready hready]
    rfl
  · intro hother
    split
    · next hflag =>
      -- the backend that is chosen instead has a name too, but it is not native
      rw [any_isTruthy_iff] at hflag
      have hchoice : (l.choose true).result = l.portableChoice :=
        result_choose_other fun h => hother ⟨hflag, h.2⟩
      simp only [hchoice]
      cases hportable : l.portableChoice with
      | ok b =>
        simp only [nativeName?, native_portableChoice hportable]
        rfl
      | error e => rfl
    · rfl

theorem libraryVersion_summarize (l : Library) (flag : Option String) :
    (l.summarize flag).2.libraryVersion = (l.summarize flag).2.version := by
  rw [summarize]
  split <;> rfl

/-- A choice and a summary come to the same. -/
structure Agrees (l : Library) (flag : Option String) (choice : Except Error BackendChoice)
    (s : Summary) : Prop where
  chosen_iff_named : (∃ b, choice = .ok b ∧ b.native = true) ↔ s.version = l.nativeBackend.name
  named_iff : s.version = l.nativeBackend.name ↔
    Truthy flag ∧ ∃ suites, l.native = .ready suites
  native : ∀ suites, Truthy flag → l.native = .ready suites →
    choice = .ok ⟨l.nativeBackend.name, true, suites⟩
  portable : ¬(Truthy flag ∧ ∃ suites, l.native = .ready suites) →
    choice = l.portableChoice ∧ s.version = Summary.unknownVersion
  requested : s.nativeRequested = true ↔ Truthy flag
  libraryVersion : s.libraryVersion = s.version

theorem agrees_choose (l : Library) (flag : Option String) :
    Agrees l flag (l.choose (flag.any isTruthy)).result (l.summarize flag).2 := by
  have hversion := version_summarize l flag
  have hnamed : (l.summarize flag).2.version = l.nativeBackend.name ↔
      Truthy flag ∧ ∃ suites, l.native = .ready suites := by
    refine ⟨fun hname => ?_, hversion.1⟩
    by_contra hother
    rw [hversion.2 hother] at hname
    exact absurd hname (show "Unknown" ≠ "aws-lc-rs" by decide)
  have hnative : ∀ suites, Truthy flag → l.native = .ready suites →
      (l.choose (flag.any isTruthy)).result = .ok ⟨l.nativeBackend.name, true, suites⟩ := by
    intro suites hflag hready
    rw [any_isTruthy_iff.mpr hflag]
    exact result_choose_ready hready
  have hportable : ¬(Truthy flag ∧ ∃ suites, l.native = .ready suites) →
      (l.choose (flag.any isTruthy)).result = l.portableChoice := fun hother =>
    result_choose_other fun h => hother ⟨any_isTruthy_iff.mp h.1, h.2⟩
  refine ⟨?_, hnamed, hnative, fun hother => ⟨hportable hother, hversion.2 hother⟩, ?_,
    libraryVersion_summarize l flag⟩
  · rw [hnamed]
    constructor
    · rintro ⟨b, hchoice, hb⟩
      by_contra hother
      rw [hportable hother] at hchoice
      rw [native_portableChoice hchoice] at hb
      cases hb
    · rintro ⟨hflag, suites, hready⟩
      exact ⟨_, hnative suites hflag hready, rfl⟩
  · rw [nativeRequested_summarize]
    exact any_isTruthy_iff

/-- Without a flag that asks for it, the native backend is not tried: it makes no difference what it
would have done. -/
theorem summarize_ignores_native {flag : Option String} (h : ¬Truthy flag) (l : Library)
    (provision : Provision) :
    ({ l with native := provision } : Library).summarize flag = l.summarize flag := by
  rw [← any_isTruthy_iff] at h
  rw [summarize, summarize, if_neg h, if_neg h]

end Library

/-- The environment with a native backend that comes to something else. -/
def Environment.withNative {κ : Type} (env : Environment κ) (provision : Provision) :
    Environment κ :=
  { env with library := { env.library with native := provision } }

namespace Contexts

open Library (Truthy Agrees)

variable {κ : Type}

theorem prefersNative_of_none (env : Environment κ) {options : Options}
    (h : options.preferNative = none) :
    prefersNative env options = env.flag.any Library.isTruthy := by
  rw [prefersNative, h, Option.getD_none, Library.nativeRequested_summarize]

/-- What a new context has to do with a choice: it fails with the error, or is built on the
backend. -/
structure Uses (env : Environment κ) (c : Contexts) (options : Options) (keys : KeyMaterial)
    (choice : Except Error BackendChoice) : Prop where
  fails : ∀ e, choice = .error e →
    (step env c (.new options keys)).reply = .failed e ∧
      (step env c (.new options keys)).contexts = c
  builds : ∀ backend, choice = .ok backend →
    (step env c (.new options keys)).Ends c (.context c.contexts.length) (c.add options backend)
      (ServerConfig.build env.rules options backend keys).result

theorem uses_choose (env : Environment κ) (c : Contexts) (options : Options) (keys : KeyMaterial) :
    Uses env c options keys (env.library.choose (prefersNative env options)).result := by
  refine ⟨fun e hchoice => ?_, fun backend hchoice => ends_new hchoice c keys⟩
  have hprepared : (prepare env options keys).result = .error e :=
    Noted.result_andThen_error hchoice _
  simp only [step, hprepared, and_self]

theorem step_ignores_native (env : Environment κ) {options : Options}
    (h : options.preferNative = none) (hflag : ¬Truthy env.flag) (provision : Provision)
    (c : Contexts) (keys : KeyMaterial) :
    step (env.withNative provision) c (.new options keys) = step env c (.new options keys) := by
  have huntruthy : env.flag.any Library.isTruthy = false :=
    Bool.eq_false_iff.mpr (Library.any_isTruthy_iff.not.mpr hflag)
  have hprepare : prepare (env.withNative provision) options keys = prepare env options keys := by
    simp only [prepare, prefersNative_of_none _ h]
    simp only [Environment.withNative, huntruthy]
    rfl
  simp only [step, hprepare]

/-- What a process reports is what its contexts use. Under a policy without a preference, whatever
the flag is and whatever the two backends do, a new context is built on the native backend exactly
if the summary names it, and that is if the flag asks for it and it works. Otherwise the portable
backend is chosen, with its suites, its name and its kind, or its error is the error; an error or a
panic of the native backend gets no further. Without a flag that asks for it, the native backend is
not even tried: neither context nor summary would be another if it came to something else. -/
theorem summary_agrees_with_choice (env : Environment κ) {options : Options}
    (h : options.preferNative = none) (c : Contexts) (keys : KeyMaterial) :
    let choice := (env.library.choose (prefersNative env options)).result
    let summary := (env.library.summarize env.flag).2
    Uses env c options keys choice ∧ Agrees env.library env.flag choice summary ∧
      (¬Truthy env.flag → ∀ provision,
        step (env.withNative provision) c (.new options keys) = step env c (.new options keys) ∧
          (env.withNative provision).library.summarize env.flag =
            env.library.summarize env.flag) := by
  refine ⟨uses_choose env c options keys, ?_, fun hflag provision => ⟨?_, ?_⟩⟩
  · rw [prefersNative_of_none env h]
    exact Library.agrees_choose env.library env.flag
  · exact step_ignores_native env h hflag provision c keys
  · exact Library.summarize_ignores_native hflag env.library provision

/-- The flag asks for a native backend that panics, and the portable one fails: the error is that of
the portable one, and the summary keeps the native one back. -/
theorem summary_agrees_with_choice_panicked :
    let failure : Error := .config (.other "no entropy")
    let rules : CertificateRules := ⟨fun _ => none, fun _ _ => none⟩
    let env : Environment Unit :=
      ⟨⟨.panicked, .error failure⟩, some " On\t", rules, fun _ _ => .ok ()⟩
    let options : Options := {}
    options.preferNative = none ∧ Truthy env.flag ∧
      (step env {} (.new options ⟨[[1]], [2], none⟩)).reply = .failed failure ∧
      (env.library.summarize env.flag).2.version = "Unknown" ∧
      (env.library.summarize env.flag).2.nativeRequested = true := by
  intro failure rules env options
  have hflag : Truthy env.flag := by decide
  have hnone : options.preferNative = none := rfl
  obtain ⟨huses, hagrees, -⟩ := summary_agrees_with_choice env hnone {} ⟨[[1]], [2], none⟩
  have hother : ¬(Truthy env.flag ∧ ∃ suites, env.library.native = .ready suites) := by
    rintro ⟨-, suites, hready⟩
    cases hready
  obtain ⟨hchoice, hversion⟩ := hagrees.portable hother
  exact ⟨hnone, hflag, (huses.fails failure hchoice).1, hversion, hagrees.requested.mpr hflag⟩

end Contexts

end RecordLayer
