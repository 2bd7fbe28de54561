import Mathlib.Data.Nat.Bitwise
import Mathlib.Data.Nat.Find
import RecordLayer.Proofs.CipherSuite.Selection
import RecordLayer.Proofs.Context.History

/-!
# Consistent configurations

Four things have to fit before there is a server configuration: the cipher list and the suites of
the backend, these suites and the versions of the policy, the trust anchors if clients are asked for
certificates, and the identity of the server. What does not fit is an inconsistency. Several can
hold at once, and the first of them is what the builder is told.

* `Options.Speaks`, `Options.AsksClients`, `Options.InsistsOnClients`, `KeyMaterial.TrustAnchors`
  and `ServerConfig.Selects` say what policy and key material mean, without computing with them;
* `Inconsistent` says which inconsistencies hold, `First` which one comes first, and `Fits` what a
  configuration is like if there is none;
* `Stage` is a check that finds the inconsistencies of one rank, `Reports` a series of checks that
  finds the first one from a rank on, and `Stage.followed` puts a stage before a series;
* `first_inconsistency_reported` has the outcome of building alone, of a new context and of a
  reload.
-/

namespace RecordLayer

/-! ### What a policy means -/

namespace Options

/-- The versions that sessions under a policy can have: 1.2 always, 1.3 if it is enabled, and the
older ones never. -/
def Speaks (o : Options) : ProtocolVersion → Prop
  | .tls10 | .tls11 => False
  | .tls12 => True
  | .tls13 => o.enableTls13 = true

/-- A bit of the verification mode is set. -/
def ModeBit (o : Options) (bit : Nat) : Prop :=
  o.verifyMode.toNat.testBit bit = true

instance (o : Options) (bit : Nat) : Decidable (o.ModeBit bit) :=
  inferInstanceAs (Decidable (_ = true))

/-- Clients have to show a certificate. -/
def InsistsOnClients (o : Options) : Prop :=
  o.ModeBit 1

/-- Clients are asked for a certificate, whether they have to show one or not. -/
def AsksClients (o : Options) : Prop :=
  o.ModeBit 0 ∨ o.ModeBit 1

theorem mem_versions_iff {o : Options} {v : TlsVersion} :
    v ∈ o.versions ↔ ∃ w, o.Speaks w ∧ w.spoken? = some v := by
  rw [versions_eq]
  constructor
  · intro hv
    cases v with
    | tls12 => exact ⟨.tls12, trivial, rfl⟩
    | tls13 =>
      refine ⟨.tls13, ?_, rfl⟩
      by_contra hdisabled
      rw [Speaks] at hdisabled
      rw [if_neg hdisabled, List.mem_singleton] at hv
      cases hv
  · rintro ⟨w, hspeaks, hspoken⟩
    cases w with
    | tls10 => cases hspoken
    | tls11 => cases hspoken
    | tls12 =>
      cases hspoken
      split <;> decide
    | tls13 =>
      cases hspoken
      rw [Speaks] at hspeaks
      rw [if_pos hspeaks]
      decide

theorem and_two_pow_ne_zero_iff (mode mask : UInt32) (bit : Nat) (hmask : mask.toNat = 2 ^ bit) :
    mode &&& mask ≠ 0 ↔ mode.toNat.testBit bit = true := by
  rw [ne_eq, ← UInt32.toNat_inj, UInt32.toNat_and, hmask, Nat.and_two_pow]
  cases mode.toNat.testBit bit <;> simp

theorem clientAuth_eq_require_iff {o : Options} : o.clientAuth = .require ↔ o.InsistsOnClients := by
  rw [InsistsOnClients, ModeBit, ← and_two_pow_ne_zero_iff o.verifyMode verifyForcePeer 1 rfl,
    clientAuth]
  split
  · next hforced => exact iff_of_true rfl hforced
  · next hforced =>
    refine iff_of_false ?_ hforced
    split <;> decide

theorem clientAuth_eq_none_iff {o : Options} : o.clientAuth = .none ↔ ¬o.AsksClients := by
  rw [AsksClients, ModeBit, ModeBit, ← and_two_pow_ne_zero_iff o.verifyMode verifyPeer 0 rfl,
    ← and_two_pow_ne_zero_iff o.verifyMode verifyForcePeer 1 rfl, clientAuth]
  split
  · next hforced => exact iff_of_false (by decide) (not_not_intro (.inr hforced))
  · next hforced =>
    split
    · next hasked => exact iff_of_false (by decide) (not_not_intro (.inl hasked))
    · next hasked => exact iff_of_true rfl (not_or_intro hasked hforced)

end Options

/-- The certificates that those of clients are checked against: the list that was given for it, even
an empty one, and without such a list the chain of the server. -/
def KeyMaterial.TrustAnchors (keys : KeyMaterial) (anchors : List Bytes) : Prop :=
  keys.anchors = some anchors ∨ keys.anchors = none ∧ anchors = keys.chain

theorem KeyMaterial.trustAnchors_iff {keys : KeyMaterial} {anchors : List Bytes} :
    keys.TrustAnchors anchors ↔ keys.trustAnchors = anchors := by
  rw [TrustAnchors, KeyMaterial.trustAnchors]
  cases keys.anchors with
  | none => simp [eq_comm]
  | some given => simp

theorem Noted.result_andThen {α β : Type} (n : Noted α) (next : α → Noted β) :
    (n.andThen next).result = n.result >>= fun a => (next a).result := by
  cases h : n.result with
  | ok a => exact result_andThen_ok h next
  | error e => exact result_andThen_error h next

namespace ServerConfig

open CipherSuite (Requests requested)

/-- A list selects the suites that it names, and all of them if it names nothing. -/
def Selects (list : Option String) (suite : CipherSuite) : Prop :=
  (∃ name, Requests list name) → Requests list suite.name

instance (list : Option String) (suite : CipherSuite) : Decidable (Selects list suite) :=
  decidable_of_iff (requested list ≠ [] → Requests list suite.name) <| by
    rw [Selects, Ne, CipherSuite.requested_eq_nil_iff, not_forall_not]

/-! ### What can be wrong -/

inductive Inconsistency where
  /-- The cipher list names something and selects nothing. -/
  | cipherList
  /-- No selected suite is of a version of the policy. -/
  | versions
  /-- This is what the TLS implementation has against the first bad trust anchor. -/
  | anchor (fault : ProtocolError)
  | noAnchors
  /-- This is what the TLS implementation has against the identity. -/
  | identity (fault : ProtocolError)

namespace Inconsistency

/-- The first inconsistency is one of the smallest rank. -/
def rank : Inconsistency → Nat
  | cipherList => 0
  | versions => 1
  | anchor _ | noAnchors => 2
  | identity _ => 3

/-- How an inconsistency is reported; a cipher list is reported with the names in it. -/
def error (list : Option String) : Inconsistency → Error
  | cipherList => .config (.noUsableCipherSuite (requested list))
  | versions => .tls (.general "no usable cipher suites configured")
  | anchor fault | identity fault => .tls fault
  | noAnchors => .clientVerifier .noTrustAnchors

end Inconsistency

section

variable (rules : CertificateRules) (options : Options) (backend : BackendChoice)
  (keys : KeyMaterial)

/-- The inconsistencies of a policy, a backend and key material. -/
inductive Inconsistent : Inconsistency → Prop
  | cipherList (named : ∃ name, Requests options.cipherList name)
    (unselected : ∀ suite ∈ backend.suites, ¬Requests options.cipherList suite.name) :
    Inconsistent .cipherList
  | versions (unspoken : ∀ suite ∈ backend.suites, Selects options.cipherList suite →
      ∀ version, options.Speaks version → version.spoken? ≠ some suite.version) :
    Inconsistent .versions
  | anchor {before after : List Bytes} {anchor : Bytes} {fault : ProtocolError}
    (asked : options.AsksClients) (anchors : keys.TrustAnchors (before ++ anchor :: after))
    (accepted : ∀ other ∈ before, rules.anchorFault? other = none)
    (rejected : rules.anchorFault? anchor = some fault) : Inconsistent (.anchor fault)
  | noAnchors (asked : options.AsksClients) (anchors : keys.TrustAnchors []) :
    Inconsistent .noAnchors
  | identity {fault : ProtocolError}
    (rejected : rules.identityFault? keys.chain keys.key = some fault) :
    Inconsistent (.identity fault)

/-- No other inconsistency comes before this one. -/
def First (i : Inconsistency) : Prop :=
  Inconsistent rules options backend keys i ∧
    ∀ j, Inconsistent rules options backend keys j → i.rank ≤ j.rank

/-- What a configuration has from its policy, its backend and its key material. -/
structure Fits (config : ServerConfig) : Prop where
  suites : config.suites = backend.suites.filter fun suite => Selects options.cipherList suite
  versions : ∀ v, v ∈ config.versions ↔ ∃ w, options.Speaks w ∧ w.spoken? = some v
  groups : config.groups = backend.groups
  mandatory : config.clientAuth = .require ↔ options.InsistsOnClients
  unasked : config.clientAuth = .none ↔ ¬options.AsksClients
  anchors : options.AsksClients → keys.TrustAnchors config.anchors
  noAnchors : ¬options.AsksClients → config.anchors = []
  identity : config.chain = keys.chain ∧ config.key = keys.key

/-- A result is an error exactly if there is an inconsistency, and then that of the first one;
otherwise it is a configuration. -/
structure Judgement (result : Except Error ServerConfig) : Prop where
  fails : ∀ e, result = .error e ↔
    ∃ i, First rules options backend keys i ∧ i.error options.cipherList = e
  makes : (∃ config, result = .ok config) ↔ ∀ i, ¬Inconsistent rules options backend keys i
  fits : ∀ config, result = .ok config → Fits options backend keys config

end

/-! ### Checks one after the other -/

section

variable {Holds : Inconsistency → Prop} {error : Inconsistency → Error} {α β : Type}

/-- The check fails for the inconsistencies of one rank. -/
def Stage (Holds : Inconsistency → Prop) (error : Inconsistency → Error) (n : Nat)
    (check : Except Error α) : Prop :=
  ∀ e, check = .error e ↔ ∃ i, Holds i ∧ i.rank = n ∧ error i = e

/-- The result is an error exactly if there is an inconsistency from a rank on, and then that of the
first one. -/
def Reports (Holds : Inconsistency → Prop) (error : Inconsistency → Error) (n : Nat)
    (result : Except Error α) : Prop :=
  ∀ e, result = .error e ↔
    ∃ i, (Holds i ∧ n ≤ i.rank ∧ ∀ j, Holds j → n ≤ j.rank → i.rank ≤ j.rank) ∧ error i = e

theorem bind_eq_ok {check : Except Error α} {next : α → Except Error β} {b : β} :
    check >>= next = .ok b ↔ ∃ a, check = .ok a ∧ next a = .ok b := by
  cases check with
  | ok a => exact ⟨fun h => ⟨a, rfl, h⟩, fun ⟨_, ha, h⟩ => by cases ha; exact h⟩
  | error e => exact ⟨nofun, fun ⟨_, ha, _⟩ => by cases ha⟩

theorem reports_ok (a : α) : Reports Holds error 4 (.ok a) := by
  intro e
  refine iff_of_false nofun ?_
  rintro ⟨i, ⟨-, hrank, -⟩, -⟩
  cases i <;> exact absurd hrank (by simp [Inconsistency.rank])

theorem Stage.followed {n : Nat} {check : Except Error α} {next : α → Except Error β}
    (h : Stage Holds error n check)
    (hnext : ∀ a, check = .ok a → Reports Holds error (n + 1) (next a)) :
    Reports Holds error n (check >>= next) := by
  intro e
  cases hcheck : check with
  | error found =>
    obtain ⟨i, hholds, hrank, herror⟩ := (h found).mp hcheck
    constructor
    · rintro ⟨⟩
      exact ⟨i, ⟨hholds, hrank.ge, fun _ _ hj => hrank ▸ hj⟩, herror⟩
    · rintro ⟨j, ⟨hj, hge, hfirst⟩, rfl⟩
      -- another one that is first has the same rank, and the stage has but one error
      have hsame : j.rank = n := Nat.le_antisymm (hrank ▸ hfirst i hholds hrank.ge) hge
      have herror' := (h (error j)).mpr ⟨j, hj, hsame, rfl⟩
      rw [hcheck] at herror'
      cases herror'
      rfl
  | ok a =>
    have hclear : ∀ i, Holds i → n ≤ i.rank → n + 1 ≤ i.rank := by
      intro i hi hge
      refine Nat.lt_of_le_of_ne hge fun hrank => ?_
      have herror : check = .error (error i) := (h _).mpr ⟨i, hi, hrank.symm, rfl⟩
      rw [hcheck] at herror
      cases herror
    refine (hnext a hcheck e).trans (exists_congr fun i => and_congr_left' ?_)
    constructor
    · rintro ⟨hi, hge, hfirst⟩
      exact ⟨hi, Nat.le_of_succ_le hge, fun j hj hjn => hfirst j hj (hclear j hj hjn)⟩
    · rintro ⟨hi, hge, hfirst⟩
      exact ⟨hi, hclear i hi hge, fun j hj hjn => hfirst j hj (Nat.le_of_succ_le hjn)⟩

/-- Without an error there is no inconsistency at all, since one would be the first. -/
theorem Reports.ok_iff {result : Except Error α} (h : Reports Holds error 0 result) :
    (∃ a, result = .ok a) ↔ ∀ i, ¬Holds i := by
  constructor
  · rintro ⟨a, hok⟩ i hi
    have hsome : ∃ n i, Holds i ∧ i.rank = n := ⟨_, i, hi, rfl⟩
    classical
    obtain ⟨first, hfirst, hrank⟩ := Nat.find_spec hsome
    have hmin : ∀ j, Holds j → 0 ≤ j.rank → first.rank ≤ j.rank := fun j hj _ =>
      hrank ▸ Nat.find_min' hsome ⟨j, hj, rfl⟩
    have herror := (h (error first)).mpr ⟨first, ⟨hfirst, Nat.zero_le _, hmin⟩, rfl⟩
    rw [hok] at herror
    cases herror
  · intro hnone
    cases hresult : result with
    | ok a => exact ⟨a, rfl⟩
    | error e =>
      obtain ⟨i, ⟨hi, -⟩, -⟩ := (h e).mp hresult
      exact absurd hi (hnone i)

end

/-! ### The checks of a configuration -/

section

variable {rules : CertificateRules} {options : Options} {backend : BackendChoice}
  {keys : KeyMaterial}

theorem filter_selects_of_unnamed (h : requested options.cipherList = [])
    (available : List CipherSuite) :
    (available.filter fun suite => Selects options.cipherList suite) = available := by
  rw [CipherSuite.requested_eq_nil_iff] at h
  refine List.filter_eq_self.mpr fun suite _ => decide_eq_true ?_
  rintro ⟨name, hname⟩
  exact absurd hname (h name)

theorem filter_selects_of_named (h : requested options.cipherList ≠ [])
    (available : List CipherSuite) :
    (available.filter fun suite => Selects options.cipherList suite) =
      available.filter fun suite => Requests options.cipherList suite.name := by
  rw [Ne, CipherSuite.requested_eq_nil_iff, not_forall_not] at h
  congr 1
  funext suite
  exact decide_eq_decide.mpr ⟨fun hselects => hselects h, fun hnamed _ => hnamed⟩

theorem select_eq_ok {suites : List CipherSuite}
    (h : (CipherSuite.select options.cipherList backend.suites).result = .ok suites) :
    suites = backend.suites.filter fun suite => Selects options.cipherList suite := by
  by_cases hnil : requested options.cipherList = []
  · rw [CipherSuite.result_select_of_unnamed hnil] at h
    cases h
    exact (filter_selects_of_unnamed hnil _).symm
  · rw [CipherSuite.result_select_of_named hnil] at h
    split at h
    · cases h
    · cases h
      exact (filter_selects_of_named hnil _).symm

theorem stage_select :
    Stage (Inconsistent rules options backend keys) (·.error options.cipherList) 0
      (CipherSuite.select options.cipherList backend.suites).result := by
  intro e
  constructor
  · intro h
    by_cases hnil : requested options.cipherList = []
    · rw [CipherSuite.result_select_of_unnamed hnil] at h
      cases h
    · rw [CipherSuite.result_select_of_named hnil] at h
      split at h
      · next hempty =>
        cases h
        rw [CipherSuite.requested_eq_nil_iff, not_forall_not] at hnil
        rw [List.filter_eq_nil_iff] at hempty
        refine ⟨.cipherList, .cipherList hnil fun suite hsuite hrequests => ?_, rfl, rfl⟩
        exact hempty suite hsuite (decide_eq_true hrequests)
      · cases h
  · rintro ⟨i, hi, hrank, rfl⟩
    cases hi with
    | cipherList named unselected =>
      have hnil : requested options.cipherList ≠ [] := by
        rwa [Ne, CipherSuite.requested_eq_nil_iff, not_forall_not]
      rw [CipherSuite.result_select_of_named hnil, if_pos]
      · rfl
      · rw [List.filter_eq_nil_iff]
        exact fun suite hsuite => decide_eq_true_iff.not.mpr (unselected suite hsuite)
    | _ => cases hrank

theorem stage_checkVersions :
    Stage (Inconsistent rules options backend keys) (·.error options.cipherList) 1
      (checkVersions (backend.suites.filter fun suite => Selects options.cipherList suite)
        options.versions) := by
  have hspoken : ((backend.suites.filter fun suite => Selects options.cipherList suite).any
      fun suite => options.versions.contains suite.version) = true ↔
      ∃ suite ∈ backend.suites, Selects options.cipherList suite ∧
        ∃ version, options.Speaks version ∧ version.spoken? = some suite.version := by
    simp only [List.any_eq_true, List.mem_filter, decide_eq_true_eq, and_assoc,
      List.contains_iff_mem, Options.mem_versions_iff]
  intro e
  rw [checkVersions]
  constructor
  · intro h
    split at h
    · cases h
    · next hunspoken =>
      cases h
      rw [hspoken] at hunspoken
      refine ⟨.versions, .versions ?_, rfl, rfl⟩
      intro suite hsuite hselects version hspeaks hversion
      exact hunspoken ⟨suite, hsuite, hselects, version, hspeaks, hversion⟩
  · rintro ⟨i, hi, hrank, rfl⟩
    cases hi with
    | versions unspoken =>
      rw [if_neg]
      · rfl
      · rw [hspoken]
        rintro ⟨suite, hsuite, hselects, version, hspeaks, hversion⟩
        exact unspoken suite hsuite hselects version hspeaks hversion
    | _ => cases hrank

theorem stage_clientAnchors :
    Stage (Inconsistent rules options backend keys) (·.error options.cipherList) 2
      (clientAnchors rules options.clientAuth keys.trustAnchors) := by
  intro e
  rw [clientAnchors]
  constructor
  · intro h
    split at h
    · cases h
    · next hasked =>
      rw [Options.clientAuth_eq_none_iff, not_not] at hasked
      rw [checkAnchors] at h
      split at h
      · next fault hfault =>
        cases h
        obtain ⟨before, anchor, after, hanchors, hrejected, haccepted⟩ :=
          List.findSome?_eq_some_iff.mp hfault
        rw [← KeyMaterial.trustAnchors_iff] at hanchors
        exact ⟨.anchor fault, .anchor hasked hanchors haccepted hrejected, rfl, rfl⟩
      · split at h
        · next hempty =>
          cases h
          rw [List.isEmpty_iff] at hempty
          exact ⟨.noAnchors, .noAnchors hasked (KeyMaterial.trustAnchors_iff.mpr hempty), rfl, rfl⟩
        · cases h
  · rintro ⟨i, hi, hrank, rfl⟩
    cases hi with
    | anchor asked anchors accepted rejected =>
      rw [KeyMaterial.trustAnchors_iff] at anchors
      have hfault := List.findSome?_eq_some_iff.mpr ⟨_, _, _, anchors, rejected, accepted⟩
      rw [if_neg (Options.clientAuth_eq_none_iff.not.mpr (not_not_intro asked)), checkAnchors,
        hfault]
      rfl
    | noAnchors asked anchors =>
      rw [KeyMaterial.trustAnchors_iff] at anchors
      rw [if_neg (Options.clientAuth_eq_none_iff.not.mpr (not_not_intro asked)), checkAnchors,
        anchors]
      rfl
    | _ => cases hrank

theorem stage_checkIdentity :
    Stage (Inconsistent rules options backend keys) (·.error options.cipherList) 3
      (checkIdentity rules keys) := by
  intro e
  rw [checkIdentity]
  constructor
  · intro h
    split at h
    · next fault hfault =>
      cases h
      exact ⟨.identity fault, .identity hfault, rfl, rfl⟩
    · cases h
  · rintro ⟨i, hi, hrank, rfl⟩
    cases hi with
    | identity rejected =>
      rw [rejected]
      rfl
    | _ => cases hrank

theorem clientAnchors_eq_ok {anchors : List Bytes}
    (h : clientAnchors rules options.clientAuth keys.trustAnchors = .ok anchors) :
    (options.AsksClients → keys.TrustAnchors anchors) ∧
      (¬options.AsksClients → anchors = []) := by
  rw [clientAnchors] at h
  split at h
  · next hunasked =>
    cases h
    rw [Options.clientAuth_eq_none_iff] at hunasked
    exact ⟨fun hasked => absurd hasked hunasked, fun _ => rfl⟩
  · next hasked =>
    rw [Options.clientAuth_eq_none_iff, not_not] at hasked
    refine ⟨fun _ => ?_, fun hunasked => absurd hasked hunasked⟩
    cases hcheck : checkAnchors rules keys.trustAnchors with
    | error e =>
      rw [hcheck] at h
      cases h
    | ok =>
      rw [hcheck] at h
      cases h
      exact KeyMaterial.trustAnchors_iff.mpr rfl

theorem reports_build :
    Reports (Inconsistent rules options backend keys) (·.error options.cipherList) 0
      (build rules options backend keys).result := by
  rw [build, Noted.result_andThen]
  refine stage_select.followed fun suites hsuites => ?_
  rw [select_eq_ok hsuites]
  refine stage_checkVersions.followed fun _ _ => ?_
  refine stage_clientAnchors.followed fun anchors _ => ?_
  exact stage_checkIdentity.followed fun _ _ => reports_ok _

theorem fits_build {config : ServerConfig}
    (h : (build rules options backend keys).result = .ok config) :
    Fits options backend keys config := by
  rw [build, Noted.result_andThen, bind_eq_ok] at h
  obtain ⟨suites, hsuites, h⟩ := h
  rw [assemble, bind_eq_ok] at h
  obtain ⟨_, _, h⟩ := h
  rw [bind_eq_ok] at h
  obtain ⟨anchors, hanchors, h⟩ := h
  rw [bind_eq_ok] at h
  obtain ⟨_, _, h⟩ := h
  cases h
  obtain ⟨hasked, hunasked⟩ := clientAnchors_eq_ok hanchors
  exact {
    suites := select_eq_ok hsuites
    versions := fun _ => Options.mem_versions_iff
    groups := rfl
    mandatory := Options.clientAuth_eq_require_iff
    unasked := Options.clientAuth_eq_none_iff
    anchors := hasked
    noAnchors := hunasked
    identity := ⟨rfl, rfl⟩ }

theorem judgement_build :
    Judgement rules options backend keys (build rules options backend keys).result where
  fails e := by simpa only [Nat.zero_le, true_and, true_implies, First] using reports_build e
  makes := reports_build.ok_iff
  fits _ := fits_build

/-- As long as no client is asked for a certificate, what the anchors are and what they are worth
makes no difference. -/
theorem build_ignores_anchors (h : ¬options.AsksClients) (fault? : Bytes → Option ProtocolError)
    (anchors : Option (List Bytes)) :
    build { rules with anchorFault? := fault? } options backend { keys with anchors } =
      build rules options backend keys := by
  rw [← Options.clientAuth_eq_none_iff] at h
  simp only [build, assemble, clientAnchors, h, if_true]
  rfl

end

end ServerConfig

/-! ### Contexts -/

namespace Contexts

open ServerConfig (Judgement judgement_build build_ignores_anchors)

variable {κ : Type}

/-- A command either fails and changes nothing, or it ends with a reply and puts a configuration to
use. -/
def Step.Ends (s : Step κ) (c : Contexts) (reply : Reply κ) (next : ServerConfig → Contexts) :
    Except Error ServerConfig → Prop
  | .error e => s.reply = .failed e ∧ s.contexts = c
  | .ok config => s.reply = reply ∧ s.contexts = next config

/-- The contexts with another snapshot in a slot. -/
def renew (c : Contexts) (slot : Nat) (config : ServerConfig) : Contexts :=
  { c with slots := c.slots.set slot ⟨c.built, config⟩, built := c.built + 1 }

theorem ends_new {env : Environment κ} {options : Options} {backend : BackendChoice}
    (h : (env.library.choose (prefersNative env options)).result = .ok backend) (c : Contexts)
    (keys : KeyMaterial) :
    (step env c (.new options keys)).Ends c (.context c.contexts.length) (c.add options backend)
      (ServerConfig.build env.rules options backend keys).result := by
  have hprepare : (prepare env options keys).result =
      (ServerConfig.build env.rules options backend keys).result.map (backend, ·) := by
    rw [prepare, Noted.result_andThen_ok h]
    cases hbuild : (ServerConfig.build env.rules options backend keys).result with
    | error e => exact Noted.result_andThen_error hbuild _
    | ok config => exact Noted.result_andThen_ok hbuild _
  rw [step]
  cases hbuild : (ServerConfig.build env.rules options backend keys).result with
  | error e =>
    rw [hbuild] at hprepare
    simp only [hprepare, Except.map, Step.Ends, and_self]
  | ok config =>
    rw [hbuild] at hprepare
    simp only [hprepare, Except.map, Step.Ends, and_self]

theorem ends_reload {env : Environment κ} {c : Contexts} {i : Nat} {context : Context}
    (h : c.contexts[i]? = some context) (keys : KeyMaterial) :
    (step env c (.reload i keys)).Ends c .reloaded (c.renew context.slot)
      (ServerConfig.build env.rules context.options context.backend keys).result := by
  rw [step, h]
  cases hbuild : (ServerConfig.build env.rules context.options context.backend keys).result with
  | error e => simp only [hbuild, Step.Ends, and_self]
  | ok config => simp only [hbuild, Step.Ends, renew, and_self]

/-- Building accepts exactly the consistent configurations and reports the first inconsistency: that
the cipher list selects nothing, then that no selected suite is of a version of the policy, then, if
clients are asked for certificates, a trust anchor that is rejected or that there is none, and last
what is wrong with the identity of the server. A context that is made on a backend and one that is
reloaded come to just that. If clients are asked for nothing, no trust anchor is looked at. -/
theorem first_inconsistency_reported (env : Environment κ) :
    (∀ rules options backend keys, Judgement rules options backend keys
      (ServerConfig.build rules options backend keys).result) ∧
    (∀ c options backend keys,
      (env.library.choose (prefersNative env options)).result = .ok backend →
        ∃ result, Judgement env.rules options backend keys result ∧
          (step env c (.new options keys)).Ends c (.context c.contexts.length)
            (c.add options backend) result) ∧
    (∀ c i context keys, c.contexts[i]? = some context →
      ∃ result, Judgement env.rules context.options context.backend keys result ∧
        (step env c (.reload i keys)).Ends c .reloaded (c.renew context.slot) result) ∧
    ∀ rules options backend keys fault? anchors, ¬options.AsksClients →
      ServerConfig.build { rules with anchorFault? := fault? } options backend
          { keys with anchors } =
        ServerConfig.build rules options backend keys := by
  refine ⟨fun _ _ _ _ => judgement_build, ?_, ?_, ?_⟩
  · intro c options backend keys hchosen
    exact ⟨_, judgement_build, ends_new hchosen c keys⟩
  · intro c i context keys hcontext
    exact ⟨_, judgement_build, ends_reload hcontext keys⟩
  · intro rules options backend keys fault? anchors hunasked
    exact build_ignores_anchors hunasked fault? anchors

/-- Three things are wrong with a new context: only a suite of TLS 1.3 is selected, which the policy
does not enable; clients have to show a certificate and the list of anchors is empty; the key is not
accepted. It is told of the first; a context that enables TLS 1.3 is told of the second when it is
reloaded with the same keys, although the chain would have been an anchor. -/
theorem first_inconsistency_reported_of_three :
    let rules : CertificateRules :=
      ⟨fun _ => none, fun _ key => if key = [] then some (.general "no key") else none⟩
    let env : Environment Unit := ⟨.standard, none, rules, fun _ _ => .ok ()⟩
    let options : Options := { verifyMode := 2, cipherList := some "tls_aes_128_gcm_sha256" }
    let backend : BackendChoice := ⟨"ring", false, CipherSuite.standard⟩
    let keys : KeyMaterial := ⟨[[1]], [], some []⟩
    let enabling : Contexts := ⟨[⟨{ options with enableTls13 := true }, backend, 0⟩], [], 0, 0⟩
    (env.library.choose (prefersNative env options)).result = .ok backend ∧
      (step env {} (.new options keys)).reply =
        .failed (.tls (.general "no usable cipher suites configured")) ∧
      (step env enabling (.reload 0 keys)).reply = .failed (.clientVerifier .noTrustAnchors) ∧
      (step env enabling (.reload 0 keys)).contexts = enabling := by
  intro rules env options backend keys enabling
  obtain ⟨-, hnew, hreload, -⟩ := first_inconsistency_reported env
  have hchosen : (env.library.choose (prefersNative env options)).result = .ok backend := rfl
  have honly : ∀ suite ∈ CipherSuite.standard, CipherSuite.Requests options.cipherList suite.name →
      suite.version = .tls13 := by decide
  obtain ⟨suite, hsuite, hname⟩ : ∃ suite ∈ CipherSuite.standard,
      CipherSuite.Requests options.cipherList suite.name := by decide
  have hversion := honly suite hsuite hname
  refine ⟨hchosen, ?_, ?_⟩
  · obtain ⟨result, hjudged, hends⟩ := hnew {} options backend keys hchosen
    have hunspoken : ServerConfig.Inconsistent rules options backend keys .versions := by
      refine .versions fun other hother hselects version hspeaks => ?_
      rw [honly other hother (hselects ⟨_, hname⟩)]
      cases version with
      | tls12 => decide
      | tls13 => cases hspeaks
      | tls10 | tls11 => decide
    have hfirst : ServerConfig.First rules options backend keys .versions := by
      refine ⟨hunspoken, fun j hj => ?_⟩
      cases hj with
      | cipherList _ unselected => exact absurd hname (unselected suite hsuite)
      | versions | anchor | noAnchors | identity => simp [ServerConfig.Inconsistency.rank]
    rw [(hjudged.fails _).mpr ⟨_, hfirst, rfl⟩] at hends
    exact hends.1
  · obtain ⟨result, hjudged, hends⟩ := hreload enabling 0 _ keys rfl
    have hempty : ServerConfig.Inconsistent rules { options with enableTls13 := true } backend keys
        .noAnchors := .noAnchors (.inr (by decide)) (.inl rfl)
    have hfirst : ServerConfig.First rules { options with enableTls13 := true } backend keys
        .noAnchors := by
      refine ⟨hempty, fun j hj => ?_⟩
      cases hj with
      | cipherList _ unselected => exact absurd hname (unselected suite hsuite)
      | versions unspoken =>
        refine absurd ?_ (unspoken suite hsuite (fun _ => hname) .tls13 rfl)
        rw [hversion]
        rfl
      | anchor | noAnchors | identity => simp [ServerConfig.Inconsistency.rank]
    rw [(hjudged.fails _).mpr ⟨_, hfirst, rfl⟩] at hends
    exact hends

end Contexts

end RecordLayer
