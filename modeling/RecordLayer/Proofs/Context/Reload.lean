import RecordLayer.Proofs.Context.Families
import RecordLayer.Proofs.Loopback.Reloads

/-!
# Reloading is isolated

A reload reaches the family of its context and nothing else: no other family, nothing that was
obtained earlier, and nobody at all when the key material is rejected.

* `Account` relates the past to the contexts of a process and their slots; `account_step` keeps it;
* `Account.configured_iff`: what the past demands of a family is what its slot has;
* `reload_isolated` is about all histories.
-/

namespace RecordLayer.Contexts

variable {κ : Type} {env : Environment κ} {past past' : Past κ} {c c' : Contexts}

/-! ### The account -/

/-- The slot of a context has what the last delivery to its family was built into. -/
def Holds (env : Environment κ) (past : Past κ) (c : Contexts) (i : Nat) (a : Context) : Prop :=
  ∃ s keys, c.slots[a.slot]? = some s ∧
    Latest (Shares past i) (deliveries past) s.serial keys ∧
    (ServerConfig.build env.rules a.options a.backend keys).result = .ok s.config

structure Account (env : Environment κ) (past : Past κ) (c : Contexts) : Prop where
  lineage : Lineage env past c
  sessions : c.sessions = started past
  built : c.built = (deliveries past).length
  holds : ∀ {i : Nat} {a : Context}, c.contexts[i]? = some a → Holds env past c i a

theorem account_nil : Account env [] {} where
  lineage := lineage_nil
  sessions := rfl
  built := rfl
  holds h := nomatch (List.getElem?_nil.symm.trans h)

/-- New contexts do not change which delivery was the last to a family. -/
theorem Lineage.latest_grown (h : Lineage env past c) (h' : Lineage env past' c')
    (hgrown : c.contexts <+: c'.contexts) {i : Nat} {a : Context} (hi : c.contexts[i]? = some a)
    {number : Nat} {keys : KeyMaterial}
    (hlatest : Latest (Shares past i) (deliveries past) number keys) :
    Latest (Shares past' i) (deliveries past) number keys := by
  refine hlatest.congr fun d hd => ?_
  have hcontext := List.getElem?_eq_getElem (h.delivered d hd)
  exact (h.shares_stable h' hgrown hi hcontext).symm

/-- Members of a family have the same last delivery. -/
theorem Latest.of_shares {i j : Nat} (h : Shares past i j) {ds : List Delivery} {number : Nat}
    {keys : KeyMaterial} (hlatest : Latest (Shares past i) ds number keys) :
    Latest (Shares past j) ds number keys :=
  hlatest.congr fun _ _ => ⟨(h.symm _ _).trans _ _ _, h.trans _ _ _⟩

theorem Account.holds_same (h : Account env past c) {command : Command} {step : Step κ}
    (h' : Lineage env (past ++ [(command, step)]) step.contexts)
    (hcontexts : step.contexts.contexts = c.contexts) (hslots : step.contexts.slots = c.slots)
    (hdelivery : delivery? (command, step) = none) {i : Nat} {a : Context}
    (hi : c.contexts[i]? = some a) : Holds env (past ++ [(command, step)]) step.contexts i a := by
  obtain ⟨s, keys, hslot, hlatest, hbuild⟩ := h.holds hi
  have hgrown : c.contexts <+: step.contexts.contexts := hcontexts ▸ List.prefix_rfl
  refine ⟨s, keys, hslots ▸ hslot, ?_, hbuild⟩
  rw [deliveries_concat, hdelivery, Option.toList_none, List.append_nil]
  exact h.lineage.latest_grown h' hgrown hi hlatest

theorem Account.holds_add (h : Account env past c) {options : Options} {keys : KeyMaterial}
    {backend : BackendChoice} {config : ServerConfig} {step : Step κ}
    (hprepared : (prepare env options keys).result = .ok (backend, config))
    (hreply : step.reply = .context c.contexts.length)
    (h' : Lineage env (past ++ [(.new options keys, step)]) (c.add options backend config))
    {i : Nat} {a : Context} (hi : (c.add options backend config).contexts[i]? = some a) :
    Holds env (past ++ [(.new options keys, step)]) (c.add options backend config) i a := by
  have hgrown : c.contexts <+: (c.add options backend config).contexts := List.prefix_append _ _
  have hnew : (c.add options backend config).contexts[c.contexts.length]? =
      some ⟨options, backend, c.slots.length⟩ := List.getElem?_concat_length
  rw [Holds, deliveries_concat, delivery?_new hreply]
  rcases getElem?_concat_cases hi with hold | ⟨rfl, rfl⟩
  · obtain ⟨s, keys', hslot, hlatest, hbuild⟩ := h.holds hold
    have hother : ¬ Shares (past ++ [(.new options keys, step)]) i c.contexts.length := by
      rw [h'.shares_iff hi hnew]
      exact Nat.ne_of_lt (h.lineage.inSlots hold)
    refine ⟨s, keys', ?_, ?_, hbuild⟩
    · exact (List.getElem?_append_left (h.lineage.inSlots hold)).trans hslot
    · exact (h.lineage.latest_grown h' hgrown hold hlatest).concat_other hother
  · have hbuild := (prepare_eq_ok.mp hprepared).2
    refine ⟨⟨c.built, config⟩, keys, List.getElem?_concat_length, ?_, hbuild⟩
    rw [h.built]
    exact latest_concat_self (.refl _)

theorem Account.holds_clone (h : Account env past c) {i : Nat} {context : Context}
    (hcontext : c.contexts[i]? = some context) {step : Step κ}
    (hreply : step.reply = .context c.contexts.length)
    (h' : Lineage env (past ++ [(.clone i, step)]) { c with contexts := c.contexts ++ [context] })
    {k : Nat} {a : Context} (hk : (c.contexts ++ [context])[k]? = some a) :
    Holds env (past ++ [(.clone i, step)]) { c with contexts := c.contexts ++ [context] } k a := by
  have hgrown : c.contexts <+: c.contexts ++ [context] := List.prefix_append _ _
  rw [Holds, deliveries_concat, delivery?_clone, Option.toList_none, List.append_nil]
  rcases getElem?_concat_cases hk with hold | ⟨rfl, rfl⟩
  · obtain ⟨s, keys, hslot, hlatest, hbuild⟩ := h.holds hold
    exact ⟨s, keys, hslot, h.lineage.latest_grown h' hgrown hold hlatest, hbuild⟩
  · obtain ⟨s, keys, hslot, hlatest, hbuild⟩ := h.holds hcontext
    have hshares : Shares (past ++ [(.clone i, step)]) i c.contexts.length :=
      .rel _ _ (cloned_concat.mpr (.inr ⟨rfl, hreply⟩))
    have hlatest' := h.lineage.latest_grown h' hgrown hcontext hlatest
    exact ⟨s, keys, hslot, hlatest'.of_shares hshares, hbuild⟩

theorem Account.holds_reload (h : Account env past c) {i : Nat} {keys : KeyMaterial}
    {context : Context} {config : ServerConfig} (hcontext : c.contexts[i]? = some context)
    (hbuild : (ServerConfig.build env.rules context.options context.backend keys).result =
      .ok config) {step : Step κ} (hreply : step.reply = .reloaded)
    (hstep : step.contexts =
      { c with slots := c.slots.set context.slot ⟨c.built, config⟩, built := c.built + 1 })
    (h' : Lineage env (past ++ [(.reload i keys, step)]) step.contexts)
    {k : Nat} {a : Context} (hk : c.contexts[k]? = some a) :
    Holds env (past ++ [(.reload i keys, step)]) step.contexts k a := by
  have hgrown : c.contexts <+: step.contexts.contexts := hstep ▸ List.prefix_rfl
  have hfamily := h'.shares_iff (getElem?_grown hgrown hk) (getElem?_grown hgrown hcontext)
  rw [Holds, deliveries_concat, delivery?_reload hreply, hstep]
  by_cases hslot : a.slot = context.slot
  · have hsame := h.lineage.shares_eq (h.lineage.joined hk hcontext hslot)
    rw [hk, hcontext] at hsame
    cases hsame
    refine ⟨⟨c.built, config⟩, keys, ?_, ?_, hbuild⟩
    · exact List.getElem?_set_self (h.lineage.inSlots hcontext)
    · rw [h.built]
      exact latest_concat_self (hfamily.mpr hslot)
  · obtain ⟨s, keys', hslots, hlatest, hbuilt⟩ := h.holds hk
    refine ⟨s, keys', ?_, ?_, hbuilt⟩
    · exact (List.getElem?_set_ne (Ne.symm hslot)).trans hslots
    · exact (h.lineage.latest_grown h' hgrown hk hlatest).concat_other (mt hfamily.mp hslot)

theorem started_concat (past : Past κ) (p : Command × Step κ) :
    started (past ++ [p]) = started past + started [p] :=
  List.countP_append

theorem started_idle {command : Command} {step : Step κ} (h : step.reply.acts = false) :
    started [(command, step)] = 0 := by
  cases hreply : step.reply <;> simp_all [started, Reply.acts]

/-- The counters of a process count sessions and deliveries. -/
theorem Does.counts {command : Command} {step : Step κ} (h : Does env c command step) :
    step.contexts.sessions = c.sessions + started [(command, step)] ∧
      step.contexts.built = c.built + (delivery? (command, step)).toList.length := by
  cases h with
  | idle hreply =>
    rw [started_idle hreply, delivery?_idle hreply]
    exact ⟨rfl, rfl⟩
  | _ => exact ⟨rfl, rfl⟩

/-- One more command keeps the account. -/
theorem account_step (h : Account env past c) {command : Command} {step : Step κ}
    (hdoes : Does env c command step) :
    Account env (past ++ [(command, step)]) step.contexts := by
  have h' := lineage_step h.lineage hdoes
  obtain ⟨hsessions, hbuilt⟩ := hdoes.counts
  refine ⟨h', ?_, ?_, ?_⟩
  · rw [started_concat, hsessions, h.sessions]
  · rw [deliveries_concat, List.length_append, hbuilt, h.built]
  · cases hdoes with
    | made hprepared => exact h.holds_add hprepared rfl h'
    | cloned hcontext => exact h.holds_clone hcontext rfl h'
    | served => exact h.holds_same h' rfl rfl rfl
    | replaced hcontext hbuild => exact h.holds_reload hcontext hbuild rfl rfl h'
    | idle hreply => exact h.holds_same h' rfl rfl (delivery?_idle hreply)

theorem account_performed (env : Environment κ) (commands : List Command) :
    Account env (performed env {} commands) (after env {} commands) :=
  performed_invariant env account_nil (fun _ _ _ _ h hdoes => account_step h hdoes) commands

/-! ### What is obtained -/

theorem snapshot_ext {s t : Snapshot} (hserial : s.serial = t.serial)
    (hconfig : s.config = t.config) : s = t := by
  cases s
  cases t
  cases hserial
  cases hconfig
  rfl

/-- What the past demands of a family is what its slot has. -/
theorem Account.configured_iff (h : Account env past c) {i : Nat} {s : Snapshot} :
    Configured env past i s ↔ ∃ a, c.contexts[i]? = some a ∧ c.slots[a.slot]? = some s := by
  rw [h.lineage.configured_iff]
  constructor
  · rintro ⟨a, keys, hi, hlatest, hbuild⟩
    obtain ⟨t, keys', hslot, hlatest', hbuild'⟩ := h.holds hi
    obtain ⟨hserial, rfl⟩ := hlatest.unique hlatest'
    rw [hbuild, Except.ok.injEq] at hbuild'
    rw [snapshot_ext hserial hbuild']
    exact ⟨a, hi, hslot⟩
  · rintro ⟨a, hi, hslot⟩
    obtain ⟨t, keys, hslot', hlatest, hbuild⟩ := h.holds hi
    cases hslot.symm.trans hslot'
    exact ⟨a, keys, hi, hlatest, hbuild⟩

theorem Account.current?_iff (h : Account env past c) {i : Nat} {s : Snapshot} :
    (∃ a, c.current? i = some (a, s)) ↔ Configured env past i s := by
  rw [h.configured_iff]
  simp [current?, Option.bind_eq_some_iff]

theorem Account.snapshot_iff (h : Account env past c) {i : Nat} {s : Snapshot} :
    (step env c (.snapshot i)).reply = .snapshot s ↔ Configured env past i s := by
  rw [← h.current?_iff, Contexts.step]
  cases hcurrent : c.current? i with
  | none => simp
  | some current => simp [Prod.ext_iff]

theorem Account.session_iff (h : Account env past c) {i : Nat} {fresh : κ} :
    (step env c (.server i)).reply = .session fresh ↔
      ∃ s, Configured env past i s ∧ env.connect (started past) s.config = .ok fresh := by
  simp only [← h.current?_iff, ← h.sessions]
  rw [Contexts.step]
  cases hcurrent : c.current? i with
  | none => simp
  | some current =>
    obtain ⟨a, s⟩ := current
    cases hconnect : env.connect c.sessions s.config <;> simp [connect, hconnect]

/-- Every context that was handed out has a configuration. -/
theorem Account.exists_configured (h : Account env past c) {p : Command × Step κ} (hp : p ∈ past)
    {d : Contexts} (hdoes : Does env d p.1 p.2) {i : Nat} (hreply : p.2.reply = .context i) :
    ∃ s, Configured env past i s := by
  have hcontext : ∃ a, c.contexts[i]? = some a := by
    obtain ⟨command, step⟩ := p
    cases hdoes with
    | made hprepared =>
      obtain ⟨a, hi, -⟩ := h.lineage.made ⟨_, hp, _, rfl, hreply⟩
      exact ⟨a, hi⟩
    | cloned horiginal =>
      obtain ⟨a, -, hi⟩ := h.lineage.cloned ⟨_, hp, rfl, hreply⟩
      exact ⟨a, hi⟩
    | served => cases hreply
    | replaced => cases hreply
    | idle hidle =>
      subst hreply
      cases hidle
  obtain ⟨a, hi⟩ := hcontext
  obtain ⟨s, -, hslot, -⟩ := h.holds hi
  exact ⟨s, h.configured_iff.mpr ⟨a, hi, hslot⟩⟩

/-- A snapshot never changes: no other, at that time or later, has its serial number. -/
theorem Account.lasting (h : Account env past c) {more : Past κ}
    (h' : Account env (past ++ more) c') (hgrown : c.contexts <+: c'.contexts) {i j : Nat}
    {s t : Snapshot} (hs : Configured env past i s) (ht : Configured env (past ++ more) j t)
    (hserial : s.serial = t.serial) : s = t := by
  obtain ⟨a, keys, hi, hlatest, hbuild⟩ := h.lineage.configured_iff.mp hs
  obtain ⟨b, keys', hj, hlatest', hbuild'⟩ := h'.lineage.configured_iff.mp ht
  -- one serial number is one delivery
  obtain ⟨x, hx, hshares⟩ := hlatest.getElem?
  obtain ⟨y, hy, hshares'⟩ := hlatest'.getElem?
  have hbefore := (List.getElem?_eq_some_iff.mp hx).1
  rw [← hserial, deliveries_append, List.getElem?_append_left hbefore, hx] at hy
  cases hy
  -- so both contexts are of one family, and have one policy
  have hfamily : Shares (past ++ more) i j :=
    (shares_append past more hshares).trans _ _ _ (hshares'.symm _ _)
  have hsame := h'.lineage.shares_eq hfamily
  rw [getElem?_grown hgrown hi, hj] at hsame
  cases hsame
  have hconfig : s.config = t.config := by
    rw [hbuild, Except.ok.injEq] at hbuild'
    exact hbuild'
  exact snapshot_ext hserial hconfig

/-- A reload does not reach contexts of other families. -/
theorem Account.current?_reload (h : Account env past c) {i j : Nat} (hother : ¬ Shares past i j)
    (keys : KeyMaterial) :
    (step env c (.reload i keys)).contexts.current? j = c.current? j ∧
      (step env c (.reload i keys)).contexts.sessions = c.sessions := by
  have hdoes := does_step env c (.reload i keys)
  generalize step env c (.reload i keys) = reloaded at hdoes ⊢
  cases hdoes with
  | idle => exact ⟨rfl, rfl⟩
  | @replaced _ _ context config _ hcontext _ =>
    refine ⟨?_, rfl⟩
    cases hj : c.contexts[j]? with
    | none => simp [current?, hj]
    | some b =>
      have hslot : context.slot ≠ b.slot := mt (h.lineage.shares_iff hcontext hj).mpr hother
      simp [current?, hj, List.getElem?_set_ne hslot]

/-- What is obtained from a context depends on its snapshot alone. -/
theorem reply_of_current {d : Contexts} {j : Nat} (hcurrent : d.current? j = c.current? j)
    (hsessions : d.sessions = c.sessions) :
    (step env d (.snapshot j)).reply = (step env c (.snapshot j)).reply ∧
      (step env d (.server j)).reply = (step env c (.server j)).reply := by
  simp only [step, hcurrent, connect, hsessions]
  cases c.current? j with
  | none => exact ⟨rfl, rfl⟩
  | some current =>
    refine ⟨rfl, ?_⟩
    cases hconnect : env.connect c.sessions current.2.config <;> simp [hconnect]

/-! ### All histories -/

/-- After every history, what is obtained next from a context carries the configuration that the
last successful delivery to its family was built into, and from then on:

* every context that was handed out has such a configuration, and snapshots and sessions are exactly
  of it;
* whatever is obtained later, a snapshot with the same serial number is the same snapshot, and a
  connection in use goes on as if there were no reloads;
* what fails, reloads among it, leaves all contexts and slots as they are;
* contexts keep their policy and their backend;
* a reload changes nothing about what is obtained from contexts of other families. -/
theorem reload_isolated (env : Environment κ) (commands : List Command) :
    let past := performed env {} commands
    let c := after env {} commands
    (∀ p ∈ past, ∀ i, p.2.reply = .context i → ∃ s, Configured env past i s) ∧
    (∀ i s, (step env c (.snapshot i)).reply = .snapshot s ↔ Configured env past i s) ∧
    (∀ i fresh, (step env c (.server i)).reply = .session fresh ↔
      ∃ s, Configured env past i s ∧ env.connect (started past) s.config = .ok fresh) ∧
    (∀ later i j s t, Configured env past i s →
      Configured env (performed env {} (commands ++ later)) j t → s.serial = t.serial → s = t) ∧
    (∀ (S : Loopback.Setting κ) (s : Loopback.Session κ) work, .newServer ∉ work →
      Loopback.Session.answers S s work =
        Loopback.Session.answers S s (work.filter fun command => !command.reloads)) ∧
    (∀ command e, (step env c command).reply = .failed e →
      after env {} (commands ++ [command]) = c) ∧
    (∀ later (i : Nat) a, c.contexts[i]? = some a →
      (after env {} (commands ++ later)).contexts[i]? = some a) ∧
    ∀ i j keys, ¬ Shares past i j →
      let reloaded := after env {} (commands ++ [.reload i keys])
      (step env reloaded (.snapshot j)).reply = (step env c (.snapshot j)).reply ∧
        (step env reloaded (.server j)).reply = (step env c (.server j)).reply := by
  intro past c
  have h : Account env past c := account_performed env commands
  refine ⟨?_, fun i s => h.snapshot_iff, fun i fresh => h.session_iff, ?_, ?_, ?_, ?_, ?_⟩
  · intro p hp i hreply
    obtain ⟨d, hdoes⟩ := does_of_mem_performed hp
    exact h.exists_configured hp hdoes hreply
  · intro later i j s t hs ht hserial
    have h' := account_performed env (commands ++ later)
    rw [performed_append, after_append] at h'
    rw [performed_append] at ht
    exact h.lasting h' (contexts_grown env c later) hs ht hserial
  · intro S s work hwork
    exact (Loopback.Session.reloads_unnoticed S s hwork).1
  · intro command e hreply
    rw [after_append]
    exact (does_step env c command).unchanged (hreply ▸ rfl)
  · intro later i a hi
    rw [after_append]
    exact getElem?_grown (contexts_grown env c later) hi
  · intro i j keys hother
    rw [after_append]
    obtain ⟨hcurrent, hsessions⟩ := h.current?_reload hother keys
    exact reply_of_current hcurrent hsessions

/-- Two families, the first of two contexts. Of two reloads on the clone one is rejected; the other
one reaches the original, and not the other family. -/
theorem reload_isolated_two_families :
    let env : Environment (Nat × Bytes) :=
      { library := .standard
        flag := none
        rules :=
          { anchorFault? := fun _ => none
            identityFault? := fun chain key =>
              if chain = [key] then none else some (.general "keys may not be consistent") }
        connect := fun number config => .ok (number, config.key) }
    let options : Options := { preferNative := some false }
    let commands : List Command :=
      [.new options ⟨[[1]], [1], none⟩, .clone 0, .new options ⟨[[2]], [2], none⟩,
        .reload 1 ⟨[[3]], [4], none⟩, .reload 1 ⟨[[5]], [5], none⟩]
    let backend : BackendChoice := ⟨"ring", false, CipherSuite.standard⟩
    let config (key : Bytes) : ServerConfig :=
      { suites := CipherSuite.standard
        versions := [.tls12]
        groups := backend.groups
        clientAuth := .none
        anchors := []
        chain := [key]
        key }
    let past := performed env {} commands
    Configured env past 0 ⟨2, config [5]⟩ ∧ Configured env past 2 ⟨1, config [2]⟩ := by
  intro env options commands backend config past
  obtain ⟨-, hsnapshot, -⟩ := reload_isolated env commands
  have hfirst : (after env {} commands).current? 0 =
      some (⟨options, backend, 0⟩, ⟨2, config [5]⟩) := by decide
  have hsecond : (after env {} commands).current? 2 =
      some (⟨options, backend, 1⟩, ⟨1, config [2]⟩) := by decide
  constructor
  · exact (hsnapshot 0 _).mp (by simp only [step, hfirst])
  · exact (hsnapshot 2 _).mp (by simp only [step, hsecond])

end RecordLayer.Contexts
