import RecordLayer.Proofs.Context.History

/-!
# Families and slots

Two contexts are of one family when cloning connects them, and they have one slot when the process
gave them the same. Both come to the same: a new context has a slot of its own, and a clone has the
slot of its original.

* `Lineage` relates the past to the contexts of a process, and `lineage_step` keeps it;
* `Lineage.shares_iff` is about families and slots, `Lineage.configured_iff` about policies;
* `Lineage.shares_stable`: no later command connects what was apart.
-/

namespace RecordLayer.Contexts

variable {κ : Type} {env : Environment κ} {past : Past κ} {c : Contexts}

/-- What the past says of the contexts of a process. -/
structure Lineage (env : Environment κ) (past : Past κ) (c : Contexts) : Prop where
  inSlots : ∀ {i : Nat} {a : Context}, c.contexts[i]? = some a → a.slot < c.slots.length
  cloned : ∀ {i j : Nat}, Cloned past i j →
    ∃ a, c.contexts[i]? = some a ∧ c.contexts[j]? = some a
  joined : ∀ {i j : Nat} {a b : Context}, c.contexts[i]? = some a → c.contexts[j]? = some b →
    a.slot = b.slot → Shares past i j
  made : ∀ {options : Options} {i : Nat}, Made past options i →
    ∃ a, c.contexts[i]? = some a ∧ a.options = options ∧
      (env.library.choose (prefersNative env options)).result = .ok a.backend
  rooted : ∀ {i : Nat} {a : Context}, c.contexts[i]? = some a →
    ∃ options root, Shares past i root ∧ Made past options root
  delivered : ∀ d ∈ deliveries past, d.context < c.contexts.length

/-! ### What follows -/

theorem Lineage.shares_eq (h : Lineage env past c) {i j : Nat} (hshares : Shares past i j) :
    c.contexts[i]? = c.contexts[j]? := by
  induction hshares with
  | rel i j hcloned =>
    obtain ⟨a, hi, hj⟩ := h.cloned hcloned
    rw [hi, hj]
  | refl i => rfl
  | symm i j _ ih => exact ih.symm
  | trans i j k _ _ ih ih' => exact ih.trans ih'

/-- Families are slots. -/
theorem Lineage.shares_iff (h : Lineage env past c) {i j : Nat} {a b : Context}
    (hi : c.contexts[i]? = some a) (hj : c.contexts[j]? = some b) :
    Shares past i j ↔ a.slot = b.slot := by
  refine ⟨fun hshares => ?_, h.joined hi hj⟩
  have hsame := h.shares_eq hshares
  rw [hi, hj] at hsame
  rw [Option.some.inj hsame]

/-- A context has the policy that its family was made with, and the backend chosen for that. -/
theorem Lineage.policy (h : Lineage env past c) {i root : Nat} {options : Options}
    (hshares : Shares past i root) (hmade : Made past options root) :
    ∃ a, c.contexts[i]? = some a ∧ a.options = options ∧
      (env.library.choose (prefersNative env options)).result = .ok a.backend := by
  obtain ⟨a, hroot, hpolicy⟩ := h.made hmade
  exact ⟨a, (h.shares_eq hshares).trans hroot, hpolicy⟩

/-- What the past demands of a context, said of the context itself. -/
theorem Lineage.configured_iff (h : Lineage env past c) {i : Nat} {s : Snapshot} :
    Configured env past i s ↔
      ∃ a keys, c.contexts[i]? = some a ∧
        Latest (Shares past i) (deliveries past) s.serial keys ∧
        (ServerConfig.build env.rules a.options a.backend keys).result = .ok s.config := by
  constructor
  · rintro ⟨options, backend, keys, ⟨root, hshares, hmade⟩, hchosen, hlatest, hbuild⟩
    obtain ⟨a, hi, rfl, hbackend⟩ := h.policy hshares hmade
    rw [hchosen] at hbackend
    cases hbackend
    exact ⟨a, keys, hi, hlatest, hbuild⟩
  · rintro ⟨a, keys, hi, hlatest, hbuild⟩
    obtain ⟨options, root, hshares, hmade⟩ := h.rooted hi
    obtain ⟨b, hi', rfl, hbackend⟩ := h.policy hshares hmade
    rw [hi] at hi'
    cases hi'
    exact ⟨a.options, a.backend, keys, ⟨root, hshares, hmade⟩, hbackend, hlatest, hbuild⟩

theorem getElem?_grown {c c' : Contexts} (h : c.contexts <+: c'.contexts) {i : Nat} {a : Context}
    (hi : c.contexts[i]? = some a) : c'.contexts[i]? = some a := by
  obtain ⟨more, hmore⟩ := h
  have hlt := (List.getElem?_eq_some_iff.mp hi).1
  rw [← hmore, List.getElem?_append_left hlt, hi]

/-- No later command connects what was apart. -/
theorem Lineage.shares_stable (h : Lineage env past c) {past' : Past κ} {c' : Contexts}
    (h' : Lineage env past' c') (hgrown : c.contexts <+: c'.contexts) {i j : Nat} {a b : Context}
    (hi : c.contexts[i]? = some a) (hj : c.contexts[j]? = some b) :
    Shares past' i j ↔ Shares past i j := by
  rw [h.shares_iff hi hj, h'.shares_iff (getElem?_grown hgrown hi) (getElem?_grown hgrown hj)]

/-! ### One command -/

theorem lineage_nil : Lineage env [] {} where
  inSlots h := nomatch (List.getElem?_nil.symm.trans h)
  cloned := fun ⟨_, hp, _⟩ => nomatch hp
  joined h := nomatch (List.getElem?_nil.symm.trans h)
  made := fun ⟨_, hp, _⟩ => nomatch hp
  rooted h := nomatch (List.getElem?_nil.symm.trans h)
  delivered _ hd := nomatch hd

/-- A command that hands out no context leaves families and policies as they are. -/
theorem Lineage.same_contexts (h : Lineage env past c) {command : Command} {step : Step κ}
    (hreply : ∀ i, step.reply ≠ .context i) (hcontexts : step.contexts.contexts = c.contexts)
    (hslots : step.contexts.slots.length = c.slots.length)
    (hdelivered : ∀ d ∈ delivery? (command, step), d.context < c.contexts.length) :
    Lineage env (past ++ [(command, step)]) step.contexts := by
  have hcloned : ∀ {i j}, Cloned (past ++ [(command, step)]) i j → Cloned past i j := by
    intro i j hcloned
    exact (cloned_concat.mp hcloned).resolve_right fun hlast => hreply j hlast.2
  have hmade : ∀ {options i}, Made (past ++ [(command, step)]) options i → Made past options i := by
    intro options i hmade
    exact (made_concat.mp hmade).resolve_right fun ⟨_, hlast⟩ => hreply i hlast.2
  refine ⟨?inSlots, ?cloned, ?joined, ?made, ?rooted, ?delivered⟩
  case inSlots =>
    rw [hcontexts, hslots]
    exact h.inSlots
  case cloned =>
    rw [hcontexts]
    exact fun hlast => h.cloned (hcloned hlast)
  case joined =>
    rw [hcontexts]
    exact fun hi hj hslot => shares_append past _ (h.joined hi hj hslot)
  case made =>
    rw [hcontexts]
    exact fun hlast => h.made (hmade hlast)
  case rooted =>
    rw [hcontexts]
    intro i a hi
    obtain ⟨options, root, hshares, hroot⟩ := h.rooted hi
    exact ⟨options, root, shares_append past _ hshares, made_concat.mpr (.inl hroot)⟩
  case delivered =>
    rw [hcontexts, deliveries_concat]
    intro d hd
    rcases List.mem_append.mp hd with hearlier | hlast
    · exact h.delivered d hearlier
    · exact hdelivered d (Option.mem_toList.mp hlast)

/-- A context that comes last. -/
theorem getElem?_concat_cases {xs : List Context} {a b : Context} {i : Nat}
    (h : (xs ++ [b])[i]? = some a) : xs[i]? = some a ∨ i = xs.length ∧ a = b := by
  have hlt := (List.getElem?_eq_some_iff.mp h).1
  rw [List.length_append, List.length_singleton] at hlt
  rcases Nat.lt_or_eq_of_le (Nat.le_of_lt_succ hlt) with hbefore | rfl
  · rw [List.getElem?_append_left hbefore] at h
    exact .inl h
  · rw [List.getElem?_concat_length] at h
    exact .inr ⟨rfl, (Option.some.inj h).symm⟩

/-- A new context starts a family. -/
theorem Lineage.add (h : Lineage env past c) {options : Options} {keys : KeyMaterial}
    {backend : BackendChoice} {config : ServerConfig}
    (hprepared : (prepare env options keys).result = .ok (backend, config)) {step : Step κ}
    (hreply : step.reply = .context c.contexts.length) :
    Lineage env (past ++ [(.new options keys, step)]) (c.add options backend config) := by
  have hgrown : c.contexts <+: (c.add options backend config).contexts :=
    List.prefix_append _ _
  have hnew : (c.add options backend config).contexts[c.contexts.length]? =
      some ⟨options, backend, c.slots.length⟩ := List.getElem?_concat_length
  have hlength : (c.add options backend config).slots.length = c.slots.length + 1 :=
    List.length_append
  refine ⟨?inSlots, ?cloned, ?joined, ?made, ?rooted, ?delivered⟩
  case inSlots =>
    intro i a hi
    rw [hlength]
    rcases getElem?_concat_cases hi with hold | ⟨-, rfl⟩
    · exact Nat.lt_succ_of_lt (h.inSlots hold)
    · exact Nat.lt_succ_self _
  case cloned =>
    intro i j hcloned
    rcases cloned_concat.mp hcloned with hold | ⟨hclone, -⟩
    · obtain ⟨a, hi, hj⟩ := h.cloned hold
      exact ⟨a, getElem?_grown hgrown hi, getElem?_grown hgrown hj⟩
    · cases hclone
  case joined =>
    intro i j a b hi hj hslot
    rcases getElem?_concat_cases hi with hold | ⟨rfl, rfl⟩
    · rcases getElem?_concat_cases hj with hold' | ⟨rfl, rfl⟩
      · exact shares_append past _ (h.joined hold hold' hslot)
      · exact absurd hslot (Nat.ne_of_lt (h.inSlots hold))
    · rcases getElem?_concat_cases hj with hold' | ⟨rfl, rfl⟩
      · exact absurd hslot.symm (Nat.ne_of_lt (h.inSlots hold'))
      · exact .refl _
  case made =>
    intro options' i hmade
    rcases made_concat.mp hmade with hold | ⟨keys', hcommand, hreply'⟩
    · obtain ⟨a, hi, hpolicy⟩ := h.made hold
      exact ⟨a, getElem?_grown hgrown hi, hpolicy⟩
    · cases hcommand
      cases hreply.symm.trans hreply'
      exact ⟨_, hnew, rfl, (prepare_eq_ok.mp hprepared).1⟩
  case rooted =>
    intro i a hi
    rcases getElem?_concat_cases hi with hold | ⟨rfl, rfl⟩
    · obtain ⟨options', root, hshares, hroot⟩ := h.rooted hold
      exact ⟨options', root, shares_append past _ hshares, made_concat.mpr (.inl hroot)⟩
    · exact ⟨options, c.contexts.length, .refl _, made_concat.mpr (.inr ⟨keys, rfl, hreply⟩)⟩
  case delivered =>
    intro d hd
    have hcount : (c.add options backend config).contexts.length = c.contexts.length + 1 :=
      List.length_append
    rw [deliveries_concat, delivery?_new hreply] at hd
    rw [hcount]
    rcases List.mem_append.mp hd with hold | hlast
    · exact Nat.lt_succ_of_lt (h.delivered d hold)
    · rw [List.mem_singleton.mp hlast]
      exact Nat.lt_succ_self _

/-- A clone joins the family of its original. -/
theorem Lineage.clone (h : Lineage env past c) {i : Nat} {context : Context}
    (hcontext : c.contexts[i]? = some context) {step : Step κ}
    (hreply : step.reply = .context c.contexts.length) :
    Lineage env (past ++ [(.clone i, step)]) { c with contexts := c.contexts ++ [context] } := by
  have hgrown : c.contexts <+: c.contexts ++ [context] := List.prefix_append _ _
  have hnew : (c.contexts ++ [context])[c.contexts.length]? = some context :=
    List.getElem?_concat_length
  -- each context is of the family of one that was there before, and equal to it
  have hbefore : ∀ {k : Nat} {a : Context}, (c.contexts ++ [context])[k]? = some a →
      ∃ k', c.contexts[k']? = some a ∧ Shares (past ++ [(.clone i, step)]) k k' := by
    intro k a hk
    rcases getElem?_concat_cases hk with hold | ⟨rfl, rfl⟩
    · exact ⟨k, hold, .refl _⟩
    · exact ⟨i, hcontext, .symm _ _ (.rel _ _ (cloned_concat.mpr (.inr ⟨rfl, hreply⟩)))⟩
  refine ⟨?inSlots, ?cloned, ?joined, ?made, ?rooted, ?delivered⟩
  case inSlots =>
    intro k a hk
    obtain ⟨k', hk', -⟩ := hbefore hk
    exact h.inSlots hk'
  case cloned =>
    intro k j hcloned
    rcases cloned_concat.mp hcloned with hold | ⟨hclone, hreply'⟩
    · obtain ⟨a, hk, hj⟩ := h.cloned hold
      exact ⟨a, getElem?_grown hgrown hk, getElem?_grown hgrown hj⟩
    · cases hclone
      cases hreply.symm.trans hreply'
      exact ⟨context, getElem?_grown hgrown hcontext, hnew⟩
  case joined =>
    intro k j a b hk hj hslot
    obtain ⟨k', hk', hshares⟩ := hbefore hk
    obtain ⟨j', hj', hshares'⟩ := hbefore hj
    have hjoined := shares_append past [(.clone i, step)] (h.joined hk' hj' hslot)
    exact hshares.trans _ _ _ (hjoined.trans _ _ _ (hshares'.symm _ _))
  case made =>
    intro options k hmade
    rcases made_concat.mp hmade with hold | ⟨keys, hcommand, -⟩
    · obtain ⟨a, hk, hpolicy⟩ := h.made hold
      exact ⟨a, getElem?_grown hgrown hk, hpolicy⟩
    · cases hcommand
  case rooted =>
    intro k a hk
    obtain ⟨k', hk', hshares⟩ := hbefore hk
    obtain ⟨options, root, hshares', hroot⟩ := h.rooted hk'
    exact ⟨options, root, hshares.trans _ _ _ (shares_append past _ hshares'),
      made_concat.mpr (.inl hroot)⟩
  case delivered =>
    intro d hd
    rw [deliveries_concat, delivery?_clone, Option.toList_none, List.append_nil] at hd
    exact Nat.lt_of_lt_of_le (h.delivered d hd) hgrown.length_le

/-- One more command keeps the lineage. -/
theorem lineage_step (h : Lineage env past c) {command : Command} {step : Step κ}
    (hdoes : Does env c command step) :
    Lineage env (past ++ [(command, step)]) step.contexts := by
  cases hdoes with
  | made hprepared => exact h.add hprepared rfl
  | cloned hcontext => exact h.clone hcontext rfl
  | served => exact h.same_contexts nofun rfl rfl nofun
  | replaced hcontext hbuild =>
    refine h.same_contexts nofun rfl List.length_set ?_
    intro d hd
    cases hd
    exact (List.getElem?_eq_some_iff.mp hcontext).1
  | @idle _ _ reply hreply =>
    have hnone : ∀ i, reply ≠ .context i := by
      rintro i rfl
      cases hreply
    refine h.same_contexts hnone rfl rfl ?_
    rw [delivery?_idle hreply]
    exact nofun

end RecordLayer.Contexts
