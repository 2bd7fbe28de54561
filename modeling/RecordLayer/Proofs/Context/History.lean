import Mathlib.Logic.Relation
import RecordLayer.Context
import RecordLayer.Proofs.Runs

/-!
# Histories of contexts

The past of a process is the list of the commands on its contexts, each with what it did. Which
contexts belong together, and which key material they were given, is read off the past alone: slots
are not seen from outside.

* `Does` is what one command can do, read off `step` once;
* `Shares` is what cloning makes: the contexts of a family;
* `deliveries` are the key materials that were taken, and `Latest` is the last one to a family;
* `Configured` says which snapshot a family has to have.
-/

namespace RecordLayer.Contexts

variable {κ : Type}

/-! ### What one command does -/

/-- The reply of a command that changed something. -/
def Reply.acts : Reply κ → Bool
  | .context _ | .reloaded | .session _ => true
  | .snapshot _ | .failed _ | .noSuchContext => false

/-- What a command can come to. Whatever fails leaves all contexts as they are. -/
inductive Does (env : Environment κ) (c : Contexts) : Command → Step κ → Prop
  | made {options : Options} {keys : KeyMaterial} {backend : BackendChoice} {config : ServerConfig}
    {notices : List Notice} (h : (prepare env options keys).result = .ok (backend, config)) :
    Does env c (.new options keys)
      ⟨c.add options backend config, notices, .context c.contexts.length⟩
  | cloned {i : Nat} {context : Context} (h : c.contexts[i]? = some context) :
    Does env c (.clone i)
      ⟨{ c with contexts := c.contexts ++ [context] }, [], .context c.contexts.length⟩
  | served {i : Nat} {fresh : κ} :
    Does env c (.server i) ⟨{ c with sessions := c.sessions + 1 }, [], .session fresh⟩
  | replaced {i : Nat} {keys : KeyMaterial} {context : Context} {config : ServerConfig}
    {notices : List Notice} (h : c.contexts[i]? = some context)
    (hbuild : (ServerConfig.build env.rules context.options context.backend keys).result =
      .ok config) :
    Does env c (.reload i keys)
      ⟨{ c with slots := c.slots.set context.slot ⟨c.built, config⟩, built := c.built + 1 },
        notices, .reloaded⟩
  | idle {command : Command} {notices : List Notice} {reply : Reply κ} (h : reply.acts = false) :
    Does env c command ⟨c, notices, reply⟩

theorem does_step (env : Environment κ) (c : Contexts) (command : Command) :
    Does env c command (step env c command) := by
  cases command with
  | new options keys =>
    rw [step]
    cases hprepared : (prepare env options keys).result with
    | error e => exact .idle rfl
    | ok prepared => exact .made hprepared
  | clone i =>
    rw [step]
    cases hcontext : c.contexts[i]? with
    | none => exact .idle rfl
    | some context => exact .cloned hcontext
  | server i =>
    rw [step]
    cases hcurrent : c.current? i with
    | none => exact .idle rfl
    | some current =>
      simp only [connect]
      cases env.connect c.sessions current.2.config with
      | error e => exact .idle rfl
      | ok fresh => exact .served
  | reload i keys =>
    rw [step]
    cases hcontext : c.contexts[i]? with
    | none => exact .idle rfl
    | some context =>
      cases hbuild : (ServerConfig.build env.rules context.options context.backend keys).result with
      | error e =>
        simp only [hbuild]
        exact .idle rfl
      | ok config =>
        simp only [hbuild]
        exact .replaced hcontext hbuild
  | snapshot i =>
    rw [step]
    cases c.current? i with
    | none => exact .idle rfl
    | some current => exact .idle rfl

theorem Does.grown {env : Environment κ} {c : Contexts} {command : Command} {step : Step κ}
    (h : Does env c command step) : c.contexts <+: step.contexts.contexts := by
  cases h with
  | made => exact List.prefix_append _ _
  | cloned => exact List.prefix_append _ _
  | served => exact List.prefix_rfl
  | replaced => exact List.prefix_rfl
  | idle => exact List.prefix_rfl

theorem Does.unchanged {env : Environment κ} {c : Contexts} {command : Command} {step : Step κ}
    (h : Does env c command step) (hreply : step.reply.acts = false) : step.contexts = c := by
  cases h with
  | idle => rfl
  | _ => cases hreply

theorem result_andThen_eq_ok {α β : Type} {n : Noted α} {next : α → Noted β} {b : β} :
    (n.andThen next).result = .ok b ↔ ∃ a, n.result = .ok a ∧ (next a).result = .ok b := by
  cases h : n.result with
  | ok a => simp [h]
  | error e => simp [h]

/-- What a new context needs: a backend, and a configuration on it. -/
theorem prepare_eq_ok {env : Environment κ} {options : Options} {keys : KeyMaterial}
    {backend : BackendChoice} {config : ServerConfig} :
    (prepare env options keys).result = .ok (backend, config) ↔
      (env.library.choose (prefersNative env options)).result = .ok backend ∧
        (ServerConfig.build env.rules options backend keys).result = .ok config := by
  simp only [prepare, result_andThen_eq_ok, Noted.result_after, Noted.ok, Except.ok.injEq,
    Prod.mk.injEq]
  constructor
  · rintro ⟨_, hchosen, _, hbuilt, rfl, rfl⟩
    exact ⟨hchosen, hbuilt⟩
  · rintro ⟨hchosen, hbuilt⟩
    exact ⟨backend, hchosen, config, hbuilt, rfl, rfl⟩

/-! ### The past -/

/-- A past: commands with what they did. -/
abbrev Past (κ : Type) : Type :=
  List (Command × Step κ)

/-- The contexts after a history. -/
def after (env : Environment κ) (c : Contexts) (commands : List Command) : Contexts :=
  Runs.after (step env) Step.contexts c commands

def performed (env : Environment κ) (c : Contexts) (commands : List Command) : Past κ :=
  commands.zip (history env c commands)

theorem performed_eq (env : Environment κ) (c : Contexts) (commands : List Command) :
    performed env c commands = Runs.performed (step env) Step.contexts c commands :=
  Runs.zip_eq_performed _ _ (fun _ _ _ => rfl) c commands

theorem performed_append (env : Environment κ) (c : Contexts) (earlier later : List Command) :
    performed env c (earlier ++ later) =
      performed env c earlier ++ performed env (after env c earlier) later := by
  simp only [performed_eq]
  exact Runs.performed_append _ _ c earlier later

theorem after_append (env : Environment κ) (c : Contexts) (earlier later : List Command) :
    after env c (earlier ++ later) = after env (after env c earlier) later :=
  Runs.after_append _ _ c earlier later

/-- Induction on histories. -/
theorem performed_invariant (env : Environment κ) {motive : Past κ → Contexts → Prop} {c : Contexts}
    (start : motive [] c)
    (next : ∀ past c command step, motive past c → Does env c command step →
      motive (past ++ [(command, step)]) step.contexts)
    (commands : List Command) : motive (performed env c commands) (after env c commands) := by
  rw [performed_eq]
  exact Runs.invariant (step env) Step.contexts c (motive := fun _ past c => motive past c) start
    (fun _ past c command hpast => next past c command _ hpast (does_step env c command)) commands

/-- Contexts come and stay. -/
theorem contexts_grown (env : Environment κ) (c : Contexts) (commands : List Command) :
    c.contexts <+: (after env c commands).contexts :=
  performed_invariant env (motive := fun _ d => c.contexts <+: d.contexts) List.prefix_rfl
    (fun _ _ _ _ h hdoes => h.trans hdoes.grown) commands

/-- An entry of a past is something that its command can do. -/
theorem does_of_mem_performed {env : Environment κ} {c : Contexts} {commands : List Command}
    {p : Command × Step κ} (h : p ∈ performed env c commands) : ∃ d, Does env d p.1 p.2 := by
  rw [performed_eq] at h
  obtain ⟨earlier, later, -, hstep⟩ := Runs.mem_performed _ _ h
  exact ⟨_, hstep ▸ does_step env _ p.1⟩

/-! ### Families -/

/-- The second context was cloned from the first. -/
def Cloned (past : Past κ) (i j : Nat) : Prop :=
  ∃ p ∈ past, p.1 = .clone i ∧ p.2.reply = .context j

/-- The contexts are of one family: cloning connects them. -/
def Shares (past : Past κ) : Nat → Nat → Prop :=
  Relation.EqvGen (Cloned past)

theorem shares_append (past more : Past κ) {i j : Nat} (h : Shares past i j) :
    Shares (past ++ more) i j :=
  h.mono fun _ _ ⟨p, hp, hclone⟩ => ⟨p, List.mem_append_left more hp, hclone⟩

theorem cloned_concat {past : Past κ} {command : Command} {step : Step κ} {i j : Nat} :
    Cloned (past ++ [(command, step)]) i j ↔
      Cloned past i j ∨ command = .clone i ∧ step.reply = .context j := by
  simp [Cloned, or_and_right, exists_or]

/-- The context was made from nothing, under a policy. -/
def Made (past : Past κ) (options : Options) (i : Nat) : Prop :=
  ∃ p ∈ past, ∃ keys, p.1 = .new options keys ∧ p.2.reply = .context i

theorem made_concat {past : Past κ} {command : Command} {step : Step κ} {options : Options}
    {i : Nat} :
    Made (past ++ [(command, step)]) options i ↔
      Made past options i ∨ ∃ keys, command = .new options keys ∧ step.reply = .context i := by
  simp [Made, or_and_right, exists_or]

/-! ### Deliveries -/

/-- Key material that a context took. -/
structure Delivery where
  context : Nat
  keys : KeyMaterial

/-- What a successful `new` or `reload` delivered. -/
def delivery? (p : Command × Step κ) : Option Delivery :=
  match p.1, p.2.reply with
  | .new _ keys, .context i => some ⟨i, keys⟩
  | .reload i keys, .reloaded => some ⟨i, keys⟩
  | _, _ => none

def deliveries (past : Past κ) : List Delivery :=
  past.filterMap delivery?

theorem deliveries_append (past more : Past κ) :
    deliveries (past ++ more) = deliveries past ++ deliveries more :=
  List.filterMap_append

theorem deliveries_concat (past : Past κ) (p : Command × Step κ) :
    deliveries (past ++ [p]) = deliveries past ++ (delivery? p).toList := by
  rw [deliveries_append]
  rfl

theorem delivery?_new {options : Options} {keys : KeyMaterial} {step : Step κ} {i : Nat}
    (h : step.reply = .context i) : delivery? (.new options keys, step) = some ⟨i, keys⟩ := by
  simp only [delivery?, h]

theorem delivery?_reload {i : Nat} {keys : KeyMaterial} {step : Step κ}
    (h : step.reply = .reloaded) : delivery? (.reload i keys, step) = some ⟨i, keys⟩ := by
  simp only [delivery?, h]

@[simp] theorem delivery?_clone (i : Nat) (step : Step κ) : delivery? (.clone i, step) = none := rfl

theorem delivery?_idle {command : Command} {step : Step κ} (h : step.reply.acts = false) :
    delivery? (command, step) = none := by
  cases hreply : step.reply <;> cases command <;> simp_all [delivery?, Reply.acts]

/-- The last of the deliveries that went to a family: its number and the keys. -/
def Latest (family : Nat → Prop) (ds : List Delivery) (number : Nat) (keys : KeyMaterial) : Prop :=
  ∃ before i later, ds = before ++ ⟨i, keys⟩ :: later ∧ before.length = number ∧ family i ∧
    ∀ d ∈ later, ¬ family d.context

section

variable {family family' : Nat → Prop} {ds : List Delivery} {number number' : Nat}
  {keys keys' : KeyMaterial}

theorem latest_concat_self {d : Delivery} (h : family d.context) :
    Latest family (ds ++ [d]) ds.length d.keys :=
  ⟨ds, d.context, [], rfl, rfl, h, nofun⟩

theorem Latest.concat_other (h : Latest family ds number keys) {d : Delivery}
    (hother : ¬ family d.context) : Latest family (ds ++ [d]) number keys := by
  obtain ⟨before, i, later, rfl, hnumber, hfamily, hlater⟩ := h
  refine ⟨before, i, later ++ [d], by simp, hnumber, hfamily, ?_⟩
  intro e he
  rcases List.mem_append.mp he with hlate | hlast
  · exact hlater e hlate
  · rw [List.mem_singleton.mp hlast]
    exact hother

theorem Latest.congr (h : Latest family ds number keys)
    (hsame : ∀ d ∈ ds, family d.context ↔ family' d.context) :
    Latest family' ds number keys := by
  obtain ⟨before, i, later, rfl, hnumber, hfamily, hlater⟩ := h
  refine ⟨before, i, later, rfl, hnumber, (hsame ⟨i, keys⟩ (by simp)).mp hfamily, ?_⟩
  intro d hd hfamily'
  exact hlater d hd ((hsame d (by simp [hd])).mpr hfamily')

theorem Latest.getElem? (h : Latest family ds number keys) :
    ∃ i, ds[number]? = some ⟨i, keys⟩ ∧ family i := by
  obtain ⟨before, i, later, rfl, rfl, hfamily, -⟩ := h
  exact ⟨i, by simp, hfamily⟩

/-- No delivery after the last one goes to the family. -/
theorem Latest.le (h : Latest family ds number keys) {n : Nat} {d : Delivery}
    (hd : ds[n]? = some d) (hfamily : family d.context) : n ≤ number := by
  obtain ⟨before, i, later, rfl, rfl, -, hlater⟩ := h
  by_contra hlt
  have hmem : d ∈ later := by
    rw [List.getElem?_append_right (by omega), List.getElem?_cons,
      if_neg (by omega)] at hd
    exact List.mem_of_getElem? hd
  exact hlater d hmem hfamily

theorem Latest.unique (h : Latest family ds number keys) (h' : Latest family ds number' keys') :
    number = number' ∧ keys = keys' := by
  obtain ⟨i, hi, hfamily⟩ := h.getElem?
  obtain ⟨j, hj, hfamily'⟩ := h'.getElem?
  have hnumber : number = number' := Nat.le_antisymm (h'.le hi hfamily) (h.le hj hfamily')
  rw [hnumber, hj] at hi
  exact ⟨hnumber, congrArg Delivery.keys (Option.some.inj hi).symm⟩

end

/-! ### What has to be current -/

/-- The snapshot that the family of a context has to have: built under the policy that the family
was made with, on the backend chosen for it, from the key material of the last delivery to any of
its contexts. The serial number is the number of that delivery. -/
def Configured (env : Environment κ) (past : Past κ) (i : Nat) (s : Snapshot) : Prop :=
  ∃ options backend keys,
    (∃ root, Shares past i root ∧ Made past options root) ∧
      (env.library.choose (prefersNative env options)).result = .ok backend ∧
      Latest (Shares past i) (deliveries past) s.serial keys ∧
      (ServerConfig.build env.rules options backend keys).result = .ok s.config

/-- The number of sessions that were started. -/
def started (past : Past κ) : Nat :=
  past.countP fun p =>
    match p.2.reply with
    | .session _ => true
    | _ => false

end RecordLayer.Contexts
