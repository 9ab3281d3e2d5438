import RespClient.Proofs.Replica.Lifecycle
import RespClient.Proofs.Retry.Logged

/-!
# What a replica group did

From the outside a run is a list of operations, but what matters about failures lies inside
them: when the sentinels were searched, which node was sent a command, and what became of it.
The story of a run tells these deeds in order. Every operation adds its own, which depend on
nothing but the group that it began with; a command that is tried again and again tells its
deeds while it is under way.

Deeds account for a group if they lead there from the first one: each is one search, one
switch or one command, and between them the group does no more than wait, draw words and lose
its trust in the set. The deeds of a story account for the group at its end. So there is
nothing that the group did beside them, and what a deed keeps a whole story keeps.
-/

namespace RespClient

/-- What became of an action, whatever its value was. -/
def Outcome.fate {α : Type} : Outcome α → Outcome Unit
  | .ok _ => .ok ()
  | .error e => .error e
  | .stalled => .stalled

namespace ReplicaGroup

open RespClient.Action

/-- What a group does. -/
inductive Deed where
  /-- It searched for the set. Only a search that heeds its caller can be cut short. -/
  | searched (heedful : Bool) (found : Outcome ReplicaSet)
  | switched
  /-- It sent a command to the node that was active. -/
  | asked (node : Node) (c : Command) (fate : Outcome Unit)
  deriving DecidableEq

variable {τ : Type}

/-- The group after a search, given what the search left behind. -/
def settle : Outcome ReplicaSet → ReplicaGroup τ → ReplicaGroup τ
  | .ok set, g => g.resolve set
  | .error _, g => g.markStale
  | .stalled, g => g

/-- The group after a command. -/
def heed : Outcome Unit → ReplicaGroup τ → ReplicaGroup τ
  | .error e, g => if e.isUnreachable then g.markStale else g
  | _, g => g

variable [Transport τ]

/-! ## The deeds of an operation -/

/-- A group looks for the set unless it is good. -/
def lookDeeds (heedful : Bool) (g : ReplicaGroup τ) : List Deed :=
  if g.state = .resolved then []
  else [.searched heedful (onDiscovery (Discovery.discover heedful) g).1]

/-- To send a command once, a group makes sure of an active node and asks that one. -/
def onceDeeds (c : Command) (g : ReplicaGroup τ) : List Deed :=
  g.lookDeeds false ++
    match current g with
    | (.ok node, g') => [.asked node c (Pool.request node.toAddress c g'.pool).1.fate]
    | _ => []

/-- Sends a command and keeps a log of what was done. -/
def executeLogged (c : Command) : Action (Logged (ReplicaGroup τ) Deed) Frame := fun l =>
  l.state.retry.call false (fun _ => Logged.act (onceDeeds c) (executeOnce c)) l

/-- What an operation does to a group. -/
def Operation.deeds : Operation → ReplicaGroup τ → List Deed
  | .check, g | .current, g => g.lookDeeds false
  | .checkUntil cancelAt, g =>
    lookDeeds true (Timed.setClock { Timed.clock g with cancelAt } g)
  | .refresh, g => [.searched false (onDiscovery (Discovery.discover false) g).1]
  | .markStale, _ => []
  | .execute c, g => (executeLogged c { state := g }).2.log
  | op, g => g.lookDeeds false ++ if (op.perform g).1 = .ok () then [.switched] else []

/-- A run with all its deeds. -/
inductive Story (g₀ : ReplicaGroup τ) : List Operation → List Deed → ReplicaGroup τ → Prop
  | start : Story g₀ [] [] g₀
  | step {ops : List Operation} {op : Operation} {ds : List Deed} {g g' : ReplicaGroup τ}
      {out : Outcome Unit} (h : Story g₀ ops ds g) (hop : op.perform g = (out, g')) :
      Story g₀ (ops ++ [op]) (ds ++ op.deeds g) g'

variable {g g' g₁ : ReplicaGroup τ} {ops : List Operation} {ds : List Deed} {heedful : Bool}

/-! ## Deeds that account for a group -/

/-- Before a command the set is trusted, or it was searched for just now. -/
def Looked (ds : List Deed) (g : ReplicaGroup τ) : Prop :=
  g.state = .resolved ∨ ∃ before found, ds = before ++ [.searched false found]

/-- From the first group these deeds lead to another one. Between them the group may wait, draw
words and suspect its set. -/
inductive Accounts (g₀ : ReplicaGroup τ) : List Deed → ReplicaGroup τ → Prop
  | start : Accounts g₀ [] g₀
  | waited {ds : List Deed} {g : ReplicaGroup τ} (clock : Clock) (words : WordSource)
      (h : Accounts g₀ ds g) : Accounts g₀ ds (Timed.setClock clock (Timed.setWords words g))
  | suspected {ds : List Deed} {g : ReplicaGroup τ} (h : Accounts g₀ ds g) :
      Accounts g₀ ds g.markStale
  | searched {ds : List Deed} {heedful : Bool} {found : Outcome ReplicaSet}
      {g g' : ReplicaGroup τ} (h : Accounts g₀ ds g)
      (hfound : onDiscovery (Discovery.discover heedful) g = (found, g')) :
      Accounts g₀ (ds ++ [.searched heedful found]) (settle found g')
  | switched {ds : List Deed} {node : Node} {g : ReplicaGroup τ} (h : Accounts g₀ ds g)
      (hnode : node ∈ g.set.members) :
      Accounts g₀ (ds ++ [.switched]) { g with set := { g.set with current := some node } }
  /-- A command goes to the active node, over the pool and once. -/
  | asked {ds : List Deed} {node : Node} {c : Command} {reply : Outcome Frame}
      {g : ReplicaGroup τ} {pool : Pool τ} (h : Accounts g₀ ds g) (hlooked : Looked ds g)
      (hactive : g.set.current = some node)
      (hreply : Pool.request node.toAddress c g.pool = (reply, pool)) :
      Accounts g₀ (ds ++ [.asked node c reply.fate]) (heed reply.fate { g with pool })

/-- Deeds that account for the first group account for the second one with these behind them. -/
def Acts (g : ReplicaGroup τ) (es : List Deed) (g' : ReplicaGroup τ) : Prop :=
  ∀ g₀ ds, Accounts g₀ ds g → Accounts g₀ (ds ++ es) g'

namespace Acts

variable {g'' : ReplicaGroup τ} {es es' : List Deed}

/-- What is done without a deed. -/
theorem quietly (h : ∀ g₀ ds, Accounts g₀ ds g → Accounts g₀ ds g') : Acts g [] g' := by
  intro g₀ ds hds
  rw [List.append_nil]
  exact h g₀ ds hds

theorem refl (g : ReplicaGroup τ) : Acts g [] g :=
  .quietly fun _ _ h => h

theorem trans (h : Acts g es g') (h' : Acts g' es' g'') : Acts g (es ++ es') g'' := by
  intro g₀ ds hds
  rw [← List.append_assoc]
  exact h' g₀ _ (h g₀ ds hds)

theorem waited (clock : Clock) (words : WordSource) (g : ReplicaGroup τ) :
    Acts g [] (Timed.setClock clock (Timed.setWords words g)) :=
  .quietly fun _ _ => .waited clock words

end Acts

theorem Discovers.settles {out : Outcome Unit} {es : List Event}
    (h : Discovers heedful g out g' es) :
    ∃ found g₁, onDiscovery (Discovery.discover heedful) g = (found, g₁) ∧
      g' = settle found g₁ := by
  cases h with
  | found h | missed h | hung h => exact ⟨_, _, h, rfl⟩

theorem Discovers.acts {out : Outcome Unit} {es : List Event} (h : Discovers heedful g out g' es) :
    Acts g [.searched heedful (onDiscovery (Discovery.discover heedful) g).1] g' := by
  obtain ⟨found, g₁, hfound, rfl⟩ := h.settles
  rw [hfound]
  exact fun g₀ ds hds => hds.searched hfound

theorem check_acts {out : Outcome Unit} (h : check heedful g = (out, g')) :
    Acts g (g.lookDeeds heedful) g' := by
  rcases check_cases h with ⟨hstate, -, rfl⟩ | ⟨hstate, es, hdiscovers⟩
  · rw [lookDeeds, if_pos hstate]
    exact .refl _
  · rw [lookDeeds, if_neg hstate]
    exact hdiscovers.acts

theorem Ensures.acts {out : Outcome Unit} {es : List Event} (h : Ensures g out g' es) :
    Acts g (g.lookDeeds false) g' := by
  cases h with
  | known hstate =>
      rw [lookDeeds, if_pos hstate]
      exact .refl _
  | sought hstate h =>
      rw [lookDeeds, if_neg hstate]
      exact h.acts

/-- A group that made sure of an active node trusts its set or has searched for it just now. -/
theorem Ensures.looked {out : Outcome Unit} {es : List Event} (h : Ensures g out g' es)
    (ds : List Deed) : Looked (ds ++ g.lookDeeds false) g' := by
  cases h with
  | known hstate => exact .inl hstate
  | sought hstate h =>
      rw [lookDeeds, if_neg hstate]
      exact .inr ⟨ds, _, rfl⟩

/-- What is given as the active node is the active node. -/
theorem current_eq_ok {node : Node} (h : current g = (.ok node, g')) :
    ensureRoutable g = (.ok (), g') ∧ g'.set.current = some node := by
  obtain ⟨u, g₁, hensure, h⟩ := bind_eq_ok.mp h
  rw [get_bind] at h
  rcases hactive : g₁.set.current with _ | active
  · rw [hactive] at h
    cases h
  · rw [hactive] at h
    cases h
    exact ⟨hensure, hactive⟩

theorem current_acts {node : Outcome Node} (h : current g = (node, g')) :
    Acts g (g.lookDeeds false) g' := by
  obtain ⟨out, es, hensures⟩ := current_ensures h
  exact hensures.acts

/-- A switch that succeeds is a deed. -/
theorem Switches.acts {out : Outcome Unit} {es : List Event} (h : Switches g out g' es) :
    Acts g (g.lookDeeds false ++ if out = .ok () then [.switched] else []) g' := by
  cases h with
  | @failed ensured out g₁ es words h hout =>
      rw [if_neg hout]
      exact h.acts.trans (.waited (Timed.clock g₁) words g₁)
  | @done g₁ es node words h hnode =>
      rw [if_pos rfl]
      refine h.acts.trans fun g₀ ds hds => ?_
      exact (hds.waited (Timed.clock g₁) words).switched hnode

/-! ## Commands -/

theorem executeOnce_acts {c : Command} {reply : Outcome Frame} (h : executeOnce c g = (reply, g')) :
    Acts g (onceDeeds c g) g' := by
  rcases bind_cases h with ⟨node, g₁, hcurrent, h⟩ | ⟨stop, hcurrent, -⟩
  · rcases hrequest : Pool.request node.toAddress c g₁.pool with ⟨answer, pool⟩
    obtain ⟨hensure, hactive⟩ := current_eq_ok hcurrent
    obtain ⟨es, hensures⟩ := ensureRoutable_ensures hensure
    have hon := onPool_of hrequest
    have hdeeds : onceDeeds c g = g.lookDeeds false ++ [.asked node c answer.fate] := by
      rw [onceDeeds, hcurrent]
      simp only [hrequest]
    have hafter : g' = heed answer.fate { g₁ with pool } := by
      cases answer with
      | ok reply =>
          rw [bind_of_ok (attempt_of_ok hon)] at h
          cases h
          rfl
      | stalled =>
          rw [bind_of_stalled (attempt_of_stalled hon)] at h
          cases h
          rfl
      | error e =>
          rw [bind_of_ok (attempt_of_error hon)] at h
          rw [Outcome.fate, heed]
          dsimp only at h
          split at h
          · rename_i hunreachable
            rw [if_pos hunreachable]
            cases h
            rfl
          · rename_i hunreachable
            rw [if_neg hunreachable]
            cases h
            rfl
    rw [hdeeds, hafter]
    intro g₀ ds hds
    rw [← List.append_assoc]
    exact (hensures.acts g₀ ds hds).asked (hensures.looked ds) hactive hrequest
  · have hdeeds : onceDeeds c g = g.lookDeeds false := by
      rw [onceDeeds, hcurrent]
      cases stop <;> exact List.append_nil _
    rw [hdeeds]
    exact current_acts hcurrent

/-- The log says what a command does while it is tried again and again. -/
theorem executeLogged_acts {c : Command} {reply : Outcome Frame}
    {l l' : Logged (ReplicaGroup τ) Deed} (h : executeLogged c l = (reply, l')) :
    ∃ more, l'.log = l.log ++ more ∧ Acts l.state more l'.state := by
  have hcalls := RetryPolicy.callFrom_calls h
  -- only what is logged matters here, and not what the tries cost
  obtain ⟨-, -, hacts⟩ := hcalls.costs (P := fun _ => True)
    (R := fun _ l l' => ∃ more, l'.log = l.log ++ more ∧ Acts l.state more l'.state)
    trivial (fun l => ⟨[], (List.append_nil _).symm, .refl _⟩)
    (fun h h' => by
      obtain ⟨ds, hlog, hds⟩ := h
      obtain ⟨ds', hlog', hds'⟩ := h'
      exact ⟨ds ++ ds', by rw [hlog', hlog, List.append_assoc], hds.trans hds'⟩)
    (fun _ htry => by
      cases htry
      exact ⟨trivial, 0, Nat.le_refl 0, _, rfl, executeOnce_acts rfl⟩)
    (fun _ hpause => by
      obtain rfl := congrArg Prod.snd hpause
      exact ⟨trivial, [], (List.append_nil _).symm, .waited _ _ _⟩)
  exact hacts

/-- Keeping the log does not change what a command does. -/
theorem executeLogged_of {c : Command} {reply : Outcome Frame} (h : execute c g = (reply, g')) :
    ∃ log, executeLogged c { state := g } = (reply, { state := g', log }) := by
  obtain ⟨more, hlogged⟩ := RetryPolicy.callFrom_logged h ([] : List Deed)
  exact ⟨more, hlogged⟩

theorem execute_acts {c : Command} {reply : Outcome Frame} (h : execute c g = (reply, g')) :
    Acts g ((Operation.execute c).deeds g) g' := by
  obtain ⟨log, hlogged⟩ := executeLogged_of h
  obtain ⟨more, hlog, hacts⟩ := executeLogged_acts hlogged
  rw [Operation.deeds, hlogged]
  obtain rfl : log = more := hlog
  exact hacts

/-! ## Operations -/

/-- Whatever an operation does to a group, its deeds do. -/
theorem Operation.acts {op : Operation} {out : Outcome Unit} (h : op.perform g = (out, g')) :
    Acts g (op.deeds g) g' := by
  have hswitch : op.switches = true →
      Acts g (g.lookDeeds false ++ if (op.perform g).1 = .ok () then [.switched] else []) g' := by
    intro hop
    obtain ⟨es, hswitches⟩ := Operation.perform_switch h hop
    rw [h]
    exact hswitches.acts
  cases op with
  | check => exact check_acts h
  | checkUntil cancelAt =>
      have hbegin : Acts g [] (Timed.setClock { Timed.clock g with cancelAt } g) :=
        .waited _ (Timed.words g) g
      exact hbegin.trans (check_acts h)
  | refresh =>
      obtain ⟨es, hdiscovers⟩ := refresh_discovers h
      exact hdiscovers.acts
  | markStale =>
      cases h
      exact .quietly fun _ _ => .suspected
  | current =>
      rcases bind_unit_eq h with ⟨node, hcurrent, -⟩ | ⟨stop, hcurrent, -⟩
      · exact current_acts hcurrent
      · exact current_acts hcurrent
  | switchTo | switchToMaster | switchToReplica => exact hswitch rfl
  | execute c =>
      rcases bind_unit_eq h with ⟨reply, hexecute, -⟩ | ⟨stop, hexecute, -⟩
      · exact execute_acts hexecute
      · exact execute_acts hexecute

/-- The deeds of a story account for the group at its end. -/
theorem Story.accounts {g₀ : ReplicaGroup τ} (h : Story g₀ ops ds g) : Accounts g₀ ds g := by
  induction h with
  | start => exact .start
  | step _ hop ih => exact Operation.acts hop g₀ _ ih

end ReplicaGroup

end RespClient
