import RespClient.Proofs.Pool.Exchange
import Mathlib.Data.List.Nodup

/-!
# No reply goes to the wrong command

Operations on a pool are done one after another. Between two of them every link of the
pool is connected, and as many replies were read from it as commands were written on it,
so the next reply on it answers the next command. A batch that fails midway breaks this
account for its link alone, and the pool takes that link out: it is retired, which no
operation ever changes. The commands are those in the record of the network, which agrees
with the bytes on all links.
-/

namespace RespClient

open RespClient.Action Transport

variable {τ : Type} {p p' q : Pool τ} {a : Address} {id : Nat} {cs : List Command}

namespace Pool

/-! ## Links that are out of the pool -/

/-- A link that was opened once and is no node's any more. -/
structure Retired (p : Pool τ) (id : Nat) : Prop where
  opened : id < p.network.lines.length
  unpooled : ∀ entry ∈ p.entries, entry.2 ≠ id

/-- Nothing was done with a link. -/
structure Untouched (id : Nat) (p p' : Pool τ) : Prop where
  line : p'.network.lines[id]? = p.network.lines[id]?
  sent : p'.network.sentOver id = p.network.sentOver id

/-- If a link is retired it stays so, and nothing is done with it. -/
def Spares (id : Nat) (p p' : Pool τ) : Prop :=
  p.Retired id → p'.Retired id ∧ Untouched id p p'

namespace Spares

theorem refl (id : Nat) (p : Pool τ) : Spares id p p :=
  fun h => ⟨h, rfl, rfl⟩

theorem trans (h : Spares id p p') (h' : Spares id p' q) : Spares id p q := by
  intro hretired
  obtain ⟨hretired, huntouched⟩ := h hretired
  obtain ⟨hretired, huntouched'⟩ := h' hretired
  exact ⟨hretired, huntouched'.line.trans huntouched.line, huntouched'.sent.trans huntouched.sent⟩

theorem filter (keep : Address × Nat → Bool) :
    Spares id p { p with entries := p.entries.filter keep } :=
  fun h => ⟨⟨h.opened, fun entry hentry => h.unpooled entry (List.mem_filter.mp hentry).1⟩, rfl, rfl⟩

/-- Links that are in the pool are other links. -/
theorem use [Transport τ] {n : Network τ} {j : Nat} {sent : List Command}
    (huses : Network.Uses j sent p.network n) (hfind : p.find? a = some j) :
    Spares id p { p with network := n } := by
  intro h
  have hne : id ≠ j := (h.unpooled _ (mem_of_find? hfind)).symm
  exact ⟨⟨huses.length.symm ▸ h.opened, h.unpooled⟩, huses.others id hne, huses.sentOver_other hne⟩

end Spares

variable [Transport τ]

/-! ## Operations -/

/-- What callers ask of a pool. -/
inductive Operation where
  | get (a : Address)
  | request (a : Address) (c : Command)
  | requestMany (a : Address) (cs : List Command)
  | evict (a : Address)
  | retain (keep : List Node)

namespace Operation

/-- Does an operation. -/
def perform : Operation → Action (Pool τ) Unit
  | .get a => do
    let _ ← Pool.get a
    pure ()
  | .request a c => do
    let _ ← Pool.request a c
    pure ()
  | .requestMany a cs => do
    let _ ← Pool.requestMany a cs
    pure ()
  | .evict a => update (Pool.evict a)
  | .retain keep => update (Pool.retain keep)

end Operation

/-- Operations lead from one pool to another, each after the end of the one before. -/
inductive Run (p₀ : Pool τ) : List Operation → Pool τ → Prop
  | start : Run p₀ [] p₀
  | step {ops : List Operation} {op : Operation} {p p' : Pool τ} {r : Outcome Unit}
      (h : Run p₀ ops p) (hop : op.perform p = (r, p')) (hr : r ≠ .stalled) :
      Run p₀ (ops ++ [op]) p'

/-- The ways in which an operation ends, or goes on for good. -/
theorem Operation.perform_cases {op : Operation} {r : Outcome Unit}
    (h : op.perform p = (r, p')) :
    (∃ a r', Got a p r' p') ∨ (∃ a cs r', Requested a cs p r' p' ∧ (r' = .stalled → r = .stalled)) ∨
      (∃ a, p' = p.evict a) ∨ ∃ keep, p' = p.retain keep := by
  have hbind : ∀ {α : Type} {x : Action (Pool τ) α},
      (x >>= fun _ => pure ()) p = (r, p') → ∃ r', x p = (r', p') ∧ (r' = .stalled → r = .stalled) := by
    intro α x h
    rcases bind_unit_eq h with ⟨a, hx, rfl⟩ | ⟨stop, hx, rfl⟩
    · exact ⟨_, hx, by rintro ⟨⟩⟩
    · refine ⟨_, hx, fun hstalled => ?_⟩
      cases stop with
      | none => rfl
      | some e => cases hstalled
  cases op with
  | get a =>
      obtain ⟨r', h, -⟩ := hbind h
      exact .inl ⟨a, r', get_got h⟩
  | request a c =>
      obtain ⟨r', h, hstall⟩ := hbind h
      rcases request_cases h with ⟨f, rfl, hmany⟩ | ⟨stop, rfl, hmany⟩
      · exact .inr (.inl ⟨a, [c], _, requestMany_requested hmany, by rintro ⟨⟩⟩)
      · refine .inr (.inl ⟨a, [c], _, requestMany_requested hmany, fun hstop => hstall ?_⟩)
        cases stop with
        | none => rfl
        | some e => cases hstop
  | requestMany a cs =>
      obtain ⟨r', h, hstall⟩ := hbind h
      exact .inr (.inl ⟨a, cs, r', requestMany_requested h, hstall⟩)
  | evict a =>
      cases h
      exact .inr (.inr (.inl ⟨a, rfl⟩))
  | retain keep =>
      cases h
      exact .inr (.inr (.inr ⟨keep, rfl⟩))

theorem Got.spares {r : Outcome Nat} (h : Got a p r p') : Spares id p p' := by
  have hconnected : ∀ {r : Outcome Nat} {n : Network τ}, Network.Connected a.text p.network r n →
      Spares id p { p with network := n } := fun hc h =>
    ⟨⟨h.opened.trans_le hc.length_le, h.unpooled⟩, hc.other (hc.ne_of_lt h.opened), hc.sentOver id⟩
  cases h with
  | there => exact .refl id p
  | unreached hr hc => exact hconnected hc
  | @opened new n p' hc hadopt =>
      rcases adopt_eq_ok hadopt with ⟨rfl, -⟩ | rfl
      · exact hconnected hc
      · intro h
        obtain ⟨hretired, huntouched⟩ := hconnected hc h
        refine ⟨⟨hretired.opened, fun entry hentry => ?_⟩, huntouched.line, huntouched.sent⟩
        rcases List.mem_append.mp hentry with hentry | hentry
        · exact h.unpooled entry (List.mem_filter.mp hentry).1
        · rw [List.mem_singleton] at hentry
          rw [hentry]
          rintro rfl
          exact hc.ne_of_lt h.opened rfl

theorem evict_spares (a : Address) (p : Pool τ) : Spares id p (p.evict a) := by
  rcases evict_uses a p with heq | ⟨j, n, hfind, huses, heq⟩
  · rw [heq]
    exact .filter _
  · rw [heq]
    exact (Spares.use huses hfind).trans (.filter _)

theorem Requested.spares {r : Outcome (List Frame)} (h : Requested a cs p r p') :
    Spares id p p' := by
  have hafter : ∀ {j : Nat} {n : Network τ} {sent : List Command} {p₁ : Pool τ},
      Pool.get a p = (.ok j, p₁) → Network.Uses j sent p₁.network n →
      Spares id p { p₁ with network := n } := fun hget huses =>
    (get_got hget).spares.trans (.use huses (get_got hget).found)
  cases h with
  | unreached hget | hangs hget => exact (get_got hget).spares
  | waits hget hheld huses => exact hafter hget huses
  | answered hget hfree hexchange | stalls hget hfree hexchange =>
      obtain ⟨n, sent, rfl, -, huses, -⟩ := exchangeAll_uses hexchange
      exact hafter hget huses
  | failed hget hfree hexchange =>
      obtain ⟨n, sent, rfl, -, huses, -⟩ := exchangeAll_uses hexchange
      split
      · exact (hafter hget huses).trans (evict_spares a _)
      · exact hafter hget huses

theorem Operation.spares {op : Operation} {r : Outcome Unit} (hop : op.perform p = (r, p')) :
    Spares id p p' := by
  rcases Operation.perform_cases hop with
    ⟨a, r', hgot⟩ | ⟨a, cs, r', hrequested, -⟩ | ⟨a, rfl⟩ | ⟨keep, rfl⟩
  · exact hgot.spares
  · exact hrequested.spares
  · exact evict_spares a p
  · exact .filter _

theorem Run.spares {ops : List Operation} (hrun : Run p ops p') : Spares id p p' := by
  induction hrun with
  | start => exact .refl id p
  | step _ hop _ ih => exact ih.trans (Operation.spares hop)

/-! ## Links that are in the pool -/

section

variable [Lawful τ]

/-- The commands were the last ones sent over a link, and the replies are those that were
read for them: as many commands were sent before as replies were read before. -/
def Answers (p : Pool τ) (id : Nat) (cs : List Command) (rs : List Frame) : Prop :=
  ∃ before earlier, p.network.sentOver id = before ++ cs ∧
    p.network.InStep id (earlier ++ rs) ∧ earlier.length = before.length

/-- The links of the pool are in step, and no two nodes share one. -/
structure InStep (p : Pool τ) : Prop where
  fresh : p.network.Fresh
  free : p.held = none
  accounted : p.network.Accounted
  distinct : (p.entries.map Prod.snd).Nodup
  inStep : ∀ entry ∈ p.entries, ∃ replies, p.network.InStep entry.2 replies

namespace InStep

theorem link_lt (h : p.InStep) (hmem : (a, id) ∈ p.entries) : id < p.network.lines.length := by
  obtain ⟨replies, line, hline, -⟩ := h.inStep _ hmem
  exact (List.getElem?_eq_some_iff.mp hline).1

theorem isHeld (h : p.InStep) (id : Nat) : p.isHeld id = false := by
  rw [Pool.isHeld, h.free]
  rfl

theorem node_eq (h : p.InStep) {b : Address} (ha : (a, id) ∈ p.entries)
    (hb : (b, id) ∈ p.entries) : b = a :=
  congrArg Prod.fst (List.inj_on_of_nodup_map h.distinct hb ha rfl)

theorem filter (h : p.InStep) (keep : Address × Nat → Bool) :
    ({ p with entries := p.entries.filter keep } : Pool τ).InStep where
  fresh := h.fresh
  free := h.free
  accounted := h.accounted
  distinct := h.distinct.sublist (List.filter_sublist.map _)
  inStep entry hentry := h.inStep entry (List.mem_filter.mp hentry).1

/-- Using a link keeps all others in step. -/
theorem use (h : p.InStep) {n : Network τ} {sent : List Command}
    (huses : Network.Uses id sent p.network n) (hid : id < p.network.lines.length)
    (hstep : ∀ b, (b, id) ∈ p.entries → ∃ replies, n.InStep id replies) :
    ({ p with network := n } : Pool τ).InStep where
  fresh := huses.fresh h.fresh
  free := h.free
  accounted := h.accounted.uses huses
  distinct := h.distinct
  inStep := by
    rintro ⟨b, j⟩ hentry
    by_cases hj : j = id
    · subst hj
      exact hstep b hentry
    · obtain ⟨replies, hreplies⟩ := h.inStep _ hentry
      exact ⟨replies, hreplies.other huses hj⟩

/-- A connect keeps all links in step. -/
theorem connected (h : p.InStep) {r : Outcome Nat} {n : Network τ}
    (hc : Network.Connected a.text p.network r n) : ({ p with network := n } : Pool τ).InStep where
  fresh := hc.fresh h.fresh
  free := h.free
  accounted := h.accounted.connected hc
  distinct := h.distinct
  inStep entry hentry := by
    obtain ⟨replies, hreplies⟩ := h.inStep entry hentry
    exact ⟨replies, hreplies.connected hc⟩

theorem put (h : p.InStep) (hid : ∀ entry ∈ p.entries, entry.2 ≠ id)
    (hstep : p.network.InStep id []) : (p.put a id).InStep where
  fresh := h.fresh
  free := h.free
  accounted := h.accounted
  distinct := by
    show ((p.entries.filter _ ++ [(a, id)]).map Prod.snd).Nodup
    rw [List.map_append, List.nodup_append]
    refine ⟨(h.filter _).distinct, List.nodup_singleton id, ?_⟩
    rintro j hj j' hj' rfl
    obtain ⟨entry, hentry, rfl⟩ := List.mem_map.mp hj
    exact hid entry (List.mem_filter.mp hentry).1 (List.mem_singleton.mp hj')
  inStep := by
    rintro entry hentry
    rcases List.mem_append.mp hentry with hentry | hentry
    · exact h.inStep entry (List.mem_filter.mp hentry).1
    · rw [List.mem_singleton] at hentry
      rw [hentry]
      exact ⟨[], hstep⟩

theorem get (h : p.InStep) {r : Outcome Nat} (hgot : Got a p r p') : p'.InStep := by
  cases hgot with
  | there => exact h
  | unreached hr hc => exact h.connected hc
  | opened hc hadopt =>
      rcases adopt_eq_ok hadopt with ⟨rfl, hfind⟩ | rfl
      · exact h.connected hc
      · refine (h.connected hc).put ?_ (.opened hc h.fresh h.accounted.known)
        rintro ⟨b, j⟩ hentry rfl
        exact hc.ne_of_lt (h.link_lt hentry) rfl

/-- The link of a node leaves the pool with the node. -/
theorem ne_of_mem_filter (h : p.InStep) (hfind : p.find? a = some id) {entry : Address × Nat}
    (hentry : entry ∈ p.entries.filter fun entry => entry.1 != a) : entry.2 ≠ id := by
  rintro rfl
  obtain ⟨hentry, hne⟩ := List.mem_filter.mp hentry
  rw [h.node_eq (mem_of_find? hfind) hentry] at hne
  simp at hne

/-- Taking out the link of a node after it was used keeps all others in step. -/
theorem evict_used (h : p.InStep) {n : Network τ} {sent : List Command}
    (hfind : p.find? a = some id) (huses : Network.Uses id sent p.network n) :
    (({ p with network := n } : Pool τ).evict a).InStep := by
  have hevict : ({ p with network := n } : Pool τ).evict a = _ :=
    evict_of_found hfind (h.isHeld id)
  rw [hevict]
  have huses := huses.trans Network.disconnect_uses
  refine (h.filter fun entry => entry.1 != a).use huses (h.link_lt (mem_of_find? hfind)) ?_
  exact fun b hb => absurd rfl (h.ne_of_mem_filter hfind hb)

theorem evict (h : p.InStep) (a : Address) : (p.evict a).InStep := by
  rcases hfind : p.find? a with _ | id
  · rw [evict_of_not_found hfind]
    exact h.filter _
  · exact h.evict_used hfind (.refl _)

/-- Commands that were answered on a link of the pool keep it in step. -/
theorem exchanged (h : p.InStep) {rs : List Frame} (hmem : (a, id) ∈ p.entries)
    (hexchange : exchangeAll id cs [] p = (.ok rs, p')) : p'.Answers id cs rs ∧ p'.InStep := by
  obtain ⟨n, sent, rfl, -, huses, hsent⟩ := exchangeAll_uses hexchange
  obtain rfl := hsent rs rfl
  obtain ⟨replies, hreplies⟩ := h.inStep _ hmem
  have hstep : n.InStep id (replies ++ rs) := by
    refine exchangeAll_inStep hexchange ?_
    rw [List.reverse_nil, List.append_nil]
    exact hreplies
  refine ⟨⟨p.network.sentOver id, replies, huses.sentOver_self, hstep, ?_⟩, ?_⟩
  · obtain ⟨line, -, -, -, -, heven⟩ := hreplies
    exact heven
  · exact h.use huses (h.link_lt hmem) fun b hb => ⟨_, hstep⟩

theorem requested [Fragile τ] (h : p.InStep) {r : Outcome (List Frame)} (hr : r ≠ .stalled)
    (hrequested : Requested a cs p r p') : p'.InStep := by
  cases hrequested with
  | unreached hget => exact h.get (get_got hget)
  | hangs | waits | stalls => exact absurd rfl hr
  | answered hget hfree hexchange =>
      exact ((h.get (get_got hget)).exchanged (mem_of_find? (get_got hget).found) hexchange).2
  | failed hget hfree hexchange =>
      have h₁ := h.get (get_got hget)
      obtain ⟨n, sent, rfl, -, huses, -⟩ := exchangeAll_uses hexchange
      rw [if_pos (exchangeAll_breaks hexchange)]
      exact h₁.evict_used (get_got hget).found huses

/-- Every operation that ends keeps the links of the pool in step. -/
theorem perform [Fragile τ] (h : p.InStep) {op : Operation} {r : Outcome Unit}
    (hop : op.perform p = (r, p')) (hr : r ≠ .stalled) : p'.InStep := by
  rcases Operation.perform_cases hop with
    ⟨a, r', hgot⟩ | ⟨a, cs, r', hrequested, hstall⟩ | ⟨a, rfl⟩ | ⟨keep, rfl⟩
  · exact h.get hgot
  · exact h.requested (hr ∘ hstall) hrequested
  · exact h.evict a
  · exact h.filter _

theorem run [Fragile τ] (h : p.InStep) {ops : List Operation} (hrun : Run p ops p') :
    p'.InStep := by
  induction hrun with
  | start => exact h
  | step _ hop hr ih => exact ih.perform hop hr

/-- A pool that was never used. -/
theorem new {n : Network τ} (hlines : n.lines = []) (hsent : n.sent = []) (hfresh : n.Fresh) :
    ({ network := n } : Pool τ).InStep where
  fresh := hfresh
  free := rfl
  accounted := .blank hlines hsent
  distinct := List.nodup_nil
  inStep _ hentry := absurd hentry List.not_mem_nil

end InStep

/-! ## Batches -/

/-- A batch that succeeds was answered on the node's link. -/
theorem InStep.answers (h : p.InStep) {rs : List Frame}
    (hmany : requestMany a cs p = (.ok rs, p')) :
    rs.length = cs.length ∧ ∃ id, (a, id) ∈ p'.entries ∧ p'.Answers id cs rs := by
  cases requestMany_requested hmany with
  | answered hget hfree hexchange =>
      have hmem := mem_of_find? (get_got hget).found
      obtain ⟨hanswers, -⟩ := (h.get (get_got hget)).exchanged hmem hexchange
      have hlen := length_of_exchangeAll hexchange
      obtain ⟨n, sent, rfl, -⟩ := exchangeAll_uses hexchange
      rw [List.length_nil, Nat.zero_add] at hlen
      exact ⟨hlen, _, hmem, hanswers⟩

/-- A batch that fails on a link gives it up, and the link is retired. -/
theorem InStep.retired [Fragile τ] (h : p.InStep) {p₁ : Pool τ} {e : Failure}
    (hget : Pool.get a p = (.ok id, p₁)) (hmany : requestMany a cs p = (.error e, p')) :
    p'.Retired id ∧ ∃ line, p'.network.lines[id]? = some line ∧ isConnected line.link = false := by
  have h₁ := h.get (get_got hget)
  have hfind := (get_got hget).found
  have hlt := h₁.link_lt (mem_of_find? hfind)
  cases requestMany_requested hmany with
  | unreached hget' =>
      rw [hget] at hget'
      cases hget'
  | @failed id' e p₁' p₂ hget' hfree hexchange =>
      rw [hget] at hget'
      cases hget'
      obtain ⟨n, sent, rfl, -, huses, -⟩ := exchangeAll_uses hexchange
      rw [if_pos (exchangeAll_breaks hexchange)]
      have hevict : ({ p₁ with network := n } : Pool τ).evict a = _ := evict_of_found hfind hfree
      rw [hevict]
      have hlt : id < n.lines.length := huses.length.symm ▸ hlt
      have hlength : (n.disconnect id).lines.length = n.lines.length :=
        Network.disconnect_uses.length
      refine ⟨⟨hlength.symm ▸ hlt, fun entry hentry => h₁.ne_of_mem_filter hfind hentry⟩, ?_⟩
      · obtain ⟨line, hline⟩ : ∃ line, n.lines[id]? = some line :=
          ⟨_, List.getElem?_eq_getElem hlt⟩
        have hgone := Network.modifyLink_self n id disconnect
        rw [hline] at hgone
        exact ⟨_, hgone, Lawful.isConnected_disconnect line.link⟩

/-- **No reply goes to the wrong command.** A pool starts without links over a network whose
links are connected when they open. Whatever operations were done on it, one after another:
each of its links is connected, and one reply was read from it for each command that was
written on it. A batch that succeeds has one reply for each command, which is the one read
for it on the node's link. A batch that fails after the link was got gives the link up and
retires it, and nothing is ever done with it again. The commands are those of the record,
and on every link, retired or not, the bytes that were written spell them out. -/
theorem Run.replies_attributed [Fragile τ] {n : Network τ} (hlines : n.lines = [])
    (hsent : n.sent = []) (hfresh : n.Fresh) {ops : List Operation}
    (h : Run { network := n } ops p) :
    p.network.Accounted ∧ (∀ entry ∈ p.entries, ∃ replies, p.network.InStep entry.2 replies) ∧
      (∀ a cs rs p', requestMany a cs p = (.ok rs, p') →
        rs.length = cs.length ∧ ∃ id, (a, id) ∈ p'.entries ∧ p'.Answers id cs rs) ∧
      ∀ a cs id p₁ e p', Pool.get a p = (.ok id, p₁) → requestMany a cs p = (.error e, p') →
        (∃ line, p'.network.lines[id]? = some line ∧ isConnected line.link = false) ∧
          ∀ later q, Run p' later q → q.Retired id ∧ Untouched id p' q ∧
            ∀ op r q', Operation.perform op q = (r, q') → Untouched id q q' := by
  have hp : p.InStep := (InStep.new hlines hsent hfresh).run h
  refine ⟨hp.accounted, hp.inStep, fun a cs rs p' hmany => hp.answers hmany, ?_⟩
  intro a cs id p₁ e p' hget hmany
  obtain ⟨hretired, hline⟩ := hp.retired hget hmany
  refine ⟨hline, fun later q hrun => ?_⟩
  obtain ⟨hretired, huntouched⟩ := hrun.spares hretired
  exact ⟨hretired, huntouched, fun op r q' hop => (Operation.spares hop hretired).2⟩

/-- A node that sends two replies and breaks off in the third. -/
def breakingOff : Network :=
  let input : Bytes := [43, 97, 13, 10, 43, 98, 13, 10, 36, 53, 13, 10, 99]
  { scripts := [("h:1", [{ greeting := .accepts input .closed }])] }

/-- The pool after a batch of two. -/
def halfway : Pool :=
  ((Operation.requestMany ⟨"h", 1⟩ [.ping, .ping]).perform { network := breakingOff }).2

/-- Two commands are answered and the third one fails, so its link is retired whatever is
done later. -/
theorem Run.replies_attributed_breakingOff :
    Run { network := breakingOff } [.requestMany ⟨"h", 1⟩ [.ping, .ping]] halfway ∧
      (∃ replies, halfway.network.InStep 0 replies) ∧
      ∃ p', requestMany ⟨"h", 1⟩ [.ping] halfway =
          (.error (.connection "h:1" "unexpected end of input"), p') ∧
        ∀ later q, Run p' later q → q.Retired 0 := by
  have hfresh : breakingOff.Fresh := by
    intro entry hentry script hscript link hlink address
    obtain rfl := List.mem_singleton.mp hentry
    obtain rfl := List.mem_singleton.mp hscript
    cases hlink
    rfl
  have hop : (Operation.requestMany ⟨"h", 1⟩ [.ping, .ping]).perform { network := breakingOff } =
      (.ok (), halfway) := by rfl
  have hrun := Run.start.step hop (by simp)
  have hentries : halfway.entries = [(⟨"h", 1⟩, 0)] := by rfl
  have hget : Pool.get ⟨"h", 1⟩ halfway = (.ok 0, halfway) := by rfl
  have hfails : (requestMany ⟨"h", 1⟩ [.ping] halfway).1 =
      .error (.connection "h:1" "unexpected end of input") := by rfl
  have hmany := Prod.ext hfails (y := (_, (requestMany ⟨"h", 1⟩ [.ping] halfway).2)) rfl
  obtain ⟨-, hstep, -, hlater⟩ := Run.replies_attributed rfl rfl hfresh hrun
  refine ⟨hrun, hstep (⟨"h", 1⟩, 0) ?_, _, hmany, fun later q hq => ?_⟩
  · rw [hentries]
    exact List.mem_singleton_self _
  · exact ((hlater _ _ 0 _ _ _ hget hmany).2 later q hq).1

end

end Pool

end RespClient
