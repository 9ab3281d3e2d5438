import RespClient.Proofs.Node.Address
import RespClient.Proofs.Pool.Orderly
import RespClient.Proofs.Retry.Call
import RespClient.Proofs.Ring.Membership
import RespClient.Routing.Sharding

/-!
# Only owners are written to

The ring says who owns a key, and the pool keeps the links; they change separately. A link is
opened only for the owner of a key, who is a member, and a member that is removed loses its
link at the same time. So the pool has links to members alone, whatever fails in between. While
a command is tried again and again the ring stays as it is, and so does the owner of its key.
-/

namespace RespClient.Sharding

open RespClient.Action RespClient.Network

variable {τ : Type} [Transport τ] {key : Bytes} {c : Command} {node : Node} {weight : Nat}
  {s s' : Sharding τ} {out : Outcome Frame}

/-- The ring is laid out, the pool knows its live links, and only members have links. -/
structure Sound (s : Sharding τ) : Prop where
  laid : s.ring.owned = Ring.layout s.ring.base s.ring.members
  pool : s.pool.Orderly
  members : ∀ (node : Node) (id : Nat), (node.toAddress, id) ∈ s.pool.entries →
    s.ring.hasMember node = true

/-- A live link leads to a member. -/
theorem Sound.member_of_live {id : Nat} (h : Sound s) (hlive : s.pool.network.isLive id = true)
    (hleads : s.pool.network.Leads id node.text) : s.ring.hasMember node = true := by
  obtain ⟨a, hentry⟩ := h.pool.live id hlive
  obtain ⟨line, hline, htext⟩ := hleads
  obtain ⟨line', hline', htext'⟩ := h.pool.leads a id hentry
  rw [hline] at hline'
  cases hline'
  have hsame : node.toAddress = a := Address.text_injective (htext.symm.trans htext')
  exact h.members node id (hsame ▸ hentry)

/-! ## Executing -/

theorem executeOnce_of_ok (hget : s.ring.get key = .ok node) :
    executeOnce key c s = onPool (Pool.request node.toAddress c) s := by
  have hfinds : (nodeFor key : Action (Sharding τ) Node) s = (.ok node, s) := by
    rw [nodeFor, view_bind, hget]
    rfl
  exact bind_of_ok hfinds

theorem executeOnce_of_error {e : Failure} (hget : s.ring.get key = .error e) :
    executeOnce key c s = (.error e, s) := by
  have hfails : (nodeFor key : Action (Sharding τ) Node) s = (.error e, s) := by
    rw [nodeFor, view_bind, hget]
    rfl
  exact bind_of_error hfails

/-- A try goes to the owner of the key, and without one nothing happens. -/
theorem executeOnce_cases (h : executeOnce key c s = (out, s')) :
    (∃ e, s.ring.get key = .error e ∧ out = .error e ∧ s' = s) ∨
      ∃ node p, s.ring.get key = .ok node ∧ Pool.request node.toAddress c s.pool = (out, p) ∧
        s' = { s with pool := p } := by
  rcases hget : s.ring.get key with e | node
  · rw [executeOnce_of_error hget] at h
    cases h
    exact .inl ⟨e, rfl, rfl, rfl⟩
  · rw [executeOnce_of_ok hget] at h
    obtain ⟨p, hrequest, rfl⟩ := within_eq h
    exact .inr ⟨node, p, rfl, hrequest, rfl⟩

/-- The command was sent so many times at most, to one node alone, and the ring is as it was. -/
structure Sends (node : Node) (c : Command) (k : Nat) (s s' : Sharding τ) : Prop where
  ring : s'.ring = s.ring
  sound : Sound s → Sound s'
  confined : Confined (· = node.text) s.pool.network s'.pool.network
  sent : ∃ log, s'.pool.network.sent = s.pool.network.sent ++ log ∧ log.length ≤ k ∧
    ∀ x ∈ log, x.command = c

namespace Sends

variable {j k : Nat} {t : Sharding τ}

theorem of_eq (hring : s'.ring = s.ring) (hsound : Sound s → Sound s')
    (hdialled : s'.pool.network.dialled = s.pool.network.dialled)
    (hsent : s'.pool.network.sent = s.pool.network.sent)
    (hlines : s'.pool.network.lines = s.pool.network.lines) : Sends node c 0 s s' :=
  ⟨hring, hsound, .of_eq hdialled hsent hlines, [], by rw [hsent, List.append_nil],
    Nat.le_refl _, by simp⟩

theorem trans (h : Sends node c j s t) (h' : Sends node c k t s') : Sends node c (j + k) s s' := by
  obtain ⟨log, hlog, hlen, hcommand⟩ := h.sent
  obtain ⟨log', hlog', hlen', hcommand'⟩ := h'.sent
  refine ⟨h'.ring.trans h.ring, h'.sound ∘ h.sound, h.confined.trans h'.confined, log ++ log', ?_, ?_,
    fun x hx => ?_⟩
  · rw [hlog', hlog, List.append_assoc]
  · rw [List.length_append]
    omega
  · exact (List.mem_append.mp hx).elim (hcommand x) (hcommand' x)

end Sends

/-- Time passes and random words are drawn, and nothing else. -/
theorem Sound.paused (h : Sound s) (clock : Clock) (words : WordSource) :
    Sound (Timed.setClock clock (Timed.setWords words s)) :=
  ⟨h.laid, ⟨h.pool.free, h.pool.distinct, h.pool.leads, h.pool.live⟩, h.members⟩

variable [Transport.Lawful τ]

theorem Sound.request (h : Sound s) (hget : s.ring.get key = .ok node) {p : Pool τ}
    (hrequest : Pool.request node.toAddress c s.pool = (out, p)) :
    Sends node c 1 s { s with pool := p } := by
  obtain ⟨hpool, hserves⟩ := h.pool.request hrequest
  obtain ⟨ds, sent, -, hsent, hcontacts, -⟩ := Pool.request_contacts hrequest
  obtain ⟨log, hlog, hcommands⟩ := hcontacts.sent
  refine ⟨rfl, fun _ => ⟨h.laid, hpool, fun other id hentry => ?_⟩, hserves.confined, log, hlog, ?_,
    fun x hx => ?_⟩
  · rcases hserves.entries _ hentry with hsame | hold
    · obtain ⟨m, hm, howner⟩ := Ring.hasMember_iff.mp (Ring.hasMember_of_get h.laid hget)
      exact Ring.hasMember_iff.mpr ⟨m, hm, howner.trans hsame.symm⟩
    · exact h.members other id hold
  · have hlen := hsent.length_le
    rwa [← hcommands, List.length_map] at hlen
  · have hmem : x.command ∈ sent := hcommands ▸ List.mem_map_of_mem hx
    exact List.mem_singleton.mp (hsent.subset hmem)

variable {r : Ring} {t t' : Sharding τ}

/-- A try goes to the owner of the key in the ring that it finds, and keeps that ring. -/
theorem executeOnce_sends (ht : Sound t ∧ t.ring = r) (hget : r.get key = .ok node)
    (h : executeOnce key c t = (out, t')) : (Sound t' ∧ t'.ring = r) ∧ Sends node c 1 t t' := by
  obtain ⟨hsound, rfl⟩ := ht
  rcases executeOnce_cases h with ⟨e, hnone, -, -⟩ | ⟨owner, p, howner, hrequest, rfl⟩
  · rw [hget] at hnone
    cases hnone
  · rw [hget] at howner
    cases howner
    have hsends := hsound.request hget hrequest
    exact ⟨⟨hsends.sound hsound, rfl⟩, hsends⟩

omit [Transport.Lawful τ] in
theorem pause_keeps {heedful : Bool} {nanos : Nat} {words : WordSource} {out : Outcome Unit}
    (ht : Sound t ∧ t.ring = r)
    (h : RetryPolicy.pause heedful nanos (Timed.setWords words t) = (out, t')) :
    Sound t' ∧ t'.ring = r := by
  obtain rfl := congrArg Prod.snd h
  exact ⟨ht.1.paused _ _, ht.2⟩

omit [Transport.Lawful τ] in
theorem pause_sends {heedful : Bool} {nanos : Nat} {words : WordSource} {out : Outcome Unit}
    (h : RetryPolicy.pause heedful nanos (Timed.setWords words t) = (out, t')) :
    Sends node c 0 t t' := by
  obtain rfl := congrArg Prod.snd h
  exact .of_eq rfl (fun h => h.paused _ _) rfl rfl rfl

omit [Transport.Lawful τ] in
theorem execute_calls (h : execute key c s = (out, s')) :
    s.retry.Calls false (fun _ => executeOnce key c) s.retry.maxRetries 0 s out s' :=
  RetryPolicy.callFrom_calls h

/-- With an owner all tries go to it. -/
theorem execute_sends (hs : Sound s) (hget : s.ring.get key = .ok node)
    (h : execute key c s = (out, s')) : Sends node c (s.retry.maxRetries + 1) s s' := by
  have hcosts : ∃ k, k ≤ (s.retry.maxRetries + 1) * 1 ∧ Sends node c k s s' :=
    (execute_calls h).costs (P := fun t => Sound t ∧ t.ring = s.ring) ⟨hs, rfl⟩
      (fun t => .of_eq rfl id rfl rfl rfl) (fun h h' => h.trans h')
      (fun ht htry => (executeOnce_sends ht hget htry).imp_right fun hsends =>
        ⟨1, Nat.le_refl 1, hsends⟩)
      (fun ht hpause => ⟨pause_keeps ht hpause, pause_sends hpause⟩)
  obtain ⟨k, hk, hsends⟩ := hcosts
  obtain ⟨log, hlog, hlen, hcommand⟩ := hsends.sent
  exact ⟨hsends.ring, hsends.sound, hsends.confined, log, hlog, by omega, hcommand⟩

/-- A reply that an execution gives was read from the link of the owner, over which the command
was sent last of all. -/
theorem execute_answered {reply : Frame} (hs : Sound s) (hget : s.ring.get key = .ok node)
    (h : execute key c s = (.ok reply, s')) :
    ∃ id, s'.pool.find? node.toAddress = some id ∧
      s'.pool.network.sent.getLast? = some ⟨s'.pool.network.addressOf id, id, c⟩ := by
  obtain ⟨n, t, ⟨-, hring⟩, htry⟩ := (execute_calls h).of_ok_from
    (P := fun t => Sound t ∧ t.ring = s.ring) ⟨hs, rfl⟩
    (fun ht htry => (executeOnce_sends ht hget htry).1)
    (fun ht hpause => pause_keeps ht hpause)
  rcases executeOnce_cases htry with ⟨e, -, hout, -⟩ | ⟨owner, p, howner, hrequest, rfl⟩
  · cases hout
  · rw [hring, hget] at howner
    cases howner
    rcases Pool.request_cases hrequest with ⟨f, -, hmany⟩ | ⟨stop, hstop, -⟩
    · obtain ⟨-, id, hfind, hsent⟩ := (Pool.requestMany_requested hmany).contacts
      exact ⟨id, hfind, by rw [hsent]; simp⟩
    · exact absurd hstop.symm stopped_ne_ok

/-! ## Without an owner -/

/-- Nothing was done but waiting. -/
structure Idle (s s' : Sharding τ) : Prop where
  ring : s'.ring = s.ring
  sound : Sound s → Sound s'
  entries : s'.pool.entries = s.pool.entries
  confined : Confined (fun _ => False) s.pool.network s'.pool.network
  deadline : (Timed.clock s').deadline = (Timed.clock s).deadline

omit [Transport.Lawful τ] in
/-- Without a deadline a pause comes to its end. -/
theorem pause_idle {nanos : Nat} {words : WordSource} {out : Outcome Unit}
    (h : RetryPolicy.pause false nanos (Timed.setWords words s) = (out, s')) :
    Idle s s' ∧ ((Timed.clock s).deadline = none → out = .ok ()) := by
  have h : within Timed.clock Timed.setClock (Clock.wait (Clock.millis nanos))
      (Timed.setWords words s) = (out, s') := h
  obtain ⟨clock, hwait, rfl⟩ := within_eq h
  have hends := Clock.wait_deadline (Clock.millis nanos) (Timed.clock (Timed.setWords words s))
  rw [hwait] at hends
  exact ⟨⟨rfl, fun h => h.paused _ _, rfl, .of_eq rfl rfl rfl, hends.1⟩, hends.2⟩

omit [Transport.Lawful τ] in
/-- Without an owner nothing is done but waiting between tries that fail. -/
theorem calls_unowned {policy : RetryPolicy} {left failures : Nat}
    (h : policy.Calls false (fun _ => executeOnce key c) left failures s out s')
    (hget : s.ring.get key = .error .emptyRing) :
    Idle s s' ∧ ((Timed.clock s).deadline = none → out = .error .emptyRing) := by
  have htry : ∀ {s s' : Sharding τ} {out : Outcome Frame}, s.ring.get key = .error .emptyRing →
      executeOnce key c s = (out, s') → out = .error .emptyRing ∧ s' = s := by
    intro s s' out hget h
    rcases executeOnce_cases h with ⟨e, hnone, rfl, rfl⟩ | ⟨owner, p, howner, -, -⟩
    · rw [hget] at hnone
      cases hnone
      exact ⟨rfl, rfl⟩
    · rw [hget] at howner
      cases howner
  induction h with
  | givenUp hheedful => cases hheedful
  | last _ h =>
      obtain ⟨rfl, rfl⟩ := htry hget h
      exact ⟨⟨rfl, id, rfl, .refl _, rfl⟩, fun _ => rfl⟩
  | again _ h _ hpause _ ih =>
      obtain ⟨-, rfl⟩ := htry hget h
      obtain ⟨hidle, -⟩ := pause_idle hpause
      obtain ⟨hidle', hout⟩ := ih (by rw [hidle.ring, hget])
      refine ⟨⟨hidle'.ring.trans hidle.ring, hidle'.sound ∘ hidle.sound,
        hidle'.entries.trans hidle.entries, hidle.confined.trans hidle'.confined,
        hidle'.deadline.trans hidle.deadline⟩, fun hnone => ?_⟩
      exact hout (hidle.deadline.trans hnone)
  | interrupted _ h _ hpause =>
      obtain ⟨-, rfl⟩ := htry hget h
      obtain ⟨hidle, hends⟩ := pause_idle hpause
      exact ⟨hidle, fun hnone => absurd (hends hnone) stopped_ne_ok⟩

/-! ## Runs -/

/-- What callers ask of the servers. -/
inductive Operation where
  | add (node : Node) (weight : Nat)
  | remove (node : Node)
  | execute (key : Bytes) (c : Command)

/-- Does an operation. -/
def Operation.perform : Operation → Action (Sharding τ) Unit
  | .add node weight => Sharding.add node weight
  | .remove node => do
    let _ ← Sharding.remove node
    pure ()
  | .execute key c => do
    let _ ← Sharding.execute key c
    pure ()

/-- Operations lead from one state to another, each after the end of the one before or after
its caller gave up. In between time passes, and callers come and go with deadlines of their
own. -/
inductive Run (s₀ : Sharding τ) : List Operation → Sharding τ → Prop
  | start : Run s₀ [] s₀
  | waits {ops : List Operation} {s : Sharding τ} (h : Run s₀ ops s) (clock : Clock) :
      Run s₀ ops (Timed.setClock clock s)
  | step {ops : List Operation} {op : Operation} {s s' : Sharding τ} {out : Outcome Unit}
      (h : Run s₀ ops s) (hop : op.perform s = (out, s')) : Run s₀ (ops ++ [op]) s'

/-- What executing a command comes to, by the owner of its key at that moment. -/
inductive Executed (key : Bytes) (c : Command) (s : Sharding τ) :
    Outcome Frame → Sharding τ → Prop
  /-- However often the command was tried, it was sent over links to the owner alone, and a reply
  was read from the link that the owner has now. -/
  | owned {node : Node} {out : Outcome Frame} {s' : Sharding τ}
      (howner : s.ring.get key = .ok node) (hring : s'.ring = s.ring)
      (hconfined : Confined (· = node.text) s.pool.network s'.pool.network)
      (hsent : ∃ log, s'.pool.network.sent = s.pool.network.sent ++ log ∧
        log.length ≤ s.retry.maxRetries + 1 ∧
        ∀ x ∈ log, x.command = c ∧ s'.pool.network.Leads x.link node.text)
      (hreply : ∀ reply, out = .ok reply → ∃ id, s'.pool.find? node.toAddress = some id ∧
        s'.pool.network.sent.getLast? = some ⟨s'.pool.network.addressOf id, id, c⟩) :
      Executed key c s out s'
  /-- Nobody was contacted, and unless the caller gave up he learns why. -/
  | unowned {out : Outcome Frame} {s' : Sharding τ}
      (hnobody : s.ring.get key = .error .emptyRing) (hidle : Idle s s')
      (hout : (Timed.clock s).deadline = none → out = .error .emptyRing) :
      Executed key c s out s'

omit [Transport.Lawful τ] in
theorem Sends.over_links {k : Nat} (h : Sends node c k s s') :
    ∃ log, s'.pool.network.sent = s.pool.network.sent ++ log ∧ log.length ≤ k ∧
      ∀ x ∈ log, x.command = c ∧ s'.pool.network.Leads x.link node.text := by
  obtain ⟨log, hlog, hlen, hcommand⟩ := h.sent
  obtain ⟨log', hlog', hleads⟩ := h.confined.sent
  obtain rfl : log' = log := List.append_cancel_left (hlog'.symm.trans hlog)
  refine ⟨log', hlog, hlen, fun x hx => ⟨hcommand x hx, ?_⟩⟩
  obtain ⟨haddress, hleads⟩ := hleads x hx
  rwa [← haddress]

theorem Sound.execute (hs : Sound s) (h : Sharding.execute key c s = (out, s')) :
    Sound s' ∧ Executed key c s out s' := by
  rcases hget : s.ring.get key with e | node
  · obtain rfl := Ring.get_eq_error hget
    obtain ⟨hidle, hout⟩ := calls_unowned (execute_calls h) hget
    exact ⟨hidle.sound hs, .unowned hget hidle hout⟩
  · have hsends := execute_sends hs hget h
    refine ⟨hsends.sound hs, .owned hget hsends.ring hsends.confined hsends.over_links ?_⟩
    rintro reply rfl
    exact execute_answered hs hget h

omit [Transport.Lawful τ] in
theorem Sound.add (hs : Sound s) {out : Outcome Unit}
    (h : Sharding.add node weight s = (out, s')) : Sound s' := by
  unfold Sharding.add at h
  rw [view_bind] at h
  rcases bind_cases h with ⟨ring, s₁, hadd, hput⟩ | ⟨stop, hadd, -⟩
  · obtain ⟨hadd, rfl⟩ := ofExcept_eq_ok hadd
    cases hput
    exact ⟨Ring.add_laid hadd, hs.pool, fun other id hentry =>
      Ring.hasMember_add hadd (hs.members other id hentry)⟩
  · obtain rfl := ofExcept_state hadd
    exact hs

/-- With a member goes its link. -/
theorem Sound.remove (hs : Sound s) (node : Node) :
    Sound (Sharding.remove node s).2 ∧
      (Sharding.remove node s).2.ring.hasMember node = false := by
  unfold Sharding.remove
  split
  · rename_i hmember
    obtain ⟨hpool, hserves, hgone⟩ := hs.pool.evict node.toAddress
    refine ⟨⟨Ring.remove_laid hs.laid, hpool, fun other id hentry => ?_⟩, ?_⟩
    · have hne : other.toAddress ≠ node.toAddress := hgone _ hentry
      have hold := (hserves.entries _ hentry).resolve_left hne
      exact Ring.hasMember_remove.mpr ⟨hs.members other id hold, hne⟩
    · exact Bool.eq_false_iff.mpr fun hstill => (Ring.hasMember_remove.mp hstill).2 rfl
  · rename_i hnone
    exact ⟨hs, Bool.eq_false_iff.mpr hnone⟩

theorem Sound.perform (hs : Sound s) {op : Operation} {out : Outcome Unit}
    (h : op.perform s = (out, s')) : Sound s' := by
  cases op with
  | add node weight => exact hs.add h
  | remove node =>
      obtain ⟨hremoved, -⟩ := hs.remove node
      rcases bind_unit_eq h with ⟨found, hrun, -⟩ | ⟨stop, hrun, -⟩
      · rwa [hrun] at hremoved
      · rwa [hrun] at hremoved
  | execute key c =>
      rcases bind_unit_eq h with ⟨reply, hrun, -⟩ | ⟨stop, hrun, -⟩
      · exact (hs.execute hrun).1
      · exact (hs.execute hrun).1

theorem Sound.run {ops : List Operation} (hs : Sound s) (h : Run s ops s') : Sound s' := by
  induction h with
  | start => exact hs
  | @waits _ s _ clock ih => exact ih.paused clock (Timed.words s)
  | step _ hop ih => exact ih.perform hop

/-- **Sharding writes to owners only.** It starts with any ring, over a network without links.
After any operations, however they fail and whatever the servers do: the links of the pool lead
to members of the ring, every live link is among them, and a member that is removed keeps none.
A command is sent to the owner of its key in the ring as it is, in every try; and if the key has
no owner nobody is contacted, and the failure is that of an empty ring. -/
theorem Run.writes_to_owners {base : Nat} {changes : List Ring.Change} {n : Network τ}
    {retry : RetryPolicy} {ops : List Operation} (hlines : n.lines = [])
    (h : Run { ring := .ofHistory base changes, pool := { network := n }, retry } ops s) :
    (∀ (node : Node) (id : Nat), (node.toAddress, id) ∈ s.pool.entries →
        s.ring.hasMember node = true ∧ s.pool.network.Leads id node.text) ∧
      (∀ id, s.pool.network.isLive id = true →
        ∃ node : Node, (node.toAddress, id) ∈ s.pool.entries) ∧
      (∀ (node : Node) (id : Nat), (Sharding.remove node s).2.pool.network.isLive id = true →
        ¬(Sharding.remove node s).2.pool.network.Leads id node.text) ∧
      ∀ key c out s', Sharding.execute key c s = (out, s') → Executed key c s out s' := by
  have hstart : Sound { ring := .ofHistory base changes, pool := { network := n }, retry } := by
    obtain ⟨hbase, hlaid⟩ := Ring.ofHistory_laid base changes
    refine ⟨?_, .new hlines, fun node id hentry => absurd hentry List.not_mem_nil⟩
    rw [hbase]
    exact hlaid
  have hs := hstart.run h
  refine ⟨fun node id hentry => ⟨hs.members node id hentry, hs.pool.leads _ id hentry⟩,
    fun id hlive => ?_, fun node id hlive hleads => ?_,
    fun key c out s' hrun => (hs.execute hrun).2⟩
  · obtain ⟨a, hentry⟩ := hs.pool.live id hlive
    exact ⟨{ a with }, hentry⟩
  · obtain ⟨hremoved, hgone⟩ := hs.remove node
    rw [hremoved.member_of_live hlive hleads] at hgone
    cases hgone

/-- One server that answers once. -/
def oneServer : Sharding :=
  { ring := .ofHistory 4 [.add { host := "a", port := 1 } 1],
    pool := { network := { scripts :=
      [("a:1", [{ greeting := .accepts (Utf8.encode "+OK\r\n") .silent }])] } },
    retry := .never }

/-- The server owns all keys. -/
theorem get_oneServer (key : Bytes) :
    oneServer.ring.get key = .ok { host := "a", port := 1 } := by
  have hmembers : oneServer.ring.members = [({ host := "a", port := 1 }, 1)] := by decide
  obtain ⟨hbase, hlaid⟩ := Ring.ofHistory_laid 4 [.add { host := "a", port := 1 } 1]
  have hlaid : oneServer.ring.owned = Ring.layout oneServer.ring.base oneServer.ring.members := by
    rw [show oneServer.ring.base = 4 from hbase]
    exact hlaid
  have hfits : Ring.Fits oneServer.ring.base oneServer.ring.members := by
    rw [show oneServer.ring.base = 4 from hbase, hmembers]
    unfold Ring.Fits
    decide
  rcases hget : oneServer.ring.get key with e | node
  · obtain ⟨-, hnone⟩ := (Ring.ownerOf_eq_error hfits hlaid).mp hget
    rw [show oneServer.ring.base = 4 from hbase, hmembers] at hnone
    exact absurd ⟨0, by decide, .inl rfl⟩ (hnone _ List.mem_cons_self _)
  · obtain ⟨m, hm, rfl⟩ := Ring.mem_of_ownerOf hlaid hget
    rw [hmembers] at hm
    rw [List.mem_singleton.mp hm]

/-- What is left of it after a command. -/
def served : Sharding :=
  { oneServer with pool := (Pool.request ⟨"a", 1⟩ .ping oneServer.pool).2 }

/-- A command opens the link to the server, and removing the server gives it up. -/
theorem Run.writes_to_owners_oneServer :
    Run oneServer [.execute [107] .ping] served ∧ served.pool.network.isLive 0 = true ∧
      (Sharding.remove { host := "a", port := 1 } served).2.pool.network.isLive 0 = false := by
  have hrequest : Pool.request ⟨"a", 1⟩ .ping oneServer.pool = (.ok (.simple [79, 75]), served.pool) := by
    rfl
  have htry : executeOnce [107] .ping oneServer = (.ok (.simple [79, 75]), served) := by
    rw [executeOnce_of_ok (get_oneServer [107])]
    exact within_of hrequest
  have hexecute : Sharding.execute [107] .ping oneServer = (.ok (.simple [79, 75]), served) :=
    RetryPolicy.callFrom_of_calls (.last rfl htry (by rintro e ⟨⟩))
  have hop : (Operation.execute [107] .ping).perform oneServer = (.ok (), served) :=
    bind_of_ok hexecute
  have hrun := Run.start.step hop
  have hleads : (Sharding.remove { host := "a", port := 1 } served).2.pool.network.Leads 0 "a:1" := by
    apply Option.map_eq_some_iff.mp
    decide +kernel
  obtain ⟨-, -, hgone, -⟩ := Run.writes_to_owners rfl hrun
  refine ⟨hrun, by decide +kernel, ?_⟩
  exact Bool.eq_false_iff.mpr fun hlive => hgone { host := "a", port := 1 } 0 hlive hleads

end RespClient.Sharding
