import RespClient.Proofs.Confinement
import RespClient.Proofs.Node.Address
import RespClient.Proofs.Replica.Search

/-!
# The list of sentinels

Sentinels are asked, dropped, learned and added, and the caller may give up in the middle of
a question, which costs the sentinel that was asked. Through all this no sentinel is listed
twice, so none is asked twice in a discovery. Whatever is done to a sentinel is done at its
address, and addresses are told apart by their text; so one that is not on the list any more
is left alone for as long as nobody names it again.
-/

namespace RespClient.Discovery

open RespClient.Action Network

variable {τ : Type} {d : Discovery} {node : Node} {heedful : Bool}
  {s s' t : Discovery × Network τ}

/-! ## Where the links lead -/

/-- The link to the active sentinel leads to it. -/
def Linked (s : Discovery × Network τ) : Prop :=
  ∀ (node : Node) (id : Nat), s.1.active = some (node, some id) → s.2.Leads id node.text

theorem Linked.advance (h : Linked s) : Linked (s.1.advance, s.2) := by
  obtain ⟨⟨service, learns, timeout, candidates, active⟩, n⟩ := s
  intro node id hactive
  cases active with
  | none =>
      cases candidates with
      | nil => cases hactive
      | cons first rest => cases hactive
  | some found => exact h node id hactive

theorem Linked.of_confined {P : String → Prop} (h : Linked s) (hactive : s'.1.active = s.1.active)
    (hconfined : Confined P s.2 s'.2) : Linked s' := by
  intro node id hlink
  exact hconfined.leads (h node id (hactive.symm.trans hlink))

theorem Linked.of_eq (h : Linked s) (hactive : s'.1.active = s.1.active)
    (hlines : s'.2.lines = s.2.lines) : Linked s' := by
  intro node id hlink
  rw [Leads, hlines]
  exact h node id (hactive.symm.trans hlink)

variable [Transport τ]

/-- The sentinel is reached at its address, over a link that leads there. -/
theorem reach_confined {link : Option Nat} {out : Outcome Nat} (hs : Linked s)
    (hactive : s.1.active = some (node, link)) (h : reach node s = (out, s')) :
    Confined (· = node.text) s.2 s'.2 ∧ Linked s' ∧
      ∀ id, out = .ok id → s'.2.Leads id node.text := by
  unfold reach at h
  rw [view_bind] at h
  rcases hlink : liveLink? s with _ | id
  · rw [hlink] at h
    dsimp only at h
    rw [update_bind] at h
    rcases bind_cases h with ⟨id, s₁, hopened, hgive⟩ | ⟨stop, hopened, rfl⟩
    · obtain ⟨n, hconnect, rfl⟩ := onNetwork_eq hopened
      cases hgive
      have hleads := connect_leads hconnect
      refine ⟨connect_confined hconnect, ?_, ?_⟩
      · rintro other id' hother
        cases hother
        exact hleads
      · rintro id' hid
        cases hid
        exact hleads
    · obtain ⟨n, hconnect, rfl⟩ := onNetwork_eq hopened
      refine ⟨connect_confined hconnect, ?_, fun id hid => absurd hid stopped_ne_ok⟩
      rintro other id' hother
      cases hother
  · rw [hlink] at h
    cases h
    refine ⟨.refl _, hs, fun id' hid => ?_⟩
    cases hid
    obtain ⟨hfound, -⟩ := Option.filter_eq_some_iff.mp hlink
    rw [hactive] at hfound
    obtain rfl : link = some id := hfound
    exact hs node id hactive

theorem query_confined {link : Option Nat} {out : Outcome (ReplicaSet × List Node)}
    (hs : Linked s) (hactive : s.1.active = some (node, link)) (h : query node s = (out, s')) :
    Confined (· = node.text) s.2 s'.2 ∧ Linked s' := by
  rw [query_eq] at h
  rcases bind_cases h with ⟨id, s₁, hreach, hask⟩ | ⟨stop, hreach, rfl⟩
  · obtain ⟨hconfined, hlinked, hleads⟩ := reach_confined hs hactive hreach
    obtain ⟨hsame, sent, -, huses, -⟩ := interrogate_tells s.1 node id hask
    have hconfined' := huses.confined (hleads id rfl)
    exact ⟨hconfined.trans hconfined', hlinked.of_confined (by rw [hsame]) hconfined'⟩
  · obtain ⟨hconfined, hlinked, -⟩ := reach_confined hs hactive hreach
    exact ⟨hconfined, hlinked⟩

theorem Attempt.confined {out : Outcome (ReplicaSet × List Node)}
    (h : Attempt heedful node s out s') (hs : Linked s) :
    Confined (· = node.text) s.2 s'.2 ∧ Linked s' := by
  obtain ⟨rest, hrest⟩ := List.head?_eq_some_iff.mp h.sentinels.2
  obtain ⟨link, hadvance⟩ := advance_of_cons hrest
  obtain ⟨before, after, run, t, hrun, rfl, -⟩ := limited_cases h.run
  have hactive : s.1.advance.active = some (node, link) := by rw [hadvance]
  have hbefore : Linked (Timed.setClock before (s.1.advance, s.2)) := hs.advance
  obtain ⟨hconfined, hlinked⟩ := query_confined hbefore hactive hrun
  -- setting the clock is nothing that is done anywhere
  have hfirst : Confined (· = node.text) s.2 (Timed.setClock before (s.1.advance, s.2)).2 :=
    .of_eq rfl rfl rfl
  have hlast : Confined (· = node.text) t.2 (Timed.setClock after t).2 := .of_eq rfl rfl rfl
  exact ⟨hfirst.trans (hconfined.trans hlast), hlinked⟩

theorem Drops.confined {nodes : List Node} (h : Drops heedful s nodes t) (hs : Linked s) :
    Confined (fun a => ∃ node ∈ nodes, a = node.text) s.2 t.2 ∧ Linked t := by
  induction h with
  | nobody s => exact ⟨.refl _, hs⟩
  | @next node nodes e s s₁ t hattempt he _ ih =>
      obtain ⟨hconfined, -⟩ := hattempt.confined hs
      have hdropped : Linked (s₁.1.dropActive, s₁.2) := by rintro node id ⟨⟩
      obtain ⟨hconfined', hlinked⟩ := ih hdropped
      refine ⟨.trans (hconfined.mono fun a ha => ?_) (hconfined'.mono fun a ha => ?_), hlinked⟩
      · exact ⟨node, List.mem_cons_self, ha⟩
      · obtain ⟨other, hother, ha⟩ := ha
        exact ⟨other, List.mem_cons_of_mem _ hother, ha⟩

/-! ## Whom a discovery asks -/

/-- No two of the nodes are the same. -/
def Distinct (nodes : List Node) : Prop :=
  nodes.Pairwise fun a b => a.same b = false

/-- Whom a discovery asks: sentinels that fail and are dropped, one after another, and behind
them at most one at which it stops. That one stays in front of those not asked, and others may
be learned from it. -/
inductive Asks (heedful : Bool) (s : Discovery × Network τ) :
    List Node → List Node → Discovery × Network τ → Prop
  | nobody {dropped : List Node} {t : Discovery × Network τ} (hdrops : Drops heedful s dropped t) :
      Asks heedful s dropped [] t
  | stops {dropped peers : List Node} {node : Node} {out : Outcome (ReplicaSet × List Node)}
      {t t' : Discovery × Network τ} (hdrops : Drops heedful s dropped t)
      (hattempt : Attempt heedful node t out t') :
      Asks heedful s dropped [node] (peers.foldl add t'.1, t'.2)

/-- How the list changes in a discovery: what was dropped is gone from its front, and behind
the rest there may be sentinels that are new. -/
structure Listed (dropped last rest : List Node) (s s' : Discovery × Network τ) : Prop where
  alike : Alike s.1 s'.1
  split : s.1.sentinels = dropped ++ rest
  front : last <+: rest
  after : ∃ peers, s'.1.sentinels = rest ++ Node.unknown rest peers ∧
    (s.1.learns = false → peers = [])

theorem Names.eq_nil {id : Nat} {n n' : Network τ} {peers : List Node}
    (h : Names d node id n peers n') (hlearns : d.learns = false) : peers = [] := by
  cases h with
  | unasked => rfl
  | asked hlearns' =>
      rw [hlearns] at hlearns'
      cases hlearns'

/-- Without learning an answer names nobody. -/
theorem Attempt.peers_eq_nil {set : ReplicaSet} {peers : List Node}
    (h : Attempt heedful node s (.ok (set, peers)) s') (hlearns : s.1.learns = false) :
    peers = [] := by
  obtain ⟨clock, id, t, n, -, hreports⟩ := h.reports set peers rfl
  cases hreports with
  | all _ _ _ _ hnames => exact hnames.eq_nil hlearns

theorem active_foldl_add (d : Discovery) (peers : List Node) :
    (peers.foldl add d).active = d.active := by
  induction peers generalizing d with
  | nil => rfl
  | cons peer peers ih =>
      rw [List.foldl_cons, ih, add]
      split <;> rfl

theorem discover_asks {out : Outcome ReplicaSet} (h : discover heedful s = (out, s')) :
    ∃ dropped last rest, Asks heedful s dropped last s' ∧ Listed dropped last rest s s' := by
  obtain ⟨dropped, t, hdrops, hsentinels, hend⟩ := search_drops (Nat.le_refl _) h
  have halike := hdrops.alike
  have hnobody : Asks heedful s dropped [] t ∧ Listed dropped [] t.1.sentinels s t :=
    ⟨.nobody hdrops, halike, hsentinels, List.nil_prefix, [], (List.append_nil _).symm, fun _ => rfl⟩
  have hstops : ∀ {node : Node} {asked : Outcome (ReplicaSet × List Node)}
      {t' : Discovery × Network τ} (peers : List Node), Attempt heedful node t asked t' →
      (t.1.learns = false → peers = []) →
      Asks heedful s dropped [node] (peers.foldl add t'.1, t'.2) ∧
        Listed dropped [node] t.1.sentinels s (peers.foldl add t'.1, t'.2) := by
    intro node asked t' peers hattempt hpeers
    obtain ⟨rest, hrest⟩ := List.head?_eq_some_iff.mp hattempt.sentinels.2
    refine ⟨.stops hdrops hattempt, halike.trans (hattempt.alike.trans (alike_foldl_add _ _)),
      hsentinels, ⟨rest, hrest.symm⟩, peers, ?_, ?_⟩
    · rw [sentinels_foldl_add, hattempt.sentinels.1]
    · rwa [← halike.learns]
  cases hend with
  | answered hattempt => exact ⟨dropped, _, _, hstops _ hattempt hattempt.peers_eq_nil⟩
  | failed hattempt => exact ⟨dropped, _, _, hstops [] hattempt fun _ => rfl⟩
  | cancelled => exact ⟨dropped, [], _, hnobody⟩
  | exhausted => exact ⟨dropped, [], _, hnobody⟩
  | hangs hattempt => exact ⟨dropped, _, _, hstops [] hattempt fun _ => rfl⟩

/-- Those that are asked, and nobody else, are contacted. -/
theorem Asks.confined {dropped last : List Node} (h : Asks heedful s dropped last s')
    (hs : Linked s) :
    Confined (fun a => ∃ node ∈ dropped ++ last, a = node.text) s.2 s'.2 ∧ Linked s' := by
  cases h with
  | nobody hdrops =>
      rw [List.append_nil]
      exact hdrops.confined hs
  | @stops peers node out t t' hdrops hattempt =>
      obtain ⟨hconfined, hlinked⟩ := hdrops.confined hs
      obtain ⟨hconfined', hlinked'⟩ := hattempt.confined hlinked
      refine ⟨.trans (hconfined.mono fun a ha => ?_) (hconfined'.mono fun a ha => ?_), ?_⟩
      · obtain ⟨other, hother, ha⟩ := ha
        exact ⟨other, List.mem_append_left _ hother, ha⟩
      · exact ⟨node, by simp, ha⟩
      · exact hlinked'.of_eq (active_foldl_add _ _) rfl

section

omit [Transport τ]

variable {dropped last rest : List Node}

theorem Listed.asked_prefix (h : Listed dropped last rest s s') :
    dropped ++ last <+: s.1.sentinels := by
  rw [h.split]
  exact (List.prefix_append_right_inj dropped).mpr h.front

/-- What is learned is new, so the list stays without repetitions. -/
theorem Listed.distinct (h : Listed dropped last rest s s') (hs : Distinct s.1.sentinels) :
    Distinct s'.1.sentinels := by
  obtain ⟨peers, hafter, -⟩ := h.after
  rw [Distinct, h.split, List.pairwise_append] at hs
  rw [hafter, Distinct, List.pairwise_append]
  exact ⟨hs.2.1, Node.pairwise_unknown _ _, fun a ha b hb => Node.not_same_of_mem_unknown ha hb⟩

/-- Without learning the list only becomes shorter. -/
theorem Listed.after_eq (h : Listed dropped last rest s s') (hlearns : s.1.learns = false) :
    s'.1.sentinels = rest := by
  obtain ⟨peers, hafter, hnone⟩ := h.after
  rw [hafter, hnone hlearns, Node.unknown, List.append_nil]

end

/-! ## Runs -/

/-- What the caller does. -/
inductive Move where
  | discover (heedful : Bool)
  | add (node : Node)

/-- What becomes of a move. A caller who gives a discovery up in the middle of a question
loses the sentinel that was asked. -/
inductive Step : Discovery × Network τ → Move → Discovery × Network τ → Prop
  | discovered {heedful : Bool} {out : Outcome ReplicaSet} {s s' : Discovery × Network τ}
      (h : discover heedful s = (out, s')) (hout : out ≠ .stalled) :
      Step s (.discover heedful) s'
  | givenUp {heedful : Bool} {s s' : Discovery × Network τ}
      (h : discover heedful s = (.stalled, s')) :
      Step s (.discover heedful) (s'.1.dropActive, s'.2)
  | added (s : Discovery × Network τ) (node : Node) : Step s (.add node) (s.1.add node, s.2)

/-- Moves lead from one state to another, each after the end of the one before. In between
time passes, and callers come and go with deadlines of their own. -/
inductive Run (s₀ : Discovery × Network τ) : List Move → Discovery × Network τ → Prop
  | start : Run s₀ [] s₀
  | waits {moves : List Move} {s : Discovery × Network τ} (h : Run s₀ moves s) (clock : Clock) :
      Run s₀ moves (Timed.setClock clock s)
  | step {moves : List Move} {move : Move} {s s' : Discovery × Network τ} (h : Run s₀ moves s)
      (hstep : Step s move s') : Run s₀ (moves ++ [move]) s'

/-- No sentinel is listed twice, and the link of the active one leads to it. -/
structure Tidy (s : Discovery × Network τ) : Prop where
  distinct : Distinct s.1.sentinels
  linked : Linked s

omit [Transport τ] in
theorem sentinels_add_eq_append (d : Discovery) (node : Node) :
    (d.add node).sentinels = d.sentinels ++ Node.unknown d.sentinels [node] :=
  sentinels_foldl_add d [node]

omit [Transport τ] in
theorem distinct_add (h : Distinct d.sentinels) (node : Node) : Distinct (d.add node).sentinels := by
  rw [sentinels_add_eq_append, Distinct, List.pairwise_append]
  exact ⟨h, Node.pairwise_unknown _ _, fun a ha b hb => Node.not_same_of_mem_unknown ha hb⟩

theorem Tidy.discover (h : Tidy s) {out : Outcome ReplicaSet}
    (hrun : Discovery.discover heedful s = (out, s')) : Tidy s' := by
  obtain ⟨dropped, last, rest, hasks, hlisted⟩ := discover_asks hrun
  exact ⟨hlisted.distinct h.distinct, (hasks.confined h.linked).2⟩

theorem Tidy.step {move : Move} (h : Tidy s) (hstep : Step s move s') : Tidy s' := by
  cases hstep with
  | discovered hrun => exact h.discover hrun
  | @givenUp _ _ t hrun =>
      obtain ⟨hdistinct, -⟩ := h.discover hrun
      refine ⟨List.Pairwise.sublist ?_ hdistinct, by rintro node id ⟨⟩⟩
      exact List.sublist_append_right _ _
  | added _ node =>
      refine ⟨distinct_add h.distinct node, h.linked.of_eq ?_ rfl⟩
      exact active_foldl_add s.1 [node]

theorem Tidy.run {moves : List Move} (h : Tidy s) (hrun : Run s moves s') : Tidy s' := by
  induction hrun with
  | start => exact h
  | waits _ clock ih => exact ⟨ih.distinct, ih.linked.of_eq rfl rfl⟩
  | step _ hstep ih => exact ih.step hstep

/-! ## Sentinels that are left alone -/

theorem text_ne_of_not_same {a b : Node} (h : a.same b = false) : a.text ≠ b.text := by
  intro htext
  have heq : a.toAddress = b.toAddress := Address.text_injective htext
  rw [Node.same, heq, beq_self_eq_true] at h
  cases h

/-- Nobody names the sentinel. -/
def Unnamed (node : Node) (moves : List Move) : Prop :=
  ∀ other, .add other ∈ moves → other.same node = false

/-- The sentinel is not listed, and no sentinel is learned. -/
structure Forgotten (node : Node) (s : Discovery × Network τ) : Prop where
  learns : s.1.learns = false
  unlisted : ∀ other ∈ s.1.sentinels, other.same node = false

omit [Transport τ] in
theorem Forgotten.dropActive (h : Forgotten node s) : Forgotten node (s.1.dropActive, s.2) :=
  ⟨h.learns, fun other hother => h.unlisted other (List.mem_append_right _ hother)⟩

/-- A discovery that does not learn leaves alone who is not listed. -/
theorem Forgotten.discover {out : Outcome ReplicaSet} (h : Forgotten node s) (hs : Linked s)
    (hrun : Discovery.discover heedful s = (out, s')) :
    Forgotten node s' ∧ Confined (· ≠ node.text) s.2 s'.2 := by
  obtain ⟨dropped, last, rest, hasks, hlisted⟩ := discover_asks hrun
  refine ⟨⟨hlisted.alike.learns.trans h.learns, fun other hother => h.unlisted other ?_⟩,
    (hasks.confined hs).1.mono ?_⟩
  · rw [hlisted.after_eq h.learns] at hother
    rw [hlisted.split]
    exact List.mem_append_right _ hother
  · rintro a ⟨other, hother, rfl⟩
    exact text_ne_of_not_same (h.unlisted other (hlisted.asked_prefix.subset hother))

theorem Forgotten.step {move : Move} (h : Forgotten node s) (hs : Linked s)
    (hmove : Unnamed node [move]) (hstep : Step s move s') :
    Forgotten node s' ∧ Confined (· ≠ node.text) s.2 s'.2 := by
  cases hstep with
  | discovered hrun => exact h.discover hs hrun
  | givenUp hrun =>
      obtain ⟨hforgotten, hconfined⟩ := h.discover hs hrun
      exact ⟨hforgotten.dropActive, hconfined⟩
  | added _ added =>
      refine ⟨⟨(alike_foldl_add s.1 [added]).learns.trans h.learns, fun other hother => ?_⟩, .refl s.2⟩
      rw [sentinels_add_eq_append, List.mem_append] at hother
      rcases hother with hother | hother
      · exact h.unlisted other hother
      · rw [List.mem_singleton.mp ((Node.unknown_sublist _ _).subset hother)]
        exact hmove added (List.mem_singleton_self _)

/-- Who is forgotten is left alone until he is named. -/
theorem Forgotten.run {moves : List Move} (h : Forgotten node s) (hs : Tidy s)
    (hmoves : Unnamed node moves) (hrun : Run s moves s') :
    Forgotten node s' ∧ Confined (· ≠ node.text) s.2 s'.2 := by
  induction hrun with
  | start => exact ⟨h, .refl _⟩
  | waits _ clock ih =>
      obtain ⟨hforgotten, hconfined⟩ := ih hmoves
      exact ⟨⟨hforgotten.learns, hforgotten.unlisted⟩, hconfined.trans (.of_eq rfl rfl rfl)⟩
  | step hrun hstep ih =>
      obtain ⟨hforgotten, hconfined⟩ := ih fun other hother =>
        hmoves other (List.mem_append_left _ hother)
      obtain ⟨hforgotten', hconfined'⟩ := hforgotten.step (hs.run hrun).linked
        (fun other hother => hmoves other (List.mem_append_right _ hother)) hstep
      exact ⟨hforgotten', hconfined.trans hconfined'⟩

omit [Transport τ] in
/-- Who was dropped is not on the list any more. -/
theorem Listed.forgotten {dropped last rest : List Node} (h : Listed dropped last rest s s')
    (hs : Distinct s.1.sentinels) (hlearns : s.1.learns = false) (hnode : node ∈ dropped) :
    Forgotten node s' := by
  refine ⟨h.alike.learns.trans hlearns, fun other hother => ?_⟩
  rw [h.after_eq hlearns] at hother
  rw [h.split, Distinct, List.pairwise_append] at hs
  rw [Node.same, Bool.beq_comm]
  exact hs.2.2 node hnode other hother

theorem Run.learns {s₀ : Discovery × Network τ} {moves : List Move} (h : Run s₀ moves s) :
    s.1.learns = s₀.1.learns := by
  induction h with
  | start => rfl
  | waits _ clock ih => exact ih
  | step _ hstep ih =>
      rw [← ih]
      cases hstep with
      | discovered hrun | givenUp hrun =>
          obtain ⟨dropped, last, rest, -, hlisted⟩ := discover_asks hrun
          exact hlisted.alike.learns
      | added _ node => exact (alike_foldl_add _ [node]).learns

/-- **Known sentinels stay unique and dropped ones stay dropped.** The configured sentinels
are without repetitions. Whatever discoveries and additions follow one another, on any network
and with callers that give up at any moment, no sentinel is listed twice. A discovery asks
sentinels from the front of the list, hence none of them twice, and contacts nobody else. If
sentinels are not learned, one that was dropped because it failed is left alone in all that
follows, until it is named again: it is not dialled and its links are not touched. -/
theorem Run.sentinels_distinct {s₀ : Discovery × Network τ} {moves : List Move}
    (hidle : s₀.1.active = none) (hconfigured : Distinct s₀.1.candidates) (h : Run s₀ moves s) :
    Distinct s.1.sentinels ∧
      ∀ heedful out s', discover heedful s = (out, s') →
        ∃ dropped last rest, Asks heedful s dropped last s' ∧ Listed dropped last rest s s' ∧
          Distinct (dropped ++ last) ∧
          Confined (fun a => ∃ node ∈ dropped ++ last, a = node.text) s.2 s'.2 ∧
          (s₀.1.learns = false → ∀ node ∈ dropped,
            ∀ after later s'', Step s (.discover heedful) after → Run after later s'' →
              Unnamed node later → Confined (· ≠ node.text) after.2 s''.2) := by
  have hstart : Tidy s₀ := by
    refine ⟨?_, fun node id hactive => ?_⟩
    · rw [sentinels, hidle]
      exact hconfigured
    · rw [hidle] at hactive
      cases hactive
  have hs : Tidy s := hstart.run h
  refine ⟨hs.distinct, fun heedful out s' hrun => ?_⟩
  obtain ⟨dropped, last, rest, hasks, hlisted⟩ := discover_asks hrun
  refine ⟨dropped, last, rest, hasks, hlisted, ?_, (hasks.confined hs.linked).1, ?_⟩
  · exact hs.distinct.sublist hlisted.asked_prefix.sublist
  · intro hlearns node hnode after later s'' hstep hlater hunnamed
    have hforgotten := hlisted.forgotten hs.distinct (h.learns.trans hlearns) hnode
    have hafter : Forgotten node after := by
      cases hstep with
      | discovered hrun' =>
          rw [hrun] at hrun'
          cases hrun'
          exact hforgotten
      | givenUp hrun' =>
          rw [hrun] at hrun'
          cases hrun'
          exact hforgotten.dropActive
    exact (hafter.run (hs.step hstep) hunnamed hlater).2

/-- Two sentinels: the first refuses to connect, and the second knows a master. -/
def twoSentinels : Discovery × Network :=
  let said := "*2\r\n$1\r\nm\r\n:1\r\n" ++ "*0\r\n"
  ({ service := "s", candidates := [{ host := "a", port := 1 }, { host := "b", port := 2 }] },
   { scripts := [("b:2", [{ greeting := .accepts (Utf8.encode said) .silent }])] })

/-- The first one is dropped, and from then on it is left alone. -/
theorem Run.sentinels_distinct_twoSentinels :
    Run twoSentinels [.discover false] (discover false twoSentinels).2 ∧
      Distinct (discover false twoSentinels).2.1.sentinels ∧
      ∀ later s, Run (discover false twoSentinels).2 later s →
        Unnamed { host := "a", port := 1 } later →
          Confined (· ≠ "a:1") (discover false twoSentinels).2.2 s.2 := by
  have hends : (discover false twoSentinels).1 ≠ .stalled := by decide +kernel
  have hstep : Step twoSentinels (.discover false) (discover false twoSentinels).2 :=
    .discovered rfl hends
  have hrun := Run.start.step hstep
  have hconfigured : Distinct twoSentinels.1.candidates := by
    unfold Distinct
    decide
  obtain ⟨hdistinct, -⟩ := Run.sentinels_distinct rfl hconfigured hrun
  obtain ⟨-, hasks⟩ := Run.sentinels_distinct rfl hconfigured .start
  obtain ⟨dropped, last, rest, -, hlisted, -, -, haway⟩ :=
    hasks false (discover false twoSentinels).1 (discover false twoSentinels).2 rfl
  have hleft : (discover false twoSentinels).2.1.sentinels = [{ host := "b", port := 2 }] := by
    decide +kernel
  have hdropped : [{ host := "a", port := 1 }] = dropped := by
    have hsplit := hlisted.split
    rw [← hlisted.after_eq rfl, hleft] at hsplit
    exact List.append_cancel_right hsplit
  refine ⟨hrun, hdistinct, fun later s hlater hunnamed => ?_⟩
  exact haway rfl _ (hdropped ▸ List.mem_singleton_self _) _ later s hstep hlater hunnamed

end RespClient.Discovery
