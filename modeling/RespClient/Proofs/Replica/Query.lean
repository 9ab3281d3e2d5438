import RespClient.Proofs.Pool.Answering
import RespClient.Proofs.Pool.Contact
import RespClient.Replica.Discovery

/-!
# What a query does

A query asks one sentinel up to three questions, over the link that it has to that sentinel
or over a new one. It stops at the first failure. Whatever becomes of it, the sentinel stays
the active one and the others wait in their queue. If all goes well the set it gives is made
of what the sentinel said, and so are the other sentinels it names.
-/

namespace RespClient.Discovery

open RespClient.Action

variable {τ α β : Type} [Transport τ] {node : Node} {d : Discovery}
  {s s' s₁ : Discovery × Network τ}

omit [Transport τ] in
theorem onNetwork_eq {x : Action (Network τ) α} {out : Outcome α} (h : onNetwork x s = (out, s')) :
    ∃ n, x s.2 = (out, n) ∧ s' = (s.1, n) :=
  within_eq h

/-! ## Questions -/

/-- The commands of a query, in order. -/
def questions (d : Discovery) : List Command :=
  let service := Utf8.encode d.service
  [.sentinelMaster service, .sentinelReplicas service] ++
    if d.learns then [.sentinelPeers service] else []

/-- An action sends a leading part of these commands over a link, and all of them if it gives
a value. It uses no other link and changes nothing that is known about sentinels. -/
def Tells (id : Nat) (cs : List Command) (x : Action (Discovery × Network τ) α) : Prop :=
  ∀ ⦃s out s'⦄, x s = (out, s') → s'.1 = s.1 ∧
    ∃ sent, sent <+: cs ∧ Network.Uses id sent s.2 s'.2 ∧ ∀ a, out = .ok a → sent = cs

namespace Tells

variable {id : Nat} {cs cs' : List Command} {x : Action (Discovery × Network τ) α}
  {f : α → Action (Discovery × Network τ) β}

theorem give (a : α) : Tells id [] (Action.give a : Action (Discovery × Network τ) α) := by
  intro s out s' h
  cases h
  exact ⟨rfl, [], List.nil_prefix, .refl _, fun _ _ => rfl⟩

theorem fail (e : Failure) : Tells id cs (Action.fail e : Action (Discovery × Network τ) α) := by
  intro s out s' h
  cases h
  exact ⟨rfl, [], List.nil_prefix, .refl _, by rintro a ⟨⟩⟩

theorem ofExcept (r : Except Failure α) :
    Tells id [] (Action.ofExcept r : Action (Discovery × Network τ) α) := by
  cases r with
  | ok a => exact give a
  | error e => exact fail e

theorem bind (hx : Tells id cs x) (hf : ∀ a, Tells id cs' (f a)) :
    Tells id (cs ++ cs') (x >>= f) := by
  intro s out s' h
  rcases bind_cases h with ⟨a, s₁, hrun, hnext⟩ | ⟨stop, hrun, rfl⟩
  · obtain ⟨hsame, sent, -, huses, hall⟩ := hx hrun
    obtain ⟨hsame', sent', hsent', huses', hall'⟩ := hf a hnext
    obtain rfl := hall a rfl
    refine ⟨hsame'.trans hsame, sent ++ sent', ?_, huses.trans huses', ?_⟩
    · exact (List.prefix_append_right_inj sent).mpr hsent'
    · intro b hb
      rw [hall' b hb]
  · obtain ⟨hsame, sent, hsent, huses, -⟩ := hx hrun
    exact ⟨hsame, sent, hsent.trans (List.prefix_append _ _), huses,
      fun b hb => absurd hb stopped_ne_ok⟩

theorem ask (id : Nat) (c : Command) :
    Tells id [c] (ask id c : Action (Discovery × Network τ) Frame) := by
  have hrequest : Tells id [c]
      (onNetwork (Network.request id c) : Action (Discovery × Network τ) Frame) := by
    intro s out s' h
    obtain ⟨n, hrun, rfl⟩ := onNetwork_eq h
    obtain ⟨sent, hsent, huses, hall⟩ := Network.request_uses hrun
    exact ⟨rfl, sent, hsent, huses, hall⟩
  exact hrequest.bind fun reply => ofExcept reply.result

end Tells

/-! ## Reaching the sentinel -/

/-- The sentinel stays the active one, whether its link is there, opens or fails to open. -/
theorem reach_reaches {link : Option Nat} {out : Outcome Nat}
    (hactive : s.1.active = some (node, link)) (h : reach node s = (out, s')) :
    (∃ link, s'.1 = { s.1 with active := some (node, link) }) ∧
      ∃ ds, ds <+: [node.text] ∧ Contacts ds [] s.2 s'.2 := by
  unfold reach at h
  rw [view_bind] at h
  rcases hlink : liveLink? s with _ | id
  · rw [hlink] at h
    dsimp only at h
    rw [update_bind] at h
    have hconnected : ∀ {opened : Outcome Nat} {s₁ : Discovery × Network τ},
        onNetwork (Network.connect node.text)
          ({ s.1 with active := some (node, none) }, s.2) = (opened, s₁) →
        s₁.1 = { s.1 with active := some (node, none) } ∧ Contacts [node.text] [] s.2 s₁.2 := by
      intro opened s₁ hopened
      obtain ⟨n, hconnect, rfl⟩ := onNetwork_eq hopened
      exact ⟨rfl, Network.connect_contacts hconnect⟩
    rcases bind_cases h with ⟨id, s₁, hopened, hgive⟩ | ⟨stop, hopened, -⟩
    · obtain ⟨hsame, hcontacts⟩ := hconnected hopened
      cases hgive
      refine ⟨⟨some id, ?_⟩, [node.text], List.prefix_refl _, hcontacts⟩
      dsimp only
      rw [hsame]
    · obtain ⟨hsame, hcontacts⟩ := hconnected hopened
      exact ⟨⟨none, hsame⟩, [node.text], List.prefix_refl _, hcontacts⟩
  · rw [hlink] at h
    cases h
    exact ⟨⟨link, by rw [← hactive]⟩, [], List.nil_prefix, .refl _⟩

/-! ## The whole query -/

theorem query_eq (node : Node) (s : Discovery × Network τ) :
    query node s = (reach node >>= interrogate s.1 node) s := rfl

theorem askPeers_tells (d : Discovery) (node : Node) (id : Nat) :
    Tells id (if d.learns then [.sentinelPeers (Utf8.encode d.service)] else [])
      (askPeers d node id : Action (Discovery × Network τ) (List Node)) := by
  unfold askPeers
  split
  · exact (Tells.ask id _).bind fun _ => .ofExcept _
  · exact .give []

theorem interrogate_tells (d : Discovery) (node : Node) (id : Nat) :
    Tells id d.questions (interrogate d node id :
      Action (Discovery × Network τ) (ReplicaSet × List Node)) := by
  have hquestions : d.questions = [.sentinelMaster (Utf8.encode d.service)] ++ ([] ++
      ([.sentinelReplicas (Utf8.encode d.service)] ++ ([] ++
        ((if d.learns then [.sentinelPeers (Utf8.encode d.service)] else []) ++ [])))) := by
    simp [questions]
  rw [hquestions]
  refine (Tells.ask id _).bind fun reply => (Tells.ofExcept _).bind fun master => ?_
  refine (Tells.ask id _).bind fun reply => (Tells.ofExcept _).bind fun replicas => ?_
  exact (askPeers_tells d node id).bind fun peers => .give _

/-- The sentinel answered a question, and not by an error. -/
structure Replies (id : Nat) (c : Command) (n : Network τ) (reply : Frame) (n' : Network τ) :
    Prop where
  request : Network.request id c n = (.ok reply, n')
  plain : reply.asError = none

/-- What a sentinel names besides the set: other sentinels if they are learned, and else
nothing. -/
inductive Names (d : Discovery) (node : Node) (id : Nat) (n : Network τ) :
    List Node → Network τ → Prop
  | unasked (hlearns : d.learns = false) : Names d node id n [] n
  | asked {reply : Frame} {peers : List Node} {n' : Network τ} (hlearns : d.learns = true)
      (hreply : Replies id (.sentinelPeers (Utf8.encode d.service)) n reply n')
      (hpeers : Sentinel.readPeers reply node.text = .ok peers) : Names d node id n peers n'

/-- A sentinel reported a replica set, and other sentinels if they are learned. -/
inductive Reports (d : Discovery) (node : Node) (id : Nat) (n : Network τ) :
    ReplicaSet → List Node → Network τ → Prop
  | all {first second : Frame} {master : Node} {replicas peers : List Node} {n₁ n₂ n' : Network τ}
      (hfirst : Replies id (.sentinelMaster (Utf8.encode d.service)) n first n₁)
      (hmaster : d.readMaster first node.text = .ok master)
      (hsecond : Replies id (.sentinelReplicas (Utf8.encode d.service)) n₁ second n₂)
      (hreplicas : Sentinel.readReplicas second node.text = .ok replicas)
      (hnames : Names d node id n₂ peers n') :
      Reports d node id n (.ofMaster master replicas) peers n'

theorem replies_of_ask {id : Nat} {c : Command} {reply : Frame}
    (h : ask id c s = (.ok reply, s')) : s'.1 = s.1 ∧ Replies id c s.2 reply s'.2 := by
  obtain ⟨first, s₁, hrequest, hresult⟩ := bind_eq_ok.mp h
  obtain ⟨n, hrun, rfl⟩ := onNetwork_eq hrequest
  cases first <;> cases hresult <;> exact ⟨rfl, hrun, rfl⟩

theorem names_of_askPeers {id : Nat} {peers : List Node}
    (h : askPeers d node id s = (.ok peers, s')) : Names d node id s.2 peers s'.2 := by
  unfold askPeers at h
  split at h
  · rename_i hlearns
    obtain ⟨reply, s₁, hask, hread⟩ := bind_eq_ok.mp h
    obtain ⟨hpeers, rfl⟩ := ofExcept_eq_ok hread
    exact .asked hlearns (replies_of_ask hask).2 hpeers
  · rename_i hlearns
    cases h
    exact .unasked (by simpa using hlearns)

theorem reports_of_interrogate {id : Nat} {set : ReplicaSet} {peers : List Node}
    (h : interrogate d node id s = (.ok (set, peers), s')) :
    Reports d node id s.2 set peers s'.2 := by
  obtain ⟨first, s₁, hfirst, h₁⟩ := bind_eq_ok.mp h
  obtain ⟨master, s₂, hread, h₂⟩ := bind_eq_ok.mp h₁
  obtain ⟨second, s₃, hsecond, h₃⟩ := bind_eq_ok.mp h₂
  obtain ⟨replicas, s₄, hlist, h₄⟩ := bind_eq_ok.mp h₃
  obtain ⟨named, s₅, hnamed, hgive⟩ := bind_eq_ok.mp h₄
  obtain ⟨hmaster, rfl⟩ := ofExcept_eq_ok hread
  obtain ⟨hreplicas, rfl⟩ := ofExcept_eq_ok hlist
  cases hgive
  exact .all (replies_of_ask hfirst).2 hmaster (replies_of_ask hsecond).2 hreplicas
    (names_of_askPeers hnamed)

/-- What a query does to the search: the sentinel is the active one still, it was dialled at
most once and asked no more than the questions, in order, and what it gives the sentinel
reported. -/
structure Queried (node : Node) (s : Discovery × Network τ)
    (out : Outcome (ReplicaSet × List Node)) (s' : Discovery × Network τ) : Prop where
  active : ∃ link, s'.1 = { s.1 with active := some (node, link) }
  contacts : ∃ ds sent, ds <+: [node.text] ∧ sent <+: s.1.questions ∧ Contacts ds sent s.2 s'.2
  reports : ∀ set peers, out = .ok (set, peers) →
    ∃ id s₁, reach node s = (.ok id, s₁) ∧ Reports s.1 node id s₁.2 set peers s'.2

theorem query_queried {link : Option Nat} {out : Outcome (ReplicaSet × List Node)}
    (hactive : s.1.active = some (node, link)) (h : query node s = (out, s')) :
    Queried node s out s' := by
  rw [query_eq] at h
  rcases bind_cases h with ⟨id, s₁, hreach, hask⟩ | ⟨stop, hreach, rfl⟩
  · obtain ⟨hlink, ds, hds, hcontacts⟩ := reach_reaches hactive hreach
    obtain ⟨hsame, sent, hsent, huses, -⟩ := interrogate_tells s.1 node id hask
    constructor
    · rwa [hsame]
    · have hall := hcontacts.trans huses.contacts
      rw [List.append_nil, List.nil_append] at hall
      exact ⟨ds, sent, hds, hsent, hall⟩
    · rintro set peers rfl
      exact ⟨id, s₁, hreach, reports_of_interrogate hask⟩
  · obtain ⟨hlink, ds, hds, hcontacts⟩ := reach_reaches hactive hreach
    exact ⟨hlink, ⟨ds, [], hds, List.nil_prefix, hcontacts⟩,
      fun set peers hout => absurd hout stopped_ne_ok⟩

/-! ## The end of a query -/

variable [Transport.Lawful τ]

/-- The network that the sentinels are reached over answers. -/
def Answering (s : Discovery × Network τ) : Prop :=
  s.2.Answering

omit [Transport.Lawful τ] in
theorem ends_onNetwork {x : Action (Network τ) α} (hx : Ends Network.Answering x) :
    Ends Answering (onNetwork x : Action (Discovery × Network τ) α) :=
  hx.within (fun _ hs => hs) fun _ _ _ hn => hn

omit [Transport.Lawful τ] in
theorem ends_reach (node : Node) : Ends Answering (reach node : Action (Discovery × Network τ) Nat) := by
  have hmark : ∀ link, Ends Answering
      (update fun s : Discovery × Network τ => ({ s.1 with active := some (node, link) }, s.2)) :=
    fun link => .update fun s hs => hs
  refine (Ends.view _).bind fun link => ?_
  cases link with
  | some id => exact .give id
  | none =>
      refine (hmark none).bind fun _ => ?_
      refine (ends_onNetwork (Network.ends_connect _)).bind fun id => ?_
      exact (hmark (some id)).bind fun _ => .give id

theorem ends_ask (id : Nat) (c : Command) :
    Ends Answering (ask id c : Action (Discovery × Network τ) Frame) :=
  (ends_onNetwork (Network.ends_request id c)).bind fun _ => .ofExcept _

theorem ends_askPeers (d : Discovery) (node : Node) (id : Nat) :
    Ends Answering (askPeers d node id : Action (Discovery × Network τ) (List Node)) := by
  unfold askPeers
  split
  · exact (ends_ask id _).bind fun _ => .ofExcept _
  · exact .give []

theorem ends_query (node : Node) :
    Ends Answering (query node : Action (Discovery × Network τ) (ReplicaSet × List Node)) := by
  refine (Ends.view _).bind fun d => (ends_reach node).bind fun id => ?_
  refine (ends_ask id _).bind fun first => (Ends.ofExcept _).bind fun master => ?_
  refine (ends_ask id _).bind fun second => (Ends.ofExcept _).bind fun replicas => ?_
  exact (ends_askPeers d node id).bind fun peers => .give _

end RespClient.Discovery
