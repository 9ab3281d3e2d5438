import RespClient.Proofs.Node.Unknown
import RespClient.Proofs.Replica.Query

/-!
# How sentinels are used up

A search takes its sentinels in order and asks each of them once. One that cannot be reached,
is too slow or makes no sense is dropped, and the search goes on with those behind it. Any
other end leaves the rest of the sentinels as they are, the one asked last included; a good
answer may add more behind them.
-/

namespace RespClient.Discovery

open RespClient.Action

variable {τ α : Type} {d d' : Discovery} {node : Node} {rest peers : List Node} {heedful : Bool}

/-! ## The list of sentinels -/

/-- What is looked for, and how, is the same. -/
structure Alike (d d' : Discovery) : Prop where
  service : d'.service = d.service
  learns : d'.learns = d.learns
  timeout : d'.timeout = d.timeout

theorem Alike.trans {d'' : Discovery} (h : Alike d d') (h' : Alike d' d'') : Alike d d'' :=
  ⟨h'.service.trans h.service, h'.learns.trans h.learns, h'.timeout.trans h.timeout⟩

theorem advance_of_cons (h : d.sentinels = node :: rest) :
    ∃ link, d.advance = { d with active := some (node, link), candidates := rest } := by
  obtain ⟨service, learns, timeout, candidates, active⟩ := d
  cases active with
  | none =>
      have hcandidates : candidates = node :: rest := h
      subst hcandidates
      exact ⟨none, rfl⟩
  | some found =>
      obtain ⟨first, link⟩ := found
      have hfirst : first :: candidates = node :: rest := h
      cases hfirst
      exact ⟨link, rfl⟩

theorem advance_of_nil (h : d.sentinels = []) : d.active = none ∧ d.advance = d := by
  obtain ⟨service, learns, timeout, candidates, active⟩ := d
  cases active with
  | none =>
      have hcandidates : candidates = [] := h
      subst hcandidates
      exact ⟨rfl, rfl⟩
  | some found => cases h

theorem sentinels_add (d : Discovery) (node : Node) :
    (d.add node).sentinels = SlotMap.addOnce d.sentinels node := by
  unfold add SlotMap.addOnce knows
  split
  · rfl
  · exact (List.append_assoc _ _ _).symm

/-- Of the sentinels that are learned those not known yet go behind the others, each once. -/
theorem sentinels_foldl_add (d : Discovery) (peers : List Node) :
    (peers.foldl add d).sentinels = d.sentinels ++ Node.unknown d.sentinels peers := by
  have hfold : (peers.foldl add d).sentinels = peers.foldl SlotMap.addOnce d.sentinels := by
    induction peers generalizing d with
    | nil => rfl
    | cons peer peers ih => rw [List.foldl_cons, List.foldl_cons, ih, sentinels_add]
  rw [hfold, Node.foldl_addOnce]

theorem alike_foldl_add (d : Discovery) (peers : List Node) : Alike d (peers.foldl add d) := by
  induction peers generalizing d with
  | nil => exact ⟨rfl, rfl, rfl⟩
  | cons peer peers ih =>
      have hadd : Alike d (d.add peer) := by
        unfold add
        split
        · exact ⟨rfl, rfl, rfl⟩
        · exact ⟨rfl, rfl, rfl⟩
      exact hadd.trans (ih _)

theorem Reports.congr [Transport τ] (h : Alike d d') {id : Nat} {n n' : Network τ}
    {set : ReplicaSet} (hreports : Reports d' node id n set peers n') :
    Reports d node id n set peers n' := by
  obtain ⟨service, learns, timeout, candidates, active⟩ := d
  obtain ⟨service', learns', timeout', candidates', active'⟩ := d'
  obtain ⟨rfl, rfl, rfl⟩ := h
  cases hreports with
  | all hfirst hmaster hsecond hreplicas hnames =>
      refine .all hfirst hmaster hsecond hreplicas ?_
      cases hnames with
      | unasked hlearns => exact .unasked hlearns
      | asked hlearns hreply hpeers => exact .asked hlearns hreply hpeers

variable {s s' t : Discovery × Network τ}

/-! ## One attempt -/

/-- A limit in time changes the clock that an action runs by, and it may turn an action that
stalls into one that takes too long. -/
theorem limited_cases {limit : Option Nat} {endpoint : String}
    {x : Action (Discovery × Network τ) α} {out : Outcome α}
    (h : Timed.limited limit endpoint x s = (out, s')) :
    ∃ before after run t, x (Timed.setClock before s) = (run, t) ∧ s' = Timed.setClock after t ∧
      (run = out ∨ run = .stalled ∧ ∀ a, out ≠ .ok a) := by
  cases limit with
  | none => exact ⟨Timed.clock s, Timed.clock s', out, s', h, rfl, .inl rfl⟩
  | some millis =>
      unfold Timed.limited at h
      dsimp only at h
      generalize hdeadline : Timed.earlier _ _ = deadline at h
      rcases hrun : x (Timed.setDeadline deadline s) with ⟨run, t⟩
      rw [hrun] at h
      cases run with
      | stalled =>
          cases h
          refine ⟨_, _, _, _, hrun, rfl, .inr ⟨rfl, ?_⟩⟩
          split
          · rintro a ⟨⟩
          · rintro a ⟨⟩
      | ok a =>
          cases h
          exact ⟨_, _, _, _, hrun, rfl, .inl rfl⟩
      | error e =>
          cases h
          exact ⟨_, _, _, _, hrun, rfl, .inl rfl⟩

variable [Transport τ]

/-- The search asked its next sentinel: it dialled it at most once and put to it no more than
the questions, each once. The sentinel is the active one then, with the others behind it. -/
structure Attempt (heedful : Bool) (node : Node) (s : Discovery × Network τ)
    (out : Outcome (ReplicaSet × List Node)) (s' : Discovery × Network τ) : Prop where
  willing : (heedful && (Timed.clock s).isCancelled) = false
  run : Timed.limited s.1.timeout node.text (query node) (s.1.advance, s.2) = (out, s')
  sentinels : s'.1.sentinels = s.1.sentinels ∧ s.1.sentinels.head? = some node
  dropped : s'.1.dropActive.sentinels = s.1.sentinels.tail
  alike : Alike s.1 s'.1
  contacts : ∃ ds sent, ds <+: [node.text] ∧ sent <+: s.1.questions ∧ Contacts ds sent s.2 s'.2
  /-- What the search is given is what the sentinel reported, over its link. -/
  reports : ∀ set peers, out = .ok (set, peers) → ∃ clock id t n,
    reach node (s.1.advance, Timed.setClock clock s.2) = (.ok id, t) ∧
      Reports s.1 node id t.2 set peers n

theorem attempt_of {out : Outcome (ReplicaSet × List Node)}
    (hsentinels : s.1.sentinels = node :: rest)
    (hwilling : (heedful && (Timed.clock s).isCancelled) = false)
    (h : Timed.limited s.1.timeout node.text (query node) (s.1.advance, s.2) = (out, s')) :
    Attempt heedful node s out s' := by
  obtain ⟨link, hadvance⟩ := advance_of_cons hsentinels
  obtain ⟨before, after, run, t, hrun, rfl, hout⟩ := limited_cases h
  have hactive : (Timed.setClock before (s.1.advance, s.2)).1.active = some (node, link) := by
    show s.1.advance.active = _
    rw [hadvance]
  have hqueried := query_queried hactive hrun
  obtain ⟨link', hlink⟩ := hqueried.active
  replace hlink : t.1 = { s.1.advance with active := some (node, link') } := hlink
  rw [hadvance] at hlink
  have halike : Alike s.1 s.1.advance := by
    rw [hadvance]
    exact ⟨rfl, rfl, rfl⟩
  constructor
  · exact hwilling
  · exact h
  · show t.1.sentinels = _ ∧ _
    rw [hlink, hsentinels]
    exact ⟨rfl, rfl⟩
  · show t.1.dropActive.sentinels = _
    rw [hlink, hsentinels]
    rfl
  · show Alike s.1 t.1
    rw [hlink]
    exact ⟨rfl, rfl, rfl⟩
  · obtain ⟨ds, sent, hds, hsent, hcontacts⟩ := hqueried.contacts
    refine ⟨ds, sent, hds, ?_, hcontacts.dialled, hcontacts.sent, fun haccounted => ?_⟩
    · have hquestions : s.1.advance.questions = s.1.questions := by
        rw [hadvance]
        rfl
      rw [← hquestions]
      exact hsent
    · -- the clocks before and after are no part of the record
      exact (hcontacts.accounted (haccounted.of_eq rfl rfl)).of_eq rfl rfl
  · rintro set peers rfl
    rcases hout with rfl | ⟨-, hnone⟩
    · obtain ⟨id, t₁, hreach, hreports⟩ := hqueried.reports set peers rfl
      exact ⟨before, id, t₁, _, hreach, hreports.congr halike⟩
    · exact absurd rfl (hnone _)

/-! ## The whole search -/

/-- Sentinels were asked one after another, each of them failed in a way that disqualifies it,
and each was dropped. -/
inductive Drops (heedful : Bool) :
    Discovery × Network τ → List Node → Discovery × Network τ → Prop
  | nobody (s : Discovery × Network τ) : Drops heedful s [] s
  | next {node : Node} {nodes : List Node} {e : Failure} {s s₁ s' : Discovery × Network τ}
      (hattempt : Attempt heedful node s (.error e) s₁) (he : e.breaksLink = true)
      (h : Drops heedful (s₁.1.dropActive, s₁.2) nodes s') : Drops heedful s (node :: nodes) s'

/-- How a search ends, given the sentinels that are left. -/
inductive Concludes (heedful : Bool) (s : Discovery × Network τ) :
    Outcome ReplicaSet → Discovery × Network τ → Prop
  | answered {node : Node} {set : ReplicaSet} {peers : List Node} {s' : Discovery × Network τ}
      (hattempt : Attempt heedful node s (.ok (set, peers)) s')
      (hsentinels : (peers.foldl add s'.1).sentinels =
        s.1.sentinels ++ Node.unknown s.1.sentinels peers) :
      Concludes heedful s (.ok set) (peers.foldl add s'.1, s'.2)
  /-- The sentinel failed but it is there and makes sense. -/
  | failed {node : Node} {e : Failure} {s' : Discovery × Network τ}
      (hattempt : Attempt heedful node s (.error e) s') (he : e.breaksLink = false)
      (hsentinels : s'.1.sentinels = s.1.sentinels) : Concludes heedful s (.error e) s'
  /-- The caller gave up, and nobody is asked any more. -/
  | cancelled (hheedful : heedful = true) (hcancel : (Timed.clock s).isCancelled = true) :
      Concludes heedful s (.error .cancelled) s
  | exhausted (hwilling : (heedful && (Timed.clock s).isCancelled) = false)
      (hsentinels : s.1.sentinels = []) :
      Concludes heedful s (.error (.sentinelsExhausted s.1.service)) s
  | hangs {node : Node} {s' : Discovery × Network τ}
      (hattempt : Attempt heedful node s .stalled s')
      (hsentinels : s'.1.sentinels = s.1.sentinels) : Concludes heedful s .stalled s'

/-- A caller who gave up or a list that is used up ends the search at once. -/
theorem search_at_rest {left : Nat} {out : Outcome ReplicaSet}
    (hrest : (heedful && (Timed.clock s).isCancelled) = true ∨ s.1.sentinels = [])
    (h : search heedful left s = (out, s')) : Concludes heedful s out s' := by
  rw [search] at h
  by_cases hcancel : (heedful && (Timed.clock s).isCancelled) = true
  · rw [if_pos hcancel] at h
    cases h
    obtain ⟨hheedful, hcancel⟩ := Bool.and_eq_true_iff.mp hcancel
    exact .cancelled hheedful hcancel
  · have hsentinels := hrest.resolve_left hcancel
    obtain ⟨hactive, hadvance⟩ := advance_of_nil hsentinels
    rw [if_neg hcancel] at h
    simp only [hadvance, hactive] at h
    cases h
    exact .exhausted (Bool.eq_false_iff.mpr hcancel) hsentinels

theorem search_of_cons {left : Nat} (hwilling : (heedful && (Timed.clock s).isCancelled) = false)
    (hsentinels : s.1.sentinels = node :: rest) :
    search heedful (left + 1) s =
      match Timed.limited s.1.timeout node.text (query node) (s.1.advance, s.2) with
      | (.ok (set, peers), s) => (.ok set, (peers.foldl add s.1, s.2))
      | (.error e, s) =>
        if e.breaksLink then search heedful left (s.1.dropActive, s.2) else (.error e, s)
      | (.stalled, s) => (.stalled, s) := by
  obtain ⟨link, hadvance⟩ := advance_of_cons hsentinels
  rw [search, if_neg (by simp [hwilling])]
  generalize s.1.advance = opened at hadvance ⊢
  subst hadvance
  rfl

/-- A search that may ask all its sentinels drops some of them and then ends. -/
theorem search_drops {left : Nat} {out : Outcome ReplicaSet} (hleft : s.1.sentinels.length ≤ left)
    (h : search heedful left s = (out, s')) :
    ∃ dropped t, Drops heedful s dropped t ∧ s.1.sentinels = dropped ++ t.1.sentinels ∧
      Concludes heedful t out s' := by
  -- once no sentinel needs to be dropped the search ends from where it is
  have hatOnce : ∀ {s : Discovery × Network τ}, Concludes heedful s out s' →
      ∃ dropped t, Drops heedful s dropped t ∧ s.1.sentinels = dropped ++ t.1.sentinels ∧
        Concludes heedful t out s' :=
    fun {s} hend => ⟨[], s, .nobody s, (List.nil_append _).symm, hend⟩
  induction left generalizing s with
  | zero =>
      have hnil : s.1.sentinels = [] := List.length_eq_zero_iff.mp (Nat.le_zero.mp hleft)
      exact hatOnce (search_at_rest (.inr hnil) h)
  | succ left ih =>
      by_cases hcancel : (heedful && (Timed.clock s).isCancelled) = true
      · exact hatOnce (search_at_rest (.inl hcancel) h)
      rcases hsentinels : s.1.sentinels with _ | ⟨node, rest⟩
      · rw [← hsentinels]
        exact hatOnce (search_at_rest (.inr hsentinels) h)
      have hwilling := Bool.eq_false_iff.mpr hcancel
      rcases hrun : Timed.limited s.1.timeout node.text (query node) (s.1.advance, s.2)
        with ⟨asked, s₁⟩
      have hattempt := attempt_of hsentinels hwilling hrun
      have hkept := hattempt.sentinels.1
      rw [search_of_cons hwilling hsentinels, hrun] at h
      rw [← hsentinels]
      cases asked with
      | ok found =>
          obtain ⟨set, peers⟩ := found
          cases h
          refine hatOnce (.answered hattempt ?_)
          rw [sentinels_foldl_add, hkept]
      | stalled =>
          cases h
          exact hatOnce (.hangs hattempt hkept)
      | error e =>
          dsimp only at h
          by_cases he : e.breaksLink = true
          · rw [if_pos he] at h
            have hrest : s₁.1.dropActive.sentinels = rest := by
              rw [hattempt.dropped, hsentinels]
              rfl
            have hleft' : s₁.1.dropActive.sentinels.length ≤ left := by
              rw [hsentinels, List.length_cons] at hleft
              rw [hrest]
              omega
            obtain ⟨dropped, t, hdrops, heq, hend⟩ := ih hleft' h
            refine ⟨node :: dropped, t, .next hattempt he hdrops, ?_, hend⟩
            rw [List.cons_append, ← heq, hrest, hsentinels]
          · rw [if_neg he] at h
            cases h
            exact hatOnce (.failed hattempt (Bool.eq_false_iff.mpr he) hkept)

/-- In a set that was discovered the master is the active node. -/
theorem ofMaster_of_discover {set : ReplicaSet} (h : discover heedful s = (.ok set, s')) :
    ∃ master replicas, set = .ofMaster master replicas := by
  obtain ⟨dropped, t, -, -, hend⟩ := search_drops (Nat.le_refl _) h
  cases hend with
  | answered hattempt =>
      obtain ⟨clock, id, t₁, n, -, hreports⟩ := hattempt.reports _ _ rfl
      cases hreports with
      | all => exact ⟨_, _, rfl⟩

theorem Drops.alike {nodes : List Node} (h : Drops heedful s nodes t) : Alike s.1 t.1 := by
  induction h with
  | nobody s => exact ⟨rfl, rfl, rfl⟩
  | @next _ _ _ _ s₁ _ hattempt _ _ ih =>
      have hdrop : Alike s₁.1 s₁.1.dropActive := ⟨rfl, rfl, rfl⟩
      exact (hattempt.alike.trans hdrop).trans ih

theorem Concludes.alike {out : Outcome ReplicaSet} (h : Concludes heedful s out s') :
    Alike s.1 s'.1 := by
  cases h with
  | answered hattempt => exact hattempt.alike.trans (alike_foldl_add _ _)
  | failed hattempt => exact hattempt.alike
  | cancelled => exact ⟨rfl, rfl, rfl⟩
  | exhausted => exact ⟨rfl, rfl, rfl⟩
  | hangs hattempt => exact hattempt.alike

/-! ## Who is dialled -/

/-- Of these sentinels some were dialled, each at most once and in order, and nobody else. -/
def Dials (nodes : List Node) (s s' : Discovery × Network τ) : Prop :=
  ∃ ds, s'.2.dialled = s.2.dialled ++ ds ∧ ds.Sublist (nodes.map fun node => node.text)

omit [Transport τ] in
theorem Dials.nobody (nodes : List Node) (s : Discovery × Network τ) : Dials nodes s s :=
  ⟨[], (List.append_nil _).symm, List.nil_sublist _⟩

omit [Transport τ] in
theorem Dials.trans {nodes nodes' : List Node} (h : Dials nodes s t) (h' : Dials nodes' t s') :
    Dials (nodes ++ nodes') s s' := by
  obtain ⟨ds, hds, hsub⟩ := h
  obtain ⟨ds', hds', hsub'⟩ := h'
  refine ⟨ds ++ ds', by rw [hds', hds, List.append_assoc], ?_⟩
  rw [List.map_append]
  exact hsub.append hsub'

theorem Attempt.dials {out : Outcome (ReplicaSet × List Node)}
    (h : Attempt heedful node s out s') : Dials [node] s s' := by
  obtain ⟨ds, sent, hds, -, hcontacts⟩ := h.contacts
  exact ⟨ds, hcontacts.dialled, hds.sublist⟩

theorem Drops.dials {nodes : List Node} (h : Drops heedful s nodes t) : Dials nodes s t := by
  induction h with
  | nobody s => exact .nobody [] s
  | next hattempt _ _ ih => exact hattempt.dials.trans ih

theorem Concludes.dials {out : Outcome ReplicaSet} (h : Concludes heedful s out s') :
    Dials s.1.sentinels s s' := by
  have hattempted : ∀ {node : Node} {out : Outcome (ReplicaSet × List Node)}
      {s' : Discovery × Network τ}, Attempt heedful node s out s' → Dials s.1.sentinels s s' := by
    intro node out s' hattempt
    obtain ⟨rest, hrest⟩ := List.head?_eq_some_iff.mp hattempt.sentinels.2
    rw [hrest]
    exact hattempt.dials.trans (.nobody rest s')
  cases h with
  | @answered _ _ _ s' hattempt =>
      have hdials : Dials s.1.sentinels s s' := hattempted hattempt
      exact hdials
  | failed hattempt => exact hattempted hattempt
  | cancelled => exact .nobody _ s
  | exhausted => exact .nobody _ s
  | hangs hattempt => exact hattempted hattempt

/-! ## The end of a search -/

/-- Every attempt comes to an end: it is limited in time, or else the network answers. -/
structure Patient (s : Discovery × Network τ) : Prop where
  unlimited : (Timed.clock s).deadline = none
  answers : s.1.timeout = none → Answering s

omit [Transport τ] in
/-- Without another deadline a limit in time ends an action, and no deadline is left behind. -/
theorem limited_ends {millis : Nat} {endpoint : String} {x : Action (Discovery × Network τ) α}
    {out : Outcome α} (hs : (Timed.clock s).deadline = none)
    (h : Timed.limited (some millis) endpoint x s = (out, s')) :
    out ≠ .stalled ∧ (Timed.clock s').deadline = none := by
  unfold Timed.limited at h
  dsimp only at h
  rw [hs] at h
  generalize Timed.earlier _ _ = deadline at h
  rcases hrun : x (Timed.setDeadline deadline s) with ⟨run, t⟩
  rw [hrun] at h
  cases run with
  | ok a =>
      cases h
      exact ⟨by rintro ⟨⟩, rfl⟩
  | error e =>
      cases h
      exact ⟨by rintro ⟨⟩, rfl⟩
  | stalled =>
      cases h
      exact ⟨by rintro ⟨⟩, rfl⟩

theorem Attempt.ends [Transport.Lawful τ] {out : Outcome (ReplicaSet × List Node)}
    (h : Attempt heedful node s out s') (hs : Patient s) :
    out ≠ .stalled ∧ Patient (s'.1.dropActive, s'.2) := by
  have hrun := h.run
  rcases hlimit : s.1.timeout with _ | millis
  · rw [hlimit] at hrun
    have hanswering : Answering (s.1.advance, s.2) := hs.answers hlimit
    obtain ⟨hends, hs'⟩ := (ends_query node hanswering).outcome hrun
    exact ⟨hends, hs'.unlimited, fun _ => hs'⟩
  · rw [hlimit] at hrun
    have hunlimited : (Timed.clock (s.1.advance, s.2)).deadline = none := hs.unlimited
    obtain ⟨hends, hdeadline⟩ := limited_ends hunlimited hrun
    refine ⟨hends, hdeadline, fun hnone => ?_⟩
    have htimeout : s'.1.timeout = some millis := h.alike.timeout.trans hlimit
    have hnone : s'.1.timeout = none := hnone
    rw [htimeout] at hnone
    cases hnone

theorem Drops.patient [Transport.Lawful τ] {nodes : List Node} (h : Drops heedful s nodes t)
    (hs : Patient s) : Patient t := by
  induction h with
  | nobody => exact hs
  | next hattempt _ _ ih => exact ih (hattempt.ends hs).2

/-- How a discovery uses its sentinels up. -/
structure Consumes (heedful : Bool) (s : Discovery × Network τ) (out : Outcome ReplicaSet)
    (s' : Discovery × Network τ) : Prop where
  ways : ∃ dropped t, Drops heedful s dropped t ∧ Alike s.1 t.1 ∧
    s.1.sentinels = dropped ++ t.1.sentinels ∧ Concludes heedful t out s'
  dials : Dials s.1.sentinels s s'
  alike : Alike s.1 s'.1
  returns : Patient s → out ≠ .stalled

/-- **A discovery uses its sentinels up in order.** Each is asked at most once. Those that
cannot be reached, are too slow or make no sense are dropped; the first that does otherwise
stays in front of the rest, and behind a good answer go the sentinels that it names and that
are not known yet. A caller who gave up or an empty list ends the search with nobody asked. -/
theorem discover_consumes [Transport.Lawful τ] (heedful : Bool) (s : Discovery × Network τ) :
    Consumes heedful s (discover heedful s).1 (discover heedful s).2 := by
  rcases h : discover heedful s with ⟨out, s'⟩
  obtain ⟨dropped, t, hdrops, hsentinels, hend⟩ := search_drops (Nat.le_refl _) h
  constructor
  · exact ⟨dropped, t, hdrops, hdrops.alike, hsentinels, hend⟩
  · rw [hsentinels]
    exact hdrops.dials.trans hend.dials
  · exact hdrops.alike.trans hend.alike
  · intro hs
    have ht := hdrops.patient hs
    cases hend with
    | answered => rintro ⟨⟩
    | failed => rintro ⟨⟩
    | cancelled => rintro ⟨⟩
    | exhausted => rintro ⟨⟩
    | hangs hattempt => exact absurd rfl (hattempt.ends ht).1

/-- Three sentinels: the first refuses to connect, and the second knows a master, the third
sentinel and a fourth one. -/
def threeSentinels : Discovery × Network :=
  let said :=
    "*2\r\n$1\r\nm\r\n:1\r\n" ++ "*0\r\n" ++
      "*2\r\n*4\r\n$2\r\nip\r\n$1\r\nc\r\n$4\r\nport\r\n:3\r\n" ++
      "*4\r\n$2\r\nip\r\n$1\r\nd\r\n$4\r\nport\r\n:4\r\n"
  ({ service := "s", learns := true,
     candidates := [{ host := "a", port := 1 }, { host := "b", port := 2 }, { host := "c", port := 3 }] },
   { scripts := [("b:2", [{ greeting := .accepts (Utf8.encode said) .silent }])] })

/-- The first sentinel is gone afterwards, and the fourth is the last. -/
theorem discover_consumes_threeSentinels :
    Patient threeSentinels ∧ (discover true threeSentinels).1 ≠ .stalled ∧
      (discover true threeSentinels).2.1.sentinels =
        [{ host := "b", port := 2 }, { host := "c", port := 3 }, { host := "d", port := 4 }] ∧
      (discover true threeSentinels).2.2.dialled = ["a:1", "b:2"] := by
  have hpatient : Patient threeSentinels := ⟨rfl, by rintro ⟨⟩⟩
  refine ⟨hpatient, ?_, by decide +kernel, by decide +kernel⟩
  exact (discover_consumes true threeSentinels).returns hpatient

end RespClient.Discovery
