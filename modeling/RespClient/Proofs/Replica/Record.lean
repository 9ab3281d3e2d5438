import RespClient.Proofs.Replica.Story
import Mathlib.Data.List.Forall2

/-!
# Deeds on record

The network keeps record of what its client does, and the record agrees with the bytes on the
links. A search leaves its questions there, a command is sent to its node at most once, and
nothing else that a group does leaves anything. So the record of a group falls into parts, one
for each of its deeds and in their order: no command was sent that is not the command of a
deed, and none was sent twice for the same deed.
-/

namespace RespClient

open RespClient.Action

variable {τ : Type} [Transport τ]

/-! ## What a search leaves -/

namespace Discovery

variable {heedful : Bool} {d d' : Discovery} {s s' t : Discovery × Network τ}

theorem Alike.questions (h : Alike d d') : d'.questions = d.questions := by
  rw [Discovery.questions, h.service, h.learns, Discovery.questions]

/-- Questions were asked, and nothing else was sent. -/
def Inquires (s s' : Discovery × Network τ) : Prop :=
  ∃ dialled sent, (∀ c ∈ sent, c ∈ s.1.questions) ∧ Contacts dialled sent s.2 s'.2

theorem Inquires.nothing (s : Discovery × Network τ) : Inquires s s :=
  ⟨[], [], List.forall_mem_nil _, .refl s.2⟩

theorem Inquires.trans (h : Inquires s t) (halike : Alike s.1 t.1) (h' : Inquires t s') :
    Inquires s s' := by
  obtain ⟨dialled, sent, hsent, hcontacts⟩ := h
  obtain ⟨dialled', sent', hsent', hcontacts'⟩ := h'
  rw [halike.questions] at hsent'
  refine ⟨dialled ++ dialled', sent ++ sent', ?_, hcontacts.trans hcontacts'⟩
  exact List.forall_mem_append.mpr ⟨hsent, hsent'⟩

theorem Attempt.inquires {node : Node} {out : Outcome (ReplicaSet × List Node)}
    (h : Attempt heedful node s out s') : Inquires s s' := by
  obtain ⟨dialled, sent, -, hsent, hcontacts⟩ := h.contacts
  exact ⟨dialled, sent, fun c hc => hsent.subset hc, hcontacts⟩

theorem Drops.inquires {nodes : List Node} (h : Drops heedful s nodes t) : Inquires s t := by
  induction h with
  | nobody s => exact .nothing s
  | @next _ _ _ _ s₁ _ hattempt _ _ ih =>
      have hdrop : Alike s₁.1 s₁.1.dropActive := ⟨rfl, rfl, rfl⟩
      have hasked : Inquires _ (s₁.1.dropActive, s₁.2) := hattempt.inquires
      exact hasked.trans (hattempt.alike.trans hdrop) ih

theorem Concludes.inquires {out : Outcome ReplicaSet} (h : Concludes heedful s out s') :
    Inquires s s' := by
  cases h with
  | answered hattempt =>
      have hasked := hattempt.inquires
      exact hasked
  | failed hattempt | hangs hattempt => exact hattempt.inquires
  | cancelled | exhausted => exact .nothing s

theorem discover_inquires {out : Outcome ReplicaSet} (h : discover heedful s = (out, s')) :
    Alike s.1 s'.1 ∧ Inquires s s' := by
  obtain ⟨dropped, t, hdrops, -, hend⟩ := search_drops (Nat.le_refl _) h
  exact ⟨hdrops.alike.trans hend.alike, hdrops.inquires.trans hdrops.alike hend.inquires⟩

end Discovery

namespace ReplicaGroup

/-! ## What deeds leave -/

/-- May a deed leave this on record, the addresses that were dialled and the commands that were
sent? The questions are those that a search asks. -/
def Deed.Leaves (questions : List Command) : Deed → List String × List Command → Prop
  | .searched _ _, (_, sent) => ∀ c ∈ sent, c ∈ questions
  | .switched, part => part = ([], [])
  | .asked node c fate, (dialled, sent) =>
    dialled <+: [node.toAddress.text] ∧ sent <+: [c] ∧ (fate = .ok () → sent = [c])

/-- What the record gained falls into parts, one for each deed. -/
structure Recorded (g₀ : ReplicaGroup τ) (ds : List Deed) (g : ReplicaGroup τ) : Prop where
  alike : Discovery.Alike g₀.discovery g.discovery
  parts : ∃ parts, List.Forall₂ (Deed.Leaves g₀.discovery.questions) ds parts ∧
    Contacts (parts.flatMap Prod.fst) (parts.flatMap Prod.snd) g₀.pool.network g.pool.network

variable {g₀ g g' : ReplicaGroup τ} {ds : List Deed} {d : Deed}

namespace Recorded

theorem start (g : ReplicaGroup τ) : Recorded g [] g :=
  ⟨⟨rfl, rfl, rfl⟩, [], .nil, .refl _⟩

theorem quietly (h : Recorded g₀ ds g) (hdiscovery : g'.discovery = g.discovery)
    (hcontacts : Contacts [] [] g.pool.network g'.pool.network) : Recorded g₀ ds g' := by
  obtain ⟨parts, hparts, hall⟩ := h.parts
  refine ⟨hdiscovery ▸ h.alike, parts, hparts, ?_⟩
  have hboth := hall.trans hcontacts
  rwa [List.append_nil, List.append_nil] at hboth

theorem deed (part : List String × List Command) (h : Recorded g₀ ds g)
    (hleaves : d.Leaves g.discovery.questions part)
    (halike : Discovery.Alike g.discovery g'.discovery)
    (hcontacts : Contacts part.1 part.2 g.pool.network g'.pool.network) :
    Recorded g₀ (ds ++ [d]) g' := by
  obtain ⟨parts, hparts, hall⟩ := h.parts
  rw [h.alike.questions] at hleaves
  refine ⟨h.alike.trans halike, parts ++ [part], List.rel_append hparts (.cons hleaves .nil), ?_⟩
  rw [List.flatMap_append, List.flatMap_append, List.flatMap_singleton, List.flatMap_singleton]
  exact hall.trans hcontacts

end Recorded

omit [Transport τ] in
/-- To suspect the set nobody is asked. -/
theorem links_markStale (g : ReplicaGroup τ) :
    g.markStale.discovery = g.discovery ∧ g.markStale.pool = g.pool := by
  unfold markStale
  split
  · exact ⟨rfl, rfl⟩
  · exact ⟨rfl, rfl⟩

omit [Transport τ] in
theorem links_heed (fate : Outcome Unit) (g : ReplicaGroup τ) :
    (heed fate g).discovery = g.discovery ∧ (heed fate g).pool = g.pool := by
  unfold heed
  split
  · split
    · exact g.links_markStale
    · exact ⟨rfl, rfl⟩
  · exact ⟨rfl, rfl⟩

omit [Transport τ] in
/-- Links to nodes that left the set are dropped, but nothing is sent over them. -/
theorem links_settle (found : Outcome ReplicaSet) (g : ReplicaGroup τ) :
    (settle found g).discovery = g.discovery ∧ (settle found g).pool.network = g.pool.network := by
  cases found with
  | ok set => exact ⟨rfl, rfl⟩
  | error e =>
      obtain ⟨hdiscovery, hpool⟩ := g.links_markStale
      exact ⟨hdiscovery, congrArg Pool.network hpool⟩
  | stalled => exact ⟨rfl, rfl⟩

/-- Deeds that account for a group account for all that is on record. -/
theorem Accounts.recorded (h : Accounts g₀ ds g) : Recorded g₀ ds g := by
  induction h with
  | start => exact .start g₀
  | waited clock words _ ih => exact ih.quietly rfl (.of_eq rfl rfl rfl)
  | @suspected _ g _ ih =>
      obtain ⟨hdiscovery, hpool⟩ := g.links_markStale
      refine ih.quietly hdiscovery ?_
      rw [hpool]
      exact .refl _
  | @searched _ heedful found g _ _ hfound ih =>
      obtain ⟨s, hdiscover, rfl⟩ := onDiscovery_eq hfound
      obtain ⟨halike, dialled, sent, hsent, hcontacts⟩ := Discovery.discover_inquires hdiscover
      generalize hafter : ({ g with discovery := s.1, pool := _ } : ReplicaGroup τ) = after
      obtain ⟨hdiscovery, hnetwork⟩ := links_settle found after
      subst hafter
      refine ih.deed (dialled, sent) hsent ?_ ?_
      · rw [hdiscovery]
        exact halike
      · rw [hnetwork]
        exact hcontacts
  | switched _ _ ih => exact ih.deed ([], []) rfl ⟨rfl, rfl, rfl⟩ (.refl _)
  | @asked _ node c reply g pool _ _ _ hreply ih =>
      obtain ⟨dialled, sent, hdialled, hsent, hcontacts, hall⟩ := Pool.request_contacts hreply
      obtain ⟨hdiscovery, hpool⟩ := links_heed reply.fate { g with pool }
      refine ih.deed (dialled, sent) ⟨hdialled, hsent, fun hok => ?_⟩ ?_ ?_
      · cases reply with
        | ok f => exact hall f rfl
        | error e => cases hok
        | stalled => cases hok
      · rw [hdiscovery]
        exact ⟨rfl, rfl, rfl⟩
      · rw [hpool]
        exact hcontacts

end ReplicaGroup

end RespClient
