import RespClient.Proofs.Wire.Answering
import RespClient.Proofs.Wire.Canonical
import RespClient.Proofs.Wire.Completeness

/-!
# Decoding makes progress

A server declares how many elements follow, and elements of elements, so that a few bytes can
announce more than there is memory for. What bounds the work of a decoder, and the frame that
comes of it, is what was really sent. In the grammar every node of a frame brings a header line
of its own, which takes three bytes at least. The decoder goes on behind a header line only
after it has taken it off the link, so that all lines it asks for are paid for with three bytes
each, but for the one at which it fails.
-/

namespace RespClient

/-! ## The size of frames -/

namespace Grammar

open Encoding RespClient.Frame

variable {p : Protocol} {m : Nat}

theorem nodesPairs_eq (pairs : List (Frame × Frame)) :
    nodesPairs pairs = nodesAll (alternating pairs) := by
  induction pairs with
  | nil => rfl
  | cons pair rest ih => rw [alternating_cons, nodesPairs, nodesAll, nodesAll, ih]

theorem Scalar.nodes {tag : Tag} {b : Bytes} {f : Frame} (h : Scalar tag b f) : f.nodes = [f] := by
  cases h <;> rfl

/-- The header of an aggregate is a line of its own. -/
theorem three_le_header (tag : Tag) (n : Nat) : 3 ≤ (header tag n).length := by
  simp [header, line, Bytes.crlf]

mutual

/-- Every node of a reply has three bytes of it. -/
theorem Derives.three_mul_nodes : ∀ {f : Frame} {w : Bytes}, Derives p m f w →
    3 * f.nodes.length ≤ w.length
  | _, _, .scalar hp hb h => by
      rw [h.nodes]
      exact (Derives.scalar (m := m) hp hb h).three_le
  | _, _, .missing hp h => (Derives.missing (m := m) hp h).three_le
  | _, _, .bulk hp h => (Derives.bulk hp h).three_le
  | _, _, .blobError hp h => (Derives.blobError hp h).three_le
  | _, _, .verbatim hp hformat h => (Derives.verbatim hp hformat h).three_le
  | _, _, @Derives.sequence _ _ tag build items f w _ htag hf _ hs => by
      have hitems := hs.three_mul_nodes
      have hheader := three_le_header tag items.length
      have hnodes : f.nodes = f :: nodesAll items := by
        rw [hf]
        cases htag <;> rw [nodes]
      rw [hnodes, List.length_cons, List.length_append]
      omega
  | _, _, @Derives.map _ _ pairs w _ _ hs => by
      have hitems := hs.three_mul_nodes
      have hheader := three_le_header .map pairs.length
      rw [nodes, nodesPairs_eq, List.length_cons, List.length_append]
      omega

theorem Each.three_mul_nodes : ∀ {items : List Frame} {w : Bytes}, Each (Derives p m) items w →
    3 * (nodesAll items).length ≤ w.length
  | _, _, .nil => by simp [nodesAll]
  | _, _, .cons h hs => by
      have hfirst := h.three_mul_nodes
      have hrest := hs.three_mul_nodes
      rw [nodesAll, List.length_append, List.length_append]
      omega

end

end Grammar

/-! ## Links that count lines -/

/-- A link and the number of lines that were asked of it. -/
structure TalliedLink (τ : Type) where
  link : τ
  lines : Nat := 0

namespace TalliedLink

open Transport

variable {τ : Type} [Transport τ]

/-- Acts on the link alone. -/
def onLink {α : Type} (x : Action τ α) : Action (TalliedLink τ) α :=
  Action.within link (fun link t => { t with link }) x

instance : Transport (TalliedLink τ) where
  endpoint t := endpoint t.link
  isConnected t := isConnected t.link
  disconnect t := { t with link := disconnect t.link }
  write bytes := onLink (write bytes)
  readLine t := onLink readLine { t with lines := t.lines + 1 }
  readBytes n := onLink (readBytes n)
  pending t := pending t.link

theorem readLine_of {t t' : τ} {n : Nat} {out : Outcome Bytes} (h : readLine t = (out, t')) :
    readLine ({ link := t, lines := n } : TalliedLink τ) =
      (out, { link := t', lines := n + 1 }) := by
  show onLink readLine ({ link := t, lines := n + 1 } : TalliedLink τ) = _
  unfold onLink
  exact Action.within_of h

end TalliedLink

namespace Decoder

open Transport RespClient.Action Grammar

variable {τ : Type} [Transport τ] {α β : Type} {d : Decoder}

/-- The action on a counting link does what the other one does on the link itself. All lines
that it reads are paid for with three bytes each if it gives a value, and else all but one. -/
def Pays (x : Action (TalliedLink τ) α) (y : Action τ α) : Prop :=
  ∀ t n, ∃ k, x { link := t, lines := n } = ((y t).1, { link := (y t).2, lines := n + k }) ∧
    3 * k ≤ pending t + 3 ∧ ∀ a t', y t = (.ok a, t') → 3 * k + pending t' ≤ pending t

namespace Pays

theorem bind {x : Action (TalliedLink τ) α} {y : Action τ α}
    {f : α → Action (TalliedLink τ) β} {g : α → Action τ β} (hxy : Pays x y)
    (hfg : ∀ a, Pays (f a) (g a)) : Pays (x >>= f) (y >>= g) := by
  intro t n
  obtain ⟨k, hrun, hbound, hpaid⟩ := hxy t n
  rcases hy : y t with ⟨out, t₁⟩
  rw [hy] at hrun
  cases out with
  | ok a =>
      have hfirst := hpaid a t₁ hy
      obtain ⟨j, hrest, hbound', hpaid'⟩ := hfg a t₁ (n + k)
      refine ⟨k + j, ?_, by omega, fun b t' hg => ?_⟩
      · rw [bind_of_ok hrun, bind_of_ok hy, hrest, Nat.add_assoc]
      · rw [bind_of_ok hy] at hg
        have hsecond := hpaid' b t' hg
        omega
  | error e =>
      refine ⟨k, by rw [bind_of_error hrun, bind_of_error hy], hbound, fun b t' hg => ?_⟩
      rw [bind_of_error hy] at hg
      cases hg
  | stalled =>
      refine ⟨k, by rw [bind_of_stalled hrun, bind_of_stalled hy], hbound, fun b t' hg => ?_⟩
      rw [bind_of_stalled hy] at hg
      cases hg

/-- What reads no line costs nothing. -/
theorem free {x : Action (TalliedLink τ) α} {y : Action τ α}
    (hrun : ∀ t n, x { link := t, lines := n } = ((y t).1, { link := (y t).2, lines := n }))
    (hshrinks : Shrinks y) : Pays x y := by
  intro t n
  refine ⟨0, hrun t n, by omega, fun a t' hy => ?_⟩
  have hpending := hshrinks hy
  omega

variable [Lawful τ]

theorem steps : Steps fun α (x : Action (TalliedLink τ) α) (y : Action τ α) => Pays x y where
  give a := by
    refine free (fun _ _ => rfl) fun t b t' h => ?_
    cases h
    exact Nat.le_refl _
  bind := bind
  stall := free (fun _ _ => rfl) fun _ _ _ h => by cases h
  refuse _ _ := free (fun _ _ => rfl) fun _ _ _ h => by cases h
  readBytes _ := by
    refine free (fun _ _ => rfl) fun t data t' h => ?_
    rw [(readBytes_takes h).2.pending_eq]
    exact Nat.le_add_left _ _

/-- A header costs one line, and takes three bytes at least. -/
theorem readHeader (d : Decoder) :
    Pays (d.readHeader : Action (TalliedLink τ) (Tag × Bytes)) d.readHeader := by
  intro t n
  refine ⟨1, ?_, by omega, fun header t' h => ?_⟩
  · rcases hline : (Transport.readLine : Action τ Bytes) t with ⟨out, t₁⟩
    have htallied := TalliedLink.readLine_of (n := n) hline
    unfold Decoder.readHeader
    cases out with
    | ok line =>
        rw [bind_of_ok htallied, bind_of_ok hline]
        cases line with
        | nil => rfl
        | cons byte payload =>
            simp only
            rcases Tag.ofByte? d.protocol byte with _ | tag <;> rfl
    | error e => rw [bind_of_error htallied, bind_of_error hline]
    | stalled => rw [bind_of_stalled htallied, bind_of_stalled hline]
  · have hshorter := readHeader_shorter h
    omega

theorem readElement (d : Decoder) :
    Pays (d.readElement : Action (TalliedLink τ) Frame) d.readElement := fun t =>
  steps.readFrame (steps.compares (fun _ _ => trivial) (readHeader d)) (pending t) t

end Pays

/-! ## Whole replies -/

/-- Counting lines changes nothing else, and all of them but one are paid for. -/
theorem decode_tallied [Lawful τ] (d : Decoder) (t : τ) : ∃ lines,
    d.decode ({ link := t } : TalliedLink τ) =
      ((d.decode t).1, { link := (d.decode t).2, lines }) ∧ 3 * lines ≤ pending t + 3 := by
  obtain ⟨k, hrun, hbound, -⟩ := Pays.readElement d t 0
  rw [Nat.zero_add] at hrun
  refine ⟨k, ?_, hbound⟩
  rcases hread : d.readElement t with ⟨out, t'⟩
  rw [hread] at hrun
  cases out with
  | ok f => rw [decode, decode, orDisconnect_of_ok hrun, orDisconnect_of_ok hread]
  | error e =>
      rw [decode, decode, orDisconnect_of_error hrun, orDisconnect_of_error hread]
      rfl
  | stalled => rw [decode, decode, orDisconnect_of_stalled hrun, orDisconnect_of_stalled hread]

/-- What decoding takes, what it costs and how it ends. -/
structure Progresses (d : Decoder) (t : τ) [Lawful τ] : Prop where
  /-- A frame takes three bytes at least for each frame that it is made of. -/
  takes : ∀ f t', d.decode t = (.ok f, t') →
    ∃ w, Takes t w t' ∧ 3 ≤ w.length ∧ f.nodes.length ≤ w.length / 3
  /-- Header lines are bounded by what is there, and not by what is declared. -/
  reads : ∃ lines, d.decode ({ link := t } : TalliedLink τ) =
    ((d.decode t).1, { link := (d.decode t).2, lines }) ∧ lines ≤ pending t / 3 + 1
  returns : Answering t → (∃ f, (d.decode t).1 = .ok f) ∨ ∃ e, (d.decode t).1 = .error e

/-- **Decoding makes progress and never amplifies.** Whatever is declared, and however deep,
a frame has at most a third as many nodes as it took bytes, and decoding ends after at most a
third as many header lines as there are bytes, and one more. -/
theorem decode_progresses [Lawful τ] (d : Decoder) (t : τ) : d.Progresses t where
  takes f t' h := by
    obtain ⟨w, hderives, htakes⟩ := decode_sound d h
    have hnodes := hderives.three_mul_nodes
    exact ⟨w, htakes, hderives.three_le, by omega⟩
  reads := by
    obtain ⟨lines, hrun, hbound⟩ := decode_tallied d t
    exact ⟨lines, hrun, by omega⟩
  returns ht := by
    rcases (ends_decode d ht).cases with ⟨f, t', h, -⟩ | ⟨e, t', h, -⟩
    · exact .inl ⟨f, by rw [h]⟩
    · exact .inr ⟨e, by rw [h]⟩

/-- Two arrays of nine elements each are declared, and all that is there is one number. -/
def unfounded : MemoryLink where
  input := Utf8.encode "*9\r\n*9\r\n:1\r\n"

/-- Four lines are asked for, the last of them in vain. -/
theorem decode_progresses_unfounded :
    (decode {} unfounded).1 ≠ .stalled ∧ pending unfounded = 12 ∧
      (decode {} ({ link := unfounded } : TalliedLink MemoryLink)).2.lines = 4 ∧
      (decode {} ({ link := unfounded } : TalliedLink MemoryLink)).2.lines ≤ 12 / 3 + 1 := by
  obtain ⟨-, ⟨lines, hrun, hbound⟩, hreturns⟩ := decode_progresses {} unfounded
  have hpending : pending unfounded = 12 := by decide
  refine ⟨?_, hpending, by decide +kernel, ?_⟩
  · rcases hreturns (MemoryLink.answering_of_closed rfl) with ⟨f, h⟩ | ⟨e, h⟩
    · rw [h]
      rintro ⟨⟩
    · rw [h]
      rintro ⟨⟩
  · rw [hrun]
    rwa [hpending] at hbound

end Decoder

end RespClient
