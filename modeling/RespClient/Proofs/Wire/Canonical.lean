import Mathlib
import RespClient.Proofs.Decimal.Reading
import RespClient.Proofs.Wire.Tolerance

/-!
# Canonical form

A decoder takes many texts for one frame: numbers with signs and zeros in front, null under
every counted tag, anything but `t` for false, bytes that are no UTF-8, doubles in any
notation. Whatever it took, the frame that came out can be written again, and then it is read
as itself. So what the decoder gives lies within what the encoder writes safely, at any depth.
Only a blob error can become longer by being read, since every stray byte turns into three.
-/

namespace RespClient

namespace Frame

mutual

/-- The frame and everything nested in it, keys of maps included. -/
def nodes : Frame → List Frame
  | .array items => .array items :: nodesAll items
  | .map pairs => .map pairs :: nodesPairs pairs
  | .set items => .set items :: nodesAll items
  | .push items => .push items :: nodesAll items
  | frame => [frame]

def nodesAll : List Frame → List Frame
  | [] => []
  | frame :: rest => nodes frame ++ nodesAll rest

def nodesPairs : List (Frame × Frame) → List Frame
  | [] => []
  | (key, value) :: rest => nodes key ++ (nodes value ++ nodesPairs rest)

end

end Frame

namespace Grammar

open RespClient.Frame

variable {p : Protocol} {m m' : Nat}

/-- Are the texts of the blob errors among these frames at most so long? -/
def BlobsWithin (m : Nat) (nodes : List Frame) : Prop :=
  ∀ text, .error ⟨text, true⟩ ∈ nodes → (Utf8.encode text).length ≤ m

theorem BlobsWithin.left {xs ys : List Frame} (h : BlobsWithin m (xs ++ ys)) : BlobsWithin m xs :=
  fun text htext => h text (List.mem_append_left _ htext)

theorem BlobsWithin.right {xs ys : List Frame} (h : BlobsWithin m (xs ++ ys)) : BlobsWithin m ys :=
  fun text htext => h text (List.mem_append_right _ htext)

theorem BlobsWithin.tail {f : Frame} {ys : List Frame} (h : BlobsWithin m (f :: ys)) :
    BlobsWithin m ys :=
  fun text htext => h text (List.mem_cons_of_mem _ htext)

theorem BigNumber.ascii {b : Bytes} (h : BigNumber b) : ∀ x ∈ b, x.toNat < 0x80 := by
  have hdigit : ∀ x, Numeral.isDigit x = true → x.toNat < 0x80 := by
    intro x hx
    simp only [Numeral.isDigit, Bool.and_eq_true, decide_eq_true_eq] at hx
    omega
  rcases h with h | ⟨digits, rfl, h⟩
  · exact fun x hx => hdigit x (h.2 x hx)
  · rw [List.forall_mem_cons]
    exact ⟨by decide, fun x hx => hdigit x (h.2 x hx)⟩

theorem wellFormed_of_scalar {tag : Tag} {b : Bytes} {f : Frame} (h : Scalar tag b f)
    (hb : Bytes.lf ∉ b) : f.WellFormed m := by
  cases h with
  | simple => exact hb
  | error => exact Utf8.lf_notMem_encode_lossy hb
  | double h => exact Binary64.read?_plainText_of_read? h
  | bigNumber h =>
      show BigNumber _
      rwa [Utf8.encode_lossy_of_ascii h.ascii]
  | _ => trivial

mutual

theorem wellFormed_of_derives (hm : m ≤ m') : ∀ {f : Frame} {w : Bytes}, Derives p m f w →
    BlobsWithin m' f.nodes → f.WellFormed m'
  | _, _, .scalar _ hb h, _ => wellFormed_of_scalar h hb
  | _, _, .missing _ _, _ => trivial
  | _, _, .bulk _ h, _ => Nat.le_trans h hm
  | _, _, .blobError _ _, hf => hf _ List.mem_cons_self
  | _, _, .verbatim _ hformat h, _ => ⟨hformat, Nat.le_trans h hm⟩
  | _, _, .sequence _ htag hf h hs, hnodes => by
      have hlimit := Nat.le_trans h (Nat.div_le_div_right hm)
      subst hf
      cases htag with
      | array => exact ⟨hlimit, allWellFormed_of_each hm hs hnodes.tail⟩
      | set => exact ⟨hlimit, allWellFormed_of_each hm hs hnodes.tail⟩
      | push => exact ⟨hlimit, allWellFormed_of_each hm hs hnodes.tail⟩
  | _, _, .map _ h hs, hnodes =>
      ⟨Nat.le_trans h (Nat.div_le_div_right hm), pairsWellFormed_of_each hm hs hnodes.tail⟩

theorem allWellFormed_of_each (hm : m ≤ m') : ∀ {items : List Frame} {w : Bytes},
    Each (Derives p m) items w → BlobsWithin m' (nodesAll items) → AllWellFormed m' items
  | _, _, .nil, _ => trivial
  | _, _, .cons h hs, hnodes =>
      ⟨wellFormed_of_derives hm h hnodes.left, allWellFormed_of_each hm hs hnodes.right⟩

theorem pairsWellFormed_of_each (hm : m ≤ m') : ∀ {pairs : List (Frame × Frame)} {w : Bytes},
    Each (Derives p m) (alternating pairs) w → BlobsWithin m' (nodesPairs pairs) →
      PairsWellFormed m' pairs
  | [], _, _, _ => trivial
  | (_, _) :: _, _, .cons hkey (.cons hvalue hs), hnodes =>
      ⟨wellFormed_of_derives hm hkey hnodes.left, wellFormed_of_derives hm hvalue hnodes.right.left,
        pairsWellFormed_of_each hm hs hnodes.right.right⟩

end

end Grammar

namespace Decoder

open Transport

variable {τ : Type} [Transport τ] [Lawful τ] {d d' : Decoder} {f : Frame}

/-- **What was decoded is read back from its canonical form.** -/
theorem decode_put_of_decode {t t' : τ} (h : d.decode t = (.ok f, t'))
    (hprotocol : d'.protocol = d.protocol) (hlimit : d.maxFrameSize ≤ d'.maxFrameSize)
    (hblobs : ∀ text, .error ⟨text, true⟩ ∈ f.nodes →
      (Utf8.encode text).length ≤ d'.maxFrameSize)
    {l : MemoryLink} {rest : Bytes} (hc : l.connected = true)
    (hin : l.input = (Encoder.put f ⟨d.protocol, []⟩).take.1 ++ rest)
    (hmemory : l.input.length < 2 ^ 63) :
    d'.decode l = (.ok f, { l with input := rest }) := by
  obtain ⟨w, hderives, -⟩ := d.decode_sound h
  have hformed : f.WellFormed d'.maxFrameSize :=
    Grammar.wellFormed_of_derives hlimit hderives hblobs
  have hsuits : f.Suits d.protocol d'.protocol := by
    cases hp : d.protocol with
    | resp3 => exact .inl (hprotocol.trans hp)
    | resp2 =>
        rw [hp] at hderives
        exact .inr ⟨rfl, Grammar.classic_of_derives hderives⟩
  have hword : (f.encode d.protocol).length < 2 ^ 63 := by
    simp only [hin, Encoder.put, Encoder.take, List.length_append, List.nil_append] at hmemory
    omega
  exact decode_of_derives hc hin (Frame.derives_encode f hformed hsuits) hword

/-- `*7 :+007 %-1 #x -? ,1e1 !1 ? (-07`, where the question marks are bytes that are no UTF-8. -/
def loose : Bytes :=
  [42, 55, 13, 10, 58, 43, 48, 48, 55, 13, 10, 37, 45, 49, 13, 10, 35, 120, 13, 10, 45, 255, 13, 10,
    44, 49, 101, 49, 13, 10, 33, 49, 13, 10, 255, 13, 10, 40, 45, 48, 55, 13, 10]

/-- What that reply is. -/
def looseFrame : Frame :=
  .array [.integer 7, .null, .boolean false, .error ⟨"\uFFFD", false⟩,
    .double ⟨0x4024000000000000⟩, .error ⟨"\uFFFD", true⟩, .bigNumber "-07"]

/-- The canonical form is read back under the same limit, with a half line behind it. -/
theorem decode_put_of_decode_loose :
    (⟨.resp3, 128⟩ : Decoder).decode ({ input := loose ++ [43] } : MemoryLink) =
        (.ok looseFrame, { input := [43] }) ∧
      (⟨.resp3, 128⟩ : Decoder).decode ({ input :=
          (Encoder.put looseFrame ⟨.resp3, []⟩).take.1 ++ [58, 49] } : MemoryLink) =
        (.ok looseFrame, { input := [58, 49] }) := by
  have hdecode : (⟨.resp3, 128⟩ : Decoder).decode ({ input := loose ++ [43] } : MemoryLink) =
      (.ok looseFrame, { input := [43] }) := by rfl
  refine ⟨hdecode, ?_⟩
  have hblobs : ∀ text, .error ⟨text, true⟩ ∈ looseFrame.nodes → (Utf8.encode text).length ≤ 128 := by
    intro text htext
    simp [looseFrame, Frame.nodes, Frame.nodesAll] at htext
    subst htext
    decide
  exact decode_put_of_decode hdecode rfl (Nat.le_refl _) hblobs rfl rfl (by decide +kernel)

end Decoder

end RespClient
