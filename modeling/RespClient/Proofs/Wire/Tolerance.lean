import RespClient.Proofs.Wire.Congruence
import RespClient.Proofs.Wire.RoundTrip

/-!
# Stricter and more tolerant decoders

A decoder of the third revision takes every reply that one of the second revision takes, and a
higher limit takes every reply that a lower one takes. It is the same frame, and the same bytes
are left, on any transport. The other way round the second revision is closed in itself: no
frame of the third one comes out of it, at whatever depth.
-/

namespace RespClient

namespace Grammar

variable {m : Nat}

mutual

/-- What the second revision derives is made of what it has. -/
theorem classic_of_derives : ∀ {f : Frame} {w : Bytes}, Derives .resp2 m f w → f.Classic
  | _, _, .scalar hknows _ h => by
      have htag := hknows.resolve_left (by decide)
      cases h with
      | simple => exact trivial
      | error => exact rfl
      | integer => exact trivial
      | _ => exact absurd htag (by decide)
  | _, _, .missing _ _ => trivial
  | _, _, .bulk _ _ => trivial
  | _, _, .blobError hknows _ => absurd (hknows.resolve_left (by decide)) (by decide)
  | _, _, .verbatim hknows _ _ => absurd (hknows.resolve_left (by decide)) (by decide)
  | _, _, .sequence hknows htag hf _ hs => by
      have hmem := hknows.resolve_left (by decide)
      subst hf
      cases htag with
      | array => exact allClassic_of_each hs
      | _ => exact absurd hmem (by decide)
  | _, _, .map hknows _ _ => absurd (hknows.resolve_left (by decide)) (by decide)

theorem allClassic_of_each : ∀ {items : List Frame} {w : Bytes},
    Each (Derives .resp2 m) items w → Frame.AllClassic items
  | _, _, .nil => trivial
  | _, _, .cons h hs => ⟨classic_of_derives h, allClassic_of_each hs⟩

end

end Grammar

namespace Decoder

open Transport RespClient.Action

variable {τ α β : Type} {d d' : Decoder} {payload : Bytes}

/-- The second decoder knows the tags of the first one and its limit is no lower. -/
structure Stricter (d d' : Decoder) : Prop where
  protocol : d'.protocol = d.protocol ∨ d'.protocol = .resp3
  limit : d.maxFrameSize ≤ d'.maxFrameSize

namespace Stricter

theorem knows (h : Stricter d d') {tag : Tag} (htag : d.protocol.Knows tag) :
    d'.protocol.Knows tag := by
  rcases h.protocol with hsame | hthird
  · rwa [hsame]
  · exact .inl hthird

theorem ofByte? (h : Stricter d d') {byte : UInt8} {tag : Tag}
    (hbyte : Tag.ofByte? d.protocol byte = some tag) : Tag.ofByte? d'.protocol byte = some tag := by
  obtain ⟨rfl, hknows⟩ := Tag.ofByte?_eq_some.mp hbyte
  exact Tag.ofByte?_eq_some.mpr ⟨rfl, h.knows hknows⟩

theorem readLength (h : Stricter d d') {length : Option Nat}
    (hread : d.readLength payload = .ok length) : d'.readLength payload = .ok length := by
  cases length with
  | none => exact readLength_eq_none.mpr (readLength_eq_none.mp hread)
  | some n =>
      obtain ⟨hpayload, hlimit, hword⟩ := readLength_eq_some.mp hread
      exact readLength_eq_some.mpr ⟨hpayload, Nat.le_trans hlimit h.limit, hword⟩

theorem readRequiredLength (h : Stricter d d') {n : Nat}
    (hread : d.readRequiredLength payload = .ok n) : d'.readRequiredLength payload = .ok n :=
  readRequiredLength_eq_ok.mpr (h.readLength (readRequiredLength_eq_ok.mp hread))

theorem readCount (h : Stricter d d') {count : Option Nat}
    (hread : d.readCount payload = .ok count) : d'.readCount payload = .ok count := by
  cases count with
  | none => exact readCount_eq_none.mpr (readCount_eq_none.mp hread)
  | some n =>
      obtain ⟨hpayload, hlimit, hword⟩ := readCount_eq_some.mp hread
      have hlimit' := Nat.div_le_div_right (c := 16) h.limit
      exact readCount_eq_some.mpr ⟨hpayload, Nat.le_trans hlimit hlimit', hword⟩

end Stricter

/-- Where the first action gives a value the second one gives it too, in the same way. -/
def Extended (x y : Action τ α) : Prop :=
  ∀ t a t', x t = (.ok a, t') → y t = (.ok a, t')

theorem Extended.refl (x : Action τ α) : Extended x x :=
  fun _ _ _ h => h

theorem Extended.bind {x y : Action τ α} {f g : α → Action τ β} (hxy : Extended x y)
    (hfg : ∀ a, Extended (f a) (g a)) : Extended (x >>= f) (y >>= g) := by
  intro t b t' h
  obtain ⟨a, s, hx, hf⟩ := bind_eq_ok.mp h
  exact bind_eq_ok.mpr ⟨a, s, hxy t a s hx, hfg a s b t' hf⟩

variable [Transport τ]

theorem Extended.accept {r r' : Except Flaw α} (h : ∀ a, r = .ok a → r' = .ok a) :
    Extended (accept payload r : Action τ α) (accept payload r') := by
  intro t a t' haccept
  obtain ⟨hr, rfl⟩ := accept_eq_ok.mp haccept
  exact accept_eq_ok.mpr ⟨h a hr, rfl⟩

theorem Extended.congruence : Congruence fun α (x y : Action τ α) => Extended x y where
  give _ := .refl _
  bind hxy hfg := hxy.bind hfg
  stall := .refl _
  refuse _ _ := .refl _
  readLine := .refl _
  readBytes _ := .refl _

theorem Stricter.compares (h : Stricter d d') :
    Compares (fun α (x y : Action τ α) => Extended x y) d d' where
  header := by
    refine Extended.bind (.refl _) fun line => ?_
    cases line with
    | nil => exact .refl _
    | cons byte payload =>
        intro t header t' hread
        cases hbyte : Tag.ofByte? d.protocol byte with
        | none =>
            simp only [hbyte] at hread
            cases hread
        | some tag =>
            simp only [hbyte] at hread
            simpa only [h.ofByte? hbyte] using hread
  length _ _ _ hnone hsome := by
    refine Extended.bind (.accept fun _ => h.readLength) fun length => ?_
    cases length with
    | none => exact hnone
    | some n => exact hsome n trivial
  required _ _ _ hrest :=
    (Extended.accept fun _ => h.readRequiredLength).bind fun n => hrest n trivial
  count _ := .accept fun _ => h.readCount

/-- **More tolerance only adds replies.** What a decoder takes, a decoder of the same or of the
third revision with no lower limit takes as the same frame, and leaves the transport as the
first one does. What a decoder of the second revision takes is made of what that revision has. -/
theorem decode_of_stricter [Lawful τ] {t t' : τ} {f : Frame} (hd : Stricter d d')
    (h : d.decode t = (.ok f, t')) :
    d'.decode t = (.ok f, t') ∧ (d.protocol = .resp2 → f.Classic) := by
  constructor
  · have hread := orDisconnect_eq_ok.mp h
    have hextended := Extended.congruence.readFrame (hd.compares (τ := τ)) (pending t)
    exact orDisconnect_of_ok (hextended t f t' hread)
  · intro hprotocol
    obtain ⟨w, hderives, -⟩ := d.decode_sound h
    rw [hprotocol] at hderives
    exact Grammar.classic_of_derives hderives

/-- `*2 -E $-1` under the least limit that takes it, and under the third revision. -/
theorem decode_of_stricter_array :
    Stricter ⟨.resp2, 32⟩ ⟨.resp3, 33⟩ ∧
      (⟨.resp3, 33⟩ : Decoder).decode ({ input := [42, 50, 13, 10, 45, 69, 13, 10, 36, 45, 49, 13,
        10, 95] } : MemoryLink) = (.ok (.array [.error ⟨"E", false⟩, .null]), { input := [95] }) ∧
      (Frame.array [.error ⟨"E", false⟩, .null]).Classic := by
  have hdecode : (⟨.resp2, 32⟩ : Decoder).decode ({ input := [42, 50, 13, 10, 45, 69, 13, 10, 36,
      45, 49, 13, 10, 95] } : MemoryLink) =
        (.ok (.array [.error ⟨"E", false⟩, .null]), { input := [95] }) := by rfl
  have hstrict : Stricter ⟨.resp2, 32⟩ ⟨.resp3, 33⟩ := ⟨.inr rfl, by decide⟩
  obtain ⟨hsame, hclassic⟩ := decode_of_stricter hstrict hdecode
  exact ⟨hstrict, hsame, hclassic rfl⟩

end Decoder

end RespClient
