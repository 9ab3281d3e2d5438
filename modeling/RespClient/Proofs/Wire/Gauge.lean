import RespClient.Proofs.Wire.Replies

/-!
# Links that measure their lines

A link in memory beside which the length of the longest header line is kept that was asked of
it. Measuring changes nothing that a decoder can see: what it reads, where it stops and what it
leaves are those of the plain link. So the measure says of a byte string how long the header
lines are that a decoder reads in it.
-/

namespace RespClient

open Transport

/-- The bytes before the first line feed, without the carriage return at their end. Where there
is no line feed, they are all there are. -/
def MemoryLink.frontLine (input : Bytes) : Bytes :=
  let line := ((splitLine input).map Prod.fst).getD input
  (chomp? line).getD line

/-- A link in memory and the length of the longest line that was asked of it. -/
structure GaugedLink where
  link : MemoryLink
  longest : Nat := 0

namespace GaugedLink

/-- Measures the line in front. -/
def measure (g : GaugedLink) : GaugedLink :=
  { g with longest := max g.longest (MemoryLink.frontLine g.link.input).length }

/-- Acts on the link alone. -/
def onLink {α : Type} (x : Action MemoryLink α) : Action GaugedLink α :=
  Action.within link (fun link g => { g with link }) x

instance : Transport GaugedLink where
  endpoint g := endpoint g.link
  isConnected g := isConnected g.link
  disconnect g := { g with link := disconnect g.link }
  write bytes := onLink (write bytes)
  readLine g := onLink readLine g.measure
  readBytes n := onLink (readBytes n)
  pending g := pending g.link

end GaugedLink

namespace MemoryLink

variable {input line rest : Bytes}

theorem length_le_chomp (line : Bytes) : line.length ≤ ((chomp? line).getD line).length + 1 := by
  cases hchomp : chomp? line with
  | none => exact Nat.le_succ _
  | some payload =>
      rw [chomp?_eq_some.mp hchomp]
      simp

/-- The line in front is too short by its carriage return at most. -/
theorem length_le_frontLine_of_split (h : splitLine input = some (line, rest)) :
    line.length ≤ (frontLine input).length + 1 := by
  rw [frontLine, h]
  exact length_le_chomp line

theorem length_le_frontLine_of_unended (h : Bytes.lf ∉ input) :
    input.length ≤ (frontLine input).length + 1 := by
  rw [frontLine, splitLine_eq_none.mpr h]
  exact length_le_chomp input

end MemoryLink

namespace Decoder

open RespClient.Action

variable {α β : Type} {d : Decoder}

/-! ## Measuring changes nothing else -/

/-- The action on a measuring link does what the other one does on the link itself. -/
def Mirrors (x : Action GaugedLink α) (y : Action MemoryLink α) : Prop :=
  ∀ g, ∃ longest, x g = ((y g.link).1, { link := (y g.link).2, longest })

theorem mirrors_bind {x : Action GaugedLink α} {y : Action MemoryLink α}
    {f : α → Action GaugedLink β} {f' : α → Action MemoryLink β} (hx : Mirrors x y)
    (hf : ∀ a, Mirrors (f a) (f' a)) : Mirrors (x >>= f) (y >>= f') := by
  intro g
  obtain ⟨longest, hrun⟩ := hx g
  rcases hy : y g.link with ⟨out, l⟩
  rw [hy] at hrun
  cases out with
  | ok a =>
      rw [bind_of_ok hrun, bind_of_ok hy]
      exact hf a { link := l, longest }
  | error e => exact ⟨longest, by rw [bind_of_error hrun, bind_of_error hy]⟩
  | stalled => exact ⟨longest, by rw [bind_of_stalled hrun, bind_of_stalled hy]⟩

theorem mirrors_congruence :
    Congruence fun α (x : Action GaugedLink α) (y : Action MemoryLink α) => Mirrors x y where
  give _ g := ⟨g.longest, rfl⟩
  bind := mirrors_bind
  stall g := ⟨g.longest, rfl⟩
  refuse _ _ g := ⟨g.longest, rfl⟩
  readLine g := ⟨g.measure.longest, rfl⟩
  readBytes _ g := ⟨g.longest, rfl⟩

theorem mirrors_orDisconnect {x : Action GaugedLink α} {y : Action MemoryLink α}
    (h : Mirrors x y) : Mirrors (orDisconnect x) (orDisconnect y) := by
  intro g
  obtain ⟨longest, hx⟩ := h g
  rcases hy : y g.link with ⟨out, l⟩
  rw [hy] at hx
  cases out with
  | ok a => exact ⟨longest, by rw [orDisconnect_of_ok hx, orDisconnect_of_ok hy]⟩
  | error e => exact ⟨longest, by rw [orDisconnect_of_error hx, orDisconnect_of_error hy]; rfl⟩
  | stalled => exact ⟨longest, by rw [orDisconnect_of_stalled hx, orDisconnect_of_stalled hy]⟩

/-- Measuring changes nothing of what decoding does. -/
theorem decode_mirrors (d : Decoder) : Mirrors d.decode d.decode :=
  mirrors_orDisconnect fun g => mirrors_congruence.frame d (pending g.link) g

/-- The replies of a link are also those of the link that measures its lines. -/
theorem Replies.gauged {l : MemoryLink} {frames : List Frame} {kind : FailureKind}
    (h : d.Replies l frames kind) (longest : Nat) :
    d.Replies ({ link := l, longest } : GaugedLink) frames kind := by
  induction h generalizing longest with
  | @stop l l' e h hgone =>
      obtain ⟨longest', hgauged⟩ := d.decode_mirrors { link := l, longest }
      rw [h] at hgauged
      exact .stop hgauged hgone
  | @reply l l' f frames kind h _ ih =>
      obtain ⟨longest', hgauged⟩ := d.decode_mirrors { link := l, longest }
      rw [h] at hgauged
      exact .reply hgauged (ih longest')

/-! ## The lines that a decoder reads -/

/-- No header line is longer than `limit` that the decoder reads when it decodes replies one
after another, the last of which may fail. -/
def LinesWithin (d : Decoder) (g : GaugedLink) (limit : Nat) : Prop :=
  ∀ frames g', Runs d.decode g frames g' → (d.decode g').2.longest ≤ limit

variable {g g' : GaugedLink} {limit : Nat}

theorem LinesWithin.first (h : d.LinesWithin g limit) : (d.decode g).2.longest ≤ limit :=
  h [] g (.nil g)

theorem LinesWithin.behind {f : Frame} (h : d.LinesWithin g limit)
    (hdecode : d.decode g = (.ok f, g')) : d.LinesWithin g' limit :=
  fun frames g'' hruns => h (f :: frames) g'' (.cons hdecode hruns)

theorem linesWithin_of_ok {f : Frame} (hdecode : d.decode g = (.ok f, g'))
    (hlongest : g'.longest ≤ limit) (h : d.LinesWithin g' limit) : d.LinesWithin g limit := by
  intro frames g'' hruns
  cases hruns with
  | nil => rwa [hdecode]
  | cons hf hs =>
      rw [hdecode] at hf
      cases hf
      exact h _ _ hs

theorem linesWithin_of_error {e : Failure} (hdecode : d.decode g = (.error e, g'))
    (hlongest : g'.longest ≤ limit) : d.LinesWithin g limit := by
  intro frames g'' hruns
  cases hruns with
  | nil => rwa [hdecode]
  | cons hf hs =>
      rw [hdecode] at hf
      cases hf

end Decoder

end RespClient
