import Mathlib.Data.List.TakeDrop
import RespClient.Node.Address
import RespClient.Proofs.Text.Numeral

/-!
# Addresses as text

The text of an address tells its host and its port: the port is what follows the last colon,
and a host that holds a colon itself stands in brackets, which no other host gains. So two
nodes with the same text are the same node.
-/

namespace RespClient.Address

theorem colon_notMem_natChars (n : Nat) : ':' ∉ Numeral.natChars n :=
  Numeral.notMem_natChars (by decide) n

theorem splitLast?_append {host port : List Char} (h : ':' ∉ port) :
    splitLast? (host ++ ':' :: port) = some (host, port) := by
  have hport : ∀ c ∈ port.reverse, (c != ':') = true := by
    intro c hc
    have hc := List.mem_reverse.mp hc
    exact bne_iff_ne.mpr fun heq => h (heq ▸ hc)
  have hspan : (port.reverse ++ ':' :: host.reverse).span (· != ':') =
      (port.reverse, ':' :: host.reverse) := by
    rw [List.span_eq_takeWhile_dropWhile, List.takeWhile_append_of_pos hport,
      List.dropWhile_append_of_pos hport]
    simp
  have hreverse : (host ++ ':' :: port).reverse = port.reverse ++ ':' :: host.reverse := by
    simp
  rw [splitLast?, hreverse, hspan]
  simp

theorem splitLast?_eq_some {cs host port : List Char} (h : splitLast? cs = some (host, port)) :
    cs = host ++ ':' :: port := by
  have hcut := List.takeWhile_append_dropWhile (p := (· != ':')) (l := cs.reverse)
  have hstop := List.head?_dropWhile_not (· != ':') cs.reverse
  rw [splitLast?, List.span_eq_takeWhile_dropWhile] at h
  split at h
  · cases h
  · rename_i front c rest hspan
    obtain ⟨rfl, hrest⟩ := Prod.mk.inj hspan
    obtain ⟨rfl, rfl⟩ := Prod.mk.inj (Option.some.inj h)
    rw [hrest] at hcut hstop
    obtain rfl : c = ':' := by simpa using hstop
    have hreverse := congrArg List.reverse hcut
    simpa using hreverse.symm

/-- The host as it stands in the text of an address. -/
def hostChars (host : String) : List Char :=
  if host.toList.contains ':' then '[' :: host.toList ++ [']'] else host.toList

theorem toList_text (a : Address) :
    a.text.toList = hostChars a.host ++ ':' :: Numeral.natChars a.port.toNat := by
  unfold text hostChars
  split <;> simp [Numeral.natText]

/-- Whether a host has brackets around it can be told from the colons in it. -/
theorem hostChars_injective {host host' : String} (h : hostChars host = hostChars host') :
    host = host' := by
  unfold hostChars at h
  rw [← String.toList_inj]
  by_cases hcolon : host.toList.contains ':' = true
  · by_cases hcolon' : host'.toList.contains ':' = true
    · rw [if_pos hcolon, if_pos hcolon'] at h
      exact List.append_cancel_right (List.cons.inj h).2
    · rw [if_pos hcolon, if_neg hcolon'] at h
      rw [← h] at hcolon'
      exact absurd (by simpa using hcolon) (by simpa using hcolon')
  · by_cases hcolon' : host'.toList.contains ':' = true
    · rw [if_neg hcolon, if_pos hcolon'] at h
      rw [h] at hcolon
      exact absurd (by simpa using hcolon') (by simpa using hcolon)
    · rwa [if_neg hcolon, if_neg hcolon'] at h

/-- **Addresses with the same text are the same.** -/
theorem text_injective {a b : Address} (h : a.text = b.text) : a = b := by
  have hchars := congrArg (fun text => splitLast? text.toList) h
  simp only [toList_text, splitLast?_append (colon_notMem_natChars _), Option.some.injEq,
    Prod.mk.injEq] at hchars
  obtain ⟨hhost, hport⟩ := hchars
  have hport : a.port.toNat = b.port.toNat :=
    Numeral.natBytes_injective (congrArg (List.map Numeral.byteOf) hport)
  obtain ⟨host, port⟩ := a
  obtain ⟨host', port'⟩ := b
  rw [Address.mk.injEq]
  exact ⟨hostChars_injective hhost, UInt16.toNat_inj.mp hport⟩

end RespClient.Address
