import RespClient.Decimal.Shortest
import RespClient.Proofs.Text.Numeral

/-!
# What doubles are written with

The notation of the wire is made of the digits of the double and of zeros, with a point and a
sign where they are needed, and of nothing else.
-/

namespace RespClient.Binary64

variable {x : Binary64} {c : Char}

theorem mem_positional {ds : List Char} {point : Int}
    (h : c ∈ positional ds point []) : c = '0' ∨ c = '.' ∨ c ∈ ds := by
  have hzeros : ∀ {n}, c ∈ zeros n → c = '0' := List.eq_of_mem_replicate
  unfold positional at h
  split at h
  · rw [List.mem_append, List.mem_cons, List.mem_cons] at h
    rcases h with (h | h | h) | h
    · exact .inl h
    · exact .inr (.inl h)
    · exact .inl (hzeros h)
    · exact .inr (.inr h)
  · split at h
    · rw [List.append_nil, List.mem_append] at h
      rcases h with h | h
      · exact .inr (.inr h)
      · exact .inl (hzeros h)
    · rw [List.mem_append, List.mem_cons] at h
      rcases h with h | h | h
      · exact .inr (.inr (List.mem_of_mem_take h))
      · exact .inr (.inl h)
      · exact .inr (.inr (List.mem_of_mem_drop h))

theorem isDigit_of_mem_digitsAndPoint (h : c ∈ x.digitsAndPoint.1) :
    c.isDigit = true := by
  unfold digitsAndPoint at h
  split at h
  · rw [List.eq_of_mem_singleton h]
    decide
  · exact Numeral.isDigit_of_mem_natChars h

theorem digitsAndPoint_ne_nil (x : Binary64) : x.digitsAndPoint.1 ≠ [] := by
  unfold digitsAndPoint
  split
  · decide
  · exact Nat.toDigits_ne_nil

theorem mem_notation
    (h : c ∈ x.signText ++ positional x.digitsAndPoint.1 x.digitsAndPoint.2 []) :
    c = '-' ∨ c = '.' ∨ c.isDigit = true := by
  rcases List.mem_append.mp h with h | h
  · unfold signText at h
    split at h
    · exact .inl (List.eq_of_mem_singleton h)
    · cases h
  · rcases mem_positional h with rfl | rfl | h
    · exact .inr (.inr (by decide))
    · exact .inr (.inl rfl)
    · exact .inr (.inr (isDigit_of_mem_digitsAndPoint h))

end RespClient.Binary64
