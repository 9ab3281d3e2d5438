import Mathlib.Data.List.DropRight
import Mathlib.Data.List.TakeDrop
import RespClient.Text.Blank

/-!
# What stands around a text

Trimming takes away everything of one kind at the ends of a text. If what stands in between
begins and ends with something else, it is left, and nothing else is.
-/

namespace RespClient

namespace Text

variable {α : Type} {p : α → Bool} {front kept behind : List α}

theorem dropWhile_append_kept (hfront : ∀ a ∈ front, p a = true)
    (hkept : ∀ a ∈ kept.head?, p a = false) : (front ++ kept).dropWhile p = kept := by
  rw [List.dropWhile_append_of_pos hfront]
  cases kept with
  | nil => rfl
  | cons a kept => exact List.dropWhile_cons_of_neg (by simp [hkept a rfl])

theorem dropWhile_reverse_append_kept (hbehind : ∀ a ∈ behind, p a = true)
    (hkept : ∀ a ∈ kept.getLast?, p a = false) :
    ((kept ++ behind).reverse.dropWhile p).reverse = kept := by
  rw [List.reverse_append, dropWhile_append_kept, List.reverse_reverse]
  · exact fun a ha => hbehind a (List.mem_reverse.mp ha)
  · rwa [List.head?_reverse]

theorem bne_of_notMem [DecidableEq α] {separator : α} (h : separator ∉ kept) :
    ∀ a ∈ kept, (a != separator) = true := by
  intro a ha
  rw [bne_iff_ne]
  rintro rfl
  exact h ha

theorem span_of_all (h : ∀ a ∈ kept, p a = true) : kept.span p = (kept, []) := by
  rw [List.span_eq_takeWhile_dropWhile, List.takeWhile_eq_self_iff.mpr h,
    List.dropWhile_eq_nil_iff.mpr h]

end Text

namespace Blank

variable {cs front behind : List Char}

theorem trim_surrounded (hfront : ∀ c ∈ front, isBlank c = true)
    (hbehind : ∀ c ∈ behind, isBlank c = true) (hne : cs ≠ [])
    (hfirst : ∀ c ∈ cs.head?, isBlank c = false) (hlast : ∀ c ∈ cs.getLast?, isBlank c = false) :
    trim (front ++ cs ++ behind) = cs := by
  have hhead : (cs ++ behind).head? = cs.head? := by
    rw [List.head?_append, List.head?_eq_some_head hne]
    rfl
  have hstart : trimStart (front ++ cs ++ behind) = cs ++ behind := by
    rw [trimStart, List.append_assoc, Text.dropWhile_append_kept hfront]
    rwa [hhead]
  rw [trim, hstart]
  exact Text.dropWhile_reverse_append_kept hbehind hlast

/-- A text without white space is not trimmed. -/
theorem trim_of_none (h : ∀ c ∈ cs, isBlank c = false) : trim cs = cs := by
  have hstart : trimStart cs = cs :=
    show ([] ++ cs).dropWhile isBlank = cs from
      Text.dropWhile_append_kept (by simp) fun c hc => h c (List.mem_of_mem_head? hc)
  have hend : trimEnd (cs ++ []) = cs :=
    Text.dropWhile_reverse_append_kept (by simp) fun c hc => h c (List.mem_of_getLast? hc)
  rw [List.append_nil] at hend
  rw [trim, hstart, hend]

theorem trim_of_blanks (h : ∀ c ∈ cs, isBlank c = true) : trim cs = [] := by
  have hstart : trimStart cs = [] := List.dropWhile_eq_nil_iff.mpr h
  rw [trim, hstart]
  rfl

theorem head?_trimStart : ∀ c ∈ (trimStart cs).head?, isBlank c = false := by
  intro c hc
  have hhead := List.head?_dropWhile_not isBlank cs
  rw [show (cs.dropWhile isBlank).head? = some c from hc] at hhead
  simpa using hhead

theorem trimEnd_subset (cs : List Char) : trimEnd cs ⊆ cs :=
  (List.rdropWhile_prefix isBlank cs).subset

/-- The printed characters of ASCII are not white space. -/
theorem isBlank_of_visible {c : Char} (h : 32 < c.toNat ∧ c.toNat < 127) : isBlank c = false := by
  simp only [isBlank, Bool.or_eq_false_iff, Bool.and_eq_false_iff, beq_eq_false_iff_ne,
    decide_eq_false_iff_not]
  omega

theorem isBlank_of_isDigit {c : Char} (h : c.isDigit = true) : isBlank c = false := by
  obtain ⟨hlow, hhigh⟩ : 48 ≤ c.toNat ∧ c.toNat ≤ 57 := Char.isDigit_iff_toNat.mp h
  exact isBlank_of_visible ⟨by omega, by omega⟩

end Blank

end RespClient
