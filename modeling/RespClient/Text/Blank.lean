/-!
# White space

White space is the Unicode property `White_Space`. Trimming and splitting into
words go by it.
-/

namespace RespClient.Blank

/-- The Unicode property `White_Space`. -/
def isBlank (c : Char) : Bool :=
  let n := c.toNat
  (9 ≤ n && n ≤ 13) || n == 0x20 || n == 0x85 || n == 0xA0 || n == 0x1680 ||
    (0x2000 ≤ n && n ≤ 0x200A) || n == 0x2028 || n == 0x2029 || n == 0x202F ||
    n == 0x205F || n == 0x3000

/-- Drops the white space in front. -/
def trimStart (cs : List Char) : List Char :=
  cs.dropWhile isBlank

/-- Drops the white space at the end. -/
def trimEnd (cs : List Char) : List Char :=
  (cs.reverse.dropWhile isBlank).reverse

/-- Drops the white space at both ends. -/
def trim (cs : List Char) : List Char :=
  trimEnd (trimStart cs)

/-- Splits into words, given the letters of the word that has begun, latest
first. -/
def wordsFrom (word : List Char) : List Char → List (List Char)
  | [] => if word.isEmpty then [] else [word.reverse]
  | c :: rest =>
    if isBlank c then
      if word.isEmpty then wordsFrom [] rest else word.reverse :: wordsFrom [] rest
    else wordsFrom (c :: word) rest

/-- The words of a text: its longest parts without white space. -/
def words (cs : List Char) : List (List Char) :=
  wordsFrom [] cs

/-! ## The first word

What is trimmed away is no part of a word, and the first word stands in front of what is
left. -/

variable {cs word rest blanks : List Char}

theorem wordsFrom_append (h : ∀ c ∈ word, isBlank c = false) (begun rest : List Char) :
    wordsFrom begun (word ++ rest) = wordsFrom (word.reverse ++ begun) rest := by
  induction word generalizing begun with
  | nil => rfl
  | cons c word ih =>
    have hc : isBlank c = false := h c List.mem_cons_self
    rw [List.cons_append, wordsFrom, if_neg (by simp [hc]),
      ih (fun d hd => h d (List.mem_cons_of_mem _ hd)), List.reverse_cons, List.append_assoc]
    rfl

theorem wordsFrom_cons_blank {c : Char} (h : isBlank c = true) (begun rest : List Char) :
    wordsFrom begun (c :: rest) = wordsFrom begun [] ++ wordsFrom [] rest := by
  cases begun <;> simp [wordsFrom, h]

theorem words_of_blanks (h : ∀ c ∈ blanks, isBlank c = true) : words blanks = [] := by
  induction blanks with
  | nil => rfl
  | cons c blanks ih =>
    rw [words, wordsFrom_cons_blank (h c List.mem_cons_self)]
    exact ih fun d hd => h d (List.mem_cons_of_mem _ hd)

theorem wordsFrom_append_blanks (h : ∀ c ∈ blanks, isBlank c = true) (begun cs : List Char) :
    wordsFrom begun (cs ++ blanks) = wordsFrom begun cs := by
  induction cs generalizing begun with
  | nil =>
    cases blanks with
    | nil => rfl
    | cons c blanks =>
      have hbehind : wordsFrom [] blanks = [] :=
        words_of_blanks fun d hd => h d (List.mem_cons_of_mem _ hd)
      rw [List.nil_append, wordsFrom_cons_blank (h c List.mem_cons_self), hbehind,
        List.append_nil]
  | cons c cs ih =>
    rw [List.cons_append, wordsFrom, wordsFrom, ih, ih]

theorem words_trimStart (cs : List Char) : words (trimStart cs) = words cs := by
  induction cs with
  | nil => rfl
  | cons c cs ih =>
    cases hc : isBlank c with
    | true =>
      have htrim : trimStart (c :: cs) = trimStart cs := List.dropWhile_cons_of_pos hc
      rw [htrim, ih, words, words, wordsFrom_cons_blank hc]
      rfl
    | false => rw [trimStart, List.dropWhile_cons_of_neg (by simp [hc])]

theorem words_trimEnd (cs : List Char) : words (trimEnd cs) = words cs := by
  have hsplit : cs = trimEnd cs ++ (cs.reverse.takeWhile isBlank).reverse := by
    rw [trimEnd, ← List.reverse_append, List.takeWhile_append_dropWhile, List.reverse_reverse]
  conv => rhs; rw [hsplit]
  refine (wordsFrom_append_blanks (fun c hc => ?_) [] _).symm
  exact List.all_eq_true.mp List.all_takeWhile c (List.mem_reverse.mp hc)

theorem words_append (hword : ∀ c ∈ word, isBlank c = false) (hne : word ≠ [])
    (hrest : ∀ c ∈ rest.head?, isBlank c = true) : words (word ++ rest) = word :: words rest := by
  have hend : wordsFrom word.reverse [] = [word] := by simp [wordsFrom, hne]
  rw [words, wordsFrom_append hword, List.append_nil]
  cases rest with
  | nil => exact hend
  | cons c rest =>
    have hc : isBlank c = true := hrest c rfl
    rw [wordsFrom_cons_blank hc, hend, words, wordsFrom_cons_blank hc]
    rfl

theorem trimEnd_append (hword : ∀ c ∈ word, isBlank c = false) (rest : List Char) :
    trimEnd (word ++ rest) = word ++ trimEnd rest := by
  have hkept : word.reverse.dropWhile isBlank = word.reverse := by
    cases hreverse : word.reverse with
    | nil => rfl
    | cons c more =>
      have hc : isBlank c = false := hword c (List.mem_reverse.mp (hreverse ▸ List.mem_cons_self))
      exact List.dropWhile_cons_of_neg (by simp [hc])
  rw [trimEnd, trimEnd, List.reverse_append, List.dropWhile_append, hkept]
  split
  · rename_i hnil
    simp [List.isEmpty_iff.mp hnil]
  · simp

/-- A text is blank, or a word stands in front of the rest once it is trimmed. -/
theorem trimStart_cases (cs : List Char) :
    (trimStart cs = [] ∧ words cs = []) ∨ ∃ word rest, trimStart cs = word ++ rest ∧
      (∀ c ∈ word, isBlank c = false) ∧ word ≠ [] ∧ (∀ c ∈ rest.head?, isBlank c = true) := by
  rcases htrim : trimStart cs with _ | ⟨c, more⟩
  · refine .inl ⟨rfl, ?_⟩
    rw [← words_trimStart, htrim]
    rfl
  · refine .inr ⟨(c :: more).takeWhile (!isBlank ·), (c :: more).dropWhile (!isBlank ·),
      List.takeWhile_append_dropWhile.symm, fun d hd => ?_, ?_, fun d hd => ?_⟩
    · simpa using List.all_eq_true.mp List.all_takeWhile d hd
    · have hc : isBlank c = false := by
        have hhead := List.head?_dropWhile_not isBlank cs
        rw [show cs.dropWhile isBlank = c :: more from htrim] at hhead
        simpa using hhead
      simp [hc]
    · have hhead := List.head?_dropWhile_not (!isBlank ·) (c :: more)
      rw [Option.mem_def.mp hd] at hhead
      simpa using hhead

end RespClient.Blank
