import RespClient.Routing.Redirect
import RespClient.Proofs.Text.Item
import RespClient.Proofs.Text.Numeral
import RespClient.Proofs.Text.Utf8

/-!
# What error replies mean

The type of an error is the first word of its text as it came. What stands behind the type is
cut out of the trimmed text, by a number of bytes, and split into words anew. None of this
can go wrong, and it comes down to the tokens of the text, whatever white space stands
between and around them.
-/

namespace RespClient.Redirect

variable {e : ErrorReply} {args : List Char} {slot : Nat} {address word : String}

/-- The tokens of an error: the pieces of its text between white space that are not empty. -/
def tokens (e : ErrorReply) : List String :=
  ((e.message.toList.splitOnP Blank.isBlank).filter (!·.isEmpty)).map String.ofList

/-- The tokens are the word, a number of 16 bits and the address. -/
def Names (word : String) (e : ErrorReply) (slot : Nat) (address : String) : Prop :=
  ∃ digits n, tokens e = [word, digits, address] ∧ Numeral.Denotes16 digits n ∧ n.toNat = slot

/-- The tokens say something about routing. -/
def Routes (e : ErrorReply) : Prop :=
  (∃ slot address, Names "MOVED" e slot address) ∨ (∃ slot address, Names "ASK" e slot address) ∨
    (tokens e).head? = some "CLUSTERDOWN" ∨ (tokens e).head? = some "CROSSSLOT"

/-! ## The type and what is behind it -/

theorem tokens_eq (e : ErrorReply) :
    tokens e = (Blank.words e.message.toList).map String.ofList := by
  rw [tokens, Blank.words_eq_splitOnP]

theorem head?_tokens (hword : word ≠ "") : (tokens e).head? = some word ↔ e.kind = word := by
  rw [tokens_eq, ErrorReply.kind]
  cases Blank.words e.message.toList with
  | nil => simpa using hword.symm
  | cons first rest => simp

theorem map_words_arguments (e : ErrorReply) :
    (Blank.words (arguments e)).map String.ofList = (tokens e).tail := by
  obtain ⟨args, hargs, hwords⟩ := arguments?_eq e
  have hget : arguments e = args := Option.get_of_eq_some _ hargs
  rw [hget, hwords, tokens_eq, List.map_tail]

theorem readSlot?_eq_some : readSlot? args = some (slot, address) ↔
    ∃ digits n, (Blank.words args).map String.ofList = [digits, address] ∧
      Numeral.Denotes16 digits n ∧ n.toNat = slot := by
  unfold readSlot?
  constructor
  · intro h
    split at h
    · rename_i digits last hwords
      obtain ⟨n, hread, hn⟩ := Option.map_eq_some_iff.mp h
      cases hn
      exact ⟨digits, n, hwords, Numeral.readUInt16?_eq_some.mp hread, rfl⟩
    · cases h
  · rintro ⟨digits, n, hwords, hdenotes, rfl⟩
    rw [hwords]
    show (Numeral.readUInt16? digits).map _ = _
    rw [Numeral.readUInt16?_eq_some.mpr hdenotes, Option.map_some]

/-- A redirect is told by its type and by what is read behind it. -/
theorem names_iff (hword : word ≠ "") : Names word e slot address ↔
    e.kind = word ∧ readSlot? (arguments e) = some (slot, address) := by
  rw [readSlot?_eq_some, map_words_arguments, ← head?_tokens hword, Names]
  constructor
  · rintro ⟨digits, n, htokens, hn⟩
    exact ⟨by rw [htokens]; rfl, digits, n, by rw [htokens]; rfl, hn⟩
  · rintro ⟨hhead, digits, n, htail, hn⟩
    refine ⟨digits, n, ?_, hn⟩
    obtain ⟨rest, hrest⟩ := List.head?_eq_some_iff.mp hhead
    rw [hrest, List.tail_cons] at htail
    rw [hrest, htail]

/-! ## Verdicts -/

/-- What the tokens of an error mean. -/
inductive Means (e : ErrorReply) : Failure → Prop
  | moved {slot : Nat} {address : String} (h : Names "MOVED" e slot address) :
      Means e (.moved slot address)
  | ask {slot : Nat} {address : String} (h : Names "ASK" e slot address) :
      Means e (.ask slot address)
  | clusterDown (h : (tokens e).head? = some "CLUSTERDOWN") : Means e .clusterDown
  | crossSlot (h : (tokens e).head? = some "CROSSSLOT") : Means e .crossSlot
  | other (h : ¬Routes e) : Means e (.server (String.ofList (Blank.trim e.message.toList)))

theorem routes_iff : Routes e ↔
    ((e.kind = "MOVED" ∨ e.kind = "ASK") ∧ (readSlot? (arguments e)).isSome = true) ∨
      e.kind = "CLUSTERDOWN" ∨ e.kind = "CROSSSLOT" := by
  have hsome : (readSlot? (arguments e)).isSome = true ↔
      ∃ slot address, readSlot? (arguments e) = some (slot, address) := by
    rw [Option.isSome_iff_exists, Prod.exists]
  rw [Routes, head?_tokens (by decide), head?_tokens (by decide), hsome, or_and_right, or_assoc]
  simp only [names_iff (show "MOVED" ≠ "" by decide), names_iff (show "ASK" ≠ "" by decide),
    exists_and_left]

theorem means_classify (e : ErrorReply) : Means e (classify e) := by
  unfold classify
  split <;> rename_i hkind
  · split <;> rename_i hread
    · exact .moved ((names_iff (by decide)).mpr ⟨hkind, hread⟩)
    · exact .other (by simp [routes_iff, hkind, hread])
  · split <;> rename_i hread
    · exact .ask ((names_iff (by decide)).mpr ⟨hkind, hread⟩)
    · exact .other (by simp [routes_iff, hkind, hread])
  · exact .clusterDown ((head?_tokens (by decide)).mpr hkind)
  · exact .crossSlot ((head?_tokens (by decide)).mpr hkind)
  · exact .other (by simp_all [routes_iff])

theorem classify_of_means {verdict : Failure} (h : Means e verdict) : classify e = verdict := by
  cases h with
  | moved h =>
      obtain ⟨hkind, hread⟩ := (names_iff (by decide)).mp h
      simp only [classify, hkind, hread]
  | ask h =>
      obtain ⟨hkind, hread⟩ := (names_iff (by decide)).mp h
      simp only [classify, hkind, hread]
  | clusterDown h =>
      have hkind := (head?_tokens (by decide)).mp h
      simp only [classify, hkind]
  | crossSlot h =>
      have hkind := (head?_tokens (by decide)).mp h
      simp only [classify, hkind]
  | other h =>
      -- any other verdict would be one about routing
      generalize hverdict : classify e = verdict
      have hmeans : Means e verdict := hverdict ▸ means_classify e
      cases hmeans with
      | moved hnames => exact absurd (.inl ⟨_, _, hnames⟩) h
      | ask hnames => exact absurd (.inr (.inl ⟨_, _, hnames⟩)) h
      | clusterDown hhead => exact absurd (.inr (.inr (.inl hhead))) h
      | crossSlot hhead => exact absurd (.inr (.inr (.inr hhead))) h
      | other _ => rfl

/-- The length of the type in bytes is a place between two characters of the trimmed text. -/
theorem isValid_size_kind (e : ErrorReply) : (⟨Utf8.size e.kind.toList⟩ : String.Pos.Raw).IsValid
    (String.ofList (Blank.trim e.message.toList)) := by
  obtain ⟨rest, htrim, -⟩ := trim_message e
  rw [Utf8.isValid_iff, htrim]
  exact ⟨_, Utf8.dropBytes?_append _ _⟩

/-- **An error reply means what its tokens say**, whatever white space stands between and
around them, and it can always be taken apart: the length of its type in bytes is in range of
the trimmed text and between two of its characters. -/
theorem classify_exact (e : ErrorReply) :
    (⟨Utf8.size e.kind.toList⟩ : String.Pos.Raw).IsValid
        (String.ofList (Blank.trim e.message.toList)) ∧
      (∃ args, arguments? e = some args) ∧
      ∀ verdict, classify e = verdict ↔ Means e verdict := by
  obtain ⟨args, hargs, -⟩ := arguments?_eq e
  refine ⟨isValid_size_kind e, ⟨args, hargs⟩, ?_⟩
  intro verdict
  constructor
  · rintro rfl
    exact means_classify e
  · exact classify_of_means

/-- The white space may be of any kind and anywhere; one word more spoils a redirect. -/
example :
    classify { message := "\u3000MOVED\u20037\t[::1]:7000\x0b" } = .moved 7 "[::1]:7000" ∧
      classify { message := " ASK 1 a:1 extra " } = .server "ASK 1 a:1 extra" ∧
      classify { message := "\u2003" } = .server "" := by
  decide +kernel

end RespClient.Redirect
