import RespClient.Proofs.Node.Address
import RespClient.Proofs.Text.Trim

/-!
# Addresses read back

Reading an address takes away what may surround it, one thing after the other: white space, a
scheme, slashes and, once the port is split off, brackets. Each of these steps could eat a
part of the host. It does not where the host holds a colon, for then brackets stand between
the host and everything else, and otherwise only a host that begins with white space or has
brackets of its own is cut. A scheme is never taken for a part of a printed address, since
what follows the first colon there is a digit and no slash.
-/

namespace RespClient

namespace Address

/-! ## One step after the other -/

/-- The host can be told from everything that is taken away around it: brackets go around it,
or it neither begins with white space nor has brackets of its own. -/
def Readable (host : String) : Prop :=
  host ≠ "" ∧ (':' ∈ host.toList ∨
    (∀ c ∈ host.toList.head?, Blank.isBlank c = false) ∧
      ¬∃ inner, host.toList = '[' :: inner ++ [']'])

/-- What can stand right in front of an address. -/
def schemes : List String := ["", "redis://", "rediss://"]

/-- The text is the address, with nothing else around it than what reading takes away. -/
def Written (text : List Char) (a : Address) : Prop :=
  ∃ (front behind : List Char) (scheme : String) (slashes : Nat),
    text = front ++ (scheme.toList ++ a.text.toList ++ List.replicate slashes '/') ++ behind ∧
    (∀ c ∈ front, Blank.isBlank c = true) ∧ scheme ∈ schemes ∧
    (∀ c ∈ behind, Blank.isBlank c = true)

theorem written_text (a : Address) : Written a.text.toList a :=
  ⟨[], [], "", 0, by simp, by simp, by simp [schemes], by simp⟩

variable {a : Address} {scheme : String}

/-- A printed address ends in a digit. -/
theorem getLast?_text (a : Address) : ∃ c, a.text.toList.getLast? = some c ∧ c.isDigit = true := by
  have hne := Numeral.natChars_ne_nil a.port.toNat
  refine ⟨_, ?_, Numeral.isDigit_of_mem_natChars (List.getLast_mem hne)⟩
  rw [toList_text, List.getLast?_append, List.getLast?_cons, List.getLast?_eq_some_getLast hne]
  rfl

theorem text_ne_empty (a : Address) : a.text ≠ "" := by
  intro h
  simpa [toList_text] using congrArg String.toList h

/-- What follows the first colon of a text that begins with a scheme is a slash. -/
theorem after?_eq_none {d : Char} {host rest : List Char} {lead : String} (word : List Char)
    (hlead : lead.toList = word ++ [':', '/', '/']) (hword : ':' ∉ word) (hhost : ':' ∉ host)
    (hd : d ≠ '/') : after? lead (host ++ ':' :: d :: rest) = none := by
  have hcolon : ∀ {cs : List Char}, ':' ∉ cs → ∀ more,
      (cs ++ ':' :: more).dropWhile (· != ':') = ':' :: more := by
    intro cs hcs more
    refine Text.dropWhile_append_kept (fun c hc => bne_iff_ne.mpr ?_) (by simp)
    rintro rfl
    exact hcs hc
  rw [after?, if_neg]
  intro hprefix
  obtain ⟨more, hmore⟩ := List.isPrefixOf_iff_prefix.mp hprefix
  rw [hlead, List.append_assoc] at hmore
  have hsame := congrArg (List.dropWhile (· != ':')) hmore
  rw [hcolon hhost, List.cons_append, hcolon hword] at hsame
  have hslash : '/' = d := (List.cons.inj (List.cons.inj hsame).2).1
  exact hd hslash.symm

/-- A printed address is not taken for one with a scheme. -/
theorem dropScheme_text (a : Address) (more : List Char) :
    dropScheme (a.text.toList ++ more) = a.text.toList ++ more := by
  obtain ⟨d, digits, hdigits⟩ := List.exists_cons_of_ne_nil
    (Numeral.natChars_ne_nil a.port.toNat)
  have hd : d ≠ '/' := by
    rintro rfl
    exact Numeral.notMem_natChars (by decide) _ (hdigits ▸ List.mem_cons_self)
  have htext : a.text.toList ++ more = hostChars a.host ++ ':' :: d :: (digits ++ more) := by
    rw [toList_text, hdigits]
    simp
  have hnone : after? "redis://" (a.text.toList ++ more) = none ∧
      after? "rediss://" (a.text.toList ++ more) = none := by
    rw [htext]
    by_cases hcolon : ':' ∈ a.host.toList
    · rw [hostChars, if_pos (by simpa using hcolon)]
      exact ⟨rfl, rfl⟩
    · rw [hostChars, if_neg (by simpa using hcolon)]
      exact ⟨after?_eq_none "redis".toList rfl (by decide) hcolon hd,
        after?_eq_none "rediss".toList rfl (by decide) hcolon hd⟩
  rw [dropScheme, hnone.1, hnone.2]
  rfl

/-- A scheme is dropped once. -/
theorem dropScheme_append (hscheme : scheme ∈ schemes) (a : Address) (more : List Char) :
    dropScheme (scheme.toList ++ a.text.toList ++ more) = a.text.toList ++ more := by
  rw [List.append_assoc]
  simp only [schemes, List.mem_cons, List.not_mem_nil, or_false] at hscheme
  rcases hscheme with rfl | rfl | rfl
  · rw [String.toList_empty, List.nil_append, dropScheme_text]
  · rfl
  · rfl

theorem dropSlashes_text (a : Address) (slashes : Nat) :
    dropSlashes (a.text.toList ++ List.replicate slashes '/') = a.text.toList := by
  obtain ⟨last, hlast, hdigit⟩ := getLast?_text a
  refine Text.dropWhile_reverse_append_kept (fun c hc => ?_) (fun c hc => ?_)
  · rw [List.eq_of_mem_replicate hc]
    rfl
  · obtain rfl := Option.some.inj (hlast.symm.trans hc)
    refine beq_eq_false_iff_ne.mpr ?_
    rintro rfl
    exact absurd hdigit (by decide)

/-- Brackets are dropped where printing has set them, and nowhere else. -/
theorem dropBrackets_hostChars {host : String} (h : Readable host) :
    dropBrackets (hostChars host) = host.toList := by
  rw [hostChars]
  split
  · simp [dropBrackets]
  · rename_i hcolon
    have hbare : ¬∃ inner, host.toList = '[' :: inner ++ [']'] :=
      (h.2.resolve_left (by simpa using hcolon)).2
    unfold dropBrackets
    split
    · rename_i rest hrest
      rw [if_neg]
      intro hlast
      obtain ⟨inner, rfl⟩ := List.getLast?_eq_some_iff.mp hlast
      exact hbare ⟨inner, by rw [hrest]; rfl⟩
    · rfl

theorem readBare_text (h : Readable a.host) : readBare a.text.toList = .ok a := by
  have hne : a.host.toList.isEmpty = false := by
    simpa [List.isEmpty_eq_false_iff] using h.1
  have hport : Numeral.readUInt16? (String.ofList (Numeral.natChars a.port.toNat)) = some a.port :=
    Numeral.readUInt16?_natText a.port
  rw [readBare, toList_text, splitLast?_append (colon_notMem_natChars _)]
  simp only [dropBrackets_hostChars h, hne, hport, String.ofList_toList]
  rfl

/-- What stands in front of a readable host in the text of its address is not white space. -/
theorem head?_text (h : Readable a.host) : ∀ c ∈ a.text.toList.head?, Blank.isBlank c = false := by
  rw [toList_text, hostChars, List.head?_append]
  split
  · rintro c ⟨⟩
    rfl
  · rename_i hcolon
    obtain ⟨hfirst, -⟩ := h.2.resolve_left (by simpa using hcolon)
    obtain ⟨c, rest, hhost⟩ := List.exists_cons_of_ne_nil
      (show a.host.toList ≠ [] by simpa using h.1)
    rw [hhost] at hfirst ⊢
    exact hfirst

/-- White space is taken away, and it alone. -/
theorem Written.trim_eq {text : List Char} (hreadable : Readable a.host) (h : Written text a) :
    ∃ scheme ∈ schemes, ∃ slashes, Blank.trim text =
      scheme.toList ++ a.text.toList ++ List.replicate slashes '/' := by
  obtain ⟨front, behind, scheme, slashes, rfl, hfront, hscheme, hbehind⟩ := h
  refine ⟨scheme, hscheme, slashes, Blank.trim_surrounded hfront hbehind ?_ ?_ ?_⟩
  · simp [text_ne_empty]
  · have hhead := head?_text hreadable
    obtain ⟨c, rest, htext⟩ := List.exists_cons_of_ne_nil
      (show a.text.toList ≠ [] by simp [text_ne_empty])
    rw [htext] at hhead ⊢
    simp only [schemes, List.mem_cons, List.not_mem_nil, or_false] at hscheme
    rcases hscheme with rfl | rfl | rfl
    · exact hhead
    · rintro c ⟨⟩
      rfl
    · rintro c ⟨⟩
      rfl
  · obtain ⟨last, hlast, hdigit⟩ := getLast?_text a
    rw [List.getLast?_append, List.getLast?_replicate, List.getLast?_append, hlast]
    split
    · rintro c ⟨⟩
      exact Blank.isBlank_of_isDigit hdigit
    · rintro c ⟨⟩
      rfl

/-- Only the host can bring a comma into the text of an address. -/
theorem Written.comma_notMem {text : List Char} (h : Written text a)
    (hhost : ',' ∉ a.host.toList) : ',' ∉ text := by
  obtain ⟨front, behind, scheme, slashes, rfl, hfront, hscheme, hbehind⟩ := h
  have hblank : ∀ {cs : List Char}, (∀ c ∈ cs, Blank.isBlank c = true) → ',' ∉ cs :=
    fun h hmem => absurd (h _ hmem) (by decide)
  have hdigits : ',' ∉ Numeral.natChars a.port.toNat := Numeral.notMem_natChars (by decide) _
  have hchars : ',' ∉ hostChars a.host := by
    rw [hostChars]
    split <;> simp [hhost]
  have hlead : ',' ∉ scheme.toList := by
    simp only [schemes, List.mem_cons, List.not_mem_nil, or_false] at hscheme
    rcases hscheme with rfl | rfl | rfl <;> decide
  simp [toList_text, hblank hfront, hblank hbehind, hdigits, hchars, hlead]

/-- A printed address is read back, whatever is around it. -/
theorem parse_of_written {text : List Char} (hreadable : Readable a.host) (h : Written text a) :
    parse (String.ofList text) = .ok a := by
  obtain ⟨scheme, hscheme, slashes, htrim⟩ := h.trim_eq hreadable
  rw [parse, String.toList_ofList, htrim, dropScheme_append hscheme, dropSlashes_text,
    readBare_text hreadable]

/-! ## Hosts that are not read back -/

/-- What was read is what stands on both sides of the last colon. -/
theorem readBare_eq_ok {cs : List Char} (h : readBare cs = .ok a) :
    ∃ host port, splitLast? cs = some (host, port) ∧
      a.host = String.ofList (dropBrackets host) ∧ a.host ≠ "" ∧
      Numeral.readUInt16? (String.ofList port) = some a.port := by
  unfold readBare at h
  split at h
  · cases h
  · rename_i host port hsplit
    dsimp only at h
    split at h
    · cases h
    · rename_i hne
      split at h
      · cases h
      · rename_i n hport
        cases h
        exact ⟨host, port, hsplit, rfl, by simpa using hne, hport⟩

/-- An address that was read has a host. -/
theorem host_ne_empty_of_parse {text : String} (h : parse text = .ok a) : a.host ≠ "" := by
  unfold parse at h
  split at h
  · rename_i b hread
    cases h
    obtain ⟨-, -, -, -, hne, -⟩ := readBare_eq_ok hread
    exact hne
  · cases h

theorem length_dropBrackets (cs : List Char) : (dropBrackets cs).length ≤ cs.length := by
  unfold dropBrackets
  split
  · split
    · rw [List.length_dropLast, List.length_cons]
      omega
    · exact Nat.le_refl _
  · exact Nat.le_refl _

/-- Without a colon in it, a host loses the white space in front and then its brackets. -/
theorem host_eq_of_parse_text (hcolon : ':' ∉ a.host.toList) (h : parse a.text = .ok a) :
    a.host.toList = dropBrackets (Blank.trimStart a.host.toList) := by
  have hkept : ':' ∉ Blank.trimStart a.host.toList := fun hmem =>
    hcolon ((List.dropWhile_suffix _).subset hmem)
  let b : Address := { a with host := String.ofList (Blank.trimStart a.host.toList) }
  have hb : b.text.toList =
      Blank.trimStart a.host.toList ++ ':' :: Numeral.natChars a.port.toNat := by
    simp [b, toList_text, hostChars, hkept]
  have htext : a.text.toList = a.host.toList.takeWhile Blank.isBlank ++ b.text.toList ++ [] := by
    rw [hb, List.append_nil, ← List.append_assoc, Blank.trimStart,
      List.takeWhile_append_dropWhile, toList_text, hostChars, if_neg (by simpa using hcolon)]
  have htrim : Blank.trim a.text.toList = b.text.toList := by
    rw [htext]
    refine Blank.trim_surrounded (fun c hc => ?_) (by simp) (by simp [text_ne_empty]) ?_ ?_
    · exact List.all_eq_true.mp List.all_takeWhile c hc
    · intro c hc
      rw [hb, List.head?_append] at hc
      rcases Option.or_eq_some_iff.mp hc with hfirst | ⟨-, hfirst⟩
      · exact Blank.head?_trimStart c hfirst
      · cases hfirst
        rfl
    · obtain ⟨last, hlast, hdigit⟩ := getLast?_text b
      rw [hlast]
      rintro c ⟨⟩
      exact Blank.isBlank_of_isDigit hdigit
  have hschemeless := dropScheme_text b []
  have hslashless := dropSlashes_text b 0
  rw [List.replicate_zero, List.append_nil] at hslashless
  rw [List.append_nil] at hschemeless
  unfold parse at h
  rw [htrim, hschemeless, hslashless] at h
  split at h
  · rename_i c hread
    cases h
    obtain ⟨host, port, hsplit, hhost, -, -⟩ := readBare_eq_ok hread
    rw [hb, splitLast?_append (colon_notMem_natChars _)] at hsplit
    obtain ⟨rfl, -⟩ := Prod.mk.inj (Option.some.inj hsplit)
    simpa using congrArg String.toList hhost
  · cases h

/-- The hosts that are read back are the readable ones. -/
theorem parse_text_eq_ok : parse a.text = .ok a ↔ Readable a.host := by
  constructor
  · intro h
    refine ⟨host_ne_empty_of_parse h, or_iff_not_imp_left.mpr fun hcolon => ?_⟩
    have hhost := host_eq_of_parse_text hcolon h
    have hlength := congrArg List.length hhost
    have hbrackets := length_dropBrackets (Blank.trimStart a.host.toList)
    have htrim : Blank.trimStart a.host.toList = a.host.toList :=
      (List.dropWhile_suffix _).eq_of_length_le
        (show a.host.toList.length ≤ (Blank.trimStart a.host.toList).length by omega)
    rw [htrim] at hhost
    refine ⟨fun c hc => ?_, ?_⟩
    · exact Blank.head?_trimStart c (htrim.symm ▸ hc)
    · rintro ⟨inner, henclosed⟩
      rw [henclosed] at hhost
      have hshort := congrArg List.length hhost
      simp only [dropBrackets, List.cons_append, List.getLast?_concat, if_true,
        List.dropLast_concat, List.length_cons, List.length_append] at hshort
      omega
  · intro h
    have htext := parse_of_written h (written_text a)
    rwa [String.ofList_toList] at htext

end Address

namespace Node

/-! ## Lists of nodes -/

/-- The items are addresses of the nodes in their order, with blank items anywhere. -/
inductive Enumerates : List (List Char) → List Node → Prop
  | nil : Enumerates [] []
  | blank {item : List Char} {items : List (List Char)} {nodes : List Node} :
      (∀ c ∈ item, Blank.isBlank c = true) → Enumerates items nodes →
      Enumerates (item :: items) nodes
  | node {item : List Char} {items : List (List Char)} {node : Node} {nodes : List Node} :
      Address.Written item node.toAddress → Enumerates items nodes →
      Enumerates (item :: items) (node :: nodes)

/-- The node without its label. -/
def bare (node : Node) : Node := { toAddress := node.toAddress }

theorem parse_eq_ok {text : String} {node : Node} :
    parse text = .ok node ↔ ∃ a, Address.parse text = .ok a ∧ node = { toAddress := a } := by
  unfold parse
  rcases Address.parse text with e | a
  · simp [Except.map]
  · simp [Except.map, eq_comm]

theorem parse_of_written {node : Node} {text : List Char} (hreadable : Address.Readable node.host)
    (h : Address.Written text node.toAddress) : parse (String.ofList text) = .ok node.bare :=
  parse_eq_ok.mpr ⟨_, Address.parse_of_written hreadable h, rfl⟩

/-- Items that are blank are left out, and the others are read one by one. -/
theorem Enumerates.mapM_parse {items : List (List Char)} {nodes : List Node}
    (h : Enumerates items nodes) (hreadable : ∀ node ∈ nodes, Address.Readable node.host) :
    ((items.map Blank.trim).filter fun item => !item.isEmpty).mapM
      (fun item => parse (String.ofList item)) = .ok (nodes.map bare) := by
  induction h with
  | nil => rfl
  | blank hblank _ ih =>
      rw [List.map_cons, Blank.trim_of_blanks hblank]
      exact ih hreadable
  | @node item items node nodes hwritten _ ih =>
      have hhost : Address.Readable node.host := hreadable node List.mem_cons_self
      have hrest := ih fun other hother => hreadable other (List.mem_cons_of_mem _ hother)
      obtain ⟨scheme, hscheme, slashes, htrim⟩ := hwritten.trim_eq hhost
      have hitem : Address.Written (Blank.trim item) node.toAddress :=
        ⟨[], [], scheme, slashes, by simp [htrim], by simp, hscheme, by simp⟩
      have hne : (!(Blank.trim item).isEmpty) = true := by
        simp [htrim, Address.text_ne_empty]
      rw [List.map_cons, List.filter_cons, if_pos hne, List.mapM_cons,
        parse_of_written hhost hitem, hrest]
      rfl

/-- No item has a comma in it when no host has one. -/
theorem Enumerates.comma_notMem {items : List (List Char)} {nodes : List Node}
    (h : Enumerates items nodes) (hcomma : ∀ node ∈ nodes, ',' ∉ node.host.toList) :
    ∀ item ∈ items, ',' ∉ item := by
  induction h with
  | nil => simp
  | blank hblank _ ih =>
      refine List.forall_mem_cons.mpr ⟨fun hmem => ?_, ih hcomma⟩
      exact absurd (hblank _ hmem) (by decide)
  | node hwritten _ ih =>
      obtain ⟨hhost, hrest⟩ := List.forall_mem_cons.mp hcomma
      exact List.forall_mem_cons.mpr ⟨hwritten.comma_notMem hhost, ih hrest⟩

/-- **Addresses are read back from their text.** A node with a readable host is read from the
text of its address, also with white space, a scheme and slashes around it, and a list of such
nodes from their addresses with commas between them, whatever blank items are among them. -/
theorem reads_back {nodes : List Node}
    (hreadable : ∀ node ∈ nodes, Address.Readable node.host) :
    (∀ node ∈ nodes, parse node.text = .ok node.bare ∧
      ∀ text, Address.Written text node.toAddress → parse (String.ofList text) = .ok node.bare) ∧
    (nodes ≠ [] → (∀ node ∈ nodes, ',' ∉ node.host.toList) → ∀ items, Enumerates items nodes →
      parseSeeds (String.ofList ([','].intercalate items)) = .ok (nodes.map bare)) := by
  constructor
  · intro node hnode
    refine ⟨?_, fun text htext => parse_of_written (hreadable node hnode) htext⟩
    have htext := parse_of_written (hreadable node hnode) (Address.written_text node.toAddress)
    rwa [String.ofList_toList] at htext
  · intro hne hcomma items henumerates
    have hitems : items ≠ [] := by
      rintro rfl
      cases henumerates
      exact hne rfl
    have hsplit : ([','].intercalate items).splitOn ',' = items :=
      List.splitOn_intercalate ',' (henumerates.comma_notMem hcomma) hitems
    rw [parseSeeds, String.toList_ofList, hsplit, henumerates.mapM_parse hreadable]
    split
    · rename_i hparsed
      cases hparsed
    · rename_i hparsed
      exact absurd (List.map_eq_nil_iff.mp (Except.ok.inj hparsed)) hne
    · rename_i hparsed
      exact hparsed.symm

theorem reads_back_loopback :
    parse "[::1]:6379" = .ok { host := "::1", port := 6379 } ∧
    parse "\trediss://[::1]:6379// " = .ok { host := "::1", port := 6379 } ∧
    parseSeeds " redis://[::1]:6379/ ,, ,redis:7000" =
      .ok [{ host := "::1", port := 6379 }, { host := "redis", port := 7000 }] := by
  have hreadable : ∀ node ∈ ([{ host := "::1", port := 6379 },
      { host := "redis", port := 7000, label := some "a" }] : List Node),
      Address.Readable node.host := by
    intro node hnode
    rcases List.mem_pair.mp hnode with rfl | rfl
    · exact ⟨by decide, .inl (by decide)⟩
    · refine ⟨by decide, .inr ⟨by simp [Blank.isBlank], ?_⟩⟩
      rintro ⟨inner, h⟩
      cases h
  obtain ⟨hone, hall⟩ := reads_back hreadable
  obtain ⟨htext, hwritten⟩ := hone _ List.mem_cons_self
  have htab : ∀ c ∈ ['\t'], Blank.isBlank c = true := by simp [Blank.isBlank]
  have hspace : ∀ c ∈ [' '], Blank.isBlank c = true := by simp [Blank.isBlank]
  refine ⟨htext, hwritten _ ⟨['\t'], [' '], "rediss://", 2, rfl, htab, by decide, hspace⟩,
    hall (by simp) (by decide) [" redis://[::1]:6379/ ".toList, [], [' '], "redis:7000".toList] ?_⟩
  refine .node ⟨[' '], [' '], "redis://", 1, rfl, hspace, by decide, hspace⟩ ?_
  refine .blank (by simp) (.blank hspace (.node ?_ .nil))
  exact Address.written_text ⟨"redis", 7000⟩

end Node

end RespClient
