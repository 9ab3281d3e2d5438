import RespClient.Proofs.Node.Reading
import RespClient.Settings

/-!
# One node in two forms

What to connect to is given as an address or as a URL, and `://` decides which reader gets the
text. The two have nothing in common: one takes away what may surround an address and cuts it at
its last colon, the other goes from a scheme to an authority and finds the host between a user
and a port. Where a host is made of letters, digits, dashes, dots and underscores alone, nothing
in it can be taken for a separator by either of them. Then both name the same node, and the host
keeps its letters as they were, whatever they would be turned into on the web.
-/

namespace RespClient

namespace Address

/-! ## Plain hosts and their ports -/

/-- A character that neither an address nor a URL gives a meaning of its own in a host. -/
def isPlain (c : Char) : Bool :=
  Ascii.isLetter c || Ascii.isDigit c || c == '-' || c == '.' || c == '_'

/-- The host is not empty and plain throughout. -/
structure PlainHost (host : String) : Prop where
  ne_empty : host ≠ ""
  plain : ∀ c ∈ host.toList, isPlain c = true

/-- The text is the port in decimal digits, with zeros in front or not. -/
structure PortText (text : String) (port : UInt16) : Prop where
  ne_empty : text ≠ ""
  digits : ∀ c ∈ text.toList, c.isDigit = true
  value : Nat.ofDigitChars 10 text.toList 0 = port.toNat

/-- A port as it is written is one of its texts. -/
theorem portText_natText (port : UInt16) : PortText (Numeral.natText port.toNat) port where
  ne_empty h := Numeral.natChars_ne_nil port.toNat (by simpa [Numeral.natText] using h)
  digits c hc := by
    rw [Numeral.natText, String.toList_ofList] at hc
    exact Numeral.isDigit_of_mem_natChars hc
  value := by
    rw [Numeral.natText, String.toList_ofList]
    exact Nat.ofDigitChars_ten_toDigits

/-- A host and a port with a colon between them. -/
def joined (host digits : String) : List Char :=
  host.toList ++ ':' :: digits.toList

variable {host digits scheme : String} {port : UInt16} {c : Char}

theorem visible_of_isPlain (h : isPlain c = true) : 32 < c.toNat ∧ c.toNat < 127 := by
  simp only [isPlain, Ascii.isLetter, Ascii.isDigit, Bool.or_eq_true, Bool.and_eq_true,
    decide_eq_true_eq, beq_iff_eq] at h
  rcases h with (((h | h) | rfl) | rfl) | rfl
  · omega
  · omega
  · decide
  · decide
  · decide

theorem isPlain_of_isDigit (h : c.isDigit = true) : isPlain c = true := by
  have hrange : 48 ≤ c.toNat ∧ c.toNat ≤ 57 := Char.isDigit_iff_toNat.mp h
  simp [isPlain, Ascii.isDigit, hrange]

/-- What separates the parts of an address or of a URL is not in a plain host. -/
theorem PlainHost.notMem (h : PlainHost host) (hc : isPlain c = false) : c ∉ host.toList := by
  intro hmem
  rw [h.plain c hmem] at hc
  cases hc

theorem PlainHost.isEmpty_eq (h : PlainHost host) : host.toList.isEmpty = false := by
  simpa using h.ne_empty

theorem PortText.notMem (h : PortText digits port) (hc : c.isDigit = false) :
    c ∉ digits.toList := by
  intro hmem
  rw [h.digits c hmem] at hc
  cases hc

theorem PortText.isEmpty_eq (h : PortText digits port) : digits.toList.isEmpty = false := by
  simpa using h.ne_empty

/-- A port is read from each of its texts. -/
theorem PortText.readUInt16?_eq (h : PortText digits port) :
    Numeral.readUInt16? digits = some port := by
  have hascii : ∀ c ∈ digits.toList, c.toNat < 0x80 := by
    intro c hc
    have hvisible := visible_of_isPlain (isPlain_of_isDigit (h.digits c hc))
    omega
  have hencode : Utf8.encode digits = digits.toList.map Numeral.byteOf := by
    have := Utf8.encode_ofList_of_ascii hascii
    rwa [String.ofList_toList] at this
  refine Numeral.readUInt16?_eq_some.mpr ⟨_, ?_, ?_, ?_, .inl hencode⟩
  · simpa using h.ne_empty
  · rw [List.forall_mem_map]
    exact fun c hc => Numeral.isDigit_byteOf (h.digits c hc)
  · rw [Numeral.value_eq, Numeral.valueFrom_map_byteOf 0 h.digits, h.value]

theorem mem_joined (hhost : PlainHost host) (hport : PortText digits port)
    (hc : c ∈ joined host digits) : isPlain c = true ∨ c = ':' := by
  rcases List.mem_append.mp hc with hc | hc
  · exact .inl (hhost.plain c hc)
  · rcases List.mem_cons.mp hc with rfl | hc
    · exact .inr rfl
    · exact .inl (isPlain_of_isDigit (hport.digits c hc))

theorem notMem_joined (hhost : PlainHost host) (hport : PortText digits port)
    (hc : isPlain c = false) (hcolon : c ≠ ':') : c ∉ joined host digits := by
  intro hmem
  rcases mem_joined hhost hport hmem with h | h
  · rw [h] at hc
    cases hc
  · exact hcolon h

theorem visible_joined (hhost : PlainHost host) (hport : PortText digits port)
    (hc : c ∈ joined host digits) : 32 < c.toNat ∧ c.toNat < 127 := by
  rcases mem_joined hhost hport hc with h | rfl
  · exact visible_of_isPlain h
  · decide

/-! ## As an address -/

/-- No scheme begins with a plain host. -/
theorem dropScheme_joined (hhost : PlainHost host) (hport : PortText digits port)
    (hscheme : scheme ∈ schemes) :
    dropScheme (scheme.toList ++ joined host digits) = joined host digits := by
  have hnone : ∀ {lead : String} (word : List Char), lead.toList = word ++ [':', '/', '/'] →
      ':' ∉ word → after? lead (joined host digits) = none := by
    intro lead word hlead hword
    obtain ⟨d, rest, hdigits⟩ := List.exists_cons_of_ne_nil
      (show digits.toList ≠ [] by simpa using hport.ne_empty)
    rw [joined, hdigits]
    refine after?_eq_none word hlead hword (hhost.notMem (by decide)) ?_
    rintro rfl
    exact hport.notMem (c := '/') (by decide) (hdigits ▸ List.mem_cons_self)
  simp only [schemes, List.mem_cons, List.not_mem_nil, or_false] at hscheme
  rcases hscheme with rfl | rfl | rfl
  · rw [String.toList_empty, List.nil_append, dropScheme, hnone "redis".toList rfl (by decide),
      hnone "rediss".toList rfl (by decide)]
    rfl
  · rfl
  · rfl

theorem dropSlashes_joined (hhost : PlainHost host) (hport : PortText digits port) :
    dropSlashes (joined host digits) = joined host digits := by
  have hkept : dropSlashes (joined host digits ++ []) = joined host digits := by
    refine Text.dropWhile_reverse_append_kept (by simp) fun c hc => beq_eq_false_iff_ne.mpr ?_
    rintro rfl
    exact notMem_joined hhost hport (by decide) (by decide) (List.mem_of_getLast? hc)
  rwa [List.append_nil] at hkept

theorem readBare_joined (hhost : PlainHost host) (hport : PortText digits port) :
    readBare (joined host digits) = .ok ⟨host, port⟩ := by
  have hbrackets : dropBrackets host.toList = host.toList := by
    unfold dropBrackets
    split
    · rename_i rest hrest
      exact absurd (hrest ▸ List.mem_cons_self) (hhost.notMem (c := '[') (by decide))
    · rfl
  rw [readBare, joined, splitLast?_append (hport.notMem (by decide))]
  simp only [hbrackets, hhost.isEmpty_eq, String.ofList_toList, hport.readUInt16?_eq]
  rfl

/-- Around a plain host and its port nothing is taken away but a scheme. -/
theorem parse_joined (hhost : PlainHost host) (hport : PortText digits port)
    (hscheme : scheme ∈ schemes) :
    parse (String.ofList (scheme.toList ++ joined host digits)) = .ok ⟨host, port⟩ := by
  have hlead : ∀ scheme ∈ schemes,
      scheme.toList.all (fun c => 32 < c.toNat && c.toNat < 127) = true := by decide
  have htrim : Blank.trim (scheme.toList ++ joined host digits) =
      scheme.toList ++ joined host digits := by
    refine Blank.trim_of_none fun c hc => Blank.isBlank_of_visible ?_
    rcases List.mem_append.mp hc with hc | hc
    · simpa using List.all_eq_true.mp (hlead scheme hscheme) c hc
    · exact visible_joined hhost hport hc
  rw [parse, String.toList_ofList, htrim, dropScheme_joined hhost hport hscheme,
    dropSlashes_joined hhost hport, readBare_joined hhost hport]

end Address

/-! ## As a URL -/

namespace Url

open Address

variable {cs rest authority hostText : List Char} {host digits : String} {port : UInt16}

theorem hasScheme_of_notMem (h : '/' ∉ cs) : hasScheme cs = false := by
  induction cs with
  | nil => rfl
  | cons c rest ih =>
      rw [List.mem_cons, not_or] at h
      rw [hasScheme, ih h.2, Bool.or_false, Bool.eq_false_iff]
      intro hprefix
      obtain ⟨more, hmore⟩ := List.isPrefixOf_iff_prefix.mp hprefix
      have hslash : '/' ∈ rest := (List.cons.inj hmore).2 ▸ List.mem_cons_self
      exact h.2 hslash

/-- Where every character can be seen, there is nothing to clean. -/
theorem clean_of_visible (h : ∀ c ∈ cs, 32 < c.toNat) : clean cs = cs := by
  have houter : ∀ {cs : List Char}, (∀ c ∈ cs, 32 < c.toNat) →
      cs.dropWhile (fun c => decide (c.toNat ≤ 32)) = cs := by
    intro cs h
    refine show ([] ++ cs).dropWhile _ = cs from Text.dropWhile_append_kept (by simp) fun c hc => ?_
    exact decide_eq_false (Nat.not_le.mpr (h c (List.mem_of_mem_head? hc)))
  have hne : ∀ {c d : Char}, 32 < c.toNat → d.toNat ≤ 32 → (c != d) = true := by
    intro c d hc hd
    rw [bne_iff_ne]
    rintro rfl
    omega
  rw [clean, houter h, houter fun c hc => h c (List.mem_reverse.mp hc), List.reverse_reverse,
    List.filter_eq_self]
  intro c hc
  rw [hne (h c hc) (by decide), hne (h c hc) (by decide), hne (h c hc) (by decide)]
  rfl

theorem splitScheme?_redis (rest : List Char) :
    splitScheme? ("redis:".toList ++ rest) = some ("redis", rest) :=
  rfl

theorem splitUser_of_notMem (h : '@' ∉ authority) : splitUser authority = (none, authority) := by
  rw [splitUser, Text.span_of_all (Text.bne_of_notMem (by simpa using h))]

theorem splitHost_append (hcolon : ':' ∉ hostText) (hbracket : '[' ∉ hostText) :
    splitHost false (hostText ++ ':' :: rest) = (hostText, some rest) := by
  induction hostText with
  | nil => simp [splitHost]
  | cons c hostText ih =>
      rw [List.mem_cons, not_or] at hcolon hbracket
      simp [splitHost, ih hcolon.2 hbracket.2, Ne.symm hcolon.1, Ne.symm hbracket.1]

/-- A plain host stays as it is, letter case included. -/
theorem readHost?_plain (h : PlainHost host) : readHost? host.toList = some host.toList := by
  have hforbidden : host.toList.any isForbidden = false := by
    have hlist : ['\x00', '\t', '\n', '\r', ' ', '#', '/', ':', '<', '>', '?', '@', '[', '\\',
        ']', '^', '|'].all (fun c => !isPlain c) = true := by decide
    rw [List.any_eq_false]
    intro c hc hbad
    have hmark := List.all_eq_true.mp hlist c (by simpa [isForbidden] using hbad)
    exact h.notMem (by simpa using hmark) hc
  have hkept : host.toList.flatMap hostChar = host.toList := by
    calc host.toList.flatMap hostChar = host.toList.flatMap fun c => [c] := by
          refine List.flatMap_congr fun c hc => ?_
          have hvisible := visible_of_isPlain (h.plain c hc)
          exact if_pos ⟨by omega, hvisible.2⟩
      _ = host.toList := by simp
  unfold readHost?
  split
  · rename_i rest hrest
    exact absurd (hrest ▸ List.mem_cons_self) (h.notMem (c := '[') (by decide))
  · rw [hforbidden, hkept]
    rfl

theorem readPort?_digits (h : PortText digits port) :
    readPort? digits.toList = some (some port) := by
  have hall : digits.toList.takeWhile (· != '\\') = digits.toList :=
    List.takeWhile_eq_self_iff.mpr (Text.bne_of_notMem (h.notMem (by decide)))
  have hplus : digits.toList.head? ≠ some '+' := fun hhead =>
    h.notMem (by decide) (List.mem_of_mem_head? hhead)
  simp only [readPort?, hall, h.isEmpty_eq, hplus, String.ofList_toList, h.readUInt16?_eq]
  rfl

/-- The authority is the host and the port, with no user in front. -/
theorem readAuthority?_joined (hhost : PlainHost host) (hport : PortText digits port)
    (scheme : String) : readAuthority? scheme (joined host digits) =
      some { scheme, host := some host.toList, port := some port } := by
  have hend : (joined host digits).span (fun c => !isAuthorityEnd c) = (joined host digits, []) := by
    refine Text.span_of_all fun c hc => ?_
    have hother : ∀ {d : Char}, isPlain d = false → d ≠ ':' → (c == d) = false := by
      intro d hd hcolon
      rw [beq_eq_false_iff_ne]
      rintro rfl
      exact notMem_joined hhost hport hd hcolon hc
    rw [isAuthorityEnd, hother (by decide) (by decide), hother (by decide) (by decide),
      hother (by decide) (by decide)]
    rfl
  have huser : splitUser (joined host digits) = (none, joined host digits) :=
    splitUser_of_notMem (notMem_joined hhost hport (by decide) (by decide))
  have hsplit : splitHost false (joined host digits) = (host.toList, some digits.toList) :=
    splitHost_append (hhost.notMem (by decide)) (hhost.notMem (by decide))
  unfold readAuthority?
  simp only [hend, huser, hsplit, hhost.isEmpty_eq, readHost?_plain hhost, readPort?_digits hport]
  show some (Parts.mk scheme (if host.toList.isEmpty then none else some host.toList) port) = _
  rw [hhost.isEmpty_eq]
  rfl

theorem parseNode_joined (hhost : PlainHost host) (hport : PortText digits port) :
    parseNode (String.ofList ("redis://".toList ++ joined host digits)) = .ok { host, port } := by
  have hclean : clean ("redis://".toList ++ joined host digits) =
      "redis:".toList ++ '/' :: '/' :: joined host digits := by
    have hlead : "redis://".toList.all (fun c => 32 < c.toNat) = true := by decide
    refine (clean_of_visible fun c hc => ?_).trans rfl
    rcases List.mem_append.mp hc with hc | hc
    · simpa using List.all_eq_true.mp hlead c hc
    · exact (visible_joined hhost hport hc).1
  have hread : read? (String.ofList ("redis://".toList ++ joined host digits)) =
      some { scheme := "redis", host := some host.toList, port := some port } := by
    rw [read?, String.toList_ofList, hclean, splitScheme?_redis]
    exact readAuthority?_joined hhost hport "redis"
  rw [parseNode, hread]
  simp

end Url

namespace Settings

open Address

variable {host digits : String} {port : UInt16}

/-- **An address and a URL of one node agree.** A plain host and a port, however many zeros are in
front of it, name the same node with and without `redis://`, to both readers. -/
theorem node_either_form (s : Settings) (hhost : PlainHost host) (hport : PortText digits port) :
    ∀ scheme ∈ ["", "redis://"],
      ({ s with address := some (scheme ++ (host ++ ":" ++ digits)) } : Settings).node =
          .ok { host, port } ∧
        Node.parse (scheme ++ (host ++ ":" ++ digits)) = .ok { host, port } := by
  have htext : ∀ scheme : String, scheme ++ (host ++ ":" ++ digits) =
      String.ofList (scheme.toList ++ joined host digits) := by
    intro scheme
    rw [← String.toList_inj]
    simp [joined]
  have hparse : ∀ scheme ∈ schemes, Node.parse (scheme ++ (host ++ ":" ++ digits)) =
      .ok { host, port } := by
    intro scheme hscheme
    rw [htext, Node.parse, parse_joined hhost hport hscheme]
    rfl
  intro scheme hscheme
  rcases List.mem_pair.mp hscheme with rfl | rfl
  · refine ⟨?_, hparse "" (by decide)⟩
    have hplain : Url.hasScheme ("" ++ (host ++ ":" ++ digits)).toList = false := by
      rw [htext, String.toList_ofList]
      exact Url.hasScheme_of_notMem (notMem_joined hhost hport (by decide) (by decide))
    show parseAddress _ = _
    rw [parseAddress, hplain]
    exact hparse "" (by decide)
  · refine ⟨?_, hparse "redis://" (by decide)⟩
    have hscheme : Url.hasScheme ("redis://" ++ (host ++ ":" ++ digits)).toList = true := by
      rw [htext, String.toList_ofList]
      rfl
    show parseAddress _ = _
    rw [parseAddress, if_pos hscheme, htext]
    exact Url.parseNode_joined hhost hport

/-- A host that would be the address 127.0.0.1 on the web, and a port with zeros in front; and a
host with all that may be in one, at a port as it is written. -/
theorem node_either_form_numeric :
    ({ address := some "redis://0X7f.1:00080" } : Settings).node =
        .ok { host := "0X7f.1", port := 80 } ∧
      ({ address := some "0X7f.1:00080" } : Settings).node = .ok { host := "0X7f.1", port := 80 } ∧
      Node.parse "redis://-Cache_1.EU.:6379" = .ok { host := "-Cache_1.EU.", port := 6379 } := by
  have hhost : PlainHost "0X7f.1" := ⟨by decide, List.all_eq_true.mp (by decide)⟩
  have hport : PortText "00080" 80 := ⟨by decide, List.all_eq_true.mp (by decide), by decide⟩
  have hforms := node_either_form {} hhost hport
  have hcache : PlainHost "-Cache_1.EU." := ⟨by decide, List.all_eq_true.mp (by decide)⟩
  have hwritten : PortText "6379" 6379 := portText_natText 6379
  have hothers := node_either_form {} hcache hwritten
  exact ⟨(hforms "redis://" (by decide)).1, (hforms "" (by decide)).1,
    (hothers "redis://" (by decide)).2⟩

end Settings

end RespClient
