import RespClient.Proofs.Node.Reading
import RespClient.Routing.Redirect

/-!
# The nodes that redirects name

A redirect names its node by an address, or by a port alone with a colon in front, which means
the host that answered. The two ways of reading agree about every address that does not begin
with a colon. An address that does can still be one: its host is then written without brackets
and begins with a colon itself, as `::1` does, where zeros in front are left out. A redirect
takes such an address for a port that cannot be read.
-/

namespace RespClient

/-! ## Texts that begin with a colon -/

namespace Address

variable {cs : List Char} {a : Address}

theorem dropSlashes_colon (cs : List Char) :
    dropSlashes (':' :: cs) = ':' :: dropSlashes cs := by
  simp only [dropSlashes, List.reverse_cons, List.dropWhile_append]
  split
  · rename_i hnil
    rw [List.isEmpty_iff.mp hnil]
    rfl
  · rw [List.reverse_append]
    rfl

/-- Nothing in front of a colon is taken away. -/
theorem surrounded_colon (cs : List Char) :
    ∃ kept, dropSlashes (dropScheme (Blank.trim (':' :: cs))) = ':' :: kept ∧ kept ⊆ cs := by
  have hcolon : ∀ c ∈ [':'], Blank.isBlank c = false := by simp [Blank.isBlank]
  have htrim : Blank.trim (':' :: cs) = ':' :: Blank.trimEnd cs :=
    Blank.trimEnd_append hcolon cs
  have hscheme : dropScheme (':' :: Blank.trimEnd cs) = ':' :: Blank.trimEnd cs := rfl
  refine ⟨dropSlashes (Blank.trimEnd cs), by rw [htrim, hscheme, dropSlashes_colon], ?_⟩
  have hslashes : dropSlashes (Blank.trimEnd cs) ⊆ Blank.trimEnd cs :=
    (List.rdropWhile_prefix _ _).subset
  exact fun c hc => Blank.trimEnd_subset cs (hslashes hc)

/-- An address that begins with a colon has a host that does, with the port behind a second
colon. -/
theorem parse_colon {text : String} (htext : text.toList = ':' :: cs) (h : parse text = .ok a) :
    a.host.toList.head? = some ':' ∧ ':' ∈ cs := by
  obtain ⟨kept, hkept, hpart⟩ := surrounded_colon cs
  unfold parse at h
  rw [htext, hkept] at h
  split at h
  · rename_i b hread
    cases h
    obtain ⟨host, port, hsplit, hhost, hne, -⟩ := readBare_eq_ok hread
    have hcut := splitLast?_eq_some hsplit
    cases host with
    | nil => exact absurd hhost hne
    | cons c host =>
        obtain ⟨rfl, hrest⟩ := List.cons.inj hcut
        refine ⟨?_, hpart ?_⟩
        · rw [hhost, String.toList_ofList]
          rfl
        · rw [hrest]
          exact List.mem_append_right host List.mem_cons_self
  · cases h

end Address

namespace Redirect

/-- **A redirect leads to the node that its address names, and a port alone to the node that
answered.** An address that begins with a colon is the exception: it names a node, and the
redirect fails. -/
theorem target_parsed (sender : Node) :
    (∀ address node, Node.parse address = .ok node →
      (address.toList.head? ≠ some ':' → target address sender = .ok node) ∧
      (address.toList.head? = some ':' → node.host.toList.head? = some ':' ∧
        target address sender =
          .error (.invalidArgument ("invalid redirect port: " ++ address)))) ∧
    ∀ p port, Numeral.readUInt16? p = some port →
      target (":" ++ p) sender = .ok { host := sender.host, port } := by
  refine ⟨fun address node hparse => ⟨fun hfirst => ?_, fun hfirst => ?_⟩, fun p port hport => ?_⟩
  · unfold target
    split
    · rename_i hcolon
      exact absurd (congrArg List.head? hcolon) hfirst
    · exact hparse
  · obtain ⟨cs, hcolon⟩ := List.head?_eq_some_iff.mp hfirst
    obtain ⟨a, haddress, rfl⟩ := Node.parse_eq_ok.mp hparse
    obtain ⟨hhost, hsecond⟩ := Address.parse_colon hcolon haddress
    have hport : Numeral.readUInt16? (String.ofList cs) = none :=
      Numeral.readUInt16?_of_colon (by simpa using hsecond)
    refine ⟨hhost, ?_⟩
    unfold target
    rw [hcolon]
    simp only [hport]
  · unfold target
    simp only [String.toList_append, List.cons_append, List.nil_append, String.ofList_toList,
      hport, show (":" : String).toList = [':'] from rfl]

/-- An address of the loopback host, read as such and refused in a redirect. -/
theorem target_loopback :
    Node.parse "::1:7000" = .ok { host := "::1", port := 7000 } ∧
      target "::1:7000" { host := "127.0.0.1", port := 7000 } =
        .error (.invalidArgument "invalid redirect port: ::1:7000") :=
  ⟨rfl, rfl⟩

theorem target_parsed_instances :
    target "fe80::1:7000" { host := "127.0.0.1", port := 7001 } =
      .ok { host := "fe80::1", port := 7000 } ∧
    target "::1:7000" { host := "127.0.0.1", port := 7001 } =
      .error (.invalidArgument "invalid redirect port: ::1:7000") ∧
    target ":7000" { host := "127.0.0.1", port := 7001 } =
      .ok { host := "127.0.0.1", port := 7000 } := by
  obtain ⟨hnamed, hport⟩ := target_parsed { host := "127.0.0.1", port := 7001 }
  exact ⟨(hnamed "fe80::1:7000" _ rfl).1 (by decide), ((hnamed "::1:7000" _ rfl).2 rfl).2,
    hport "7000" 7000 rfl⟩

end Redirect

end RespClient
