import RespClient.Network
import RespClient.Proofs.Wire.Driving
import RespClient.Proofs.Wire.Failing

/-!
# Links of a network

What the client does over a network it does on one link at a time. A connect opens a link
behind all others or changes none; an exchange leaves all other links alone. Each link has
its own account: the replies that were read from it since it opened, and the commands that
were sent over it. The record of what was sent is held against the bytes on the links: they
spell out its commands. A link is in step while replies and commands are equally many.
-/

namespace RespClient

open Transport

variable {τ : Type}

/-! ## What opens -/

/-- A link that opens is connected. -/
def Greeting.Fresh [Transport τ] (g : Greeting τ) : Prop :=
  ∀ link, g = .opens link → ∀ address, isConnected (link address) = true

namespace Network

open RespClient.Action

variable {α : Type} {n n' : Network τ} {id j : Nat} {c : Command} {address : String}

/-- Every link that is still to open is connected then. -/
def Fresh [Transport τ] (n : Network τ) : Prop :=
  ∀ entry ∈ n.scripts, ∀ script ∈ entry.2, script.greeting.Fresh

theorem mem_of_takeScript {scripts rest : List (String × List (Script τ))}
    {script : Option (Script τ)} (h : takeScript address scripts = (script, rest)) :
    (∀ s ∈ script, ∃ entry ∈ scripts, s ∈ entry.2) ∧
      ∀ entry ∈ rest, ∃ entry' ∈ scripts, entry.2 ⊆ entry'.2 := by
  induction scripts generalizing script rest with
  | nil =>
      cases h
      exact ⟨by simp, by simp⟩
  | cons entry scripts ih =>
      obtain ⟨a, ss⟩ := entry
      unfold takeScript at h
      split at h
      · cases h
        refine ⟨fun s hs => ⟨_, List.mem_cons_self, List.mem_of_head? hs⟩, fun entry hentry => ?_⟩
        rcases List.mem_cons.mp hentry with rfl | hentry
        · exact ⟨_, List.mem_cons_self, fun _ hs => List.mem_of_mem_tail hs⟩
        · exact ⟨entry, List.mem_cons_of_mem _ hentry, fun _ hs => hs⟩
      · cases h
        obtain ⟨hscript, hrest⟩ := ih rfl
        refine ⟨fun s hs => ?_, fun entry hentry => ?_⟩
        · obtain ⟨entry, hentry, hs⟩ := hscript s hs
          exact ⟨entry, List.mem_cons_of_mem _ hentry, hs⟩
        · rcases List.mem_cons.mp hentry with rfl | hentry
          · exact ⟨_, List.mem_cons_self, fun _ hs => hs⟩
          · obtain ⟨entry', hentry', hsub⟩ := hrest entry hentry
            exact ⟨entry', List.mem_cons_of_mem _ hentry', hsub⟩

/-! ## Connecting -/

section

variable [Transport τ]

/-- Nothing was opened and nothing was sent. -/
structure Quiet (n n' : Network τ) : Prop where
  lines : n'.lines = n.lines
  sent : n'.sent = n.sent
  decoder : n'.decoder = n.decoder
  fresh : n.Fresh → n'.Fresh

theorem onClock_quiet {x : Action Clock α} {r : Outcome α}
    (h : Timed.onClock x n = (r, n')) : Quiet n n' := by
  obtain ⟨-, rfl⟩ := Prod.mk.inj h
  exact ⟨rfl, rfl, rfl, id⟩

/-- What meets a connect is a script of the address, and it opens connected links if all
scripts do. -/
theorem dial_quiet {script : Script τ} (h : n.dial address = (script, n')) :
    Quiet n n' ∧ (n.Fresh → script.greeting.Fresh) := by
  unfold dial at h
  rcases htake : takeScript address n.scripts with ⟨found, rest⟩
  obtain ⟨hfound, hrest⟩ := mem_of_takeScript htake
  rw [htake] at h
  cases h
  refine ⟨⟨rfl, rfl, rfl, fun hn entry hentry s hs => ?_⟩, fun hn => ?_⟩
  · obtain ⟨entry', hentry', hsub⟩ := hrest entry hentry
    exact hn entry' hentry' s (hsub hs)
  · cases found with
    | none => rintro link ⟨⟩
    | some s =>
        obtain ⟨entry, hentry, hs⟩ := hfound s rfl
        exact hn entry hentry s hs

/-- A connect sends nothing, and opens one link behind the others or none at all. -/
structure Connected (address : String) (n : Network τ) (r : Outcome Nat)
    (n' : Network τ) : Prop where
  sent : n'.sent = n.sent
  decoder : n'.decoder = n.decoder
  fresh : n.Fresh → n'.Fresh
  opened : (∀ id, r ≠ .ok id) ∧ n'.lines = n.lines ∨
    ∃ l, r = .ok n.lines.length ∧ n'.lines = n.lines ++ [⟨address, l, l⟩] ∧
      (n.Fresh → isConnected l = true)

theorem Quiet.trans {m : Network τ} (h : Quiet n m) (h' : Quiet m n') : Quiet n n' :=
  ⟨h'.lines.trans h.lines, h'.sent.trans h.sent, h'.decoder.trans h.decoder, h'.fresh ∘ h.fresh⟩

theorem Quiet.connected {r : Outcome Nat} (h : Quiet n n') (hr : ∀ id, r ≠ .ok id) :
    Connected address n r n' :=
  ⟨h.sent, h.decoder, h.fresh, .inl ⟨hr, h.lines⟩⟩

theorem greet_connected {m : Network τ} {g : Greeting τ} {r : Outcome Nat}
    (hquiet : Quiet n m) (hg : n.Fresh → g.Fresh) (h : greet address g m = (r, n')) :
    Connected address n r n' := by
  cases g with
  | opens link =>
      cases h
      refine ⟨hquiet.sent, hquiet.decoder, hquiet.fresh, .inr ⟨link address, ?_, ?_, ?_⟩⟩
      · rw [hquiet.lines]
      · rw [hquiet.lines]
      · exact fun hn => hg hn link rfl address
  | hangs =>
      have hr : r = .stalled := (congrArg Prod.fst h).symm
      exact (hquiet.trans (onClock_quiet h)).connected (by simp [hr])
  | fails failure =>
      cases h
      exact hquiet.connected (by simp)

theorem connect_connected {r : Outcome Nat} (h : connect address n = (r, n')) :
    Connected address n r n' := by
  unfold connect at h
  rcases hdial : n.dial address with ⟨script, n₁⟩
  obtain ⟨hquiet, hfresh⟩ := dial_quiet hdial
  rw [hdial] at h
  dsimp only at h
  rcases bind_cases h with ⟨u, n₂, hwait, hgreet⟩ | ⟨stop, hwait, rfl⟩
  · exact greet_connected (hquiet.trans (onClock_quiet hwait)) hfresh hgreet
  · exact (hquiet.trans (onClock_quiet hwait)).connected fun _ => stopped_ne_ok

/-- A connect changes no link but the one it opens. -/
theorem Connected.other {r : Outcome Nat} (h : Connected address n r n')
    (hj : r ≠ .ok j) : n'.lines[j]? = n.lines[j]? := by
  rcases h.opened with ⟨-, hlines⟩ | ⟨l, rfl, hlines, -⟩
  · rw [hlines]
  · have hj : j ≠ n.lines.length := fun heq => hj (by rw [heq])
    rw [hlines, List.getElem?_append]
    split
    · rfl
    · rw [List.getElem?_eq_none (by simp; omega), List.getElem?_eq_none (by omega)]

theorem Connected.length_le {r : Outcome Nat} (h : Connected address n r n') :
    n.lines.length ≤ n'.lines.length := by
  rcases h.opened with ⟨-, hlines⟩ | ⟨l, -, hlines, -⟩
  · rw [hlines]
  · rw [hlines, List.length_append]
    omega

/-- The link that a connect opens was not there before. -/
theorem Connected.ne_of_lt {r : Outcome Nat} (h : Connected address n r n')
    (hj : j < n.lines.length) : r ≠ .ok j := by
  rcases h.opened with ⟨hr, -⟩ | ⟨l, rfl, -, -⟩
  · exact hr j
  · intro heq
    rw [← Outcome.ok.inj heq] at hj
    exact absurd hj (Nat.lt_irrefl _)

end

/-! ## Using a link -/

/-- The commands that were sent over a link, in order. -/
def sentOver (n : Network τ) (id : Nat) : List Command :=
  (n.sent.filter (·.link == id)).map (·.command)

theorem sentOver_congr (h : n'.sent = n.sent) (id : Nat) : n'.sentOver id = n.sentOver id := by
  rw [sentOver, h, sentOver]

/-- Nothing was sent over a link that is still to open. -/
theorem sentOver_eq_nil (hsent : ∀ s ∈ n.sent, s.link < n.lines.length) (hid : n.lines.length ≤ id) :
    n.sentOver id = [] := by
  rw [sentOver, List.map_eq_nil_iff, List.filter_eq_nil_iff]
  intro s hs
  have := hsent s hs
  simp
  omega

/-- No link was opened, and none was touched but one. -/
structure Touches (id : Nat) (n n' : Network τ) : Prop where
  decoder : n'.decoder = n.decoder
  scripts : n'.scripts = n.scripts
  dialled : n'.dialled = n.dialled
  addresses : n'.lines.map (·.address) = n.lines.map (·.address)
  others : ∀ j, j ≠ id → n'.lines[j]? = n.lines[j]?

variable {cs cs' : List Command} {f : τ → τ}

theorem addressOf_eq (n : Network τ) (id : Nat) :
    n.addressOf id = ((n.lines.map (·.address))[id]?).getD "" := by
  rw [List.getElem?_map]
  rfl

theorem Touches.refl (n : Network τ) : Touches id n n :=
  ⟨rfl, rfl, rfl, rfl, fun _ _ => rfl⟩

theorem modifyLink_touches : Touches id n (n.modifyLink id f) where
  decoder := rfl
  scripts := rfl
  dialled := rfl
  addresses := by
    apply List.ext_getElem?
    intro j
    simp only [modifyLink, List.getElem?_map, List.getElem?_modify]
    split <;> cases n.lines[j]? <;> rfl
  others j hj := by simp [modifyLink, hj.symm]

theorem modifyLink_self (n : Network τ) (id : Nat) (f : τ → τ) :
    (n.modifyLink id f).lines[id]? = (n.lines[id]?).map fun line => { line with link := f line.link } := by
  simp [modifyLink]

/-- An action on a link runs on the link as it was, unless the link was never opened. -/
theorem onLink_cases {x : Action τ α} {r : Outcome α} (h : onLink id x n = (r, n')) :
    Touches id n n' ∧ n'.sent = n.sent ∧
      (r = .error unopened ∧ n.lines[id]? = none ∧ n'.lines[id]? = none ∨
        ∃ line l, n.lines[id]? = some line ∧ x line.link = (r, l) ∧
          n'.lines[id]? = some { line with link := l }) := by
  unfold onLink at h
  split at h
  · rename_i hlink
    cases h
    have hline := Option.map_eq_none_iff.mp hlink
    exact ⟨.refl n, rfl, .inl ⟨rfl, hline, hline⟩⟩
  · rename_i hlink
    obtain ⟨line, hline, rfl⟩ := Option.map_eq_some_iff.mp hlink
    have hself : ∀ l, (n.modifyLink id fun _ => l).lines[id]? = some { line with link := l } := by
      intro l
      rw [modifyLink_self, hline]
      rfl
    split at h
    · rename_i l hx
      -- while the link stalls only time goes on
      have htouches : Touches id n (n.modifyLink id fun _ => l) := modifyLink_touches
      cases h
      exact ⟨⟨rfl, rfl, rfl, htouches.addresses, htouches.others⟩, rfl,
        .inr ⟨line, l, hline, hx, hself l⟩⟩
    · rename_i hx
      cases h
      exact ⟨modifyLink_touches, rfl, .inr ⟨line, _, hline, hx, hself _⟩⟩

section

variable [Transport τ]

/-- Commands were written on a link, if there is one. -/
inductive Drives : List Command → Option (Line τ) → Option (Line τ) → Prop
  | unopened : Drives [] none none
  | opened {cs : List Command} {line : Line τ} {l : τ} (h : Driven cs line.link l) :
      Drives cs (some line) (some { line with link := l })

theorem Drives.idle (line : Option (Line τ)) : Drives [] line line := by
  cases line with
  | none => exact .unopened
  | some line => exact .opened (.reads (.idle line.link))

theorem Drives.trans {line line' line'' : Option (Line τ)} (h : Drives cs line line')
    (h' : Drives cs' line' line'') : Drives (cs ++ cs') line line'' := by
  cases h with
  | unopened =>
      cases h' with
      | unopened => exact .unopened
  | opened h =>
      cases h' with
      | opened h' => exact .opened (h.trans h')

/-- Commands were sent over a link: they are on the link and in the record, in their order. No
other link was touched. -/
structure Uses (id : Nat) (cs : List Command) (n n' : Network τ) : Prop
    extends Touches id n n' where
  link : Drives cs n.lines[id]? n'.lines[id]?
  sent : n'.sent = n.sent ++ cs.map fun c => ⟨n.addressOf id, id, c⟩

theorem Touches.uses (h : Touches id n n') (hlink : Drives [] n.lines[id]? n'.lines[id]?)
    (hsent : n'.sent = n.sent) : Uses id [] n n' :=
  ⟨h, hlink, hsent.trans (List.append_nil _).symm⟩

namespace Uses

theorem refl (n : Network τ) : Uses id [] n n :=
  (Touches.refl n).uses (.idle _) rfl

theorem length (h : Uses id cs n n') : n'.lines.length = n.lines.length := by
  simpa using congrArg List.length h.addresses

theorem addressOf (h : Uses id cs n n') (j : Nat) : n'.addressOf j = n.addressOf j := by
  rw [addressOf_eq, addressOf_eq, h.addresses]

theorem trans {m : Network τ} (h : Uses id cs n m) (h' : Uses id cs' m n') :
    Uses id (cs ++ cs') n n' where
  decoder := h'.decoder.trans h.decoder
  scripts := h'.scripts.trans h.scripts
  dialled := h'.dialled.trans h.dialled
  addresses := h'.addresses.trans h.addresses
  others j hj := (h'.others j hj).trans (h.others j hj)
  link := h.link.trans h'.link
  sent := by rw [h'.sent, h.sent, h.addressOf, List.map_append, List.append_assoc]

theorem sentOver_self (h : Uses id cs n n') : n'.sentOver id = n.sentOver id ++ cs := by
  unfold sentOver
  rw [h.sent, List.filter_append, List.map_append]
  congr 1
  simp [List.filter_map, Function.comp_def]

theorem sentOver_other (h : Uses id cs n n') (hj : j ≠ id) : n'.sentOver j = n.sentOver j := by
  unfold sentOver
  rw [h.sent, List.filter_append, List.map_append]
  simp [List.filter_map, Function.comp_def, hj.symm]

theorem fresh (h : Uses id cs n n') (hn : n.Fresh) : n'.Fresh := by
  unfold Fresh
  rw [h.scripts]
  exact hn

end Uses

theorem onClock_uses {x : Action Clock α} {r : Outcome α} (h : Timed.onClock x n = (r, n')) :
    Uses id [] n n' := by
  cases h
  exact ⟨⟨rfl, rfl, rfl, rfl, fun _ _ => rfl⟩, .idle _, (List.append_nil _).symm⟩

/-- Giving a link up sends nothing. -/
theorem disconnect_uses : Uses id [] n (n.disconnect id) := by
  refine modifyLink_touches.uses ?_ rfl
  rw [modifyLink_self]
  cases n.lines[id]? with
  | none => exact .unopened
  | some line => exact .opened (.reads (.givenUp line.link))

theorem Connected.sentOver {r : Outcome Nat} (h : Connected address n r n') (j : Nat) :
    n'.sentOver j = n.sentOver j :=
  sentOver_congr h.sent j

/-- A command that could not be written does not count as sent. -/
theorem send_uses {r : Outcome Unit} (h : send id c n = (r, n')) :
    ∃ cs, cs <+: [c] ∧ Uses id cs n n' ∧ (r = .ok () → cs = [c]) := by
  rcases bind_cases h with ⟨u, n₁, hwrite, hcount⟩ | ⟨stop, hwrite, rfl⟩
  · cases hcount
    obtain ⟨htouches, hsent, ⟨⟨⟩, -⟩ | ⟨line, l, hline, hwrite, hline'⟩⟩ := onLink_cases hwrite
    have hdrives : Drives [c] n.lines[id]? n₁.lines[id]? := by
      rw [hline, hline']
      exact .opened (.writes hwrite)
    have hrecord : n₁.sent ++ [⟨n₁.addressOf id, id, c⟩] = n.sent ++ [⟨n.addressOf id, id, c⟩] := by
      rw [hsent, addressOf_eq, htouches.addresses, ← addressOf_eq]
    have htouches : Touches id n
        { n₁ with sent := n₁.sent ++ [⟨n₁.addressOf id, id, c⟩] } := { htouches with }
    exact ⟨[c], List.prefix_refl _, ⟨htouches, hdrives, hrecord⟩, fun _ => rfl⟩
  · obtain ⟨htouches, hsent, hlink⟩ := onLink_cases hwrite
    refine ⟨[], List.nil_prefix, htouches.uses ?_ hsent, fun hok => absurd hok stopped_ne_ok⟩
    rcases hlink with ⟨-, hline, hline'⟩ | ⟨line, l, hline, hwrite, hline'⟩
    · rw [hline, hline']
      exact .unopened
    · rw [hline, hline']
      exact .opened (.breaksOff hwrite stopped_ne_ok)

/-- Reading a reply sends nothing. -/
theorem receive_uses {r : Outcome Frame} (h : receive id n = (r, n')) : Uses id [] n n' := by
  obtain ⟨htouches, hsent, hlink⟩ := onLink_cases (x := n.decoder.decode) h
  refine htouches.uses ?_ hsent
  rcases hlink with ⟨-, hline, hline'⟩ | ⟨line, l, hline, hread, hline'⟩
  · rw [hline, hline']
    exact .unopened
  · have hheard := Decoder.Hearing.decode n.decoder line.link
    rw [hread] at hheard
    rw [hline, hline']
    exact .opened (.reads hheard)

/-- A request sends its command at most once, and exactly once if it succeeds. -/
theorem request_uses {r : Outcome Frame} (h : request id c n = (r, n')) :
    ∃ cs, cs <+: [c] ∧ Uses id cs n n' ∧ ∀ f, r = .ok f → cs = [c] := by
  rcases bind_cases h with ⟨u, n₁, hsend, hreceive⟩ | ⟨stop, hsend, rfl⟩
  · obtain ⟨cs, hcs, huses, hok⟩ := send_uses hsend
    have huses := huses.trans (receive_uses hreceive)
    rw [List.append_nil] at huses
    exact ⟨cs, hcs, huses, fun _ _ => hok rfl⟩
  · obtain ⟨cs, hcs, huses, -⟩ := send_uses hsend
    exact ⟨cs, hcs, huses, fun _ hok => absurd hok stopped_ne_ok⟩

theorem send_eq_ok (h : send id c n = (.ok (), n')) :
    ∃ line l, n.lines[id]? = some line ∧ write c.encode line.link = (.ok (), l) ∧
      n'.lines[id]? = some { line with link := l } := by
  obtain ⟨u, n₁, hwrite, hsent⟩ := bind_eq_ok.mp h
  cases hsent
  obtain ⟨-, -, ⟨⟨⟩, -⟩ | hwritten⟩ := onLink_cases hwrite
  exact hwritten

theorem receive_eq_ok {f : Frame} (h : receive id n = (.ok f, n')) :
    ∃ line l, n.lines[id]? = some line ∧ n.decoder.decode line.link = (.ok f, l) ∧
      n'.lines[id]? = some { line with link := l } := by
  obtain ⟨-, -, ⟨⟨⟩, -⟩ | hread⟩ := onLink_cases (x := n.decoder.decode) h
  exact hread

/-- A request that succeeds is an exchange on its link. -/
theorem request_eq_ok {f : Frame} (h : request id c n = (.ok f, n')) :
    ∃ line l, n.lines[id]? = some line ∧ exchange n.decoder c line.link = (.ok f, l) ∧
      n'.lines[id]? = some { line with link := l } := by
  obtain ⟨u, n₁, hsend, hreceive⟩ := bind_eq_ok.mp h
  obtain ⟨line, l₁, hline, hwrite, hline₁⟩ := send_eq_ok hsend
  obtain ⟨line₁, l, hline₁', hdecode, hline'⟩ := receive_eq_ok hreceive
  rw [hline₁] at hline₁'
  cases hline₁'
  obtain ⟨cs, -, huses, -⟩ := send_uses hsend
  rw [huses.decoder] at hdecode
  exact ⟨line, l, hline, bind_eq_ok.mpr ⟨(), l₁, hwrite, hdecode⟩, hline'⟩

/-- A request fails only in ways that break its link. -/
theorem request_breaks [Fragile τ] {e : Failure} (h : request id c n = (.error e, n')) :
    e.breaksLink = true := by
  have hlink : ∀ {β : Type} {x : Action τ β} {m m' : Network τ},
      (∀ t t', x t = (.error e, t') → e.breaksLink = true) →
      onLink id x m = (.error e, m') → e.breaksLink = true := by
    intro β x m m' hx h
    obtain ⟨-, -, ⟨⟨⟩, -⟩ | ⟨line, l, -, h, -⟩⟩ := onLink_cases h
    · rfl
    · exact hx _ _ h
  rcases bind_eq_error.mp h with h | ⟨u, n₁, -, h⟩
  · rcases bind_eq_error.mp h with h | ⟨u, n₁, -, h⟩
    · exact hlink (fun _ _ => Fragile.write_error) h
    · cases h
  · exact hlink (fun _ _ h => Decoder.Breaking.decode _ h) h

end

end Network

/-! ## The account of a link -/

section

open Grammar RespClient.Action

variable [Transport τ] [Lawful τ] {line : Line τ} {d : Decoder} {frames : List Frame}

/-- The commands that were sent over a link since it opened are on it. What was written beside
them are commands that broke off. -/
def Line.HasSent (line : Line τ) (cs : List Command) : Prop :=
  ∃ w, Spells cs w ∧ Lawful.output line.link = Lawful.output line.opened ++ w

/-- The commands that were written on a link since it opened: all its bytes, in order. -/
def Line.HasWritten (line : Line τ) (cs : List Command) : Prop :=
  Lawful.output line.link = Lawful.output line.opened ++ cs.flatMap Command.encode

/-- The replies that were read from a link since it opened: all bytes that were consumed,
in order. -/
def Line.HasRead (d : Decoder) (line : Line τ) (frames : List Frame) : Prop :=
  ∃ w, Each (Derives d.protocol d.maxFrameSize) frames w ∧
    Lawful.upcoming line.opened = w ++ Lawful.upcoming line.link

theorem Line.HasRead.exchange {c : Command} {f : Frame} {l : τ} (h : line.HasRead d frames)
    (hexchange : exchange d c line.link = (.ok f, l)) :
    ({ line with link := l } : Line τ).HasRead d (frames ++ [f]) := by
  obtain ⟨w, hframes, hopened⟩ := h
  obtain ⟨u, l₁, hwrite, hdecode⟩ := bind_eq_ok.mp hexchange
  obtain ⟨v, hderives, htakes⟩ := d.decode_sound hdecode
  refine ⟨w ++ v, each_append hframes (each_singleton hderives), ?_⟩
  -- a write moves nothing that can be read
  rw [hopened, ← (Lawful.write_ok hwrite).2, htakes.2, List.append_assoc]

theorem Line.HasWritten.exchange {c : Command} {cs : List Command} {f : Frame} {l : τ}
    (h : line.HasWritten cs) (hexchange : exchange d c line.link = (.ok f, l)) :
    ({ line with link := l } : Line τ).HasWritten (cs ++ [c]) := by
  rw [HasWritten, List.flatMap_append, List.flatMap_singleton, ← List.append_assoc]
  show Lawful.output l = Lawful.output line.opened ++ cs.flatMap Command.encode ++ c.encode
  rw [output_exchange hexchange, show Lawful.output line.link = _ from h]

namespace Network

variable {n n' : Network τ} {id j : Nat} {c : Command} {address : String} {replies : List Frame}

/-- The record of what was sent agrees with what is written on the links. -/
structure Accounted (n : Network τ) : Prop where
  known : ∀ s ∈ n.sent, s.link < n.lines.length
  written : ∀ id (line : Line τ), n.lines[id]? = some line → line.HasSent (n.sentOver id)

/-- In a network where nothing was opened there is nothing to account for. -/
theorem Accounted.blank (hlines : n.lines = []) (hsent : n.sent = []) : n.Accounted where
  known s hs := by
    rw [hsent] at hs
    cases hs
  written id line hline := by
    rw [hlines] at hline
    cases hline

/-- Only the record and the links are held against each other. -/
theorem Accounted.of_eq (h : n.Accounted) (hlines : n'.lines = n.lines) (hsent : n'.sent = n.sent) :
    n'.Accounted := by
  constructor
  · rw [hlines, hsent]
    exact h.known
  · intro id
    rw [hlines, sentOver_congr hsent]
    exact h.written id

theorem Accounted.uses {cs : List Command} (h : n.Accounted) (huses : Uses id cs n n') :
    n'.Accounted := by
  have hlink := huses.link
  generalize hold : n.lines[id]? = old at hlink
  generalize hnew : n'.lines[id]? = new at hlink
  refine ⟨fun s hs => ?_, fun j line hline => ?_⟩
  · rw [huses.length]
    rw [huses.sent] at hs
    rcases List.mem_append.mp hs with hs | hs
    · exact h.known s hs
    · obtain ⟨c, hc, rfl⟩ := List.mem_map.mp hs
      cases hlink with
      | unopened => cases hc
      | opened => exact (List.getElem?_eq_some_iff.mp hold).1
  · by_cases hj : j = id
    · subst hj
      rw [hnew] at hline
      rw [huses.sentOver_self]
      cases hlink with
      | unopened => cases hline
      | opened hdriven =>
          cases hline
          obtain ⟨w, hw, hout⟩ := h.written j _ hold
          obtain ⟨w', hw', hout'⟩ := hdriven.spells
          exact ⟨w ++ w', .append hw hw', by rw [hout', hout, List.append_assoc]⟩
    · rw [huses.sentOver_other hj]
      exact h.written j line ((huses.others j hj).symm.trans hline)

/-- A link that opens is blank, and no command was sent over it. -/
theorem Accounted.connected {r : Outcome Nat} (h : n.Accounted) (hc : Connected address n r n') :
    n'.Accounted := by
  refine ⟨fun s hs => ?_, fun j line hline => ?_⟩
  · rw [hc.sent] at hs
    exact Nat.lt_of_lt_of_le (h.known s hs) hc.length_le
  · rw [hc.sentOver]
    by_cases hr : r = .ok j
    · obtain ⟨hne, -⟩ | ⟨l, hopened, hlines, -⟩ := hc.opened
      · exact absurd hr (hne j)
      · rw [hopened] at hr
        cases hr
        rw [hlines, List.getElem?_concat_length, Option.some.injEq] at hline
        subst hline
        rw [sentOver_eq_nil h.known (Nat.le_refl _)]
        exact ⟨[], .nothing, (List.append_nil _).symm⟩
    · exact h.written j line ((hc.other hr).symm.trans hline)

/-- A link is connected, and these replies were read from it, one for each command that
was written on it. The commands are those of the record. -/
def InStep (n : Network τ) (id : Nat) (replies : List Frame) : Prop :=
  ∃ line, n.lines[id]? = some line ∧ isConnected line.link = true ∧
    line.HasRead n.decoder replies ∧ line.HasWritten (n.sentOver id) ∧
      replies.length = (n.sentOver id).length

theorem InStep.congr (h : n.InStep j replies) (hline : n'.lines[j]? = n.lines[j]?)
    (hdecoder : n'.decoder = n.decoder) (hsent : n'.sentOver j = n.sentOver j) :
    n'.InStep j replies := by
  obtain ⟨line, hold, hconn, hread, hwritten, heven⟩ := h
  refine ⟨line, hline.trans hold, hconn, ?_, ?_, ?_⟩
  · rw [hdecoder]
    exact hread
  · rw [hsent]
    exact hwritten
  · rw [hsent, heven]

/-- A link stays in step as long as other links are used. -/
theorem InStep.other {cs : List Command} (h : n.InStep j replies) (huses : Uses id cs n n')
    (hj : j ≠ id) : n'.InStep j replies :=
  h.congr (huses.others j hj) huses.decoder (huses.sentOver_other hj)

theorem InStep.connected {r : Outcome Nat} (h : n.InStep j replies)
    (hc : Connected address n r n') : n'.InStep j replies := by
  have hj : j < n.lines.length := by
    obtain ⟨line, hline, -⟩ := h
    exact (List.getElem?_eq_some_iff.mp hline).1
  exact h.congr (hc.other (hc.ne_of_lt hj)) hc.decoder (hc.sentOver j)

/-- A link that just opened is in step. -/
theorem InStep.opened (hc : Connected address n (.ok id) n') (hfresh : n.Fresh)
    (hsent : ∀ s ∈ n.sent, s.link < n.lines.length) : n'.InStep id [] := by
  rcases hc.opened with ⟨hr, -⟩ | ⟨l, hr, hlines, hl⟩
  · exact absurd rfl (hr id)
  cases hr
  have hnone : n'.sentOver n.lines.length = [] := by
    rw [hc.sentOver]
    exact sentOver_eq_nil hsent (Nat.le_refl _)
  refine ⟨⟨address, l, l⟩, by rw [hlines]; simp, hl hfresh, ⟨[], .nil, rfl⟩, ?_, ?_⟩
  · rw [hnone]
    exact (List.append_nil _).symm
  · rw [hnone]
    rfl

/-- A request that succeeds keeps its link in step. -/
theorem InStep.request {f : Frame} (h : n.InStep id replies)
    (hrequest : request id c n = (.ok f, n')) : n'.InStep id (replies ++ [f]) := by
  obtain ⟨line, hline, hconn, hread, hwritten, heven⟩ := h
  obtain ⟨cs, -, huses, hcs⟩ := request_uses hrequest
  obtain rfl := hcs f rfl
  obtain ⟨line₁, l, hline₁, hexchange, hline'⟩ := request_eq_ok hrequest
  rw [hline] at hline₁
  cases hline₁
  refine ⟨_, hline', ?_, ?_, ?_, ?_⟩
  · obtain ⟨u, l₁, -, hdecode⟩ := bind_eq_ok.mp hexchange
    obtain ⟨v, -, htakes⟩ := n.decoder.decode_sound hdecode
    exact htakes.1
  · rw [huses.decoder]
    exact hread.exchange hexchange
  · rw [huses.sentOver_self]
    exact hwritten.exchange hexchange
  · rw [huses.sentOver_self, List.length_append, List.length_append, heven]
    rfl

end Network

end

end RespClient
