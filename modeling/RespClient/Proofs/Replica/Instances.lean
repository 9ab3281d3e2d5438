import RespClient.Replica.Instances
import RespClient.Proofs.Frame.Text
import RespClient.Proofs.Text.Item
import RespClient.Proofs.Text.Numeral
import RespClient.Proofs.Text.Utf8
import Mathlib.Data.List.Forall2

/-!
# Which replicas a sentinel lists

A sentinel lists instances in an array or a set, and the fields of each as a flat array of
keys and values or as a map. All these forms say the same. Replicas that are flagged as down
are left out before anything else is asked of them, so they need no address; of the others
each needs one, or the whole list is refused.
-/

namespace RespClient.Sentinel

/-! ## What frames say -/

/-- The frame says the text, as a text or as a number. -/
inductive Says : Frame → String → Prop
  | text {frame : Frame} {text : String} (h : frame.Says text) : Says frame text
  | number (n : Int64) : Says (.integer n) (Numeral.intText n.toInt)

/-- The frames are keys and values that alternate. -/
inductive Alternate : List Frame → Fields → Prop
  | nil : Alternate [] []
  | cons {key value : Frame} {rest : List Frame} {k v : String} {fields : Fields}
      (hkey : Says key k) (hvalue : Says value v) (hrest : Alternate rest fields) :
      Alternate (key :: value :: rest) ((k, v) :: fields)

/-- The frame gives the fields of an instance, flat or as a map. -/
inductive Describes : Frame → Fields → Prop
  | flat {items : List Frame} {fields : Fields} (h : Alternate items fields) :
      Describes (.array items) fields
  | map {pairs : List (Frame × Frame)} {fields : Fields}
      (h : List.Forall₂ (fun pair field => Says pair.1 field.1 ∧ Says pair.2 field.2) pairs
        fields) : Describes (.map pairs) fields

/-- The frame lists the instances, in an array or a set, each in a form of its own. -/
inductive Presents : Frame → List Fields → Prop
  | array {entries : List Frame} {instances : List Fields}
      (h : List.Forall₂ Describes entries instances) : Presents (.array entries) instances
  | set {entries : List Frame} {instances : List Fields}
      (h : List.Forall₂ Describes entries instances) : Presents (.set entries) instances

/-- A text in a bulk string. -/
def bulkText (text : String) : Frame :=
  .bulk (Utf8.encode text)

/-- The fields in bulk strings, flat. -/
def flatForm (fields : Fields) : Frame :=
  .array (fields.flatMap fun field => [bulkText field.1, bulkText field.2])

/-- The fields in bulk strings, as a map. -/
def mapForm (fields : Fields) : Frame :=
  .map (fields.map fun field => (bulkText field.1, bulkText field.2))

theorem says_bulkText (text : String) : Says (bulkText text) text := by
  have h : (bulkText text).Says (Utf8.lossy (Utf8.encode text)) := .bulk (Utf8.encode text)
  rw [Utf8.lossy_encode] at h
  exact .text h

theorem describes_flatForm (fields : Fields) : Describes (flatForm fields) fields := by
  refine .flat ?_
  induction fields with
  | nil => exact .nil
  | cons field rest ih => exact .cons (says_bulkText field.1) (says_bulkText field.2) ih

theorem describes_mapForm (fields : Fields) : Describes (mapForm fields) fields := by
  refine .map (List.forall₂_map_left_iff.mpr (List.forall₂_same.mpr fun field _ => ?_))
  exact ⟨says_bulkText field.1, says_bulkText field.2⟩

/-! ## What the fields of an instance say -/

/-- The value is the first one that the fields have for the key. -/
def FirstValue (fields : Fields) (key value : String) : Prop :=
  ∃ before behind, fields = before ++ (key, value) :: behind ∧ ∀ field ∈ before, field.1 ≠ key

/-- The flag says that an instance is down. -/
def DownFlag (flag : List Char) : Prop :=
  flag = "s_down".toList ∨ flag = "o_down".toList ∨ flag = "disconnected".toList ∨
    ∃ stem, flag = stem ++ "_down".toList

/-- Some flag of the instance, between commas, says that it is down. -/
def FlaggedDown (fields : Fields) : Prop :=
  ∃ flags flag, FirstValue fields "flags" flags ∧ Text.IsItem ',' flags.toList flag ∧ DownFlag flag

/-- The instance has a host and a port that is a number of 16 bits. -/
def Located (fields : Fields) (a : Address) : Prop :=
  FirstValue fields "ip" a.host ∧
    ∃ port, FirstValue fields "port" port ∧ Numeral.Denotes16 port a.port

variable {frame reply : Frame} {frames entries : List Frame} {fields : Fields}
  {instances : List Fields} {key value text endpoint : String} {flag : List Char} {a : Address}
  {e : Failure}

theorem get?_eq_some : fields.get? key = some value ↔ FirstValue fields key value := by
  unfold Fields.get? FirstValue
  rw [Option.map_eq_some_iff]
  constructor
  · rintro ⟨⟨k, v⟩, hfind, rfl⟩
    obtain ⟨hkey, before, behind, rfl, hbefore⟩ := List.find?_eq_some_iff_append.mp hfind
    obtain rfl : k = key := by simpa using hkey
    exact ⟨before, behind, rfl, fun field hfield => by simpa using hbefore field hfield⟩
  · rintro ⟨before, behind, rfl, hbefore⟩
    refine ⟨(key, value), List.find?_eq_some_iff_append.mpr ⟨by simp, before, behind, rfl, ?_⟩, rfl⟩
    exact fun field hfield => by simpa using hbefore field hfield

theorem isDownFlag_iff : Fields.isDownFlag flag = true ↔ DownFlag flag := by
  have hsuffix : "_down".toList.isSuffixOf flag = true ↔ ∃ stem, flag = stem ++ "_down".toList := by
    rw [List.isSuffixOf_iff_suffix]
    exact exists_congr fun stem => eq_comm
  unfold Fields.isDownFlag DownFlag
  rw [Bool.or_eq_true, Bool.or_eq_true, Bool.or_eq_true, hsuffix, beq_iff_eq, beq_iff_eq,
    beq_iff_eq, or_assoc, or_assoc]

/-- The flags are looked at one by one. -/
theorem isDown_iff : fields.isDown = true ↔ FlaggedDown fields := by
  unfold Fields.isDown FlaggedDown
  constructor
  · intro h
    split at h
    · rename_i flags hflags
      obtain ⟨flag, hflag, hdown⟩ := List.any_eq_true.mp h
      exact ⟨flags, flag, get?_eq_some.mp hflags, Text.mem_splitOn.mp hflag,
        isDownFlag_iff.mp hdown⟩
    · cases h
  · rintro ⟨flags, flag, hflags, hflag, hdown⟩
    rw [get?_eq_some.mpr hflags]
    exact List.any_eq_true.mpr ⟨flag, Text.mem_splitOn.mpr hflag, isDownFlag_iff.mpr hdown⟩

instance (fields : Fields) : Decidable (FlaggedDown fields) :=
  decidable_of_iff (fields.isDown = true) isDown_iff

theorem address_eq_ok (endpoint : String) :
    fields.address endpoint = .ok a ↔ Located fields a := by
  unfold Fields.address Located
  constructor
  · intro h
    split at h
    · rename_i hhost hport
      cases h
      obtain ⟨port, hvalue, hread⟩ := Option.bind_eq_some_iff.mp hport
      exact ⟨get?_eq_some.mp hhost, port, get?_eq_some.mp hvalue,
        Numeral.readUInt16?_eq_some.mp hread⟩
    · cases h
  · rintro ⟨hhost, port, hport, hdenotes⟩
    rw [get?_eq_some.mpr hhost, get?_eq_some.mpr hport, Option.bind_some,
      Numeral.readUInt16?_eq_some.mpr hdenotes]

/-- Without an address there is one way to fail. -/
theorem address_eq_error (h : fields.address endpoint = .error e) :
    e = .protocol "instance without ip/port" fields.debugText endpoint := by
  unfold Fields.address at h
  split at h
  · cases h
  · cases h
    rfl

/-! ## Reading any form -/

theorem readText?_said (h : Says frame text) : readText? frame = some text := by
  cases h with
  | number n => rfl
  | text h => cases h <;> rfl

theorem readField?_said {k v : Frame} (hkey : Says k key) (hvalue : Says v value) :
    readField? k v = some (key, value) := by
  rw [readField?, readText?_said hkey, readText?_said hvalue]

theorem readFlat?_of_alternate (h : Alternate frames fields) : readFlat? frames = some fields := by
  induction h with
  | nil => rfl
  | cons hkey hvalue _ ih => rw [readFlat?, readField?_said hkey hvalue, ih]

theorem readFields?_map_said {pairs : List (Frame × Frame)}
    (h : List.Forall₂ (fun pair field => Says pair.1 field.1 ∧ Says pair.2 field.2) pairs fields) :
    readFields? (.map pairs) = some fields := by
  rw [readFields?]
  induction h with
  | nil => rfl
  | cons hpair _ ih =>
      rw [List.mapM_cons, ih]
      simp only [readField?_said hpair.1 hpair.2]
      rfl

/-- Either form gives the fields. -/
theorem readFields?_of_describes (h : Describes frame fields) :
    readFields? frame = some fields := by
  cases h with
  | flat h => exact readFlat?_of_alternate h
  | map h => exact readFields?_map_said h

theorem readEach_of_describes (h : List.Forall₂ Describes entries instances) :
    readEach endpoint entries = .ok instances := by
  induction h with
  | nil => rfl
  | cons hentry _ ih => rw [readEach, readFields?_of_describes hentry, ih]

theorem readInstances_of_presents (h : Presents reply instances) :
    readInstances reply endpoint = .ok instances := by
  cases h with
  | array h => exact readEach_of_describes h
  | set h => exact readEach_of_describes h

/-! ## Addresses -/

theorem addresses_of_located (endpoint : String)
    (h : ∀ fields ∈ instances, ∃ a, Located fields a) :
    ∃ as, addresses endpoint instances = .ok as ∧ List.Forall₂ Located instances as := by
  induction instances with
  | nil => exact ⟨[], rfl, .nil⟩
  | cons fields rest ih =>
      obtain ⟨a, ha⟩ := h fields List.mem_cons_self
      obtain ⟨as, hread, has⟩ := ih fun other hother => h other (List.mem_cons_of_mem _ hother)
      exact ⟨a :: as, by rw [addresses, (address_eq_ok endpoint).mpr ha, hread], .cons ha has⟩

/-- The first instance without an address spoils the list. -/
theorem addresses_of_not_located (endpoint : String)
    (h : ∃ fields ∈ instances, ∀ a, ¬Located fields a) :
    ∃ before bad behind, instances = before ++ bad :: behind ∧
      (∀ fields ∈ before, ∃ a, Located fields a) ∧ (∀ a, ¬Located bad a) ∧
        addresses endpoint instances =
          .error (.protocol "instance without ip/port" bad.debugText endpoint) := by
  induction instances with
  | nil =>
      obtain ⟨fields, hfields, -⟩ := h
      cases hfields
  | cons first rest ih =>
      rw [addresses]
      rcases hfirst : first.address endpoint with e | a
      · obtain rfl := address_eq_error hfirst
        refine ⟨[], first, rest, rfl, by simp, fun a ha => ?_, rfl⟩
        rw [(address_eq_ok endpoint).mpr ha] at hfirst
        cases hfirst
      · obtain ⟨fields, hfields, hnot⟩ := h
        rcases List.mem_cons.mp hfields with rfl | hrest
        · exact absurd ((address_eq_ok endpoint).mp hfirst) (hnot a)
        · obtain ⟨before, bad, behind, rfl, hbefore, hbad, herror⟩ := ih ⟨fields, hrest, hnot⟩
          refine ⟨first :: before, bad, behind, rfl, ?_, hbad, by simp only [herror]⟩
          exact List.forall_mem_cons.mpr ⟨⟨a, (address_eq_ok endpoint).mp hfirst⟩, hbefore⟩

/-- The instances that are not flagged as down, in order. -/
def healthy (instances : List Fields) : List Fields :=
  instances.filter fun fields => ¬FlaggedDown fields

/-- What is read depends on the instances and not on the form in which they are listed. -/
theorem readReplicas_of_presents (h : Presents reply instances) :
    readReplicas reply endpoint = (addresses endpoint (healthy instances)).map fun as =>
      as.map fun a => { a with label := some "replica" } := by
  have hhealthy : instances.filter (fun fields => !fields.isDown) = healthy instances := by
    refine List.filter_congr fun fields _ => ?_
    rw [Bool.eq_iff_iff, Bool.not_eq_true', ← Bool.not_eq_true, isDown_iff, decide_eq_true_iff]
  rw [readReplicas, readInstances_of_presents h]
  simp only [hhealthy]

/-- **Which replicas are read.** In whatever form the instances are listed, the replicas are
the addresses of those that are not flagged as down, in order, if each of these has one; and
if some have none the first of them spoils the whole list. Nothing is asked of the others. -/
theorem readReplicas_exact (reply : Frame) (endpoint : String) (instances : List Fields)
    (h : Presents reply instances) :
    ((∀ fields ∈ instances, ¬FlaggedDown fields → ∃ a, Located fields a) →
        ∃ nodes, readReplicas reply endpoint = .ok nodes ∧
          List.Forall₂ (fun fields node => Located fields node.toAddress ∧
            node.label = some "replica") (healthy instances) nodes) ∧
      ((∃ fields ∈ instances, ¬FlaggedDown fields ∧ ∀ a, ¬Located fields a) →
        ∃ before bad behind, healthy instances = before ++ bad :: behind ∧
          (∀ fields ∈ before, ∃ a, Located fields a) ∧ (∀ a, ¬Located bad a) ∧
            readReplicas reply endpoint =
              .error (.protocol "instance without ip/port" bad.debugText endpoint)) ∧
      ∀ other, Presents other instances →
        readReplicas other endpoint = readReplicas reply endpoint := by
  have hmem : ∀ fields, fields ∈ healthy instances ↔
      fields ∈ instances ∧ ¬FlaggedDown fields := by
    intro fields
    rw [healthy, List.mem_filter, decide_eq_true_iff]
  rw [readReplicas_of_presents h]
  refine ⟨fun hlocated => ?_, ?_, fun other hother => readReplicas_of_presents hother⟩
  · have hall : ∀ fields ∈ healthy instances, ∃ a, Located fields a := fun fields hfields =>
      hlocated fields ((hmem fields).mp hfields).1 ((hmem fields).mp hfields).2
    obtain ⟨as, hread, has⟩ := addresses_of_located endpoint hall
    refine ⟨_, by rw [hread]; rfl, List.forall₂_map_right_iff.mpr ?_⟩
    exact has.imp fun _ _ ha => ⟨ha, rfl⟩
  · rintro ⟨fields, hfields, hup, hnone⟩
    obtain ⟨before, bad, behind, hsplit, hbefore, hbad, herror⟩ :=
      addresses_of_not_located endpoint ⟨fields, (hmem fields).mpr ⟨hfields, hup⟩, hnone⟩
    exact ⟨before, bad, behind, hsplit, hbefore, hbad, by rw [herror]; rfl⟩

/-- A replica that is up. -/
def upright : Fields :=
  [("ip", "10.0.0.1"), ("port", "6380"), ("flags", "slave")]

/-- A replica that is down and has no address. -/
def fallen : Fields :=
  [("flags", "slave,s_down")]

/-- A replica whose second flags say that it is down; nobody looks at them. -/
def doubtful : Fields :=
  [("port", "6381"), ("flags", "slave"), ("flags", "o_down"), ("ip", "10.0.0.3")]

/-- The three in a set, each in another form: flat, as a map, and as a map whose port is a
number. -/
def mixedReply : Frame :=
  .set [flatForm upright, mapForm fallen,
    .map [(bulkText "port", .integer 6381), (bulkText "flags", bulkText "slave"),
      (bulkText "flags", bulkText "o_down"), (bulkText "ip", bulkText "10.0.0.3")]]

theorem readReplicas_exact_mixedForms :
    Presents mixedReply [upright, fallen, doubtful] ∧ ∃ nodes,
      readReplicas mixedReply "10.0.0.9:26379" = .ok nodes ∧
        List.Forall₂ (fun fields node => Located fields node.toAddress ∧
          node.label = some "replica") [upright, doubtful] nodes := by
  have hdoubtful : Describes (.map [(bulkText "port", .integer 6381),
      (bulkText "flags", bulkText "slave"), (bulkText "flags", bulkText "o_down"),
      (bulkText "ip", bulkText "10.0.0.3")]) doubtful :=
    .map (.cons ⟨says_bulkText _, .number 6381⟩ (.cons ⟨says_bulkText _, says_bulkText _⟩
      (.cons ⟨says_bulkText _, says_bulkText _⟩
        (.cons ⟨says_bulkText _, says_bulkText _⟩ .nil))))
  have hpresents : Presents mixedReply [upright, fallen, doubtful] :=
    .set (.cons (describes_flatForm upright) (.cons (describes_mapForm fallen)
      (.cons hdoubtful .nil)))
  refine ⟨hpresents, (readReplicas_exact mixedReply "10.0.0.9:26379" _ hpresents).1 ?_⟩
  intro fields hfields hup
  simp only [List.mem_cons, List.not_mem_nil, or_false] at hfields
  rcases hfields with rfl | rfl | rfl
  · exact ⟨⟨"10.0.0.1", 6380⟩, (address_eq_ok "").mp (by decide)⟩
  · exact absurd (by decide) hup
  · exact ⟨⟨"10.0.0.3", 6381⟩, (address_eq_ok "").mp (by decide)⟩

end RespClient.Sentinel
