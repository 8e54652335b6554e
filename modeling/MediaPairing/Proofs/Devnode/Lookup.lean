import MediaPairing.Proofs.Devnode.Description
import MediaPairing.Proofs.Discovery.OtherFiles
import MediaPairing.Proofs.Text.Encoding

/-!
# Looking up device nodes

The node of a device number is named by one file, whose path has the number in it. Numbers are
written in decimal with a colon between, so no two of them share a file, and what other numbers
are called does not matter.

* `ueventPath_inj`: different numbers are described in different files.
* `World.text`, `World.devnode`: what the files of a world say of a number.
* `devnodePath_run`: the lookup reads that one file, and gives this answer.
* `NamesNode`: a description with one name.
* `devnodePath_reads_own_file`: what a lookup reads and gives, and on what it depends.
-/

namespace MediaPairing

/-! ## The file of a number -/

theorem colon_not_mem_toDigits (n : Nat) : ':' ∉ Nat.toDigits 10 n := by
  intro hmem
  have hdigit := Nat.isDigit_of_mem_toDigits (by decide) (by decide) hmem
  exact absurd hdigit (by decide)

theorem toDigits_inj {n n' : Nat} (h : Nat.toDigits 10 n = Nat.toDigits 10 n') : n = n' := by
  rw [← Nat.ofDigitChars_ten_toDigits (n := n), h, Nat.ofDigitChars_ten_toDigits]

theorem DeviceNumber.toList_text (d : DeviceNumber) :
    d.text.toList = Nat.toDigits 10 d.major.toNat ++ ':' :: Nat.toDigits 10 d.minor.toNat := by
  unfold text
  change (toString d.major.toNat ++ ":" ++ toString d.minor.toNat).toList = _
  rw [String.toList_append, String.toList_append, Nat.toString_eq_repr, Nat.toString_eq_repr,
    Nat.toList_repr, Nat.toList_repr, List.append_assoc]
  rfl

/-- The colon shows where the major number ends, whatever the number of digits. -/
theorem DeviceNumber.text_inj {d d' : DeviceNumber} (h : d.text = d'.text) : d = d' := by
  have hlist := congrArg String.toList h
  rw [d.toList_text, d'.toList_text] at hlist
  have hsplit := congrArg (List.splitOn ':') hlist
  rw [List.splitOn_append_cons_self_of_not_mem (colon_not_mem_toDigits _),
    List.splitOn_append_cons_self_of_not_mem (colon_not_mem_toDigits _),
    List.splitOn_eq_singleton (colon_not_mem_toDigits _),
    List.splitOn_eq_singleton (colon_not_mem_toDigits _)] at hsplit
  obtain ⟨hmajor, hrest⟩ := List.cons.inj hsplit
  obtain ⟨hminor, -⟩ := List.cons.inj hrest
  calc d = ⟨d.major, d.minor⟩ := rfl
    _ = ⟨d'.major, d'.minor⟩ := by
      rw [UInt32.toNat_inj.mp (toDigits_inj hmajor), UInt32.toNat_inj.mp (toDigits_inj hminor)]
    _ = d' := rfl

/-- The file of a number lies under the directory of the device tree. -/
theorem bytes_ueventPath (sysDir : Path) (d : DeviceNumber) :
    (ueventPath sysDir d).bytes =
      sysDir.bytes ++ sysDir.separator ++ Utf8.encode ("dev/char/" ++ d.text ++ "/uevent") := by
  have hrelative : (Path.ofString ("dev/char/" ++ d.text ++ "/uevent")).isAbsolute = false := by
    have hbytes : Utf8.encode ("dev/char/" ++ d.text ++ "/uevent") =
        Utf8.encode "dev/char/" ++ Utf8.encode (d.text ++ "/uevent") := by
      unfold Utf8.encode
      rw [String.append_assoc, String.toList_append, List.flatMap_append]
    unfold Path.isAbsolute Path.ofString
    rw [hbytes, List.head?_append]
    rfl
  change (sysDir.join (.ofString ("dev/char/" ++ d.text ++ "/uevent"))).bytes = _
  rw [Path.join, hrelative]
  rfl

theorem ueventPath_inj {sysDir : Path} {d d' : DeviceNumber}
    (h : ueventPath sysDir d = ueventPath sysDir d') : d = d' := by
  have hbytes := congrArg Path.bytes h
  rw [bytes_ueventPath, bytes_ueventPath] at hbytes
  have hname := Utf8.encode_inj (List.append_cancel_left hbytes)
  rw [String.append_left_inj, String.append_right_inj] at hname
  exact DeviceNumber.text_inj hname

/-! ## The answer -/

/-- The text of a file. -/
def World.text (w : World) (path : Path) : Except IoError String :=
  if path.hasNul then .error .nulInPath
  else
    match (w.files.get? path).getD (.error .noEntry) with
    | .error e => .error (.os e)
    | .ok bytes =>
      match Utf8.decode? bytes with
      | none => .error .notUtf8
      | some text => .ok text

/-- The path of the node with the number `devnum`. -/
def World.devnode (w : World) (devnum : DeviceNumber) (sysDir devDir : Path) :
    Except PairingError Path :=
  match w.text (ueventPath sysDir devnum) with
  | .error e => .error (.devnodeLookupFailed devnum (ueventPath sysDir devnum) e)
  | .ok description =>
    match devname? description with
    | none => .error (.devnodeLookupFailed devnum (ueventPath sysDir devnum) .noDevname)
    | some name => .ok (devDir.join (.ofString name))

/-- The events of reading a file: a path with a NUL byte in it is not tried. -/
def World.readEvents (w : World) (path : Path) : List Event :=
  if path.hasNul then []
  else [.called (.read path) (Machine.outcomeOf ((w.files.get? path).getD (.error .noEntry)))]

theorem readText_run (path : Path) (m : Machine) :
    (Machine.system.readText path).run m =
      (m.world.text path, m.extend (m.world.readEvents path)) := by
  change (Machine.readText path).run m = _
  unfold Machine.readText World.text World.readEvents
  by_cases hnul : path.hasNul = true
  · simp only [if_pos hnul]
    simp [Machine.extend]
    rfl
  · simp only [if_neg hnul]
    rw [run_get_bind, run_bind_of_eq (Machine.answerCall_run _ _ _)]
    cases (m.world.files.get? path).getD (.error .noEntry) with
    | error e => rfl
    | ok bytes =>
      dsimp only
      cases Utf8.decode? bytes <;> rfl

theorem devnodePath_run (devnum : DeviceNumber) (sysDir devDir : Path) (m : Machine) :
    (devnodePath devnum sysDir devDir).run m =
      (m.world.devnode devnum sysDir devDir,
        m.extend (m.world.readEvents (ueventPath sysDir devnum))) := by
  unfold devnodePath System.devnodePath World.devnode
  rw [run_bind_of_eq (readText_run _ m)]
  cases m.world.text (ueventPath sysDir devnum) with
  | error e => rfl
  | ok description =>
    dsimp only
    cases devname? description <;> rfl

theorem devnodePath_answers (devnum : DeviceNumber) (sysDir devDir : Path) (m : Machine) :
    Answers (devnodePath devnum sysDir devDir) m Event.Reads
      (m.world.devnode devnum sysDir devDir) := by
  refine ⟨_, ?_, devnodePath_run devnum sysDir devDir m⟩
  intro e he
  unfold World.readEvents at he
  split at he
  · cases he
  · rw [List.mem_singleton.mp he]
    exact ⟨_, rfl⟩

/-- A file is read if its path can be given to the system, it is there and it is UTF-8. -/
theorem World.text_eq_ok_iff {w : World} {path : Path} {text : String} :
    w.text path = .ok text ↔
      path.hasNul = false ∧ w.files.get? path = some (.ok (Utf8.encode text)) := by
  unfold World.text
  cases path.hasNul with
  | true => simp
  | false =>
    cases w.files.get? path with
    | none => simp
    | some answer =>
      cases answer with
      | error e => simp
      | ok bytes =>
        cases hdecode : Utf8.decode? bytes with
        | none =>
          have hnot : bytes ≠ Utf8.encode text := by
            rintro rfl
            rw [Utf8.decode?_encode] at hdecode
            cases hdecode
          simp [hdecode, hnot]
        | some text' =>
          obtain rfl := Utf8.decode?_eq_some_iff.mp hdecode
          have hiff : text' = text ↔ Utf8.encode text' = Utf8.encode text :=
            ⟨congrArg Utf8.encode, Utf8.encode_inj⟩
          simp [hdecode, hiff]

theorem World.devnode_eq_ok_iff {w : World} {devnum : DeviceNumber} {sysDir devDir path : Path} :
    w.devnode devnum sysDir devDir = .ok path ↔
      ∃ text name, w.text (ueventPath sysDir devnum) = .ok text ∧ devname? text = some name ∧
        path = devDir.join (.ofString name) := by
  unfold World.devnode
  cases w.text (ueventPath sysDir devnum) with
  | error e => simp
  | ok text => cases hname : devname? text <;> simp [hname, eq_comm]

/-- A lookup that finds no name says which number it was for and where the name should be. -/
theorem World.devnode_eq_error {w : World} {devnum : DeviceNumber} {sysDir devDir : Path}
    {e : PairingError} (h : w.devnode devnum sysDir devDir = .error e) :
    ∃ cause, e = .devnodeLookupFailed devnum (ueventPath sysDir devnum) cause := by
  unfold World.devnode at h
  cases htext : w.text (ueventPath sysDir devnum) with
  | error cause =>
    rw [htext] at h
    exact ⟨cause, (Except.error.inj h).symm⟩
  | ok text =>
    rw [htext] at h
    cases hname : devname? text with
    | none =>
      simp only [hname] at h
      exact ⟨.noDevname, (Except.error.inj h).symm⟩
    | some name =>
      simp only [hname] at h
      cases h

/-- Of the files only that of the number matters. -/
theorem World.devnode_congr {w w' : World} {devnum : DeviceNumber} {sysDir : Path}
    (h : w'.files.get? (ueventPath sysDir devnum) = w.files.get? (ueventPath sysDir devnum))
    (devDir : Path) : w'.devnode devnum sysDir devDir = w.devnode devnum sysDir devDir := by
  unfold World.devnode World.text
  rw [h]

/-! ## A description with one name -/

/-- The lines all end in line feeds, and one of them alone begins with the key: it gives `name`,
which is relative and has no blanks at its ends. -/
structure NamesNode (description name : String) : Prop where
  text_eq : ∃ before after : List (List Char),
    description.toList = ended (before ++ ("DEVNAME=".toList ++ name.toList) :: after) ∧
      ∀ l ∈ before ++ after, '\n' ∉ l ∧ ¬"DEVNAME=".toList <+: l
  name_ne : name ≠ ""
  inLine : '\n' ∉ name.toList
  relative : (Path.ofString name).isAbsolute = false
  head_not_blank : ∀ c, name.toList.head? = some c → isBlank c = false
  last_not_blank : ∀ c, name.toList.getLast? = some c → isBlank c = false

theorem NamesNode.devname?_eq {description name : String} (h : NamesNode description name) :
    devname? description = some name := by
  obtain ⟨before, after, htext, hother⟩ := h.text_eq
  have hname : name.toList ≠ [] := by
    intro hnil
    exact h.name_ne (String.toList_inj.mp hnil)
  have hlines : description.toList.splitOn '\n' =
      before ++ ("DEVNAME=".toList ++ name.toList) :: (after ++ [[]]) := by
    rw [htext, splitOn_ended, List.append_assoc, List.cons_append]
    intro l hl
    rcases List.mem_append.mp hl with hl | hl
    · exact (hother l (List.mem_append_left _ hl)).1
    · rcases List.mem_cons.mp hl with rfl | hl
      · exact lineFeed_not_mem h.inLine
      · exact (hother l (List.mem_append_right _ hl)).1
  have hfind : (description.toList.splitOn '\n').find? isDevnameLine =
      some ("DEVNAME=".toList ++ name.toList) := by
    rw [hlines]
    exact find?_isDevnameLine hname fun l hl =>
      isDevnameLine_eq_false (hother l (List.mem_append_left _ hl)).2
  have hdrop : ("DEVNAME=".toList ++ name.toList).drop 8 = name.toList := rfl
  rw [MediaPairing.devname?_eq, hfind, Option.bind_some, hdrop,
    trim_eq_self h.head_not_blank h.last_not_blank, if_neg hname, String.ofList_toList]

/-- A relative name is put under the directory. -/
theorem NamesNode.join_eq {description name : String} (h : NamesNode description name)
    (dir : Path) :
    dir.join (.ofString name) = ⟨dir.bytes ++ dir.separator ++ Utf8.encode name⟩ := by
  rw [Path.join, h.relative]
  rfl

/-! ## Lookups -/

/-- A lookup reads the file of its number, once and no other. It gives the path of the node if
that file is there, is UTF-8 and has a name, and says otherwise which number and which file it
was about. The files of other numbers are other files, and have no bearing on it. -/
theorem devnodePath_reads_own_file (devnum : DeviceNumber) (sysDir devDir : Path) (m : Machine) :
    (∃ answer es, (devnodePath devnum sysDir devDir).run m = (answer, m.extend es) ∧
      ((ueventPath sysDir devnum).hasNul = true → es = []) ∧
      ((ueventPath sysDir devnum).hasNul = false →
        ∃ outcome, es = [.called (.read (ueventPath sysDir devnum)) outcome]) ∧
      (∀ path, answer = .ok path ↔
        (ueventPath sysDir devnum).hasNul = false ∧
          ∃ text name,
            m.world.files.get? (ueventPath sysDir devnum) = some (.ok (Utf8.encode text)) ∧
            devname? text = some name ∧ path = devDir.join (.ofString name)) ∧
      (∀ e, answer = .error e →
        ∃ cause, e = .devnodeLookupFailed devnum (ueventPath sysDir devnum) cause) ∧
      (∀ text name, (ueventPath sysDir devnum).hasNul = false →
        m.world.files.get? (ueventPath sysDir devnum) = some (.ok (Utf8.encode text)) →
        NamesNode text name →
        answer = .ok ⟨devDir.bytes ++ devDir.separator ++ Utf8.encode name⟩)) ∧
    (ueventPath sysDir devnum).bytes = sysDir.bytes ++ sysDir.separator ++
      Utf8.encode ("dev/char/" ++ toString devnum.major.toNat ++ ":" ++
        toString devnum.minor.toNat ++ "/uevent") ∧
    ∀ other, other ≠ devnum →
      ueventPath sysDir other ≠ ueventPath sysDir devnum ∧
      ∀ files : Table (Except Errno Bytes),
        (∀ path, path ≠ ueventPath sysDir other → files.get? path = m.world.files.get? path) →
        ((devnodePath devnum sysDir devDir).run (m.withFiles files)).1 =
          ((devnodePath devnum sysDir devDir).run m).1 := by
  have hok : ∀ path, m.world.devnode devnum sysDir devDir = .ok path ↔
      (ueventPath sysDir devnum).hasNul = false ∧
        ∃ text name,
          m.world.files.get? (ueventPath sysDir devnum) = some (.ok (Utf8.encode text)) ∧
          devname? text = some name ∧ path = devDir.join (.ofString name) := by
    intro path
    rw [World.devnode_eq_ok_iff]
    simp only [World.text_eq_ok_iff]
    constructor
    · rintro ⟨text, name, ⟨hnul, hfile⟩, hname, hpath⟩
      exact ⟨hnul, text, name, hfile, hname, hpath⟩
    · rintro ⟨hnul, text, name, hfile, hname, hpath⟩
      exact ⟨text, name, ⟨hnul, hfile⟩, hname, hpath⟩
  refine ⟨⟨_, _, devnodePath_run devnum sysDir devDir m, ?_, ?_, hok, ?_, ?_⟩, ?_, ?_⟩
  · exact fun hnul => if_pos hnul
  · intro hnul
    refine ⟨_, if_neg ?_⟩
    rw [hnul]
    exact Bool.false_ne_true
  · exact fun e => World.devnode_eq_error
  · intro text name hnul hfile hnames
    rw [hok]
    exact ⟨hnul, text, name, hfile, hnames.devname?_eq, (hnames.join_eq devDir).symm⟩
  · have htext : devnum.text =
        toString devnum.major.toNat ++ ":" ++ toString devnum.minor.toNat := rfl
    rw [bytes_ueventPath, htext, ← String.append_assoc, ← String.append_assoc]
  · intro other hother
    have hpath : ueventPath sysDir other ≠ ueventPath sysDir devnum :=
      fun hsame => hother (ueventPath_inj hsame)
    refine ⟨hpath, fun files hfiles => ?_⟩
    have hanswer : ∀ m', ((devnodePath devnum sysDir devDir).run m').1 =
        m'.world.devnode devnum sysDir devDir :=
      fun m' => (devnodePath_answers devnum sysDir devDir m').fst_run
    rw [hanswer, hanswer]
    exact World.devnode_congr (hfiles _ hpath.symm) devDir

/-- A device tree that describes the numbers `81:0` and `8:10`. -/
def Machine.described : Machine where
  world :=
    { files := [
        (.ofString "sys/dev/char/81:0/uevent",
          .ok (Utf8.encode "MAJOR=81\nXDEVNAME=no\nDEVNAME=video 0=a\nMINOR=0\n")),
        (.ofString "sys/dev/char/8:10/uevent", .ok (Utf8.encode "DEVNAME=sdb\n"))] }

theorem namesNode_described :
    NamesNode "MAJOR=81\nXDEVNAME=no\nDEVNAME=video 0=a\nMINOR=0\n" "video 0=a" where
  text_eq := by
    refine ⟨["MAJOR=81".toList, "XDEVNAME=no".toList], ["MINOR=0".toList], by decide, ?_⟩
    decide
  name_ne := by decide
  inLine := by decide
  relative := by decide
  head_not_blank := fun c h => by cases h; rfl
  last_not_blank := fun c h => by cases h; rfl

theorem devnodePath_reads_own_file_described :
    ((devnodePath ⟨81, 0⟩ (.ofString "sys/") (.ofString "/dev")).run .described).1 =
        .ok (.ofString "/dev/video 0=a") ∧
      ueventPath (.ofString "sys/") ⟨8, 10⟩ ≠ ueventPath (.ofString "sys/") ⟨81, 0⟩ ∧
      ((devnodePath ⟨81, 0⟩ (.ofString "sys/") (.ofString "/dev")).run
        (Machine.described.withFiles (Machine.described.world.files.take 1))).1 =
        .ok (.ofString "/dev/video 0=a") ∧
      ∃ cause, (devnodePath ⟨81, 0⟩ (.ofString "\x00") (.ofString "/dev")).run .described =
        (.error (.devnodeLookupFailed ⟨81, 0⟩ (ueventPath (.ofString "\x00") ⟨81, 0⟩) cause),
          .described) := by
  obtain ⟨⟨answer, es, hrun, -, -, -, -, hnames⟩, -, hother⟩ :=
    devnodePath_reads_own_file ⟨81, 0⟩ (.ofString "sys/") (.ofString "/dev") .described
  obtain ⟨⟨answer', es', hrun', hnone, -, hok, herror, -⟩, -, -⟩ :=
    devnodePath_reads_own_file ⟨81, 0⟩ (.ofString "\x00") (.ofString "/dev") .described
  have hfound : ((devnodePath ⟨81, 0⟩ (.ofString "sys/") (.ofString "/dev")).run .described).1 =
      .ok (.ofString "/dev/video 0=a") := by
    rw [hrun]
    exact hnames _ _ (by decide) rfl namesNode_described
  have hnul : (ueventPath (.ofString "\x00") ⟨81, 0⟩).hasNul = true := by decide
  obtain ⟨hpath, hfiles⟩ := hother ⟨8, 10⟩ (by decide)
  refine ⟨hfound, hpath, ?_, ?_⟩
  · rw [← hfound]
    refine hfiles _ fun path hne => ?_
    have hsecond : (path == Path.ofString "sys/dev/char/8:10/uevent") = false := by
      rw [beq_eq_false_iff_ne]
      exact hne
    unfold Machine.described Table.get?
    simp only [List.take_succ_cons, List.take_zero, List.lookup_cons, hsecond, List.lookup_nil]
  · cases answer' with
    | ok path =>
      have hgiven := ((hok path).mp rfl).1
      rw [hnul] at hgiven
      cases hgiven
    | error e =>
      obtain ⟨cause, rfl⟩ := herror e rfl
      rw [hrun', hnone hnul]
      exact ⟨cause, rfl⟩

end MediaPairing
