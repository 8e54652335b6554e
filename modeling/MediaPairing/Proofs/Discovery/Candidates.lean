import MediaPairing.Proofs.Discovery.Opening

/-!
# Trying candidates in turn

A search opens the nodes at a list of paths one after the other, until one of them decides
it. Each node that does not decide is passed over: what is left of it is its handle, which
is used up, and the events of trying it.

* `Backend.reached`: the nodes that a search opens, with their handles.
* `Passed b path m m'`, `Searched m tried m'`: what a step of a search, and all of it, do to
  the machine.
* `Opening.passed`, `Opening.kept`, `passed_shut`: the ways in which a step begins and ends.
* `candidates_split`: where in the listing a candidate stands.
* `candidates_admitted`: every candidate has a path that a system call can be given.
-/

namespace MediaPairing

/-! ## The nodes of a search -/

/-- A node that was opened. -/
structure Reached where
  handle : Nat
  path : Path
  node : Node

/-- The nodes that are opened when those at the given paths are tried in turn, the first of
them with the given handle. -/
def Backend.reached (b : Backend) (w : World) : Nat → List Path → List Reached
  | _, [] => []
  | handle, path :: rest =>
    match b.reach w path with
    | .error _ => b.reached w handle rest
    | .ok node => { handle, path, node } :: b.reached w (handle + 1) rest

/-- The items up to the first one with the property, which is the last. -/
def upTo {α : Type} (p : α → Bool) : List α → List α
  | [] => []
  | a :: rest => if p a then [a] else a :: upTo p rest

section

variable {b : Backend} {w : World} {path : Path}

theorem reached_cons_error {e : Errno} (h : b.reach w path = .error e) (handle : Nat)
    (rest : List Path) : b.reached w handle (path :: rest) = b.reached w handle rest := by
  rw [Backend.reached, h]

theorem reached_cons_ok {node : Node} (h : b.reach w path = .ok node) (handle : Nat)
    (rest : List Path) :
    b.reached w handle (path :: rest) =
      { handle, path, node } :: b.reached w (handle + 1) rest := by
  rw [Backend.reached, h]

end

/-! ## Passing over a candidate -/

/-- From `m` to `m'` the candidate at `path` was tried and given back. -/
structure Passed (b : Backend) (path : Path) (m m' : Machine) : Prop where
  world_eq : m'.world = m.world
  fresh : m'.Fresh
  nextHandle_eq : m'.nextHandle = m.nextHandle + (b.reached m.world m.nextHandle [path]).length
  journal_eq : ∃ es, m'.journal = m.journal ++ es ∧ Tries es [path]

/-- From `m` to `m'` the candidates `tried` were tried, in this order. -/
structure Searched (m : Machine) (tried : List Path) (m' : Machine) : Prop where
  world_eq : m'.world = m.world
  journal_eq : ∃ es, m'.journal = m.journal ++ es ∧ Tries es tried

section

variable {b : Backend} {path : Path} {m m' m'' : Machine} {es : List Event}

theorem passed_extend {e : Errno} (hm : m.Fresh) (hreach : b.reach m.world path = .error e)
    (hes : Tries es [path]) : Passed b path m (m.extend es) where
  world_eq := rfl
  fresh := hm.extend es
  nextHandle_eq := by rw [reached_cons_error hreach]; rfl
  journal_eq := ⟨es, rfl, hes⟩

/-- A node that was opened is passed over when it was closed again. -/
theorem passed_spend {n : Node} (hm : m.Fresh) (hreach : b.reach m.world path = .ok n)
    (hes : Tries es [path]) : Passed b path m (m.spend es) where
  world_eq := rfl
  fresh := hm.spend es
  nextHandle_eq := by rw [reached_cons_ok hreach]; rfl
  journal_eq := ⟨es, rfl, hes⟩

theorem Passed.reached_cons (h : Passed b path m m') (rest : List Path) :
    b.reached m.world m.nextHandle (path :: rest) =
      b.reached m.world m.nextHandle [path] ++ b.reached m'.world m'.nextHandle rest := by
  rw [h.nextHandle_eq, h.world_eq]
  cases hreach : b.reach m.world path with
  | error e =>
    rw [reached_cons_error hreach, reached_cons_error hreach]
    rfl
  | ok n =>
    rw [reached_cons_ok hreach, reached_cons_ok hreach]
    rfl

theorem searched_extend (hes : Tries es []) : Searched m [] (m.extend es) :=
  ⟨rfl, es, rfl, hes⟩

/-- Events that try nothing may come before a search. -/
theorem Searched.of_extend {tried : List Path} (hes : Tries es [])
    (h : Searched (m.extend es) tried m') : Searched m tried m' where
  world_eq := h.world_eq
  journal_eq := by
    obtain ⟨es', hjournal, htries⟩ := h.journal_eq
    refine ⟨es ++ es', ?_, hes.append htries⟩
    rw [hjournal, Machine.extend_journal, List.append_assoc]

theorem searched_keep (hes : Tries es [path]) : Searched m [path] (m.keep path es) :=
  ⟨rfl, es, rfl, hes⟩

theorem Passed.searched {tried : List Path} (h : Passed b path m m')
    (h' : Searched m' tried m'') : Searched m (path :: tried) m'' where
  world_eq := by rw [h'.world_eq, h.world_eq]
  journal_eq := by
    obtain ⟨es, hjournal, htries⟩ := h.journal_eq
    obtain ⟨es', hjournal', htries'⟩ := h'.journal_eq
    refine ⟨es ++ es', ?_, htries.append htries'⟩
    rw [hjournal', hjournal, List.append_assoc]

end

/-! ## Opening a candidate of a search -/

section

variable {α D : Type} {b : Backend} {kind : NodeKind α D} {m : Machine} {path : Path}

/-- A candidate that gives no device is passed over, with the log records around it. -/
theorem Opening.passed {e : PairingError} {m' : Machine} (hm : m.Fresh)
    (hadmits : b.admits path = true) (r : LogRecord)
    (h : Opening b kind (m.extend [.logged (.probing path)]) path (.error e, m')) :
    Passed b path m (m'.extend [.logged r]) := by
  have hopen := fun outcome => tries_open (kind.attempt?_openCall path) outcome
  cases h with
  | refused hreach =>
    rw [if_pos hadmits, Machine.extend_extend, Machine.extend_extend]
    exact passed_extend hm hreach (((tries_log _).append (hopen _)).append (tries_log r))
  | silent hreach hreply =>
    have hask := fun outcome => tries_ask (kind.handle?_askCall m.nextHandle) outcome
    rw [Machine.extend_spend, Machine.spend_extend]
    exact passed_spend hm hreach
      (((tries_log _).append ((hopen _).append ((hask _).append (tries_close _)))).append
        (tries_log r))

/-- The events of trying a candidate that gives a device. -/
def NodeKind.opened (kind : NodeKind α D) (handle : Nat) (path : Path) : List Event :=
  [.logged (.probing path), .called (kind.openCall path) (.opened handle),
    .called (kind.askCall handle) .done]

theorem NodeKind.tries_opened (kind : NodeKind α D) (handle : Nat) (path : Path) :
    Tries (kind.opened handle path) [path] :=
  (tries_log _).append ((tries_open (kind.attempt?_openCall path) _).append
    (tries_ask (kind.handle?_askCall handle) _))

/-- A candidate that gives a device. -/
theorem Opening.kept {d : D} {m' : Machine}
    (h : Opening b kind (m.extend [.logged (.probing path)]) path (.ok d, m')) :
    ∃ n a, b.reach m.world path = .ok n ∧ kind.reply b n = .ok a ∧
      d = kind.device path m.nextHandle a ∧
      m' = m.keep path (kind.opened m.nextHandle path) := by
  cases h with
  | @answered n a hreach hreply =>
    refine ⟨n, a, hreach, hreply, rfl, ?_⟩
    rw [Machine.extend_keep]
    rfl

/-- A device that was worked with and is closed again is passed over. -/
theorem passed_shut {n : Node} {es : List Event} (kind : NodeKind α D) (hm : m.Fresh)
    (hreach : b.reach m.world path = .ok n) (hes : Tries es []) :
    Passed b path m ((m.keep path (kind.opened m.nextHandle path ++ es)).shut m.nextHandle) := by
  rw [Machine.shut_keep hm]
  exact passed_spend hm hreach
    (((kind.tries_opened _ _).append hes).append (tries_close m.nextHandle))

/-- A device that was worked with and stays open. -/
theorem searched_kept {es : List Event} (kind : NodeKind α D) (hes : Tries es []) :
    Searched m [path] (m.keep path (kind.opened m.nextHandle path ++ es)) :=
  searched_keep ((kind.tries_opened _ _).append hes)

end

/-! ## The paths of candidates -/

section

variable {stem : String} {dir path : Path} {names : List Bytes}

theorem mem_candidates :
    path ∈ candidates stem dir names ↔
      ∃ name ∈ names, (Utf8.encode stem).isPrefixOf name = true ∧ dir.join ⟨name⟩ = path := by
  unfold candidates
  simp only [List.mem_map, List.mem_filter, and_assoc]

theorem candidates_cons_of_pos {name : Bytes} (h : (Utf8.encode stem).isPrefixOf name = true) :
    candidates stem dir (name :: names) = dir.join ⟨name⟩ :: candidates stem dir names := by
  unfold candidates
  rw [List.filter_cons_of_pos h, List.map_cons]

theorem candidates_cons_of_neg {name : Bytes} (h : ¬(Utf8.encode stem).isPrefixOf name = true) :
    candidates stem dir (name :: names) = candidates stem dir names := by
  unfold candidates
  rw [List.filter_cons_of_neg h]

/-- A candidate is one of the names, and the candidates before it are those of the names
before. -/
theorem candidates_split {before after : List Path}
    (h : candidates stem dir names = before ++ path :: after) :
    ∃ i name, names[i]? = some name ∧ (Utf8.encode stem).isPrefixOf name = true ∧
      dir.join ⟨name⟩ = path ∧ candidates stem dir (names.take i) = before ∧
      candidates stem dir (names.take (i + 1)) = before ++ [path] := by
  induction names generalizing before with
  | nil =>
    have hnil : candidates stem dir [] = [] := rfl
    rw [hnil] at h
    simp at h
  | cons name rest ih =>
    by_cases hstem : (Utf8.encode stem).isPrefixOf name = true
    · rw [candidates_cons_of_pos hstem] at h
      cases before with
      | nil =>
        obtain ⟨hpath, -⟩ := List.cons.inj h
        refine ⟨0, name, rfl, hstem, hpath, rfl, ?_⟩
        rw [List.take_succ_cons, candidates_cons_of_pos hstem, hpath]
        rfl
      | cons first before =>
        obtain ⟨hfirst, hrest⟩ := List.cons.inj h
        obtain ⟨i, name', hname, hstem', hpath, hbefore, hupTo⟩ := ih hrest
        refine ⟨i + 1, name', hname, hstem', hpath, ?_, ?_⟩
        · rw [List.take_succ_cons, candidates_cons_of_pos hstem, hbefore, hfirst]
        · rw [List.take_succ_cons, candidates_cons_of_pos hstem, hupTo, hfirst]
          rfl
    · rw [candidates_cons_of_neg hstem] at h
      obtain ⟨i, name', hname, hstem', hpath, hbefore, hupTo⟩ := ih h
      refine ⟨i + 1, name', hname, hstem', hpath, ?_, ?_⟩
      · rw [List.take_succ_cons, candidates_cons_of_neg hstem, hbefore]
      · rw [List.take_succ_cons, candidates_cons_of_neg hstem, hupTo]

end

theorem hasNul_join {dir name : Path} (hdir : dir.hasNul = false) (hname : name.hasNul = false) :
    (dir.join name).hasNul = false := by
  unfold Path.join
  split
  · exact hname
  · simp only [Path.hasNul, Path.separator] at *
    split <;> simp_all [Path.slash]

theorem hasNul_recordName (name : Bytes) : Path.hasNul ⟨Machine.recordName name⟩ = false := by
  have hnul : ∀ c ∈ Machine.recordName name, c ≠ 0 := by
    intro c hc
    have hbefore : c ∈ name.takeWhile (· != 0) := List.mem_of_mem_take hc
    simpa using List.all_eq_true.mp List.all_takeWhile c hbefore
  unfold Path.hasNul
  rw [List.contains_eq_any_beq, List.any_eq_false]
  intro c hc
  simpa using (hnul c hc).symm

theorem names_admitted {b : Backend} {w : World} {dir : Path} {names : List Bytes}
    (h : b.names w dir = .ok names) : ∀ name ∈ names, b.admits (dir.join ⟨name⟩) = true := by
  intro name hname
  cases b with
  | direct => rfl
  | kernel =>
    unfold Backend.names at h
    split at h
    · rename_i hdir
      split at h
      · cases h
      · cases h
        obtain ⟨name', -, rfl⟩ := List.mem_map.mp (List.mem_filter.mp hname).1
        simp only [Backend.admits, Bool.not_eq_true'] at hdir ⊢
        exact hasNul_join hdir (hasNul_recordName name')
    · cases h

/-- A name that is not absolute is put under the directory as it is. -/
theorem join_of_prefix {stem : Bytes} {byte : UInt8} (hbyte : byte ≠ Path.slash) (dir : Path)
    {name : Bytes} (h : (byte :: stem).isPrefixOf name = true) :
    dir.join ⟨name⟩ = ⟨dir.bytes ++ dir.separator ++ name⟩ := by
  cases name with
  | nil => cases h
  | cons c rest =>
    have hc : byte = c := by
      rw [List.isPrefixOf_cons_cons, Bool.and_eq_true, beq_iff_eq] at h
      exact h.1
    have hrelative : Path.isAbsolute ⟨c :: rest⟩ = false := by
      rw [← hc]
      simpa [Path.isAbsolute] using hbyte
    unfold Path.join
    rw [hrelative]
    rfl

theorem candidates_admitted {b : Backend} {w : World} {dir : Path} {names : List Bytes}
    (h : b.names w dir = .ok names) (stem : String) :
    ∀ path ∈ candidates stem dir names, b.admits path = true := by
  intro path hpath
  obtain ⟨name, hname, rfl⟩ := List.mem_map.mp hpath
  exact names_admitted h name (List.mem_filter.mp hname).1

end MediaPairing
