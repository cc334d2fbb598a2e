import StructVault.Files.Tree
import StructVault.Proofs.Steps

/-!
# Where paths lead

A path is followed through directories only, so two trees with the same directories agree on the
directory its last step is taken in (`findParent_of_sameDirectories`). Writing, moving and removing
files touches no directory; a path therefore leads to the same place before and after, and what
stands there is told by the laws of the map.

`write_eq_ok` and `rename_eq_ok` say exactly when the two calls succeed and which tree they leave.
-/

namespace StructVault.FileTree

open Steps

variable {tree tree' : FileTree} {location directory : Location} {name : String} {path : Path}

/-! ## The map -/

theorem isDirectory_root (tree : FileTree) : tree.isDirectory [] = true := rfl

theorem isDirectory_eq_true_iff :
    tree.isDirectory location = true ↔ tree.lookup location = some .directory :=
  beq_iff_eq

theorem isDirectory_eq_false_iff :
    tree.isDirectory location = false ↔ tree.lookup location ≠ some .directory := by
  simp [isDirectory]

theorem ne_root_of_isDirectory_eq_false (h : tree.isDirectory location = false) :
    location ≠ [] := by
  rintro rfl
  rw [isDirectory_root] at h
  cases h

theorem put_put (tree : FileTree) (location : Location) (entry entry' : Entry) :
    (tree.put location entry).put location entry' = tree.put location entry' := by
  simp [put, erase]

/-! ## Trees with the same directories -/

/-- The directories of both trees are the same, and relative paths start from the same one. -/
structure SameDirectories (tree tree' : FileTree) : Prop where
  workingDirectory_eq : tree'.workingDirectory = tree.workingDirectory
  isDirectory_eq : ∀ location, tree'.isDirectory location = tree.isDirectory location

theorem SameDirectories.symm (h : SameDirectories tree tree') : SameDirectories tree' tree where
  workingDirectory_eq := h.workingDirectory_eq.symm
  isDirectory_eq location := (h.isDirectory_eq location).symm

theorem SameDirectories.trans {tree'' : FileTree} (h : SameDirectories tree tree')
    (h' : SameDirectories tree' tree'') : SameDirectories tree tree'' where
  workingDirectory_eq := h'.workingDirectory_eq.trans h.workingDirectory_eq
  isDirectory_eq location := (h'.isDirectory_eq location).trans (h.isDirectory_eq location)

theorem SameDirectories.origin_eq (h : SameDirectories tree tree') (path : Path) :
    tree'.origin path = tree.origin path := by
  unfold origin
  rw [h.workingDirectory_eq]

/-- A file put where no directory stands hides none and makes none. -/
theorem sameDirectories_put_file (h : tree.isDirectory location = false) (content : Bytes) :
    SameDirectories tree (tree.put location (.file content)) where
  workingDirectory_eq := rfl
  isDirectory_eq other := by
    by_cases heq : other = location
    · subst heq
      rw [h, isDirectory_eq_false_iff,
        lookup_put_self _ _ (ne_root_of_isDirectory_eq_false h)]
      simp
    · unfold isDirectory
      rw [lookup_put_of_ne tree _ heq]

theorem lookup_erase_self (tree : FileTree) (h : location ≠ []) :
    (tree.erase location).lookup location = none := by
  have hroot : location.isEmpty = false := by simpa using h
  unfold lookup erase
  rw [hroot, if_neg Bool.false_ne_true]
  refine List.lookup_eq_none_iff.mpr fun entry hentry => ?_
  have hne : entry.1 ≠ location := bne_iff_ne.mp (List.mem_filter.mp hentry).2
  exact bne_iff_ne.mpr hne.symm

theorem sameDirectories_erase (h : tree.isDirectory location = false) :
    SameDirectories tree (tree.erase location) where
  workingDirectory_eq := rfl
  isDirectory_eq other := by
    by_cases heq : other = location
    · subst heq
      rw [h, isDirectory_eq_false_iff,
        lookup_erase_self _ (ne_root_of_isDirectory_eq_false h)]
      simp
    · unfold isDirectory
      rw [lookup_erase_of_ne tree heq]

/-! ## Following a path -/

/-- A step is taken from a directory, to where the step says, or to an entry of its name. -/
theorem enter_eq_ok {step : String} {next : Location} :
    tree.enter directory step = .ok next ↔ tree.isDirectory directory = true
      ∧ (step = "." ∧ directory = next
        ∨ step ≠ "." ∧ step = ".." ∧ directory.dropLast = next
        ∨ step ≠ "." ∧ step ≠ ".." ∧ step.utf8ByteSize ≤ longestName
          ∧ (tree.lookup (directory ++ [step])).isSome = true ∧ directory ++ [step] = next) := by
  unfold enter
  by_cases hdir : tree.isDirectory directory = true
  · by_cases hdot : step = "."
    · simp [hdir, hdot]
    · by_cases hdots : step = ".."
      · simp [hdir, hdots]
      · by_cases hlong : longestName < step.utf8ByteSize
        · simp [hdir, hdot, hdots, hlong, Nat.not_le.mpr hlong]
        · cases hentry : tree.lookup (directory ++ [step]) with
          | none => simp [hdir, hdot, hdots, hlong]
          | some entry => simp [hdir, hdot, hdots, hlong, Nat.le_of_not_lt hlong]
  · simp [hdir]

theorem walk_cons_eq_ok {step : String} {steps : List String} {goal : Location} :
    tree.walk location (step :: steps) = .ok goal ↔
      ∃ next, tree.enter location step = .ok next ∧ tree.walk next steps = .ok goal :=
  attempt_bind_eq_ok

theorem walk_append_eq_ok {steps : List String} {goal : Location} :
    ∀ (before : List String) {location : Location},
      tree.walk location (before ++ steps) = .ok goal ↔
        ∃ middle, tree.walk location before = .ok middle ∧ tree.walk middle steps = .ok goal
  | [], location => by simp [walk]
  | step :: before, location => by
    rw [List.cons_append, walk_cons_eq_ok]
    simp only [walk_cons_eq_ok, walk_append_eq_ok before]
    constructor
    · rintro ⟨next, henter, middle, hbefore, hsteps⟩
      exact ⟨middle, ⟨next, henter, hbefore⟩, hsteps⟩
    · rintro ⟨middle, ⟨next, henter, hbefore⟩, hsteps⟩
      exact ⟨next, henter, middle, hbefore, hsteps⟩

/-- A walk that ends in a directory started from one. -/
theorem isDirectory_of_walk {goal : Location} :
    ∀ {steps : List String} {location : Location}, tree.walk location steps = .ok goal →
      tree.isDirectory goal = true → tree.isDirectory location = true
  | [], location, h, hgoal => by
    cases h
    exact hgoal
  | step :: steps, location, h, _ => by
    obtain ⟨next, henter, -⟩ := walk_cons_eq_ok.mp h
    exact (enter_eq_ok.mp henter).1

/-- Whether a walk reaches a directory is decided by directories alone: each entry it passes is
one, because the next step is taken from it. -/
theorem walk_of_sameDirectories (hsame : SameDirectories tree tree') {goal : Location}
    (hgoal : tree.isDirectory goal = true) :
    ∀ {steps : List String} {location : Location}, tree.walk location steps = .ok goal →
      tree'.walk location steps = .ok goal
  | [], location, h => h
  | step :: steps, location, h => by
    obtain ⟨next, henter, hrest⟩ := walk_cons_eq_ok.mp h
    obtain ⟨hdir, hnext⟩ := enter_eq_ok.mp henter
    -- what is entered is a directory, either because the walk goes on from it or as its goal
    have hnextDir : tree'.isDirectory next = true := by
      rw [hsame.isDirectory_eq]
      exact isDirectory_of_walk hrest hgoal
    refine walk_cons_eq_ok.mpr ⟨next, enter_eq_ok.mpr ⟨?_, ?_⟩,
      walk_of_sameDirectories hsame hgoal hrest⟩
    · rw [hsame.isDirectory_eq, hdir]
    · rcases hnext with hdot | hdots | ⟨hdot, hdots, hshort, -, rfl⟩
      · exact Or.inl hdot
      · exact Or.inr (Or.inl hdots)
      · have hsome : tree'.lookup (location ++ [step]) = some .directory := by
          simpa [isDirectory] using hnextDir
        exact Or.inr (Or.inr ⟨hdot, hdots, hshort, by rw [hsome]; rfl, rfl⟩)

/-! ## The directory of the last step -/

/-- The last step of a path is a name exactly when the steps before it lead to a directory and it
is none of the two dotted steps. -/
theorem findParent_eq_name {slash : Bool} :
    tree.findParent path = .ok (directory, .name name slash) ↔ checkPath path = .ok ()
      ∧ ∃ before, path.steps = before ++ [name]
        ∧ tree.walk (tree.origin path) before = .ok directory
        ∧ tree.isDirectory directory = true ∧ name ≠ "." ∧ name ≠ ".."
        ∧ slash = path.endsInSlash := by
  unfold findParent
  rw [attempt_bind_eq_ok]
  constructor
  · rintro ⟨⟨⟩, hcheck, h⟩
    refine ⟨hcheck, ?_⟩
    -- the last step comes off the reversed steps first
    split at h
    · cases h
    · next last before hsteps =>
      obtain ⟨goal, hwalk, h⟩ := attempt_bind_eq_ok.mp h
      split at h
      · cases h
      · next hdir =>
        split at h
        · cases h
        · next hname =>
          cases h
          simp only [beq_iff_eq, Bool.or_eq_true, not_or] at hname
          refine ⟨before.reverse, ?_, hwalk, by simpa using hdir, hname.1, hname.2, rfl⟩
          rw [← List.reverse_reverse path.steps, hsteps, List.reverse_cons]
  · rintro ⟨hcheck, before, hsteps, hwalk, hdir, hdot, hdots, rfl⟩
    refine ⟨(), hcheck, ?_⟩
    have hreverse : path.steps.reverse = name :: before.reverse := by
      rw [hsteps, List.reverse_append]
      rfl
    rw [hreverse]
    show (tree.walk _ before.reverse.reverse >>= _) = _
    rw [List.reverse_reverse, hwalk]
    show (if !tree.isDirectory directory then _ else _) = _
    simp [hdir, hdot, hdots]

theorem findParent_of_sameDirectories (hsame : SameDirectories tree tree') {slash : Bool}
    (h : tree.findParent path = .ok (directory, .name name slash)) :
    tree'.findParent path = .ok (directory, .name name slash) := by
  obtain ⟨hcheck, before, hsteps, hwalk, hdir, hname⟩ := findParent_eq_name.mp h
  refine findParent_eq_name.mpr ⟨hcheck, before, hsteps, ?_, ?_, hname⟩
  · rw [hsame.origin_eq]
    exact walk_of_sameDirectories hsame hdir hwalk
  · rw [hsame.isDirectory_eq, hdir]

/-! ## Calls -/

/-- Behind a path that ends in a slash stands a directory. -/
theorem find_eq_ok {entry : Entry} : tree.find path = .ok (location, entry) ↔
    checkPath path = .ok () ∧ tree.walk (tree.origin path) path.steps = .ok location
      ∧ tree.lookup location = some entry ∧ (entry = .directory ∨ path.endsInSlash = false) := by
  unfold find
  simp only [attempt_bind_eq_ok]
  constructor
  · rintro ⟨⟨⟩, hcheck, goal, hwalk, h⟩
    split at h
    · cases h
    · next hentry =>
      cases h
      exact ⟨hcheck, hwalk, hentry, Or.inl rfl⟩
    · next content hentry =>
      split at h
      · cases h
      · next hslash =>
        cases h
        exact ⟨hcheck, hwalk, hentry, Or.inr (by simpa using hslash)⟩
  · rintro ⟨hcheck, hwalk, hentry, hkind⟩
    refine ⟨(), hcheck, location, hwalk, ?_⟩
    rw [hentry]
    cases entry with
    | directory => rfl
    | file content =>
      show (if path.endsInSlash = true then _ else _) = _
      rw [hkind.resolve_left fun heq => nomatch heq]
      rfl

theorem child?_eq_ok {entry : Option Entry} : tree.child? directory name = .ok entry ↔
    name.utf8ByteSize ≤ longestName ∧ tree.lookup (directory ++ [name]) = entry := by
  unfold child?
  by_cases hlong : longestName < name.utf8ByteSize
  · simp [hlong, Nat.not_le.mpr hlong]
  · simp [hlong, Nat.le_of_not_lt hlong]

/-- A file under the last name of a path is read through it. -/
theorem read_of_findParent {content : Bytes}
    (h : tree.findParent path = .ok (directory, .name name false))
    (hshort : name.utf8ByteSize ≤ longestName)
    (hentry : tree.lookup (directory ++ [name]) = some (.file content)) :
    tree.read path = .ok content := by
  obtain ⟨hcheck, before, hsteps, hwalk, hdir, hdot, hdots, hslash⟩ := findParent_eq_name.mp h
  have hfound : tree.walk (tree.origin path) path.steps = .ok (directory ++ [name]) := by
    rw [hsteps, walk_append_eq_ok]
    refine ⟨directory, hwalk, walk_cons_eq_ok.mpr ⟨directory ++ [name], ?_, rfl⟩⟩
    exact enter_eq_ok.mpr ⟨hdir, Or.inr (Or.inr ⟨hdot, hdots, hshort, by rw [hentry]; rfl, rfl⟩)⟩
  have hfind : tree.find path = .ok (directory ++ [name], .file content) :=
    find_eq_ok.mpr ⟨hcheck, hfound, hentry, Or.inr hslash.symm⟩
  exact attempt_bind_eq_ok.mpr ⟨_, hfind, rfl⟩

/-- A file is written where its path names no directory. -/
theorem write_eq_ok {content : Bytes} {written : FileTree} :
    tree.write path content = .ok written ↔ ∃ directory name,
      tree.findParent path = .ok (directory, .name name false)
        ∧ name.utf8ByteSize ≤ longestName ∧ tree.isDirectory (directory ++ [name]) = false
        ∧ written = tree.put (directory ++ [name]) (.file content) := by
  unfold write create
  simp only [attempt_bind_eq_ok]
  constructor
  · rintro ⟨⟨location, held, opened⟩, ⟨⟨directory, last⟩, hparent, h⟩, hwritten⟩
    cases hwritten
    split at h
    · cases h
    · cases h
    · next directory' name heq =>
      cases heq
      obtain ⟨entry, hchild, h⟩ := attempt_bind_eq_ok.mp h
      obtain ⟨hshort, hentry⟩ := child?_eq_ok.mp hchild
      refine ⟨directory, name, hparent, hshort, ?_, ?_⟩
      · rw [isDirectory_eq_false_iff, hentry]
        rintro rfl
        cases h
      · split at h
        · cases h
        · cases h
          rfl
        · cases h
          -- a new file is made empty before it is filled, which does not show afterwards
          exact put_put _ _ _ _
  · rintro ⟨directory, name, hparent, hshort, hfree, rfl⟩
    cases hentry : tree.lookup (directory ++ [name]) with
    | none =>
      refine ⟨(directory ++ [name], [], tree.put (directory ++ [name]) (.file [])),
        ⟨_, hparent, attempt_bind_eq_ok.mpr ⟨none, child?_eq_ok.mpr ⟨hshort, hentry⟩, rfl⟩⟩, ?_⟩
      exact congrArg Except.ok (put_put _ _ _ _)
    | some entry =>
      cases entry with
      | directory => exact absurd hentry (isDirectory_eq_false_iff.mp hfree)
      | file held => exact ⟨(directory ++ [name], held, tree), ⟨_, hparent,
          attempt_bind_eq_ok.mpr ⟨_, child?_eq_ok.mpr ⟨hshort, hentry⟩, rfl⟩⟩, rfl⟩

/-- A file is moved to a name that is free or a file's; what it held stands there afterwards, and
nothing at the old name. -/
theorem rename_eq_ok {source destination : Path} {renamed : FileTree} :
    tree.rename source destination = .ok renamed ↔ ∃ home old goal new content,
      tree.findParent source = .ok (home, .name old false)
        ∧ tree.findParent destination = .ok (goal, .name new false)
        ∧ old.utf8ByteSize ≤ longestName ∧ new.utf8ByteSize ≤ longestName
        ∧ tree.lookup (home ++ [old]) = some (.file content)
        ∧ tree.isDirectory (goal ++ [new]) = false
        ∧ renamed = (tree.erase (home ++ [old])).put (goal ++ [new]) (.file content) := by
  unfold rename
  simp only [attempt_bind_eq_ok]
  constructor
  · rintro ⟨⟨home, last⟩, hsource, ⟨goal, last'⟩, hdestination, h⟩
    split at h
    · next home' old slash goal' new newSlash heq heq' =>
      cases heq
      cases heq'
      obtain ⟨entry, hchild, h⟩ := attempt_bind_eq_ok.mp h
      obtain ⟨hold, hentry⟩ := child?_eq_ok.mp hchild
      split at h
      · cases h
      · cases h
      · next content =>
        obtain ⟨replaced, hchild', h⟩ := attempt_bind_eq_ok.mp h
        obtain ⟨hnew, hreplaced⟩ := child?_eq_ok.mp hchild'
        split at h
        · cases h
        · next hslash =>
          split at h
          · cases h
          · next hfree =>
            cases h
            -- a slash behind either name would have asked for a directory
            simp only [Bool.or_eq_true, not_or, Bool.not_eq_true] at hslash
            obtain ⟨rfl, rfl⟩ := hslash
            refine ⟨home, old, goal, new, content, hsource, hdestination, hold, hnew, hentry, ?_,
              rfl⟩
            rw [isDirectory_eq_false_iff, hreplaced]
            simpa using hfree
    · cases h
  · rintro ⟨home, old, goal, new, content, hsource, hdestination, hold, hnew, hentry, hfree, rfl⟩
    refine ⟨_, hsource, _, hdestination, attempt_bind_eq_ok.mpr
      ⟨_, child?_eq_ok.mpr ⟨hold, hentry⟩, attempt_bind_eq_ok.mpr
        ⟨_, child?_eq_ok.mpr ⟨hnew, rfl⟩, ?_⟩⟩⟩
    have hfree' : ¬ (tree.lookup (goal ++ [new]) == some .directory) = true := by
      simpa using isDirectory_eq_false_iff.mp hfree
    exact if_neg hfree'

end StructVault.FileTree
