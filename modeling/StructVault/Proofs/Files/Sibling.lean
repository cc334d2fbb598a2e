import StructVault.Proofs.Files.Names
import StructVault.Proofs.Files.Resolution

/-!
# Files and their hidden siblings

A path that names a file leads to three places: to the file, to the hidden sibling where new content
is gathered, and to the directory that is opened to make a change durable. Whatever slashes and
single dots the path has, the sibling is a file of another name in the directory of the file
(`findParent_temporary`, `locate?_temporary_ne`), and that directory can be opened by the path made
for it (`openDirectory_parent`).

What such a path leads to is told by the directories and by the entry under its name
(`sameAt_of_lookup`). This is how a file is shown to be untouched: no directory changed, and nothing
was done under its name.
-/

namespace StructVault

namespace FileTree

open Steps

variable {tree : FileTree} {directory goal location : Location} {path temporary : Path}
  {name : String} {rest : List (List Char)} {dots : List String}

/-! ## Directories of a file and its sibling -/

/-- On the way to a directory single dots do not matter. -/
theorem walk_moves (hgoal : tree.isDirectory goal = true) :
    ∀ {steps : List String} {location : Location},
      tree.walk location (steps.filter (· != ".")) = .ok goal
        ↔ tree.walk location steps = .ok goal
  | [], _ => Iff.rfl
  | step :: steps, location => by
    by_cases hdot : step = "."
    · subst hdot
      show tree.walk location (steps.filter (· != ".")) = .ok goal ↔ _
      rw [walk_moves hgoal, walk_cons_eq_ok]
      constructor
      · -- the walk ends in a directory, so it starts from one, where a dot may be stepped
        intro hwalk
        have hstart := isDirectory_of_walk hwalk hgoal
        exact ⟨location, enter_eq_ok.mpr ⟨hstart, Or.inl ⟨rfl, rfl⟩⟩, hwalk⟩
      · rintro ⟨next, henter, hwalk⟩
        rcases (enter_eq_ok.mp henter).2 with ⟨-, rfl⟩ | ⟨hne, -⟩ | ⟨hne, -⟩
        · exact hwalk
        · exact absurd rfl hne
        · exact absurd rfl hne
    · have hfilter : (step :: steps).filter (· != ".") = step :: steps.filter (· != ".") := by
        simp [hdot]
      rw [hfilter, walk_cons_eq_ok, walk_cons_eq_ok]
      exact exists_congr fun next => and_congr_right fun _ => walk_moves hgoal

/-- Two walks with the same moves lead to the same directories. -/
theorem walk_of_moves_eq (hgoal : tree.isDirectory goal = true) {steps steps' : List String}
    (hmoves : steps'.filter (· != ".") = steps.filter (· != ".")) :
    tree.walk location steps' = .ok goal ↔ tree.walk location steps = .ok goal := by
  rw [← walk_moves hgoal, hmoves, walk_moves hgoal]

theorem origin_congr {path' : Path} (h : path'.isAbsolute = path.isAbsolute) :
    tree.origin path' = tree.origin path := by
  unfold origin
  rw [h]

/-- A path with a file under it is followed up to the directory of that file. -/
theorem names_of_findParent {slash : Bool}
    (h : tree.findParent path = .ok (directory, .name name slash)) : ∃ rest,
      Path.Names path name rest [] ∧ checkPath path = .ok ()
        ∧ tree.walk (tree.origin path) (Path.stepsOf rest).reverse = .ok directory
        ∧ tree.isDirectory directory = true ∧ slash = path.endsInSlash := by
  obtain ⟨hcheck, before, hsteps, hwalk, hdir, hdot, hdots, hslash⟩ := findParent_eq_name.mp h
  obtain ⟨rest, dots, hnames⟩ :=
    Path.names_of_fileName? (Path.fileName?_of_steps hsteps hdot hdots)
  have hboth := hnames.steps_eq.symm.trans hsteps
  -- nothing stands behind the name, for the last step is no single dot
  rcases List.eq_nil_or_concat dots with rfl | ⟨more, last, rfl⟩
  · obtain ⟨hrest, -⟩ := List.append_inj' hboth rfl
    exact ⟨rest, hnames, hcheck, hrest ▸ hwalk, hdir, hslash⟩
  · rw [List.concat_eq_append, ← List.cons_append, ← List.append_assoc] at hboth
    obtain ⟨-, hlast⟩ := List.append_inj' hboth rfl
    have hname : name = "." := (List.cons.inj hlast).1.symm.trans (hnames.eq_dot last (by simp))
    exact absurd hname hdot

/-- The sibling of a file is a file in the same directory. -/
theorem findParent_sibling (hnames : Path.Names path name rest dots) {other found : String}
    {slash : Bool} (hslash : '/' ∉ other.toList) (hempty : other ≠ "") (hdot : other ≠ ".")
    (hdots : other ≠ "..") :
    tree.findParent (path.sibling other) = .ok (directory, .name found slash) ↔
      checkPath (path.sibling other) = .ok () ∧ found = other ∧ slash = false
        ∧ tree.isDirectory directory = true
        ∧ tree.walk (tree.origin path) (Path.stepsOf rest).reverse = .ok directory := by
  obtain ⟨front, hsteps, hmoves⟩ := Path.steps_sibling hnames hslash hempty
  rw [findParent_eq_name, Path.endsInSlash_sibling path hslash hempty, hsteps,
    origin_congr (Path.isAbsolute_sibling hnames hslash)]
  constructor
  · rintro ⟨hcheck, before, hbefore, hwalk, hdir, -, -, rfl⟩
    obtain ⟨rfl, hname⟩ := List.append_inj' hbefore rfl
    exact ⟨hcheck, (List.cons.inj hname).1.symm, rfl, hdir, (walk_of_moves_eq hdir hmoves).mp hwalk⟩
  · rintro ⟨hcheck, rfl, rfl, hdir, hwalk⟩
    exact ⟨hcheck, front, rfl, (walk_of_moves_eq hdir hmoves).mpr hwalk, hdir, hdot, hdots, rfl⟩

/-- Where a path leads that ends in a name. -/
theorem locate?_eq_some : tree.locate? path = some location ↔ ∃ directory name slash,
    tree.findParent path = .ok (directory, .name name slash) ∧ location = directory ++ [name] := by
  unfold locate?
  split
  · next directory name slash hparent =>
    constructor
    · intro h
      exact ⟨directory, name, slash, hparent, (Option.some.inj h).symm⟩
    · rintro ⟨directory', name', slash', hparent', rfl⟩
      cases hparent.symm.trans hparent'
      rfl
  · next hnone =>
    constructor
    · intro h
      cases h
    · rintro ⟨directory, name, slash, hparent, -⟩
      exact absurd hparent (hnone directory name slash)

theorem temporary?_of_names (h : Path.Names path name rest dots) :
    path.temporary? = some (path.sibling (Path.hiddenName name)) := by
  refine Path.temporary?_eq_some.mpr ⟨name, ?_, rfl⟩
  have hdots : ¬ name.toList = ['.', '.'] := fun heq => h.ne_dots (String.toList_inj.mp heq)
  unfold Path.fileName?
  rw [h.partsFromEnd_eq]
  simp [hdots]

/-- **Hidden siblings** stand in the directory of the file, under the hidden name. -/
theorem findParent_temporary {slash : Bool}
    (h : tree.findParent path = .ok (directory, .name name slash))
    (htemporary : path.temporary? = some temporary) (hcheck : checkPath temporary = .ok ()) :
    tree.findParent temporary = .ok (directory, .name (Path.hiddenName name) false) := by
  obtain ⟨rest, hnames, -, hwalk, hdir, -⟩ := names_of_findParent h
  cases (temporary?_of_names hnames).symm.trans htemporary
  exact (findParent_sibling hnames (Path.no_slash_hiddenName hnames.no_slash)
    (Path.hiddenName_ne_empty name) (Path.hiddenName_ne_dot name)
    (Path.hiddenName_ne_dots name)).mpr ⟨hcheck, rfl, rfl, hdir, hwalk⟩

/-- Where the sibling of a file stands, is the directory in which the path of the file takes its
name. -/
theorem names_of_findParent_temporary {found : String} {slash : Bool}
    (htemporary : path.temporary? = some temporary)
    (h : tree.findParent temporary = .ok (directory, .name found slash)) : ∃ name rest dots,
      Path.Names path name rest dots ∧ found = Path.hiddenName name ∧ slash = false
        ∧ tree.isDirectory directory = true
        ∧ tree.walk (tree.origin path) (Path.stepsOf rest).reverse = .ok directory := by
  obtain ⟨name, hname, rfl⟩ := Path.temporary?_eq_some.mp htemporary
  obtain ⟨rest, dots, hnames⟩ := Path.names_of_fileName? hname
  obtain ⟨-, hfound, hslash, hdir, hwalk⟩ := (findParent_sibling hnames
    (Path.no_slash_hiddenName hnames.no_slash) (Path.hiddenName_ne_empty name)
    (Path.hiddenName_ne_dot name) (Path.hiddenName_ne_dots name)).mp h
  exact ⟨name, rest, dots, hnames, hfound, hslash, hdir, hwalk⟩

/-- A file is never its own sibling. -/
theorem locate?_temporary_ne (htemporary : path.temporary? = some temporary)
    (h : tree.locate? temporary = some location) : tree.locate? path ≠ some location := by
  intro hpath
  obtain ⟨home, found, _, hfound, rfl⟩ := locate?_eq_some.mp h
  obtain ⟨goal, name, _, hname, heq⟩ := locate?_eq_some.mp hpath
  obtain ⟨rest, hnames, -⟩ := names_of_findParent hname
  obtain ⟨name', rest', dots', hnames', rfl, -⟩ := names_of_findParent_temporary htemporary hfound
  -- the path names one file, so the two names are those of a file and its sibling
  have hsame := hnames'.partsFromEnd_eq.symm.trans hnames.partsFromEnd_eq
  obtain ⟨-, hlast⟩ := List.append_inj' heq rfl
  have hname' : name' = name := String.toList_inj.mp (List.cons.inj hsame).1
  exact Path.hiddenName_ne name (hname' ▸ (List.cons.inj hlast).1)

theorem checkPath_eq_ok : checkPath path = .ok () ↔
    Char.ofNat 0 ∉ path.text.toList ∧ path.text ≠ "" ∧ path.text.utf8ByteSize < longestPath := by
  unfold checkPath
  by_cases hnul : Char.ofNat 0 ∈ path.text.toList
  · simp [hnul]
  · by_cases hempty : path.text = ""
    · simp [hempty]
    · by_cases hlong : longestPath ≤ path.text.utf8ByteSize
      · simp [hnul, hempty, hlong, Nat.not_lt.mpr hlong]
      · simp [hnul, hempty, hlong, Nat.lt_of_not_le hlong]

/-- The path of a parent is no longer than the path it is made from. -/
theorem checkPath_parent (hnames : Path.Names path name rest dots)
    (h : checkPath path = .ok ()) : checkPath path.parent = .ok () := by
  obtain ⟨hnul, -, hshort⟩ := checkPath_eq_ok.mp h
  obtain ⟨more, hmore⟩ := Path.textBeforeName_prefix hnames
  unfold Path.parent
  split
  · rfl
  · next hbefore =>
    have htext : path.text = String.ofList path.textBeforeName ++ String.ofList more := by
      rw [← String.ofList_append, hmore, String.ofList_toList]
    rw [htext, String.utf8ByteSize_append] at hshort
    refine checkPath_eq_ok.mpr ⟨?_, ?_, Nat.lt_of_le_of_lt (Nat.le_add_right _ _) hshort⟩
    · rw [String.toList_ofList]
      exact fun hmem => hnul (hmore ▸ List.mem_append_left more hmem)
    · intro hempty
      exact hbefore (by simpa using congrArg String.toList hempty)

/-! ## What a path leads to -/

/-- **Parents can be opened**: the directory that holds a file is reached by the path of its
parent. -/
theorem openDirectory_parent {slash : Bool}
    (h : tree.findParent path = .ok (directory, .name name slash)) :
    tree.openDirectory path.parent = .ok directory := by
  obtain ⟨rest, hnames, hcheck, hwalk, hdir, -⟩ := names_of_findParent h
  have hparent : tree.walk (tree.origin path.parent) path.parent.steps = .ok directory := by
    rw [origin_congr (Path.isAbsolute_parent hnames)]
    exact (walk_of_moves_eq hdir (Path.steps_parent hnames)).mpr hwalk
  have hfind : tree.find path.parent = .ok (directory, .directory) :=
    find_eq_ok.mpr ⟨checkPath_parent hnames hcheck, hparent, isDirectory_eq_true_iff.mp hdir,
      Or.inl rfl⟩
  exact attempt_bind_eq_ok.mpr ⟨_, hfind, rfl⟩

/-- Steps that are single dots lead nowhere else, and are taken in directories only. -/
theorem walk_dots : ∀ {dots : List String} {location goal : Location},
    (∀ dot ∈ dots, dot = ".") → (tree.walk location dots = .ok goal ↔
      goal = location ∧ (dots = [] ∨ tree.isDirectory location = true))
  | [], location, goal, _ => by
    show Except.ok location = Except.ok goal ↔ _
    rw [Except.ok.injEq]
    exact ⟨fun h => ⟨h.symm, Or.inl rfl⟩, fun h => h.1.symm⟩
  | dot :: dots, location, goal, h => by
    obtain ⟨rfl, hdots⟩ := List.forall_mem_cons.mp h
    rw [walk_cons_eq_ok]
    constructor
    · rintro ⟨next, henter, hwalk⟩
      obtain ⟨rfl, -⟩ := (walk_dots hdots).mp hwalk
      obtain ⟨hdir, ⟨-, rfl⟩ | ⟨hne, -⟩ | ⟨hne, -⟩⟩ := enter_eq_ok.mp henter
      · exact ⟨rfl, Or.inr hdir⟩
      · exact absurd rfl hne
      · exact absurd rfl hne
    · rintro ⟨rfl, hnil | hdir⟩
      · cases hnil
      · exact ⟨goal, enter_eq_ok.mpr ⟨hdir, Or.inl ⟨rfl, rfl⟩⟩,
          (walk_dots hdots).mpr ⟨rfl, Or.inr hdir⟩⟩

/-- A path that names a file leads to the entry of that name in the directory in front of it.
Behind the name, a file bears neither a slash nor a dot. -/
theorem find_eq_ok_of_names (hnames : Path.Names path name rest dots) {entry : Entry} :
    tree.find path = .ok (location, entry) ↔ checkPath path = .ok () ∧ ∃ directory,
      tree.walk (tree.origin path) (Path.stepsOf rest).reverse = .ok directory
        ∧ tree.isDirectory directory = true ∧ name.utf8ByteSize ≤ longestName
        ∧ location = directory ++ [name] ∧ tree.lookup location = some entry
        ∧ (entry = .directory ∨ dots = [] ∧ path.endsInSlash = false) := by
  have hdirectory {directory : Location} {held : Entry}
      (hentry : tree.lookup (directory ++ [name]) = some held) :
      tree.isDirectory (directory ++ [name]) = true ↔ held = .directory := by
    rw [isDirectory_eq_true_iff, hentry, Option.some.injEq]
  rw [find_eq_ok, hnames.steps_eq]
  constructor
  · rintro ⟨hcheck, hwalk, hentry, hslash⟩
    obtain ⟨directory, hbefore, hname⟩ := (walk_append_eq_ok _).mp hwalk
    obtain ⟨next, henter, hdots⟩ := walk_cons_eq_ok.mp hname
    obtain ⟨rfl, hbehind⟩ := (walk_dots hnames.eq_dot).mp hdots
    obtain ⟨hdir, ⟨hdot, -⟩ | ⟨-, hdots, -⟩ | ⟨-, -, hshort, -, rfl⟩⟩ := enter_eq_ok.mp henter
    · exact absurd hdot hnames.ne_dot
    · exact absurd hdots hnames.ne_dots
    · refine ⟨hcheck, directory, hbefore, hdir, hshort, rfl, hentry, ?_⟩
      rcases hbehind with hnil | hheld
      · exact hslash.imp_right fun hslash => ⟨hnil, hslash⟩
      · exact Or.inl ((hdirectory hentry).mp hheld)
  · rintro ⟨hcheck, directory, hbefore, hdir, hshort, rfl, hentry, hkind⟩
    refine ⟨hcheck, (walk_append_eq_ok _).mpr ⟨directory, hbefore, ?_⟩, hentry,
      hkind.imp_right And.right⟩
    refine walk_cons_eq_ok.mpr ⟨directory ++ [name], enter_eq_ok.mpr ⟨hdir, Or.inr (Or.inr
      ⟨hnames.ne_dot, hnames.ne_dots, hshort, by rw [hentry]; rfl, rfl⟩)⟩, ?_⟩
    refine (walk_dots hnames.eq_dot).mpr ⟨rfl, ?_⟩
    rcases hkind with rfl | ⟨hnil, -⟩
    · exact Or.inr ((hdirectory hentry).mpr rfl)
    · exact Or.inl hnil

/-- A path that names a file and can be read, leads to a file of that name. -/
theorem findParent_of_read (hname : path.fileName? = some name) {content : Bytes}
    (h : tree.read path = .ok content) : ∃ directory,
      tree.findParent path = .ok (directory, .name name false)
        ∧ name.utf8ByteSize ≤ longestName
        ∧ tree.lookup (directory ++ [name]) = some (.file content) := by
  obtain ⟨rest, dots, hnames⟩ := Path.names_of_fileName? hname
  obtain ⟨⟨location, entry⟩, hfind, h⟩ := attempt_bind_eq_ok.mp h
  cases entry with
  | directory => cases h
  | file held =>
    cases h
    obtain ⟨hcheck, directory, hwalk, hdir, hshort, rfl, hentry, hkind⟩ :=
      (find_eq_ok_of_names hnames).mp hfind
    obtain ⟨rfl, hslash⟩ := hkind.resolve_left fun heq => nomatch heq
    exact ⟨directory, findParent_eq_name.mpr ⟨hcheck, _, hnames.steps_eq, hwalk, hdir,
      hnames.ne_dot, hnames.ne_dots, hslash.symm⟩, hshort, hentry⟩

/-- The place a path leads to and what stands there, if there is anything. -/
def entry? (tree : FileTree) (path : Path) : Option (Location × Entry) := (tree.find path).toOption

theorem entry?_eq_some {found : Location × Entry} :
    tree.entry? path = some found ↔ tree.find path = .ok found :=
  attempt_eq_ok_iff.symm

theorem read_eq_ok_iff {content : Bytes} : tree.read path = .ok content ↔
    ∃ location, tree.entry? path = some (location, .file content) := by
  simp only [entry?_eq_some]
  unfold read
  rw [attempt_bind_eq_ok]
  constructor
  · rintro ⟨⟨location, entry⟩, hfind, h⟩
    cases entry with
    | directory => cases h
    | file held =>
      cases h
      exact ⟨location, hfind⟩
  · rintro ⟨location, hfind⟩
    exact ⟨_, hfind, rfl⟩

/-- What a path leads to decides what is read there. -/
theorem read_congr {tree' : FileTree} (h : tree'.entry? path = tree.entry? path) {content : Bytes} :
    tree'.read path = .ok content ↔ tree.read path = .ok content := by
  rw [read_eq_ok_iff, read_eq_ok_iff, h]

theorem reaches_eq (tree : FileTree) (path : Path) :
    tree.reaches path = (tree.entry? path).isSome := by
  unfold reaches entry?
  cases tree.find path with
  | ok found => rfl
  | error failure => rfl

theorem locate?_of_sameDirectories {tree' : FileTree} (hsame : SameDirectories tree tree')
    (path : Path) : tree'.locate? path = tree.locate? path := by
  refine Option.ext fun location => ?_
  rw [locate?_eq_some, locate?_eq_some]
  constructor
  · rintro ⟨directory, name, slash, hparent, rfl⟩
    exact ⟨directory, name, slash, findParent_of_sameDirectories hsame.symm hparent, rfl⟩
  · rintro ⟨directory, name, slash, hparent, rfl⟩
    exact ⟨directory, name, slash, findParent_of_sameDirectories hsame hparent, rfl⟩

/-- Paths lead to the directories they led to before. -/
theorem entry?_directory_of_sameDirectories {tree' : FileTree} (hsame : SameDirectories tree tree')
    (h : tree.entry? path = some (location, .directory)) :
    tree'.entry? path = some (location, .directory) := by
  rw [entry?_eq_some, find_eq_ok] at h ⊢
  obtain ⟨hcheck, hwalk, hentry, hkind⟩ := h
  have hdir := isDirectory_eq_true_iff.mpr hentry
  refine ⟨hcheck, ?_, ?_, hkind⟩
  · rw [hsame.origin_eq]
    exact walk_of_sameDirectories hsame hdir hwalk
  · exact isDirectory_eq_true_iff.mp ((hsame.isDirectory_eq location).trans hdir)

theorem find_of_sameDirectories {tree' : FileTree} (hsame : SameDirectories tree tree')
    (hname : path.fileName? = some name)
    (hlookup : ∀ location, tree.locate? path = some location →
      tree'.lookup location = tree.lookup location) {found : Location × Entry}
    (h : tree.find path = .ok found) : tree'.find path = .ok found := by
  obtain ⟨rest, dots, hnames⟩ := Path.names_of_fileName? hname
  obtain ⟨location, entry⟩ := found
  obtain ⟨hcheck, directory, hwalk, hdir, hshort, rfl, hentry, hkind⟩ :=
    (find_eq_ok_of_names hnames).mp h
  refine (find_eq_ok_of_names hnames).mpr ⟨hcheck, directory, ?_, ?_, hshort, rfl, ?_, hkind⟩
  · rw [hsame.origin_eq]
    exact walk_of_sameDirectories hsame hdir hwalk
  · rw [hsame.isDirectory_eq, hdir]
  · rcases hkind with rfl | ⟨rfl, -⟩
    · have hsub := hsame.isDirectory_eq (directory ++ [name])
      simpa [isDirectory, hentry] using hsub
    · -- with nothing behind the name, the entry stands where the path is located
      rw [hlookup (directory ++ [name]), hentry]
      have hparent : tree.findParent path = .ok (directory, .name name path.endsInSlash) :=
        findParent_eq_name.mpr ⟨hcheck, _, hnames.steps_eq, hwalk, hdir, hnames.ne_dot,
          hnames.ne_dots, rfl⟩
      exact locate?_eq_some.mpr ⟨directory, name, _, hparent, rfl⟩

/-- The path leads to what it led to, and what stands under its name is as it was. The latter is more
where a slash stands behind the name of a file: such a path leads nowhere, and yet it is located
where the file is. -/
structure SameAt (tree left : FileTree) (path : Path) : Prop where
  entry : left.entry? path = tree.entry? path
  located : ∀ location, tree.locate? path = some location →
    left.lookup location = tree.lookup location

theorem SameAt.refl (tree : FileTree) (path : Path) : SameAt tree tree path :=
  ⟨rfl, fun _ _ => rfl⟩

/-- **Untouched files**: where directories stay and nothing changes under the name of a path, it
leads to what it led to before. -/
theorem sameAt_of_lookup {left : FileTree} (hsame : SameDirectories tree left)
    (hname : path.fileName? = some name)
    (hlookup : ∀ location, tree.locate? path = some location →
      left.lookup location = tree.lookup location) : SameAt tree left path where
  entry := by
    refine Option.ext fun found => ?_
    rw [entry?_eq_some, entry?_eq_some]
    refine ⟨find_of_sameDirectories hsame.symm hname fun location hlocate => ?_,
      find_of_sameDirectories hsame hname hlookup⟩
    rw [locate?_of_sameDirectories hsame] at hlocate
    exact (hlookup location hlocate).symm
  located := hlookup

end FileTree

end StructVault
