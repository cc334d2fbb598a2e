import StructVault.Files.Replace
import StructVault.Proofs.Files.Sibling

/-!
# Replaced files

A try to replace a file ends in one of four ways, and `Outcome` says for each how the tree is left.
The hidden sibling is written in the directory of the file, moved over the file or removed again, so
it is gone in the end; everything else is as it was, and so is the file unless it was replaced.

- `outcome_replaceFile`: there is no fifth way. That the directory cannot be opened behind the move
  is ruled out by `openDirectory_of_rename`.
- `replaceFile_sync`: whether the change is made durable has no part in how the try ends.
- `Outcome.intact_of_error`: a try that fails leaves the file as it was, and all that stands under
  other names than that of the sibling (`Intact`).
- `exists_replaceFile_eq_ok_iff`: when a file can be replaced. The new content plays no part.
- `read_of_replaceFile`: a file that was replaced holds the new content.
- `lookup_replaceFile`: what stands elsewhere is kept, whatever happens. A file that already has the
  name of the sibling is not kept: that name belongs to the try.
-/

namespace StructVault.FileTree

open StructVault.Path (hiddenName)

variable {tree left written : FileTree} {path temporary : Path} {content : Bytes} {sync : Bool}
  {failure : FileFailure} {result : Except ReplaceFailure Unit} {location directory : Location}
  {name : String}

/-! ## Removing the sibling -/

theorem erase_put (tree : FileTree) (location : Location) (entry : Entry) :
    (tree.put location entry).erase location = tree.erase location := by
  simp [put, erase]

theorem removeFile_eq_ok {removed : FileTree} : tree.removeFile path = .ok removed ↔
    ∃ directory name content, tree.findParent path = .ok (directory, .name name false)
      ∧ name.utf8ByteSize ≤ longestName
      ∧ tree.lookup (directory ++ [name]) = some (.file content)
      ∧ removed = tree.erase (directory ++ [name]) := by
  unfold removeFile
  rw [Steps.attempt_bind_eq_ok]
  constructor
  · rintro ⟨⟨directory, last⟩, hparent, h⟩
    split at h
    · cases h
    · next directory' name slash heq =>
      cases heq
      obtain ⟨entry, hchild, h⟩ := Steps.attempt_bind_eq_ok.mp h
      obtain ⟨hshort, hentry⟩ := child?_eq_ok.mp hchild
      split at h
      · cases h
      · cases h
      · next content =>
        split at h
        · cases h
        · next hslash =>
          cases h
          cases slash with
          | true => exact absurd rfl hslash
          | false => exact ⟨directory, name, content, hparent, hshort, hentry, rfl⟩
  · rintro ⟨directory, name, content, hparent, hshort, hentry, rfl⟩
    exact ⟨_, hparent, Steps.attempt_bind_eq_ok.mpr ⟨_, child?_eq_ok.mpr ⟨hshort, hentry⟩, rfl⟩⟩

/-- A file is written under a short name that is no directory's. -/
theorem write_of_findParent (hparent : tree.findParent path = .ok (directory, .name name false))
    (hshort : name.utf8ByteSize ≤ longestName)
    (hfree : tree.isDirectory (directory ++ [name]) = false) (content : Bytes) :
    tree.write path content = .ok (tree.put (directory ++ [name]) (.file content)) :=
  write_eq_ok.mpr ⟨directory, name, hparent, hshort, hfree, rfl⟩

/-- A sibling that could not be written is no file, and nothing is removed. -/
theorem discard_of_write_error (h : tree.write temporary content = .error failure) :
    tree.discard temporary = tree := by
  unfold discard
  split
  · next removed hremove =>
    obtain ⟨directory, name, held, hparent, hshort, hentry, -⟩ := removeFile_eq_ok.mp hremove
    have hfree : tree.isDirectory (directory ++ [name]) = false :=
      isDirectory_eq_false_iff.mpr (by simp [hentry])
    cases (write_of_findParent hparent hshort hfree content).symm.trans h
  · rfl

/-- A sibling that was written is removed again, and with it what it held before. -/
theorem discard_of_write (hparent : tree.findParent temporary = .ok (directory, .name name false))
    (hshort : name.utf8ByteSize ≤ longestName)
    (hfree : tree.isDirectory (directory ++ [name]) = false) :
    (tree.put (directory ++ [name]) (.file content)).discard temporary
      = tree.erase (directory ++ [name]) := by
  have hremove : (tree.put (directory ++ [name]) (.file content)).removeFile temporary
      = .ok (tree.erase (directory ++ [name])) :=
    removeFile_eq_ok.mpr ⟨directory, name, content,
      findParent_of_sameDirectories (sameDirectories_put_file hfree content) hparent, hshort,
      lookup_put_self _ _ (ne_root_of_isDirectory_eq_false hfree), (erase_put ..).symm⟩
  unfold discard
  rw [hremove]

/-! ## The ways a try can end -/

/-- How a try to replace a file ends, and the tree it leaves. -/
inductive Outcome (tree : FileTree) (path : Path) (content : Bytes) :
    Except ReplaceFailure Unit → FileTree → Prop where
  /-- The path names no file. -/
  | unnamed (hnone : path.temporary? = none) :
      Outcome tree path content (.error .noFileName) tree
  /-- The sibling could not be written. -/
  | unwritten {temporary : Path} {failure : FileFailure}
      (htemporary : path.temporary? = some temporary)
      (hwrite : tree.write temporary content = .error failure) :
      Outcome tree path content (.error (.refused failure)) tree
  /-- The sibling could not be moved, and was removed. -/
  | unmoved {temporary : Path} {failure : FileFailure} {directory : Location} {name : String}
      (htemporary : path.temporary? = some temporary)
      (hsource : tree.findParent temporary = .ok (directory, .name (hiddenName name) false))
      (hfree : tree.isDirectory (directory ++ [hiddenName name]) = false)
      (hrename : (tree.put (directory ++ [hiddenName name]) (.file content)).rename temporary path
        = .error failure) :
      Outcome tree path content (.error (.refused failure))
        (tree.erase (directory ++ [hiddenName name]))
  /-- The sibling was moved over the file. -/
  | replaced {temporary : Path} {directory : Location} {name : String}
      (htemporary : path.temporary? = some temporary)
      (hsource : tree.findParent temporary = .ok (directory, .name (hiddenName name) false))
      (hpath : tree.findParent path = .ok (directory, .name name false))
      (hshort : (hiddenName name).utf8ByteSize ≤ longestName)
      (hfree : tree.isDirectory (directory ++ [hiddenName name]) = false)
      (hgoal : tree.isDirectory (directory ++ [name]) = false) :
      Outcome tree path content (.ok ())
        ((tree.erase (directory ++ [hiddenName name])).put (directory ++ [name]) (.file content))

/-- A path has one location in a tree. -/
theorem location_unique {home goal : Location} {old new : String} {slash slash' : Bool}
    (h : tree.findParent path = .ok (home, .name old slash))
    (h' : tree.findParent path = .ok (goal, .name new slash')) : home ++ [old] = goal ++ [new] := by
  have hlocate : tree.locate? path = some (home ++ [old]) := locate?_eq_some.mpr ⟨_, _, _, h, rfl⟩
  have hlocate' : tree.locate? path = some (goal ++ [new]) :=
    locate?_eq_some.mpr ⟨_, _, _, h', rfl⟩
  exact Option.some.inj (hlocate.symm.trans hlocate')

theorem ne_of_last_ne {home goal : Location} {old new : String} (h : old ≠ new) :
    home ++ [old] ≠ goal ++ [new] := fun heq =>
  h (List.cons.inj (List.append_inj' heq rfl).2).1

theorem utf8ByteSize_le_hiddenName (name : String) :
    name.utf8ByteSize ≤ (hiddenName name).utf8ByteSize := by
  rw [Path.utf8ByteSize_hiddenName]
  exact Nat.le_add_right _ 5

/-- A sibling that was written and moved stood in the directory of the file. -/
theorem eq_put_of_rename {renamed : FileTree} {found : String}
    (htemporary : path.temporary? = some temporary)
    (hsource : tree.findParent temporary = .ok (directory, .name found false))
    (hfree : tree.isDirectory (directory ++ [found]) = false)
    (hrename : (tree.put (directory ++ [found]) (.file content)).rename temporary path
      = .ok renamed) : ∃ name, found = hiddenName name
        ∧ tree.findParent path = .ok (directory, .name name false)
        ∧ (hiddenName name).utf8ByteSize ≤ longestName
        ∧ tree.isDirectory (directory ++ [name]) = false
        ∧ renamed = (tree.erase (directory ++ [hiddenName name])).put (directory ++ [name])
          (.file content) := by
  have hsame := sameDirectories_put_file hfree content
  obtain ⟨home, old, goal, new, held, hsource', hpath, hold, -, hentry, hgoal, rfl⟩ :=
    rename_eq_ok.mp hrename
  -- the sibling leads to the file just written, so that is what is moved
  cases (findParent_of_sameDirectories hsame hsource).symm.trans hsource'
  rw [lookup_put_self _ _ (ne_root_of_isDirectory_eq_false hfree)] at hentry
  cases hentry
  have hbefore := findParent_of_sameDirectories hsame.symm hpath
  obtain ⟨rest, hnames, -, hwalk, -⟩ := names_of_findParent hbefore
  obtain ⟨name, rest', dots, hnames', rfl, -, -, hwalk'⟩ :=
    names_of_findParent_temporary htemporary hsource
  -- both are found by the text in front of the name, so they are found in one directory
  obtain ⟨hname, rfl⟩ := List.cons.inj (hnames'.partsFromEnd_eq.symm.trans hnames.partsFromEnd_eq)
  cases String.toList_inj.mp hname
  cases hwalk.symm.trans hwalk'
  refine ⟨_, rfl, hbefore, hold, ?_, by rw [erase_put]⟩
  rw [← hsame.isDirectory_eq, hgoal]

/-- A file that is moved over a file, or to a free name, leaves the directories as they are. -/
theorem sameDirectories_replaced {hidden goal : Location} (hfree : tree.isDirectory hidden = false)
    (hgoal : tree.isDirectory goal = false) (content : Bytes) :
    SameDirectories tree ((tree.erase hidden).put goal (.file content)) := by
  have herased := sameDirectories_erase hfree
  exact herased.trans (sameDirectories_put_file ((herased.isDirectory_eq _).trans hgoal) content)

theorem replaceFile_of_stage_error (htemporary : path.temporary? = some temporary)
    (hstage : tree.stage temporary path content sync = (.error failure, left)) :
    tree.replaceFile path content sync = (.error (.refused failure), left.discard temporary) := by
  unfold replaceFile
  rw [htemporary]
  simp only [hstage]

theorem replaceFile_of_stage_ok (htemporary : path.temporary? = some temporary)
    (hstage : tree.stage temporary path content sync = (.ok (), left)) :
    tree.replaceFile path content sync = (.ok (), left) := by
  unfold replaceFile
  rw [htemporary]
  simp only [hstage]

/-- **Behind a move** the directory of the path is there to be opened: the walk to it has just
succeeded, and a move of a file makes and removes no directory. -/
theorem openDirectory_of_rename {renamed : FileTree}
    (h : tree.rename temporary path = .ok renamed) :
    ∃ directory, renamed.openDirectory path.parent = .ok directory := by
  obtain ⟨home, old, goal, new, held, -, hpath, -, -, hentry, hgoal, rfl⟩ := rename_eq_ok.mp h
  have hfree : tree.isDirectory (home ++ [old]) = false :=
    isDirectory_eq_false_iff.mpr (by simp [hentry])
  have hsame := sameDirectories_replaced hfree hgoal held
  exact ⟨goal, openDirectory_parent (findParent_of_sameDirectories hsame hpath)⟩

/-- To make the change durable neither fails nor changes the tree. -/
theorem stage_of_rename {renamed : FileTree}
    (hwrite : tree.write temporary content = .ok written)
    (hrename : written.rename temporary path = .ok renamed) :
    tree.stage temporary path content sync = (.ok (), renamed) := by
  unfold stage
  rw [hwrite]
  simp only [hrename]
  cases sync with
  | false => rfl
  | true =>
    obtain ⟨directory, hopen⟩ := openDirectory_of_rename hrename
    rw [hopen]
    rfl

/-- Up to the move nothing depends on whether the change is to be made durable. -/
theorem stage_sync (tree : FileTree) (temporary path : Path) (content : Bytes)
    (sync sync' : Bool) :
    tree.stage temporary path content sync = tree.stage temporary path content sync' := by
  cases hwrite : tree.write temporary content with
  | error failure => simp only [stage, hwrite]
  | ok written =>
    cases hrename : written.rename temporary path with
    | error failure => simp only [stage, hwrite, hrename]
    | ok renamed => rw [stage_of_rename hwrite hrename, stage_of_rename hwrite hrename]

/-- **Durable replacements** end as the others do, and leave the same tree. -/
theorem replaceFile_sync (tree : FileTree) (path : Path) (content : Bytes) (sync sync' : Bool) :
    tree.replaceFile path content sync = tree.replaceFile path content sync' := by
  unfold replaceFile
  cases path.temporary? with
  | none => rfl
  | some temporary => simp only [stage_sync tree temporary path content sync sync']

/-- **Every try** to replace a file has one of the four outcomes. -/
theorem outcome_replaceFile (tree : FileTree) (path : Path) (content : Bytes) (sync : Bool) :
    Outcome tree path content (tree.replaceFile path content sync).1
      (tree.replaceFile path content sync).2 := by
  cases htemporary : path.temporary? with
  | none =>
    have hnone : tree.replaceFile path content sync = (.error .noFileName, tree) := by
      unfold replaceFile
      rw [htemporary]
    rw [hnone]
    exact .unnamed htemporary
  | some temporary =>
    cases hwrite : tree.write temporary content with
    | error failure =>
      have hstage : tree.stage temporary path content sync = (.error failure, tree) := by
        unfold stage
        rw [hwrite]
      rw [replaceFile_of_stage_error htemporary hstage, discard_of_write_error hwrite]
      exact .unwritten htemporary hwrite
    | ok written =>
      obtain ⟨directory, found, hsource, hshort, hfree, rfl⟩ := write_eq_ok.mp hwrite
      cases hrename : (tree.put (directory ++ [found]) (.file content)).rename temporary path with
      | error failure =>
        obtain ⟨name, rest, dots, -, rfl, -⟩ := names_of_findParent_temporary htemporary hsource
        have hstage : tree.stage temporary path content sync
            = (.error failure, tree.put (directory ++ [hiddenName name]) (.file content)) := by
          unfold stage
          rw [hwrite]
          simp only [hrename]
        rw [replaceFile_of_stage_error htemporary hstage, discard_of_write hsource hshort hfree]
        exact .unmoved htemporary hsource hfree hrename
      | ok renamed =>
        obtain ⟨name, rfl, hpath, hhidden, hgoal, rfl⟩ :=
          eq_put_of_rename htemporary hsource hfree hrename
        rw [replaceFile_of_stage_ok htemporary (stage_of_rename hwrite hrename)]
        exact .replaced htemporary hsource hpath hhidden hfree hgoal

theorem outcome_of_replaceFile (h : tree.replaceFile path content sync = (result, left)) :
    Outcome tree path content result left := by
  have houtcome := outcome_replaceFile tree path content sync
  rwa [h] at houtcome

/-! ## What is left behind -/

/-- The file at the path is untouched, and so is everything else but for what stands under the name
of the sibling. -/
structure Intact (tree left : FileTree) (path : Path) : Prop extends SameAt tree left path where
  elsewhere : ∀ location, (∀ temporary, path.temporary? = some temporary →
    tree.locate? temporary ≠ some location) → left.lookup location = tree.lookup location

theorem Intact.refl (tree : FileTree) (path : Path) : Intact tree tree path :=
  ⟨.refl tree path, fun _ _ => rfl⟩

namespace Outcome

theorem sameDirectories (h : Outcome tree path content result left) :
    SameDirectories tree left := by
  cases h with
  | unnamed => exact ⟨rfl, fun _ => rfl⟩
  | unwritten => exact ⟨rfl, fun _ => rfl⟩
  | unmoved _ _ hfree => exact sameDirectories_erase hfree
  | replaced _ _ _ _ hfree hgoal => exact sameDirectories_replaced hfree hgoal content

/-- A try that fails does nothing outside the name of the sibling. -/
theorem lookup_of_error {error : ReplaceFailure}
    (h : Outcome tree path content (.error error) left)
    (htemporary : ∀ temporary, path.temporary? = some temporary →
      tree.locate? temporary ≠ some location) : left.lookup location = tree.lookup location := by
  cases h with
  | unnamed => rfl
  | unwritten => rfl
  | unmoved hname hsource =>
    refine lookup_erase_of_ne tree fun heq => htemporary _ hname ?_
    exact locate?_eq_some.mpr ⟨_, _, _, hsource, heq⟩

/-- What stands neither under the name of the file nor under that of the sibling is kept. -/
theorem lookup_of_ne (h : Outcome tree path content result left)
    (hpath : tree.locate? path ≠ some location)
    (htemporary : ∀ temporary, path.temporary? = some temporary →
      tree.locate? temporary ≠ some location) : left.lookup location = tree.lookup location := by
  cases result with
  | error error => exact h.lookup_of_error htemporary
  | ok done =>
    cases h with
    | replaced hname hsource hgoal =>
      rw [lookup_put_of_ne, lookup_erase_of_ne]
      · exact fun heq => htemporary _ hname (locate?_eq_some.mpr ⟨_, _, _, hsource, heq⟩)
      · exact fun heq => hpath (locate?_eq_some.mpr ⟨_, _, _, hgoal, heq⟩)

/-- A file that was not replaced is intact. -/
theorem intact_of_error {error : ReplaceFailure}
    (h : Outcome tree path content (.error error) left) : Intact tree left path where
  toSameAt := by
    have hsame := h.sameDirectories
    have hlookup : ∀ location, tree.locate? path = some location →
        left.lookup location = tree.lookup location := by
      intro location hlocate
      refine h.lookup_of_error fun temporary htemporary hsibling => ?_
      exact locate?_temporary_ne htemporary hsibling hlocate
    cases h with
    | unnamed => exact .refl tree path
    | unwritten => exact .refl tree path
    | unmoved htemporary =>
      obtain ⟨name, hname, -⟩ := Path.temporary?_eq_some.mp htemporary
      exact sameAt_of_lookup hsame hname hlookup
  elsewhere _ := h.lookup_of_error

/-- No file is left under the name of the sibling: neither what was written there nor what it took
the place of. -/
theorem read_temporary (h : Outcome tree path content result left)
    (htemporary : path.temporary? = some temporary) (held : Bytes) :
    left.read temporary ≠ .ok held := by
  intro hread
  obtain ⟨name, hname, heq⟩ := Path.temporary?_eq_some.mp htemporary
  obtain ⟨directory, hleft, hshort, hentry⟩ :=
    findParent_of_read (heq ▸ Path.fileName?_hidden hname) hread
  -- the path of the sibling leads to one location in both trees
  have hparent : tree.findParent temporary = .ok (directory, .name (hiddenName name) false) :=
    findParent_of_sameDirectories h.sameDirectories.symm hleft
  clear hleft hread
  cases h with
  | unnamed hnone => cases hnone.symm.trans htemporary
  | unwritten hsome hwrite =>
    cases hsome.symm.trans htemporary
    have hfree : tree.isDirectory (directory ++ [hiddenName name]) = false :=
      isDirectory_eq_false_iff.mpr (by simp [hentry])
    cases (write_of_findParent hparent hshort hfree content).symm.trans hwrite
  | unmoved hsome hsource hfree =>
    cases hsome.symm.trans htemporary
    rw [← location_unique hsource hparent,
      lookup_erase_self _ (ne_root_of_isDirectory_eq_false hfree)] at hentry
    cases hentry
  | replaced hsome hsource _ _ hfree =>
    cases hsome.symm.trans htemporary
    rw [← location_unique hsource hparent,
      lookup_put_of_ne _ _ (ne_of_last_ne (Path.hiddenName_ne _)),
      lookup_erase_self _ (ne_root_of_isDirectory_eq_false hfree)] at hentry
    cases hentry

/-- A file that was replaced holds the new content. -/
theorem read_of_ok (h : Outcome tree path content (.ok ()) left) : left.read path = .ok content := by
  have hsame := h.sameDirectories
  cases h with
  | replaced _ _ hpath hshort _ hgoal =>
    exact read_of_findParent (findParent_of_sameDirectories hsame hpath)
      (Nat.le_trans (utf8ByteSize_le_hiddenName _) hshort)
      (lookup_put_self _ _ (ne_root_of_isDirectory_eq_false hgoal))

end Outcome

/-- The tree lets the file at a path be replaced: the path ends in a name in a directory that is
there, the name of the sibling is not too long, and neither name is that of a directory. -/
structure Replaceable (tree : FileTree) (path : Path) : Prop where
  located : ∃ directory name, tree.findParent path = .ok (directory, .name name false)
    ∧ (hiddenName name).utf8ByteSize ≤ longestName
    ∧ tree.isDirectory (directory ++ [hiddenName name]) = false
    ∧ tree.isDirectory (directory ++ [name]) = false
  sibling_reached : ∃ temporary, path.temporary? = some temporary ∧ checkPath temporary = .ok ()

theorem Replaceable.exists_fileName (h : tree.Replaceable path) :
    ∃ name, path.fileName? = some name := by
  obtain ⟨temporary, htemporary, -⟩ := h.sibling_reached
  obtain ⟨name, hname, -⟩ := Path.temporary?_eq_some.mp htemporary
  exact ⟨name, hname⟩

/-- Files that are written or removed do not matter to it. -/
theorem Replaceable.of_sameDirectories (h : tree.Replaceable path)
    (hsame : SameDirectories tree left) : left.Replaceable path where
  located := by
    obtain ⟨directory, name, hparent, hshort, hfree, hgoal⟩ := h.located
    exact ⟨directory, name, findParent_of_sameDirectories hsame hparent, hshort,
      (hsame.isDirectory_eq _).trans hfree, (hsame.isDirectory_eq _).trans hgoal⟩
  sibling_reached := h.sibling_reached

/-- **When a file can be replaced** is decided by the tree and the path alone. -/
theorem exists_replaceFile_eq_ok_iff :
    (∃ left, tree.replaceFile path content sync = (.ok (), left)) ↔ tree.Replaceable path := by
  constructor
  · rintro ⟨left, hleft⟩
    cases outcome_of_replaceFile hleft with
    | replaced htemporary hsource hpath hshort hfree hgoal =>
      exact ⟨⟨_, _, hpath, hshort, hfree, hgoal⟩,
        ⟨_, htemporary, (findParent_eq_name.mp hsource).1⟩⟩
  · rintro ⟨⟨directory, name, hpath, hshort, hfree, hgoal⟩, temporary, htemporary, hcheck⟩
    have hsource := findParent_temporary hpath htemporary hcheck
    have hwritten := write_of_findParent hsource hshort hfree content
    have hsame := sameDirectories_put_file hfree content
    rcases htry : tree.replaceFile path content sync with ⟨result, left⟩
    cases outcome_of_replaceFile htry with
    | unnamed hnone => cases hnone.symm.trans htemporary
    | unwritten hsome hwrite =>
      cases hsome.symm.trans htemporary
      cases hwritten.symm.trans hwrite
    | unmoved hsome hsource' _ hrename =>
      cases hsome.symm.trans htemporary
      rw [location_unique hsource' hsource] at hrename
      have hmoved := rename_eq_ok.mpr ⟨directory, hiddenName name, directory, name, content,
        findParent_of_sameDirectories hsame hsource, findParent_of_sameDirectories hsame hpath,
        hshort, Nat.le_trans (utf8ByteSize_le_hiddenName name) hshort,
        lookup_put_self _ _ (ne_root_of_isDirectory_eq_false hfree),
        (hsame.isDirectory_eq _).trans hgoal, rfl⟩
      cases hmoved.symm.trans hrename
    | replaced => exact ⟨_, rfl⟩

/-- **What stands elsewhere** is kept, however the try ends: every directory, and every file that
is neither the one to be replaced nor already has the name of the sibling. -/
theorem lookup_replaceFile {entry : Entry} (hentry : tree.lookup location = some entry)
    (hkept : entry = .directory ∨ tree.locate? path ≠ some location
      ∧ ∀ temporary, path.temporary? = some temporary → tree.locate? temporary ≠ some location) :
    (tree.replaceFile path content sync).2.lookup location = some entry := by
  have houtcome := outcome_replaceFile tree path content sync
  rcases hkept with rfl | ⟨hpath, htemporary⟩
  · exact isDirectory_eq_true_iff.mp
      ((houtcome.sameDirectories.isDirectory_eq location).trans (isDirectory_eq_true_iff.mpr hentry))
  · exact (houtcome.lookup_of_ne hpath htemporary).trans hentry

/-- A vault beside a file that has the name of its sibling. -/
def siblingTree : FileTree where
  entries := [(["db.json"], .file [1]), ([".db.json.tmp"], .file [2]), (["notes"], .file [3])]

theorem lookup_replaceFile_notes : siblingTree.lookup ["notes"] = some (.file [3])
    ∧ (siblingTree.replaceFile ⟨"db.json"⟩ [0] true).2.lookup ["notes"] = some (.file [3]) := by
  have hpath : siblingTree.locate? ⟨"db.json"⟩ ≠ some ["notes"] := by decide
  refine ⟨rfl, lookup_replaceFile rfl (Or.inr ⟨hpath, fun temporary htemporary => ?_⟩)⟩
  cases htemporary
  decide

/-- A file that already had the name of the sibling is lost. -/
theorem not_lookup_replaceFile_sibling : ¬ ∀ (tree : FileTree) (path : Path) (content : Bytes)
    (sync : Bool) (location : Location) (entry : Entry), tree.lookup location = some entry →
      tree.locate? path ≠ some location →
      (tree.replaceFile path content sync).2.lookup location = some entry := by
  intro h
  have hlost := h siblingTree ⟨"db.json"⟩ [0] false [".db.json.tmp"] (.file [2]) rfl (by decide)
  exact absurd hlost (by decide)

/-- **Replaced files** hold the new content. -/
theorem read_of_replaceFile {replaced : FileTree}
    (h : tree.replaceFile path content sync = (.ok (), replaced)) :
    replaced.read path = .ok content :=
  (outcome_of_replaceFile h).read_of_ok

end StructVault.FileTree
