import StructVault.Proofs.Files.Replace

/-!
# Runs of replacements

Files are replaced one after the other, by calls that succeed or fail. `Settled` says what holds
behind a single call: its own file is replaced or intact, the files of the other calls are as they
were (`Outcome.sameAt_of_spares`, `Outcome.sameAt_of_error`), and so is everything elsewhere, and no
file is left under the name of the sibling. Files are told by where they stand, and not only by what
a path leads to: a path with a slash behind the name of a file leads to nothing, and yet it names
that file (`SameAt`).

One call may ruin another one only through its sibling, which takes the place of whatever has that
name. `Apart` rules this out for the calls of a run, by the places their paths lead to and not by
their texts: there are many ways to write one path. No call touches a directory, so paths lead to
the same places all along the run (`sameDirectories_run`), and calls that are apart in the tree the
run starts from stay apart. Every call of a run is therefore settled (`settled_run`).
-/

namespace StructVault

open FileTree

/-! ## Calls -/

namespace FileTree

/-- The two paths do not lead to the same place. -/
def Elsewhere (tree : FileTree) (path other : Path) : Prop :=
  ∀ location ∈ tree.locate? path, tree.locate? other ≠ some location

instance (tree : FileTree) (path other : Path) : Decidable (tree.Elsewhere path other) :=
  inferInstanceAs (Decidable (∀ location ∈ tree.locate? path, tree.locate? other ≠ some location))

/-- To replace the file at `path` spares the one at `other`, which is neither that file nor the one
under the name of its sibling. -/
structure Spares (tree : FileTree) (path other : Path) : Prop where
  file : tree.Elsewhere path other
  sibling : ∀ temporary ∈ path.temporary?, tree.Elsewhere temporary other

instance (tree : FileTree) (path other : Path) : Decidable (tree.Spares path other) :=
  decidable_of_iff (tree.Elsewhere path other
      ∧ ∀ temporary ∈ path.temporary?, tree.Elsewhere temporary other)
    ⟨fun h => ⟨h.1, h.2⟩, fun h => ⟨h.file, h.sibling⟩⟩

variable {tree tree' : FileTree} {path other : Path}

theorem Elsewhere.of_sameDirectories (h : tree.Elsewhere path other)
    (hsame : SameDirectories tree tree') : tree'.Elsewhere path other := by
  unfold Elsewhere
  rw [locate?_of_sameDirectories hsame, locate?_of_sameDirectories hsame]
  exact h

theorem Spares.of_sameDirectories (h : tree.Spares path other)
    (hsame : SameDirectories tree tree') : tree'.Spares path other where
  file := h.file.of_sameDirectories hsame
  sibling temporary htemporary := (h.sibling temporary htemporary).of_sameDirectories hsame

/-- **Spared files** are untouched, however the try to replace the other one ends. -/
theorem Outcome.sameAt_of_spares {content : Bytes} {result : Except ReplaceFailure Unit}
    {left : FileTree} (h : Outcome tree path content result left) (hspares : tree.Spares path other)
    (hother : other.fileName? ≠ none) : SameAt tree left other := by
  obtain ⟨name, hname⟩ := Option.ne_none_iff_exists'.mp hother
  refine sameAt_of_lookup h.sameDirectories hname fun location hlocate => ?_
  -- the spared file stands under neither of the two names that are touched
  refine h.lookup_of_ne (fun hpath => hspares.file location hpath hlocate) ?_
  intro temporary htemporary hsibling
  exact hspares.sibling temporary htemporary location hsibling hlocate

/-- A try that fails touches no file but the sibling, not even one that it was to replace. -/
theorem Outcome.sameAt_of_error {content : Bytes} {error : ReplaceFailure} {left : FileTree}
    (h : Outcome tree path content (.error error) left)
    (hsibling : ∀ temporary ∈ path.temporary?, tree.Elsewhere temporary other)
    (hother : other.fileName? ≠ none) : SameAt tree left other := by
  obtain ⟨name, hname⟩ := Option.ne_none_iff_exists'.mp hother
  refine sameAt_of_lookup h.sameDirectories hname fun location hlocate => ?_
  refine h.lookup_of_error fun temporary htemporary hfound => ?_
  exact hsibling temporary htemporary location hfound hlocate

end FileTree

/-- A call to replace a file. -/
structure Replacing where
  path : Path
  content : Bytes
  sync : Bool := true
  deriving DecidableEq, Repr

namespace Replacing

/-- How the call ends, and the tree it leaves. -/
def perform (call : Replacing) (tree : FileTree) : Except ReplaceFailure Unit × FileTree :=
  tree.replaceFile call.path call.content call.sync

/-- The tree that is left after some calls. -/
def run : List Replacing → FileTree → FileTree
  | [], tree => tree
  | call :: rest, tree => run rest (call.perform tree).2

/-- No call replaces the file that is the sibling of another call. -/
def Apart (tree : FileTree) (calls : List Replacing) : Prop :=
  ∀ call ∈ calls, ∀ other ∈ calls, ∀ temporary ∈ call.path.temporary?,
    tree.Elsewhere temporary other.path

instance (tree : FileTree) (calls : List Replacing) : Decidable (Apart tree calls) :=
  inferInstanceAs (Decidable (∀ call ∈ calls, ∀ other ∈ calls,
    ∀ temporary ∈ call.path.temporary?, tree.Elsewhere temporary other.path))

/-- How a call that is one of some calls is done: it found `tree` and left `left`. -/
structure Settled (calls : List Replacing) (call : Replacing) (tree : FileTree)
    (result : Except ReplaceFailure Unit) (left : FileTree) : Prop where
  succeeds : result = .ok () ↔ tree.Replaceable call.path
  replaced : result = .ok () → left.read call.path = .ok call.content
  untouched : ∀ error, result = .error error → Intact tree left call.path
  -- another path may lead to the same file, which is untouched too if the call fails
  others_untouched : ∀ other ∈ calls, other.path.fileName? ≠ none →
    (tree.Elsewhere call.path other.path ∨ ∃ error, result = .error error) →
    SameAt tree left other.path
  elsewhere_untouched : ∀ location, tree.locate? call.path ≠ some location →
    (∀ temporary, call.path.temporary? = some temporary →
      tree.locate? temporary ≠ some location) → left.lookup location = tree.lookup location
  sibling_gone : ∀ temporary content, call.path.temporary? = some temporary →
    left.read temporary ≠ .ok content
  -- a path that names no file can only lead to a directory, so this is about those paths too
  directories_untouched : ∀ path location,
    left.entry? path = some (location, .directory) ↔ tree.entry? path = some (location, .directory)

variable {tree tree' : FileTree} {calls before after : List Replacing} {call : Replacing}

/-! ## One call -/

theorem sameDirectories_perform (call : Replacing) (tree : FileTree) :
    SameDirectories tree (call.perform tree).2 :=
  (outcome_replaceFile tree call.path call.content call.sync).sameDirectories

/-- Whether a call succeeds is decided by the tree it finds. -/
theorem perform_eq_ok_iff (call : Replacing) (tree : FileTree) :
    (call.perform tree).1 = .ok () ↔ tree.Replaceable call.path := by
  rw [← exists_replaceFile_eq_ok_iff]
  constructor
  · intro h
    exact ⟨(call.perform tree).2, Prod.ext h rfl⟩
  · rintro ⟨left, h⟩
    exact congrArg Prod.fst h

/-- A call that is apart from others is settled. -/
theorem settled_perform (hapart : Apart tree calls) (hcall : call ∈ calls) :
    Settled calls call tree (call.perform tree).1 (call.perform tree).2 := by
  have houtcome : Outcome tree call.path call.content (call.perform tree).1 (call.perform tree).2 :=
    outcome_replaceFile tree call.path call.content call.sync
  have hsame := sameDirectories_perform call tree
  have hsucceeds := perform_eq_ok_iff call tree
  generalize call.perform tree = ended at houtcome hsame hsucceeds ⊢
  obtain ⟨result, left⟩ := ended
  exact {
    succeeds := hsucceeds
    replaced := by
      rintro rfl
      exact houtcome.read_of_ok
    untouched := by
      rintro error rfl
      exact houtcome.intact_of_error
    others_untouched := by
      rintro other hother hname (helsewhere | ⟨error, rfl⟩)
      · exact houtcome.sameAt_of_spares ⟨helsewhere, hapart call hcall other hother⟩ hname
      · exact houtcome.sameAt_of_error (hapart call hcall other hother) hname
    elsewhere_untouched := fun _ => houtcome.lookup_of_ne
    sibling_gone := fun _ content htemporary => houtcome.read_temporary htemporary content
    directories_untouched := fun _ _ => ⟨entry?_directory_of_sameDirectories hsame.symm,
      entry?_directory_of_sameDirectories hsame⟩ }

/-! ## Runs -/

theorem sameDirectories_run (calls : List Replacing) :
    ∀ tree : FileTree, SameDirectories tree (run calls tree) := by
  induction calls with
  | nil =>
    intro tree
    exact ⟨rfl, fun _ => rfl⟩
  | cons call rest ih =>
    intro tree
    exact (sameDirectories_perform call tree).trans (ih (call.perform tree).2)

/-- Calls stay apart as long as no directory is made or removed. -/
theorem Apart.of_sameDirectories (hapart : Apart tree calls) (hsame : SameDirectories tree tree') :
    Apart tree' calls := by
  intro call hcall other hother temporary htemporary
  exact (hapart call hcall other hother temporary htemporary).of_sameDirectories hsame

/-- **Runs of replacements**: in a run of calls that are apart, each one is settled when it is its
turn, whether it fails or succeeds and however the earlier ones ended. -/
theorem settled_run (hapart : Apart tree (before ++ call :: after)) :
    Settled (before ++ call :: after) call (run before tree)
      (call.perform (run before tree)).1 (call.perform (run before tree)).2 := by
  have hcall : call ∈ before ++ call :: after :=
    List.mem_append_right _ (List.mem_cons_self)
  exact settled_perform (hapart.of_sameDirectories (sameDirectories_run before tree)) hcall

/-- A vault and a directory that stands under a name files are replaced by. -/
def crowdedTree : FileTree where
  entries := [(["a.json"], .file [1]), (["b.json"], .file [2]), ([".b.json.tmp"], .directory),
    (["sub"], .directory)]

/-- One file is replaced twice, one cannot be, one path is not a file's, and one has a slash behind
the name of a file. -/
def crowdedCalls : List Replacing :=
  [⟨⟨"a.json"⟩, [7], true⟩, ⟨⟨"sub/.."⟩, [7], true⟩, ⟨⟨"sub/../b.json"⟩, [8], true⟩,
    ⟨⟨"./a.json"⟩, [9], false⟩, ⟨⟨"a.json/"⟩, [6], true⟩]

/-- The file behind `a.json/` is kept, although that path leads to nothing. -/
theorem settled_run_crowdedTree : Apart crowdedTree crowdedCalls
    ∧ Settled crowdedCalls ⟨⟨"sub/../b.json"⟩, [8], true⟩ (run (crowdedCalls.take 2) crowdedTree)
      (.error (.refused .isDirectory)) (run (crowdedCalls.take 3) crowdedTree)
    ∧ Settled crowdedCalls ⟨⟨"a.json/"⟩, [6], true⟩ (run (crowdedCalls.take 4) crowdedTree)
      (.error (.refused .notDirectory)) (run crowdedCalls crowdedTree)
    ∧ crowdedTree.entry? ⟨"a.json/"⟩ = none
    ∧ (run crowdedCalls crowdedTree).lookup ["a.json"] = some (.file [9]) := by
  have hapart : Apart crowdedTree crowdedCalls := by decide
  have hslash := @settled_run crowdedTree (crowdedCalls.take 4) [] ⟨⟨"a.json/"⟩, [6], true⟩ hapart
  exact ⟨hapart, @settled_run crowdedTree (crowdedCalls.take 2) (crowdedCalls.drop 3) _ hapart,
    hslash, rfl, (hslash.untouched _ rfl).located ["a.json"] rfl⟩

end Replacing

end StructVault
