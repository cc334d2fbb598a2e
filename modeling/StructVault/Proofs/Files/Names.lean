import Mathlib.Data.List.TakeWhile
import StructVault.Files.Path

/-!
# The name of a path

A path that names a file is cut in two: the name, and the text in front of it. From that text the
paths of the hidden sibling and of the parent are made. The cuts treat slashes and single dots in
different ways, so the steps of the three paths differ, but not the steps that lead somewhere else
(`Path.moves`): `steps_sibling` and `steps_parent` say how they hang together.

`Names` lists what it means that a path names a file.
-/

namespace StructVault

namespace Path

variable {path : Path} {name : String} {before : List String}

/-! ## The name of a path -/

/-- The steps that parts stand for. -/
def stepsOf (parts : List (List Char)) : List String :=
  (parts.filter (!·.isEmpty)).map String.ofList

/-- The steps of a path that lead somewhere else. -/
def moves (path : Path) : List String := path.steps.filter (· != ".")

theorem ofList_eq_dot_iff {part : List Char} : String.ofList part = "." ↔ part = ['.'] := by
  rw [← String.toList_inj, String.toList_ofList]
  rfl

theorem filter_stepsOf (parts : List (List Char)) :
    (stepsOf parts).filter (· != ".") = (parts.filter (!stays ·)).map String.ofList := by
  have hstays (part : List Char) :
      ((String.ofList part != ".") && !part.isEmpty) = !stays part := by
    have hdot : (String.ofList part == ".") = (part == ['.']) := by
      rw [Bool.eq_iff_iff, beq_iff_eq, beq_iff_eq, ofList_eq_dot_iff]
    simp [stays, bne, hdot, Bool.and_comm]
  unfold stepsOf
  rw [List.filter_map, List.filter_filter]
  exact congrArg _ (List.filter_congr fun part _ => hstays part)

theorem stays_eq_false_iff {part : List Char} : stays part = false ↔ part ≠ [] ∧ part ≠ ['.'] := by
  simp [stays]

/-- Looked at from the end, the first step that is no single dot is found behind what stays. -/
theorem dropWhile_stays {parts : List (List Char)} (h : stepsOf parts = name :: before)
    (hdot : name ≠ ".") : ∃ rest, parts.dropWhile stays = name.toList :: rest := by
  induction parts with
  | nil => cases h
  | cons part parts ih =>
    by_cases hempty : part = []
    · subst hempty
      exact ih h
    · have hsplit : stepsOf (part :: parts) = String.ofList part :: stepsOf parts := by
        simp [stepsOf, hempty]
      obtain ⟨rfl, -⟩ := List.cons.inj (hsplit.symm.trans h)
      have hstays : stays part = false :=
        stays_eq_false_iff.mpr ⟨hempty, fun hpart => hdot (ofList_eq_dot_iff.mpr hpart)⟩
      refine ⟨parts, ?_⟩
      rw [List.dropWhile_cons_of_neg (by simp [hstays]), String.toList_ofList]

theorem steps_eq_stepsOf (path : Path) : path.steps = stepsOf path.parts := rfl

theorem stepsOf_reverse (parts : List (List Char)) :
    stepsOf parts.reverse = (stepsOf parts).reverse := by
  simp [stepsOf, List.filter_reverse]

/-- A path that ends in a name, names the file of that name. -/
theorem fileName?_of_steps (h : path.steps = before ++ [name]) (hdot : name ≠ ".")
    (hdots : name ≠ "..") : path.fileName? = some name := by
  have hreverse : stepsOf path.parts.reverse = name :: before.reverse := by
    rw [stepsOf_reverse, ← steps_eq_stepsOf, h, List.reverse_append]
    rfl
  obtain ⟨rest, hrest⟩ := dropWhile_stays hreverse hdot
  have hname : ¬ name.toList = ['.', '.'] := fun hname =>
    hdots (String.toList_inj.mp hname)
  unfold fileName? partsFromEnd
  rw [hrest]
  simp [hname]

/-- What it means that a path names a file: behind the name there are single dots at most, and in
front of it the parts in `rest`, last one first. -/
structure Names (path : Path) (name : String) (rest : List (List Char)) (dots : List String) :
    Prop where
  partsFromEnd_eq : path.partsFromEnd = name.toList :: rest
  steps_eq : path.steps = (stepsOf rest).reverse ++ name :: dots
  eq_dot : ∀ dot ∈ dots, dot = "."
  ne_empty : name ≠ ""
  ne_dot : name ≠ "."
  ne_dots : name ≠ ".."
  no_slash : '/' ∉ name.toList
  subset_parts : ∀ part ∈ rest, part ∈ path.parts

/-- The parts of a path are those it keeps, a last one that leads somewhere, and what stays. -/
theorem parts_of_partsFromEnd {last : List Char} {rest : List (List Char)}
    (h : path.partsFromEnd = last :: rest) : ∃ dropped,
      path.parts = rest.reverse ++ last :: dropped ∧ (∀ part ∈ dropped, stays part = true)
        ∧ stays last = false := by
  have hparts : path.parts.reverse = path.parts.reverse.takeWhile stays ++ last :: rest := by
    rw [← h]
    exact List.takeWhile_append_dropWhile.symm
  refine ⟨(path.parts.reverse.takeWhile stays).reverse, ?_, fun part hpart => ?_, ?_⟩
  · have hcut := List.reverse_eq_iff.mp hparts
    rw [List.reverse_append, List.reverse_cons, List.append_assoc] at hcut
    exact hcut
  · exact List.mem_takeWhile_imp (List.mem_reverse.mp hpart)
  · have hhead := List.head?_dropWhile_not stays path.parts.reverse
    rw [show path.parts.reverse.dropWhile stays = last :: rest from h] at hhead
    exact hhead

theorem names_of_fileName? (h : path.fileName? = some name) :
    ∃ rest dots, Names path name rest dots := by
  unfold fileName? at h
  split at h
  · cases h
  · next last rest hparts =>
    split at h
    · cases h
    · next hdots =>
      cases h
      obtain ⟨dropped, hcut, hdropped, hstays⟩ := parts_of_partsFromEnd hparts
      obtain ⟨hempty, hdot⟩ := stays_eq_false_iff.mp hstays
      refine ⟨rest, stepsOf dropped, ?_⟩
      exact {
        partsFromEnd_eq := by rw [hparts, String.toList_ofList]
        steps_eq := by
          rw [steps_eq_stepsOf, hcut, ← stepsOf_reverse]
          simp [stepsOf, hempty]
        eq_dot := by
          intro dot hmem
          obtain ⟨part, hpart, rfl⟩ := List.mem_map.mp hmem
          obtain ⟨hpart, hnamed⟩ := List.mem_filter.mp hpart
          have hstay := hdropped part hpart
          simpa [stays, show part ≠ [] by simpa using hnamed, ofList_eq_dot_iff] using hstay
        ne_empty := fun heq => hempty (by simpa using congrArg String.toList heq)
        ne_dot := fun heq => hdot (ofList_eq_dot_iff.mp heq)
        ne_dots := fun heq => hdots (by simpa using congrArg String.toList heq)
        no_slash := by
          rw [String.toList_ofList]
          have hpart : last ∈ Text.splitAt '/' path.text.toList := by
            show last ∈ path.parts
            simp [hcut]
          exact Text.not_mem_of_mem_splitAt hpart
        subset_parts := by
          intro part hpart
          rw [hcut]
          simp [hpart] }

/-! ## The text in front of the name -/

variable {rest : List (List Char)} {dots : List String}

/-- The parts that lead somewhere else are the same in front of the name and in the text made of
what is there. -/
theorem filter_textBeforeName (h : Names path name rest dots) :
    (Text.splitAt '/' path.textBeforeName).filter (!stays ·) = rest.reverse.filter (!stays ·) := by
  unfold textBeforeName
  rw [h.partsFromEnd_eq, List.tail_cons, List.filter_reverse]
  cases hrest : rest.dropWhile stays with
  | nil =>
    have hnone : rest.filter (!stays ·) = [] := by
      simpa using List.dropWhile_eq_nil_iff.mp hrest
    rw [hnone]
    show (Text.splitAt '/' (if _ then _ else if _ then _ else _)).filter _ = _
    split
    · rfl
    · split <;> rfl
  | cons part parts =>
    have hsplit : rest = rest.takeWhile stays ++ part :: parts := by
      rw [← hrest]
      exact List.takeWhile_append_dropWhile.symm
    have hdropped : (rest.takeWhile stays).filter (!stays ·) = [] := by
      simpa using fun other hother => List.mem_takeWhile_imp hother
    have hslash : ∀ other ∈ (part :: parts).reverse, '/' ∉ other := fun other hother => by
      have hpart : other ∈ Text.splitAt '/' path.text.toList := by
        refine h.subset_parts other ?_
        rw [hsplit]
        exact List.mem_append_right _ (List.mem_reverse.mp hother)
      exact Text.not_mem_of_mem_splitAt hpart
    have hkept : rest.filter (!stays ·) = (part :: parts).filter (!stays ·) := by
      rw [hsplit, List.filter_append, hdropped, List.nil_append]
    show (Text.splitAt '/' (['/'].intercalate (part :: parts).reverse)).filter _ = _
    rw [Text.splitAt_intercalate (by simp) hslash, List.filter_reverse, hkept]

/-- The text in front of the name is cut from the path, not written anew. -/
theorem textBeforeName_prefix (h : Names path name rest dots) :
    path.textBeforeName <+: path.text.toList := by
  unfold textBeforeName
  rw [h.partsFromEnd_eq, List.tail_cons]
  obtain ⟨dropped, hcut, -, -⟩ := parts_of_partsFromEnd h.partsFromEnd_eq
  have htext : ['/'].intercalate path.parts = path.text.toList := Text.intercalate_splitAt _ _
  cases hrest : rest.dropWhile stays with
  | nil =>
    show (if _ then _ else if _ then _ else _) <+: _
    split
    · next habsolute =>
      rw [isAbsolute, beq_iff_eq, List.head?_eq_some_iff] at habsolute
      obtain ⟨more, hmore⟩ := habsolute
      exact ⟨more, hmore.symm⟩
    · split
      · next hdot =>
        rw [beq_iff_eq, List.head?_eq_some_iff] at hdot
        obtain ⟨more, hmore⟩ := hdot
        rw [← htext, hmore]
        cases more with
        | nil => exact ⟨[], by simp [List.intercalate]⟩
        | cons next more =>
          rw [List.intercalate_cons_of_ne_nil (List.cons_ne_nil next more), List.append_assoc]
          exact List.prefix_append _ _
      · exact List.nil_prefix
  | cons part parts =>
    have hsplit : rest.reverse
        = (part :: parts).reverse ++ (rest.takeWhile stays).reverse := by
      rw [← hrest, ← List.reverse_append, List.takeWhile_append_dropWhile]
    show ['/'].intercalate (part :: parts).reverse <+: _
    rw [← htext, hcut, hsplit, List.append_assoc,
      Text.intercalate_append '/' (by simp) (by simp)]
    exact List.prefix_append _ _

theorem isAbsolute_iff_textBeforeName (h : Names path name rest dots) :
    path.isAbsolute = (path.textBeforeName.head? == some '/') := by
  obtain ⟨more, hmore⟩ := textBeforeName_prefix h
  cases hbefore : path.textBeforeName with
  | cons c cs =>
    unfold isAbsolute
    rw [← hmore, hbefore]
    rfl
  | nil =>
    -- with nothing in front of the name all parts there stay, and the root would be kept
    have hnone := filter_textBeforeName h
    rw [hbefore, List.filter_reverse] at hnone
    have hstay : rest.dropWhile stays = [] := by
      rw [List.dropWhile_eq_nil_iff]
      simpa [Text.splitAt, stays, or_iff_not_imp_left] using hnone
    unfold textBeforeName at hbefore
    rw [h.partsFromEnd_eq, List.tail_cons, hstay] at hbefore
    cases habsolute : path.isAbsolute with
    | false => rfl
    | true =>
      rw [habsolute] at hbefore
      cases hbefore

/-! ## The sibling and the parent -/

/-- A sibling is reached by the moves in front of the name, and its own name behind them. -/
theorem steps_sibling (h : Names path name rest dots) {other : String} (hslash : '/' ∉ other.toList)
    (hempty : other ≠ "") : ∃ front, (path.sibling other).steps = front ++ [other]
      ∧ front.filter (· != ".") = (stepsOf rest).reverse.filter (· != ".") := by
  have hother : other.toList ≠ [] := fun hnil => hempty (String.toList_eq_nil_iff.mp hnil)
  have hlast : stepsOf [other.toList] = [other] := by
    simp [stepsOf, hother]
  -- what is in front of the last slash is the text before the name, or nothing worth a move
  obtain ⟨parts, hparts, hmoves⟩ : ∃ parts, (path.sibling other).parts = parts ++ [other.toList]
      ∧ parts.filter (!stays ·) = rest.reverse.filter (!stays ·) := by
    rw [← filter_textBeforeName h]
    unfold sibling parts
    simp only [String.toList_ofList]
    by_cases hnone : path.textBeforeName = []
    · refine ⟨[], ?_, ?_⟩
      · simp [hnone, Text.splitAt_of_not_mem hslash]
      · rw [hnone]
        rfl
    · by_cases hroot : path.textBeforeName = ['/']
      · refine ⟨[[]], ?_, ?_⟩
        · simp [hroot, Text.splitAt, Text.splitAt_of_not_mem hslash]
        · rw [hroot]
          rfl
      · refine ⟨Text.splitAt '/' path.textBeforeName, ?_, rfl⟩
        simp [hnone, hroot, Text.splitAt_append_separator, Text.splitAt_of_not_mem hslash]
  refine ⟨stepsOf parts, ?_, ?_⟩
  · rw [steps_eq_stepsOf, hparts, ← hlast]
    simp [stepsOf]
  · rw [filter_stepsOf, hmoves, ← filter_stepsOf, stepsOf_reverse]

theorem isAbsolute_sibling (h : Names path name rest dots) {other : String}
    (hslash : '/' ∉ other.toList) : (path.sibling other).isAbsolute = path.isAbsolute := by
  rw [isAbsolute_iff_textBeforeName h]
  unfold sibling isAbsolute
  simp only [String.toList_ofList]
  cases hbefore : path.textBeforeName with
  | cons c cs => rfl
  | nil =>
    cases hother : other.toList with
    | nil => rfl
    | cons c cs =>
      rw [hother] at hslash
      have hne : c ≠ '/' := fun heq => hslash (heq ▸ List.mem_cons_self)
      simp [hne]

theorem endsInSlash_sibling (path : Path) {other : String} (hslash : '/' ∉ other.toList)
    (hempty : other ≠ "") : (path.sibling other).endsInSlash = false := by
  have hother : other.toList ≠ [] := fun hnil => hempty (String.toList_eq_nil_iff.mp hnil)
  unfold sibling endsInSlash
  rw [String.toList_ofList, List.getLast?_append, List.getLast?_eq_some_getLast hother,
    Option.some_or, beq_eq_false_iff_ne]
  intro hlast
  exact hslash (Option.some.inj hlast ▸ List.getLast_mem hother)

theorem steps_parent (h : Names path name rest dots) :
    path.parent.moves = (stepsOf rest).reverse.filter (· != ".") := by
  unfold moves
  rw [steps_eq_stepsOf, filter_stepsOf, ← stepsOf_reverse, filter_stepsOf,
    ← filter_textBeforeName h]
  unfold parent parts
  split
  · next hnone =>
    rw [hnone]
    rfl
  · rw [String.toList_ofList]

theorem isAbsolute_parent (h : Names path name rest dots) :
    path.parent.isAbsolute = path.isAbsolute := by
  rw [isAbsolute_iff_textBeforeName h]
  unfold parent
  split
  · next hnone =>
    rw [hnone]
    rfl
  · unfold isAbsolute
    rw [String.toList_ofList]

/-- The name of the hidden sibling of a file. -/
def hiddenName (name : String) : String := "." ++ name ++ ".tmp"

theorem temporary?_eq_some {temporary : Path} : path.temporary? = some temporary ↔
    ∃ name, path.fileName? = some name ∧ temporary = path.sibling (hiddenName name) := by
  unfold temporary?
  rw [Option.map_eq_some_iff]
  exact exists_congr fun name => and_congr_right fun _ => eq_comm

theorem toList_hiddenName (name : String) :
    (hiddenName name).toList = '.' :: (name.toList ++ ['.', 't', 'm', 'p']) := by
  unfold hiddenName
  rw [String.toList_append, String.toList_append]
  rfl

theorem utf8ByteSize_hiddenName (name : String) :
    (hiddenName name).utf8ByteSize = name.utf8ByteSize + 5 := by
  unfold hiddenName
  rw [String.utf8ByteSize_append, String.utf8ByteSize_append]
  have hdot : ".".utf8ByteSize = 1 := rfl
  have hend : ".tmp".utf8ByteSize = 4 := rfl
  omega

/-- A file and its sibling have different names. -/
theorem hiddenName_ne (name : String) : hiddenName name ≠ name := fun heq => by
  have hsize := congrArg String.utf8ByteSize heq
  rw [utf8ByteSize_hiddenName] at hsize
  omega

theorem no_slash_hiddenName (h : '/' ∉ name.toList) : '/' ∉ (hiddenName name).toList := by
  rw [toList_hiddenName]
  simp [h]

theorem hiddenName_ne_empty (name : String) : hiddenName name ≠ "" := fun heq => by
  have hsize := congrArg String.utf8ByteSize heq
  rw [utf8ByteSize_hiddenName] at hsize
  cases hsize

theorem hiddenName_ne_dot (name : String) : hiddenName name ≠ "." := fun heq => by
  have hsize : (hiddenName name).utf8ByteSize = 1 := congrArg String.utf8ByteSize heq
  rw [utf8ByteSize_hiddenName] at hsize
  omega

theorem hiddenName_ne_dots (name : String) : hiddenName name ≠ ".." := fun heq => by
  have hsize : (hiddenName name).utf8ByteSize = 2 := congrArg String.utf8ByteSize heq
  rw [utf8ByteSize_hiddenName] at hsize
  omega

/-- The path of a sibling ends in the name of the sibling. -/
theorem fileName?_hidden (h : path.fileName? = some name) :
    (path.sibling (hiddenName name)).fileName? = some (hiddenName name) := by
  obtain ⟨rest, dots, hnames⟩ := names_of_fileName? h
  obtain ⟨front, hsteps, -⟩ := steps_sibling hnames (no_slash_hiddenName hnames.no_slash)
    (hiddenName_ne_empty name)
  exact fileName?_of_steps hsteps (hiddenName_ne_dot name) (hiddenName_ne_dots name)

end Path

end StructVault
