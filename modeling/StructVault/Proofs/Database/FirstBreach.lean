import StructVault.Proofs.Database.Validity

/-!
# The breach that is reported

A list that breaks the rule of the host is refused with the breach that comes first in the order of
the scan (`Database.ofStored_decides`): structures in their order, and of one structure its own name
before the names of its members.

`Breach.At` says what a breach states about a structure and the names in front of it, without the
scan; `Breach.First` adds that nothing before it breaks the rule. Both scans are cut at the place
where they stop: up to there they find nothing (`firstRepeated_eq_some_iff`,
`firstBreachAfter_eq_some_iff`), and how they behave behind a part without breaches is a matter of
the names seen in it (`firstRepeated_append`, `firstBreachAfter_append`).
-/

namespace StructVault

/-! ## Statements -/

/-- What a breach states about a structure, given the names of the structures in front of it. -/
def Breach.At (names : List String) (stored : StoredStructure) : Breach → Prop
  | emptyName => stored.name = ""
  | duplicateStructure name => stored.name = name ∧ name ≠ "" ∧ name ∈ names
  | duplicateMember member struct => stored.name = struct ∧ struct ≠ "" ∧ struct ∉ names
      ∧ ∃ front back, stored.members.map (·.name) = front ++ member :: back
        ∧ member ∈ front ∧ front.Nodup

/-- **The first breach** of a list: the structures in front of the one it is about are valid. -/
def Breach.First (structures : List StoredStructure) (breach : Breach) : Prop :=
  ∃ before stored after, structures = before ++ stored :: after ∧ Valid before
    ∧ breach.At (before.map (·.name)) stored

theorem Breach.At.congr {names names' : List String} (h : ∀ name, name ∈ names ↔ name ∈ names')
    {stored : StoredStructure} {breach : Breach} : breach.At names stored ↔ breach.At names' stored := by
  cases breach with
  | emptyName => exact Iff.rfl
  | duplicateStructure name => simp only [Breach.At, h]
  | duplicateMember member struct => simp only [Breach.At, h]

/-! ## Repeated names -/

/-- Behind names that are not repeated, the scan goes on with these names seen. -/
theorem firstRepeated_append {seen front : List String} (back : List String)
    (h : firstRepeated seen front = none) :
    firstRepeated seen (front ++ back) = firstRepeated (front.reverse ++ seen) back := by
  induction front generalizing seen with
  | nil => rfl
  | cons name front ih =>
    unfold firstRepeated at h
    split at h
    · cases h
    · next hfresh =>
      rw [List.cons_append, firstRepeated, if_neg hfresh, ih h, List.reverse_cons,
        List.append_assoc, List.singleton_append]

theorem firstRepeated_cons_of_mem {seen : List String} {name : String} (rest : List String)
    (h : name ∈ seen) : firstRepeated seen (name :: rest) = some name := by
  rw [firstRepeated, if_pos (List.contains_iff_mem.mpr h)]

/-- The scan stops at the first name that occurred before. -/
theorem firstRepeated_eq_some_iff {seen names : List String} {name : String} :
    firstRepeated seen names = some name ↔ ∃ front back, names = front ++ name :: back
      ∧ firstRepeated seen front = none ∧ (name ∈ front ∨ name ∈ seen) := by
  constructor
  · intro h
    induction names generalizing seen with
    | nil => cases h
    | cons first rest ih =>
      unfold firstRepeated at h
      split at h
      · next hseen =>
        cases h
        exact ⟨[], rest, rfl, rfl, Or.inr (List.contains_iff_mem.mp hseen)⟩
      · next hfresh =>
        obtain ⟨front, back, rfl, hnone, hname⟩ := ih h
        refine ⟨first :: front, back, rfl, ?_, ?_⟩
        · rw [firstRepeated, if_neg hfresh, hnone]
        · rcases hname with hfront | hseen
          · exact Or.inl (List.mem_cons_of_mem _ hfront)
          · rcases List.mem_cons.mp hseen with rfl | hseen
            · exact Or.inl List.mem_cons_self
            · exact Or.inr hseen
  · rintro ⟨front, back, rfl, hnone, hname⟩
    have hseen : name ∈ front.reverse ++ seen := by
      simpa using hname
    rw [firstRepeated_append _ hnone, firstRepeated_cons_of_mem back hseen]

/-! ## One structure -/

variable {seen : List String} {stored : StoredStructure} {breach : Breach}

theorem firstRepeated_members_eq_some_iff {names : List String} {member : String} :
    firstRepeated [] names = some member ↔
      ∃ front back, names = front ++ member :: back ∧ member ∈ front ∧ front.Nodup := by
  rw [firstRepeated_eq_some_iff]
  simp only [firstRepeated_eq_none_iff, List.not_mem_nil, not_false_eq_true, implies_true, true_and,
    or_false, and_comm]

/-- A structure on its own meets just the breach that is stated about it. -/
theorem firstBreachAfter_singleton :
    firstBreachAfter seen [stored] = some breach ↔ breach.At seen stored := by
  constructor
  · intro h
    unfold firstBreachAfter at h
    split at h
    · next hempty =>
      cases h
      exact String.isEmpty_iff.mp hempty
    · next hnamed =>
      have hnamed : stored.name ≠ "" := fun hempty => hnamed (String.isEmpty_iff.mpr hempty)
      split at h
      · next hseen =>
        cases h
        exact ⟨rfl, hnamed, List.contains_iff_mem.mp hseen⟩
      · next hfresh =>
        have hfresh : stored.name ∉ seen := fun hseen => hfresh (List.contains_iff_mem.mpr hseen)
        split at h
        · next member hrepeated =>
          cases h
          exact ⟨rfl, hnamed, hfresh, firstRepeated_members_eq_some_iff.mp hrepeated⟩
        · cases h
  · intro h
    unfold firstBreachAfter
    cases breach with
    | emptyName => rw [if_pos (String.isEmpty_iff.mpr h)]
    | duplicateStructure name =>
      obtain ⟨rfl, hnamed, hseen⟩ := h
      rw [if_neg (fun hempty => hnamed (String.isEmpty_iff.mp hempty)),
        if_pos (List.contains_iff_mem.mpr hseen)]
    | duplicateMember member struct =>
      obtain ⟨rfl, hnamed, hfresh, hrepeated⟩ := h
      rw [if_neg (fun hempty => hnamed (String.isEmpty_iff.mp hempty)),
        if_neg (fun hseen => hfresh (List.contains_iff_mem.mp hseen)),
        firstRepeated_members_eq_some_iff.mpr hrepeated]

/-! ## Lists of structures -/

/-- What the scan finds in a structure, it reports; otherwise it goes on with the name seen. -/
theorem firstBreachAfter_cons (rest : List StoredStructure) : firstBreachAfter seen (stored :: rest)
    = (firstBreachAfter seen [stored]).or (firstBreachAfter (stored.name :: seen) rest) := by
  simp only [firstBreachAfter]
  by_cases hempty : stored.name.isEmpty = true
  · rw [if_pos hempty, if_pos hempty]
    rfl
  · rw [if_neg hempty, if_neg hempty]
    by_cases hseen : seen.contains stored.name = true
    · rw [if_pos hseen, if_pos hseen]
      rfl
    · rw [if_neg hseen, if_neg hseen]
      cases firstRepeated [] (stored.members.map (·.name)) with
      | none => rfl
      | some member => rfl

/-- Behind structures without a breach, the scan goes on with their names seen. -/
theorem firstBreachAfter_append {before : List StoredStructure} (after : List StoredStructure)
    (h : firstBreachAfter seen before = none) : firstBreachAfter seen (before ++ after)
      = firstBreachAfter ((before.map (·.name)).reverse ++ seen) after := by
  induction before generalizing seen with
  | nil => rfl
  | cons first before ih =>
    rw [firstBreachAfter_cons, Option.or_eq_none_iff] at h
    rw [List.cons_append, firstBreachAfter_cons, h.1, Option.none_or, ih h.2, List.map_cons,
      List.reverse_cons, List.append_assoc, List.singleton_append]

/-- The scan stops at the first structure it finds a breach in. -/
theorem firstBreachAfter_eq_some_iff {structures : List StoredStructure} :
    firstBreachAfter seen structures = some breach ↔ ∃ before stored after,
      structures = before ++ stored :: after ∧ firstBreachAfter seen before = none
        ∧ breach.At ((before.map (·.name)).reverse ++ seen) stored := by
  constructor
  · intro h
    induction structures generalizing seen with
    | nil => cases h
    | cons first rest ih =>
      rw [firstBreachAfter_cons] at h
      cases hfirst : firstBreachAfter seen [first] with
      | some found =>
        rw [hfirst] at h
        cases h
        exact ⟨[], first, rest, rfl, rfl, firstBreachAfter_singleton.mp hfirst⟩
      | none =>
        rw [hfirst, Option.none_or] at h
        obtain ⟨before, stored, after, rfl, hnone, hat⟩ := ih h
        refine ⟨first :: before, stored, after, rfl, ?_, ?_⟩
        · rw [firstBreachAfter_cons, hfirst, hnone]
          rfl
        · rw [List.map_cons, List.reverse_cons, List.append_assoc, List.singleton_append]
          exact hat
  · rintro ⟨before, stored, after, rfl, hnone, hat⟩
    rw [firstBreachAfter_append _ hnone, firstBreachAfter_cons, firstBreachAfter_singleton.mpr hat,
      Option.some_or]

theorem firstBreach_eq_some_iff {structures : List StoredStructure} :
    firstBreach structures = some breach ↔ breach.First structures := by
  have hnames : ∀ (before : List StoredStructure) (name : String),
      name ∈ (before.map (·.name)).reverse ++ [] ↔ name ∈ before.map (·.name) := by
    intro before name
    rw [List.append_nil, List.mem_reverse]
  unfold firstBreach
  rw [firstBreachAfter_eq_some_iff]
  constructor
  · rintro ⟨before, stored, after, rfl, hnone, hat⟩
    exact ⟨before, stored, after, rfl, firstBreach_eq_none_iff.mp hnone,
      (Breach.At.congr (hnames before)).mp hat⟩
  · rintro ⟨before, stored, after, rfl, hvalid, hat⟩
    exact ⟨before, stored, after, rfl, firstBreach_eq_none_iff.mpr hvalid,
      (Breach.At.congr (hnames before)).mpr hat⟩

/-! ## Databases -/

theorem ofStored_eq_error {structures : List StoredStructure} {error : Database.Error} :
    Database.ofStored structures = .error error ↔
      ∃ breach : Breach, error = .rejected (.breach breach) ∧ breach.First structures := by
  simp only [← firstBreach_eq_some_iff]
  unfold Database.ofStored
  cases firstBreach structures with
  | none => simp
  | some found =>
    constructor
    · intro h
      cases h
      exact ⟨found, rfl, rfl⟩
    · rintro ⟨breach, rfl, h⟩
      cases h
      rfl

/-- **Validation decides the rule of the host and reports the first breach.** A database is made of
a list exactly when the list is valid, and refused with a breach exactly when this is the first one
in the order of the scan. What happens to a list of structures, from which a database is to be made
or which is to replace the one a host has, is what happens to the stored structures it is laid out
to. -/
theorem Database.ofStored_decides (structures : List StoredStructure) :
    (∀ made, ofStored structures = .ok made ↔ Valid structures ∧ made = { structures })
    ∧ (∀ error, ofStored structures = .error error ↔
      ∃ breach : Breach, error = .rejected (.breach breach) ∧ breach.First structures)
    ∧ ∀ (descriptors : List Structure) (database : Database),
      (∀ made, ofStructures descriptors = .ok made ↔
        ofStored (descriptors.map StoredStructure.layOut) = .ok made)
      ∧ (∀ host, Access.replaceStructures descriptors { database } = .ok () host ↔
        ∃ made, ofStored (descriptors.map StoredStructure.layOut) = .ok made
          ∧ host = { database := made })
      ∧ ∀ error host, Access.replaceStructures descriptors { database } = .error error host ↔
        ofStored (descriptors.map StoredStructure.layOut) = .error error ∧ host = { database } := by
  refine ⟨fun made => ofStored_eq_ok, fun error => ofStored_eq_error, ?_⟩
  intro descriptors database
  refine ⟨fun made => Iff.rfl, ?_⟩
  rw [Access.replaceStructures_apply]
  show (∀ host, _ ↔ ∃ made, ofStructures descriptors = .ok made ∧ _)
    ∧ ∀ error host, _ ↔ ofStructures descriptors = .error error ∧ _
  cases ofStructures descriptors with
  | error refusal => simp [eq_comm]
  | ok replaced => simp [eq_comm]

/-- Of a repeated member, a repeated structure behind it and an empty name behind both, the member
is reported. -/
example : firstBreach [
    { name := "s", size := 8 },
    { name := "t", size := 8, members := [
      { offset := 0, name := "x", size := 4 }, { offset := 4, name := "x", size := 4 }] },
    { name := "s", size := 0 }, { name := "", size := 0 }] = some (.duplicateMember "x" "t") := by
  decide

end StructVault
