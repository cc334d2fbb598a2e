import Mathlib.Tactic.ByContra
import StructVault.Proofs.Text.Marks
import StructVault.Report.Listing

/-!
# The listing is unambiguous

A listing with members can be read back, although nothing says where a name ends but what stands
behind it: as long as no name holds the mark that closes it and no text is broken, each line is
closed by its break, and each field of a line by the mark behind it. The number of members that the
line of a structure states tells the lines of its members from the structures that follow. So equal
listings come from equal lists (`listing_unambiguous`).
-/

namespace StructVault.Report

open Text

/-! ## Lines as characters -/

/-- The noun behind a number of members. -/
def memberNoun (count : Nat) : List Char :=
  (if count = 1 then "member" else "members").toList

/-- A comment behind a line, without the end of the line. -/
def commentTail (comment : String) : List Char :=
  if comment.isEmpty then [] else " // ".toList ++ comment.toList

theorem toList_commentEnd (comment : String) :
    (commentEnd comment).toList = commentTail comment ++ ['\n'] := by
  unfold commentEnd commentTail
  split
  · rfl
  · simp

theorem toList_memberLine_append (member : Member) (rest : List Char) :
    (memberLine member).toList ++ rest = "  ".toList ++ (member.name.toList ++ ([':', ' ']
      ++ (member.typeName.toList ++ ([' ', '['] ++ (Nat.toDigits 10 member.size.toNat ++ ([' ']
      ++ ("bytes]".toList ++ (commentTail member.comment ++ (['\n'] ++ rest))))))))) := by
  simp [memberLine, sizeText, toList_commentEnd]

theorem toList_structureLine_append (struct : Structure) (rest : List Char) :
    (structureLine struct).toList ++ rest = struct.name.toList ++ ([' ', '[']
      ++ (Nat.toDigits 10 struct.size.toNat ++ ([' '] ++ ("bytes] ".toList
      ++ (Nat.toDigits 10 struct.members.length ++ ([' '] ++ (memberNoun struct.members.length
      ++ (commentTail struct.comment ++ (['\n'] ++ rest))))))))) := by
  simp [structureLine, sizeText, toList_commentEnd, memberNoun]

/-- The characters of a structure's lines are those of its own line and of its members' lines. -/
theorem flatMap_structureLines (struct : Structure) :
    (structureLines true struct).flatMap String.toList = (structureLine struct).toList
      ++ struct.members.flatMap fun member => (memberLine member).toList := by
  simp [structureLines, List.flatMap_map]

theorem listing_eq_join {structures : List Structure} (h : structures ≠ []) (showMembers : Bool) :
    listing structures showMembers
      = String.join (structures.flatMap (structureLines showMembers)) := by
  unfold listing
  rw [if_neg (by simpa using h)]

theorem toList_listing {structures : List Structure} (h : structures ≠ []) (showMembers : Bool) :
    (listing structures showMembers).toList
      = structures.flatMap fun struct => (structureLines showMembers struct).flatMap String.toList := by
  rw [listing_eq_join h, String.toList_join, List.flatMap_assoc]

/-! ## Fields of a line -/

/-- The texts of a member. -/
def memberTexts (member : Member) : List String := [member.name, member.typeName, member.comment]

/-- The texts of a structure apart from its members. -/
def headTexts (struct : Structure) : List String := [struct.name, struct.comment]

/-- No text of the member is broken, and none holds the mark that stands behind it. -/
def PlainMember (member : Member) : Prop :=
  ¬ ": ".toList <:+: member.name.toList ∧ ¬ " [".toList <:+: member.typeName.toList
    ∧ ∀ text ∈ memberTexts member, '\n' ∉ text.toList

/-- No text of the structure or of a member is broken or holds the mark that stands behind it. -/
def PlainStructure (struct : Structure) : Prop :=
  ¬ " [".toList <:+: struct.name.toList ∧ (∀ text ∈ headTexts struct, '\n' ∉ text.toList)
    ∧ ∀ member ∈ struct.members, PlainMember member

instance (member : Member) : Decidable (PlainMember member) :=
  inferInstanceAs (Decidable (_ ∧ _ ∧ _))

instance (struct : Structure) : Decidable (PlainStructure struct) :=
  inferInstanceAs (Decidable (_ ∧ _ ∧ _))

theorem commentTail_inj {comment comment' : String}
    (h : commentTail comment = commentTail comment') : comment = comment' := by
  unfold commentTail at h
  split at h
  · next hempty =>
    split at h
    · next hempty' => rw [String.isEmpty_iff.mp hempty, String.isEmpty_iff.mp hempty']
    · cases h
  · split at h
    · cases h
    · exact String.toList_inj.mp (List.append_cancel_left h)

theorem closes_commentTail {comment : String} (h : '\n' ∉ comment.toList) :
    Closes ['\n'] (commentTail comment) := by
  refine closes_singleton ?_
  unfold commentTail
  split
  · exact List.not_mem_nil
  · simpa using h

/-- **The line of a member** tells the member and where it ends. -/
theorem selfDelimiting_memberLine :
    SelfDelimiting (fun member => (memberLine member).toList) PlainMember := by
  intro member member' rest rest' hplain hplain' h
  obtain ⟨hname, htype, hbroken⟩ := hplain
  obtain ⟨hname', htype', hbroken'⟩ := hplain'
  rw [toList_memberLine_append, toList_memberLine_append] at h
  obtain ⟨heqName, h⟩ := (closes_pair (by decide) hname).append_inj
    (closes_pair (by decide) hname') (List.append_cancel_left h)
  obtain ⟨heqType, h⟩ := (closes_pair (by decide) htype).append_inj
    (closes_pair (by decide) htype') h
  obtain ⟨heqSize, h⟩ := (closes_digits (by decide) _).append_inj (closes_digits (by decide) _) h
  obtain ⟨heqComment, hrest⟩ :=
    (closes_commentTail (hbroken member.comment (by simp [memberTexts]))).append_inj
      (closes_commentTail (hbroken' member'.comment (by simp [memberTexts])))
      (List.append_cancel_left h)
  obtain ⟨name, typeName, comment, size⟩ := member
  obtain ⟨name', typeName', comment', size'⟩ := member'
  obtain rfl : name = name' := String.toList_inj.mp heqName
  obtain rfl : typeName = typeName' := String.toList_inj.mp heqType
  obtain rfl : size = size' := UInt64.toNat_inj.mp (toDigits_inj heqSize)
  obtain rfl : comment = comment' := commentTail_inj heqComment
  exact ⟨rfl, hrest⟩

/-- The line of a structure tells all of it but its members, of which it tells how many follow. -/
theorem structureLine_append_inj {struct struct' : Structure} {rest rest' : List Char}
    (hplain : PlainStructure struct) (hplain' : PlainStructure struct')
    (h : (structureLine struct).toList ++ rest = (structureLine struct').toList ++ rest') :
    struct.name = struct'.name ∧ struct.size = struct'.size ∧ struct.comment = struct'.comment
      ∧ struct.members.length = struct'.members.length ∧ rest = rest' := by
  obtain ⟨hname, hbroken, -⟩ := hplain
  obtain ⟨hname', hbroken', -⟩ := hplain'
  rw [toList_structureLine_append, toList_structureLine_append] at h
  obtain ⟨heqName, h⟩ := (closes_pair (by decide) hname).append_inj
    (closes_pair (by decide) hname') h
  obtain ⟨heqSize, h⟩ := (closes_digits (by decide) _).append_inj (closes_digits (by decide) _) h
  obtain ⟨heqCount, h⟩ := (closes_digits (by decide) _).append_inj (closes_digits (by decide) _)
    (List.append_cancel_left h)
  have hcount : struct.members.length = struct'.members.length := toDigits_inj heqCount
  -- the noun is known from the number, so it can be taken off both sides
  rw [hcount] at h
  obtain ⟨heqComment, hrest⟩ :=
    (closes_commentTail (hbroken struct.comment (by simp [headTexts]))).append_inj
      (closes_commentTail (hbroken' struct'.comment (by simp [headTexts])))
      (List.append_cancel_left h)
  exact ⟨String.toList_inj.mp heqName, UInt64.toNat_inj.mp (toDigits_inj heqSize),
    commentTail_inj heqComment, hcount, hrest⟩

/-- **The lines of a structure** tell the structure and where they end. -/
theorem selfDelimiting_structureLines : SelfDelimiting
    (fun struct => (structureLines true struct).flatMap String.toList) PlainStructure := by
  intro struct struct' rest rest' hplain hplain' h
  simp only [flatMap_structureLines, List.append_assoc] at h
  obtain ⟨hname, hsize, hcomment, hcount, h⟩ := structureLine_append_inj hplain hplain' h
  obtain ⟨hmembers, hrest⟩ :=
    selfDelimiting_memberLine.sameLength hcount hplain.2.2 hplain'.2.2 h
  obtain ⟨name, comment, size, members⟩ := struct
  obtain ⟨name', comment', size', members'⟩ := struct'
  obtain rfl : name = name' := hname
  obtain rfl : size = size' := hsize
  obtain rfl : comment = comment' := hcomment
  obtain rfl : members = members' := hmembers
  exact ⟨rfl, hrest⟩

/-! ## Listings -/

/-- Every structure states a size in brackets, whatever its texts are. -/
theorem bracket_mem_structureLine (struct : Structure) : '[' ∈ (structureLine struct).toList := by
  have h := toList_structureLine_append struct []
  rw [List.append_nil] at h
  rw [h]
  simp

theorem structureLines_ne_nil (struct : Structure) :
    (structureLines true struct).flatMap String.toList ≠ [] := by
  intro h
  have hmem := bracket_mem_structureLine struct
  rw [flatMap_structureLines] at h
  rw [(List.append_eq_nil_iff.mp h).1] at hmem
  exact List.not_mem_nil hmem

/-- What is shown for the empty list is shown for no other, with members or without. -/
theorem listing_eq_empty_iff {structures : List Structure} {showMembers : Bool} :
    listing structures showMembers = "(no structures)\n" ↔ structures = [] := by
  constructor
  · intro h
    by_contra hne
    obtain ⟨first, rest, rfl⟩ := List.exists_cons_of_ne_nil hne
    have hmem : '[' ∈ (listing (first :: rest) showMembers).toList := by
      rw [toList_listing hne, List.flatMap_cons, structureLines, List.flatMap_cons]
      exact List.mem_append_left _ (List.mem_append_left _ (bracket_mem_structureLine first))
    rw [h] at hmem
    exact absurd hmem (by decide)
  · rintro rfl
    rfl

/-- **The listing is unambiguous**: lists of structures whose texts are not broken and do not hold
the marks behind them are equal if they are shown with their members as one text. Whatever the texts
are, the words for the empty list stand for no other list. -/
theorem listing_unambiguous :
    (∀ structures structures' : List Structure, (∀ struct ∈ structures, PlainStructure struct) →
      (∀ struct ∈ structures', PlainStructure struct) →
      listing structures true = listing structures' true → structures = structures')
    ∧ ∀ structures showMembers,
      listing structures showMembers = "(no structures)\n" ↔ structures = [] := by
  refine ⟨fun structures structures' hplain hplain' h => ?_,
    fun structures showMembers => listing_eq_empty_iff⟩
  by_cases hempty : structures = []
  · rw [listing_eq_empty_iff.mpr hempty] at h
    rw [hempty, listing_eq_empty_iff.mp h.symm]
  · by_cases hempty' : structures' = []
    · rw [listing_eq_empty_iff.mpr hempty'] at h
      exact absurd (listing_eq_empty_iff.mp h) hempty
    · have hchars := congrArg String.toList h
      rw [toList_listing hempty, toList_listing hempty'] at hchars
      exact selfDelimiting_structureLines.list structureLines_ne_nil hplain hplain' hchars

/-- Structures whose names look like members, and a member whose comment looks like a size. -/
def lookalikeList : List Structure :=
  [{ name := "  x: int", comment := "a // b", size := 4, members := [
      { name := " y:", typeName := "t]", comment := "[8 bytes] // ", size := 8 }] },
    { name := "  y: t", size := 8 }]

/-- The same list, made step by step. -/
def lookalikeListInSteps : List Structure :=
  [({ name := "  x: int", size := 4 } : Structure).withMember
      (Member.withComment { name := " y:", typeName := "t]", size := 8 } "[8 bytes] // ")
    |>.withComment "a // b", { name := "  y: t", size := 8 }]

/-- All three lines start as the line of a member does, and two of them end in a comment. -/
theorem listing_unambiguous_lookalikeList :
    (∀ struct ∈ lookalikeListInSteps, PlainStructure struct)
    ∧ (∀ struct ∈ lookalikeList, PlainStructure struct)
    ∧ listing lookalikeList true
      = "  x: int [4 bytes] 1 member // a // b\n   y:: t] [8 bytes] // [8 bytes] // \n"
        ++ "  y: t [8 bytes] 0 members\n"
    ∧ listing lookalikeListInSteps true = listing lookalikeList true
    ∧ lookalikeListInSteps = lookalikeList := by
  have hplain : ∀ struct ∈ lookalikeListInSteps, PlainStructure struct := by decide
  have hplain' : ∀ struct ∈ lookalikeList, PlainStructure struct := by decide
  have hshown : listing lookalikeListInSteps true = listing lookalikeList true := rfl
  exact ⟨hplain, hplain', by decide +kernel, hshown,
    listing_unambiguous.1 lookalikeListInSteps lookalikeList hplain hplain' hshown⟩

end StructVault.Report
