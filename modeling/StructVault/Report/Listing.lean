import StructVault.Structure

/-!
# The text listing

One line for each structure, and under it, on demand, one line for each of its members. A
comment follows behind `//`.
-/

namespace StructVault.Report

/-- A comment behind a line, if there is one, and the end of the line. -/
def commentEnd (comment : String) : String :=
  if comment.isEmpty then "\n" else " // " ++ comment ++ "\n"

/-- A size in brackets. -/
def sizeText (size : ByteSize) : String := "[" ++ toString size.toNat ++ " bytes]"

/-- The line of a structure. -/
def structureLine (struct : Structure) : String :=
  let count := struct.members.length
  let noun := if count = 1 then "member" else "members"
  struct.name ++ " " ++ sizeText struct.size ++ " " ++ toString count ++ " " ++ noun
    ++ commentEnd struct.comment

/-- The line of a member. -/
def memberLine (member : Member) : String :=
  "  " ++ member.name ++ ": " ++ member.typeName ++ " " ++ sizeText member.size
    ++ commentEnd member.comment

/-- The lines of a structure. -/
def structureLines (showMembers : Bool) (struct : Structure) : List String :=
  structureLine struct :: if showMembers then struct.members.map memberLine else []

/-- The listing of a list of structures. -/
def listing (structures : List Structure) (showMembers : Bool) : String :=
  if structures.isEmpty then "(no structures)\n"
  else String.join (structures.flatMap (structureLines showMembers))

end StructVault.Report
