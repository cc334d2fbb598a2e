import Mathlib.Algebra.Ring.Nat
import StructVault.Database.Host
import StructVault.Proofs.Steps

/-!
# Calls on a host

A refusal that is to come meets one call of its kind, after some that pass. Which call that is, and
whether it is reached at all, is told by the number of calls, and so is the refusal that is left.

- `Host.afterCalls`: how calls end whose number is known, whatever refusal is to come.
- `Access.Makes`: calls whose number is known. One call after another makes as many as both
  (`Makes.bind`), and a pass over a list as many as there are for all its entries (`Makes.mapM`).
- `Access.lookUp`: the form of the calls that tell about the database. Each of them is a single call
  where it finds what it is about (`makes_lookUp`), and fails elsewhere (`lookUp_of_none`).
-/

namespace StructVault

open Steps

/-! ## Numbers of calls -/

/-- The end of calls that are `count call` of each kind and give `value`: with the error of the
refusal, if that is to meet one of them, and otherwise with the value. Then the refusal is as many
calls nearer. -/
def Host.afterCalls {α : Type} (host : Host) (count : HostCall → Nat) (value : α) :
    EStateM.Result Database.Error Host α :=
  match host.refusal with
  | none => .ok value host
  | some refusal =>
    if refusal.after < count refusal.call then
      .error refusal.error { host with refusal := none }
    else
      .ok value { host with
        refusal := some { refusal with after := refusal.after - count refusal.call } }

section Ends

variable {α : Type} {database : Database} {count : HostCall → Nat} {value : α} {refusal : Refusal}

theorem afterCalls_of_lt (h : refusal.after < count refusal.call) :
    Host.afterCalls { database, refusal := some refusal } count value
      = .error refusal.error { database } :=
  if_pos h

theorem afterCalls_of_le (h : count refusal.call ≤ refusal.after) :
    Host.afterCalls { database, refusal := some refusal } count value = .ok value {
      database, refusal := some { refusal with after := refusal.after - count refusal.call } } :=
  if_neg (Nat.not_lt.mpr h)

end Ends

namespace Access

/-- Calls on a host of `database` that are `count call` of each kind, and give `value` unless one of
them is refused. -/
def Makes {α : Type} (database : Database) (calls : Access α) (count : HostCall → Nat) (value : α) :
    Prop :=
  ∀ refusal, calls { database, refusal } = Host.afterCalls { database, refusal } count value

variable {α β : Type} {database : Database}

/-- What succeeds on its own makes no calls that could be refused. -/
theorem makes_of_ok {calls : Access α} {value : α}
    (h : ∀ refusal, calls { database, refusal } = .ok value { database, refusal }) :
    Makes database calls (fun _ => 0) value := by
  intro refusal
  rw [h]
  cases refusal with
  | none => rfl
  | some refusal =>
    rw [afterCalls_of_le (Nat.zero_le refusal.after)]
    rfl

/-- Whether one of them is refused or not, the calls change no more than the refusal to come. -/
theorem Makes.cases {calls : Access α} {count : HostCall → Nat} {value : α}
    (h : Makes database calls count value) (refusal : Option Refusal) : ∃ left : Option Refusal,
      calls { database, refusal } = .ok value { database, refusal := left }
        ∨ ∃ error, calls { database, refusal } = .error error { database, refusal := left } := by
  cases refusal with
  | none => exact ⟨none, Or.inl (h none)⟩
  | some refusal =>
    by_cases hmet : refusal.after < count refusal.call
    · exact ⟨none, Or.inr ⟨_, (h (some refusal)).trans (afterCalls_of_lt hmet)⟩⟩
    · have hle := Nat.le_of_not_lt hmet
      exact ⟨_, Or.inl ((h (some refusal)).trans (afterCalls_of_le hle))⟩

theorem Makes.bind {calls : Access α} {next : α → Access β} {before behind : HostCall → Nat}
    {first : α} {second : β} (hcalls : Makes database calls before first)
    (hnext : Makes database (next first) behind second) :
    Makes database (calls >>= next) (fun call => before call + behind call) second := by
  intro refusal
  cases refusal with
  | none =>
    have hfirst : calls { database } = .ok first { database } := hcalls none
    rw [bind_of_ok hfirst]
    exact hnext none
  | some refusal =>
    by_cases hmet : refusal.after < before refusal.call
    · have hrefused := (hcalls (some refusal)).trans (afterCalls_of_lt hmet)
      rw [afterCalls_of_lt (Nat.lt_add_right _ hmet)]
      exact bind_eq_error.mpr (Or.inl hrefused)
    · have hle := Nat.le_of_not_lt hmet
      rw [bind_of_ok ((hcalls (some refusal)).trans (afterCalls_of_le hle)), hnext]
      -- the calls that passed are no longer counted, so the rest of the refusal decides
      by_cases hlater : refusal.after - before refusal.call < behind refusal.call
      · rw [afterCalls_of_lt hlater, afterCalls_of_lt (by omega)]
      · rw [afterCalls_of_le (Nat.le_of_not_lt hlater), afterCalls_of_le (by omega), Nat.sub_sub]

/-- What is made of a value takes no more calls. -/
theorem Makes.map {calls : Access α} {count : HostCall → Nat} {value : α}
    (h : Makes database calls count value) (f : α → β) :
    Makes database (calls >>= fun a => pure (f a)) count (f value) := by
  show Makes database _ (fun call => count call + 0) (f value)
  exact h.bind (makes_of_ok fun _ => rfl)

/-- One pass over a list makes the calls of all its entries. The list is described by keys, so that
the values may depend on more than what the steps see. -/
theorem Makes.mapM {κ : Type} {step : α → Access β} {key : κ → α} {count : κ → HostCall → Nat}
    {value : κ → β} {keys : List κ}
    (h : ∀ k ∈ keys, Makes database (step (key k)) (count k) (value k)) :
    Makes database ((keys.map key).mapM step) (fun call => (keys.map (count · call)).sum)
      (keys.map value) := by
  induction keys with
  | nil => exact makes_of_ok fun _ => rfl
  | cons k keys ih =>
    have hrest := ih fun k' hk => h k' (List.mem_cons_of_mem k hk)
    rw [List.map_cons, List.mapM_cons]
    exact (h k List.mem_cons_self).bind (hrest.map (value k :: ·))

end Access

/-! ## Single calls -/

/-- What a host tells about a stored structure. -/
def StoredStructure.info (stored : StoredStructure) : StructureInfo where
  name := stored.name
  comment := stored.comment
  size := stored.size

/-- What a host tells about a stored member. -/
def StoredMember.info (stored : StoredMember) : MemberInfo where
  name := stored.name
  typeName := stored.typeName
  comment := stored.comment
  size := stored.size

namespace Access

variable {α : Type} {database : Database}

/-- A single call of a kind. -/
def once (call made : HostCall) : Nat := if made = call then 1 else 0

theorem makes_admitted (call : HostCall) : Makes database (admitted call) (once call) () := by
  intro refusal
  cases refusal with
  | none => rfl
  | some refusal =>
    obtain ⟨made, after, error⟩ := refusal
    by_cases hcall : made = call
    · cases after with
      | zero => simp [admitted, Host.afterCalls, once, hcall]
      | succ after => simp [admitted, Host.afterCalls, once, hcall]
    · simp [admitted, Host.afterCalls, once, hcall]

/-- The calls that tell about a database have one form: what the call is about is looked up, and it
is unknown if it is not found. -/
def lookUp {γ : Type} (call : HostCall) (find? : Database → Option γ) (unknown : Database.Error)
    (answer : γ → α) : Access α := do
  admitted call
  match find? (← get).database with
  | none => throw unknown
  | some found => return answer found

theorem describeStructure_eq (handle : StructureHandle) :
    describeStructure handle = lookUp .describeStructure (·.structureAt? handle)
      (.unknownStructure handle) StoredStructure.info := by
  unfold describeStructure lookUp
  refine bind_congr fun _ => bind_congr fun host => ?_
  dsimp only
  cases host.database.structureAt? handle with
  | none => rfl
  | some stored => rfl

theorem listMembers_eq (handle : StructureHandle) :
    listMembers handle = lookUp .listMembers (·.structureAt? handle)
      (.unknownStructure handle) (Database.memberHandles · handle) := by
  unfold listMembers lookUp
  refine bind_congr fun _ => bind_congr fun host => ?_
  dsimp only
  cases host.database.structureAt? handle with
  | none => rfl
  | some stored => rfl

theorem describeMember_eq (handle : MemberHandle) :
    describeMember handle = lookUp .describeMember (·.memberAt? handle)
      (.unknownMember handle) StoredMember.info := by
  unfold describeMember lookUp
  refine bind_congr fun _ => bind_congr fun host => ?_
  dsimp only
  cases host.database.memberAt? handle with
  | none => rfl
  | some stored => rfl

section LookUp

variable {γ : Type} {call : HostCall} {find? : Database → Option γ} {unknown : Database.Error}
  {answer : γ → α}

theorem makes_lookUp {found : γ} (h : find? database = some found) :
    Makes database (lookUp call find? unknown answer) (once call) (answer found) := by
  show Makes database _ (fun made => once call made + 0) (answer found)
  unfold lookUp
  refine (makes_admitted call).bind (makes_of_ok fun refusal => ?_)
  show (match find? database with
    | none => throw unknown
    | some found => return answer found : Access α) { database, refusal } = _
  rw [h]
  rfl

theorem lookUp_of_none (h : find? database = none) :
    lookUp call find? unknown answer { database } = .error unknown { database } := by
  show (match find? database with
    | none => throw unknown
    | some found => return answer found : Access α) { database } = _
  rw [h]
  rfl

end LookUp

theorem makes_describeStructure {handle : StructureHandle} {stored : StoredStructure}
    (h : database.structureAt? handle = some stored) :
    Makes database (describeStructure handle) (once .describeStructure) stored.info := by
  rw [describeStructure_eq]
  exact makes_lookUp h

theorem makes_listMembers {handle : StructureHandle} {stored : StoredStructure}
    (h : database.structureAt? handle = some stored) :
    Makes database (listMembers handle) (once .listMembers)
      (Database.memberHandles stored handle) := by
  rw [listMembers_eq]
  exact makes_lookUp h

theorem makes_describeMember {handle : MemberHandle} {stored : StoredMember}
    (h : database.memberAt? handle = some stored) :
    Makes database (describeMember handle) (once .describeMember) stored.info := by
  rw [describeMember_eq]
  exact makes_lookUp h

end Access

end StructVault
