import StructVault.Plugin
import StructVault.Proofs.Transfer.RoundTrip
import StructVault.Proofs.Transfer.Updates

/-!
# The discipline of the plugin

A call of the plugin shows itself in four places: in what it asks the host program to show, in its
result, in the database and in the files. `Disciplined` says how the four agree. A call opens one
dialog, for its own command. Dismissed, it does nothing more; answered, it ends in one message, and
that message says which end the result has (`Tells`). Loading leaves the files alone, producing
leaves the database alone, and a call that fails leaves the database alone and the chosen file
intact (`FileTree.Intact`).

Over a run of calls this holds of each call, at the desk the calls before it left (`Session`):
whatever the settings, commands and answers are, and whatever the host refuses in between. What a
run comes to as a whole follows by going through it, and `Round.session_disciplined` puts both
together.
-/

namespace StructVault

open Steps

/-- The dialog that a command opens. -/
def Command.dialog (command : Command) : UiCall :=
  .prompt command.pathMode Plugin.fileFilter command.prompt

namespace Plugin

variable {plugin : Plugin} {command : Command} {path : Path} {desk left : Desk}
  {result : Except Database.Error Outcome} {message : String}

/-! ## Messages -/

/-- The message about a command on a path, for each way it can end. Warnings may stand behind what
is told about an export. -/
inductive Tells (command : Command) (path : Path) : Except Database.Error Outcome → String → Prop
  | failed (error : Database.Error) : Tells command path (.error error)
      s!"SymbolParser: {command.name} failed for {path.text}: {error.message}"
  | exported (report : ExportReport) (warnings : String) (hcommand : command = .produce)
      (hpath : report.path = path) : Tells command path (.ok (.exported report))
      (s!"SymbolParser: exported {report.summary.structures} structures "
        ++ s!"({report.summary.members} members) to {report.path.text}{warnings}")
  | imported (report : ImportReport) (hcommand : command = .load) (hpath : report.path = path) :
      Tells command path (.ok (.imported report))
      (s!"SymbolParser: loaded {report.structures} structures "
        ++ s!"({report.members} members) from {report.path.text}")

/-- Messages about success and about failure cannot be taken for each other, whatever the path and
the error are. -/
theorem Tells.failed_iff (h : Tells command path result message) :
    (∃ error, message = failureMessage command path error) ↔ ∃ error, result = .error error := by
  cases h with
  | failed error => exact ⟨fun _ => ⟨error, rfl⟩, fun _ => ⟨error, rfl⟩⟩
  -- the texts part at the first word behind the name of the plugin
  | exported report warnings hcommand =>
    subst hcommand
    constructor
    · rintro ⟨error, heq⟩
      have htext := congrArg String.toList heq
      simp [failureMessage, Plugin.name, Command.name, toString] at htext
    · rintro ⟨error, heq⟩
      cases heq
  | imported report hcommand =>
    subst hcommand
    constructor
    · rintro ⟨error, heq⟩
      have htext := congrArg String.toList heq
      simp [failureMessage, Plugin.name, Command.name, toString] at htext
    · rintro ⟨error, heq⟩
      cases heq

theorem tells_exported {report : ExportReport} (hpath : report.path = path) :
    Tells .produce path (.ok (.exported report)) (successMessage (.exported report)) := by
  simp only [successMessage, String.append_assoc]
  have h := Tells.exported report
    (String.join (report.summary.warnings.map fun warning => s!" (warning: {warning.message})"))
    rfl hpath
  simp only [String.append_assoc] at h
  exact h

theorem tells_imported {report : ImportReport} (hpath : report.path = path) :
    Tells .load path (.ok (.imported report)) (successMessage (.imported report)) := by
  have h := Tells.imported report rfl hpath
  simp only [successMessage, String.append_assoc] at h ⊢
  exact h

/-! ## Commands -/

theorem perform_ok {outcome : Outcome} (h : plugin.perform path command desk = .ok outcome left) :
    Tells command path (.ok outcome) (successMessage outcome)
      ∧ (command = .load → left.files = desk.files)
      ∧ (command = .produce → left.host.database = desk.host.database) := by
  cases command with
  | load =>
    obtain ⟨report, himport, rfl⟩ := map_eq_ok.mp h
    obtain ⟨data, structures, -, -, -, hfiles, rfl⟩ := DeskWork.importFrom_ok himport
    exact ⟨tells_imported rfl, fun _ => hfiles, nofun⟩
  | produce =>
    obtain ⟨report, hexport, rfl⟩ := map_eq_ok.mp h
    obtain ⟨hdatabase, hpath⟩ := DeskWork.exportTo_ok hexport
    exact ⟨tells_exported hpath, nofun, fun _ => hdatabase⟩

theorem perform_error {error : Database.Error}
    (h : plugin.perform path command desk = .error error left) :
    left.host.database = desk.host.database ∧ desk.files.Intact left.files path
      ∧ (command = .load → left.files = desk.files) := by
  cases command with
  | load =>
    obtain ⟨hdatabase, hfiles⟩ := DeskWork.database_of_importFrom_error (map_eq_error.mp h)
    exact ⟨hdatabase, hfiles ▸ .refl desk.files path, fun _ => hfiles⟩
  | produce =>
    obtain ⟨hdatabase, hintact⟩ := DeskWork.exportTo_error (map_eq_error.mp h)
    exact ⟨hdatabase, hintact, nofun⟩

/-! ## Calls -/

/-- How a call of a command whose dialog is answered by `answer` shows itself: it found `database`
and `files`, and came to `run`. -/
structure Disciplined (command : Command) (answer : Option Path) (database : Database)
    (files : FileTree) (run : Run) : Prop where
  cancelled : answer = none → run.result = .ok .cancelled ∧ run.shown = [command.dialog]
    ∧ run.desk.host.database = database ∧ run.desk.files = files
  answered : ∀ path, answer = some path → ∃ message,
    run.shown = [command.dialog, .message message] ∧ Tells command path run.result message
      ∧ ((∃ error, message = failureMessage command path error)
        ↔ ∃ error, run.result = .error error)
  files_of_load : command = .load → run.desk.files = files
  database_of_produce : command = .produce → run.desk.host.database = database
  database_of_error : ∀ error, run.result = .error error → run.desk.host.database = database
  destination_of_error : ∀ error path, run.result = .error error → answer = some path →
    files.Intact run.desk.files path

theorem invoke_of_ok {outcome : Outcome}
    (h : plugin.perform path command desk = .ok outcome left) :
    plugin.invoke command (some path) desk = {
      result := .ok outcome
      shown := [command.dialog, .message (successMessage outcome)]
      desk := left } := by
  unfold invoke
  dsimp only
  rw [h]
  rfl

theorem invoke_of_error {error : Database.Error}
    (h : plugin.perform path command desk = .error error left) :
    plugin.invoke command (some path) desk = {
      result := .error error
      shown := [command.dialog, .message (failureMessage command path error)]
      desk := left } := by
  unfold invoke
  dsimp only
  rw [h]
  rfl

/-- A command that is given a path ends in one message that tells its result. -/
theorem invoke_some (plugin : Plugin) (command : Command) (path : Path) (desk : Desk) :
    ∃ result left message, plugin.invoke command (some path) desk
        = { result, shown := [command.dialog, .message message], desk := left }
      ∧ Tells command path result message
      ∧ (command = .load → left.files = desk.files)
      ∧ (command = .produce → left.host.database = desk.host.database)
      ∧ ∀ error, result = .error error → left.host.database = desk.host.database
        ∧ desk.files.Intact left.files path := by
  cases hperform : plugin.perform path command desk with
  | ok outcome left =>
    obtain ⟨htells, hfiles, hdatabase⟩ := perform_ok hperform
    exact ⟨_, _, _, invoke_of_ok hperform, htells, hfiles, hdatabase, nofun⟩
  | error error left =>
    obtain ⟨hdatabase, hintact, hfiles⟩ := perform_error hperform
    exact ⟨_, _, _, invoke_of_error hperform, .failed error, hfiles, fun _ => hdatabase,
      fun _ _ => ⟨hdatabase, hintact⟩⟩

theorem disciplined_invoke (plugin : Plugin) (command : Command) (answer : Option Path)
    (desk : Desk) : Disciplined command answer desk.host.database desk.files
      (plugin.invoke command answer desk) := by
  cases answer with
  | none =>
    exact {
      cancelled := fun _ => ⟨rfl, rfl, rfl, rfl⟩
      answered := nofun
      files_of_load := fun _ => rfl
      database_of_produce := fun _ => rfl
      database_of_error := fun _ _ => rfl
      destination_of_error := nofun }
  | some path =>
    obtain ⟨result, left, message, hrun, htells, hfiles, hdatabase, herror⟩ :=
      invoke_some plugin command path desk
    rw [hrun]
    exact {
      cancelled := nofun
      answered := by
        intro path' hpath
        cases hpath
        exact ⟨message, rfl, htells, htells.failed_iff⟩
      files_of_load := hfiles
      database_of_produce := hdatabase
      database_of_error := fun error hresult => (herror error hresult).1
      destination_of_error := by
        intro error path' hresult hpath
        cases hpath
        exact (herror error hresult).2 }

end Plugin

/-! ## Runs of calls -/

/-- A way into the plugin, with the answer to the dialog it opens. -/
inductive Entrance where
  | invoke (command : Command) (answer : Option Path)
  | run (answer : Option Path)
  deriving DecidableEq, Repr

namespace Entrance

/-- The command that is carried out. The default entry produces a file. -/
def command : Entrance → Command
  | invoke command _ => command
  | run _ => .produce

def answer : Entrance → Option Path
  | invoke _ answer => answer
  | run answer => answer

end Entrance

/-- A call of a plugin. A refusal may be armed in front of it; otherwise the one that is left from
before stays. -/
structure Round where
  plugin : Plugin
  entrance : Entrance
  armed : Option Refusal := none
  deriving DecidableEq, Repr

namespace Round

/-- The desk with the refusal that the call is to meet. -/
def arm (round : Round) (desk : Desk) : Desk :=
  { desk with host := { desk.host with refusal := round.armed.or desk.host.refusal } }

/-- What the call comes to at a desk. -/
def take (round : Round) (desk : Desk) : Plugin.Run :=
  match round.entrance with
  | .invoke command answer => round.plugin.invoke command answer (round.arm desk)
  | .run answer => round.plugin.run answer (round.arm desk)

/-- What calls come to one after the other, each at the desk that the one before left. -/
def takeAll : List Round → Desk → List Plugin.Run
  | [], _ => []
  | round :: rest, desk => round.take desk :: takeAll rest (round.take desk).desk

/-- The desk that is left in the end. -/
def leave : List Round → Desk → Desk
  | [], desk => desk
  | round :: rest, desk => leave rest (round.take desk).desk

/-- The call shows itself as it should at a desk. -/
def Disciplined (round : Round) (desk : Desk) (run : Plugin.Run) : Prop :=
  Plugin.Disciplined round.entrance.command round.entrance.answer desk.host.database desk.files run

theorem disciplined_take (round : Round) (desk : Desk) :
    round.Disciplined desk (round.take desk) := by
  unfold Disciplined take
  -- arming a refusal changes neither the database nor the files
  cases round.entrance with
  | invoke command answer => exact round.plugin.disciplined_invoke command answer (round.arm desk)
  | run answer => exact round.plugin.disciplined_invoke .produce answer (round.arm desk)

end Round

/-- Calls one after the other from the first desk to the last one, and what each of them came to. -/
inductive Session : Desk → List Round → List Plugin.Run → Desk → Prop
  | done (desk : Desk) : Session desk [] [] desk
  | next {desk last : Desk} {round : Round} {run : Plugin.Run} {rest : List Round}
      {runs : List Plugin.Run} (h : round.Disciplined desk run)
      (hrest : Session run.desk rest runs last) : Session desk (round :: rest) (run :: runs) last

/-- Each call of a run finds the desk that the one before left. -/
theorem Round.session_takeAll (rounds : List Round) : ∀ desk : Desk,
    Session desk rounds (takeAll rounds desk) (leave rounds desk) := by
  induction rounds with
  | nil =>
    intro desk
    exact .done desk
  | cons round rest ih =>
    intro desk
    exact .next (round.disciplined_take desk) (ih (round.take desk).desk)

/-! ## What a run comes to -/

/-- Whether a dialog is opened. -/
def UiCall.isPrompt : UiCall → Bool
  | .prompt .. => true
  | _ => false

/-- Whether a message is shown. -/
def UiCall.isMessage : UiCall → Bool
  | .message _ => true
  | _ => false

namespace Plugin.Disciplined

variable {command : Command} {answer : Option Path} {database : Database} {files : FileTree}
  {run : Run}

/-- A dialog is opened by every call, and a message is shown if it was answered. -/
theorem shown_eq (h : Disciplined command answer database files run) :
    run.shown.filter UiCall.isPrompt = [command.dialog]
      ∧ (run.shown.filter UiCall.isMessage).length = if answer.isSome then 1 else 0 := by
  cases answer with
  | none =>
    obtain ⟨-, hshown, -⟩ := h.cancelled rfl
    rw [hshown]
    exact ⟨rfl, rfl⟩
  | some path =>
    obtain ⟨message, hshown, -⟩ := h.answered path rfl
    rw [hshown]
    exact ⟨rfl, rfl⟩

/-- The database changes in calls that report an import, and in no others. -/
theorem database_of_no_import (h : Disciplined command answer database files run)
    (hno : ∀ report, run.result ≠ .ok (.imported report)) : run.desk.host.database = database := by
  cases answer with
  | none => exact (h.cancelled rfl).2.2.1
  | some path =>
    obtain ⟨message, -, htells, -⟩ := h.answered path rfl
    generalize hresult : run.result = result at htells
    cases htells with
    | failed error => exact h.database_of_error error hresult
    | exported report warnings hcommand => exact h.database_of_produce hcommand
    | imported report => exact absurd hresult (hno report)

end Plugin.Disciplined

namespace Session

variable {desk last : Desk} {rounds : List Round} {runs : List Plugin.Run}

/-- The dialogs of a run are those of its calls, one for each and in their order. -/
theorem prompts_eq (h : Session desk rounds runs last) :
    (runs.flatMap (·.shown)).filter UiCall.isPrompt
      = rounds.map fun round => round.entrance.command.dialog := by
  induction h with
  | done => rfl
  | next hround hrest ih =>
    obtain ⟨hprompt, -⟩ := Plugin.Disciplined.shown_eq hround
    rw [List.flatMap_cons, List.filter_append, hprompt, ih]
    rfl

/-- As many messages are shown as dialogs are answered. -/
theorem length_messages (h : Session desk rounds runs last) :
    ((runs.flatMap (·.shown)).filter UiCall.isMessage).length
      = rounds.countP (·.entrance.answer.isSome) := by
  induction h with
  | done => rfl
  | next hround hrest ih =>
    obtain ⟨-, hmessage⟩ := Plugin.Disciplined.shown_eq hround
    rw [List.flatMap_cons, List.filter_append, List.length_append, hmessage, ih, List.countP_cons,
      Nat.add_comm]

/-- A run that only loads leaves the files alone. -/
theorem files_of_loads (h : Session desk rounds runs last)
    (hloads : ∀ round ∈ rounds, round.entrance.command = .load) : last.files = desk.files := by
  induction h with
  | done => rfl
  | next hround hrest ih =>
    obtain ⟨hload, hloads⟩ := List.forall_mem_cons.mp hloads
    exact (ih hloads).trans (hround.files_of_load hload)

/-- A run in which nothing is imported leaves the database alone. -/
theorem database_of_no_import (h : Session desk rounds runs last)
    (hno : ∀ run ∈ runs, ∀ report, run.result ≠ .ok (.imported report)) :
    last.host.database = desk.host.database := by
  induction h with
  | done => rfl
  | next hround hrest ih =>
    obtain ⟨hfirst, hno⟩ := List.forall_mem_cons.mp hno
    exact (ih hno).trans (Plugin.Disciplined.database_of_no_import hround hfirst)

end Session

namespace Round

/-- **The plugin is disciplined** over every run of calls: whatever the calls are and however they
end, each of them opens its dialog, tells its end and spares what it has to spare (`Session`). So a
run opens as many dialogs as there are calls, each in the mode of its command, and shows as many
messages as dialogs are answered. It leaves the files alone if it only loads, and the database if it
imports nothing. -/
theorem session_disciplined (rounds : List Round) (desk : Desk) :
    Session desk rounds (takeAll rounds desk) (leave rounds desk)
      ∧ ((takeAll rounds desk).flatMap (·.shown)).filter UiCall.isPrompt
        = rounds.map (fun round => round.entrance.command.dialog)
      ∧ (((takeAll rounds desk).flatMap (·.shown)).filter UiCall.isMessage).length
        = rounds.countP (·.entrance.answer.isSome)
      ∧ ((∀ round ∈ rounds, round.entrance.command = .load) →
        (leave rounds desk).files = desk.files)
      ∧ ((∀ run ∈ takeAll rounds desk, ∀ report, run.result ≠ .ok (.imported report)) →
        (leave rounds desk).host.database = desk.host.database) := by
  have hsession := session_takeAll rounds desk
  exact ⟨hsession, hsession.prompts_eq, hsession.length_messages, hsession.files_of_loads,
    hsession.database_of_no_import⟩

/-- One call that loads from a file that is not there, and one that is given no path. -/
def idleRounds : List Round :=
  [{ plugin := {}, entrance := .invoke .load (some ⟨"a.spst"⟩) },
    { plugin := { verifyChecksum := false }, entrance := .invoke .load none }]

/-- One call that produces a file, and one that loads it. -/
def busyRounds : List Round :=
  [{ plugin := {}, entrance := .run (some ⟨"a.spst"⟩) },
    { plugin := { verifyChecksum := false }, entrance := .invoke .load (some ⟨"a.spst"⟩) }]

/-- A host that holds the scattered database. -/
def scatteredDesk (files : FileTree) : Desk where
  host := { database := scatteredDatabase }
  files

/-- Both of the busy calls succeed. -/
theorem takeAll_busyRounds : ∃ produced loaded : Plugin.Run, ∃ exported imported,
    takeAll busyRounds (scatteredDesk {}) = [produced, loaded]
      ∧ produced.result = .ok (.exported exported) ∧ loaded.result = .ok (.imported imported) := by
  have hvalid : Valid scatteredDatabase.structures := firstBreach_eq_none_iff.mp (by decide)
  obtain ⟨bytes, hencode⟩ : ∃ bytes, Snapshot.encode scatteredDatabase.contents = .ok bytes := by
    rw [contents_scatteredDatabase]
    exact ⟨_, rfl⟩
  obtain ⟨files, hreplace⟩ : ∃ files,
      FileTree.replaceFile {} ⟨"a.spst"⟩ bytes true = (.ok (), files) := ⟨_, rfl⟩
  obtain ⟨exported, hexport⟩ : ∃ report,
      DeskWork.exportTo ⟨"a.spst"⟩ true (scatteredDesk {}) = .ok report (scatteredDesk files) :=
    ⟨_, DeskWork.exportTo_eq_ok.mpr ⟨bytes, files, hencode, hreplace, rfl, rfl⟩⟩
  obtain ⟨imported, left, himport⟩ : ∃ report left,
      DeskWork.importFrom ⟨"a.spst"⟩ false (scatteredDesk files) = .ok report left :=
    ⟨_, _, DeskWork.importFrom_eq_ok.mpr ⟨_, _, Snapshot.load_of_save hencode hreplace false,
      Access.replaceStructures_contents hvalid scatteredDatabase, rfl, rfl⟩⟩
  have hproduce : Plugin.perform {} ⟨"a.spst"⟩ .produce (scatteredDesk {})
      = .ok (.exported exported) (scatteredDesk files) := map_eq_ok.mpr ⟨exported, hexport, rfl⟩
  have hload : Plugin.perform { verifyChecksum := false } ⟨"a.spst"⟩ .load (scatteredDesk files)
      = .ok (.imported imported) left := map_eq_ok.mpr ⟨imported, himport, rfl⟩
  refine ⟨_, _, exported, imported, rfl,
    congrArg Plugin.Run.result (Plugin.invoke_of_ok hproduce), ?_⟩
  -- the second call finds the file that the first one left
  show (Plugin.invoke { verifyChecksum := false } .load (some ⟨"a.spst"⟩)
    (Plugin.invoke {} .produce (some ⟨"a.spst"⟩) (scatteredDesk {})).desk).result = _
  rw [Plugin.invoke_of_ok hproduce, Plugin.invoke_of_ok hload]

theorem session_disciplined_scatteredDesk :
    (leave idleRounds (scatteredDesk {})).files = {}
      ∧ (leave idleRounds (scatteredDesk {})).host.database = scatteredDatabase
      ∧ ∃ produced loaded : Plugin.Run, takeAll busyRounds (scatteredDesk {}) = [produced, loaded]
        ∧ (∃ report message, produced.result = .ok (.exported report)
          ∧ produced.shown = [Command.produce.dialog, .message message]
          ∧ Plugin.Tells .produce ⟨"a.spst"⟩ (.ok (.exported report)) message)
        ∧ produced.desk.host.database = scatteredDatabase
        ∧ (∃ report message, loaded.result = .ok (.imported report)
          ∧ loaded.shown = [Command.load.dialog, .message message]
          ∧ Plugin.Tells .load ⟨"a.spst"⟩ (.ok (.imported report)) message)
        ∧ loaded.desk.files = produced.desk.files := by
  obtain ⟨-, -, -, hfiles, hdatabase⟩ := session_disciplined idleRounds (scatteredDesk {})
  obtain ⟨hsession, -⟩ := session_disciplined busyRounds (scatteredDesk {})
  obtain ⟨produced, loaded, exported, imported, hruns, hexported, himported⟩ := takeAll_busyRounds
  refine ⟨hfiles (by decide), hdatabase fun run hrun report hresult => ?_, produced, loaded, hruns,
    ?_⟩
  · -- the first call fails and the second is cancelled
    rcases List.mem_cons.mp hrun with rfl | hrun
    · cases hresult
    · cases List.mem_singleton.mp hrun
      cases hresult
  · rw [hruns] at hsession
    cases hsession with
    | next hproduced hrest =>
      cases hrest with
      | next hloaded =>
        obtain ⟨message, hshown, htells, -⟩ := hproduced.answered _ rfl
        obtain ⟨message', hshown', htells', -⟩ := hloaded.answered _ rfl
        exact ⟨⟨exported, message, hexported, hshown, hexported ▸ htells⟩,
          hproduced.database_of_produce rfl,
          ⟨imported, message', himported, hshown', himported ▸ htells'⟩, hloaded.files_of_load rfl⟩

end Round

end StructVault
