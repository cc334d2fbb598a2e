import StructVault.Transfer

/-!
# The plugin

Two commands in the menu of a host program: one writes its structures to a snapshot, the other
loads them from one. Each asks for a path first, and tells in a message how it ended.

- `Command`: the commands and how the menu presents them.
- `UiCall`: what the plugin asks the host to show.
- `Plugin.register`: the menu entries.
- `Plugin.invoke`: one run of a command, given the answer to its prompt.
-/

namespace StructVault

/-- The commands of the plugin. -/
inductive Command where
  | load
  | produce
  deriving DecidableEq, Repr

/-- Whether a file dialog asks for an existing file or for a destination. -/
inductive PathMode where
  | open
  | save
  deriving DecidableEq, Repr

namespace Command

/-- All commands, in the order of the menu. -/
def all : List Command := [load, produce]

/-- What messages call a command. -/
def name : Command → String
  | load => "load"
  | produce => "produce"

/-- The place of a command in the menu. -/
def menuPath : Command → String
  | load => "File/Load file/"
  | produce => "File/Produce file/"

/-- What the file dialog of a command asks for. -/
def pathMode : Command → PathMode
  | load => .open
  | produce => .save

/-- The text of the file dialog of a command. -/
def prompt : Command → String
  | load => "Open a file exported with the SymbolParser plugin."
  | produce => "Export a file with the SymbolParser plugin."

end Command

/-- What the plugin asks the host program to show. -/
inductive UiCall where
  | prompt (mode : PathMode) (filter text : String)
  | register (menuPath label : String) (command : Command)
  | message (text : String)
  deriving DecidableEq, Repr

/-- The plugin with its settings. -/
structure Plugin where
  /-- Whether loading compares the checksum. -/
  verifyChecksum : Bool := true
  /-- Whether producing makes the file durable. -/
  sync : Bool := true
  deriving DecidableEq, Repr

namespace Plugin

/-- The name of the plugin. -/
def name : String := "SymbolParser"

/-- The label of both menu entries. -/
def menuLabel : String := "SymbolParser struct info"

/-- The files that dialogs offer. -/
def fileFilter : String := "*.spst"

/-- How a command ended. -/
inductive Outcome where
  | exported (report : ExportReport)
  | imported (report : ImportReport)
  /-- Nobody chose a path. -/
  | cancelled
  deriving DecidableEq, Repr

/-- The calls that put the commands into the menu. -/
def register : List UiCall :=
  Command.all.map fun command => .register command.menuPath menuLabel command

/-- The message about a command that went well. -/
def successMessage : Outcome → String
  | .exported report =>
    s!"{name}: exported {report.summary.structures} structures "
      ++ s!"({report.summary.members} members) to {report.path.text}"
      ++ String.join (report.summary.warnings.map fun warning => s!" (warning: {warning.message})")
  | .imported report =>
    s!"{name}: loaded {report.structures} structures ({report.members} members) "
      ++ s!"from {report.path.text}"
  | .cancelled => s!"{name}: cancelled"

/-- The message about a command that failed. -/
def failureMessage (command : Command) (path : Path) (error : Database.Error) : String :=
  s!"{name}: {command.name} failed for {path.text}: {error.message}"

/-- Carry a command out on a path. -/
def perform (plugin : Plugin) (path : Path) : Command → DeskWork Outcome
  | .produce => .exported <$> DeskWork.exportTo path plugin.sync
  | .load => .imported <$> DeskWork.importFrom path plugin.verifyChecksum

/-- The end of a run: its outcome or error, what was shown, and the desk it leaves. -/
structure Run where
  result : Except Database.Error Outcome
  shown : List UiCall
  desk : Desk

/-- Run a command whose prompt is answered by `answer`, or dismissed. -/
def invoke (plugin : Plugin) (command : Command) (answer : Option Path) (desk : Desk) : Run :=
  let asked := UiCall.prompt command.pathMode fileFilter command.prompt
  match answer with
  | none => { result := .ok .cancelled, shown := [asked], desk }
  | some path =>
    match plugin.perform path command desk with
    | .ok outcome left =>
      { result := .ok outcome, shown := [asked, .message (successMessage outcome)], desk := left }
    | .error error left =>
      { result := .error error, shown := [asked, .message (failureMessage command path error)],
        desk := left }

/-- The default entry of the plugin: the command that produces a file. -/
def run (plugin : Plugin) (answer : Option Path) (desk : Desk) : Run :=
  plugin.invoke .produce answer desk

end Plugin

end StructVault
