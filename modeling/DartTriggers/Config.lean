import DartTriggers.FileTree.Access
import DartTriggers.Formatter
import DartTriggers.Json.Record
/-!
The configuration file of a project. Every field has a default; one that does not say where
output goes leaves it beside the descriptors.
-/

namespace DartTriggers

open Json (Decoder RecordField Record Complaint)

structure Config where
  /-- The directory that descriptors are looked for in. -/
  srcDir : String := "."
  variant : Variant := .extended
  /-- Whether generated files are formatted. -/
  format : Bool := true
  /-- The formatter and its arguments. -/
  formatCommand : List String := ["dart", "format"]
  /-- Where generated files go. -/
  outDir : Option String := none
deriving DecidableEq, Repr, Inhabited

namespace Config

/-- The name of the configuration file. -/
def fileName : String := "trigger.config.json"

def toJson (c : Config) : Json :=
  .object ([("srcDir", .string c.srcDir), ("variant", c.variant.toJson), ("format", .bool c.format),
    ("formatCommand", .array (c.formatCommand.map .string))] ++
    match c.outDir with
    | none => []
    | some dir => [("outDir", .string dir)])

/-- A configuration of which some fields have been read. -/
structure Draft where
  srcDir : Option String := none
  variant : Option Variant := none
  format : Option Bool := none
  formatCommand : Option (List String) := none
  outDir : Option (Option String) := none

def fields : List (RecordField Draft) :=
  [.of "srcDir" true .text (·.srcDir) fun x draft => { draft with srcDir := some x },
   .of "variant" true Variant.decoder (·.variant) fun x draft => { draft with variant := some x },
   .of "format" true .flag (·.format) fun x draft => { draft with format := some x },
   .of "formatCommand" true (.list .text) (·.formatCommand)
     fun x draft => { draft with formatCommand := some x },
   .of "outDir" true (.optional .text) (·.outDir) fun x draft => { draft with outDir := some x }]

/-- Fields that have not been read have their defaults. -/
def ofDraft (draft : Draft) : Config :=
  let unset : Config := {}
  { srcDir := draft.srcDir.getD unset.srcDir
    variant := draft.variant.getD unset.variant
    format := draft.format.getD unset.format
    formatCommand := draft.formatCommand.getD unset.formatCommand
    outDir := draft.outDir.getD unset.outDir }

def record : Record Draft Config :=
  ⟨"struct Config", fields, {}, fun draft => .ok (ofDraft draft)⟩

def decoder : Decoder Config :=
  record.decoder

/-- Why a configuration cannot be loaded. -/
inductive LoadError where
  | file (error : FileError)
  | document (error : Json.ReadError)
deriving DecidableEq, Repr

def LoadError.message : LoadError → String
  | .file e => e.message
  | .document e => e.message

/-- The configuration file in a directory. -/
def path (cwd : Path) : Path :=
  cwd.appendString fileName

/-- Loads the configuration in a directory, or the default one if there is none. -/
def load (t : FileTree) (cwd : Path) : Except LoadError Config :=
  if t.exists? (path cwd) then
    match t.readText (path cwd) with
    | .error e => .error (.file e)
    | .ok source =>
        match Json.decode decoder source with
        | .error e => .error (.document e)
        | .ok c => .ok c
  else .ok {}

/-- The directory that descriptors are looked for in, as a path. -/
def srcPath (c : Config) (cwd : Path) : Path :=
  cwd.appendString c.srcDir

/-- The command that formats generated files, if there is one. -/
def formatterCommand? (c : Config) : Option Command :=
  if c.format then
    match c.formatCommand with
    | [] => none
    | program :: args => some ⟨program, args⟩
  else none

def formatter (c : Config) (runner : Runner) : Formatter :=
  match c.formatterCommand? with
  | none => Formatter.none
  | some command => .ofCommand runner command

end Config

end DartTriggers
