import DartTriggers.Toolbox.Options
import DartTriggers.Toolbox.Sed.Edit
import DartTriggers.Toolbox.Sed.Reader
/-!
The stream editor as a program: its options, the pieces of its script and the files that it reads.
-/

namespace DartTriggers.Toolbox.Sed

/-- The options. -/
def options : List Choice :=
  [⟨'b', ["binary"], .nothing⟩, ⟨'n', ["quiet", "silent"], .nothing⟩,
   ⟨'\x01', ["debug"], .nothing⟩, ⟨'e', ["expression"], .value⟩, ⟨'f', ["file"], .value⟩,
   ⟨'\x02', ["follow-symlinks"], .nothing⟩, ⟨'i', ["in-place"], .maybe⟩,
   ⟨'l', ["line-length"], .value⟩, ⟨'\x03', ["posix"], .nothing⟩,
   ⟨'E', ["regexp-extended"], .nothing⟩, ⟨'r', [], .nothing⟩, ⟨'s', ["separate"], .nothing⟩,
   ⟨'\x04', ["sandbox"], .nothing⟩, ⟨'u', ["unbuffered"], .nothing⟩,
   ⟨'z', ["null-data", "zero-terminated"], .nothing⟩]

/-- A piece of a script, and where it is from. -/
inductive Piece where
  /-- An argument, and its number among those. -/
  | argument (number : Nat) (text : String)
  | file (name : String) (text : String)

def Piece.text : Piece → String
  | .argument _ text | .file _ text => text

/-- Where a spot in a piece is said to be. -/
def Piece.place (p : Piece) (position line : Nat) : String :=
  match p with
  | .argument number _ =>
      "-e expression #" ++ toString number ++ ", char " ++ toString position ++ ": "
  | .file name _ => "file " ++ name ++ " line " ++ toString line ++ ": "

def Complaint.message (pieces : List Piece) : Complaint → String
  | .malformed fault spot =>
      ((pieces[spot.piece]?).map fun p => p.place spot.position spot.line).getD "" ++ fault.message
  | .nakedClass => "character class syntax is [[:space:]], not [:space:]"
  | .noLabel name => "can't find label for jump to \x60" ++ name ++ "'"
  | .openBlock spot =>
      ((pieces[spot.piece]?).map fun p => p.place 0 spot.line).getD "" ++ "unmatched \x60\x7b'"

def Complaint.code : Complaint → Nat
  | .nakedClass | .noLabel _ => 4
  | _ => 1

/-- Reads the pieces of a script. -/
def readPieces : (number : Nat) → List Piece → Reader Unit
  | _, [] => Reader.finish
  | number, p :: rest => do
      Reader.piece number p.text.toList
      readPieces (number + 1) rest

/-- Gathers the pieces of a script from the options. -/
def piecesOf (s : Setting) : (number : Nat) → List Given → Except String (List Piece)
  | _, [] => .ok []
  | number, g :: rest =>
      if g.letter = 'e' then
        (piecesOf s (number + 1) rest).map (.argument number g.value :: ·)
      else if g.letter = 'f' then
        let text := if g.value = "-" then .ok s.input else readText s.tree (s.path g.value)
        match text with
        | .error e => .error ("couldn't open file " ++ g.value ++ ": " ++ e.reason)
        | .ok text => (piecesOf s number rest).map (.file g.value text :: ·)
      else piecesOf s number rest

def styleOf (a : Arguments) : Style :=
  { quiet := a.has 'n'
    extended := a.hasAny "Er"
    separate := a.has 's'
    inPlace := a.value? 'i'
    mark := if a.has 'z' then '\x00' else '\n'
    width := ((a.value? 'l').map fun w => w.toNat?.getD 0).getD 70 }

/-- What is found under the name of a file. -/
def inputFile (s : Setting) (style : Style) (name : String) : InputFile :=
  if name = "-" && style.inPlace.isNone then
    ⟨name, .lines (linesBy style.mark s.input.toList)⟩
  else
    match readText s.tree (s.path name) with
    | .ok text => ⟨name, .lines (linesBy style.mark text.toList)⟩
    | .error .isDirectory =>
        ⟨name, if style.inPlace.isSome then
          .leftOut ("couldn't edit " ++ name ++ ": not a regular file") 4
          else .broken ("read error on " ++ name ++ ": " ++ FileError.isDirectory.reason) 4⟩
    | .error e => ⟨name, .leftOut ("can't read " ++ name ++ ": " ++ e.reason) 2⟩

/-- Carries out a script that has been read. -/
def carryOut (shell : Program) (style : Style) (script : Script) (names : List String)
    (s : Setting) : Outcome :=
  if names.isEmpty && style.inPlace.isSome then s.start.complain 4 "sed: no input files"
  else
    let names := if names.isEmpty then ["-"] else names
    let machine : Machine :=
      { style := { style with quiet := style.quiet || script.quiet }
        setting := s
        script
        shell
        outcome := if names.contains "-" then { s.start with input := "" } else s.start
        files := names.map (inputFile s style)
        ranges := Machine.freshRanges script }
    machine.runAll

/-- Empties the files that are to be written to. -/
def clearFiles (s : Setting) : List String → Except (FileTree × String) Setting
  | [] => .ok s
  | name :: rest =>
      if name = "/dev/stdout" ∨ name = "/dev/stderr" then clearFiles s rest
      else
        match writeText s.tree (s.path name) "" with
        | .ok tree => clearFiles { s with tree } rest
        | .error e => .error (s.tree, "couldn't open file " ++ name ++ ": " ++ e.reason)

/-- How the stream editor is called. -/
def usage : String :=
  "Usage: sed [OPTION]... \x7bscript-only-if-no-other-script\x7d [input-file]..."

/-- The stream editor; the shell runs the commands of a script. -/
def sed (shell : Program) : Program := fun args s =>
  match readOptions options false args with
  | .error e => s.start.complain 1 ("sed: " ++ e.message ++ "\n" ++ usage)
  | .ok a =>
      match piecesOf s 1 a.options, a.hasAny "ef", a.operands with
      | .error message, _, _ => s.start.complain 1 ("sed: " ++ message)
      | .ok _, false, [] => s.start.complain 1 usage
      | .ok pieces, given, operands =>
          let style := styleOf a
          let pieces := if given then pieces else (operands.take 1).map (.argument 1)
          let files := if given then operands else operands.drop 1
          let (read, draft) := (readPieces 0 pieces).run { extended := style.extended }
          match clearFiles s draft.outputs, read with
          | .error (tree, message), _ => ({ s.start with tree }).complain 4 ("sed: " ++ message)
          | .ok s, .error complaint =>
              s.start.complain complaint.code ("sed: " ++ complaint.message pieces)
          | .ok s, .ok () => carryOut shell style draft.script files s

end DartTriggers.Toolbox.Sed
