import DartTriggers.Command.Paint
import DartTriggers.Config
import DartTriggers.WriteUnit
/-!
The command that generates units. A plan is made first, from the tree as it is: which descriptors
there are, how their units are generated and where they go. Only a plan that is not refused is
carried out, descriptor by descriptor; one that fails is reported and does not stop the others.
-/

namespace DartTriggers.Generate

/-- What is asked for. -/
structure Args where
  /-- The descriptor or directory, if not the configured one. -/
  path : Option String := none
  unit : Option String := none
  outDir : Option String := none
  toStdout : Bool := false
  noFormat : Bool := false
  variant : Option String := none
deriving DecidableEq, Repr, Inhabited

/-- Why the command fails. -/
inductive Refusal where
  | config (error : Config.LoadError)
  | unknownVariant (name : String)
  | missingInput (input : Path)
  /-- A unit is named, and there are several descriptors. -/
  | severalDescriptors (count : Nat)
  | collision (earlier later target : Path)
  | failedDescriptors (count : Nat)
deriving DecidableEq, Repr

def Refusal.message : Refusal → String
  | .config e => e.message
  | .unknownVariant name => Variant.unknownMessage name
  | .missingInput input => "Input path does not exist: " ++ input.display
  | .severalDescriptors count =>
      "--unit can only be used with a single descriptor, found " ++ toString count
  | .collision earlier later target =>
      earlier.display ++ " and " ++ later.display ++ " would both write " ++ target.display
  | .failedDescriptors count => toString count ++ " descriptors failed"

/-- What is to be generated. -/
structure Plan where
  input : Path
  options : Options
  formatter : Formatter
  /-- Where units go, if not beside their descriptors. -/
  outDir : Option Path
  descriptors : List Path
  /-- The name of the only unit, if it is not named after its descriptor. -/
  unit : Option UnitName
  toStdout : Bool
  /-- The directory that descriptors are shown relative to. -/
  base : Path

/-- The variant that is asked for, or else the configured one. -/
def chooseVariant (config : Config) (args : Args) : Except Refusal Variant :=
  match args.variant with
  | none => .ok config.variant
  | some name =>
      match Variant.ofName? name with
      | some variant => .ok variant
      | none => .error (.unknownVariant name)

/-- The descriptor or directory that is asked for, or else the configured one. -/
def inputPath (config : Config) (args : Args) (cwd : Path) : Path :=
  match args.path with
  | some path => cwd.appendString path
  | none => config.srcPath cwd

/-- The directory that descriptors of an input are shown relative to. -/
def basePath (tree : FileTree) (input : Path) : Path :=
  if tree.isDirectory input then input else input.parent?.getD input

/-- Makes a plan from the tree as it is. -/
def plan (tree : FileTree) (runner : Runner) (cwd : Path) (args : Args) : Except Refusal Plan :=
  match Config.load tree cwd with
  | .error e => .error (.config e)
  | .ok config =>
      match chooseVariant config args with
      | .error e => .error e
      | .ok variant =>
          let input := inputPath config args cwd
          match tree.descriptors? input with
          | none => .error (.missingInput input)
          | some descriptors =>
              .ok
                { input
                  options := { variant }
                  formatter := if args.noFormat then .none else config.formatter runner
                  outDir := (args.outDir.or config.outDir).map cwd.appendString
                  descriptors
                  unit := args.unit.map UnitName.mk
                  toStdout := args.toStdout
                  base := basePath tree input }

/-- The first descriptor whose target in a directory is that of an earlier one, given the targets
before; with the earlier one and the target. Paths with the same components are one target. -/
def collisionAfter (options : Options) (dir : Path) (seen : List (List Path.Component × Path)) :
    List Path → Option (Path × Path × Path)
  | [] => none
  | descriptor :: rest =>
      match UnitName.ofPath? descriptor with
      | none => collisionAfter options dir seen rest
      | some unit =>
          let target := unitFile options unit dir
          match seen.lookup target.components with
          | some earlier => some (earlier, descriptor, target)
          | none => collisionAfter options dir ((target.components, descriptor) :: seen) rest

/-- Why a plan is not carried out, if it is not. -/
def Plan.refusal? (p : Plan) : Option Refusal :=
  if p.unit.isSome ∧ 1 < p.descriptors.length then some (.severalDescriptors p.descriptors.length)
  else
    match p.outDir with
    | none => none
    | some dir =>
        if p.toStdout then none
        else
          (collisionAfter p.options dir [] p.descriptors).map fun (earlier, later, target) =>
            .collision earlier later target

/-- Why a descriptor fails. -/
inductive Failure where
  | unit (error : UnitError)
  | outDir (error : FileError)
deriving DecidableEq, Repr

def Failure.message : Failure → String
  | .unit e => e.message
  | .outDir e => e.message

/-- The unit of a descriptor. -/
def Plan.unitOf (p : Plan) (descriptor : Path) : Except UnitError UnitName :=
  match p.unit with
  | some unit => .ok unit
  | none =>
      match UnitName.ofPath? descriptor with
      | some unit => .ok unit
      | none => .error (.noUnitName descriptor)

/-- Makes the directory for a unit, where it is not the descriptor's own. -/
def Plan.makeDirectory (p : Plan) (tree : FileTree) (descriptor : Path) :
    FileTree × Except FileError Path :=
  match p.outDir with
  | none => (tree, .ok (descriptor.parent?.getD ⟨Path.dot⟩))
  | some dir =>
      match tree.makeDirectories dir with
      | (tree, .error e) => (tree, .error e)
      | (tree, .ok ()) => (tree, .ok dir)

/-- Shows or writes the unit of a registry; gives the file that was written, if one was. -/
def Plan.emit (p : Plan) (tree : FileTree) (descriptor : Path) (unit : UnitName) (r : Registry) :
    Attempt Failure (Option Path) :=
  if p.toStdout then
    ⟨tree, Transcript.ofEvents (Dart.compilationEvents p.options.variant r) ++
      [.out (Dart.generateUnit p.options unit r)], .ok none⟩
  else
    match p.makeDirectory tree descriptor with
    | (tree, .error e) => ⟨tree, [], .error (.outDir e)⟩
    | (tree, .ok dir) =>
        let written := writeUnit tree p.formatter p.options unit dir r
        ⟨written.tree, written.transcript,
          match written.result with
          | .error e => .error (.unit e)
          | .ok file => .ok (some file)⟩

/-- Generates the unit of a descriptor. -/
def Plan.generate (p : Plan) (tree : FileTree) (descriptor : Path) :
    Attempt Failure (Option Path) :=
  match Registry.load tree descriptor with
  | .error e => ⟨tree, [], .error (.unit e)⟩
  | .ok loaded =>
      let warnings := Transcript.ofEvents loaded.events
      match p.unitOf descriptor with
      | .error e => ⟨tree, warnings, .error (.unit e)⟩
      | .ok unit =>
          let emitted := p.emit tree descriptor unit loaded.value
          { emitted with transcript := warnings ++ emitted.transcript }

/-- The path of a descriptor as it is shown. -/
def Plan.shown (p : Plan) (descriptor : Path) : String :=
  ((descriptor.relativeTo? p.base).getD descriptor).display

/-- What is shown of what came of a descriptor. -/
def Plan.report (p : Plan) (colored : Bool) (descriptor : Path) :
    Except Failure (Option Path) → Transcript
  | .ok none => []
  | .ok (some file) =>
      [outLine ("  " ++ paint colored [.green] "✓" ++ " " ++ p.shown descriptor ++ " → " ++
        file.display)]
  | .error e =>
      [errLine ("  " ++ paint colored [.red] "✗" ++ " " ++ p.shown descriptor ++ " - " ++
        paint colored [.red] e.message)]

/-- The tree after some descriptors, what was shown, and how many succeeded and failed. -/
structure Progress where
  tree : FileTree
  transcript : Transcript
  succeeded : Nat
  failed : Nat

/-- Goes on with one descriptor. -/
def Plan.advance (p : Plan) (colored : Bool) (progress : Progress) (descriptor : Path) :
    Progress :=
  let attempt := p.generate progress.tree descriptor
  let ok := attempt.result.toOption.isSome
  { tree := attempt.tree
    transcript := progress.transcript ++ attempt.transcript ++
      p.report colored descriptor attempt.result
    succeeded := progress.succeeded + if ok then 1 else 0
    failed := progress.failed + if ok then 0 else 1 }

/-- Generates the units of all descriptors. -/
def Plan.generateAll (p : Plan) (colored : Bool) (tree : FileTree) : Progress :=
  p.descriptors.foldl (p.advance colored) ⟨tree, [], 0, 0⟩

/-- What is shown before the descriptors. -/
def Plan.banner (p : Plan) (colored : Bool) : Transcript :=
  if p.toStdout then []
  else
    [outLine (paint colored [.bold, .brightBlue] "🔨 Generating trigger code..."),
     outLine ("Found " ++ toString p.descriptors.length ++ " descriptors (" ++
      p.options.variant.name ++ " variant)")]

/-- What is shown after the descriptors. -/
def Plan.summary (p : Plan) (colored : Bool) (progress : Progress) : Transcript :=
  if p.toStdout then []
  else if progress.failed = 0 then
    [outLine "", outLine (paint colored [.green] "✅" ++ " Generated " ++
      toString progress.succeeded ++ " units successfully")]
  else
    [outLine "", outLine (paint colored [.yellow] "⚠️" ++ " Generated " ++
      toString progress.succeeded ++ " units, " ++ toString progress.failed ++ " errors")]

/-- Carries out a plan that is not refused. -/
def Plan.carryOut (p : Plan) (colored : Bool) (tree : FileTree) : Attempt Refusal Unit :=
  let progress := p.generateAll colored tree
  ⟨progress.tree, p.banner colored ++ progress.transcript ++ p.summary colored progress,
    if progress.failed = 0 then .ok () else .error (.failedDescriptors progress.failed)⟩

/-- What is reported about a plan. -/
def Plan.event (p : Plan) : Log.Event :=
  .resolvedDescriptors p.input p.descriptors.length p.options.variant

/-- Runs the command. -/
def run (tree : FileTree) (runner : Runner) (colored : Bool) (cwd : Path) (args : Args) :
    Attempt Refusal Unit :=
  match plan tree runner cwd args with
  | .error e => ⟨tree, [], .error e⟩
  | .ok p =>
      if p.descriptors.isEmpty then
        ⟨tree, [.event p.event,
          outLine (paint colored [.yellow] "⚠️  No descriptor files found")], .ok ()⟩
      else
        match p.refusal? with
        | some e => ⟨tree, [.event p.event], .error e⟩
        | none =>
            let done := p.carryOut colored tree
            { done with transcript := .event p.event :: done.transcript }

end DartTriggers.Generate
