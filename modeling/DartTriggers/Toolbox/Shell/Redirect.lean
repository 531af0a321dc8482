import DartTriggers.Toolbox.Shell.Builtin
/-!
Redirections: the channels of a command are changed before it runs. All targets are expanded first;
then the changes are made in order, up to one that cannot be made.
-/

namespace DartTriggers.Toolbox.Shell

/-- A change of a channel whose target is known. -/
structure Change where
  channel : Nat
  kind : Redirection
  target : String

/-- Whether a text stands for a channel, or for none. -/
def isChannel (text : String) : Bool :=
  text = "-" || (text.length = 1 && text.toList.all Char.isDigit)

/-- The changes that are written at a command. -/
def State.changesOf (run : Runner) (s : State) : List Redirect → State × List Change
  | [] => (s, [])
  | .mk channel kind word :: rest =>
      let (s, target) := s.expandWhole run word
      let s := if kind = .duplicate && !isChannel target && s.isRunning then
          s.abort "Syntax error: Bad fd number"
        else s
      if !s.isRunning then (s, [])
      else
        let (s, more) := State.changesOf run s rest
        (s, ⟨channel, kind, target⟩ :: more)

/-- Makes a channel the same as another one. -/
def State.duplicate (s : State) (channel other : Nat) : Except String State :=
  match s.channels.lookup other with
  | none => .error (toString other ++ ": Bad file descriptor")
  | some i => .ok { s with channels := (channel, i) :: s.channels.filter (·.1 ≠ channel) }

/-- The channels that are files too. -/
def channelFiles : List (String × Nat) :=
  [("/dev/stdin", 0), ("/dev/stdout", 1), ("/dev/stderr", 2), ("/dev/fd/0", 0), ("/dev/fd/1", 1),
   ("/dev/fd/2", 2)]

/-- Why a file cannot be opened, given what is said if it is not there. -/
def openFault (missing : String) : FileError → String
  | .notFound | .notDirectory => missing
  | e => e.reason

/-- Opens a file that is there to be read. -/
def State.openToRead (s : State) (channel : Nat) (name : String) : Except String State :=
  let path := s.path name
  match if name.isEmpty then .error .notFound else readText s.tree path with
  | .ok _ => .ok (s.openAt channel (.file path 0 false))
  | .error e =>
      if e = .isDirectory || (Host.kind? [] path).isSome then .ok (s.openAt channel .null)
      else .error ("cannot open " ++ name ++ ": " ++ openFault "No such file" e)

/-- Opens a file to be written, which is made if it is not there. `keeps` says whether its text is
kept. -/
def State.openToWrite (s : State) (channel : Nat) (keeps appends : Bool) (name : String) :
    Except String State :=
  let path := s.path name
  let old := readText s.tree path
  let text := if keeps then old.toOption.getD "" else ""
  match if name.isEmpty then .error .notFound else writeText s.tree path text with
  | .ok tree => .ok ({ s with tree }.openAt channel (.file path 0 appends))
  | .error e => .error ("cannot create " ++ name ++ ": " ++ openFault "Directory nonexistent" e)

/-- Changes a channel. -/
def State.change (run : Runner) (s : State) (c : Change) : Except String State :=
  match c.kind with
  | .document index =>
      let (s, text) := s.expandWhole run (s.documents.getD index [])
      .ok (s.openAt c.channel (.buffer text))
  | .duplicate =>
      match c.target.toNat? with
      | some other => s.duplicate c.channel other
      | none => .ok (s.close c.channel)
  | kind =>
      match channelFiles.lookup c.target with
      | some other => s.duplicate c.channel other
      | none =>
          if c.target = nullDevice then .ok (s.openAt c.channel .null)
          else if c.target = "/dev/tty" then
            .error ((if kind = .read then "cannot open " else "cannot create ") ++ c.target ++
              ": No such device or address")
          else
            match kind with
            | .read => s.openToRead c.channel c.target
            | .append => s.openToWrite c.channel true true c.target
            | .readWrite => s.openToWrite c.channel true false c.target
            | _ =>
                if kind = .write && s.has 'C' &&
                    (readText s.tree (s.path c.target)).toOption.isSome then
                  .error ("cannot create " ++ c.target ++ ": File exists")
                else s.openToWrite c.channel false false c.target

/-- Makes changes in order. Says whether all could be made; if not, a complaint has been shown. -/
def State.changeAll (run : Runner) (s : State) : List Change → State × Bool
  | [] => (s, true)
  | c :: rest =>
      match s.change run c with
      | .ok s => State.changeAll run s rest
      | .error text => ({ s.complain text with code := 2 }, false)

/-- Puts the channels of changes back as they were. -/
def State.undo (t : State) (channels : List (Nat × Nat)) (changes : List Change) : State :=
  let isChanged (e : Nat × Nat) : Bool := changes.any (·.channel = e.1)
  { t with channels := channels.filter isChanged ++ t.channels.filter (!isChanged ·) }

/-- Does something with changed channels. If they cannot be changed, this fails. -/
def State.redirected (run : Runner) (redirects : List Redirect) (act : State → State)
    (s : State) : State :=
  let (t, changes) := s.changesOf run redirects
  if !t.isRunning then t
  else
    let (t, areMade) := t.changeAll run changes
    let t := if areMade then act t else t
    t.undo s.channels changes

end DartTriggers.Toolbox.Shell
