import DartTriggers.Toolbox.Entries
/-!
Making empty files and directories.
-/

namespace DartTriggers.Toolbox

/-- Makes an empty file if there is nothing. -/
def touchFile (s : Setting) (creates : Bool) (name : String) (o : Outcome) : Outcome :=
  let p := s.path name
  let refuse (what reason : String) : Outcome :=
    o.complain 1 ("touch: " ++ what ++ " " ++ quotedName name ++ ": " ++ reason)
  match o.tree.node p with
  | .ok _ => o
  | .error e =>
      let isPlace := (namesAt? o.tree p).isSome && name.endsWith "/"
      if !creates then
        if e = .notFound then o else refuse "setting times of" e.reason
      else if isPlace then refuse "setting times of" e.reason
      else
        match if e = .notFound then writeText o.tree p "" else .error e with
        | .ok tree => { o with tree }
        | .error e => refuse "cannot touch" e.reason

/-- Makes empty files where there is nothing. -/
def touch : Program :=
  withOptions "touch"
    [⟨'a', [], .nothing⟩, ⟨'c', ["no-create"], .nothing⟩, ⟨'d', ["date"], .value⟩,
     ⟨'f', [], .nothing⟩, ⟨'h', ["no-dereference"], .nothing⟩, ⟨'m', [], .nothing⟩,
     ⟨'r', ["reference"], .value⟩, ⟨'t', [], .value⟩, ⟨'\x01', ["time"], .value⟩] 1 fun a s =>
    match a.value? 'r' with
    | some name =>
        match s.tree.node (s.path name) with
        | .ok _ => forEach (touchFile s !(a.hasAny "ch")) a.operands s.start
        | .error e =>
            s.start.complain 1 ("touch: failed to get attributes of " ++ quotedName name ++ ": " ++
              e.reason)
    | none =>
        if a.operands.isEmpty then s.start.misused 1 "touch" "missing file operand"
        else forEach (touchFile s !(a.hasAny "ch")) a.operands s.start

/-- Makes a directory and those above it, one after the other. -/
def makeEach (verbose : Bool) (s : Setting) : (made : String) → List String → Outcome → Outcome
  | _, [], o => o
  | made, part :: rest, o =>
      let name := made ++ part
      let p := s.path name
      match if part.isEmpty then .error .alreadyExists else o.tree.makeDirectory p with
      | .ok tree =>
          let o := { o with tree }
          let o := if verbose then
              o.say ("mkdir: created directory " ++ quotedName name ++ "\n")
            else o
          makeEach verbose s (name ++ "/") rest o
      | .error e =>
          if part.isEmpty || (e = .alreadyExists && o.tree.isDirectory p) then
            makeEach verbose s (name ++ "/") rest o
          else
            let reason := if rest.isEmpty then e.reason else FileError.notDirectory.reason
            o.complain 1 ("mkdir: cannot create directory " ++ quotedName name ++ ": " ++ reason)

/-- Makes a directory. -/
def makeOne (verbose : Bool) (s : Setting) (name : String) (o : Outcome) : Outcome :=
  match o.tree.makeDirectory (s.path name) with
  | .ok tree =>
      let o := { o with tree }
      if verbose then o.say ("mkdir: created directory " ++ quotedName name ++ "\n") else o
  | .error e =>
      o.complain 1 ("mkdir: cannot create directory " ++ quotedName name ++ ": " ++ e.reason)

/-- Makes directories. -/
def mkdir : Program :=
  withOptions "mkdir"
    [⟨'m', ["mode"], .value⟩, ⟨'p', ["parents"], .nothing⟩, ⟨'v', ["verbose"], .nothing⟩,
     ⟨'Z', [], .nothing⟩] 1 fun a s =>
    if a.operands.isEmpty then s.start.misused 1 "mkdir" "missing operand"
    else
      forEach (fun name o =>
        if a.has 'p' && !name.isEmpty then makeEach (a.has 'v') s "" (name.splitOn "/") o
        else makeOne (a.has 'v') s name o) a.operands s.start

end DartTriggers.Toolbox
