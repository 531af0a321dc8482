import DartTriggers.Toolbox.Input
/-!
Changing what may be done with files. Files are not told apart by that, so only the modes themselves
are looked at, and whether there are the files.
-/

namespace DartTriggers.Toolbox.Mode

/-- Whether a text is a number in base eight that is a mode. -/
def isNumber (s : List Char) : Bool :=
  !s.isEmpty && s.all (fun c => '0' ≤ c && c ≤ '7') &&
    s.foldl (fun n c => 8 * n + (c.toNat - 48)) 0 < 4096

/-- Whether a text is made of changes, each an operator with letters or a number. -/
def isChanges : (room : Nat) → List Char → Bool
  | 0, _ => false
  | room + 1, s =>
      match s with
      | [] => true
      | c :: rest =>
          if c ≠ '+' ∧ c ≠ '-' ∧ c ≠ '=' then false
          else
            let digits := rest.takeWhile Char.isDigit
            let copied := match rest with
              | d :: more => if d = 'u' ∨ d = 'g' ∨ d = 'o' then some more else none
              | [] => none
            if !digits.isEmpty then isNumber digits && isChanges room (rest.drop digits.length)
            else
              match copied with
              | some more => isChanges room more
              | none => isChanges room (rest.dropWhile "rwxXst".toList.contains)

/-- Whether a text is a mode. -/
def isMode (text : String) : Bool :=
  isNumber text.toList ||
    (text.splitOn ",").all fun clause =>
      let changes := clause.toList.dropWhile "ugoa".toList.contains
      !changes.isEmpty && isChanges (changes.length + 1) changes

/-- Whether an argument is a mode that starts with a dash, and no option. -/
def isDashed (arg : String) : Bool :=
  match arg.toList with
  | '-' :: c :: _ => "rwxXstugoa,+=01234567".toList.contains c
  | _ => false

/-- Changes the mode of files. -/
def chmod : Program := fun args s =>
  let dashed := args.filter isDashed
  withOptions "chmod"
    [⟨'R', ["recursive"], .nothing⟩, ⟨'c', ["changes"], .nothing⟩,
     ⟨'f', ["silent", "quiet"], .nothing⟩, ⟨'v', ["verbose"], .nothing⟩,
     ⟨'\x01', ["reference"], .value⟩] 1 (fun a s =>
    let misused (text : String) : Outcome := s.start.misused 1 "chmod" text
    let given := !dashed.isEmpty || a.has '\x01'
    let mode := if given then some (",".intercalate dashed) else a.operands.head?
    let names := if given then a.operands else a.operands.drop 1
    match mode, names with
    | none, _ => misused "missing operand"
    | some mode, [] =>
        if given then misused "missing operand"
        else misused ("missing operand after " ++ quotedWord mode)
    | some mode, names =>
        if !a.has '\x01' && !isMode mode then misused ("invalid mode: " ++ quotedWord mode)
        else
          forEach (fun name o =>
            match o.tree.node (s.path name) with
            | .ok _ => o
            | .error e =>
                if a.has 'f' then o.exit 1
                else
                  o.complain 1 ("chmod: cannot access " ++ quotedName name ++ ": " ++ e.reason))
            names s.start) (args.filter (!isDashed ·)) s

end DartTriggers.Toolbox.Mode
