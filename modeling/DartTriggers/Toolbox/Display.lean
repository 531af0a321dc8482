import DartTriggers.Toolbox.Input
/-!
Showing files: their text as it is, or with numbers before lines and signs for what cannot be seen.
-/

namespace DartTriggers.Toolbox

/-- How a listing of files shows them. -/
structure Display where
  numbers : Bool := false
  /-- Only lines that are not empty are numbered. -/
  skipsEmpty : Bool := false
  squeezes : Bool := false
  showsEnds : Bool := false
  showsTabs : Bool := false
  showsControls : Bool := false

/-- Whether a text is shown as it is. -/
def Display.isPlain (d : Display) : Bool :=
  !(d.numbers || d.squeezes || d.showsEnds || d.showsTabs || d.showsControls)

/-- A character below 128 with a caret if it is a control. -/
def caretForm (c : Char) : String :=
  if c.toNat < 32 then .ofList ['^', Char.ofNat (c.toNat + 64)]
  else if c.toNat = 127 then "^?"
  else .singleton c

/-- A character as a display shows it. -/
def Display.char (d : Display) (c : Char) : String :=
  if c = '\t' then (if d.showsTabs then "^I" else "\t")
  else if !d.showsControls then .singleton c
  else if c.toNat < 128 then caretForm c
  else "M-" ++ caretForm (Char.ofNat (c.toNat - 128))

/-- What a display remembers from line to line. -/
structure DisplayState where
  number : Nat := 0
  atStart : Bool := true
  /-- How many empty lines have just been shown. -/
  emptyLines : Nat := 0

/-- A line as a display shows it. -/
def Display.line (d : Display) (st : DisplayState) (line : String) : DisplayState × String :=
  let ended := line.endsWith "\n"
  let text := withoutEnd line
  let isEmpty := st.atStart && text.isEmpty && ended
  if isEmpty && d.squeezes && 0 < st.emptyLines then (st, "")
  else
    let numbered := d.numbers && st.atStart && !(d.skipsEmpty && isEmpty)
    let number := if numbered then st.number + 1 else st.number
    let last := text.toList.getLast?
    let text := if d.showsEnds && ended && !d.showsControls && last = some '\r' then
        (text.dropEnd 1).toString ++ "^M" else text
    let shown := String.join (text.toList.map d.char) ++
      (if ended then (if d.showsEnds then "$\n" else "\n") else "")
    ({ number, atStart := ended, emptyLines := if isEmpty then st.emptyLines + 1 else 0 },
      (if numbered then inColumns 6 number ++ "\t" else "") ++ shown)

/-- A text as a display shows it. -/
def Display.text (d : Display) (st : DisplayState) (text : String) : DisplayState × String :=
  (linesOf text).foldl (fun (st, shown) line =>
    let (st, more) := d.line st line
    (st, shown ++ more)) (st, "")

/-- Shows one file after the other. -/
def showFiles (d : Display) (s : Setting) : List String → DisplayState → Outcome → Outcome
  | [], _, o => o
  | name :: rest, st, o =>
      let text := if name = "-" then .ok o.input else readText o.tree (s.path name)
      let o := if name = "-" then { o with input := "" } else o
      let isOutput := match s.outputFile, o.tree.locate (s.path name) with
        | some out, .ok (.entry parent last _) =>
            match o.tree.locate out.path with
            | .ok (.entry parent' last' _) => parent = parent' && last = last' && 0 < out.offset
            | _ => false
        | _, _ => false
      match text with
      | .error e =>
          showFiles d s rest st (o.complain 1 ("cat: " ++ shownName name ++ ": " ++ e.reason))
      | .ok text =>
          if isOutput then
            showFiles d s rest st
              (o.complain 1 ("cat: " ++ shownName name ++ ": input file is output file"))
          else if d.isPlain then showFiles d s rest st (o.say text)
          else
            let (st, shown) := d.text st text
            showFiles d s rest st (o.say shown)

/-- Shows files. -/
def cat : Program :=
  withOptions "cat"
    [⟨'A', ["show-all"], .nothing⟩, ⟨'b', ["number-nonblank"], .nothing⟩, ⟨'e', [], .nothing⟩,
     ⟨'E', ["show-ends"], .nothing⟩, ⟨'n', ["number"], .nothing⟩,
     ⟨'s', ["squeeze-blank"], .nothing⟩, ⟨'t', [], .nothing⟩, ⟨'T', ["show-tabs"], .nothing⟩,
     ⟨'u', [], .nothing⟩, ⟨'v', ["show-nonprinting"], .nothing⟩] 1 fun a s =>
    let d : Display :=
      { numbers := a.hasAny "nb", skipsEmpty := a.has 'b', squeezes := a.has 's',
        showsEnds := a.hasAny "AeE", showsTabs := a.hasAny "AtT", showsControls := a.hasAny "Aetv" }
    showFiles d s (if a.operands.isEmpty then ["-"] else a.operands) {} s.start

end DartTriggers.Toolbox
