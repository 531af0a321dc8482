import DartTriggers.Command.Init
import DartTriggers.Proofs.Config
import DartTriggers.Proofs.FileTree.Directories
/-!
The effect of the command that starts a project. Up to the configuration it only adds to the tree,
and the configuration comes last: whatever fails, nothing that was there is lost.
-/

namespace DartTriggers.Init

open FileTree (Keeps)

theorem isPlain_exampleName : Path.IsPlain (Bytes.ofString exampleName) := by
  refine ⟨by decide, by decide, by decide⟩

section

variable {first : Work} {next : FileTree → Work}

theorem andThen_of_ok (h : first.result = .ok ()) :
    (andThen first next).tree = (next first.tree).tree ∧
      (andThen first next).result = (next first.tree).result := by
  rw [andThen, h]
  exact ⟨rfl, rfl⟩

theorem andThen_of_error {e : FileError} (h : first.result = .error e) :
    andThen first next = first := by
  rw [andThen, h]

theorem result_andThen_eq_ok (h : (andThen first next).result = .ok ()) :
    first.result = .ok () ∧ (next first.tree).result = .ok () := by
  cases hfirst : first.result with
  | error e =>
      rw [andThen_of_error hfirst, hfirst] at h
      cases h
  | ok _ =>
      rw [(andThen_of_ok hfirst).2] at h
      exact ⟨rfl, h⟩

/-- What both parts of the work keep, the whole work keeps. -/
theorem keeps_andThen {tree : FileTree} (hfirst : Keeps tree first.tree)
    (hnext : Keeps first.tree (next first.tree).tree) : Keeps tree (andThen first next).tree := by
  cases hresult : first.result with
  | error e =>
      rw [andThen_of_error hresult]
      exact hfirst
  | ok _ =>
      rw [(andThen_of_ok hresult).1]
      exact hfirst.trans hnext

end

section

variable {colored : Bool} {file : Path} {name text : String} {tree : FileTree}

theorem writeText_of_writeFile (h : (writeFile colored file name text tree).result = .ok ()) :
    tree.writeText file text = .ok (writeFile colored file name text tree).tree := by
  unfold writeFile at h ⊢
  cases hwrite : tree.writeText file text with
  | error e =>
      rw [hwrite] at h
      cases h
  | ok written => rfl

theorem tree_writeFile_of_error {e : FileError}
    (h : (writeFile colored file name text tree).result = .error e) :
    (writeFile colored file name text tree).tree = tree := by
  unfold writeFile at h ⊢
  cases hwrite : tree.writeText file text with
  | error e => rfl
  | ok written =>
      rw [hwrite] at h
      cases h

end

section

variable {tree : FileTree} (hroot : tree.kind? [] = some .directory) (colored : Bool) (args : Args)
  (dir : Path)

include hroot

theorem keeps_makeSource : Keeps tree (makeSource colored args dir tree).tree := by
  have hwidens := FileTree.widens_makeDirectories hroot dir
  rw [makeSource]
  split
  · exact .refl tree
  · split
    · rename_i made e hmake
      rw [hmake] at hwidens
      exact hwidens.keeps
    · rename_i made hmake
      rw [hmake] at hwidens
      exact hwidens.keeps

/-- The example is written only where there is nothing of its name. -/
theorem keeps_writeExample : Keeps tree (writeExample colored dir tree).tree := by
  rw [writeExample]
  split
  · exact .refl tree
  · rename_i hnone
    rw [Bool.not_eq_true] at hnone
    cases hresult : (writeFile colored (dir.appendString exampleName) exampleName exampleContent
        tree).result with
    | error e =>
        rw [tree_writeFile_of_error hresult]
        exact .refl tree
    | ok _ =>
        exact FileTree.keeps_of_write hroot hnone (writeText_of_writeFile hresult)

theorem exists?_writeExample (h : (writeExample colored dir tree).result = .ok ()) :
    (writeExample colored dir tree).tree.exists? (dir.appendString exampleName) = true := by
  rw [writeExample] at h ⊢
  split at h
  · rename_i hexists
    rw [if_pos hexists]
    exact hexists
  · rename_i hnone
    rw [if_neg hnone]
    exact FileTree.exists?_of_write hroot (writeText_of_writeFile h)

end

/-- The work up to the directory for descriptors. -/
def prepare (tree : FileTree) (colored : Bool) (cwd : Path) (args : Args) : Work :=
  let start : Work :=
    ⟨tree, [outLine (paint colored [.bold, .brightBlue]
      "📝 Initializing trigger generation...")], .ok ()⟩
  andThen start (makeSource colored args (cwd.appendString args.srcDir))

/-- The work up to the example. -/
def illustrate (tree : FileTree) (colored : Bool) (cwd : Path) (args : Args) : Work :=
  andThen (prepare tree colored cwd args) (writeExample colored (cwd.appendString args.srcDir))

def configure (colored : Bool) (cwd : Path) (args : Args) : FileTree → Work :=
  writeFile colored (Config.path cwd) Config.fileName (configFor args).toJson.pretty

theorem run_of_exists {tree : FileTree} {cwd : Path} {args : Args}
    (hexists : tree.exists? (Config.path cwd) = true) (hforce : args.force = false)
    (colored : Bool) :
    (run tree colored cwd args).result = .ok () ∧ (run tree colored cwd args).tree = tree := by
  rw [run, hexists, hforce]
  exact ⟨rfl, rfl⟩

section

variable {tree : FileTree} {cwd : Path} {args : Args}

/-- The configuration is what the work ends with, but for the lines at the end. -/
theorem run_eq (hdo : ¬ (tree.exists? (Config.path cwd) = true ∧ args.force = false))
    (colored : Bool) :
    let work := andThen (illustrate tree colored cwd args) (configure colored cwd args)
    (run tree colored cwd args).tree = work.tree ∧
      (run tree colored cwd args).result = work.result := by
  intro work
  have hrun : run tree colored cwd args =
      andThen work fun tree => ⟨tree, closing colored args, .ok ()⟩ := by
    rw [run, if_neg (by simpa using hdo)]
    rfl
  rw [hrun]
  cases hwork : work.result with
  | error e =>
      rw [andThen_of_error hwork]
      exact ⟨rfl, hwork⟩
  | ok _ =>
      exact andThen_of_ok hwork

variable (hroot : tree.kind? [] = some .directory) (colored : Bool)

include hroot

theorem keeps_prepare (cwd : Path) (args : Args) :
    Keeps tree (prepare tree colored cwd args).tree := by
  rw [prepare]
  exact keeps_andThen (.refl tree) (keeps_makeSource hroot colored args _)

theorem keeps_illustrate (cwd : Path) (args : Args) :
    Keeps tree (illustrate tree colored cwd args).tree := by
  have hmade := keeps_prepare hroot colored cwd args
  exact keeps_andThen hmade (keeps_writeExample (hmade [] _ hroot) colored _)

theorem exists?_illustrate (h : (illustrate tree colored cwd args).result = .ok ()) :
    (illustrate tree colored cwd args).tree.exists?
      ((cwd.appendString args.srcDir).appendString exampleName) = true := by
  obtain ⟨hmade, hwritten⟩ := result_andThen_eq_ok h
  have hroot' := keeps_prepare hroot colored cwd args [] _ hroot
  rw [illustrate, (andThen_of_ok hmade).1]
  exact exists?_writeExample hroot' colored _ hwritten

/-- Either the command fails and nothing is lost, or all that is lost is an old configuration. -/
theorem run_cases (hdo : ¬ (tree.exists? (Config.path cwd) = true ∧ args.force = false)) :
    (∃ e, (run tree colored cwd args).result = .error e ∧
      Keeps tree (run tree colored cwd args).tree) ∨
    ((run tree colored cwd args).result = .ok () ∧ ∃ ready, Keeps tree ready ∧
      ready.exists? ((cwd.appendString args.srcDir).appendString exampleName) = true ∧
      ready.writeText (Config.path cwd) (configFor args).toJson.pretty =
        .ok (run tree colored cwd args).tree) := by
  obtain ⟨htree, hresult⟩ := run_eq hdo colored
  have hkeeps := keeps_illustrate hroot colored cwd args
  rw [htree, hresult]
  cases hready : (illustrate tree colored cwd args).result with
  | error e =>
      rw [andThen_of_error hready]
      exact .inl ⟨e, hready, hkeeps⟩
  | ok _ =>
      rw [(andThen_of_ok hready).1, (andThen_of_ok hready).2]
      cases hconfigured :
          (configure colored cwd args (illustrate tree colored cwd args).tree).result with
      | error e =>
          refine .inl ⟨e, rfl, ?_⟩
          rw [configure, tree_writeFile_of_error hconfigured]
          exact hkeeps
      | ok _ =>
          exact .inr ⟨rfl, _, hkeeps, exists?_illustrate hroot colored hready,
            writeText_of_writeFile hconfigured⟩

end

theorem location_example_ne (dir cwd : Path) :
    (dir.appendString exampleName).location ≠ (Config.path cwd).location := by
  have hexample : (dir.appendString exampleName).location =
      dir.location ++ [Bytes.ofString exampleName] :=
    Path.location_append_plain isPlain_exampleName
  rw [hexample, Config.location_path]
  intro heq
  obtain ⟨-, hname⟩ := List.append_inj' heq rfl
  exact absurd hname (by decide)

/-- The command leaves a project alone that has a configuration, unless it is forced. Otherwise, if
it succeeds, the configuration that is loaded afterwards is the default one with the directory for
descriptors that was asked for, whatever its name, and the example is there. No file but an old
configuration is lost, and not even that one if the command fails. -/
theorem run_lossless {tree : FileTree} (hroot : tree.kind? [] = some .directory) (colored : Bool)
    (cwd : Path) (args : Args) :
    let after := run tree colored cwd args
    (tree.exists? (Config.path cwd) = true → args.force = false →
      after.result = .ok () ∧ after.tree = tree) ∧
    (¬ (tree.exists? (Config.path cwd) = true ∧ args.force = false) → after.result = .ok () →
      Config.load after.tree cwd = .ok { srcDir := args.srcDir } ∧
        after.tree.exists? ((cwd.appendString args.srcDir).appendString exampleName) = true) ∧
    (∀ location content, location ≠ (Config.path cwd).location →
      tree.content? location = some content → after.tree.content? location = some content) ∧
    ∀ e, after.result = .error e → ∀ location content,
      tree.content? location = some content → after.tree.content? location = some content := by
  intro after
  refine ⟨fun hexists hforce => run_of_exists hexists hforce colored, ?_⟩
  by_cases hdo : tree.exists? (Config.path cwd) = true ∧ args.force = false
  · obtain ⟨hok, htree⟩ : after.result = .ok () ∧ after.tree = tree :=
      run_of_exists hdo.1 hdo.2 colored
    rw [hok, htree]
    exact ⟨fun hnot => absurd hdo hnot, fun _ _ _ hcontent => hcontent, nofun⟩
  · rcases run_cases hroot colored hdo with
      ⟨e, herror, hkeeps⟩ | ⟨hok, ready, hkeeps, hexample, hwrite⟩
    · have hcontent : ∀ location content, tree.content? location = some content →
          after.tree.content? location = some content := fun _ _ => hkeeps.content?
      refine ⟨fun _ hok => ?_, fun location content _ => hcontent location content,
        fun _ _ => hcontent⟩
      rw [herror] at hok
      cases hok
    · have hroot' : ready.kind? [] = some .directory := hkeeps [] _ hroot
      obtain ⟨hsame, -, hother⟩ :=
        FileTree.content?_of_write hroot' hwrite
      refine ⟨fun _ _ => ⟨Config.load_of_writeText hroot' true hwrite, ?_⟩, ?_, ?_⟩
      · have hunchanged := hother _ (location_example_ne (cwd.appendString args.srcDir) cwd)
        rw [← hexample]
        exact (hsame.exists?_eq isPlain_exampleName hunchanged.symm).symm
      · intro location content hne hcontent
        change FileTree.content? (run tree colored cwd args).tree location = _
        rw [hother location hne]
        exact hkeeps.content? hcontent
      · intro e herror
        rw [show after.result = .ok () from hok] at herror
        cases herror

/-- A project with a configuration and one other file. -/
def started : FileTree :=
  (FileTree.empty.putFile [⟨Bytes.ofString Config.fileName, by decide⟩] "\x7b\x7d".toUTF8).putFile
    [⟨Bytes.ofString "main.dart", by decide⟩] "main() \x7b\x7d".toUTF8

theorem run_lossless_started :
    let cwd := Path.ofString "/"
    let forced := run started false cwd { srcDir := "lib/\"\n\"", force := true }
    let failed := run started false cwd { srcDir := "main.dart", force := true }
    (run started false cwd {}).tree = started ∧
    (Config.load forced.tree cwd = .ok { srcDir := "lib/\"\n\"" } ∧
      forced.tree.exists? (.ofString "/lib/\"\n\"/models.trigger.json") = true ∧
      forced.tree.content? [Bytes.ofString "main.dart"] = some "main() \x7b\x7d".toUTF8) ∧
    failed.result = .error .notDirectory ∧
      failed.tree.content? [Bytes.ofString Config.fileName] = some "\x7b\x7d".toUTF8 := by
  intro cwd forced failed
  have hroot : started.kind? [] = some .directory := rfl
  have hforced : forced.result = .ok () := by decide +kernel
  have hfailed : failed.result = .error .notDirectory := by decide +kernel
  obtain ⟨hleave, -, -⟩ := run_lossless hroot false cwd {}
  obtain ⟨-, hstart, hkeep, -⟩ :=
    run_lossless hroot false cwd { srcDir := "lib/\"\n\"", force := true }
  obtain ⟨-, -, -, hfail⟩ := run_lossless hroot false cwd { srcDir := "main.dart", force := true }
  obtain ⟨hload, hexample⟩ := hstart (fun h => Bool.noConfusion h.2) hforced
  refine ⟨(hleave (by decide +kernel) rfl).2, ⟨hload, hexample, ?_⟩, hfailed, ?_⟩
  · exact hkeep _ _ (by decide +kernel) (by decide +kernel)
  · exact hfail _ hfailed _ _ (by decide +kernel)

end DartTriggers.Init
