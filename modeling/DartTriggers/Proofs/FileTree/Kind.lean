import Mathlib.Data.List.Basic
import Mathlib.Tactic.ByContra
import DartTriggers.FileTree.Node
/-!
What stands at each place of a file tree. A file that is put somewhere, or a new directory, changes
nothing at any other place.
-/

namespace DartTriggers

/-- What a node is, whatever is below it. -/
inductive Kind where
  | file (content : ByteArray)
  | directory

def Kind.content? : Kind → Option ByteArray
  | .file content => some content
  | .directory => none

namespace Node

def kind : Node → Kind
  | .file content => .file content
  | .directory _ => .directory

theorem child?_putEntry (name name' : Name) (node : Node) (entries : List (Name × Node)) :
    child? name' (putEntry name node entries) =
      if name = name' then some node else child? name' entries := by
  induction entries with
  | nil => simp [putEntry, child?]
  | cons e entries ih =>
      obtain ⟨n, old⟩ := e
      by_cases hn : n = name
      · subst hn
        simp only [putEntry, if_true, child?]
        split <;> rfl
      · rw [putEntry, if_neg hn]
        split
        · rfl
        · rw [child?, child?, ih]
          by_cases hname : name = name'
          · rw [if_neg (fun h => hn (h.trans hname.symm)), if_pos hname, if_pos hname]
          · rw [if_neg hname, if_neg hname]

theorem find?_nil (node : Node) : node.find? [] = some node := by
  cases node <;> rfl

theorem find?_directory_cons (entries : List (Name × Node)) (name : Name) (names : List Name) :
    (directory entries).find? (name :: names) =
      (child? name entries).bind (·.find? names) := by
  rw [find?]
  cases child? name entries <;> rfl

theorem put_directory_singleton (new : Node) (entries : List (Name × Node)) (name : Name) :
    put new (directory entries) [name] = directory (putEntry name new entries) := by
  rw [put]
  split
  · rename_i node _
    cases node <;> rfl
  · rfl

theorem put_directory_cons {new child : Node} {entries : List (Name × Node)} {name : Name}
    (hchild : child? name entries = some child) (names : List Name) :
    put new (directory entries) (name :: names) =
      directory (putEntry name (put new child names) entries) := by
  simp only [put, hchild]

theorem find?_append (node : Node) (names more : List Name) :
    node.find? (names ++ more) = (node.find? names).bind (·.find? more) := by
  induction names generalizing node with
  | nil => rw [List.nil_append, find?_nil, Option.bind_some]
  | cons name names ih =>
      cases node with
      | file content => rfl
      | directory entries =>
          simp only [List.cons_append, find?]
          cases child? name entries with
          | none => rfl
          | some node => exact ih node

theorem find?_append_eq_none {node : Node} {names more : List Name}
    (h : (node.find? names).map kind ≠ some .directory) (hmore : more ≠ []) :
    node.find? (names ++ more) = none := by
  rw [find?_append]
  cases hfind : node.find? names with
  | none => rfl
  | some found =>
      rw [hfind] at h
      cases found with
      | directory entries => exact absurd rfl h
      | file content =>
          cases more with
          | nil => exact absurd rfl hmore
          | cons name more => rfl

/-- A changed entry is all that is seen of a change from the directory it is in. -/
theorem find?_putEntry_cons (name name' : Name) (node : Node) (entries : List (Name × Node))
    (more : List Name) :
    (directory (putEntry name node entries)).find? (name' :: more) =
      if name = name' then node.find? more else (directory entries).find? (name' :: more) := by
  simp only [find?, child?_putEntry]
  by_cases hname : name = name'
  · rw [if_pos hname, if_pos hname]
  · rw [if_neg hname, if_neg hname]

/-- What is known of a change below an entry is known of it from the directory of the entry. -/
theorem kind_find?_putEntry {name : Name} {node : Node} {entries : List (Name × Node)}
    {names : List Name} {k : Kind}
    (h : ∀ more, (node.find? more).map kind =
      if names = more then some k else ((directory entries).find? (name :: more)).map kind)
    (names' : List Name) :
    ((directory (putEntry name node entries)).find? names').map kind =
      if name :: names = names' then some k else ((directory entries).find? names').map kind := by
  cases names' with
  | nil => rfl
  | cons name' more =>
      rw [find?_putEntry_cons]
      by_cases hname : name = name'
      · subst hname
        rw [if_pos rfl, h]
        simp
      · rw [if_neg hname, if_neg (by simp [hname])]

/-- A node with nothing below it takes the place of anything but a directory. -/
theorem kind_find?_put {new node : Node} {names : List Name}
    (hnew : ∀ name more, new.find? (name :: more) = none) (hnames : names ≠ [])
    (hparent : (node.find? names.dropLast).map kind = some .directory)
    (hold : (node.find? names).map kind ≠ some .directory) (names' : List Name) :
    ((put new node names).find? names').map kind =
      if names = names' then some new.kind else (node.find? names').map kind := by
  -- All but the last name lead on to a directory, as the node above the change is one.
  induction names generalizing node names' with
  | nil => exact absurd rfl hnames
  | cons name names ih =>
      cases node with
      | file content => cases names <;> cases hparent
      | directory entries =>
          cases names with
          | nil =>
              rw [put_directory_singleton]
              refine kind_find?_putEntry (fun more => ?_) names'
              cases more with
              | nil => rw [if_pos rfl, find?_nil, Option.map_some]
              | cons first more =>
                  have hbelow : (directory entries).find? ([name] ++ first :: more) = none :=
                    find?_append_eq_none hold (List.cons_ne_nil _ _)
                  rw [hnew, if_neg (by simp)]
                  exact (congrArg (Option.map kind) hbelow).symm
          | cons second names =>
              rw [List.dropLast_cons_of_ne_nil (List.cons_ne_nil _ _)] at hparent
              cases hchild : child? name entries with
              | none =>
                  rw [find?_directory_cons, hchild] at hparent
                  cases hparent
              | some child =>
                  have hfind : ∀ more, (directory entries).find? (name :: more) =
                      child.find? more := by
                    intro more
                    rw [find?_directory_cons, hchild, Option.bind_some]
                  rw [hfind] at hparent hold
                  rw [put_directory_cons hchild]
                  refine kind_find?_putEntry (fun more => ?_) names'
                  rw [hfind]
                  exact ih (List.cons_ne_nil _ _) hparent hold more

end Node

namespace FileTree

/-- What stands at the end of some names. -/
def kind? (t : FileTree) (names : List Name) : Option Kind :=
  (t.find? names).map Node.kind

theorem kind?_eq_none {t : FileTree} {names : List Name} :
    t.kind? names = none ↔ t.find? names = none :=
  Option.map_eq_none_iff

theorem kind?_eq_file {t : FileTree} {names : List Name} {content : ByteArray} :
    t.kind? names = some (.file content) ↔ t.find? names = some (.file content) := by
  rw [kind?, Option.map_eq_some_iff]
  constructor
  · rintro ⟨node, hfind, hkind⟩
    cases node <;> cases hkind
    exact hfind
  · exact fun hfind => ⟨_, hfind, rfl⟩

theorem kind?_eq_directory {t : FileTree} {names : List Name} :
    t.kind? names = some .directory ↔ ∃ entries, t.find? names = some (.directory entries) := by
  rw [kind?, Option.map_eq_some_iff]
  constructor
  · rintro ⟨node, hfind, hkind⟩
    cases node <;> cases hkind
    exact ⟨_, hfind⟩
  · rintro ⟨entries, hfind⟩
    exact ⟨_, hfind, rfl⟩

theorem kind?_eq_directory_of_append {t : FileTree} {names more : List Name} (hmore : more ≠ [])
    (h : t.kind? (names ++ more) ≠ none) : t.kind? names = some .directory := by
  by_contra hnot
  exact h (kind?_eq_none.mpr (Node.find?_append_eq_none hnot hmore))

theorem kind?_putFile {t : FileTree} {dir : List Name} {name : Name}
    (hdir : t.kind? dir = some .directory) (hold : t.kind? (dir ++ [name]) ≠ some .directory)
    (content : ByteArray) (names : List Name) :
    (t.putFile (dir ++ [name]) content).kind? names =
      if dir ++ [name] = names then some (.file content) else t.kind? names :=
  Node.kind_find?_put (fun _ _ => rfl) (by simp) (by rw [List.dropLast_concat]; exact hdir)
    hold names

theorem kind?_putDirectory {t : FileTree} {dir : List Name} {name : Name}
    (hdir : t.kind? dir = some .directory) (hold : t.kind? (dir ++ [name]) = none)
    (names : List Name) :
    (t.putDirectory (dir ++ [name])).kind? names =
      if dir ++ [name] = names then some .directory else t.kind? names := by
  have hnot : t.kind? (dir ++ [name]) ≠ some .directory := by
    rw [hold]
    exact Option.some_ne_none _ |>.symm
  exact Node.kind_find?_put (fun _ _ => rfl) (by simp) (by rw [List.dropLast_concat]; exact hdir)
    hnot names

end FileTree

end DartTriggers
