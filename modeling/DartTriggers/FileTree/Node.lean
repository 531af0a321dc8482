import DartTriggers.FileTree.Path
/-!
File trees: files with their content, and directories whose entries have different names in byte
order. Looking up a path of names after a change gives the changed node at that path and what was
there before everywhere else.
-/

namespace DartTriggers

/-- Whether bytes can name a file: at least one byte and at most 255, none of them a slash or
zero, and not one or two dots alone. -/
def isFileName (b : Bytes) : Bool :=
  !b.isEmpty && b.length ≤ 255 && b != Path.dot && b != Path.dotDot && !b.contains Path.slash &&
    !b.contains 0

/-- The name of an entry of a directory. -/
structure Name where
  bytes : Bytes
  valid : isFileName bytes = true
deriving DecidableEq, Repr

namespace Name

def ofBytes? (b : Bytes) : Option Name :=
  if h : isFileName b = true then some ⟨b, h⟩ else none

/-- Whether a name comes before another one in byte order. -/
def Before (a b : Name) : Prop :=
  a.bytes < b.bytes

instance (a b : Name) : Decidable (Before a b) :=
  inferInstanceAs (Decidable (a.bytes < b.bytes))

theorem Before.trans {a b c : Name} (h : Before a b) (h' : Before b c) : Before a c :=
  List.lt_trans h h'

theorem eq_of_not_before {a b : Name} (h : ¬ Before a b) (h' : ¬ Before b a) : a = b := by
  cases a
  cases b
  simp only [Name.mk.injEq]
  exact List.le_antisymm (List.not_lt.1 h') (List.not_lt.1 h)

end Name

/-- A file or a directory. -/
inductive Node where
  | file (content : ByteArray)
  | directory (entries : List (Name × Node))

namespace Node

/-- The entry of a name. -/
def child? (name : Name) : List (Name × Node) → Option Node
  | [] => none
  | (n, node) :: rest => if n = name then some node else child? name rest

/-- Puts an entry where byte order wants it, in place of one with the same name. -/
def putEntry (name : Name) (node : Node) : List (Name × Node) → List (Name × Node)
  | [] => [(name, node)]
  | (n, old) :: rest =>
      if n = name then (name, node) :: rest
      else if Name.Before name n then (name, node) :: (n, old) :: rest
      else (n, old) :: putEntry name node rest

/-- Takes the entry of a name away. -/
def dropEntry (name : Name) (entries : List (Name × Node)) : List (Name × Node) :=
  entries.filter fun e => e.1 ≠ name

/-- The node at the end of some names. -/
def find? : Node → List Name → Option Node
  | node, [] => some node
  | .file _, _ :: _ => none
  | .directory entries, name :: names =>
      match child? name entries with
      | none => none
      | some node => node.find? names

/-- Puts a node at the end of some names; only the last of them may be new. -/
def put (new : Node) : Node → List Name → Node
  | _, [] => new
  | .file content, _ :: _ => .file content
  | .directory entries, name :: names =>
      match child? name entries with
      | some node => .directory (putEntry name (put new node names) entries)
      | none => if names.isEmpty then .directory (putEntry name new entries) else .directory entries

/-- Takes the node at the end of some names away. -/
def remove : Node → List Name → Node
  | node, [] => node
  | .file content, _ :: _ => .file content
  | .directory entries, name :: names =>
      match child? name entries with
      | none => .directory entries
      | some node =>
          if names.isEmpty then .directory (dropEntry name entries)
          else .directory (putEntry name (remove node names) entries)

/-- Entries have different names, in byte order, at every depth. -/
inductive Ordered : Node → Prop
  | file (content : ByteArray) : Ordered (.file content)
  | directory (entries : List (Name × Node))
      (sorted : entries.Pairwise fun a b => Name.Before a.1 b.1)
      (below : ∀ e ∈ entries, Ordered e.2) : Ordered (.directory entries)

theorem mem_of_child? {name : Name} {node : Node} {entries : List (Name × Node)}
    (h : child? name entries = some node) : (name, node) ∈ entries := by
  induction entries with
  | nil => simp [child?] at h
  | cons e rest ih =>
      obtain ⟨n, old⟩ := e
      simp only [child?] at h
      split at h
      · simp_all
      · exact List.mem_cons_of_mem _ (ih h)

theorem mem_putEntry {name : Name} {node : Node} {entries : List (Name × Node)}
    {e : Name × Node} (h : e ∈ putEntry name node entries) :
    e = (name, node) ∨ e ∈ entries := by
  induction entries with
  | nil => simpa [putEntry] using h
  | cons first rest ih =>
      simp only [putEntry] at h
      split at h
      · simp only [List.mem_cons] at h ⊢
        exact h.imp_right .inr
      · split at h
        · simpa using h
        · simp only [List.mem_cons] at h ⊢
          rcases h with h | h
          · exact .inr (.inl h)
          · exact (ih h).imp_right .inr

theorem sorted_putEntry {name : Name} {node : Node} {entries : List (Name × Node)}
    (h : entries.Pairwise fun a b => Name.Before a.1 b.1) :
    (putEntry name node entries).Pairwise fun a b => Name.Before a.1 b.1 := by
  induction entries with
  | nil => simp [putEntry]
  | cons first rest ih =>
      obtain ⟨n, old⟩ := first
      rw [List.pairwise_cons] at h
      simp only [putEntry]
      split
      · rename_i hn
        subst hn
        exact List.pairwise_cons.2 h
      · rename_i hn
        split
        · rename_i hb
          refine List.pairwise_cons.2 ⟨?_, List.pairwise_cons.2 h⟩
          intro e he
          rcases List.mem_cons.1 he with rfl | he
          · exact hb
          · exact hb.trans (h.1 e he)
        · rename_i hb
          refine List.pairwise_cons.2 ⟨?_, ih h.2⟩
          intro e he
          rcases mem_putEntry he with rfl | he
          · refine Classical.byContradiction fun hb' => ?_
            exact hn (Name.eq_of_not_before hb' hb)
          · exact h.1 e he

theorem Ordered.put {new : Node} (hnew : new.Ordered) {node : Node} (h : node.Ordered)
    (names : List Name) : (put new node names).Ordered := by
  induction names generalizing node with
  | nil => simpa [Node.put] using hnew
  | cons name names ih =>
      cases h with
      | file content => exact .file content
      | directory entries sorted below =>
          simp only [Node.put]
          split
          · rename_i old hold
            refine .directory _ (sorted_putEntry sorted) fun e he => ?_
            rcases mem_putEntry he with rfl | he
            · exact ih (below _ (mem_of_child? hold))
            · exact below e he
          · split
            · refine .directory _ (sorted_putEntry sorted) fun e he => ?_
              rcases mem_putEntry he with rfl | he
              · exact hnew
              · exact below e he
            · exact .directory entries sorted below

theorem Ordered.remove {node : Node} (h : node.Ordered) (names : List Name) :
    (remove node names).Ordered := by
  induction names generalizing node with
  | nil => simpa [Node.remove] using h
  | cons name names ih =>
      cases h with
      | file content => exact .file content
      | directory entries sorted below =>
          simp only [Node.remove]
          split
          · exact .directory entries sorted below
          · rename_i old hold
            split
            · refine .directory _ (sorted.sublist List.filter_sublist) fun e he => ?_
              exact below e (List.mem_filter.1 he).1
            · refine .directory _ (sorted_putEntry sorted) fun e he => ?_
              rcases mem_putEntry he with rfl | he
              · exact ih (below _ (mem_of_child? hold))
              · exact below e he

theorem Ordered.find? {node found : Node} (h : node.Ordered) {names : List Name}
    (hfound : node.find? names = some found) : found.Ordered := by
  induction names generalizing node with
  | nil =>
      cases node <;> simp only [Node.find?, Option.some.injEq] at hfound <;> exact hfound ▸ h
  | cons name names ih =>
      cases h with
      | file content => simp [Node.find?] at hfound
      | directory entries sorted below =>
          simp only [Node.find?] at hfound
          split at hfound
          · simp at hfound
          · rename_i inner hinner
            exact ih (below _ (mem_of_child? hinner)) hfound

end Node

/-- All files and directories that there are. -/
structure FileTree where
  root : Node
  ordered : root.Ordered

namespace FileTree

def empty : FileTree :=
  ⟨.directory [], .directory [] .nil (by simp)⟩

instance : Inhabited FileTree :=
  ⟨empty⟩

/-- The node at the end of some names. -/
def find? (t : FileTree) (names : List Name) : Option Node :=
  t.root.find? names

/-- Puts a file with a content, new or in place of what was there. -/
def putFile (t : FileTree) (names : List Name) (content : ByteArray) : FileTree :=
  ⟨Node.put (.file content) t.root names, .put (.file content) t.ordered names⟩

/-- Puts an empty directory. -/
def putDirectory (t : FileTree) (names : List Name) : FileTree :=
  ⟨Node.put (.directory []) t.root names, .put (.directory [] .nil (by simp)) t.ordered names⟩

def remove (t : FileTree) (names : List Name) : FileTree :=
  ⟨t.root.remove names, t.ordered.remove names⟩

/-- Takes the node at the end of some names away and puts it at the end of others. -/
def move (t : FileTree) (source target : List Name) : FileTree :=
  match h : t.find? source with
  | none => t
  | some node =>
      ⟨Node.put node (t.root.remove source) target,
        .put (t.ordered.find? h) (t.ordered.remove source) target⟩

end FileTree

end DartTriggers
