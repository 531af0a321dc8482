/-!
Regular expressions on octets. Where an expression matches is found by listing every place at which
a match from a given place can end, the longest match first; each end comes with what the groups
have matched on the way there.
-/

namespace DartTriggers.Toolbox

/-- A class of characters: the ranges that belong to it, or that do not. -/
structure CharClass where
  negated : Bool
  ranges : List (Char × Char)
  /-- Whether a letter belongs to it in both its cases if it does in one. -/
  anyCase : Bool := false
deriving DecidableEq, Repr

namespace CharClass

def any : CharClass :=
  ⟨true, [], false⟩

def exactly (c : Char) : CharClass :=
  ⟨false, [(c, c)], false⟩

def hasInRanges (k : CharClass) (c : Char) : Bool :=
  k.ranges.any fun (a, b) => a ≤ c && c ≤ b

def contains (k : CharClass) (c : Char) : Bool :=
  (k.hasInRanges c || (k.anyCase && (k.hasInRanges c.toLower || k.hasInRanges c.toUpper))) !=
    k.negated

def lower : List (Char × Char) := [('a', 'z')]

def upper : List (Char × Char) := [('A', 'Z')]

def digit : List (Char × Char) := [('0', '9')]

def space : List (Char × Char) := [(' ', ' '), ('\t', '\r')]

def punctuation : List (Char × Char) :=
  [('!', '/'), (':', '@'), ('[', '\x60'), ('\x7b', '~')]

/-- The ranges of the named classes. -/
def named : List (String × List (Char × Char)) :=
  [("alpha", upper ++ lower), ("digit", digit), ("lower", lower), ("upper", upper),
   ("alnum", digit ++ upper ++ lower), ("space", space), ("blank", [(' ', ' '), ('\t', '\t')]),
   ("punct", punctuation), ("print", [(' ', '~')]), ("graph", [('!', '~')]),
   ("cntrl", [('\x00', '\x1f'), ('\x7f', '\x7f')]),
   ("xdigit", digit ++ [('A', 'F'), ('a', 'f')])]

/-- The characters of words. -/
def word : List (Char × Char) :=
  digit ++ upper ++ lower ++ [('_', '_')]

end CharClass

/-- A condition on a place between two characters. -/
inductive Edge where
  | textStart
  | textEnd
  | lineStart
  | lineEnd
  | wordStart
  | wordEnd
  /-- The start or the end of a word. -/
  | wordEdge
  | noWordEdge
deriving DecidableEq, Repr

/-- A regular expression. -/
inductive Pattern where
  | empty
  | char (k : CharClass)
  | edge (e : Edge)
  | append (a b : Pattern)
  | either (a b : Pattern)
  | repeated (p : Pattern) (least : Nat) (most : Option Nat)
  | group (index : Nat) (p : Pattern)
  /-- What a group has matched, once more. -/
  | again (index : Nat) (anyCase : Bool)
deriving Repr

namespace Pattern

/-- A place in a text, with what groups have matched on the way. -/
structure Place where
  before : Option Char
  rest : List Char
  /-- How many characters the rest has. -/
  left : Nat
  groups : List (Nat × List Char)

def Place.start (before : Option Char) (s : List Char) : Place :=
  ⟨before, s, s.length, []⟩

/-- Goes on after some characters of the rest. -/
def Place.skip (here : Place) : Nat → Place
  | 0 => here
  | n + 1 =>
      match here.rest with
      | [] => here
      | c :: rest => Place.skip ⟨some c, rest, here.left - 1, here.groups⟩ n

def isWordChar (c : Char) : Bool :=
  (CharClass.mk false CharClass.word false).contains c

/-- Whether a condition holds at a place. -/
def Edge.holds (here : Place) (e : Edge) : Bool :=
  let wordBefore := here.before.any isWordChar
  let wordAfter := here.rest.head?.any isWordChar
  match e with
  | .textStart => here.before.isNone
  | .textEnd => here.rest.isEmpty
  | .lineStart => here.before.isNone || here.before == some '\n'
  | .lineEnd => here.rest.isEmpty || here.rest.head? == some '\n'
  | .wordStart => !wordBefore && wordAfter
  | .wordEnd => wordBefore && !wordAfter
  | .wordEdge => wordBefore != wordAfter
  | .noWordEdge => wordBefore == wordAfter

/-- Leaves the first of several places in a row that are the same. -/
def dropRepeated : List Place → List Place
  | [] => []
  | [p] => [p]
  | p :: q :: rest =>
      if p.left = q.left then dropRepeated (p :: rest) else p :: dropRepeated (q :: rest)
termination_by ps => ps.length

/-- The longest matches first. Of the ways to one end the first counts, unless what the groups
have matched matters. -/
def tidy (exact : Bool) (ps : List Place) : List Place :=
  match ps with
  | [] | [_] => ps
  | ps =>
      let sorted := ps.mergeSort fun p q => decide (p.left ≤ q.left)
      if exact then sorted else dropRepeated sorted

/-- The places after a number of steps. -/
def afterSteps (exact : Bool) (step : Place → List Place) : Nat → List Place → List Place
  | 0, ps => ps
  | n + 1, ps =>
      if ps.isEmpty then [] else afterSteps exact step n (tidy exact (ps.flatMap step))

/-- The places after at most a number of steps, without those that have been there before. -/
def afterAny (exact : Bool) (step : Place → List Place) :
    (room : Nat) → (seen : List Nat) → List Place → List Place
  | 0, _, ps => ps
  | room + 1, seen, ps =>
      let next := (tidy exact (ps.flatMap step)).filter fun p => !seen.contains p.left
      if next.isEmpty then ps
      else ps ++ afterAny exact step room (seen ++ next.map (·.left)) next

/-- The places after each of some characters of a class, the last one first. -/
def afterChars (k : CharClass) : (room : Nat) → Place → (passed : List Place) → List Place
  | 0, here, passed => here :: passed
  | room + 1, here, passed =>
      match here.rest with
      | [] => here :: passed
      | c :: rest =>
          if k.contains c then
            afterChars k room ⟨some c, rest, here.left - 1, here.groups⟩ (here :: passed)
          else here :: passed

def sameLetter (a b : Char) : Bool :=
  a.toLower == b.toLower

/-- The places at which a match from a place can end, the longest match first. -/
def ends (exact : Bool) : Pattern → Place → List Place
  | .empty, here => [here]
  | .char k, here =>
      match here.rest with
      | [] => []
      | c :: rest => if k.contains c then [⟨some c, rest, here.left - 1, here.groups⟩] else []
  | .edge e, here => if Edge.holds here e then [here] else []
  | .append a b, here => tidy exact ((ends exact a here).flatMap (ends exact b))
  | .either a b, here => tidy exact (ends exact a here ++ ends exact b here)
  | .repeated (.char k) least most, here =>
      let room := most.getD here.left
      let passed := afterChars k room here []
      passed.take (passed.length - least)
  | .repeated p least most, here =>
      let first := afterSteps exact (ends exact p) least [here]
      let room := (most.map (· - least)).getD (here.left + 1)
      tidy exact (afterAny exact (ends exact p) room (first.map (·.left)) first)
  | .group index p, here =>
      (ends exact p here).map fun there =>
        { there with groups := (index, here.rest.take (here.left - there.left)) :: there.groups }
  | .again index anyCase, here =>
      match here.groups.lookup index with
      | none => []
      | some text =>
          let same := if anyCase then (text.zipWith sameLetter here.rest).all id &&
              decide (text.length ≤ here.left)
            else text.isPrefixOf here.rest
          if same then [here.skip text.length] else []

/-- Whether an expression refers to what a group has matched. -/
def refersBack : Pattern → Bool
  | .again .. => true
  | .append a b | .either a b => a.refersBack || b.refersBack
  | .repeated p _ _ | .group _ p => p.refersBack
  | .empty | .char _ | .edge _ => false

/-- A match in a text: what stands before it, what it is, and where it ends. -/
structure Found where
  before : List Char
  text : List Char
  after : Place

/-- The first match in a text, and of those the longest. -/
def find? (p : Pattern) (exact : Bool) (before : Option Char) : List Char → Option Found
  | [] =>
      ((ends exact p (.start before [])).head?).map (⟨[], [], ·⟩)
  | c :: rest =>
      let here := Place.start before (c :: rest)
      match (ends exact p here).head? with
      | some after => some ⟨[], (c :: rest).take (here.left - after.left), after⟩
      | none =>
          (p.find? exact (some c) rest).map fun found => { found with before := c :: found.before }

/-- The first match in the rest of a text, given the character before the rest. -/
def search? (p : Pattern) (before : Option Char) (s : List Char) : Option Found :=
  p.find? p.refersBack before s

/-- Whether there is a match anywhere in a text. -/
def occursIn (p : Pattern) (s : List Char) : Bool :=
  (p.search? none s).isSome

end Pattern

end DartTriggers.Toolbox
