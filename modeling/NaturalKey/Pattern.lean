import NaturalKey.Text
import NaturalKey.Text.Alphanumeric

/-!
Patterns, which are regular expressions, as far as it matters here: whether a text is one. A pattern
is well formed, is not nested too deep, and asks for nothing that a mode does not allow. Counted
repetitions are not read, as patterns stand between braces and can hold no closing one. Patterns
never are matched. A mode says how characters are taken, and so which of them a pattern may ask for:
there are no tables of scripts and cases, so nothing that would need them is allowed, and whatever
is matched must be made of whole characters.
-/

set_option autoImplicit false

namespace NaturalKey.Pattern

structure Mode where
  caseless : Bool
  /-- Whether characters of all scripts are meant, and not those of ASCII alone. -/
  unicode : Bool
  /-- Whether white space and comments are left out. -/
  spaced : Bool
deriving DecidableEq, Repr

namespace Mode

def start : Mode := ⟨false, true, false⟩

/-- What follows white space and comments; a comment runs to the end of its line. -/
def afterSpace (inComment : Bool) : List Char → List Char
  | [] => []
  | c :: rest =>
    if inComment then afterSpace (c != '\n') rest
    else if Text.isSpace c then afterSpace false rest
    else if c = '#' then afterSpace true rest
    else c :: rest

def skip (mode : Mode) (chars : List Char) : List Char :=
  if mode.spaced then afterSpace false chars else chars

/-- The next character that counts, as far as a look ahead shows it: it sees past the sign of a
comment but not past the comment. -/
def peek? (mode : Mode) (chars : List Char) : Option Char :=
  if mode.spaced then
    let next :=
      match chars.dropWhile Text.isSpace with
      | '#' :: rest => rest.dropWhile Text.isSpace
      | rest => rest
    next.head?.or chars.head?
  else chars.head?

end Mode

/-! ### Atoms -/

inductive Atom where
  | literal (c : Char)
  /-- A character by the number of its byte. -/
  | byte (c : Char)
  | anything
  /-- Digits, word characters or white space, or all others. -/
  | kind (negated : Bool)
  | wordEdge
  | edge
deriving DecidableEq, Repr

def Atom.char? : Atom → Option Char
  | .literal c | .byte c => some c
  | _ => none

/-- Whether an atom may stand in a sequence. Only in ASCII are there kinds and word edges, and only
those of its parts that hold no other byte. -/
def Mode.allows (mode : Mode) : Atom → Bool
  | .literal _ => !(mode.unicode && mode.caseless)
  | .byte c => if mode.unicode then !mode.caseless else c.toNat < 0x80
  | .anything => mode.unicode
  | .kind negated => !mode.unicode && !negated
  | .wordEdge => !mode.unicode
  | .edge => true

def Mode.allowsMember (mode : Mode) : Atom → Bool
  | .literal c | .byte c => if mode.unicode then !mode.caseless else c.toNat < 0x80
  | .kind negated => !mode.unicode && !negated
  | .anything | .wordEdge | .edge => false

def hexValue? (c : Char) : Option Nat :=
  if c.isDigit then some (c.toNat - 0x30)
  else if 'a' ≤ c ∧ c ≤ 'f' then some (c.toNat - 0x57)
  else if 'A' ≤ c ∧ c ≤ 'F' then some (c.toNat - 0x37)
  else none

def readNumber (mode : Mode) : Nat → Nat → List Char → Option (Nat × List Char)
  | 0, value, chars => some (value, chars)
  | digits + 1, value, chars =>
    match mode.skip chars with
    | [] => none
    | c :: rest => do
      let digit ← hexValue? c
      readNumber mode digits (value * 16 + digit) rest

def readCharacter (mode : Mode) (digits : Nat) (chars : List Char) :
    Option (Char × List Char) := do
  let (value, rest) ← readNumber mode digits 0 chars
  if value.isValidChar then some (.ofNat value, rest) else none

def controls : List (Char × Char) :=
  [('a', '\x07'), ('f', '\x0c'), ('n', '\n'), ('r', '\r'), ('t', '\t'), ('v', '\x0b')]

/-- What a character means after a backslash, unless a number follows. -/
def escaped? (c : Char) : Option Atom :=
  if ['d', 's', 'w'].contains c then some (.kind false)
  else if ['D', 'S', 'W'].contains c then some (.kind true)
  else if ['b', 'B', '<', '>'].contains c then some .wordEdge
  else if c = 'A' ∨ c = 'z' then some .edge
  else
    match controls.find? fun control => control.1 == c with
    | some control => some (.literal control.2)
    | none => if c.toNat < 0x80 && !c.isAlphanum then some (.literal c) else none

def readEscape (mode : Mode) : List Char → Option (Atom × List Char)
  | [] => none
  | 'x' :: rest => (readCharacter mode 2 rest).map fun (c, rest) => (.byte c, rest)
  | 'u' :: rest => (readCharacter mode 4 rest).map fun (c, rest) => (.literal c, rest)
  | 'U' :: rest => (readCharacter mode 8 rest).map fun (c, rest) => (.literal c, rest)
  | c :: rest => (escaped? c).map fun atom => (atom, rest)

/-! ### Sets

Sets of characters in square brackets: members, ranges, named classes, sets inside sets, and sets
joined by `&&`, `--` and `~~`. In ASCII nothing may hold the bytes beyond it, not even a part of a
set that keeps none of them; as plain members never do, what is turned around always does.
-/

/-- How deep parts are nested side by side; one alone is no level of its own. -/
def depthOf : List Nat → Nat
  | [] => 0
  | [depth] => depth
  | depths => depths.foldl max 0 + 1

structure OpenSet where
  negated : Bool
  /-- Whether dashes, or else a closing bracket, would be members because nothing precedes them. -/
  fresh : Bool
  /-- How deep what stands to the left of the last operation is nested. -/
  left? : Option Nat
  members : List Nat
deriving DecidableEq, Repr

namespace OpenSet

def add (set : OpenSet) (depth : Nat) : OpenSet :=
  { set with members := depth :: set.members }

def depth (set : OpenSet) : Nat :=
  match set.left? with
  | none => depthOf set.members
  | some left => max left (depthOf set.members) + 1

def operate (set : OpenSet) : OpenSet :=
  { set with left? := some set.depth, members := [] }

def start (mode : Mode) (chars : List Char) : OpenSet × List Char :=
  match mode.skip chars with
  | '^' :: rest => (⟨true, true, none, []⟩, rest)
  | rest => (⟨false, true, none, []⟩, rest)

end OpenSet

def isOperation : Char → Char → Bool
  | '&', '&' | '-', '-' | '~', '~' => true
  | _, _ => false

/-! ### Members -/

def classNames : List String := [
  "alnum", "alpha", "ascii", "blank", "cntrl", "digit", "graph", "lower", "print", "punct",
  "space", "upper", "word", "xdigit"]

/-- Reads a named class such as `[:alpha:]` after its first bracket, and says whether it is turned
around. -/
def readClass? : List Char → Option (Bool × List Char)
  | ':' :: chars =>
    let (negated, chars) :=
      match chars with
      | '^' :: rest => (true, rest)
      | rest => (false, rest)
    let name := String.ofList (chars.takeWhile (· != ':'))
    match chars.dropWhile (· != ':') with
    | ':' :: ']' :: rest => if classNames.contains name then some (negated, rest) else none
    | _ => none
  | _ => none

def readMember (mode : Mode) : List Char → Option (Atom × List Char)
  | [] => none
  | '\\' :: rest => readEscape mode rest
  | c :: rest => some (.literal c, rest)

/-- Reads a member or a range of them. A dash before a closing bracket or another dash makes no
range. -/
def readRange (mode : Mode) (chars : List Char) : Option (List Char) := do
  let (first, rest) ← readMember mode chars
  let single := if mode.allowsMember first then some rest else none
  match mode.skip rest with
  | '-' :: more =>
    match mode.peek? more with
    | some ']' | some '-' => single
    | _ =>
      let (last, rest) ← readMember mode (mode.skip more)
      let inOrder := (← first.char?) ≤ (← last.char?)
      if inOrder && mode.allowsMember first && mode.allowsMember last then some rest else none
  | _ => single

/-! ### Reading -/

inductive SetStep where
  | inside (set : OpenSet) (outer : List OpenSet)
  /-- The outermost set is closed; so deep is it nested. -/
  | closed (depth : Nat)
deriving DecidableEq, Repr

def closeSet (mode : Mode) (set : OpenSet) (outer : List OpenSet) : Option SetStep :=
  if set.negated && !mode.unicode then none
  else
    match outer with
    | [] => some (.closed (set.depth + 1))
    | next :: outer => some (.inside (next.add (set.depth + 1)) outer)

def openInside (mode : Mode) (set : OpenSet) (outer : List OpenSet) (rest : List Char) :
    Option (SetStep × List Char) :=
  match readClass? rest with
  | some (negated, rest) =>
    if (if mode.unicode then mode.caseless else negated) then none
    else some (.inside (set.add 0) outer, rest)
  | none =>
    let (inner, rest) := OpenSet.start mode rest
    some (.inside inner (set :: outer), rest)

def stepInSet (mode : Mode) (set : OpenSet) (outer : List OpenSet) (chars : List Char) :
    Option (SetStep × List Char) :=
  let literal (fresh : Bool) (c : Char) (rest : List Char) : Option (SetStep × List Char) :=
    if mode.allowsMember (.literal c) then some (.inside ({ set with fresh }.add 0) outer, rest)
    else none
  let settled := { set with fresh := false }
  match mode.skip chars with
  | [] => none
  | c :: rest =>
    if set.fresh && c == '-' then literal true c rest
    else if set.fresh && c == ']' && set.members.isEmpty then literal false c rest
    else if c = '[' then openInside mode settled outer rest
    else if c = ']' then (closeSet mode settled outer).map fun step => (step, rest)
    else if rest.head?.any (isOperation c) then some (.inside settled.operate outer, rest.tail)
    else do
      let rest ← readRange mode (c :: rest)
      some (.inside (settled.add 0) outer, rest)

def readSet (mode : Mode) (set : OpenSet) (outer : List OpenSet) (chars : List Char) :
    Option (Nat × List Char) :=
  match stepInSet mode set outer chars with
  | none => none
  | some (.closed depth, rest) => some (depth, rest)
  | some (.inside set outer, rest) =>
    if rest.length < chars.length then readSet mode set outer rest else none
termination_by chars.length

/-! ### Groups

What an opening bracket stands for: a group, a group with a name, a group with a mode of its own, or
a change of the mode as such.
-/

/-! ### Flags -/

def flagLetters : List Char := ['i', 'm', 's', 'U', 'u', 'R', 'x']

structure Flags where
  on : List Char
  off : List Char
deriving DecidableEq, Repr

/-- Reads flags. A letter stands only once, and so does the dash, which is never the last. -/
def Flags.parse? (chars : List Char) : Option Flags :=
  let flags : Flags := ⟨chars.takeWhile (· != '-'), (chars.dropWhile (· != '-')).tail⟩
  let letters := flags.on ++ flags.off
  if chars.getLast? != some '-' && letters.all flagLetters.contains && letters.Nodup then some flags
  else none

def Flags.value (flags : Flags) (letter : Char) (before : Bool) : Bool :=
  flags.on.contains letter || (before && !flags.off.contains letter)

def Mode.change (mode : Mode) (flags : Flags) : Mode where
  caseless := flags.value 'i' mode.caseless
  unicode := flags.value 'u' mode.unicode
  spaced := flags.value 'x' mode.spaced

/-! ### Heads of groups -/

inductive Head where
  | group
  | named (name : String)
  | moded (flags : Flags)
  /-- A mode for what follows in the group around it. -/
  | change (flags : Flags)
deriving DecidableEq, Repr

def startsGroupName (c : Char) : Bool :=
  c == '_' || Text.isAlphabetic c

def continuesGroupName (c : Char) : Bool :=
  ['_', '.', '[', ']'].contains c || Text.isAlphanumeric c

def readName? (chars : List Char) : Option (String × List Char) :=
  match chars.takeWhile (· != '>'), chars.dropWhile (· != '>') with
  | first :: more, _ :: rest =>
    if startsGroupName first && more.all continuesGroupName then
      some (String.ofList (first :: more), rest)
    else none
  | _, _ => none

def readFlags? (chars : List Char) : Option (Head × List Char) := do
  let isEnd (c : Char) : Bool := c == ':' || c == ')'
  let letters := chars.takeWhile fun c => !isEnd c
  let flags ← Flags.parse? letters
  match chars.dropWhile fun c => !isEnd c with
  | ':' :: rest => some (.moded flags, rest)
  | ')' :: rest => if letters.isEmpty then none else some (.change flags, rest)
  | _ => none

def readHead? (mode : Mode) (chars : List Char) : Option (Head × List Char) :=
  match mode.skip chars with
  | '?' :: 'P' :: '<' :: rest | '?' :: '<' :: rest =>
    (readName? rest).map fun (name, rest) => (.named name, rest)
  | '?' :: rest => readFlags? rest
  | rest => some (.group, rest)

/-! ### Sequences -/

/-- Groups, sets, repetitions, sequences and branches may be nested so deep. -/
def depthLimit : Nat := 250

/-- How deep an item of a sequence is nested, and whether it may be repeated. -/
structure Item where
  depth : Nat
  repeatable : Bool
deriving DecidableEq, Repr

structure OpenGroup where
  /-- The mode that holds again when the group is closed. -/
  modeAfter : Mode
  branches : List Nat
  /-- The items of the last branch, the last one first. -/
  items : List Item
deriving DecidableEq, Repr

namespace OpenGroup

def start (mode : Mode) : OpenGroup := ⟨mode, [], []⟩

def add (group : OpenGroup) (item : Item) : OpenGroup :=
  { group with items := item :: group.items }

def branch (group : OpenGroup) : Nat :=
  depthOf (group.items.map Item.depth)

def nextBranch (group : OpenGroup) : OpenGroup :=
  { group with branches := group.branch :: group.branches, items := [] }

def depth (group : OpenGroup) : Nat :=
  depthOf (group.branch :: group.branches)

def repeatLast? (group : OpenGroup) : Option OpenGroup :=
  match group.items with
  | ⟨depth, true⟩ :: items => some { group with items := ⟨depth + 1, true⟩ :: items }
  | _ => none

end OpenGroup

structure Reading where
  mode : Mode
  names : List String
  group : OpenGroup
  outer : List OpenGroup
deriving DecidableEq, Repr

namespace Reading

def start : Reading := ⟨.start, [], .start .start, []⟩

def add (reading : Reading) (item : Item) : Reading :=
  { reading with group := reading.group.add item }

def openGroup (reading : Reading) (mode : Mode) : Reading :=
  { reading with
    mode
    group := .start reading.mode
    outer := reading.group :: reading.outer }

def closeGroup? (reading : Reading) : Option Reading :=
  match reading.outer with
  | [] => none
  | group :: outer =>
    some { reading with
      mode := reading.group.modeAfter
      group := group.add ⟨reading.group.depth + 1, true⟩
      outer }

/-- Goes on by the head of a group. No two groups have the same name. -/
def enter? (reading : Reading) : Head → Option Reading
  | .group => some (reading.openGroup reading.mode)
  | .named name =>
    if reading.names.contains name then none
    else some ({ reading with names := name :: reading.names }.openGroup reading.mode)
  | .moded flags => some (reading.openGroup (reading.mode.change flags))
  | .change flags => some { reading.add ⟨0, false⟩ with mode := reading.mode.change flags }

def addAtom? (reading : Reading) (atom : Atom) : Option Reading :=
  if reading.mode.allows atom then some (reading.add ⟨0, true⟩) else none

def step (reading : Reading) (c : Char) (rest : List Char) : Option (Reading × List Char) :=
  let with? (reading? : Option Reading) : Option (Reading × List Char) :=
    reading?.map fun reading => (reading, rest)
  match c with
  | '(' => do
    let (head, rest) ← readHead? reading.mode rest
    some (← reading.enter? head, rest)
  | ')' => with? reading.closeGroup?
  | '|' => some ({ reading with group := reading.group.nextBranch }, rest)
  | '[' => do
    let (set, rest) := OpenSet.start reading.mode rest
    let (depth, rest) ← readSet reading.mode set [] rest
    some (reading.add ⟨depth, true⟩, rest)
  | '?' | '*' | '+' => do
    let group ← reading.group.repeatLast?
    some ({ reading with group }, if rest.head? = some '?' then rest.tail else rest)
  | '\x7b' => none
  | '\\' => do
    let (atom, rest) ← readEscape reading.mode rest
    some (← reading.addAtom? atom, rest)
  | '.' => with? (reading.addAtom? .anything)
  | '^' | '$' => with? (reading.addAtom? .edge)
  | c => with? (reading.addAtom? (.literal c))

def complete (reading : Reading) : Bool :=
  reading.outer.isEmpty && reading.group.depth ≤ depthLimit

def run (reading : Reading) (chars : List Char) : Bool :=
  match reading.mode.skip chars with
  | [] => reading.complete
  | c :: rest =>
    match reading.step c rest with
    | none => false
    | some (reading, rest) => if rest.length < chars.length then reading.run rest else false
termination_by chars.length

end Reading

def accepts (text : String) : Bool :=
  Reading.start.run text.toList

end NaturalKey.Pattern
