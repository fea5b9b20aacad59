import NaturalKey.Pattern
import NaturalKey.Text
import NaturalKey.Text.Alphanumeric
import NaturalKey.Traced

/-!
Telling of events, one line each, as far as a setting asks for it. A setting is a list of rules
parted by commas; of those about an event the most specific counts. A rule is a level, a target, or
both as `TARGET=LEVEL`; between them may stand, in square brackets, the name of a span and in braces
a field with or without a value. A rule that names a span or asks for a value is about spans, of
which there are none, so it applies to no event.
-/

set_option autoImplicit false

namespace NaturalKey.Log

/-! ### Values

Values of fields: patterns, and numerals with a plus in front, which are none.
-/

def isNumeral (chars : List Char) : Bool :=
  let whole := chars.takeWhile Char.isDigit
  let (fraction, rest) :=
    match chars.dropWhile Char.isDigit with
    | '.' :: rest => (rest.takeWhile Char.isDigit, rest.dropWhile Char.isDigit)
    | rest => ([], rest)
  !(whole.isEmpty && fraction.isEmpty) && isExponent rest
where
  isExponent : List Char → Bool
    | [] => true
    | e :: rest =>
      let digits :=
        match rest with
        | '+' :: digits | '-' :: digits => digits
        | digits => digits
      e.toLower == 'e' && !digits.isEmpty && digits.all Char.isDigit

/-- Whether a text is a numeral or the name of a number, with a plus in front. -/
def isPlusNumeral (text : String) : Bool :=
  match text.toList with
  | '+' :: rest =>
    isNumeral rest || ["inf", "infinity", "nan"].contains ((String.ofList rest).map Char.toLower)
  | _ => false

def isValue (text : String) : Bool :=
  isPlusNumeral text || Pattern.accepts text

/-- How much is told of events in a part of the program, or of those with a field, 0 for nothing. -/
structure Rule where
  target? : Option String
  field? : Option String
  aboutSpans : Bool
  verbosity : Nat
deriving DecidableEq, Repr

/-- Without a level a rule asks for everything. -/
def Rule.everything : Rule :=
  ⟨none, none, false, Level.trace.verbosity⟩

/-! ### Levels -/

def levelNames : List (String × Nat) := [
  ("off", 0),
  ("error", Level.error.verbosity),
  ("warn", Level.warn.verbosity),
  ("info", Level.info.verbosity),
  ("debug", Level.debug.verbosity),
  ("trace", Level.trace.verbosity)]

def levelNumber? (text : String) : Option Nat :=
  let digits :=
    match text.toList with
    | '+' :: digits => digits
    | digits => digits
  if digits.isEmpty || !digits.all Char.isDigit then
    none
  else
    let number := digits.foldl (fun number c => number * 10 + (c.toNat - 0x30)) 0
    if number ≤ Level.trace.verbosity then some number else none

def verbosity? (text : String) : Option Nat :=
  match levelNames.find? fun level => level.1 == text.map Char.toLower with
  | some level => some level.2
  | none => levelNumber? text

/-! ### Reading

White space at the ends of a rule is passed over to find its parts, but they are cut out of the
whole text at the same offsets, so white space in front shifts them. Then a cut may go through a
character.
-/

namespace Rule

inductive Failure where
  | unreadable
  /-- A part would begin or end inside a character. -/
  | torn
deriving DecidableEq, Repr

/-- Where a reader of a rule stands, with the offset at which the part began. -/
inductive Place where
  | start
  | name (first : Nat)
  | span (first : Nat)
  | field (first : Nat)
  | afterField
  | afterSpan
  | level (first : Nat)
deriving DecidableEq, Repr

structure Reading where
  rule : Rule
  place : Place
deriving DecidableEq, Repr

def startsName (c : Char) : Bool :=
  c == '-' || c == ':' || c == '_' || Text.isAlphanumeric c

def isBoundary (bytes : List UInt8) (offset : Nat) : Bool :=
  match bytes[offset]? with
  | some byte => (Utf8.continuation? byte).isNone
  | none => offset == bytes.length

def cut (bytes : List UInt8) (first last : Nat) : Except Failure String :=
  if isBoundary bytes first && isBoundary bytes last then
    match Utf8.decode? ((bytes.take last).drop first) with
    | some text => .ok text
    | none => .error .torn
  else
    .error .torn

def withField (rule : Rule) (text : String) : Except Failure Rule :=
  match text.splitOn "=" with
  | [] => .error .unreadable
  | [name] =>
    if name.isEmpty then .error .unreadable else .ok { rule with field? := some name }
  | name :: value :: _ =>
    if isValue value then .ok { rule with field? := some name, aboutSpans := true }
    else .error .unreadable

def Reading.next (bytes : List UInt8) (reading : Reading) (offset : Nat) (c : Char) :
    Except Failure Reading :=
  let rule := reading.rule
  match reading.place with
  | .start =>
    if c = '[' then .ok ⟨rule, .span (offset + 1)⟩
    else if startsName c then .ok ⟨rule, .name offset⟩
    else .error .unreadable
  | .name first =>
    if c = '=' ∨ c = '[' then do
      let target ← cut bytes first offset
      let place : Place := if c = '=' then .level (offset + 1) else .span (offset + 1)
      .ok ⟨{ rule with target? := some target }, place⟩
    else .ok reading
  | .span first =>
    if c = ']' then do
      let _ ← cut bytes first offset
      .ok ⟨{ rule with aboutSpans := true }, .afterSpan⟩
    else if c = '\x7b' then do
      let name ← cut bytes first offset
      .ok ⟨{ rule with aboutSpans := !name.isEmpty }, .field (offset + 1)⟩
    else .ok reading
  | .field first =>
    if c = '\x7d' then do
      let rule ← rule.withField (← cut bytes first offset)
      .ok ⟨rule, .afterField⟩
    else .ok reading
  | .afterField => if c = ']' then .ok ⟨rule, .afterSpan⟩ else .error .unreadable
  | .afterSpan => if c = '=' then .ok ⟨rule, .level (offset + 1)⟩ else .error .unreadable
  | .level _ => .ok reading

def Reading.run (bytes : List UInt8) (reading : Reading) (offset : Nat) :
    List Char → Except Failure Reading
  | [] => .ok reading
  | c :: rest => do
    let reading ← reading.next bytes offset c
    reading.run bytes (offset + (Utf8.encodeChar c).length) rest

def Reading.finish (bytes : List UInt8) (reading : Reading) : Except Failure Rule :=
  match reading.place with
  | .name first => do
    let text ← cut bytes first bytes.length
    match verbosity? text with
    | some verbosity => .ok { reading.rule with verbosity }
    | none => .ok { reading.rule with target? := some text }
  | .level first => do
    let text ← cut bytes first bytes.length
    if text.isEmpty then .ok reading.rule
    else
      match verbosity? text with
      | some verbosity => .ok { reading.rule with verbosity }
      | none => .error .unreadable
  | .afterSpan => .ok reading.rule
  | .start | .span _ | .field _ | .afterField => .error .unreadable

def parse (text : String) : Except Failure Rule := do
  let bytes := Utf8.encode text
  let start : Reading := ⟨everything, .start⟩
  let reading ← start.run bytes 0 (Text.trim text).toList
  reading.finish bytes

/-! ### Applying -/

/-- The part of the program that tells of an event. -/
def partOf : Event → String
  | .keptInMemory | .rowUnreadable _ | .rowUnstorable _ | .seeded .. => "reclookup"
  | .schemaLoaded _ => "reclookup::config"
  | .lookedUp .. => "reclookup::application::lookup"

def fieldsOf : Event → List String
  | .keptInMemory | .rowUnreadable _ | .rowUnstorable _ => ["message"]
  | .seeded .. => ["message", "loaded", "path"]
  | .schemaLoaded _ => ["message", "path"]
  | .lookedUp .. => ["message", "tenant", "record_type", "filter", "matches"]

/-- Whether a rule is about an event: its target starts the name of the part that tells of it, and
its field is one that is told. -/
def appliesTo (rule : Rule) (event : Event) : Bool :=
  !rule.aboutSpans &&
    rule.target?.all (fun target => target.toList.isPrefixOf (partOf event).toList) &&
    rule.field?.all (fun field => (fieldsOf event).contains field)

/-- How far a target narrows the parts of the program; no target does not. -/
def reach (rule : Rule) : Nat :=
  match rule.target? with
  | none => 0
  | some target => target.length + 1

/-- Whether another rule about the same event counts before this one. The longer target is more
specific, then a field, then the field that comes later in order; a rule stands back behind one of
the same kind. -/
def standsBack (rule other : Rule) : Bool :=
  rule.reach < other.reach ||
    (rule.reach == other.reach &&
      match rule.field?, other.field? with
      | none, _ => true
      | some _, none => false
      | some field, some field' => field ≤ field')

end Rule

/-! ### Settings -/

/-- The rules of a setting, the last of equally specific ones counting. -/
structure Setting where
  rules : List Rule
deriving DecidableEq, Repr

def Setting.default : Setting :=
  ⟨[{ Rule.everything with verbosity := Level.warn.verbosity }]⟩

def splitAtCommas : List Char → List (List Char)
  | [] => [[]]
  | c :: rest =>
    match splitAtCommas rest with
    | [] => [[c]]
    | piece :: pieces => if c = ',' then [] :: piece :: pieces else (c :: piece) :: pieces

/-- Reads a setting. The first rule that cannot be read spoils all of them; if it is torn, there is
no setting at all, and the program breaks down. -/
def Setting.parse? (text? : Option String) : Option Setting :=
  match text? with
  | none => some .default
  | some text =>
    let pieces := (splitAtCommas text.toList).filter fun piece => !piece.isEmpty
    match pieces.mapM fun piece => Rule.parse (String.ofList piece) with
    | .ok rules => some ⟨rules⟩
    | .error .unreadable => some .default
    | .error .torn => none

def Setting.ruleFor? (setting : Setting) (event : Event) : Option Rule :=
  (setting.rules.filter fun rule => rule.appliesTo event).foldl better none
where
  better (best? : Option Rule) (next : Rule) : Option Rule :=
    match best? with
    | none => some next
    | some best => if best.standsBack next then some next else some best

def Setting.tells (setting : Setting) (event : Event) : Bool :=
  match setting.ruleFor? event with
  | some rule => event.level.verbosity ≤ rule.verbosity
  | none => false

/-- A control character that could steer a terminal, spelled out; others stay. -/
def shown (c : Char) : List Char :=
  let n := c.toNat
  if n = 0x1B then "\\x1b".toList
  else if n = 0x07 then "\\x07".toList
  else if n = 0x08 then "\\x08".toList
  else if n = 0x0C then "\\x0c".toList
  else if n = 0x7F then "\\x7f".toList
  else if 0x80 ≤ n ∧ n ≤ 0x9F then
    "\\u\x7b".toList ++ Nat.toDigits 16 n ++ ['\x7d']
  else [c]

def message (text : String) : String :=
  String.ofList (text.toList.flatMap shown)

def eventText : Event → String
  | .keptInMemory =>
    "Persistent storage requested via --db-path, but 'storage-rocksdb' feature is not enabled. " ++
      "Falling back to in-memory storage."
  | .schemaLoaded path => "loaded key schema path=" ++ path
  | .rowUnreadable fault => message ("Error reading record: " ++ fault.text)
  | .rowUnstorable fault => message ("Error storing record: " ++ fault.text)
  | .seeded loaded path => "seeded store loaded=" ++ toString loaded ++ " path=" ++ path
  | .lookedUp tenant recordType filter matching =>
    "record lookup tenant=" ++ tenant.text ++ " record_type=" ++ recordType.text ++ " filter=" ++
      filter.text ++ " matches=" ++ toString matching

def line (event : Event) : String :=
  event.level.name ++ " " ++ eventText event

def lines (setting : Setting) (events : List Event) : List String :=
  (events.filter setting.tells).map line

end NaturalKey.Log
