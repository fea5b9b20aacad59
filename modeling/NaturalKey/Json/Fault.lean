import NaturalKey.Json.Text
import NaturalKey.Text.Printable

/-!
What can be wrong with a JSON text, and where. A place is a line, counted from 1, and a column: the
number of bytes read since the last line break.
-/

set_option autoImplicit false

namespace NaturalKey.Json

inductive Scalar where
  | null
  | bool (value : Bool)
  | number (value : Number)
  | string (value : String)
deriving Repr

def Scalar.toValue : Scalar → Value
  | .null => .null
  | .bool value => .bool value
  | .number value => .number value
  | .string value => .string value

def Scalar.text : Scalar → String
  | .null => "null"
  | .bool value => "boolean `" ++ boolText value ++ "`"
  | .number (.integer value _) => "integer `" ++ integerText value ++ "`"
  | .number (.double value) => "floating point `" ++ doubleText value ++ "`"
  | .string value => "string " ++ Text.quoted value

/-- What stands where something else is wanted. -/
inductive Found where
  | scalar (value : Scalar)
  | array
  | object
deriving Repr

def Found.text : Found → String
  | .scalar value => value.text
  | .array => "sequence"
  | .object => "map"

inductive Wanted where
  | string
  | object
  | record
deriving DecidableEq, Repr

def Wanted.text : Wanted → String
  | .string => "a string"
  | .object => "a map"
  | .record => "struct Record"

inductive Cause where
  | endInValue
  | endInArray
  | endInObject
  | endInString
  | notAValue
  | colonWanted
  | itemEndWanted
  | memberEndWanted
  | nameNotString
  | trailingComma
  | trailingCharacters
  | unknownLiteral
  | invalidNumber
  | numberOutOfRange
  | invalidEscape
  | loneSurrogate
  | unpairedSurrogate
  | controlCharacter
  /-- The bytes of a string, of which the last `excess` are not UTF-8 or follow such bytes. -/
  | notUtf8 (excess : Nat)
  | tooDeep
  | wrongKind (found : Found) (wanted : Wanted)
  | missingMember (name : String)
  | repeatedMember (name : String)
  | tooFewItems (count : Nat)
  /-- The value is well formed, but what it stands for is refused. -/
  | refused (reason : String)
deriving Repr

def Cause.text : Cause → String
  | .endInValue => "EOF while parsing a value"
  | .endInArray => "EOF while parsing a list"
  | .endInObject => "EOF while parsing an object"
  | .endInString => "EOF while parsing a string"
  | .notAValue => "expected value"
  | .colonWanted => "expected `:`"
  | .itemEndWanted => "expected `,` or `]`"
  | .memberEndWanted => "expected `,` or `\x7d`"
  | .nameNotString => "key must be a string"
  | .trailingComma => "trailing comma"
  | .trailingCharacters => "trailing characters"
  | .unknownLiteral => "expected ident"
  | .invalidNumber => "invalid number"
  | .numberOutOfRange => "number out of range"
  | .invalidEscape => "invalid escape"
  | .loneSurrogate => "lone leading surrogate in hex escape"
  | .unpairedSurrogate => "unexpected end of hex escape"
  | .controlCharacter => "control character (\\u0000-\\u001F) found while parsing a string"
  | .notUtf8 _ => "invalid unicode code point"
  | .tooDeep => "recursion limit exceeded"
  | .wrongKind found wanted => "invalid type: " ++ found.text ++ ", expected " ++ wanted.text
  | .missingMember name => "missing field `" ++ name ++ "`"
  | .repeatedMember name => "duplicate field `" ++ name ++ "`"
  | .tooFewItems count =>
    "invalid length " ++ toString count ++ ", expected struct Record with 5 elements"
  | .refused reason => reason

/-- How many columns before the place of the failure it is said to be. -/
def Cause.columnsBack : Cause → Nat
  | .notUtf8 excess => excess
  | _ => 0

structure Position where
  line : Nat
  column : Nat
deriving DecidableEq, Repr

def Position.after (bytes : List UInt8) : Position where
  line := 1 + bytes.count 0x0A
  column := (bytes.reverse.takeWhile (· != 0x0A)).length

/-- What became of the byte after the last one taken when the failure was noticed. -/
inductive Lookahead where
  | unseen
  /-- It was looked at, but is not what is wrong. -/
  | seen
  | blamed
deriving DecidableEq, Repr

structure Stop where
  cause : Cause
  rest : List UInt8
  lookahead : Lookahead
deriving Repr

/-- How the text comes: whole, or byte by byte, where a byte looked at counts as read. -/
inductive Supply where
  | whole
  | stream
deriving DecidableEq, Repr

def Supply.countsLookahead : Supply → Lookahead → Bool
  | _, .unseen => false
  | .whole, .seen => false
  | .stream, .seen => true
  | _, .blamed => true

structure Error where
  cause : Cause
  position : Position
deriving Repr

def Error.text (error : Error) : String :=
  error.cause.text ++ " at line " ++ toString error.position.line ++ " column " ++
    toString error.position.column

def Stop.locate (stop : Stop) (supply : Supply) (text : List UInt8) : Error :=
  let taken := text.length - stop.rest.length
  let counted := if supply.countsLookahead stop.lookahead then taken + 1 else taken
  let position := Position.after (text.take counted)
  ⟨stop.cause, ⟨position.line, position.column - stop.cause.columnsBack⟩⟩

end NaturalKey.Json
