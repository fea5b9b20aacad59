import NaturalKey.Binary64
import NaturalKey.Json

/-!
Writing JSON: on one line without any space, or one item and one member a line, each indented by
two spaces more than the bracket around it.
-/

set_option autoImplicit false

namespace NaturalKey.Json

/-- The least and the first too large exponent of a leading digit for which a double is written
without an exponent. -/
def positionalExponents : Int × Int := (-5, 16)

/-- The digits of a positive decimal with a point among them, or with zeros to reach it. -/
def positionalText (digits : List Char) (exponent : Int) : List Char :=
  if 0 ≤ exponent then
    digits ++ List.replicate exponent.toNat '0' ++ ['.', '0']
  else
    let wholeDigits := digits.length + exponent
    if 0 < wholeDigits then
      digits.take wholeDigits.toNat ++ '.' :: digits.drop wholeDigits.toNat
    else
      '0' :: '.' :: List.replicate (-wholeDigits).toNat '0' ++ digits

/-- One digit, a point before the others if there are others, and an exponent with its sign. -/
def exponentialText (digits : List Char) (leading : Int) : List Char :=
  let mantissa :=
    match digits with
    | first :: second :: rest => first :: '.' :: second :: rest
    | few => few
  mantissa ++ 'e' :: (if 0 ≤ leading then '+' else '-') :: Nat.toDigits 10 leading.natAbs

/-- The shortest decimal that reads back, with a fraction or an exponent always. -/
def doubleText (x : Binary64) : String :=
  let decimal := x.shortest
  let digits := Nat.toDigits 10 decimal.digits
  let leading := decimal.exponent + digits.length - 1
  let magnitude :=
    if positionalExponents.1 ≤ leading ∧ leading < positionalExponents.2 then
      positionalText digits decimal.exponent
    else
      exponentialText digits leading
  String.ofList (if x.negative then '-' :: magnitude else magnitude)

def integerText (value : Int) : String :=
  let digits := Nat.toDigits 10 value.natAbs
  String.ofList (if value < 0 then '-' :: digits else digits)

def Number.text : Number → String
  | .integer value _ => integerText value
  | .double value => doubleText value

def escape (c : Char) : List Char :=
  if c = '\x22' then ['\\', '\x22']
  else if c = '\\' then ['\\', '\\']
  else if c = '\x08' then ['\\', 'b']
  else if c = '\x0c' then ['\\', 'f']
  else if c = '\n' then ['\\', 'n']
  else if c = '\r' then ['\\', 'r']
  else if c = '\t' then ['\\', 't']
  else if c.toNat < 0x20 then
    ['\\', 'u', '0', '0', Nat.digitChar (c.toNat / 16), Nat.digitChar (c.toNat % 16)]
  else [c]

def stringText (text : String) : String :=
  String.ofList ('\x22' :: text.toList.flatMap escape ++ ['\x22'])

def boolText (value : Bool) : String :=
  if value then "true" else "false"

mutual

def compact : Json → String
  | .null => "null"
  | .bool value => boolText value
  | .number value => value.text
  | .string value => stringText value
  | .array items => "[" ++ compactItems true items ++ "]"
  | .object members => "\x7b" ++ compactMembers true members ++ "\x7d"

def compactItems (first : Bool) : List Json → String
  | [] => ""
  | item :: rest => (if first then "" else ",") ++ compact item ++ compactItems false rest

def compactMembers (first : Bool) : List (String × Json) → String
  | [] => ""
  | (name, value) :: rest =>
    (if first then "" else ",") ++ stringText name ++ ":" ++ compact value ++
      compactMembers false rest

end

def newLine (level : Nat) : String :=
  "\n" ++ String.ofList (List.replicate (2 * level) ' ')

mutual

/-- The value over several lines, for a place indented by `level`. Empty brackets stay together. -/
def pretty (level : Nat) : Json → String
  | .null => "null"
  | .bool value => boolText value
  | .number value => value.text
  | .string value => stringText value
  | .array [] => "[]"
  | .array (item :: rest) =>
    "[" ++ newLine (level + 1) ++ pretty (level + 1) item ++ prettyItems (level + 1) rest ++
      newLine level ++ "]"
  | .object [] => "\x7b\x7d"
  | .object ((name, value) :: rest) =>
    "\x7b" ++ newLine (level + 1) ++ stringText name ++ ": " ++ pretty (level + 1) value ++
      prettyMembers (level + 1) rest ++ newLine level ++ "\x7d"

def prettyItems (level : Nat) : List Json → String
  | [] => ""
  | item :: rest => "," ++ newLine level ++ pretty level item ++ prettyItems level rest

def prettyMembers (level : Nat) : List (String × Json) → String
  | [] => ""
  | (name, value) :: rest =>
    "," ++ newLine level ++ stringText name ++ ": " ++ pretty level value ++
      prettyMembers level rest

end

end NaturalKey.Json
