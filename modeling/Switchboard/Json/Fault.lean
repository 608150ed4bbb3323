import Switchboard.Text.Blank
import Switchboard.Text.Quoted
import Switchboard.Json.Decimal

/-!
Why a JSON text or value is refused, and where in the text. A place is kept as the number of bytes
that lie behind it, so that a reader that only knows the rest of the text can name it.
-/

namespace Switchboard.Json

inductive Found
  | null
  | boolean (b : Bool)
  | integer (n : Int)
  | float (x : Float)
  | string (s : String)
  | sequence
  | map

inductive Wanted
  | u64
  | boolean
  | string
  | sequence
  | map
  | record (name : String)

inductive Cause
  | unclosedList
  | unclosedObject
  | unclosedString
  | missingValue
  | expectedColon
  | expectedCommaOrBracket
  | expectedCommaOrBrace
  | expectedIdent
  | expectedValue
  | invalidEscape
  | invalidNumber
  | numberOutOfRange
  | keyNotString
  | loneSurrogate
  | unfinishedSurrogate
  | controlCharacter
  | trailingComma
  | trailingCharacters
  | tooDeep
  | wrongType (found : Found) (wanted : Wanted)
  | wrongValue (found : Found) (wanted : Wanted)
  | missingField (name : String)
  | duplicateField (name : String)
  | tooShort (length : Nat) (record : String) (size : Nat)
  | tooLong (length : Nat)

/-- A cause and the number of bytes of the text behind the place where it was noticed. -/
structure Fault where
  cause : Cause
  behind : Nat

def Fault.here (cause : Cause) (rest : List Char) : Fault := ⟨cause, Text.bytes rest⟩

/-- The fault is noticed on the first byte of `rest`, or at the end if there is none. -/
def Fault.next (cause : Cause) (rest : List Char) : Fault := ⟨cause, Text.bytes rest - 1⟩

structure Place where
  line : Nat
  column : Nat
  deriving DecidableEq

def Place.advance (p : Place) : List Char → Nat → Place
  | [], n => ⟨p.line, p.column + n⟩
  | c :: cs, n =>
    if n < c.utf8Size then ⟨p.line, p.column + n⟩
    else if c = '\n' then advance ⟨p.line + 1, 0⟩ cs (n - c.utf8Size)
    else advance ⟨p.line, p.column + c.utf8Size⟩ cs (n - c.utf8Size)

def Fault.place (f : Fault) (text : List Char) : Place :=
  Place.advance ⟨1, 0⟩ text (Text.bytes text - f.behind)

def Found.describe : Found → String
  | .null => "null"
  | .boolean b => "boolean `" ++ (if b then "true" else "false") ++ "`"
  | .integer n => "integer `" ++ toString n ++ "`"
  | .float x => "floating point `" ++ Decimal.ofFloat x ++ "`"
  | .string s => "string " ++ Text.quoted s
  | .sequence => "sequence"
  | .map => "map"

def Wanted.describe : Wanted → String
  | .u64 => "u64"
  | .boolean => "a boolean"
  | .string => "a string"
  | .sequence => "a sequence"
  | .map => "a map"
  | .record name => "struct " ++ name

def Cause.message : Cause → String
  | .unclosedList => "EOF while parsing a list"
  | .unclosedObject => "EOF while parsing an object"
  | .unclosedString => "EOF while parsing a string"
  | .missingValue => "EOF while parsing a value"
  | .expectedColon => "expected `:`"
  | .expectedCommaOrBracket => "expected `,` or `]`"
  | .expectedCommaOrBrace => "expected `,` or `\x7d`"
  | .expectedIdent => "expected ident"
  | .expectedValue => "expected value"
  | .invalidEscape => "invalid escape"
  | .invalidNumber => "invalid number"
  | .numberOutOfRange => "number out of range"
  | .keyNotString => "key must be a string"
  | .loneSurrogate => "lone leading surrogate in hex escape"
  | .unfinishedSurrogate => "unexpected end of hex escape"
  | .controlCharacter => "control character (\\u0000-\\u001F) found while parsing a string"
  | .trailingComma => "trailing comma"
  | .trailingCharacters => "trailing characters"
  | .tooDeep => "recursion limit exceeded"
  | .wrongType found wanted => "invalid type: " ++ found.describe ++ ", expected " ++ wanted.describe
  | .wrongValue found wanted => "invalid value: " ++ found.describe ++ ", expected " ++ wanted.describe
  | .missingField name => "missing field `" ++ name ++ "`"
  | .duplicateField name => "duplicate field `" ++ name ++ "`"
  | .tooShort length record size =>
    "invalid length " ++ toString length ++ ", expected struct " ++ record ++ " with " ++
      toString size ++ " elements"
  | .tooLong length => "invalid length " ++ toString length ++ ", expected fewer elements in array"

/-- A refusal: its cause and, when a text was read, the place. -/
structure Refusal where
  cause : Cause
  place : Option Place

def Fault.refusal (f : Fault) (text : List Char) : Refusal := ⟨f.cause, some (f.place text)⟩

def Cause.refusal (c : Cause) : Refusal := ⟨c, none⟩

def Refusal.message (r : Refusal) : String :=
  match r.place with
  | none => r.cause.message
  | some place =>
    r.cause.message ++ " at line " ++ toString place.line ++ " column " ++ toString place.column

end Switchboard.Json
