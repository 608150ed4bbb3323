import Switchboard.Json.Value
import Switchboard.Json.Decimal

namespace Switchboard.Json

def hexDigit (n : Nat) : Char := if n < 10 then Char.ofNat (48 + n) else Char.ofNat (87 + n)

/-- A character inside a JSON string. Below the space five have short escapes. -/
def escapeChar (c : Char) : List Char :=
  if c = '"' then ['\\', '"']
  else if c = '\\' then ['\\', '\\']
  else if c = '\x08' then ['\\', 'b']
  else if c = '\t' then ['\\', 't']
  else if c = '\n' then ['\\', 'n']
  else if c = '\x0c' then ['\\', 'f']
  else if c = '\r' then ['\\', 'r']
  else if c.toNat < 0x20 then ['\\', 'u', '0', '0', hexDigit (c.toNat / 16), hexDigit (c.toNat % 16)]
  else [c]

def stringChars (s : List Char) : List Char := '"' :: s.flatMap escapeChar ++ ['"']

def natChars (n : Nat) : List Char := Nat.toDigits 10 n

def intChars (n : Int) : List Char :=
  if n < 0 then '-' :: natChars n.natAbs else natChars n.toNat

def Number.chars : Number → List Char
  | .integer n => intChars n.val
  | .float x => (Decimal.ofFloat x).toList

mutual

def Value.chars : Value → List Char
  | .null => ['n', 'u', 'l', 'l']
  | .boolean true => ['t', 'r', 'u', 'e']
  | .boolean false => ['f', 'a', 'l', 's', 'e']
  | .number n => n.chars
  | .string s => stringChars s.toList
  | .array [] => ['[', ']']
  | .array (v :: vs) => '[' :: v.chars ++ Value.itemsChars vs
  | .object [] => ['{', '}']
  | .object ((k, v) :: ms) => '{' :: stringChars k.toList ++ ':' :: v.chars ++ Value.membersChars ms

def Value.itemsChars : List Value → List Char
  | [] => [']']
  | v :: vs => ',' :: v.chars ++ Value.itemsChars vs

def Value.membersChars : List (String × Value) → List Char
  | [] => ['}']
  | (k, v) :: ms => ',' :: stringChars k.toList ++ ':' :: v.chars ++ Value.membersChars ms

end

def Value.compact (v : Value) : String := String.ofList v.chars

end Switchboard.Json
