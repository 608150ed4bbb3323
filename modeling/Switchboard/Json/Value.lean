namespace Switchboard.Json

/-- An integer that fits a signed or an unsigned word of 64 bits. -/
structure Integer where
  val : Int
  lower : -0x8000000000000000 ≤ val
  upper : val < 0x10000000000000000
  deriving DecidableEq

inductive Number
  | integer (n : Integer)
  | float (x : Float)

inductive Value
  | null
  | boolean (b : Bool)
  | number (n : Number)
  | string (s : String)
  | array (items : List Value)
  | object (members : List (String × Value))

instance : Inhabited Value := ⟨.null⟩

/-- Puts a member in its place by key. A member of the same key is replaced. -/
def insertMember (key : String) (v : α) : List (String × α) → List (String × α)
  | [] => [(key, v)]
  | (k, w) :: rest =>
    if key < k then (key, v) :: (k, w) :: rest
    else if key = k then (key, v) :: rest
    else (k, w) :: insertMember key v rest

/-- The member list of an object whose members were written in any order: the last of equal keys
counts. -/
def members (written : List (String × α)) : List (String × α) :=
  written.foldl (fun ms m => insertMember m.1 m.2 ms) []

def Integer.ofNat (n : Nat) (h : n < 0x10000000000000000) : Integer := ⟨n, by omega, by omega⟩

def Integer.negOfNat (n : Nat) (h : n ≤ 0x8000000000000000) : Integer := ⟨-n, by omega, by omega⟩

def Integer.toNat? (n : Integer) : Option Nat := if 0 ≤ n.val then some n.val.toNat else none

end Switchboard.Json
