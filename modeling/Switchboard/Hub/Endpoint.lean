import Switchboard.Address.Reader

namespace Switchboard.Hub

/-- The host and port of a hub, and whether its links log what they do. -/
structure Endpoint where
  host : String := "localhost"
  port : Nat := 8372
  verbose : Bool := false
  deriving DecidableEq

structure Misaddressed where
  text : String
  fault : Address.Fault
  deriving DecidableEq

def Misaddressed.reason (m : Misaddressed) : String := m.text ++ ": " ++ m.fault.message

def Misaddressed.message (m : Misaddressed) : String := "invalid address: " ++ m.reason

def Endpoint.textAt (e : Endpoint) (path : String) : String :=
  "ws://" ++ e.host ++ ":" ++ toString e.port ++ path

def Endpoint.addressAt (e : Endpoint) (path : String) : Except Misaddressed Address :=
  (Address.parse (e.textAt path)).mapError fun fault => ⟨e.textAt path, fault⟩

def Endpoint.control (e : Endpoint) : Except Misaddressed Address := e.addressAt "/ctl"

def Endpoint.instanceAt (e : Endpoint) (suffix : String) : Except Misaddressed Address :=
  e.addressAt ("/ws" ++ suffix)

end Switchboard.Hub
