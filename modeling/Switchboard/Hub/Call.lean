import Switchboard.Hub.Endpoint
import Switchboard.Hub.Result
import Switchboard.Message.Basic
import Switchboard.Link.Log
import Switchboard.Link.Failure

namespace Switchboard.Hub

open Message (Action Request)

inductive ControlCall
  | list
  | ping
  | start (suffix : String)
  | stop (suffix : String)
  | run (suffix : String)
  deriving DecidableEq

inductive InstanceCall
  | list
  | ping
  | get (key : String)
  | set (key value : String)
  | remove (key : String)
  deriving DecidableEq

inductive Answer
  | nothing
  | text (text : String)
  | texts (texts : List String)
  | entries (entries : List (String × String))
  | address (address : Address)
  deriving DecidableEq

inductive Failure
  | link (failure : Link.Failure)
  | misaddressed (why : Misaddressed)
  | unexpected (why : Unexpected)
  deriving DecidableEq

def Failure.message : Failure → String
  | .link failure => failure.message
  | .misaddressed why => why.message
  | .unexpected why => why.message

/-- What happens once the result is in: how it is read, what is logged, and the address a new link
connects to, if the call makes one. -/
structure Sequel where
  read : Json.Value → Except Unexpected Answer
  log : List Link.LogLine := []
  opens : Option Address := none

structure Plan where
  request : Request
  sequel : Sequel

def noted (text : String) : Link.LogLine := ⟨.debug, text, []⟩

def Plan.plain (request : Request) : Plan := ⟨request, { read := fun _ => .ok .nothing }⟩

def InstanceCall.plan : InstanceCall → Plan
  | .list => ⟨{ action := Action.list.name },
      { read := fun v => (Hub.entries .list v).map .entries }⟩
  | .ping => .plain { action := Action.ping.name }
  | .get key => ⟨{ action := Action.get.name, option1 := key },
      { read := fun v => (Hub.text .get v).map .text }⟩
  | .set key value => .plain { action := Action.set.name, option1 := key, option2 := value }
  | .remove key => .plain { action := Action.remove.name, option1 := key }

/-- The plan to start an instance and perhaps to connect to it. -/
def startPlan (address : Address) (connect : Bool) : Plan where
  request := { action := Action.set.name, option1 := address.text }
  sequel :=
    { read := fun _ => .ok (.address address)
      log := [noted ("instance " ++ address.text ++ " started")]
      opens := if connect then some address else none }

def stopPlan (address : Address) : Plan where
  request := { action := Action.remove.name, option1 := address.text }
  sequel :=
    { read := fun _ => .ok .nothing
      log := [noted ("instance " ++ address.text ++ " stopped")] }

/-- The plan of a call to the hub at an endpoint, if the address it needs is one. -/
def ControlCall.plan (e : Endpoint) : ControlCall → Except Misaddressed Plan
  | .list => .ok ⟨{ action := Action.list.name },
      { read := fun v => (Hub.texts .list v).map .texts }⟩
  | .ping => .ok (.plain { action := Action.ping.name })
  | .start suffix => (e.instanceAt suffix).map (startPlan · false)
  | .stop suffix => (e.instanceAt suffix).map stopPlan
  | .run suffix => (e.instanceAt suffix).map (startPlan · true)

def Sequel.answer (s : Sequel) : Link.Outcome → Except Failure Answer
  | .error failure => .error (.link failure)
  | .ok v => (s.read v).mapError .unexpected

end Switchboard.Hub
