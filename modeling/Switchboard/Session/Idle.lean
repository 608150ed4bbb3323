import Switchboard.Session.Basic

namespace Switchboard.Session

open Link (Caller Effect Input)

def deliver (l : LinkIndex) (i : Input) (s : Session) : Change :=
  match s.nodes[l]? with
  | none => (s, [])
  | some n => s.carryOut l (n.link.handle s.now i)

def drain (l : LinkIndex) (s : Session) : Change :=
  match s.nodes[l]? with
  | none => (s, [])
  | some n => each n.inbox (deliver l) (s.setNode l fun n => { n with inbox := [] })

/-- Stops a link if nobody holds it. -/
def retire (l : LinkIndex) (s : Session) : Change :=
  match s.nodes[l]? with
  | none => (s, [])
  | some n =>
    if n.stopped || s.holds l then (s, [])
    else each n.link.stop (perform l) (s.setNode l fun n => { n with stopped := true })

def ring (l : LinkIndex) (s : Session) : Change :=
  match s.nodes[l]? with
  | none => (s, [])
  | some n => if n.stopped then (s, []) else s.carryOut l (n.link.tick s.now)

/-- Puts a link among others by its deadline, behind those that are due before it or with it. -/
def insertDue (d : Nat × LinkIndex) : List (Nat × LinkIndex) → List (Nat × LinkIndex)
  | [] => [d]
  | e :: es => if d.1 < e.1 then d :: e :: es else e :: insertDue d es

def due (s : Session) : List LinkIndex :=
  let timed := s.nodes.zipIdx.filterMap fun (n, l) => n.link.deadline.map (·, l)
  ((timed.filter (·.1 ≤ s.now)).foldl (fun ds d => insertDue d ds) []).map (·.2)

/-- Goes on with a call that its link has settled. -/
def resume (caller : Caller) (s : Session) : Change :=
  match s.calls.find? (·.caller == caller) with
  | some { continuation := some k, progress := .settled outcome, .. } =>
    let result := Result.answer (k.sequel.answer outcome)
    let s := { s with
      calls := s.calls.map fun c => if c.caller = caller then { c with progress := .done result } else c }
    match outcome with
    | .error _ => (s, [])
    | .ok _ =>
      let opened : Change := match k.sequel.opens with
        | none => (s, [])
        | some a => s.openLink k.name .member { url := a.text, verbose := k.verbose }
      (opened.1, k.sequel.log.map .logged ++ opened.2)
  | _ => (s, [])

def resumeAll (s : Session) : Change := each s.woken resume { s with woken := [] }

/-- Runs a session until it is idle. The order is fixed: every link reacts to all that has come to it
before any settled call goes on, so nothing comes between the settlement of a call and its going on.
A call that is dropped in between is met through steps that are held back, which leave the answer
with the link and take the call away before either has been looked at. -/
def settleDown (s : Session) : Change :=
  let links := fun (s : Session) => List.range s.nodes.length
  (each (links s) drain s)
    |>.andThen (fun s => each (links s) retire s)
    |>.andThen (fun s => each s.due ring s)
    |>.andThen resumeAll
    |>.andThen (fun s => each (links s) retire s)

/-- Tells who is to be told: the calls that are done leave with their results, and those who watch
see what was published. -/
def tell (s : Session) : Change :=
  let settled := s.calls.filterMap fun c => match c.progress with
    | .done result => some (.settled c.label result)
    | _ => none
  let news := fun (w : Watch) => s.nodes[w.link]?.filter fun n => !n.stopped && w.seen < n.published
  let watched := s.watches.filterMap fun w => (news w).map fun n => .watched w.tag n.link.status
  let watches := s.watches.map fun w => match news w with
    | some n => { w with seen := n.published }
    | none => w
  ({ s with calls := s.calls.filter (!·.isDone), watches }, settled ++ watched)

end Switchboard.Session
