import Switchboard.Proofs.Session.Ongoing

namespace Switchboard.Session

open Link (Caller Moment)

variable {s : Session} {d : Call} {k : Continuation} {n : Node} {l : Link}
  {ms : List (Nat × Moment)}

/-- A call that was put to a hub, with the request it makes. -/
structure Order where
  caller : Caller
  label : String
  link : LinkIndex
  call : Hub.ControlCall
  request : Message.Request

def order? (s : Session) : Step → Option Order
  | .askHub name label call _ => (s.handle? name).bind fun h =>
      match h.role with
      | .hub e => (call.plan e).toOption.map fun p => ⟨s.callers, label, h.link, call, p.request⟩
      | _ => none
  | _ => none

def arrivals (s : Session) (i : LinkIndex) (held : Bool) (st : Step) : List (Nat × Moment) :=
  if held then [] else
    let s := (s.take st).2.1
    ((s.nodes[i]?).map s.coming).getD []

/-- The outcome on which an order goes on, by what its link has reacted to since a state. It is what
becomes of its request there, unless the order is dropped before. -/
def Order.outcome (o : Order) (l : Link) (ms : List (Nat × Moment)) (s : Session) :
    List (Bool × Step) → Option Link.Outcome
  | [] => none
  | (held, st) :: rest =>
    if st.drops? = some o.label then none
    else
      let ms := ms ++ s.arrivals o.link held st
      (Link.fateOf o.caller l ms).or (o.outcome l ms (s.step held st).2.1 rest)

def outcomeOf (s : Session) (o : Order) (sts : List (Bool × Step)) : Option Link.Outcome :=
  (s.nodes[o.link]?).bind fun n => o.outcome n.link [] s sts

/-- The orders given on the way, each with the outcome on which it goes on, if it does. -/
def orders (s : Session) : List (Bool × Step) → List (Order × Option Link.Outcome)
  | [] => []
  | (held, st) :: rest =>
    (s.order? st).toList.map (fun o => (o, s.outcomeOf o ((held, st) :: rest))) ++
      orders (s.step held st).2.1 rest

def Order.address? (o : Order) : Option String :=
  match o.call with
  | .run _ => some o.request.option1
  | _ => none

/-- The address at which an order that goes on with an outcome opens a link. It opens one if it is
answered with success. -/
def Order.opening? (o : Order) : Option Link.Outcome → Option String
  | some (.ok _) => o.address?
  | _ => none

structure Order.Makes (o : Order) (d : Call) : Prop where
  caller : d.caller = o.caller
  label : d.label = o.label
  link : d.link = o.link

variable {o : Order}

theorem InHand.arrivals_eq {st : Step} (h : InHand d k l ms n (s.take st).2.1) :
    s.arrivals d.link false st = (s.take st).2.1.coming n := by
  obtain ⟨actual, hactual, rfl⟩ := h.lodged.at
  simp only [arrivals, Bool.false_eq_true, ↓reduceIte, hactual, Option.map_some, Option.getD_some]
  rfl

/-- A call and its order go on alike from a step on, if they do after it. -/
theorem InHand.alike (ho : o.Makes d) {held : Bool} {st : Step} {rest : List (Bool × Step)}
    (h : InHand d k l ms n (s.take st).2.1)
    (hrest : ∀ ms n, InHand d k l ms n (s.step held st).2.1 →
      d.resumes (s.step held st).2.1 rest = o.outcome l ms (s.step held st).2.1 rest) :
    (if held then none else (s.take st).2.1.reply? d).or (d.resumes (s.step held st).2.1 rest) =
      (Link.fateOf o.caller l (ms ++ s.arrivals o.link held st)).or
        (o.outcome l (ms ++ s.arrivals o.link held st) (s.step held st).2.1 rest) := by
  rw [← ho.caller, ← ho.link]
  cases held with
  | true =>
    have hnothing : s.arrivals d.link true st = [] := rfl
    rw [hnothing, List.append_nil, h.fateOf_none, hrest ms n h]
    rfl
  | false =>
    rw [h.arrivals_eq]
    simp only [Bool.false_eq_true, ↓reduceIte, h.reply?_eq]
    cases hf : Link.fateOf d.caller l (ms ++ (s.take st).2.1.coming n) with
    | some outcome => rfl
    | none =>
      have hafter := h.tell hf
      rw [← step_unheld_fst] at hafter
      rw [hrest _ _ hafter]

/-- A call that is under way goes on as its order says, by what its link reacts to. -/
theorem InHand.resumes_eq (ho : o.Makes d) (hs : Regular s) (h : InHand d k l ms n s)
    (sts : List (Bool × Step)) : d.resumes s sts = o.outcome l ms s sts := by
  induction sts generalizing s ms n with
  | nil => rfl
  | cons st sts ih =>
    obtain ⟨held, st⟩ := st
    rw [Call.resumes, Order.outcome, ← ho.label]
    by_cases hst : st.drops? = some d.label
    · rw [if_pos hst, if_pos hst]
    · rw [if_neg hst, if_neg hst]
      obtain ⟨is, htaken⟩ := h.take hs.enrolled hst
      exact htaken.alike ho fun _ _ hn => ih (hs.step held st) hn

/-- The plan of an order opens the address that the order is for, which its request carries. -/
theorem plan_opens {e : Hub.Endpoint} {p : Hub.Plan} (h : o.call.plan e = .ok p)
    (hr : o.request = p.request) :
    p.sequel.opens.map (·.text) = o.address? ∧
      ∀ url, o.address? = some url →
        o.request = { action := Message.Action.set.name, option1 := url } := by
  rw [Order.address?, hr]
  cases hc : o.call with
  | list | ping =>
    rw [hc] at h
    cases h
    exact ⟨rfl, nofun⟩
  | start suffix | stop suffix =>
    rw [hc] at h
    obtain ⟨a, -, rfl⟩ := Json.map_eq_ok h
    exact ⟨rfl, nofun⟩
  | run suffix =>
    rw [hc] at h
    obtain ⟨a, -, rfl⟩ := Json.map_eq_ok h
    refine ⟨rfl, fun url hurl => ?_⟩
    cases hurl
    rfl

/-- The call that a hub is asked adds what its order says. -/
theorem asked_opens (hs : Regular s) {name : String} (label opened : String) {c : Hub.ControlCall}
    {h : Handle} (hh : s.handle? name = some h) {e : Hub.Endpoint} (hrole : h.role = .hub e)
    {p : Hub.Plan} (hp : c.plan e = .ok p) (held : Bool) (rest : List (Bool × Step)) :
    let st := Step.askHub name label c opened
    let o : Order := ⟨s.callers, label, h.link, c, p.request⟩
    let d : Call := { caller := s.callers, label, link := h.link
                      continuation := some ⟨p.sequel, opened, e.verbose⟩ }
    d.opens (d.resumes s ((held, st) :: rest)) =
      o.opening? (s.outcomeOf o ((held, st) :: rest)) := by
  intro st o d
  have hn := List.getElem?_eq_getElem (hs.owned h (List.mem_of_find?_eq_some hh))
  have htake : (s.take st).2.1 =
      s.call label h.link p.request (some ⟨p.sequel, opened, e.verbose⟩) := by
    simp only [st, take, withHandle, hh, hrole, hp]
  have hmade := InHand.made (hs.fresh s.callers (Nat.le_refl _)).balanced hs.enrolled hs.fresh hn
    label p.request ⟨p.sequel, opened, e.verbose⟩
  rw [← htake] at hmade
  have ho : o.Makes d := ⟨rfl, rfl, rfl⟩
  have houtcome : d.resumes s ((held, st) :: rest) = s.outcomeOf o ((held, st) :: rest) := by
    rw [outcomeOf, hn, Option.bind_some]
    exact hmade.alike ho fun _ _ hlater => hlater.resumes_eq ho (hs.step held st) rest
  rw [houtcome, Call.opens, Option.bind_some]
  cases s.outcomeOf o ((held, st) :: rest) with
  | none => rfl
  | some outcome =>
    cases outcome with
    | error failure => rfl
    | ok v => exact (plan_opens (o := o) hp rfl).1

/-- The call that an instance is asked adds nothing. -/
theorem asked_instance_opens (c : Hub.InstanceCall) {x : Caller} {label : String} {i : LinkIndex}
    (outcome : Option Link.Outcome) :
    Call.opens { caller := x, label, link := i
                 continuation := some ⟨c.plan.sequel, "", false⟩ } outcome = none := by
  cases c <;> cases outcome with
  | none => rfl
  | some outcome => cases outcome <;> rfl

/-- What the calls made on the way add is what their orders say. -/
theorem ordered_eq (hs : Regular s) (sts : List (Bool × Step)) :
    s.ordered sts = (s.orders sts).filterMap fun q => q.1.opening? q.2 := by
  induction sts generalizing s with
  | nil => rfl
  | cons st sts ih =>
    obtain ⟨held, st⟩ := st
    rw [ordered, orders, List.filterMap_append, ih (hs.step held st)]
    congr 1
    -- Only a call that is made can open anything later, and only one asked of a hub.
    cases st with
    | send name label r =>
      simp only [newcomer?, order?, Option.toList_none, List.map_nil, List.filterMap_nil]
      cases s.handle? name <;> rfl
    | askInstance name label c =>
      simp only [newcomer?, order?, Option.toList_none, List.map_nil, List.filterMap_nil]
      cases s.handle? name with
      | none => rfl
      | some h =>
        rw [Option.map_some, Option.toList_some, List.filterMap_cons, asked_instance_opens]
        rfl
    | askHub name label c opened =>
      simp only [newcomer?, order?]
      cases hh : s.handle? name with
      | none => rfl
      | some h =>
        simp only [Option.bind_some]
        cases hrole : h.role with
        | client | member => rfl
        | hub e =>
          dsimp only
          cases hp : c.plan e with
          | error why => rfl
          | ok p =>
            have hopens := asked_opens hs label opened hh hrole hp held sts
            simp only [Except.toOption, Option.map_some, Option.toList_some, List.map_cons,
              List.map_nil, List.filterMap_cons, List.filterMap_nil, hopens]
    | _ => rfl

theorem regular_empty : Regular {} where
  enrolled := run_enrolled []
  fresh := run_fresh []
  begun := List.forall_mem_nil _
  owned := List.forall_mem_nil _
  calls := List.forall_mem_nil _

/-- The step that gives an order puts the request of the order to its link. -/
theorem order_posted {st : Step} {o : Order} (ho : s.order? st = some o) :
    (s.take st).2.1.nodes = (s.post o.link (.request o.request o.caller)).nodes ∧
      ∀ url, o.address? = some url →
        o.request = { action := Message.Action.set.name, option1 := url } := by
  cases st with
  | askHub name label c opened =>
    obtain ⟨h, hh, ho⟩ := Option.bind_eq_some_iff.mp ho
    cases hrole : h.role with
    | client | member =>
      rw [hrole] at ho
      cases ho
    | hub e =>
      simp only [hrole] at ho
      cases hp : c.plan e with
      | error why =>
        rw [hp] at ho
        cases ho
      | ok p =>
        rw [hp] at ho
        cases ho
        refine ⟨?_, (plan_opens hp rfl).2⟩
        simp only [take, withHandle, hh, hrole, hp]
        rfl
  | _ => cases ho

/-- Apart from the links that steps open themselves, those that are opened are one for each order to
run an instance that is answered with success before it is dropped, at the address that the request
of the order carries. -/
theorem opens_one_link_per_answered_run :
    (∀ sts : List (Bool × Step), (run {} sts).1.firsts.Perm
      (sts.filterMap (·.2.opens?) ++ (orders {} sts).filterMap fun q => q.1.opening? q.2)) ∧
    ∀ (s : Session) (st : Step) (o : Order), s.order? st = some o →
      (s.take st).2.1.nodes = (s.post o.link (.request o.request o.caller)).nodes ∧
      ∀ url, o.address? = some url →
        o.request = { action := Message.Action.set.name, option1 := url } := by
  constructor
  · intro sts
    have hfirsts := run_firsts regular_empty sts
    rw [ordered_eq regular_empty] at hfirsts
    exact hfirsts
  · intro s st o ho
    exact order_posted ho

/-- Two instances are run at once. The second is granted first, and then the first is refused. -/
def crossedRuns : List (Bool × Step) :=
  [(false, .openHub "h" {}), (false, .transport 0 .opened),
    (true, .askHub "h" "a" (.run "/a") "first"), (true, .askHub "h" "b" (.run "/b") "second"),
    (false, .transport 0 (.message (Message.Response.succeeded 2 .null).write)),
    (false, .transport 0 (.message (Message.Response.failed 1 "full").write))]

/-- Of two runs at once, the one that is granted opens its link, though the other was ordered first.
-/
theorem crossed_runs_open_second :
    (run {} crossedRuns).1.firsts.Perm ["ws://localhost:8372/ctl", "ws://localhost:8372/ws/b"] ∧
    ∃ o, (run {} (crossedRuns.take 2)).1.order? (.askHub "h" "a" (.run "/a") "first") = some o ∧
      o.request = { action := "SET", option1 := "ws://localhost:8372/ws/a" } := by
  obtain ⟨hlinks, hposted⟩ := opens_one_link_per_answered_run
  have hopened : crossedRuns.filterMap (·.2.opens?) ++
      ((orders {} crossedRuns).filterMap fun q => q.1.opening? q.2) =
        ["ws://localhost:8372/ctl", "ws://localhost:8372/ws/b"] := by decide +kernel
  have hfirst : ((run {} (crossedRuns.take 2)).1.order?
      (.askHub "h" "a" (.run "/a") "first")).bind Order.address? =
        some "ws://localhost:8372/ws/a" := by decide +kernel
  obtain ⟨o, ho, haddress⟩ := Option.bind_eq_some_iff.mp hfirst
  exact ⟨hopened ▸ hlinks crossedRuns, o, ho, (hposted _ _ o ho).2 _ haddress⟩

end Switchboard.Session
