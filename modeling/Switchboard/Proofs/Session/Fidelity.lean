import Switchboard.Proofs.Hub.Result
import Switchboard.Proofs.Link.Replies
import Switchboard.Proofs.Message.Request
import Switchboard.Proofs.Session.Exchange
import Switchboard.Proofs.Session.Stopped

namespace Switchboard.Session

open Hub (Answer)
open Json (Value)
open Link (Legible frameOf)
open Message (Id Request Response)

/-- Steps that ask through a handle, by the role it has, and the requests they are to make. -/
inductive Asks (name label : String) : Role → Step → Request → Prop
  | get (role : Role) (key : String) :
      Asks name label role (.askInstance name label (.get key)) ⟨"GET", key, ""⟩
  | set (role : Role) (key text : String) :
      Asks name label role (.askInstance name label (.set key text)) ⟨"SET", key, text⟩
  | remove (role : Role) (key : String) :
      Asks name label role (.askInstance name label (.remove key)) ⟨"REMOVE", key, ""⟩
  | entries (role : Role) :
      Asks name label role (.askInstance name label .list) ⟨"LIST", "", ""⟩
  | texts (e : Hub.Endpoint) (opened : String) :
      Asks name label (.hub e) (.askHub name label .list opened) ⟨"LIST", "", ""⟩

def mapValue (es : List (String × String)) : Value := .object (es.map fun e => (e.1, .string e.2))

def listValue (ts : List String) : Value := .array (ts.map .string)

/-- What a step that asks is told if the result is a value. A text stands for itself, and a list or
a map comes as its value or as the text of that value. The results of changes do not matter. -/
inductive Brings : Step → Value → Answer → Prop
  | get {name label key : String} (text : String) :
      Brings (.askInstance name label (.get key)) (.string text) (.text text)
  | set {name label key text : String} {v : Value} (regular : v.Regular) (depth : v.depth ≤ 126) :
      Brings (.askInstance name label (.set key text)) v .nothing
  | remove {name label key : String} {v : Value} (regular : v.Regular) (depth : v.depth ≤ 126) :
      Brings (.askInstance name label (.remove key)) v .nothing
  | entries {name label : String} {es : List (String × String)}
      (ordered : (es.map (·.1)).Pairwise (· < ·)) :
      Brings (.askInstance name label .list) (mapValue es) (.entries es)
  | entriesText {name label : String} {es : List (String × String)}
      (ordered : (es.map (·.1)).Pairwise (· < ·)) :
      Brings (.askInstance name label .list) (.string (mapValue es).compact) (.entries es)
  | texts {name label opened : String} (ts : List String) :
      Brings (.askHub name label .list opened) (listValue ts) (.texts ts)
  | textsText {name label opened : String} (ts : List String) :
      Brings (.askHub name label .list opened) (.string (listValue ts).compact) (.texts ts)

/-- A handle whose link is connecting or open once it has reacted to all that has come to it, with
the far side of its socket there. -/
structure Ready (s : Session) (name : String) (h : Handle) (n : Node) (i : SocketIndex) : Prop where
  handle : s.handle? name = some h
  node : s.nodes[h.link]? = some n
  going : (s.caughtUp n).phase ≠ .closed
  socket : ∃ k, s.sockets[i]? = some k ∧ k.link = h.link ∧ k.epoch = n.link.epoch ∧ k.attached

variable {s : Session} {name label : String} {h : Handle} {n : Node} {i : SocketIndex} {st : Step}
  {r : Request} {v : Value} {a : Answer}

theorem mapValue_regular {es : List (String × String)}
    (ordered : (es.map (·.1)).Pairwise (· < ·)) : (mapValue es).Regular := by
  refine .of_keys (fun m hm => ?_) ?_
  · obtain ⟨e, -, rfl⟩ := List.mem_map.mp hm
    exact .string e.2
  · rwa [List.map_map]

theorem listValue_regular (ts : List String) : (listValue ts).Regular := by
  refine .array fun v hv => ?_
  obtain ⟨t, -, rfl⟩ := List.mem_map.mp hv
  exact .string t

theorem mapValue_depth (es : List (String × String)) : (mapValue es).depth ≤ 1 := by
  refine Nat.succ_le_succ (Json.membersDepth_le.mpr fun m hm => ?_)
  obtain ⟨e, -, rfl⟩ := List.mem_map.mp hm
  exact Nat.le_refl 0

theorem listValue_depth (ts : List String) : (listValue ts).depth ≤ 1 := by
  refine Nat.succ_le_succ (Json.itemsDepth_le.mpr fun v hv => ?_)
  obtain ⟨t, -, rfl⟩ := List.mem_map.mp hv
  exact Nat.le_refl 0

theorem entries_mapValue (es : List (String × String)) :
    Hub.entries .list (mapValue es) = .ok es :=
  Hub.entries_of_isEntries (.object es)

/-- A map reads back from its text in a string. -/
theorem entries_mapText {es : List (String × String)}
    (ordered : (es.map (·.1)).Pairwise (· < ·)) :
    Hub.entries .list (.string (mapValue es).compact) = .ok es := by
  have hdepth : (mapValue es).depth ≤ Json.maxDepth :=
    Nat.le_trans (mapValue_depth es) (by decide)
  rw [← entries_mapValue es]
  exact Hub.compound_compact (mapValue_regular ordered) (by simp [mapValue]) hdepth .list

theorem texts_listValue (ts : List String) : Hub.texts .list (listValue ts) = .ok ts :=
  Hub.texts_of_isTexts (.array ts)

theorem texts_listText (ts : List String) :
    Hub.texts .list (.string (listValue ts).compact) = .ok ts := by
  have hdepth : (listValue ts).depth ≤ Json.maxDepth :=
    Nat.le_trans (listValue_depth ts) (by decide)
  rw [← texts_listValue ts]
  exact Hub.compound_compact (listValue_regular ts) (by simp [listValue]) hdepth .list

/-- What a result is held in reads back from a reply. -/
theorem Brings.legible (h : Brings st v a) {id : Id} (hid : id < 2 ^ 64) :
    Legible (Response.succeeded id v) := by
  have hv : v.Regular ∧ v.depth ≤ 126 := by
    cases h with
    | get | entriesText | textsText => exact ⟨.string _, Nat.zero_le _⟩
    | set regular depth => exact ⟨regular, depth⟩
    | remove regular depth => exact ⟨regular, depth⟩
    | entries ordered =>
      exact ⟨mapValue_regular ordered, Nat.le_trans (mapValue_depth _) (by decide)⟩
    | texts ts => exact ⟨listValue_regular ts, Nat.le_trans (listValue_depth ts) (by decide)⟩
  exact ⟨⟨hid, hv.1⟩, hv.2⟩

/-- A step that asks makes a call with the request, and draws the answer from the result. -/
theorem Asks.take {role : Role} (h : Asks name label role st r) {handle : Handle}
    (hh : s.handle? name = some handle) (hrole : handle.role = role) :
    ∃ k, (s.take st).2 = (s.call label handle.link r (some k), []) ∧
      ∀ {v a}, Brings st v a → k.sequel.answer (.ok v) = .ok a := by
  cases h with
  | get _ key =>
    refine ⟨⟨(Hub.InstanceCall.get key).plan.sequel, "", false⟩, ?_, fun hb => ?_⟩
    · simp only [Session.take, withHandle, hh]
      rfl
    · cases hb
      rfl
  | set _ key text =>
    refine ⟨⟨(Hub.InstanceCall.set key text).plan.sequel, "", false⟩, ?_, fun hb => ?_⟩
    · simp only [Session.take, withHandle, hh]
      rfl
    · cases hb
      rfl
  | remove _ key =>
    refine ⟨⟨(Hub.InstanceCall.remove key).plan.sequel, "", false⟩, ?_, fun hb => ?_⟩
    · simp only [Session.take, withHandle, hh]
      rfl
    · cases hb
      rfl
  | entries =>
    refine ⟨⟨Hub.InstanceCall.list.plan.sequel, "", false⟩, ?_, fun hb => ?_⟩
    · simp only [Session.take, withHandle, hh]
      rfl
    · simp only [Hub.InstanceCall.plan, Hub.Sequel.answer]
      cases hb with
      | entries => rw [entries_mapValue]; rfl
      | entriesText ordered => rw [entries_mapText ordered]; rfl
  | texts e opened =>
    refine ⟨⟨{ read := fun v => (Hub.texts .list v).map .texts }, opened, e.verbose⟩, ?_,
      fun hb => ?_⟩
    · simp only [Session.take, withHandle, hh, hrole]
      rfl
    · simp only [Hub.Sequel.answer]
      cases hb with
      | texts ts => rw [texts_listValue]; rfl
      | textsText ts => rw [texts_listText]; rfl

/-- Replies in one frame settle a call by the first of them that names its id. -/
theorem outcome_frameOf {E : Epoch} {id : Id} {earlier later : List Response}
    (hlegible : ∀ reply ∈ earlier ++ .succeeded id v :: later, Legible reply)
    (hearlier : ∀ reply ∈ earlier, reply.id ≠ id) :
    (Link.Moment.input (.transport E (.message
      (frameOf (earlier ++ .succeeded id v :: later))))).outcome? E id = some (.ok v) := by
  have hothers : (earlier.map Except.ok).find? (Link.names id) = none := by
    refine List.find?_eq_none.mpr fun entry hentry => ?_
    obtain ⟨reply, hreply, rfl⟩ := List.mem_map.mp hentry
    simpa [Link.names, Link.entryId?] using hearlier reply hreply
  simp only [Link.Moment.outcome?, Link.Moment.entries, ↓reduceIte, Link.readFrame_frameOf hlegible,
    List.map_append, List.find?_append, hothers, Option.none_or, List.map_cons]
  simp [Link.names, Link.entryId?, Link.entryOutcome, Response.succeeded, Response.outcome]

/-- Who holds a handle holds its link. -/
theorem Ready.not_stopped (hr : Ready s name h n i) (ho : Orderly s) : n.stopped = false := by
  cases hs : n.stopped with
  | false => rfl
  | true =>
    have hstopped : s.hasStopped h.link = true := by simp [hasStopped, hr.node, hs]
    have hheld := (holds_eq_false.mp (ho h.link hstopped).2).1 h
    exact absurd rfl (hheld (List.mem_of_find?_eq_some hr.handle))

/-- Data comes through a session unaltered. Something is asked through a handle that is ready. Once
the connection is open, a text has been written from which the request and the id of the call read
back, with its action, key and text. Then, whatever is done in between that leaves the call alone,
and whatever replies to other calls come before: when a reply to the call comes, its caller is told
just the text, list or map that the reply holds. -/
theorem data_comes_through (before between : List (Bool × Step))
    (hready : Ready (run {} before).1 name h n i) (hasks : Asks name label h.role st r)
    (hbrings : Brings st v a) {id : Id} (hid : id < 2 ^ 64)
    (hnext : ((run {} before).1.caughtUp n).pending.next = id)
    (hbetween : ∀ st ∈ between, st.2.LeavesAlone label i id) (earlier later : List Response)
    (hlegible : ∀ reply ∈ earlier ++ later, Legible reply)
    (hearlier : ∀ reply ∈ earlier, reply.id ≠ id) :
    let asked := ((run {} before).1.step false st).2
    let waited := asked.1.run between
    let frame := frameOf (earlier ++ .succeeded id v :: later)
    (∃ m, waited.1.nodes[h.link]? = some m ∧ m.link.phase ≠ .closed ∧
      (m.link.phase = .opened →
        ∃ text, .sent i text ∈ asked.2 ++ waited.2 ∧ Request.read text = .ok (id, r))) ∧
    .settled label (.answer (.ok a)) ∈
      (waited.1.step false (.transport i (.message frame))).2.2 := by
  have hb := run_balanced before
  have he := run_enrolled before
  have hf := run_fresh before
  have ho := run_orderly before
  generalize (run {} before).1 = s at hready hb he hf ho hnext ⊢
  intro asked waited frame
  obtain ⟨k, htake, hanswer⟩ := hasks.take hready.handle rfl
  obtain ⟨socket, hsocket, hl, hE, hattached⟩ := hready.socket
  -- All that is later said of the call is said of this errand.
  let w : Errand := ⟨s.callers, label, h.link, k, i, n.link.epoch, id, r⟩
  have hgoing := hready.not_stopped ho
  have hcalled : Pends w asked := pends_of_call hb he hf rfl hready.node hgoing hready.going rfl
    hnext hsocket hl hE hattached htake
  have hwaited : Pends w (waited.1, asked.2 ++ waited.2) := hcalled.run (he.step false st) hbetween
  have hall : ∀ reply ∈ earlier ++ .succeeded id v :: later, Legible reply := by
    intro reply hreply
    rcases List.mem_append.mp hreply with hreply | hreply
    · exact hlegible reply (List.mem_append_left _ hreply)
    · rcases List.mem_cons.mp hreply with rfl | hreply
      · exact hbrings.legible hid
      · exact hlegible reply (List.mem_append_right _ hreply)
  refine ⟨?_, ?_⟩
  · obtain ⟨m, hm, hopen, hwritten⟩ := hwaited.written
    exact ⟨m, hm, hopen, fun hp => ⟨_, hwritten hp, r.read_write hid⟩⟩
  · have htold := hwaited.answer (outcome_frameOf hall hearlier)
    rw [hanswer hbrings] at htold
    exact htold

/-- Whether a handle is ready can be checked. -/
theorem exists_ready {s : Session} {name : String} {i : SocketIndex} {id : Id}
    (hcheck : (s.handle? name).any (fun h => (s.nodes[h.link]?).any fun n =>
      (s.caughtUp n).phase != .closed && (s.caughtUp n).pending.next == id &&
        (s.sockets[i]?).any fun k =>
          k.link == h.link && k.epoch == n.link.epoch && k.attached) = true) :
    ∃ h n, Ready s name h n i ∧ (s.caughtUp n).pending.next = id := by
  simp only [Option.any_eq_true, Bool.and_eq_true, beq_iff_eq, bne_iff_ne] at hcheck
  obtain ⟨h, hh, n, hn, ⟨hgoing, hnext⟩, k, hk, ⟨hlink, hepoch⟩, hattached⟩ := hcheck
  exact ⟨h, n, ⟨hh, hn, hgoing, k, hk, hlink, hepoch, hattached⟩, hnext⟩

def newClient : List (Bool × Step) := [(false, .connect "c" "ws://hub/" false 1000)]

def opening : List (Bool × Step) := [(false, .transport 0 .opened), (true, .advance 5)]

def awkwardMap : List (String × String) := [("", "null"), ("a\n\"", "[\"\\\"]")]

/-- A map with texts that look like JSON comes through, in a string, behind a reply to nobody. -/
theorem awkward_map_comes_through :
    let asked := ((run {} newClient).1.step false (.askInstance "c" "a" .list)).2
    let waited := asked.1.run opening
    let frame := frameOf ([.failed 7 "late"] ++
      [.succeeded 1 (.string (mapValue awkwardMap).compact)])
    (∃ text, .sent 0 text ∈ asked.2 ++ waited.2 ∧
      Request.read text = .ok (1, ⟨"LIST", "", ""⟩)) ∧
    .settled "a" (.answer (.ok (.entries awkwardMap))) ∈
      (waited.1.step false (.transport 0 (.message frame))).2.2 := by
  obtain ⟨h, n, hready, hnext⟩ :
      ∃ h n, Ready (run {} newClient).1 "c" h n 0 ∧
        ((run {} newClient).1.caughtUp n).pending.next = 1 := exists_ready (by decide +kernel)
  have hopen : (((run {} newClient).1.step false (.askInstance "c" "a" .list)).2.1.run
      opening).1.nodes.all (·.link.phase == .opened) = true := by decide +kernel
  have hordered : (awkwardMap.map (·.1)).Pairwise (· < ·) := by decide
  have hbetween : ∀ st ∈ opening, st.2.LeavesAlone "a" 0 1 := by
    intro st hst
    simp only [opening, List.mem_cons, List.not_mem_nil, or_false] at hst
    rcases hst with rfl | rfl <;> exact trivial
  have hlegible : ∀ reply ∈ [Response.failed 7 "late"] ++ [], Legible reply := by
    intro reply hreply
    obtain rfl := List.mem_singleton.mp hreply
    exact ⟨⟨by decide, .null⟩, Nat.zero_le _⟩
  obtain ⟨⟨m, hm, -, hwritten⟩, htold⟩ := data_comes_through newClient opening hready
    (.entries h.role) (.entriesText hordered) (by decide) hnext hbetween [.failed 7 "late"] []
    hlegible (by decide)
  have hphase := List.all_eq_true.mp hopen m (List.mem_of_getElem? hm)
  exact ⟨hwritten (by simpa using hphase), htold⟩

end Switchboard.Session
