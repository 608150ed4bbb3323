import Switchboard.Proofs.Link.Connected
import Switchboard.Proofs.Session.AtRest

namespace Switchboard.Session

open Link (Effect Passage)

/-- The sockets of a link in the order they were made, each by its epoch, with its address and
whether the link has closed it. -/
def ledger (s : Session) (i : LinkIndex) : List (Epoch × String × Bool) :=
  (s.sockets.filter (·.link == i)).map fun k => (k.epoch, k.url, k.closed)

/-- One socket for each epoch up to this, all of them closed but the one that is held. -/
def Tally (s : Session) (i : LinkIndex) (epoch : Epoch) (url : String) (held : Option Epoch) : Prop :=
  s.ledger i = (List.range' 1 epoch).map fun E => (E, url, held != some E)

def heldBy (l : Link) (stopped : Bool) : Option Epoch := if stopped then none else l.connection

variable {s : Session} {i k : LinkIndex} {epoch E : Epoch} {url : String} {held : Option Epoch}

def sparesSockets : Effect → Bool
  | .connect .. => false
  | .close _ => false
  | _ => true

theorem sparesSockets_of_isTraffic {e : Effect} (h : e.isTraffic) : sparesSockets e := by
  cases e with
  | send | settle | forget => rfl
  | connect | close | publish | notify | log => cases h

/-- Only connecting and closing change sockets. -/
theorem perform_sockets {e : Effect} (h : sparesSockets e) (k : LinkIndex) (s : Session) :
    (perform k e s).1.sockets = s.sockets := by
  cases e with
  | connect | close => cases h
  | settle | forget | publish | notify | log => rfl
  | send E id text =>
    simp only [perform]
    split
    · rfl
    · split <;> rfl

theorem filter_modify {p : α → Bool} {f : α → α} {xs : List α} {j : Nat}
    (h : ∀ a, xs[j]? = some a → p a = false ∧ p (f a) = false) :
    (xs.modify j f).filter p = xs.filter p := by
  induction xs generalizing j with
  | nil => simp
  | cons x xs ih =>
    cases j with
    | zero =>
      obtain ⟨hx, hfx⟩ := h x rfl
      simp [hx, hfx]
    | succ j =>
      have hrest := ih (j := j) fun a ha => h a (by simpa using ha)
      simp [List.filter_cons, hrest]

/-- What one link does leaves the ledgers of the others alone. -/
theorem ledger_perform_ne (h : k ≠ i) (e : Effect) (s : Session) :
    (perform k e s).1.ledger i = s.ledger i := by
  cases e with
  | connect E url => simp [perform, ledger, h]
  | settle | forget | publish | notify | log | send =>
    rw [ledger, perform_sockets rfl, ← ledger]
  | close E =>
    simp only [perform]
    split
    · rfl
    · rename_i j socket hs
      have hown := owner_of_socketOf? hs
      simp only [ledger, setSocket]
      congr 1
      refine filter_modify fun a ha => ?_
      have hlink : a.link = k := by simpa [owners, ha] using hown
      simp [hlink, h]

/-- A link that holds no socket makes one for its next epoch. -/
theorem Tally.connect (h : Tally s i epoch url none) :
    Tally (perform i (.connect (epoch + 1) url) s).1 i (epoch + 1) url (some (epoch + 1)) := by
  have hmade : (perform i (.connect (epoch + 1) url) s).1.ledger i =
      s.ledger i ++ [(epoch + 1, url, false)] := by simp [perform, ledger]
  rw [Tally, hmade, h, List.range'_1_concat, List.map_append]
  congr 1
  · refine List.map_congr_left fun E hE => ?_
    have hlt := (List.mem_range'_1.mp hE).2
    have hne : epoch + 1 ≠ E := Nat.ne_of_gt (by omega)
    have hheld : (some (epoch + 1) != some E) = true := by simpa using hne
    rw [hheld]
    rfl
  · simp [Nat.add_comm]

/-- No two sockets of a link are for one epoch. -/
theorem Tally.once (h : Tally s i epoch url held) {a b : Nat} {x y : Socket}
    (hx : s.sockets[a]? = some x) (hy : s.sockets[b]? = some y) (hxi : x.link = i)
    (hyi : y.link = i) (he : x.epoch = y.epoch) : a = b := by
  have hepochs : ((s.sockets.filter (·.link == i)).map (·.epoch)).Nodup := by
    have hmap := congrArg (List.map Prod.fst) h
    simp only [ledger, List.map_map] at hmap
    have hrange : ((s.sockets.filter (·.link == i)).map (·.epoch)) = List.range' 1 epoch :=
      hmap.trans (List.map_id _)
    rw [hrange]
    exact List.nodup_range'
  have hpairs := List.pairwise_filter.mp (List.pairwise_map.mp hepochs)
  obtain ⟨ha, rfl⟩ := List.getElem?_eq_some_iff.mp hx
  obtain ⟨hb, rfl⟩ := List.getElem?_eq_some_iff.mp hy
  have hordered := List.pairwise_iff_getElem.mp hpairs
  rcases Nat.lt_trichotomy a b with hab | hab | hab
  · exact absurd he (hordered a b ha hb hab (by simpa using hxi) (by simpa using hyi))
  · exact hab
  · exact absurd he.symm (hordered b a hb ha hab (by simpa using hyi) (by simpa using hxi))

def Socket.shut (i : LinkIndex) (E : Epoch) (k : Socket) : Socket :=
  if k.link = i ∧ k.epoch = E then { k with closed := true } else k

theorem Socket.shut_of_not {k : Socket} (h : ¬(k.link = i ∧ k.epoch = E)) : k.shut i E = k :=
  if_neg h

/-- A link that closes an epoch closes every socket it has made for it, of which there is one. -/
theorem Tally.sockets_close (h : Tally s i epoch url held) :
    (perform i (.close E) s).1.sockets = s.sockets.map (Socket.shut i E) := by
  simp only [perform]
  cases hfind : s.socketOf? i E with
  | none =>
    refine (List.map_id _).symm.trans (List.map_congr_left fun k hk => ?_)
    exact (Socket.shut_of_not (socketOf?_none hfind k hk)).symm
  | some found =>
    obtain ⟨j, k⟩ := found
    obtain ⟨hk, hkey⟩ := socketOf?_some hfind
    apply List.ext_getElem?
    intro b
    simp only [setSocket, List.getElem?_modify, List.getElem?_map]
    cases hb : s.sockets[b]? with
    | none => rfl
    | some x =>
      by_cases hjb : j = b
      · subst hjb
        obtain rfl := Option.some.inj (hk.symm.trans hb)
        simp [Socket.shut, hkey]
      · have hother : ¬(x.link = i ∧ x.epoch = E) := fun hx =>
          hjb (h.once hk hb hkey.1 hx.1 (hkey.2.trans hx.2.symm))
        simp [hjb, Socket.shut_of_not hother]

/-- A link that closes the socket it holds holds none. -/
theorem Tally.close (h : Tally s i epoch url held) (hheld : held = none ∨ held = some E) :
    Tally (perform i (.close E) s).1 i epoch url none := by
  have hclosed : (perform i (.close E) s).1.ledger i =
      (s.ledger i).map fun (F, url, closed) => (F, url, closed || F == E) := by
    simp only [ledger, h.sockets_close, List.filter_map, List.map_map]
    have hlink : (fun k : Socket => k.link == i) ∘ Socket.shut i E = fun k => k.link == i := by
      funext k
      simp only [Function.comp, Socket.shut]
      split <;> rfl
    rw [hlink]
    refine List.map_congr_left fun k hk => ?_
    have hki : k.link = i := by simpa using (List.mem_filter.mp hk).2
    by_cases hE : k.epoch = E <;> simp [Socket.shut, hki, hE]
  rw [Tally, hclosed, h, List.map_map]
  refine List.map_congr_left fun F _ => ?_
  rcases hheld with rfl | rfl
  · rfl
  · by_cases hF : F = E
    · simp [hF]
    · have hother : (some E != some F) = true := by simpa using Ne.symm hF
      simp [hother]

theorem each_perform_sockets {es : List Effect} (h : ∀ e ∈ es, sparesSockets e) (k : LinkIndex)
    (s : Session) : (each es (perform k) s).1.sockets = s.sockets :=
  each_induction (P := fun t => t.sockets = s.sockets)
    (fun e he t ht => (perform_sockets (h e he) k t).trans ht) rfl

theorem ledger_each_perform_ne (h : k ≠ i) (es : List Effect) (s : Session) :
    (each es (perform k) s).1.ledger i = s.ledger i :=
  each_induction (P := fun t => t.ledger i = s.ledger i)
    (fun e _ t ht => (ledger_perform_ne h e t).trans ht) rfl

theorem Tally.each (h : Tally s i epoch url held) {es : List Effect}
    (hes : ∀ e ∈ es, sparesSockets e) :
    Tally (Session.each es (perform i) s).1 i epoch url held := by
  rw [Tally, ledger, each_perform_sockets hes]
  exact h

/-- Log lines leave a session as it is. -/
theorem each_perform_seen (k : LinkIndex) (es : List Effect) (s : Session) :
    (each es (perform k) s).1 = (each (Link.seen es) (perform k) s).1 := by
  induction es generalizing s with
  | nil => rfl
  | cons e es ih =>
    rw [each_cons, Change.andThen_fst, ih, Link.seen, Link.seen]
    cases hseen : e.isSeen with
    | true => rw [List.filter_cons_of_pos hseen, each_cons, Change.andThen_fst]
    | false =>
      rw [List.filter_cons_of_neg (by simp [hseen])]
      cases e with
      | log line => rfl
      | connect | send | close | settle | forget | publish | notify => cases hseen

/-- A link that lets go of its connection closes the socket. -/
theorem Tally.close_held {l : Link} {stopped : Bool}
    (h : Tally s i epoch url (heldBy l stopped)) :
    Tally (Session.each (l.connection.toList.map .close) (perform i) s).1 i epoch url none := by
  unfold heldBy at h
  cases hc : l.connection with
  | none =>
    rw [hc, ite_self] at h
    exact h
  | some E =>
    refine h.close ?_
    rw [hc]
    cases stopped <;> simp

/-- A passage of a link keeps its ledger in order. A link that has stopped begins no epoch. -/
theorem Tally.passage {l l' : Link} {stopped : Bool} {es : List Effect} (hp : Passage l l' es)
    (hs : l.Sound) (hstopped : stopped → l'.epoch = l.epoch)
    (h : Tally s i l.epoch l.config.url (heldBy l stopped)) :
    Tally (Session.each es (perform i) s).1 i l'.epoch l.config.url (heldBy l' stopped) := by
  cases hp with
  | stay he _ hc ht =>
    rw [he, heldBy, hc]
    exact h.each fun e hm => sparesSockets_of_isTraffic (ht e hm)
  | opened _ he _ hc ht =>
    rw [he, heldBy, hc]
    exact h.each (List.forall_mem_cons.mpr ⟨rfl, fun e hm => sparesSockets_of_isTraffic (ht e hm)⟩)
  | closed _ he _ hc ht =>
    rw [he, heldBy, hc, ite_self, each_append, each_append]
    have hclosed := h.close_held.each fun e hm => sparesSockets_of_isTraffic (ht e hm)
    exact hclosed.each (List.forall_mem_singleton.mpr rfl)
  | renewed hd he _ hc ht =>
    -- A link that has stopped begins no epoch, and one that is due holds no socket.
    have hgoing : stopped = false := by
      cases stopped with
      | false => rfl
      | true => exact absurd (he.symm.trans (hstopped rfl)) (Nat.succ_ne_self _)
    subst hgoing
    have hheld : heldBy l false = none := hs.connection_of_due hd
    rw [hheld] at h
    rw [he, heldBy, hc, each_append, each_append, each_append]
    have hmade := (h.each fun e hm => sparesSockets_of_isTraffic (ht e hm)).connect
    refine Tally.each (Tally.each hmade fun e hm => ?_) fun e hm => ?_
    · obtain rfl := List.mem_singleton.mp hm
      rfl
    · obtain ⟨callback, -, rfl⟩ := List.mem_map.mp hm
      rfl

/-- A link that stops closes the socket it holds. -/
theorem Tally.stop {l : Link} (h : Tally s i epoch url l.connection) :
    Tally (Session.each l.stop (perform i) s).1 i epoch url none := by
  have hheld : heldBy l false = l.connection := rfl
  have hsettled := (Tally.close_held (hheld ▸ h)).each fun e hm => sparesSockets_of_isTraffic
    (Link.isTraffic_map (f := .settle) (fun _ => rfl)
      (l.pending.settleAll (.error .stopped)).2 e hm)
  rw [← each_append] at hsettled
  rw [each_perform_seen] at hsettled ⊢
  exact hsettled

end Switchboard.Session
