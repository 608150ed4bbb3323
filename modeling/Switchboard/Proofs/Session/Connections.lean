import Switchboard.Proofs.Session.Balanced
import Switchboard.Proofs.Session.Stopped

namespace Switchboard.Session

open Link (Config Moment connects closes live sent)

/-- A link makes a connection for every epoch, at its address, and has closed all of them but the
one of the current epoch, and that one too if it is closed. At no time are there two that it has not
closed; when it stops it closes the last without connecting or writing again. In every session its
sockets are these, and once it has stopped it stays as it is, and is not seen to connect, write or
close again. -/
theorem one_connection_at_a_time :
    (∀ (config : Config) (ms : List (Nat × Moment)),
      let l := (live config ms).1
      let es := (live config ms).2
      connects es = (List.range' 1 l.epoch).map (·, config.url) ∧
      closes es = List.range' 1 (if l.phase = .closed then l.epoch else l.epoch - 1) ∧
      (∀ p, p <+: es ++ l.stop → (connects p).length ≤ (closes p).length + 1) ∧
      closes (es ++ l.stop) = List.range' 1 l.epoch ∧
      connects l.stop = [] ∧ ∀ E, sent E l.stop = []) ∧
    (∀ (sts : List (Bool × Step)) (i : LinkIndex) (n : Node),
      let s := (run {} sts).1
      s.nodes[i]? = some n →
        s.ledger i = (List.range' 1 n.link.epoch).map (fun E => (E, n.link.config.url,
          decide (n.stopped ∨ n.link.phase = .closed ∨ E < n.link.epoch))) ∧
        (n.stopped → ∀ later : List (Bool × Step),
          let after := s.run later
          after.1.nodes[i]? = some n ∧
          ∀ note ∈ after.2, ∀ j, note.socket? = some j →
            ∃ socket, after.1.sockets[j]? = some socket ∧ socket.link ≠ i)) := by
  constructor
  · intro config ms l es
    have hs : l.Sound := Link.live_sound config ms
    have hc : Link.Connected l (Link.seen es) := Link.live_connected config ms
    have hmade := hc.made
    have hclosed := hc.closed
    rw [Link.connects_seen, Link.live_config] at hmade
    rw [Link.closes_seen] at hclosed
    refine ⟨hmade, Link.closes_early hs hclosed, hc.single_stop, ?_, Link.connects_stop l,
      fun E => Link.sent_stop E l⟩
    rw [Link.closes_append, Link.closes_stop, hclosed]
  · intro sts i n s hn
    refine ⟨(run_balanced sts).ledger_eq hn, fun hstopped later => ?_⟩
    have hspared : Spares i n s (s.run later) := (run_orderly sts).spares hn hstopped later
    refine ⟨hspared.rest.node, fun note hnote j hj => ?_⟩
    obtain ⟨k, hk, hne⟩ := hspared.notes note hnote j hj
    rw [owners, List.getElem?_map] at hk
    obtain ⟨socket, hs, rfl⟩ := Option.map_eq_some_iff.mp hk
    exact ⟨socket, hs, hne⟩

/-- A client connects and drops its handle; much later the server is heard from. -/
def droppedClient : List (Bool × Step) :=
  [(false, .connect "a" "ws://hub/" false 1000), (false, .transport 0 .opened), (false, .drop "a")]

def lateReports : List (Bool × Step) :=
  [(false, .transport 0 (.closed (.abort "gone"))), (false, .advance 5000)]

/-- A dropped client has closed its connection, and nothing that is heard from the server later
changes it. -/
theorem dropped_client_stays_silent :
    ∃ n, (run {} droppedClient).1.nodes[0]? = some n ∧ n.stopped ∧
      (run {} droppedClient).1.ledger 0 = [(1, "ws://hub/", true)] ∧
      ((run {} droppedClient).1.run lateReports).1.nodes[0]? = some n := by
  have hany : ((run {} droppedClient).1.nodes[0]?.any (·.stopped)) = true := by decide +kernel
  obtain ⟨n, hn, hstopped⟩ := (Option.any_eq_true _ _).mp hany
  obtain ⟨-, hsilent⟩ := one_connection_at_a_time.2 droppedClient 0 n hn
  exact ⟨n, hn, hstopped, by decide +kernel, (hsilent hstopped lateReports).1⟩

end Switchboard.Session
