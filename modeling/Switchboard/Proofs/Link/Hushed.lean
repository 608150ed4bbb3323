import Switchboard.Link.Basic

namespace Switchboard.Link

def LogLine.isInfo (line : LogLine) : Bool := line.level == .info

def Effect.isInfo : Effect → Bool
  | .log line => line.isInfo
  | _ => false

def muted (es : List Effect) : List Effect := es.filter (!·.isInfo)

/-- The same place to connect to, without a word. -/
def Config.hushed (c : Config) : Config := { c with verbose := false }

/-- The link as it would be had it not been verbose. -/
def hushed (l : Link) : Link := { l with config := l.config.hushed }

def hush (r : Reaction) : Reaction := (r.1.hushed, muted r.2)

variable {l : Link} {es fs : List Effect}

@[simp] theorem muted_nil : muted [] = [] := rfl

@[simp] theorem muted_append (es fs : List Effect) : muted (es ++ fs) = muted es ++ muted fs :=
  List.filter_append ..

@[simp] theorem muted_verbosely (l : Link) (message : String) (fields : List (String × String)) :
    muted (l.verbosely message fields) = [] := by
  unfold verbosely
  split <;> rfl

/-- A hushed link logs nothing because of being verbose. -/
@[simp] theorem hushed_verbosely (l : Link) (message : String) (fields : List (String × String)) :
    l.hushed.verbosely message fields = [] := rfl

/-- What is never a line of a verbose link stays. -/
theorem muted_of_plain (h : ∀ e ∈ es, e.isInfo = false) : muted es = es :=
  List.filter_eq_self.mpr fun e he => by simp [h e he]

theorem muted_map (f : α → Effect) (h : ∀ a, (f a).isInfo = false) (as : List α) :
    muted (as.map f) = as.map f := by
  refine muted_of_plain fun e he => ?_
  obtain ⟨a, -, rfl⟩ := List.mem_map.mp he
  exact h a

theorem muted_cons {e : Effect} (h : e.isInfo = false) (es : List Effect) :
    muted (e :: es) = e :: muted es :=
  List.filter_cons_of_pos (by simp [h])

theorem debug_ne_info : Level.debug ≠ .info := by decide

theorem muted_note {level : Level} (h : level ≠ .info) (message : String)
    (fields : List (String × String)) (es : List Effect) :
    muted (note level message fields :: es) = note level message fields :: muted es :=
  muted_cons (by simpa [note, Effect.isInfo, LogLine.isInfo] using h) es

theorem muted_flatMap {f g : α → List Effect} (h : ∀ a, muted (f a) = g a) (as : List α) :
    muted (as.flatMap f) = as.flatMap g := by
  induction as with
  | nil => rfl
  | cons a as ih => rw [List.flatMap_cons, List.flatMap_cons, muted_append, h, ih]

theorem start_hushed (config : Config) : start config.hushed = hush (start config) := rfl

theorem transmit_hushed (l : Link) (n : Numbered) : l.hushed.transmit n = muted (l.transmit n) := by
  simp only [transmit, muted_append, muted_verbosely, hushed_verbosely, List.nil_append]
  have hsame : l.hushed.connection = l.connection := rfl
  rw [hsame]
  cases l.connection <;> rfl

/-- A hushed link takes, keeps back and refuses the same requests. -/
theorem submit_hushed (l : Link) (r : Message.Request) (caller : Caller) :
    l.hushed.submit r caller = hush (l.submit r caller) := by
  have hended : l.hushed.closedWith = l.closedWith := rfl
  have hphase : l.hushed.phase = l.phase := rfl
  simp only [submit, hended]
  cases l.closedWith with
  | some failure => rfl
  | none =>
    simp only [hphase]
    split
    · exact congrArg (Prod.mk _) (transmit_hushed _ _)
    · rfl

theorem onOpen_hushed (l : Link) : l.hushed.onOpen = hush l.onOpen := by
  have hphase : l.hushed.phase = l.phase := rfl
  unfold onOpen
  rw [hphase]
  split
  · simp only [publish, hush, Backlog.flush, muted_append, muted_verbosely, List.append_nil,
      muted_cons (e := .publish _) rfl, muted_note debug_ne_info, muted_nil]
    rw [muted_flatMap fun n => (transmit_hushed _ n).symm]
    rfl
  · rfl

/-- What an entry of a frame does is no matter of being verbose. -/
theorem settleEntry_plain (p : Pending) (entry : Except Message.Unreadable Message.Response) :
    ∀ e ∈ (settleEntry p entry).2, e.isInfo = false := by
  have hsettled : ∀ settled : List Settlement,
      ∀ e ∈ settled.map Effect.settle, e.isInfo = false := by
    intro settled e he
    obtain ⟨t, -, rfl⟩ := List.mem_map.mp he
    rfl
  unfold settleEntry
  cases entry with
  | ok r =>
    dsimp only
    split
    · exact List.forall_mem_singleton.mpr rfl
    · exact hsettled _
  | error failure =>
    dsimp only
    split
    · exact List.forall_mem_singleton.mpr rfl
    · exact List.forall_mem_cons.mpr ⟨rfl, hsettled _⟩

theorem settleEntries_plain (p : Pending)
    (entries : List (Except Message.Unreadable Message.Response)) :
    ∀ e ∈ (settleEntries p entries).2, e.isInfo = false := by
  induction entries generalizing p with
  | nil => exact List.forall_mem_nil _
  | cons entry entries ih =>
    exact List.forall_mem_append.mpr ⟨settleEntry_plain p entry, ih _⟩

/-- A frame does the same to a hushed link: its debug lines and warnings stay, only the line that
shows it goes. -/
theorem onMessage_hushed (l : Link) (text : String) :
    l.hushed.onMessage text = hush (l.onMessage text) := by
  have hplain := settleEntries_plain l.pending (Message.readFrame text)
  simp only [onMessage, hush, muted_append, muted_verbosely, hushed_verbosely, List.nil_append,
    muted_of_plain hplain]
  rfl

theorem onClose_hushed (l : Link) (now : Nat) (c : Closing) :
    l.hushed.onClose now c = hush (l.onClose now c) := by
  have hphase : l.hushed.phase = l.phase := rfl
  unfold onClose
  rw [hphase]
  split
  · rfl
  · simp only [publish, hush, muted_append, muted_verbosely, hushed_verbosely, List.nil_append,
      muted_map Effect.close (fun _ => rfl), muted_map Effect.settle (fun _ => rfl),
      muted_note debug_ne_info, muted_cons (e := .publish _) rfl, muted_nil]
    rfl

theorem onEvent_hushed (l : Link) (now : Nat) (event : Event) :
    l.hushed.onEvent now event = hush (l.onEvent now event) := by
  cases event with
  | opened => exact l.onOpen_hushed
  | closed c => exact l.onClose_hushed now c
  | message text => exact l.onMessage_hushed text
  | fault f => simp only [onEvent, onFault, hush, muted_verbosely, hushed_verbosely]

/-- A hushed link reacts to every input as it would otherwise, without the lines of a verbose one.
-/
theorem handle_hushed (l : Link) (now : Nat) (i : Input) :
    l.hushed.handle now i = hush (l.handle now i) := by
  cases i with
  | request r caller => exact l.submit_hushed r caller
  | subscribe callback => rfl
  | transport epoch event =>
    have hepoch : l.hushed.epoch = l.epoch := rfl
    simp only [handle, hepoch]
    split
    · exact l.onEvent_hushed now event
    · rfl

theorem startEpoch_hushed (l : Link) : l.hushed.startEpoch = hush l.startEpoch := by
  simp only [startEpoch, connect, publish, hush, muted_append, muted_verbosely, List.append_nil,
    muted_map Effect.forget (fun _ => rfl), muted_map (Effect.notify · _) (fun _ => rfl),
    muted_cons (e := .connect _ _) rfl, muted_cons (e := .publish _) rfl, muted_nil]
  change (_, l.pending.reset.2.map Effect.forget ++ [] ++ _ ++ _ ++ _) = _
  rw [List.append_nil]
  rfl

theorem tick_hushed (l : Link) (now : Nat) : l.hushed.tick now = hush (l.tick now) := by
  have hdeadline : l.hushed.deadline = l.deadline := rfl
  simp only [tick, hdeadline]
  split
  · rfl
  · split
    · exact l.startEpoch_hushed
    · rfl

/-- What a link does when it stops is no matter of being verbose. -/
theorem stop_hushed (l : Link) : l.hushed.stop = muted l.stop := by
  simp only [stop, List.cons_append, muted_append, muted_note debug_ne_info,
    muted_map Effect.close (fun _ => rfl), muted_map Effect.settle (fun _ => rfl)]
  rfl

end Switchboard.Link
