/-
The engine's threads, statement by statement.

`DataPlane.run`, `flush`, `send`, `start_pcap` and `stop_pcap` read and write the engine's
state partly outside the engine lock.  `Sys` is the engine together with where each thread
stands: the capture loop (`Loop`) and any number of caller threads (`Caller`).  One
`Action` is one region under the lock, or one statement run without it; `Sys.step` runs
it, and `Reachable` holds of every state that some interleaving reaches from construction.
The ports are raw-socket ports (`DataPlanePortLinux`): each port object is its own packet
source, and its `recv` returns the device and port numbers it was built for.

`port_add`, `port_remove` and the close of `stop_pcap` run under the lock, so none of them
takes a step while the capture loop holds it, from `select`'s return to the end of the
drain (`Loop.holdsLock`).  `flush`, `send`, `start_pcap` and the check of `stop_pcap` take
no lock, and their statements fall anywhere in the drain: between `sel.recv()` and the
rest of the loop body for the frame it returned (`Action.recv`, `Action.enqueue`).  The
rest of the body (the tap, the lookup of the queue, `pop(0)`, `append`, the count) is one
step: an assignment `packet_queues[k] = []` of `flush` between the lookup and the append
empties a queue the loop no longer appends to, which leaves the state that assignment
leaves right after the append.

* `reachable_of_run` — a word of actions that runs is an interleaving;
* `registered_ports_have_queues` — in every interleaving every registered port has a
  queue (`QueuesCover` holds initially and every step keeps it);
* `capture_drain_races_with_port_changes` — a `port_remove` between the loop's snapshot
  and its drain makes the drain raise `KeyError`, and a `port_add` there makes the drain
  queue a frame of the replaced port object under the new one;
* `flush_keeps_queue_of_removed_port` — a `port_remove` during `flush` leaves a queue
  without a port;
* `send_races_with_remove_and_stop_pcap` — a `port_remove`, or a `stop_pcap`, between
  the checks of `send` and their use makes `send` raise.
-/
import PtfDataplane.Effect

namespace PtfDataplane

/-- Where the capture loop `DataPlane.run` stands in its iteration. -/
inductive Loop (τ : Type)
  | top
  | selecting (sources : List Port)
  | draining (ready : List Port)
  | read (src : Port) (pkt : Packet) (t : τ) (rest : List Port)
  | dead (e : PyError)
  deriving DecidableEq

/-- The loop holds the engine lock from `select`'s return, where `with self.cvar:` takes
it, to the end of the drain. -/
def Loop.holdsLock {τ : Type} : Loop τ → Bool
  | .draining _ | .read .. => true
  | _ => false

/-- The statement a caller thread runs next, inside a call that runs partly outside
the lock. -/
inductive Caller (τ : Type)
  | idle
  | flushing (keys : List PortId)
  | sendTap (k : PortId) (pkt : Packet) (now : τ) (reply : Option Nat)
  | sendWrite (k : PortId) (pkt : Packet) (now : τ) (reply : Option Nat)
  | sendPort (k : PortId) (reply : Option Nat)
  | sendCount (k : PortId)
  | startAssign (filename : String)
  | stopClose
  | raised (e : PyError)
  deriving DecidableEq

/-- The one statement of a caller that runs under the lock: the close of `stop_pcap`. -/
def Caller.locked {τ : Type} : Caller τ → Bool
  | .stopClose => true
  | _ => false

/-- A public call a caller thread starts. -/
inductive Call (τ : Type)
  | portAdd (interfaceName : String) (device port : Int)
  | portRemove (device port : Int)
  | flush
  | send (device port : Int) (pkt : Packet) (now : τ) (reply : Option Nat)
  | startPcap (filename : String)
  | stopPcap

/-- The calls that run wholly under the lock. -/
def Call.locked {τ : Type} : Call τ → Bool
  | .portAdd .. | .portRemove .. => true
  | _ => false

/-- One atomic step of the engine's threads. -/
inductive Action (τ : Type)
  | call (i : Nat) (c : Call τ)
  | next (i : Nat)
  | snapshot
  | select (ready : List Port)
  | recv (pkt : Packet) (t : τ)
  | enqueue
  | release

/-- The locked drain reading `frames`, one from each ready port in turn: `sel.recv()`
and the rest of the loop body for each, then the end of the locked region. -/
def Action.drain {τ : Type} (frames : List (Packet × τ)) : List (Action τ) :=
  frames.flatMap (fun f => [.recv f.1 f.2, .enqueue]) ++ [.release]

/-- The engine and its threads. -/
structure Sys (τ : Type) where
  dp : DataPlane τ
  loop : Loop τ
  callers : Nat → Caller τ

namespace Sys

variable {τ : Type}

/-- The engine as constructed, every thread at its start. -/
def init (configQlen : Option Nat) : Sys τ := ⟨DataPlane.init configQlen, .top, fun _ => .idle⟩

/-- `set([p.get_packet_source() for p in list(self.ports.values())])`. -/
def sources (dp : DataPlane τ) : List Port := dp.ports.entries.map Prod.snd

/-- The first step of a call: all of it for a call under the lock, else up to its first
statement that another thread can interleave with. -/
def begin (dp : DataPlane τ) : Call τ → DataPlane τ × Caller τ
  | .portAdd i d p => (dp.portAdd i d p, .idle)
  | .portRemove d p =>
    match dp.portRemove d p with
    | (dp', .ok _) => (dp', .idle)
    | (dp', .error e) => (dp', .raised e)
  | .flush => (dp, .flushing dp.packetQueues.keys)
  | .send d p pkt now reply =>
    if (d, p) ∈ dp.ports.keys then (dp, .sendTap (d, p) pkt now reply) else (dp, .idle)
  | .startPcap f =>
    match dp.pcapWriter with
    | some _ => (dp, .raised .assertionError)
    | none => (dp, .startAssign f)
  | .stopPcap => if dp.pcapWriter.isSome then (dp, .stopClose) else (dp, .idle)

/-- The next statement of a caller inside `flush`, `send`, `start_pcap` or `stop_pcap`. -/
def resume (dp : DataPlane τ) : Caller τ → Option (DataPlane τ × Caller τ)
  | .flushing [] => some (dp, .idle)
  | .flushing (k :: ks) => some ({ dp with packetQueues := dp.packetQueues.set k [] }, .flushing ks)
  | .sendTap k pkt now reply =>
    some (dp, if dp.pcapWriter.isSome then .sendWrite k pkt now reply else .sendPort k reply)
  | .sendWrite k pkt now reply =>
    match dp.pcapWriter with
    | none => some (dp, .raised .attributeError)
    | some _ => some (dp.pcapWrite pkt now k.1 k.2, .sendPort k reply)
  | .sendPort k reply =>
    match dp.ports.get? k, reply with
    | none, _ => some (dp, .raised .keyError)
    | some _, none => some (dp, .raised .osError)
    | some _, some _ => some (dp, .sendCount k)
  | .sendCount k => some ({ dp with txCounters := bump dp.txCounters k }, .idle)
  | .startAssign f => some ({ dp with pcapWriter := some ⟨f, []⟩ }, .idle)
  | .stopClose =>
    match dp.pcapWriter with
    | none => some (dp, .raised .attributeError)
    | some _ => some (dp.stopPcap, .idle)
  | .idle => none
  | .raised _ => none

/-- One step of one thread; `none` when the thread cannot take it, or when it would take
the lock the capture loop holds. -/
def step (s : Sys τ) : Action τ → Option (Sys τ)
  | .call i c =>
    match s.callers i with
    | .idle =>
      if c.locked ∧ s.loop.holdsLock then none
      else
        let r := begin s.dp c
        some { s with dp := r.1, callers := Function.update s.callers i r.2 }
    | _ => none
  | .next i =>
    if (s.callers i).locked ∧ s.loop.holdsLock then none
    else
      (resume s.dp (s.callers i)).map fun r =>
        { s with dp := r.1, callers := Function.update s.callers i r.2 }
  | .snapshot =>
    match s.loop with
    | .top => some { s with loop := .selecting (sources s.dp) }
    | _ => none
  | .select ready =>
    match s.loop with
    | .selecting srcs =>
      if ready.Nodup ∧ ready ⊆ srcs then some { s with loop := .draining ready } else none
    | _ => none
  | .recv pkt t =>
    match s.loop with
    | .draining (src :: rest) => some { s with loop := .read src pkt t rest }
    | _ => none
  | .enqueue =>
    match s.loop with
    | .read src pkt t rest =>
      match s.dp.enqueuePacket src.deviceNumber src.portNumber pkt t with
      | (dp', .ok ()) => some { s with dp := dp', loop := .draining rest }
      | (dp', .error e) => some { s with dp := dp', loop := .dead e }
    | _ => none
  | .release =>
    match s.loop with
    | .draining [] => some { s with loop := .top }
    | _ => none

/-- Run a word of actions, each by the thread it names. -/
def run (s : Sys τ) : List (Action τ) → Option (Sys τ)
  | [] => some s
  | a :: as => (s.step a).bind fun s' => s'.run as

/-! ### What each step does -/

variable {s s' : Sys τ}

theorem step_call {i : Nat} {c : Call τ} (h : s.step (.call i c) = some s') :
    s.callers i = .idle ∧ ¬(c.locked ∧ s.loop.holdsLock) ∧
      s' = { s with dp := (begin s.dp c).1, callers := Function.update s.callers i (begin s.dp c).2 } := by
  simp only [step] at h
  split at h
  · split_ifs at h with hl
    cases h
    exact ⟨‹_›, hl, rfl⟩
  · cases h

theorem step_next {i : Nat} (h : s.step (.next i) = some s') :
    ¬((s.callers i).locked ∧ s.loop.holdsLock) ∧ ∃ r, resume s.dp (s.callers i) = some r ∧
      s' = { s with dp := r.1, callers := Function.update s.callers i r.2 } := by
  simp only [step] at h
  split_ifs at h with hl
  obtain ⟨r, hr, rfl⟩ := Option.map_eq_some'.mp h
  exact ⟨hl, r, hr, rfl⟩

theorem step_snapshot (h : s.step .snapshot = some s') :
    s.loop = .top ∧ s' = { s with loop := .selecting (sources s.dp) } := by
  simp only [step] at h
  split at h <;> cases h
  exact ⟨‹_›, rfl⟩

theorem step_select {ready : List Port} (h : s.step (.select ready) = some s') :
    ∃ srcs, s.loop = .selecting srcs ∧ ready.Nodup ∧ ready ⊆ srcs ∧
      s' = { s with loop := .draining ready } := by
  simp only [step] at h
  split at h
  · split_ifs at h with hr
    cases h
    exact ⟨_, ‹_›, hr.1, hr.2, rfl⟩
  · cases h

theorem step_recv {pkt : Packet} {t : τ} (h : s.step (.recv pkt t) = some s') :
    ∃ src rest, s.loop = .draining (src :: rest) ∧ s' = { s with loop := .read src pkt t rest } := by
  simp only [step] at h
  split at h <;> cases h
  exact ⟨_, _, ‹_›, rfl⟩

theorem step_enqueue (h : s.step .enqueue = some s') :
    ∃ src pkt t rest, s.loop = .read src pkt t rest ∧
      s'.dp = (s.dp.enqueuePacket src.deviceNumber src.portNumber pkt t).1 ∧
      s'.callers = s.callers ∧
      ((s.dp.enqueuePacket src.deviceNumber src.portNumber pkt t).2 = .ok () ∧
          s'.loop = .draining rest ∨
        ∃ e, (s.dp.enqueuePacket src.deviceNumber src.portNumber pkt t).2 = .error e ∧
          s'.loop = .dead e) := by
  simp only [step] at h
  split at h
  · refine ⟨_, _, _, _, ‹_›, ?_⟩
    split at h <;> rename_i heq <;> cases h <;> rw [heq]
    · exact ⟨rfl, rfl, .inl ⟨rfl, rfl⟩⟩
    · exact ⟨rfl, rfl, .inr ⟨_, rfl, rfl⟩⟩
  · cases h

theorem step_release (h : s.step .release = some s') :
    s.loop = .draining [] ∧ s' = { s with loop := .top } := by
  simp only [step] at h
  split at h <;> cases h
  exact ⟨‹_›, rfl⟩

end Sys

/-- The states some interleaving of the threads reaches from construction. -/
inductive Reachable {τ : Type} (configQlen : Option Nat) : Sys τ → Prop
  | init : Reachable configQlen (Sys.init configQlen)
  | step {s s' : Sys τ} (a : Action τ) :
      Reachable configQlen s → s.step a = some s' → Reachable configQlen s'

theorem reachable_of_run {τ : Type} {configQlen : Option Nat} :
    ∀ {s s' : Sys τ} (as : List (Action τ)), Reachable configQlen s → s.run as = some s' →
      Reachable configQlen s'
  | _, _, [], hs, h => by cases h; exact hs
  | s, _, a :: as, hs, h => by
    simp only [Sys.run] at h
    cases ha : s.step a with
    | none => rw [ha] at h; cases h
    | some s₁ =>
      rw [ha] at h
      exact reachable_of_run as (Reachable.step a hs ha) h

/-- A word of actions from construction that ends where `P` holds. -/
theorem exists_reachable_of_run {τ : Type} (configQlen : Option Nat) (as : List (Action τ))
    {P : Sys τ → Prop} [DecidablePred P]
    (h : ((Sys.init configQlen).run as).map (fun s => decide (P s)) = some true) :
    ∃ s, Reachable configQlen s ∧ P s := by
  cases hr : (Sys.init configQlen).run as with
  | none => rw [hr] at h; cases h
  | some s =>
    rw [hr] at h
    exact ⟨s, reachable_of_run as .init hr, of_decide_eq_true (Option.some.inj h)⟩

/-! ## What every interleaving keeps -/

namespace DataPlane

variable {τ : Type} {dp : DataPlane τ}

/-- Every registered port has a queue. -/
def QueuesCover (dp : DataPlane τ) : Prop :=
  ∀ k ∈ dp.ports.keys, k ∈ dp.packetQueues.keys

theorem QueuesCover.setQueue (h : dp.QueuesCover) (k : PortId) (q : List (Packet × τ)) :
    ({ dp with packetQueues := dp.packetQueues.set k q } : DataPlane τ).QueuesCover :=
  fun k' hk => (Dict.mem_keys_set _ _ _ _).mpr (.inr (h k' hk))

theorem QueuesCover.portAdd (h : dp.QueuesCover) (i : String) (d p : Int) :
    (dp.portAdd i d p).QueuesCover := by
  intro k hk
  simp only [DataPlane.portAdd, Dict.mem_keys_set] at hk ⊢
  exact hk.imp_right (h k)

theorem QueuesCover.portRemove (h : dp.QueuesCover) (d p : Int) :
    (dp.portRemove d p).1.QueuesCover := by
  unfold DataPlane.portRemove
  split_ifs
  · intro k hk
    simp only [Dict.mem_keys_erase] at hk ⊢
    exact ⟨hk.1, h k hk.2⟩
  · exact fun k hk => h k ((Dict.mem_keys_erase _ _ _).mp hk).2
  · exact h

theorem QueuesCover.enqueuePacket (h : dp.QueuesCover) (d p : Int) (pkt : Packet) (t : τ) :
    (dp.enqueuePacket d p pkt t).1.QueuesCover := by
  rcases enqueuePacket_cases dp d p pkt t with ⟨-, he⟩ | ⟨_, -, -, he⟩ | ⟨_, _, -, -, he⟩ <;>
    rw [he]
  · exact h
  · exact h
  · exact h.setQueue _ _

end DataPlane

namespace Sys

variable {τ : Type}

/-- A call that takes no lock changes the engine only in its later statements. -/
theorem begin_dp_of_unlocked (dp : DataPlane τ) :
    ∀ c : Call τ, c.locked = false → (begin dp c).1 = dp
  | .portAdd .., h | .portRemove .., h => by cases h
  | .flush, _ => rfl
  | .startPcap _, _ => by simp only [begin]; split <;> rfl
  | .send .., _ | .stopPcap, _ => by simp only [begin]; split_ifs <;> rfl

theorem queuesCover_begin {dp : DataPlane τ} (h : dp.QueuesCover) (c : Call τ) :
    (begin dp c).1.QueuesCover := by
  cases hl : c.locked
  · rw [begin_dp_of_unlocked dp c hl]; exact h
  cases c with
  | portAdd i d p => exact h.portAdd i d p
  | portRemove d p =>
    have h' := h.portRemove d p
    simp only [begin]
    split <;> rename_i heq <;> rw [heq] at h' <;> exact h'
  | _ => cases hl

theorem queuesCover_resume {dp : DataPlane τ} (h : dp.QueuesCover) {c : Caller τ}
    {r : DataPlane τ × Caller τ} (hr : resume dp c = some r) : r.1.QueuesCover := by
  cases c with
  | flushing ks =>
    cases ks with
    | nil => cases hr; exact h
    | cons k ks => cases hr; exact h.setQueue k []
  | sendWrite k pkt now reply =>
    simp only [resume] at hr
    split at hr <;> cases hr <;> exact h
  | sendPort k reply =>
    simp only [resume] at hr
    split at hr <;> cases hr <;> exact h
  | stopClose =>
    simp only [resume] at hr
    split at hr <;> cases hr <;> exact h
  | idle | raised => cases hr
  | sendTap | sendCount | startAssign => cases hr; exact h

/-- What one step does to the engine: nothing (the loop's snapshot, select, `recv` and
release), the first step of a call, the next statement of a call, or the loop's enqueue
of the frame it read. -/
theorem step_dp_cases {s s' : Sys τ} {a : Action τ} (h : s.step a = some s') :
    s'.dp = s.dp ∨ (∃ c, s'.dp = (begin s.dp c).1) ∨
      (∃ c r, resume s.dp c = some r ∧ s'.dp = r.1) ∨
      ∃ d p pkt t, s'.dp = (s.dp.enqueuePacket d p pkt t).1 := by
  cases a with
  | call i c => obtain ⟨-, -, rfl⟩ := step_call h; exact .inr (.inl ⟨c, rfl⟩)
  | next i =>
    obtain ⟨-, r, hr, rfl⟩ := step_next h
    exact .inr (.inr (.inl ⟨_, r, hr, rfl⟩))
  | snapshot => obtain ⟨-, rfl⟩ := step_snapshot h; exact .inl rfl
  | select => obtain ⟨_, -, -, -, rfl⟩ := step_select h; exact .inl rfl
  | recv => obtain ⟨_, _, -, rfl⟩ := step_recv h; exact .inl rfl
  | release => obtain ⟨-, rfl⟩ := step_release h; exact .inl rfl
  | enqueue =>
    obtain ⟨_, _, _, _, -, e, -⟩ := step_enqueue h
    exact .inr (.inr (.inr ⟨_, _, _, _, e⟩))

/-- No step of any thread leaves a registered port without a queue. -/
theorem queuesCover_step {s s' : Sys τ} (h : s.dp.QueuesCover) {a : Action τ}
    (hs : s.step a = some s') : s'.dp.QueuesCover := by
  rcases step_dp_cases hs with e | ⟨c, e⟩ | ⟨c, r, hr, e⟩ | ⟨d, p, pkt, t, e⟩ <;> rw [e]
  · exact h
  · exact queuesCover_begin h c
  · exact queuesCover_resume h hr
  · exact h.enqueuePacket d p pkt t

theorem queuesCover_of_reachable {configQlen : Option Nat} {s : Sys τ}
    (hs : Reachable configQlen s) : s.dp.QueuesCover := by
  induction hs with
  | init => intro k hk; simp [Sys.init, DataPlane.init, Dict.empty, Dict.keys] at hk
  | step _ _ h ih => exact queuesCover_step ih h

end Sys

/-- **Every registered port has a queue**, in every interleaving of the callers and the
capture loop: `flush` may leave a queue without a port, never a port without a queue. -/
theorem registered_ports_have_queues {τ : Type} {configQlen : Option Nat} {s : Sys τ}
    (hs : Reachable configQlen s) : ∀ k ∈ s.dp.ports.keys, k ∈ s.dp.packetQueues.keys :=
  Sys.queuesCover_of_reachable hs

/-- Along the run of `flush` next to `port_add`, the registered port has its queue. -/
theorem registered_ports_have_queues_after_flush :
    ∃ s : Sys Nat, Reachable none s ∧ (0, 1) ∈ s.dp.ports.keys ∧ (0, 1) ∈ s.dp.packetQueues.keys := by
  obtain ⟨s, hs, hk⟩ : ∃ s : Sys Nat, Reachable none s ∧ (0, 1) ∈ s.dp.ports.keys :=
    exists_reachable_of_run none
      [.call 0 (.portAdd "eth1" 0 1), .call 1 .flush, .next 1, .next 1] (by decide)
  exact ⟨s, hs, hk, registered_ports_have_queues hs _ hk⟩

/-- **The capture loop races with `port_add` and `port_remove`.**  A `port_remove`
between the loop's snapshot and its drain leaves the readable old socket in `sel_in`,
and the drain raises `KeyError` on the missing queue, which ends the loop; a second
`port_add` there makes the drain queue the old socket's frame under the key of the new
port object.  Both calls run before `select` returns: once it has, the loop holds the
lock they take. -/
theorem capture_drain_races_with_port_changes :
    (∃ s : Sys Nat, Reachable none s ∧ s.loop = .dead .keyError) ∧
    ∃ s : Sys Nat, Reachable none s ∧ s.loop = .top ∧
      s.dp.ports.get? (0, 1) = some ⟨"eth1", 0, 1, 1⟩ ∧ s.dp.queue (0, 1) = some [([7], 3)] :=
  ⟨exists_reachable_of_run none
      [.call 0 (.portAdd "eth1" 0 1), .snapshot, .call 0 (.portRemove 0 1),
        .select [⟨"eth1", 0, 1, 0⟩], .recv [7] 3, .enqueue] (by decide),
    exists_reachable_of_run none
      ([.call 0 (.portAdd "eth1" 0 1), .snapshot, .call 0 (.portAdd "eth1" 0 1),
        .select [⟨"eth1", 0, 1, 0⟩]] ++ Action.drain [([7], 3)]) (by decide)⟩

/-- **`flush` races with `port_remove`.**  `flush` walks a snapshot of the queue keys
without the lock, so a `port_remove` during it is followed by `packet_queues[k] = []`
for the removed key. -/
theorem flush_keeps_queue_of_removed_port :
    ∃ s : Sys Nat, Reachable none s ∧ (0, 1) ∈ s.dp.packetQueues.keys ∧ (0, 1) ∉ s.dp.ports.keys :=
  exists_reachable_of_run none
    [.call 0 (.portAdd "eth1" 0 1), .call 1 .flush, .call 0 (.portRemove 0 1), .next 1] (by decide)

/-- **`send` races with `port_remove` and `stop_pcap`.**  `send` checks the registry and
the tap without the lock and uses them afterwards: a `port_remove` in between makes
`self.ports[...]` raise `KeyError`, and a `stop_pcap` in between makes
`self.pcap_writer.write` raise `AttributeError`. -/
theorem send_races_with_remove_and_stop_pcap :
    (∃ s : Sys Nat, Reachable none s ∧ s.callers 1 = .raised .keyError) ∧
    ∃ s : Sys Nat, Reachable none s ∧ s.callers 1 = .raised .attributeError :=
  ⟨exists_reachable_of_run none
      [.call 0 (.portAdd "eth1" 0 1), .call 1 (.send 0 1 [7] 3 (some 1)),
        .call 0 (.portRemove 0 1), .next 1, .next 1] (by decide),
    exists_reachable_of_run none
      [.call 0 (.portAdd "eth1" 0 1), .call 0 (.startPcap "cap.pcap"), .next 0,
        .call 1 (.send 0 1 [7] 3 (some 1)), .next 1, .call 0 .stopPcap, .next 0, .next 1]
      (by decide)⟩

end PtfDataplane
