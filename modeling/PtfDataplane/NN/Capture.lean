/-
The capture loop on the nanomsg platform, in every interleaving.

On the `nn` platform the packet source of a registered port object is the shared
`DataPlanePacketSourceNN` of its `(device, interface)` pair, kept in the class table
`packet_injecters`, which never drops an entry.  `DataPlane.run` selects on the sources of
a snapshot of the registered ports, then under the engine lock reads one message from
each readable source with `recv` and enqueues the tuple `recv` returns: the source's
device number and the port number the peer wrote in the message.  `recv` returns `None`
for a port outside the source's set, and `port_add` and `port_remove` change the sets
inside the locked region that changes the registry, where CPython runs the constructor
of the new port object and the finaliser of the one the registry drops.  That is the
model's assumption on finalisers: a port object's `__del__` runs inside the call that
drops the registry's reference to it, so no thread is then inside one of its methods (a
`send` blocked in `nn_send`, for up to `SND_TIMEOUT`, keeps the object alive past
`port_remove`, and its port number in the source's set until `send` returns).

`SysNN` is the engine, the registry with its sources (`WorldNN`), the caches `recv`
writes, the capture loop and the caller threads, whose calls run the statements of
`PtfDataplane.Threads`.  As there, each `recv` of the drain and the rest of the loop body
after it are separate steps, and the locked calls wait while the loop holds the lock.
`InvNN` is what every interleaving keeps.

* `SysNN.step_recv`, `SysNN.step_enqueue` — reading a message either raises, or changes
  only the caches of the source and holds what `recv` returned; the next step drops a
  `None` and enqueues a frame as the engine's capture step does;
* `nn_capture_never_dies_of_keyError` — in every interleaving, whatever the peer sends,
  the capture loop dies only of an exception `recv` raises on a malformed message or of
  the `IndexError` of a zero capacity, never of `KeyError`: every frame `recv` returns is
  for a registered port (`nn_port_sets_within_registry`), it stays registered until it is
  enqueued, since the calls that change the registry wait for the lock, and every
  registered port has a queue.  With raw-socket ports a `port_remove` between the
  snapshot and the drain kills the loop with `KeyError`
  (`capture_drain_races_with_port_changes`).
-/
import PtfDataplane.Refinement
import PtfDataplane.NN.Wire
import Mathlib.Data.List.Dedup

namespace PtfDataplane

/-- What `recv` writes of a source besides its port set: the caches `mac_addresses` and
`nn_counters`, and the number of `cvar.notify_all()` calls. -/
structure Caches where
  macAddresses : Dict Int (Option Packet)
  nnCounters : Dict Int (List Int)
  notifications : Nat

namespace Caches

/-- The caches as `DataPlanePacketSourceNN.__init__` leaves them. -/
def empty : Caches := ⟨.empty, .empty, 0⟩

/-- The caches of a source as `recv` leaves it. -/
def ofSource (s : SourceNNRecv) : Caches := ⟨s.macAddresses, s.nnCounters, s.notifications⟩

end Caches

/-- Where the capture loop stands; the sources are named by their key in
`packet_injecters`.  `read t rest` is the loop after `t = sel.recv()`, before
`if t is None: continue`. -/
inductive LoopNN (τ : Type)
  | top
  | selecting (sources : List (Int × String))
  | draining (ready : List (Int × String))
  | read (t : Option (Int × Int × Packet × τ)) (rest : List (Int × String))
  | dead (e : PyError)
  deriving DecidableEq

namespace LoopNN

variable {τ : Type}

/-- The loop holds the engine lock from `select`'s return to the end of the drain. -/
def holdsLock : LoopNN τ → Bool
  | .draining _ | .read .. => true
  | _ => false

/-- The sources the loop is about to select on, or to read. -/
def sources : LoopNN τ → List (Int × String)
  | .selecting l | .draining l | .read _ l => l
  | _ => []

end LoopNN

/-- One atomic step of the threads of the nn platform. -/
inductive ActionNN (τ : Type)
  | call (i : Nat) (c : Call τ)
  | next (i : Nat)
  | snapshot
  | select (ready : List (Int × String))
  | recv (msg : Packet) (now : τ)
  | enqueue
  | release

/-- The locked drain reading `msgs`, one from each ready source in turn: `sel.recv()`
and the rest of the loop body for each, then the end of the locked region. -/
def ActionNN.drain {τ : Type} (msgs : List (Packet × τ)) : List (ActionNN τ) :=
  msgs.flatMap (fun m => [.recv m.1 m.2, .enqueue]) ++ [.release]

/-- The engine on the nn platform and its threads. -/
structure SysNN (τ : Type) where
  dp : DataPlane τ
  world : WorldNN
  caches : Int × String → Caches
  loop : LoopNN τ
  callers : Nat → Caller τ

/-- What a call does to the registry and the sources: `port_add` and `port_remove` build
and finalise port objects, the other calls leave them. -/
def WorldNN.call {τ : Type} (w : WorldNN) : Call τ → WorldNN
  | .portAdd i d p => w.portAdd i d p
  | .portRemove d p => (w.portRemove d p).1
  | _ => w

namespace SysNN

variable {τ : Type}

/-- Construction: no port, no source, every thread at its start. -/
def init (configQlen : Option Nat) : SysNN τ :=
  ⟨DataPlane.init configQlen, .empty, fun _ => .empty, .top, fun _ => .idle⟩

/-- `set([p.get_packet_source() for p in list(self.ports.values())])`: the key
`(device_number, interface_name)` under which each registered port object finds its
source. -/
def sources (dp : DataPlane τ) : List (Int × String) :=
  (dp.ports.entries.map fun e => (e.2.deviceNumber, e.2.interfaceName)).dedup

/-- The source of `k` as `recv` sees it: the device number it was built for, its port set
and its caches. -/
def source (s : SysNN τ) (k : Int × String) : SourceNNRecv :=
  ⟨k.1, s.world.portsOf k, (s.caches k).macAddresses, (s.caches k).nnCounters,
    (s.caches k).notifications⟩

/-- One step of one thread; `none` when the thread cannot take it, or when it would take
the lock the capture loop holds.  `recv` on the source of `k` reads the message `msg` it
holds at `now`; the next step of the loop drops a `None` and enqueues a frame. -/
def step (s : SysNN τ) : ActionNN τ → Option (SysNN τ)
  | .call i c =>
    match s.callers i with
    | .idle =>
      if c.locked ∧ s.loop.holdsLock then none
      else
        let r := Sys.begin s.dp c
        some { s with dp := r.1, world := s.world.call c, callers := Function.update s.callers i r.2 }
    | _ => none
  | .next i =>
    if (s.callers i).locked ∧ s.loop.holdsLock then none
    else
      (Sys.resume s.dp (s.callers i)).map fun r =>
        { s with dp := r.1, callers := Function.update s.callers i r.2 }
  | .snapshot =>
    match s.loop with
    | .top => some { s with loop := .selecting (sources s.dp) }
    | _ => none
  | .select ready =>
    match s.loop with
    | .selecting srcs =>
      if ready.Nodup ∧ ready ⊆ srcs then some { s with loop := .draining ready } else none
    | _ => none
  | .recv msg now =>
    match s.loop with
    | .draining (k :: rest) =>
      match (s.source k).recv msg now with
      | (_, .error e) => some { s with loop := .dead e }
      | (src, .ok t) =>
        some { s with caches := Function.update s.caches k (Caches.ofSource src), loop := .read t rest }
    | _ => none
  | .enqueue =>
    match s.loop with
    | .read none rest => some { s with loop := .draining rest }
    | .read (some (d, p, pkt, time)) rest =>
      match s.dp.enqueuePacket d p pkt time with
      | (dp', .ok ()) => some { s with dp := dp', loop := .draining rest }
      | (dp', .error e) => some { s with dp := dp', loop := .dead e }
    | _ => none
  | .release =>
    match s.loop with
    | .draining [] => some { s with loop := .top }
    | _ => none

/-- Run a word of actions, each by the thread it names. -/
def run (s : SysNN τ) : List (ActionNN τ) → Option (SysNN τ)
  | [] => some s
  | a :: as => (s.step a).bind fun s' => s'.run as

/-! ### What each step does -/

variable {s s' : SysNN τ}

theorem step_call {i : Nat} {c : Call τ} (h : s.step (.call i c) = some s') :
    s.callers i = .idle ∧ ¬(c.locked ∧ s.loop.holdsLock) ∧
      s' = { s with
        dp := (Sys.begin s.dp c).1
        world := s.world.call c
        callers := Function.update s.callers i (Sys.begin s.dp c).2 } := by
  simp only [step] at h
  split at h
  · split_ifs at h with hl
    cases h
    exact ⟨‹_›, hl, rfl⟩
  · cases h

theorem step_next {i : Nat} (h : s.step (.next i) = some s') :
    ¬((s.callers i).locked ∧ s.loop.holdsLock) ∧ ∃ r, Sys.resume s.dp (s.callers i) = some r ∧
      s' = { s with dp := r.1, callers := Function.update s.callers i r.2 } := by
  simp only [step] at h
  split_ifs at h with hl
  obtain ⟨r, hr, rfl⟩ := Option.map_eq_some'.mp h
  exact ⟨hl, r, hr, rfl⟩

theorem step_snapshot (h : s.step .snapshot = some s') :
    s.loop = .top ∧ s' = { s with loop := .selecting (sources s.dp) } := by
  simp only [step] at h
  split at h <;> cases h
  exact ⟨‹_›, rfl⟩

theorem step_select {ready : List (Int × String)} (h : s.step (.select ready) = some s') :
    ∃ srcs, s.loop = .selecting srcs ∧ ready.Nodup ∧ ready ⊆ srcs ∧
      s' = { s with loop := .draining ready } := by
  simp only [step] at h
  split at h
  · split_ifs at h with hr
    cases h
    exact ⟨_, ‹_›, hr.1, hr.2, rfl⟩
  · cases h

/-- Reading a message: `recv` raises and the loop dies with nothing else changed, or it
returns, and only the caches of the source change. -/
theorem step_recv {msg : Packet} {now : τ} (h : s.step (.recv msg now) = some s') :
    ∃ k rest, s.loop = .draining (k :: rest) ∧
      ((∃ e, ((s.source k).recv msg now).2 = .error e ∧ s' = { s with loop := .dead e }) ∨
        ∃ src t, (s.source k).recv msg now = (src, .ok t) ∧
          s' = { s with
            caches := Function.update s.caches k (Caches.ofSource src)
            loop := .read t rest }) := by
  simp only [step] at h
  split at h
  · rename_i k rest hl
    refine ⟨k, rest, hl, ?_⟩
    split at h <;> rename_i hr <;> cases h
    · exact .inl ⟨_, by rw [hr], rfl⟩
    · exact .inr ⟨_, _, hr, rfl⟩
  · cases h

/-- The rest of the loop body: `continue` on `None`, or the engine's enqueue of the frame
`recv` returned. -/
theorem step_enqueue (h : s.step .enqueue = some s') :
    (∃ rest, s.loop = .read none rest ∧ s' = { s with loop := .draining rest }) ∨
    ∃ d p pkt t rest, s.loop = .read (some (d, p, pkt, t)) rest ∧
      s'.dp = (s.dp.enqueuePacket d p pkt t).1 ∧ s'.world = s.world ∧ s'.caches = s.caches ∧
      s'.callers = s.callers ∧
      ((s.dp.enqueuePacket d p pkt t).2 = .ok () ∧ s'.loop = .draining rest ∨
        ∃ e, (s.dp.enqueuePacket d p pkt t).2 = .error e ∧ s'.loop = .dead e) := by
  simp only [step] at h
  split at h
  · cases h; exact .inl ⟨_, ‹_›, rfl⟩
  · refine .inr ⟨_, _, _, _, _, ‹_›, ?_⟩
    split at h <;> rename_i heq <;> cases h <;> rw [heq]
    · exact ⟨rfl, rfl, rfl, rfl, .inl ⟨rfl, rfl⟩⟩
    · exact ⟨rfl, rfl, rfl, rfl, .inr ⟨_, rfl, rfl⟩⟩
  · cases h

theorem step_release (h : s.step .release = some s') :
    s.loop = .draining [] ∧ s' = { s with loop := .top } := by
  simp only [step] at h
  split at h <;> cases h
  exact ⟨‹_›, rfl⟩

/-- What one step does to the engine, as `Sys.step_dp_cases`; an enqueue is of the frame
the loop holds. -/
theorem step_dp_cases {a : ActionNN τ} (h : s.step a = some s') :
    s'.dp = s.dp ∨ (∃ c, s'.dp = (Sys.begin s.dp c).1) ∨
      (∃ c r, Sys.resume s.dp c = some r ∧ s'.dp = r.1) ∨
      ∃ d p pkt t rest, s.loop = .read (some (d, p, pkt, t)) rest ∧
        s'.dp = (s.dp.enqueuePacket d p pkt t).1 := by
  cases a with
  | call i c => obtain ⟨-, -, rfl⟩ := step_call h; exact .inr (.inl ⟨c, rfl⟩)
  | next i =>
    obtain ⟨-, r, hr, rfl⟩ := step_next h
    exact .inr (.inr (.inl ⟨_, r, hr, rfl⟩))
  | snapshot => obtain ⟨-, rfl⟩ := step_snapshot h; exact .inl rfl
  | select => obtain ⟨_, -, -, -, rfl⟩ := step_select h; exact .inl rfl
  | recv =>
    obtain ⟨_, _, -, ⟨_, -, rfl⟩ | ⟨_, _, -, rfl⟩⟩ := step_recv h <;> exact .inl rfl
  | release => obtain ⟨-, rfl⟩ := step_release h; exact .inl rfl
  | enqueue =>
    obtain ⟨_, -, rfl⟩ | ⟨_, _, _, _, _, hl, e, -⟩ := step_enqueue h
    · exact .inl rfl
    · exact .inr (.inr (.inr ⟨_, _, _, _, _, hl, e⟩))

end SysNN

/-- The states some interleaving of the nn platform's threads reaches from construction. -/
inductive ReachableNN {τ : Type} (configQlen : Option Nat) : SysNN τ → Prop
  | init : ReachableNN configQlen (SysNN.init configQlen)
  | step {s s' : SysNN τ} (a : ActionNN τ) :
      ReachableNN configQlen s → s.step a = some s' → ReachableNN configQlen s'

theorem reachableNN_of_run {τ : Type} {configQlen : Option Nat} :
    ∀ {s s' : SysNN τ} (as : List (ActionNN τ)), ReachableNN configQlen s →
      s.run as = some s' → ReachableNN configQlen s'
  | _, _, [], hs, h => by cases h; exact hs
  | s, _, a :: as, hs, h => by
    simp only [SysNN.run] at h
    cases ha : s.step a with
    | none => rw [ha] at h; cases h
    | some s₁ =>
      rw [ha] at h
      exact reachableNN_of_run as (ReachableNN.step a hs ha) h

/-- A word of actions from construction that ends where `P` holds. -/
theorem exists_reachableNN_of_run {τ : Type} (configQlen : Option Nat) (as : List (ActionNN τ))
    {P : SysNN τ → Prop} [DecidablePred P]
    (h : ((SysNN.init configQlen).run as).map (fun s => decide (P s)) = some true) :
    ∃ s, ReachableNN configQlen s ∧ P s := by
  cases hr : (SysNN.init configQlen).run as with
  | none => rw [hr] at h; cases h
  | some s =>
    rw [hr] at h
    exact ⟨s, reachableNN_of_run as .init hr, of_decide_eq_true (Option.some.inj h)⟩

/-! ## What every interleaving keeps -/

/-- How the nn capture loop may die: of an exception `recv` raises, or of the
`IndexError` of `queue.pop(0)` on an empty queue, which only a capacity of `0` meets. -/
def CaptureError (qlen : Nat) (e : PyError) : Prop :=
  e = .structError ∨ e = .typeError ∨ e = .valueError ∨ e = .assertionError ∨
    (e = .indexError ∧ qlen = 0)

theorem RegistryMatches.of_ports {τ : Type} {w : WorldNN} {dp dp' : DataPlane τ}
    (h : RegistryMatches w dp) (he : dp'.ports = dp.ports) : RegistryMatches w dp' :=
  fun k => he ▸ h k

namespace WorldNN

theorem SetsRegistered.call {τ : Type} {w : WorldNN} (h : w.SetsRegistered) (c : Call τ) :
    (w.call c).SetsRegistered := by
  cases c with
  | portAdd i d p => exact h.portAdd i d p
  | portRemove d p => exact h.portRemove d p
  | _ => exact h

/-- `packet_injecters` never drops an entry. -/
theorem mem_keys_call {τ : Type} {w : WorldNN} {k : Int × String} (hk : k ∈ w.injecters.keys)
    (c : Call τ) : k ∈ (w.call c).injecters.keys := by
  cases c with
  | portAdd i d p => exact (mem_keys_portAdd w i d p k).mpr (.inr hk)
  | portRemove d p =>
    show k ∈ (w.portRemove d p).1.injecters.keys
    unfold WorldNN.portRemove
    split
    · exact hk
    · rw [keys_finalize]; exact hk
  | _ => exact hk

end WorldNN

namespace SysNN

variable {τ : Type}

theorem enqueuePacket_qlen (dp : DataPlane τ) (d p : Int) (pkt : Packet) (t : τ) :
    (dp.enqueuePacket d p pkt t).1.qlen = dp.qlen := by
  rcases DataPlane.enqueuePacket_cases dp d p pkt t with
    ⟨-, he⟩ | ⟨_, -, -, he⟩ | ⟨_, _, -, -, he⟩ <;> rw [he] <;> rfl

/-- A frame `recv` returns is for a registered port. -/
theorem mem_keys_of_frame {s : SysNN τ} (hr : RegistryMatches s.world s.dp)
    (hs : s.world.SetsRegistered) {k : Int × String} {msg : Packet} {now t : τ} {d p : Int}
    {pkt : Packet} (hf : ((s.source k).recv msg now).2 = .ok (some (d, p, pkt, t))) :
    (d, p) ∈ s.dp.ports.keys := by
  obtain ⟨-, -, hd, hp, -⟩ := SourceNNRecv.recv_frame _ _ _ hf
  obtain ⟨d', i⟩ := k
  obtain rfl : d = d' := hd
  have hw := hs.registered d i p hp
  rw [hr] at hw
  obtain ⟨o, ho, -⟩ := Option.map_eq_some'.mp hw
  exact (Dict.mem_keys_iff _ _).mpr (by rw [ho]; rfl)

/-- A frame `recv` returns is for a key with a queue. -/
theorem queue_of_frame {s : SysNN τ} (hc : s.dp.QueuesCover) (hr : RegistryMatches s.world s.dp)
    (hs : s.world.SetsRegistered) {k : Int × String} {msg : Packet} {now t : τ} {d p : Int}
    {pkt : Packet} (hf : ((s.source k).recv msg now).2 = .ok (some (d, p, pkt, t))) :
    (s.dp.queue (d, p)).isSome :=
  (Dict.mem_keys_iff _ _).mp (hc _ (mem_keys_of_frame hr hs hf))

/-- The enqueue of a frame for a registered port never raises `KeyError`. -/
theorem enqueuePacket_error {dp : DataPlane τ} (hc : dp.QueuesCover) {d p : Int}
    (hk : (d, p) ∈ dp.ports.keys) {pkt : Packet} {t : τ} {e : PyError}
    (h : (dp.enqueuePacket d p pkt t).2 = .error e) : CaptureError dp.qlen e := by
  have hq : (dp.queue (d, p)).isSome := (Dict.mem_keys_iff _ _).mp (hc _ hk)
  rcases DataPlane.enqueuePacket_cases dp d p pkt t with
    ⟨hn, -⟩ | ⟨q, -, hm, he⟩ | ⟨_, _, -, -, he⟩
  · rw [hn] at hq; cases hq
  · rw [he] at h
    cases h
    refine .inr (.inr (.inr (.inr ⟨rfl, ?_⟩)))
    by_contra hne
    have := makeRoom_isSome q (Nat.one_le_iff_ne_zero.mpr hne)
    rw [hm] at this
    cases this
  · rw [he] at h; cases h

theorem begin_portRemove (dp : DataPlane τ) (d p : Int) :
    (Sys.begin dp (.portRemove d p)).1 = (dp.portRemove d p).1 := by
  simp only [Sys.begin]; split <;> rename_i he <;> rw [he]

theorem qlen_begin (dp : DataPlane τ) (c : Call τ) : (Sys.begin dp c).1.qlen = dp.qlen := by
  cases hl : c.locked
  · rw [Sys.begin_dp_of_unlocked dp c hl]
  cases c with
  | portRemove d p => rw [begin_portRemove]; unfold DataPlane.portRemove; split_ifs <;> rfl
  | portAdd => rfl
  | _ => cases hl

/-- What the next statement of a caller does to the engine: nothing, empty one queue
(`flush`), write to the tap (`send`), count a send, or attach or detach a tap
(`start_pcap`, `stop_pcap`). -/
theorem resume_dp_cases {dp : DataPlane τ} {c : Caller τ} {r : DataPlane τ × Caller τ}
    (hr : Sys.resume dp c = some r) :
    r.1 = dp ∨ (∃ k, r.1 = { dp with packetQueues := dp.packetQueues.set k [] }) ∨
      (∃ pkt t d p, r.1 = dp.pcapWrite pkt t d p) ∨
      (∃ k, r.1 = { dp with txCounters := bump dp.txCounters k }) ∨
      ∃ w, r.1 = { dp with pcapWriter := w } := by
  cases c with
  | flushing ks =>
    cases ks with
    | nil => cases hr; exact .inl rfl
    | cons k ks => cases hr; exact .inr (.inl ⟨k, rfl⟩)
  | sendWrite k pkt now reply =>
    simp only [Sys.resume] at hr
    split at hr <;> cases hr
    · exact .inl rfl
    · exact .inr (.inr (.inl ⟨pkt, now, k.1, k.2, rfl⟩))
  | sendPort | stopClose =>
    simp only [Sys.resume] at hr
    split at hr <;> cases hr
    all_goals first | exact .inl rfl | exact .inr (.inr (.inr (.inr ⟨none, rfl⟩)))
  | sendCount k => cases hr; exact .inr (.inr (.inr (.inl ⟨k, rfl⟩)))
  | startAssign f => cases hr; exact .inr (.inr (.inr (.inr ⟨_, rfl⟩)))
  | sendTap => cases hr; exact .inl rfl
  | idle | raised => cases hr

theorem qlen_resume {dp : DataPlane τ} {c : Caller τ} {r : DataPlane τ × Caller τ}
    (hr : Sys.resume dp c = some r) : r.1.qlen = dp.qlen := by
  rcases resume_dp_cases hr with e | ⟨_, e⟩ | ⟨_, _, _, _, e⟩ | ⟨_, e⟩ | ⟨_, e⟩ <;> rw [e]
  rfl

/-- What every interleaving keeps: registered ports have queues, the nn registry is the
engine's, the sources' sets stay within it, the loop reads only sources of the table, a
frame the loop holds is for a registered port, and a dead loop died of what
`CaptureError` allows. -/
structure InvNN (s : SysNN τ) : Prop where
  cover : s.dp.QueuesCover
  registry : RegistryMatches s.world s.dp
  sets : s.world.SetsRegistered
  sourced : ∀ k ∈ s.loop.sources, k ∈ s.world.injecters.keys
  pending : ∀ d p pkt t rest, s.loop = .read (some (d, p, pkt, t)) rest → (d, p) ∈ s.dp.ports.keys
  dead : ∀ e, s.loop = .dead e → CaptureError s.dp.qlen e

theorem invNN_init (configQlen : Option Nat) : InvNN (init configQlen : SysNN τ) :=
  ⟨by intro k hk; simp [init, DataPlane.init, Dict.empty, Dict.keys] at hk, fun _ => rfl,
    WorldNN.setsRegistered_empty, by simp [init, LoopNN.sources], (fun _ _ _ _ _ h => by cases h),
    by simp [init]⟩

/-- The snapshot's sources are sources of `packet_injecters`. -/
theorem mem_keys_of_sources {w : WorldNN} {dp : DataPlane τ} (hr : RegistryMatches w dp)
    (hs : w.SetsRegistered) {k : Int × String} (hk : k ∈ sources dp) : k ∈ w.injecters.keys := by
  obtain ⟨⟨⟨d, p⟩, o⟩, he, rfl⟩ := List.mem_map.mp (List.mem_dedup.mp hk)
  have hw := hr (d, p)
  rw [(Dict.get?_eq_some_iff_mem _ _ _).mpr he] at hw
  have hsrc := hs.source d p _ hw
  obtain ⟨-, hd, -⟩ := PortNN.mk.inj (hs.keyed d p _ hw)
  simp only [PortNN.ofPort] at hsrc hd
  rw [← hd] at hsrc
  exact hsrc

/-- A call that takes no lock leaves the registry and the sources. -/
theorem world_call_of_unlocked (w : WorldNN) :
    ∀ c : Call τ, c.locked = false → w.call c = w
  | .portAdd .., h | .portRemove .., h => by cases h
  | .flush, _ | .send .., _ | .startPcap _, _ | .stopPcap, _ => rfl

/-- A call taken while the loop holds a frame takes no lock, so it leaves the registry. -/
theorem ports_begin_of_read {s : SysNN τ} {c : Call τ} (hl : ¬(c.locked ∧ s.loop.holdsLock))
    {f : Option (Int × Int × Packet × τ)} {rest : List (Int × String)}
    (hr : s.loop = .read f rest) : (Sys.begin s.dp c).1 = s.dp := by
  refine Sys.begin_dp_of_unlocked s.dp c ?_
  rw [hr] at hl
  simpa [LoopNN.holdsLock] using hl

variable [LinearOrder τ]

/-- `port_add` and `port_remove` change the nn registry as they change the engine's; the
other calls change neither. -/
theorem registryMatches_begin {w : WorldNN} {dp : DataPlane τ} (h : RegistryMatches w dp)
    (c : Call τ) : RegistryMatches (w.call c) (Sys.begin dp c).1 := by
  cases hl : c.locked
  · rw [Sys.begin_dp_of_unlocked dp c hl, world_call_of_unlocked w c hl]; exact h
  cases c with
  | portAdd i d p => exact registryMatches_step h (.portAdd i d p)
  | portRemove d p => rw [begin_portRemove]; exact registryMatches_step h (.portRemove d p)
  | _ => cases hl

theorem invNN_step {s s' : SysNN τ} (h : InvNN s) {a : ActionNN τ} (hs : s.step a = some s') :
    InvNN s' := by
  cases a with
  | call i c =>
    obtain ⟨-, hl, rfl⟩ := step_call hs
    refine ⟨Sys.queuesCover_begin h.cover c, registryMatches_begin h.registry c, h.sets.call c,
      fun k hk => WorldNN.mem_keys_call (h.sourced k hk) c, fun d p pkt t rest hr => ?_,
      fun e he => (qlen_begin s.dp c).symm ▸ h.dead e he⟩
    have hr' : s.loop = _ := hr
    rw [ports_begin_of_read hl hr']
    exact h.pending d p pkt t rest hr'
  | next i =>
    obtain ⟨-, r, hr, rfl⟩ := step_next hs
    exact ⟨Sys.queuesCover_resume h.cover hr, h.registry.of_ports (Sys.resume_ports hr), h.sets,
      h.sourced, fun d p pkt t rest hl => by rw [Sys.resume_ports hr]; exact h.pending d p pkt t rest hl,
      fun e he => (qlen_resume hr).symm ▸ h.dead e he⟩
  | snapshot =>
    obtain ⟨-, rfl⟩ := step_snapshot hs
    exact ⟨h.cover, h.registry, h.sets, fun k hk => mem_keys_of_sources h.registry h.sets hk,
      (fun _ _ _ _ _ he => by cases he), (fun e he => by cases he)⟩
  | select ready =>
    obtain ⟨srcs, hl, -, hsub, rfl⟩ := step_select hs
    refine ⟨h.cover, h.registry, h.sets, fun k hk => h.sourced k ?_,
      (fun _ _ _ _ _ he => by cases he), (fun e he => by cases he)⟩
    rw [hl]
    exact hsub hk
  | recv msg now =>
    obtain ⟨k, rest, hl, ⟨e, he, rfl⟩ | ⟨src, t, hr, rfl⟩⟩ := step_recv hs
    · refine ⟨h.cover, h.registry, h.sets, by simp [LoopNN.sources],
        (fun _ _ _ _ _ h' => by cases h'), fun e' he' => ?_⟩
      cases he'
      exact (SourceNNRecv.recv_error_mem _ _ _ he).imp_right (.imp_right (.imp_right .inl))
    · refine ⟨h.cover, h.registry, h.sets,
        fun k' hk' => h.sourced k' (by rw [hl]; exact List.mem_cons_of_mem _ hk'),
        fun d p pkt t' rest' he => ?_, (fun e he => by cases he)⟩
      cases he
      exact mem_keys_of_frame h.registry h.sets (by rw [hr])
  | enqueue =>
    rcases step_enqueue hs with ⟨rest, hl, rfl⟩ | ⟨d, p, pkt, t, rest, hl, hdp, hw, -, -, hok⟩
    · exact ⟨h.cover, h.registry, h.sets, fun k hk => h.sourced k (by rw [hl]; exact hk),
        (fun _ _ _ _ _ he => by cases he), (fun e he => by cases he)⟩
    have hk := h.pending d p pkt t rest hl
    have hports : s'.dp.ports = s.dp.ports := by rw [hdp]; exact DataPlane.enqueuePacket_ports _ _ _ _ _
    have hq : s'.dp.qlen = s.dp.qlen := by rw [hdp]; exact enqueuePacket_qlen _ _ _ _ _
    refine ⟨hdp ▸ h.cover.enqueuePacket d p pkt t, hw ▸ h.registry.of_ports hports, hw ▸ h.sets,
      ?_, ?_, ?_⟩ <;> rcases hok with ⟨-, hl'⟩ | ⟨e, herr, hl'⟩
    · exact fun k hk => hw ▸ h.sourced k (by rw [hl]; rw [hl'] at hk; exact hk)
    · simp [hl', LoopNN.sources]
    all_goals try exact fun _ _ _ _ _ he => by rw [hl'] at he; cases he
    · exact fun e he => by rw [hl'] at he; cases he
    · intro e' he'
      rw [hl'] at he'
      cases he'
      exact hq ▸ enqueuePacket_error h.cover hk herr
  | release =>
    obtain ⟨-, rfl⟩ := step_release hs
    exact ⟨h.cover, h.registry, h.sets, by simp [LoopNN.sources], (fun _ _ _ _ _ he => by cases he),
      (fun e he => by cases he)⟩

theorem invNN_of_reachable {configQlen : Option Nat} {s : SysNN τ}
    (hs : ReachableNN configQlen s) : InvNN s := by
  induction hs with
  | init => exact invNN_init configQlen
  | step _ _ h ih => exact invNN_step ih h

end SysNN

/-- **The nn capture loop never dies of `KeyError`.**  In every interleaving of the
callers' `port_add`, `port_remove`, `flush`, `send`, `start_pcap` and `stop_pcap` with
the capture loop's snapshot, select, each `recv` and each enqueue, whatever messages the
peer sends, the loop dies only of an exception `recv` raises on a malformed message
(`struct.error`, `TypeError`, `ValueError`, `AssertionError`) or of the `IndexError` of a
capacity of `0`.  A `port_remove` between the snapshot and the drain takes the number out
of its source's set in the same locked region, so `recv` drops the frame; this rests on
the finaliser of the removed port object running inside `port_remove`, with no thread
inside one of its methods. -/
theorem nn_capture_never_dies_of_keyError {τ : Type} [LinearOrder τ] {configQlen : Option Nat}
    {s : SysNN τ} (hs : ReachableNN configQlen s) {e : PyError} (he : s.loop = .dead e) :
    e = .structError ∨ e = .typeError ∨ e = .valueError ∨ e = .assertionError ∨
      (e = .indexError ∧ s.dp.qlen = 0) :=
  (SysNN.invNN_of_reachable hs).dead e he

/-- A message too short for its header kills the loop with `struct.error`. -/
theorem nn_capture_dies_of_short_message :
    ∃ s : SysNN Nat, ReachableNN none s ∧ s.loop = .dead .structError ∧
      (PyError.structError = .structError ∨ PyError.structError = .typeError ∨
        PyError.structError = .valueError ∨ PyError.structError = .assertionError ∨
        (PyError.structError = .indexError ∧ s.dp.qlen = 0)) := by
  obtain ⟨s, hs, hd⟩ : ∃ s : SysNN Nat, ReachableNN none s ∧ s.loop = .dead .structError :=
    exists_reachableNN_of_run none
      [.call 0 (.portAdd "ipc://a" 0 1), .snapshot, .select [(0, "ipc://a")], .recv [1, 2, 3] 3]
      (by decide)
  exact ⟨s, hs, hd, nn_capture_never_dies_of_keyError hs hd⟩

/-- The window that kills the raw-socket loop: on nn the frame is dropped and the loop
goes on. -/
example : ((SysNN.init none : SysNN Nat).run
    ([.call 0 (.portAdd "ipc://a" 0 1), .snapshot, .call 0 (.portRemove 0 1),
      .select [(0, "ipc://a")]] ++ ActionNN.drain [((PeerMsg.packetOut 1 [7]).encode, 3)])).map
      SysNN.loop = some .top := by
  decide

end PtfDataplane
