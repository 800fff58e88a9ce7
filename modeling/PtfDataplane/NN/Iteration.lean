/-
One iteration of the nanomsg capture loop, run alone.

On the nn platform the locked drain of `DataPlane.run` reads one message from each ready
source and enqueues the frame `recv` returns, if any.  `recv` also stores `INFO_REP`
replies in the source's caches, but whether it returns a frame, and which, depends only
on the source's device number and port set (`SourceNNRecv.recv_snd`), which a drain does
not change.  So an iteration that no caller interleaves with, from any reachable state,
leaves the engine as the sequential engine's enqueues of those frames do, and raises
nothing unless `recv` raises, given a capacity of at least `1`.  This is the nn
counterpart of `iteration_alone_refines_exec`.

* `SysNN.drainOps` — the enqueues of a drain: one for each message `recv` accepts;
* `SysNN.run_drain` — a drain whose messages `recv` does not reject, one `recv` and one
  enqueue step for each, is the sequential run of its enqueues;
* `nn_iteration_alone_refines_exec` — snapshot, select and drain, run alone from a
  reachable state at the top of the loop, are the sequential enqueues of the frames the
  messages carry, and the loop returns to its top.
-/
import PtfDataplane.NN.Capture

namespace PtfDataplane

namespace SysNN

variable {τ : Type}

/-- The enqueues of a locked drain: for each ready source and the message read from it,
the enqueue of the frame `recv` returns, if it returns one. -/
def drainOps (s : SysNN τ) (l : List ((Int × String) × Packet × τ)) : List (Op τ) :=
  l.filterMap fun x =>
    match ((s.source x.1).recv x.2.1 x.2.2).2 with
    | .ok (some (d, p, pkt, t)) => some (.enqueue d p pkt t)
    | _ => none

/-- A drain leaves the sources' device numbers and port sets, so `recv` answers alike. -/
theorem recv_source_snd {s s' : SysNN τ} (h : s'.world = s.world) (k : Int × String)
    (msg : Packet) (now : τ) :
    ((s'.source k).recv msg now).2 = ((s.source k).recv msg now).2 :=
  SourceNNRecv.recv_snd (s'.source k) (s.source k) rfl (by simp only [source, h]) msg now

theorem drainOps_congr (s s' : SysNN τ) (h : s'.world = s.world)
    (l : List ((Int × String) × Packet × τ)) : s'.drainOps l = s.drainOps l := by
  simp only [drainOps, recv_source_snd h]

theorem drain_cons (m : Packet × τ) (msgs : List (Packet × τ)) :
    ActionNN.drain (m :: msgs) = .recv m.1 m.2 :: .enqueue :: ActionNN.drain msgs := rfl

/-- With a capacity of at least `1`, the enqueue of a frame for a registered port raises
nothing. -/
theorem enqueuePacket_ok {dp : DataPlane τ} (hc : dp.QueuesCover) {d p : Int}
    (hk : (d, p) ∈ dp.ports.keys) (hq : 1 ≤ dp.qlen) (pkt : Packet) (t : τ) :
    (dp.enqueuePacket d p pkt t).2 = .ok () := by
  have hkq : (dp.queue (d, p)).isSome := (Dict.mem_keys_iff _ _).mp (hc _ hk)
  rcases DataPlane.enqueuePacket_cases dp d p pkt t with
    ⟨hn, -⟩ | ⟨q, -, hm, -⟩ | ⟨_, _, -, -, he⟩
  · rw [hn] at hkq; cases hkq
  · exact absurd hm (Option.isSome_iff_ne_none.mp (makeRoom_isSome q hq))
  · rw [he]

variable [LinearOrder τ]

/-- A drain over messages that `recv` does not reject, into queues of capacity at least
`1` with the invariant of every interleaving, raises nothing, returns to the top of the
loop and leaves the engine as the sequential run of its enqueues. -/
theorem run_drain : ∀ (ready : List (Int × String)) (msgs : List (Packet × τ)) {s : SysNN τ},
    msgs.length = ready.length → s.loop = .draining ready → 1 ≤ s.dp.qlen →
    s.dp.QueuesCover → RegistryMatches s.world s.dp → s.world.SetsRegistered →
    (∀ x ∈ ready.zip msgs, ∀ e, ((s.source x.1).recv x.2.1 x.2.2).2 ≠ .error e) →
    ∃ s', s.run (ActionNN.drain msgs) = some s' ∧ s'.loop = .top ∧
      s'.dp = s.dp.exec (s.drainOps (ready.zip msgs)) ∧ s'.world = s.world ∧
      s'.callers = s.callers
  | [], [], s, _, hl, _, _, _, _, _ =>
    ⟨{ s with loop := .top }, by simp only [ActionNN.drain, List.flatMap_nil, List.nil_append,
      run, step, hl, Option.some_bind], rfl, rfl, rfl, rfl⟩
  | [], _ :: _, _, hlen, _, _, _, _, _, _ | _ :: _, [], _, hlen, _, _, _, _, _, _ => by
    simp at hlen
  | k :: ready, (msg, now) :: msgs, s, hlen, hl, hq, hc, hr, hs, hok => by
    have hrest : ∀ s' : SysNN τ, s'.world = s.world → ∀ x ∈ ready.zip msgs, ∀ e,
        ((s'.source x.1).recv x.2.1 x.2.2).2 ≠ .error e := fun s' h x hx e => by
      rw [recv_source_snd h]; exact hok x (List.mem_cons_of_mem _ hx) e
    have hlen' : msgs.length = ready.length := Nat.succ.inj hlen
    rw [List.zip_cons_cons]
    rcases hrecv : (s.source k).recv msg now with ⟨src, e | _ | ⟨d, p, pkt, t⟩⟩
    · exact absurd (congrArg Prod.snd hrecv) (hok _ (List.mem_cons_self _ _) e)
    · let s₂ : SysNN τ := { s with caches := Function.update s.caches k (Caches.ofSource src)
                                   loop := .draining ready }
      obtain ⟨s', hrun, h1, h2, h3, h4⟩ := run_drain ready msgs (s := s₂) hlen' rfl hq hc hr hs
        (hrest _ rfl)
      refine ⟨s', ?_, h1, ?_, h3, h4⟩
      · simpa only [drain_cons, run, step, hl, hrecv, Option.some_bind] using hrun
      · rw [h2, drainOps_congr s s₂ rfl]
        simp only [drainOps, List.filterMap_cons, hrecv]
    · have hf : ((s.source k).recv msg now).2 = .ok (some (d, p, pkt, t)) := by rw [hrecv]
      obtain ⟨-, -, -, -, rfl⟩ := SourceNNRecv.recv_frame _ _ _ hf
      have he := enqueuePacket_ok hc (mem_keys_of_frame hr hs hf) hq pkt t
      let s₂ : SysNN τ := { s with caches := Function.update s.caches k (Caches.ofSource src)
                                   dp := (s.dp.enqueuePacket d p pkt t).1
                                   loop := .draining ready }
      obtain ⟨s', hrun, h1, h2, h3, h4⟩ := run_drain ready msgs (s := s₂) hlen' rfl
        (by rw [enqueuePacket_qlen]; exact hq) (hc.enqueuePacket d p pkt t)
        (RegistryMatches.of_ports hr (DataPlane.enqueuePacket_ports _ _ _ _ _)) hs (hrest _ rfl)
      refine ⟨s', ?_, h1, ?_, h3, h4⟩
      · rw [drain_cons, run, step, hl]
        simp only [hrecv, Option.some_bind, run, step]
        rw [show s.dp.enqueuePacket d p pkt t = ((s.dp.enqueuePacket d p pkt t).1, .ok ()) from
          Prod.ext rfl he]
        exact hrun
      · rw [h2, drainOps_congr s s₂ rfl]
        simp only [drainOps, List.filterMap_cons, hrecv, DataPlane.exec_cons]
        rfl

end SysNN

/-- **One iteration of the nn capture loop run alone is the sequential run of its
enqueues.**  From any reachable state of the nn platform at the top of `DataPlane.run`,
the snapshot, a `select` returning sources of the snapshot and the locked drain, which
reads one message from each (`recv`) and enqueues the frame `recv` returns, if any, with
no call in between and no message that `recv` rejects, leave the engine as the
sequential enqueues of those frames do, at a capacity of at least `1`; the registry and
the callers are as they were and the loop is back at its top. -/
theorem nn_iteration_alone_refines_exec {τ : Type} [LinearOrder τ] {configQlen : Option Nat}
    {s : SysNN τ} (hs : ReachableNN configQlen s) (hloop : s.loop = .top)
    (ready : List (Int × String)) (msgs : List (Packet × τ))
    (hready : ready.Nodup ∧ ready ⊆ SysNN.sources s.dp) (hlen : msgs.length = ready.length)
    (hq : 1 ≤ s.dp.qlen)
    (hok : ∀ x ∈ ready.zip msgs, ∀ e, ((s.source x.1).recv x.2.1 x.2.2).2 ≠ .error e) :
    ∃ s', s.run ([.snapshot, .select ready] ++ ActionNN.drain msgs) = some s' ∧
      s'.loop = .top ∧ s'.dp = s.dp.exec (s.drainOps (ready.zip msgs)) ∧
      s'.world = s.world ∧ s'.callers = s.callers := by
  obtain ⟨hc, hr, hsets, -, -, -⟩ := SysNN.invNN_of_reachable hs
  obtain ⟨s', hrun, h⟩ := SysNN.run_drain ready msgs (s := { s with loop := .draining ready })
    hlen rfl hq hc hr hsets hok
  refine ⟨s', ?_, h⟩
  simpa only [List.cons_append, List.nil_append, SysNN.run, SysNN.step, hloop, hready, and_self,
    if_true, Option.some_bind] using hrun

/-- The source of the interface `ipc://a` of device `0`, ready. -/
def readyA : List (Int × String) := [(0, "ipc://a")]

/-- A `PACKET_OUT` for port `1` with the frame `[7]`, read at time `3`. -/
def packetOutSeven : List (Packet × Nat) := [((PeerMsg.packetOut 1 [7]).encode, 3)]

/-- One iteration reading one `PACKET_OUT` from the source of the one port a first call
added. -/
theorem nn_iteration_alone_after_port_add :
    ∃ s : SysNN Nat, ReachableNN none s ∧ s.loop = .top ∧
      (readyA.Nodup ∧ readyA ⊆ SysNN.sources s.dp) ∧ packetOutSeven.length = readyA.length ∧
      1 ≤ s.dp.qlen ∧
      (∀ x ∈ readyA.zip packetOutSeven, ∀ e, ((s.source x.1).recv x.2.1 x.2.2).2 ≠ .error e) ∧
      ∃ s', s.run ([.snapshot, .select readyA] ++ ActionNN.drain packetOutSeven) = some s' ∧
        s'.loop = .top ∧ s'.dp = s.dp.exec (s.drainOps (readyA.zip packetOutSeven)) ∧
        s'.world = s.world ∧ s'.callers = s.callers := by
  obtain ⟨s, hs, hloop, hready, hq, hok⟩ : ∃ s : SysNN Nat, ReachableNN none s ∧ s.loop = .top ∧
      (readyA.Nodup ∧ readyA ⊆ SysNN.sources s.dp) ∧ 1 ≤ s.dp.qlen ∧
      ((s.source (0, "ipc://a")).recv (PeerMsg.packetOut 1 [7]).encode 3).2.isOk = true :=
    exists_reachableNN_of_run none [.call 0 (.portAdd "ipc://a" 0 1)] (by decide)
  have hok' : ∀ x ∈ readyA.zip packetOutSeven, ∀ e,
      ((s.source x.1).recv x.2.1 x.2.2).2 ≠ .error e := by
    intro x hx e he
    obtain rfl := List.mem_singleton.mp hx
    rw [he] at hok; cases hok
  exact ⟨s, hs, hloop, hready, rfl, hq, hok',
    nn_iteration_alone_refines_exec hs hloop _ _ hready rfl hq hok'⟩

end PtfDataplane
