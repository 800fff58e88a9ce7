/-
Queue bounds in every interleaving.

The threads of `PtfDataplane.Threads` and `PtfDataplane.NN.Capture` make no `set_qlen`
call, so the capacity stays the constructor's (`MAX_QUEUE_LEN` unless the config gives
`qlen`).  The callers only empty or drop queues (`port_add`, `port_remove`, the
key-by-key `flush`), and the capture loop's enqueue evicts the oldest frame of a full
queue before it appends and counts the frame in `rx_counters`; so no interleaving makes a
queue longer than the capacity or than the count of its key, whether the loop reads raw
sockets or nanomsg sources.

* `Sys.preserved_of_reachable`, `SysNN.preserved_of_reachable` — a property of the engine
  that every statement of a caller and the loop's enqueue keep holds in every
  interleaving, on either platform;
* `shrinks_begin`, `shrinks_resume` — no statement of a caller brings a frame into a
  queue: each keeps, empties, creates or drops queues;
* `queues_within_capacity_in_every_interleaving` — in every interleaving, on both
  platforms, every queue fits in the capacity given to the constructor;
* `rx_counters_cover_queues_in_every_interleaving` — in every interleaving, on both
  platforms, every queue is at most as long as the rx count of its key.
-/
import PtfDataplane.Counters
import PtfDataplane.NN.Capture

namespace PtfDataplane

/-- A statement of a caller leaves the queues as they are, or empties one of them. -/
theorem Sys.resume_packetQueues {τ : Type} {dp : DataPlane τ} {c : Caller τ}
    {r : DataPlane τ × Caller τ} (hr : Sys.resume dp c = some r) :
    r.1.packetQueues = dp.packetQueues ∨ ∃ k, r.1.packetQueues = dp.packetQueues.set k [] := by
  rcases SysNN.resume_dp_cases hr with e | ⟨k, e⟩ | ⟨_, _, _, _, e⟩ | ⟨_, e⟩ | ⟨_, e⟩ <;> rw [e]
  · exact .inl rfl
  · exact .inr ⟨k, rfl⟩
  all_goals exact .inl rfl

namespace DataPlane

variable {τ : Type} {dp dp' : DataPlane τ}

/-- No frame comes into a queue between `dp` and `dp'`: every queue of `dp'` is empty or a
sublist of the queue of its key in `dp`. -/
def Shrinks (dp dp' : DataPlane τ) : Prop :=
  ∀ k q', dp'.queue k = some q' → q' = [] ∨ ∃ q, dp.queue k = some q ∧ q'.Sublist q

theorem Shrinks.of_queues (h : dp'.packetQueues = dp.packetQueues) : Shrinks dp dp' :=
  fun k q' hq' => .inr ⟨q', by simpa only [queue, h] using hq', .refl _⟩

/-- Every statement of a caller after its first leaves the queues as they are or empties
one of them. -/
theorem shrinks_resume {c : Caller τ} {r : DataPlane τ × Caller τ}
    (hr : Sys.resume dp c = some r) : Shrinks dp r.1 := by
  intro k q' hq'
  rcases Sys.resume_packetQueues hr with e | ⟨k', e⟩
  · exact Shrinks.of_queues e k q' hq'
  · simp only [queue, e, Dict.get?_set] at hq'
    split_ifs at hq'
    · cases hq'; exact .inl rfl
    · exact .inr ⟨q', hq', .refl _⟩

/-- What every interleaving keeps of the queues: the capacity is the constructor's, and
every queue fits in it. -/
structure WithinCapacity (configQlen : Option Nat) (dp : DataPlane τ) : Prop where
  qlen : dp.qlen = configQlen.getD maxQueueLen
  fits : dp.Fits

theorem Fits.shrink (h : dp.Fits) (hs : Shrinks dp dp') (hq : dp'.qlen = dp.qlen) : dp'.Fits := by
  intro k q' hq'
  rcases hs k q' hq' with rfl | ⟨q, hq₀, hsub⟩
  · exact Nat.zero_le _
  · exact hq ▸ hsub.length_le.trans (h k q hq₀)

theorem fits_resume (h : dp.Fits) {c : Caller τ} {r : DataPlane τ × Caller τ}
    (hr : Sys.resume dp c = some r) : r.1.Fits :=
  h.shrink (shrinks_resume hr) (SysNN.qlen_resume hr)

theorem WithinCapacity.resume {configQlen : Option Nat} (h : WithinCapacity configQlen dp)
    {c : Caller τ} {r : DataPlane τ × Caller τ} (hr : Sys.resume dp c = some r) :
    WithinCapacity configQlen r.1 :=
  ⟨(SysNN.qlen_resume hr).trans h.qlen, fits_resume h.fits hr⟩

theorem withinCapacity_init (configQlen : Option Nat) :
    WithinCapacity configQlen (init configQlen : DataPlane τ) :=
  ⟨rfl, fits_init configQlen⟩

variable [LinearOrder τ]

/-- A step of the engine other than an enqueue keeps, pops, empties, creates or deletes
queues. -/
theorem shrinks_step {op : Op τ} (hop : ∀ d p pkt t, op ≠ .enqueue d p pkt t) :
    Shrinks dp (dp.step op) := by
  intro k q' hq'
  rw [queue_step] at hq'
  have he := queueEffect_spec dp k op
  generalize dp.queueEffect k op = e at he hq'
  cases he with
  | keep => exact .inr ⟨q', hq', .refl _⟩
  | push | evictPush => exact absurd rfl (hop _ _ _ _)
  | pop port f q hq _ =>
    simp only [hq, QueueEffect.apply, Option.map_some', Option.some.injEq, List.tail_cons] at hq'
    exact .inr ⟨_, hq, hq' ▸ List.sublist_cons_self _ _⟩
  | clear => obtain ⟨_, _, rfl⟩ := Option.map_eq_some'.mp hq'; exact .inl rfl
  | fresh => cases hq'; exact .inl rfl
  | drop => cases hq'

/-- The first step of a call creates, drops or keeps queues; no caller appends a frame. -/
theorem shrinks_begin (c : Call τ) : Shrinks dp (Sys.begin dp c).1 := by
  cases hl : c.locked
  · rw [Sys.begin_dp_of_unlocked dp c hl]; exact Shrinks.of_queues rfl
  cases c with
  | portAdd i d p =>
    exact (shrinks_step (fun _ _ _ _ => nofun) : Shrinks dp (dp.step (.portAdd i d p)))
  | portRemove d p =>
    rw [SysNN.begin_portRemove]
    exact (shrinks_step (fun _ _ _ _ => nofun) : Shrinks dp (dp.step (.portRemove d p)))
  | _ => cases hl

/-- The loop's enqueue of `(pkt, t)` keeps a queue as it is, or appends the frame to the
queue with or without its head. -/
theorem queue_enqueuePacket_cases {d p : Int} {pkt : Packet} {t : τ} {k : PortId}
    {q' : List (Packet × τ)} (hq' : (dp.enqueuePacket d p pkt t).1.queue k = some q') :
    dp.queue k = some q' ∨
      ∃ q q₀, dp.queue k = some q ∧ q₀.Sublist q ∧ q' = q₀ ++ [(pkt, t)] := by
  obtain ⟨d', p'⟩ := k
  rw [queue_enqueue] at hq'
  have he := queueEffect_spec dp (d', p') (.enqueue d p pkt t)
  generalize dp.queueEffect (d', p') (.enqueue d p pkt t) = e at he hq'
  cases he with
  | keep => exact .inl hq'
  | push _ _ q hq _ =>
    simp only [hq, QueueEffect.apply, Option.map_some', Option.some.injEq] at hq'
    exact .inr ⟨q, q, hq, .refl _, hq'.symm⟩
  | evictPush _ _ q hq _ _ =>
    simp only [hq, QueueEffect.apply, Option.map_some', Option.some.injEq] at hq'
    exact .inr ⟨q, q.tail, hq, List.tail_sublist q, hq'.symm⟩

theorem Fits.enqueuePacket (h : dp.Fits) (d p : Int) (pkt : Packet) (t : τ) :
    (dp.enqueuePacket d p pkt t).1.Fits :=
  fits_step h (by rw [qlen_step_eq]; rfl : dp.qlen ≤ (dp.step (.enqueue d p pkt t)).qlen)

theorem fits_begin (h : dp.Fits) (c : Call τ) : (Sys.begin dp c).1.Fits :=
  h.shrink (shrinks_begin c) (SysNN.qlen_begin dp c)

theorem WithinCapacity.begin {configQlen : Option Nat} (h : WithinCapacity configQlen dp)
    (c : Call τ) : WithinCapacity configQlen (Sys.begin dp c).1 :=
  ⟨(SysNN.qlen_begin dp c).trans h.qlen, fits_begin h.fits c⟩

theorem WithinCapacity.enqueuePacket {configQlen : Option Nat}
    (h : WithinCapacity configQlen dp) (d p : Int) (pkt : Packet) (t : τ) :
    WithinCapacity configQlen (dp.enqueuePacket d p pkt t).1 :=
  ⟨(SysNN.enqueuePacket_qlen dp d p pkt t).trans h.qlen, h.fits.enqueuePacket d p pkt t⟩

end DataPlane

/-! ## Invariants of the engine in every interleaving -/

section Lift

/-! A property of the engine that the first step of every call, every later statement of
a call and the capture loop's enqueue keep holds in every interleaving, with raw-socket
ports and with nanomsg sources alike. -/

variable {τ : Type} (P : DataPlane τ → Prop)
  (henqueue : ∀ dp d p pkt t, P dp → P (dp.enqueuePacket d p pkt t).1)
  (hbegin : ∀ dp c, P dp → P (Sys.begin dp c).1)
  (hresume : ∀ dp c r, P dp → Sys.resume dp c = some r → P r.1)
include henqueue hbegin hresume

theorem Sys.preserved_of_reachable {configQlen : Option Nat} (hinit : P (.init configQlen))
    {s : Sys τ} (hs : Reachable configQlen s) : P s.dp := by
  induction hs with
  | init => exact hinit
  | step _ _ h ih =>
    rcases Sys.step_dp_cases h with e | ⟨c, e⟩ | ⟨c, r, hr, e⟩ | ⟨d, p, pkt, t, e⟩ <;> rw [e]
    · exact ih
    · exact hbegin _ c ih
    · exact hresume _ c r ih hr
    · exact henqueue _ d p pkt t ih

theorem SysNN.preserved_of_reachable {configQlen : Option Nat} (hinit : P (.init configQlen))
    {s : SysNN τ} (hs : ReachableNN configQlen s) : P s.dp := by
  induction hs with
  | init => exact hinit
  | step _ _ h ih =>
    rcases SysNN.step_dp_cases h with e | ⟨c, e⟩ | ⟨c, r, hr, e⟩ | ⟨d, p, pkt, t, -, -, e⟩ <;>
      rw [e]
    · exact ih
    · exact hbegin _ c ih
    · exact hresume _ c r ih hr
    · exact henqueue _ d p pkt t ih

end Lift

section Capacity

variable {τ : Type} [LinearOrder τ] {configQlen : Option Nat}

theorem Sys.withinCapacity_of_reachable {s : Sys τ} (hs : Reachable configQlen s) :
    s.dp.WithinCapacity configQlen :=
  Sys.preserved_of_reachable _ (fun _ d p pkt t h => h.enqueuePacket d p pkt t)
    (fun _ c h => h.begin c) (fun _ _ _ h hr => h.resume hr) (DataPlane.withinCapacity_init configQlen) hs

theorem SysNN.withinCapacity_of_reachable {s : SysNN τ} (hs : ReachableNN configQlen s) :
    s.dp.WithinCapacity configQlen :=
  SysNN.preserved_of_reachable _ (fun _ d p pkt t h => h.enqueuePacket d p pkt t)
    (fun _ c h => h.begin c) (fun _ _ _ h hr => h.resume hr) (DataPlane.withinCapacity_init configQlen) hs

end Capacity

namespace DataPlane

variable {τ : Type} {dp : DataPlane τ}

theorem RxCovers.resume (h : dp.RxCovers) {c : Caller τ} {r : DataPlane τ × Caller τ}
    (hr : Sys.resume dp c = some r) : r.1.RxCovers := by
  rcases SysNN.resume_dp_cases hr with e | ⟨k, e⟩ | ⟨_, _, _, _, e⟩ | ⟨_, e⟩ | ⟨_, e⟩ <;> rw [e]
  · exact h
  · intro k' q hq
    simp only [queue, Dict.get?_set] at hq
    split_ifs at hq
    · cases hq; exact Nat.zero_le _
    · exact h k' q hq
  all_goals exact h

variable [LinearOrder τ]

theorem RxCovers.begin (h : dp.RxCovers) (c : Call τ) : (Sys.begin dp c).1.RxCovers := by
  cases hl : c.locked
  · rw [Sys.begin_dp_of_unlocked dp c hl]; exact h
  cases c with
  | portAdd i d p => exact h.step (.portAdd i d p)
  | portRemove d p => rw [SysNN.begin_portRemove]; exact h.step (.portRemove d p)
  | _ => cases hl

end DataPlane

section Counted

variable {τ : Type} [LinearOrder τ] {configQlen : Option Nat}

theorem Sys.rxCovers_of_reachable {s : Sys τ} (hs : Reachable configQlen s) : s.dp.RxCovers :=
  Sys.preserved_of_reachable _ (fun _ d p pkt t h => h.step (.enqueue d p pkt t))
    (fun _ c h => h.begin c) (fun _ _ _ h hr => h.resume hr)
    (fun k q h => by simp [DataPlane.init, DataPlane.queue] at h) hs

theorem SysNN.rxCovers_of_reachable {s : SysNN τ} (hs : ReachableNN configQlen s) :
    s.dp.RxCovers :=
  SysNN.preserved_of_reachable _ (fun _ d p pkt t h => h.step (.enqueue d p pkt t))
    (fun _ c h => h.begin c) (fun _ _ _ h hr => h.resume hr)
    (fun k q h => by simp [DataPlane.init, DataPlane.queue] at h) hs

end Counted

/-- **Every queue stays within the capacity, in every interleaving.**  With raw-socket
ports and with nanomsg sources, whatever the callers' `port_add`, `port_remove`, `flush`,
`send`, `start_pcap` and `stop_pcap` and the capture loop's snapshot, select, each `recv`
and each enqueue interleave, and whatever the sources deliver, every queue holds at most
the capacity the constructor was given (`MAX_QUEUE_LEN` by default).  On nn, as
throughout the model, a port object's finaliser runs inside the call that drops it. -/
theorem queues_within_capacity_in_every_interleaving {τ : Type} [LinearOrder τ]
    (configQlen : Option Nat) :
    (∀ s : Sys τ, Reachable configQlen s →
      ∀ k q, s.dp.queue k = some q → q.length ≤ configQlen.getD DataPlane.maxQueueLen) ∧
    ∀ s : SysNN τ, ReachableNN configQlen s →
      ∀ k q, s.dp.queue k = some q → q.length ≤ configQlen.getD DataPlane.maxQueueLen := by
  refine ⟨fun s hs k q hq => ?_, fun s hs k q hq => ?_⟩
  · have h := Sys.withinCapacity_of_reachable hs
    exact h.qlen ▸ h.fits k q hq
  · have h := SysNN.withinCapacity_of_reachable hs
    exact h.qlen ▸ h.fits k q hq

/-- With a capacity of `1`, the second frame of a port evicts the first. -/
theorem capacity_one_keeps_newest_frame :
    ∃ s : Sys Nat, Reachable (some 1) s ∧ s.dp.queue (0, 1) = some [([2], 2)] ∧
      [([2], 2)].length ≤ (some 1).getD DataPlane.maxQueueLen := by
  obtain ⟨s, hs, hq⟩ : ∃ s : Sys Nat, Reachable (some 1) s ∧ s.dp.queue (0, 1) = some [([2], 2)] :=
    exists_reachable_of_run (some 1)
      ([.call 0 (.portAdd "eth0" 0 1), .snapshot, .select [⟨"eth0", 0, 1, 0⟩]] ++
        Action.drain [([1], 1)] ++ [.snapshot, .select [⟨"eth0", 0, 1, 0⟩]] ++
        Action.drain [([2], 2)]) (by decide)
  exact ⟨s, hs, hq, (queues_within_capacity_in_every_interleaving (some 1)).1 s hs _ _ hq⟩

/-- **Every queued frame was counted, in every interleaving.**  With raw-socket ports and
with nanomsg sources, whatever the callers and the capture loop interleave, every queue
is at most as long as `rx_counters` of its key: a frame enters a queue only by the loop's
enqueue, which counts it, and no statement resets a counter.  On nn, as throughout the
model, a port object's finaliser runs inside the call that drops it. -/
theorem rx_counters_cover_queues_in_every_interleaving {τ : Type} [LinearOrder τ]
    (configQlen : Option Nat) :
    (∀ s : Sys τ, Reachable configQlen s →
      ∀ k q, s.dp.queue k = some q → q.length ≤ s.dp.rxCounters k) ∧
    ∀ s : SysNN τ, ReachableNN configQlen s →
      ∀ k q, s.dp.queue k = some q → q.length ≤ s.dp.rxCounters k :=
  ⟨fun _ hs => Sys.rxCovers_of_reachable hs, fun _ hs => SysNN.rxCovers_of_reachable hs⟩

/-- Two frames through a queue of capacity `1`: one stays, both are counted. -/
theorem capacity_one_counts_evicted_frame :
    ∃ s : Sys Nat, Reachable (some 1) s ∧ s.dp.queue (0, 1) = some [([2], 2)] ∧
      s.dp.rxCounters (0, 1) = 2 ∧ [([2], 2)].length ≤ s.dp.rxCounters (0, 1) := by
  obtain ⟨s, hs, hq, hc⟩ : ∃ s : Sys Nat, Reachable (some 1) s ∧
      s.dp.queue (0, 1) = some [([2], 2)] ∧ s.dp.rxCounters (0, 1) = 2 :=
    exists_reachable_of_run (some 1)
      ([.call 0 (.portAdd "eth0" 0 1), .snapshot, .select [⟨"eth0", 0, 1, 0⟩]] ++
        Action.drain [([1], 1)] ++ [.snapshot, .select [⟨"eth0", 0, 1, 0⟩]] ++
        Action.drain [([2], 2)]) (by decide)
  exact ⟨s, hs, hq, hc, (rx_counters_cover_queues_in_every_interleaving (some 1)).1 s hs _ _ hq⟩

end PtfDataplane
