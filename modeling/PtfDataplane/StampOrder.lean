/-
Timestamp order in every interleaving.

`packets(device)` yields the head of the queue whose head is stamped earliest
(`oldest_port_number`), which is the oldest frame of the device only while every queue is
sorted by timestamp.  The capture loop stamps each frame with the clock inside `recv`,
under the engine lock, and appends it; the callers only empty or drop queues, and
`flush` does so without the lock.  So as long as the clock the loop reads never goes
back, no interleaving of the callers and the loop breaks the order, with raw-socket ports
or with nanomsg sources.  A clock that goes back queues a frame behind a later stamp.

* `Action.stamps`, `ActionNN.stamps` — the clock reading of one step: the time its
  `recv` reads a frame or a message at;
* `DataPlane.StampsBefore.shrink`, `.enqueuePacket` — what one statement does to the
  order of the queues and to their bound by the readings to come;
* `Sys.Stamped`, `SysNN.Stamped` — the queues are sorted and bounded by the stamp of the
  frame the loop holds between its `recv` and its enqueue, then by the readings to come;
* `Sys.stamped_run`, `SysNN.stamped_run` — along a run whose readings never go back,
  every step keeps that bound;
* `packets_oldest_first_in_every_interleaving` — in every interleaving of either
  platform whose clock never goes back, every queue is sorted and the frame `packets`
  yields next is the oldest of its device.
-/
import PtfDataplane.Order
import PtfDataplane.Capacity

namespace PtfDataplane

namespace DataPlane

variable {τ : Type} [LinearOrder τ] {dp : DataPlane τ} {later : List τ}

theorem QueueOrdered.nil : QueueOrdered ([] : List (Packet × τ)) later :=
  ⟨List.sorted_nil, fun _ h => nomatch h⟩

/-- Every queue is sorted by timestamp and stamped no later than the clock readings
`later` still to come. -/
def StampsBefore (later : List τ) (dp : DataPlane τ) : Prop :=
  ∀ k q, dp.queue k = some q → QueueOrdered q later

theorem StampsBefore.mono (h : dp.StampsBefore later) {later' : List τ} (hl : later' ⊆ later) :
    dp.StampsBefore later' :=
  fun k q hq => (h k q hq).sublist (List.Sublist.refl _) hl

theorem stampsBefore_init (configQlen : Option Nat) (later : List τ) :
    (init configQlen : DataPlane τ).StampsBefore later :=
  fun k q hq => by simp [init, queue] at hq

/-- A step that brings no frame into a queue keeps the order. -/
theorem StampsBefore.shrink (h : dp.StampsBefore later) {dp' : DataPlane τ} (hs : Shrinks dp dp') :
    dp'.StampsBefore later := by
  intro k q' hq'
  rcases hs k q' hq' with rfl | ⟨q, hq, hsub⟩
  · exact QueueOrdered.nil
  · exact (h k q hq).sublist hsub (List.Subset.refl _)

/-- The loop's enqueue of a frame stamped `t`, with `t` no earlier than what is queued and
no later than the readings after it, keeps the order. -/
theorem StampsBefore.enqueuePacket {t : τ} (h : dp.StampsBefore (t :: later))
    (hs : (t :: later).Sorted (· ≤ ·)) (d p : Int) (pkt : Packet) :
    (dp.enqueuePacket d p pkt t).1.StampsBefore later := by
  intro k q' hq'
  rcases queue_enqueuePacket_cases hq' with hq | ⟨q, q₀, hq, hsub, rfl⟩
  · exact (h k q' hq).sublist (.refl _) (List.subset_cons_self _ _)
  · exact (h k q hq).append hs hsub

/-- What `packets(device)` relies on: every queue is sorted by timestamp, and the frame
`packets(device)` yields next is stamped no later than any frame queued for the
device. -/
def OldestFirst (dp : DataPlane τ) : Prop :=
  (∀ k q, dp.queue k = some q → (q.map Prod.snd).Sorted (· ≤ ·)) ∧
    ∀ d rcv f, (dp.packetsNext d none).2 = .ok (some (rcv, f)) →
      ∀ k q, k.1 = d → dp.queue k = some q → ∀ g ∈ q, f.2 ≤ g.2

/-- Sorted queues are all `oldest_port_number` needs: the earliest head is then the
earliest frame. -/
theorem StampsBefore.oldestFirst (h : dp.StampsBefore later) : dp.OldestFirst := by
  refine ⟨fun k q hq => (h k q hq).1, fun d rcv f hy k q hk hq g hg => ?_⟩
  obtain ⟨hold, rest, hrcv⟩ := packetsNext_none_yields _ d rcv f hy
  obtain ⟨f₀, rest₀, hq₀, hmin⟩ := oldestPortNumber_eq_some _ d rcv hold
  obtain rfl : f = f₀ := by rw [hrcv] at hq₀; exact (List.cons.inj (Option.some.inj hq₀)).1
  obtain ⟨g₀, q', rfl⟩ := List.exists_cons_of_ne_nil (List.ne_nil_of_mem hg)
  have hhead := hmin k g₀ q' hk hq
  rcases List.mem_cons.mp hg with rfl | hg
  · exact hhead
  · have hs := (h k _ hq).1
    rw [List.map_cons] at hs
    exact hhead.trans (List.rel_of_sorted_cons hs _ (List.mem_map_of_mem _ hg))

end DataPlane

variable {τ : Type}

/-- The clock reading of one step: the time `recv` reads a frame at. -/
def Action.stamps : Action τ → List τ
  | .recv _ t => [t]
  | _ => []

/-- The clock reading of one step: the time `recv` reads a message at. -/
def ActionNN.stamps : ActionNN τ → List τ
  | .recv _ now => [now]
  | _ => []

/-- The stamp of the frame the loop holds between its `recv` and its enqueue. -/
def Loop.stamps : Loop τ → List τ
  | .read _ _ t _ => [t]
  | _ => []

/-- The stamp of the frame the loop holds between its `recv` and its enqueue. -/
def LoopNN.stamps : LoopNN τ → List τ
  | .read (some (_, _, _, t)) _ => [t]
  | _ => []

variable [LinearOrder τ] {later : List τ}

/-- The queues are sorted and stamped no later than the frame the loop holds, whose stamp
and the readings `later` still to come are in order. -/
def Sys.Stamped (later : List τ) (s : Sys τ) : Prop :=
  (s.loop.stamps ++ later).Sorted (· ≤ ·) ∧ s.dp.StampsBefore (s.loop.stamps ++ later)

/-- The queues are sorted and stamped no later than the frame the loop holds, whose stamp
and the readings `later` still to come are in order. -/
def SysNN.Stamped (later : List τ) (s : SysNN τ) : Prop :=
  (s.loop.stamps ++ later).Sorted (· ≤ ·) ∧ s.dp.StampsBefore (s.loop.stamps ++ later)

namespace Sys

/-- A step that holds no frame, before or after, and leaves the queues. -/
theorem Stamped.of_loop {s s' : Sys τ} (h : s.Stamped later) (hd : s'.dp = s.dp)
    (hl : s.loop.stamps = []) (hl' : s'.loop.stamps = []) : s'.Stamped later := by
  rw [Stamped, hl] at h; rw [Stamped, hl', hd]; exact h

theorem stamped_step {s s' : Sys τ} {a : Action τ} (h : s.step a = some s')
    (hi : s.Stamped (a.stamps ++ later)) : s'.Stamped later := by
  cases a with
  | call i c =>
    obtain ⟨-, -, rfl⟩ := step_call h
    exact ⟨hi.1, hi.2.shrink (DataPlane.shrinks_begin c)⟩
  | next i =>
    obtain ⟨-, r, hr, rfl⟩ := step_next h
    exact ⟨hi.1, hi.2.shrink (DataPlane.shrinks_resume hr)⟩
  | snapshot => obtain ⟨hl, rfl⟩ := step_snapshot h; exact hi.of_loop rfl (by rw [hl]; rfl) rfl
  | select => obtain ⟨_, hl, -, -, rfl⟩ := step_select h; exact hi.of_loop rfl (by rw [hl]; rfl) rfl
  | release => obtain ⟨hl, rfl⟩ := step_release h; exact hi.of_loop rfl (by rw [hl]; rfl) rfl
  | recv pkt t =>
    obtain ⟨src, rest, hl, rfl⟩ := step_recv h
    rw [Stamped, hl] at hi
    exact hi
  | enqueue =>
    obtain ⟨src, pkt, t, rest, hl, hdp, -, hok⟩ := step_enqueue h
    rw [Stamped, hl] at hi
    have hs' : s'.loop.stamps = [] := by rcases hok with ⟨-, e⟩ | ⟨_, -, e⟩ <;> rw [e] <;> rfl
    rw [Stamped, hs', hdp]
    exact ⟨hi.1.of_cons, hi.2.enqueuePacket hi.1 _ _ pkt⟩

/-- Along a run whose clock readings never go back, every queue stays sorted and stamped
no later than the frame the loop holds and the readings to come. -/
theorem stamped_run : ∀ (acts : List (Action τ)) {s s' : Sys τ}, s.run acts = some s' →
    s.Stamped (acts.flatMap Action.stamps) → s'.Stamped []
  | [], _, _, h, hi => by cases h; exact hi
  | a :: as, s, _, h, hi => by
    simp only [run] at h
    cases ha : s.step a with
    | none => rw [ha] at h; cases h
    | some s₁ =>
      rw [ha] at h
      rw [List.flatMap_cons] at hi
      exact stamped_run as h (stamped_step ha hi)

end Sys

namespace SysNN

/-- A step that holds no frame, before or after, and leaves the queues. -/
theorem Stamped.of_loop {s s' : SysNN τ} (h : s.Stamped later) (hd : s'.dp = s.dp)
    (hl : s.loop.stamps = []) (hl' : s'.loop.stamps = []) : s'.Stamped later := by
  rw [Stamped, hl] at h; rw [Stamped, hl', hd]; exact h

/-- A `recv` that returns no frame drops its reading. -/
theorem Stamped.drop {s s' : SysNN τ} {now : τ} (h : s.Stamped (now :: later))
    (hd : s'.dp = s.dp) (hl : s.loop.stamps = []) (hl' : s'.loop.stamps = []) :
    s'.Stamped later := by
  rw [Stamped, hl] at h; rw [Stamped, hl', hd]
  exact ⟨h.1.of_cons, h.2.mono (List.subset_cons_self _ _)⟩

theorem stamped_step {s s' : SysNN τ} {a : ActionNN τ} (h : s.step a = some s')
    (hi : s.Stamped (a.stamps ++ later)) : s'.Stamped later := by
  cases a with
  | call i c =>
    obtain ⟨-, -, rfl⟩ := step_call h
    exact ⟨hi.1, hi.2.shrink (DataPlane.shrinks_begin c)⟩
  | next i =>
    obtain ⟨-, r, hr, rfl⟩ := step_next h
    exact ⟨hi.1, hi.2.shrink (DataPlane.shrinks_resume hr)⟩
  | snapshot => obtain ⟨hl, rfl⟩ := step_snapshot h; exact hi.of_loop rfl (by rw [hl]; rfl) rfl
  | select => obtain ⟨_, hl, -, -, rfl⟩ := step_select h; exact hi.of_loop rfl (by rw [hl]; rfl) rfl
  | release => obtain ⟨hl, rfl⟩ := step_release h; exact hi.of_loop rfl (by rw [hl]; rfl) rfl
  | recv msg now =>
    obtain ⟨k, rest, hl, ⟨e, -, rfl⟩ | ⟨src, t, hr, rfl⟩⟩ := step_recv h
    · exact hi.drop rfl (by rw [hl]; rfl) rfl
    rcases t with _ | ⟨d, p, pkt, t⟩
    · exact hi.drop rfl (by rw [hl]; rfl) rfl
    obtain ⟨-, -, -, -, rfl⟩ := SourceNNRecv.recv_frame _ _ _ (congrArg Prod.snd hr)
    rw [Stamped, hl] at hi
    exact hi
  | enqueue =>
    rcases step_enqueue h with ⟨rest, hl, rfl⟩ | ⟨d, p, pkt, t, rest, hl, hdp, -, -, -, hok⟩
    · exact hi.of_loop rfl (by rw [hl]; rfl) rfl
    rw [Stamped, hl] at hi
    have hs' : s'.loop.stamps = [] := by rcases hok with ⟨-, e⟩ | ⟨_, -, e⟩ <;> rw [e] <;> rfl
    rw [Stamped, hs', hdp]
    exact ⟨hi.1.of_cons, hi.2.enqueuePacket hi.1 _ _ pkt⟩

/-- Along a run whose clock readings never go back, every queue stays sorted and stamped
no later than the frame the loop holds and the readings to come. -/
theorem stamped_run : ∀ (acts : List (ActionNN τ)) {s s' : SysNN τ}, s.run acts = some s' →
    s.Stamped (acts.flatMap ActionNN.stamps) → s'.Stamped []
  | [], _, _, h, hi => by cases h; exact hi
  | a :: as, s, _, h, hi => by
    simp only [run] at h
    cases ha : s.step a with
    | none => rw [ha] at h; cases h
    | some s₁ =>
      rw [ha] at h
      rw [List.flatMap_cons] at hi
      exact stamped_run as h (stamped_step ha hi)

end SysNN

/-- **`packets` yields the oldest frame first, in every interleaving.**  With raw-socket
ports and with nanomsg sources, in every interleaving of the callers' `port_add`,
`port_remove`, `flush`, `send`, `start_pcap` and `stop_pcap` with the capture loop in
which the clock the loop reads never goes back, every queue is sorted by timestamp, and
the frame `packets(device)` yields next is stamped no later than any frame queued for the
device. -/
theorem packets_oldest_first_in_every_interleaving (configQlen : Option Nat) :
    (∀ (acts : List (Action τ)) (s : Sys τ), (Sys.init configQlen).run acts = some s →
      (acts.flatMap Action.stamps).Sorted (· ≤ ·) → s.dp.OldestFirst) ∧
    ∀ (acts : List (ActionNN τ)) (s : SysNN τ), (SysNN.init configQlen).run acts = some s →
      (acts.flatMap ActionNN.stamps).Sorted (· ≤ ·) → s.dp.OldestFirst :=
  ⟨fun acts _ h hs =>
      (Sys.stamped_run acts h ⟨hs, DataPlane.stampsBefore_init _ _⟩).2.oldestFirst,
    fun acts _ h hs =>
      (SysNN.stamped_run acts h ⟨hs, DataPlane.stampsBefore_init _ _⟩).2.oldestFirst⟩

/-- A port, a frame read at time `1`, a `flush` that has listed the key and not yet
emptied it, and a frame read at time `2`. -/
def captureAcrossFlush : List (Action Nat) :=
  [.call 0 (.portAdd "eth0" 0 1), .snapshot, .select [⟨"eth0", 0, 1, 0⟩]] ++
    Action.drain [([1], 1)] ++ [.call 1 .flush, .snapshot, .select [⟨"eth0", 0, 1, 0⟩]] ++
    Action.drain [([2], 2)]

theorem capture_across_flush_oldest_first :
    ∃ s : Sys Nat, (Sys.init none).run captureAcrossFlush = some s ∧
      (captureAcrossFlush.flatMap Action.stamps).Sorted (· ≤ ·) ∧
      s.dp.queue (0, 1) = some [([1], 1), ([2], 2)] ∧ s.dp.OldestFirst := by
  obtain ⟨s, hs, hq⟩ := Option.map_eq_some'.mp
    (by decide : ((Sys.init none).run captureAcrossFlush).map (·.dp.queue (0, 1)) =
      some (some [([1], 1), ([2], 2)]))
  have hst : (captureAcrossFlush.flatMap Action.stamps).Sorted (· ≤ ·) := by decide
  exact ⟨s, hs, hst, hq, (packets_oldest_first_in_every_interleaving none).1 _ s hs hst⟩

/-- A clock that goes back queues a frame behind a later stamp. -/
example : ((Sys.init none : Sys Nat).run
    ([.call 0 (.portAdd "eth0" 0 1), .snapshot, .select [⟨"eth0", 0, 1, 0⟩]] ++
      Action.drain [([1], 2)] ++ [.snapshot, .select [⟨"eth0", 0, 1, 0⟩]] ++
      Action.drain [([2], 1)])).map (·.dp.queue (0, 1)) =
    some (some [([1], 2), ([2], 1)]) := by decide

end PtfDataplane
