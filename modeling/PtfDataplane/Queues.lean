/-
The per-port queues of the sequential engine: how frames leave them, how long they
get, and in which order frames go through them.

* `queued_frames_leave_only_by` — a step keeps the queue of `k`, appends a frame to it
  (evicting the head when the queue already holds `qlen` frames or more), pops the head
  that `packets` yields, empties it (`flush`), deletes it (`port_remove`), or replaces it
  by an empty queue (`port_add`, which does not check whether the key is registered:
  `port_add_replaces_registered_port`);
* `queue_length_within_qlen` — with every capacity at least `1`, the enqueue never pops
  an empty list, no step lengthens a queue beyond the capacity it leaves unless the queue
  was already longer, and while the capacity is never lowered every queue fits in it;
  `set_qlen` does not trim a queue (`set_qlen_leaves_queue_over_qlen`);
* `queue_is_suffix_of_appended` — the queue of `k` is the tail of the frames `run`
  appended to it since its last `port_add` or `flush`, after those that already left,
  and the next frame `packets` yields for `k` is the oldest of those still queued.

New infrastructure: `Backlog`, the frames appended to one queue and how many have left
it, carried along a run by `backlog`.
-/
import PtfDataplane.Effect
import Mathlib.Data.List.Sort

namespace PtfDataplane

namespace DataPlane

variable {τ : Type} [LinearOrder τ]

/-- **The ways a queued frame leaves a queue.** -/
theorem queued_frames_leave_only_by (dp : DataPlane τ) (op : Op τ) (k : PortId) :
    (dp.step op).queue k = dp.queue k ∨
    (∃ pkt t q, op = .enqueue k.1 k.2 pkt t ∧ dp.queue k = some q ∧
      (dp.step op).queue k = some ((if dp.qlen ≤ q.length then q.tail else q) ++ [(pkt, t)])) ∨
    (∃ port f q, op = .packetsNext k.1 port ∧ dp.queue k = some (f :: q) ∧
      (dp.packetsNext k.1 port).2 = .ok (some (k.2, f)) ∧ (dp.step op).queue k = some q) ∨
    (op = .flush ∧ (dp.step op).queue k = (dp.queue k).map fun _ => []) ∨
    (op = .portRemove k.1 k.2 ∧ (dp.step op).queue k = none) ∨
    (∃ i, op = .portAdd i k.1 k.2 ∧ (dp.step op).queue k = some []) := by
  rw [queue_step]
  have hs := queueEffect_spec dp k op
  generalize dp.queueEffect k op = e at hs
  cases hs with
  | keep => exact .inl rfl
  | push pkt t q hq hlt =>
    exact .inr (.inl ⟨pkt, t, q, rfl, hq, by simp [QueueEffect.apply, hq, Nat.not_le.mpr hlt]⟩)
  | evictPush pkt t q hq _ hle =>
    exact .inr (.inl ⟨pkt, t, q, rfl, hq, by simp [QueueEffect.apply, hq, hle]⟩)
  | pop port f q hq hy =>
    exact .inr (.inr (.inl ⟨port, f, q, rfl, hq, hy, by simp [QueueEffect.apply, hq]⟩))
  | clear => exact .inr (.inr (.inr (.inl ⟨rfl, rfl⟩)))
  | drop => exact .inr (.inr (.inr (.inr (.inl ⟨rfl, rfl⟩))))
  | fresh i => exact .inr (.inr (.inr (.inr (.inr ⟨i, rfl, rfl⟩))))

/-- `port_add` on a registered key with a queued frame builds a new port object and
drops the frame. -/
theorem port_add_replaces_registered_port :
    let dp : DataPlane Nat := (init none).exec [.portAdd "eth0" 0 1, .enqueue 0 1 [7] 5]
    dp.ports.get? (0, 1) = some ⟨"eth0", 0, 1, 0⟩ ∧ dp.queue (0, 1) = some [([7], 5)] ∧
      (dp.step (.portAdd "eth0" 0 1)).ports.get? (0, 1) = some ⟨"eth0", 0, 1, 1⟩ ∧
      (dp.step (.portAdd "eth0" 0 1)).queue (0, 1) = some [] := by
  decide

end DataPlane

/-! ### Queue length -/

/-- The capacity a `set_qlen` step sets. -/
def Op.newQlen {τ : Type} : Op τ → Option Nat
  | .setQlen q => some q
  | _ => none

namespace DataPlane

variable {τ : Type} [LinearOrder τ]

/-- The capacities a run from `init configQlen` puts in force, in order: the one of the
constructor, then each `set_qlen` argument. -/
def qlenValues (configQlen : Option Nat) (ops : List (Op τ)) : List Nat :=
  configQlen.getD maxQueueLen :: ops.filterMap Op.newQlen

/-- Every queue fits in the capacity. -/
def Fits (dp : DataPlane τ) : Prop :=
  ∀ k q, dp.queue k = some q → q.length ≤ dp.qlen

theorem qlen_step_eq (dp : DataPlane τ) (op : Op τ) :
    (dp.step op).qlen = op.newQlen.getD dp.qlen := by
  rw [qlen_step]; cases op <;> rfl

theorem qlen_exec_mem (dp : DataPlane τ) (ops : List (Op τ)) :
    (dp.exec ops).qlen ∈ dp.qlen :: ops.filterMap Op.newQlen := by
  induction ops generalizing dp with
  | nil => simp
  | cons op ops ih =>
    have h := ih (dp.step op)
    rw [exec_cons, List.filterMap_cons]
    cases hq : op.newQlen with
    | none => simpa [qlen_step_eq, hq] using h
    | some q =>
      rw [qlen_step_eq, hq] at h
      exact List.mem_cons_of_mem _ h

/-- No step makes a queue longer than both the capacity it leaves and its length before. -/
theorem length_step_le (dp : DataPlane τ) (op : Op τ) (k : PortId) (q' : List (Packet × τ))
    (h : (dp.step op).queue k = some q') :
    q'.length ≤ max (dp.step op).qlen (((dp.queue k).map List.length).getD 0) := by
  rw [queue_step] at h
  have hs := queueEffect_spec dp k op
  generalize dp.queueEffect k op = e at hs h
  cases hs with
  | keep => simp [QueueEffect.apply] at h; simp [h]
  | push pkt t q hq hlt =>
    simp only [hq, QueueEffect.apply, Option.map_some', Option.some.injEq] at h
    subst h
    simp [qlen_step_eq, Op.newQlen]; omega
  | evictPush pkt t q hq hne _ =>
    simp only [hq, QueueEffect.apply, Option.map_some', Option.some.injEq] at h
    subst h
    have : q.length ≠ 0 := by simpa using hne
    simp [hq]; omega
  | pop port f q hq _ =>
    simp only [hq, QueueEffect.apply, Option.map_some', Option.some.injEq] at h
    subst h
    simp [hq]
  | clear => simp only [QueueEffect.apply] at h; cases dp.queue k <;> simp_all
  | fresh => simp only [QueueEffect.apply, Option.some.injEq] at h; simp [← h]
  | drop => simp [QueueEffect.apply] at h

theorem fits_step {dp : DataPlane τ} {op : Op τ} (hf : dp.Fits)
    (hq : dp.qlen ≤ (dp.step op).qlen) : (dp.step op).Fits := by
  intro k q' h
  have h1 := length_step_le dp op k q' h
  have h2 : ((dp.queue k).map List.length).getD 0 ≤ dp.qlen := by
    cases hk : dp.queue k with
    | none => simp
    | some q => simpa using hf k q hk
  omega

/-- While no `set_qlen` lowers the capacity, every queue fits in it. -/
theorem fits_exec (dp : DataPlane τ) (ops : List (Op τ)) (hf : dp.Fits)
    (hs : (dp.qlen :: ops.filterMap Op.newQlen).Sorted (· ≤ ·)) : (dp.exec ops).Fits := by
  induction ops generalizing dp with
  | nil => exact hf
  | cons op ops ih =>
    rw [List.filterMap_cons] at hs
    cases hq : op.newQlen with
    | none =>
      have e : (dp.step op).qlen = dp.qlen := by simp [qlen_step_eq, hq]
      rw [hq] at hs
      exact ih _ (fits_step hf e.ge) (e ▸ hs)
    | some q =>
      have e : (dp.step op).qlen = q := by simp [qlen_step_eq, hq]
      rw [hq] at hs
      exact ih _ (fits_step hf (e ▸ List.rel_of_sorted_cons hs q (by simp))) (e ▸ hs.of_cons)

omit [LinearOrder τ] in
theorem fits_init (configQlen : Option Nat) : (init configQlen : DataPlane τ).Fits := by
  intro k q h; simp [init, queue] at h

omit [LinearOrder τ] in
/-- With a capacity of at least `1`, the enqueue never raises `IndexError`. -/
theorem enqueuePacket_ne_indexError (dp : DataPlane τ) (d p : Int) (pkt : Packet) (t : τ)
    (h : 1 ≤ dp.qlen) : (dp.enqueuePacket d p pkt t).2 ≠ .error .indexError := by
  rcases enqueuePacket_cases dp d p pkt t with ⟨-, he⟩ | ⟨q, -, hm, -⟩ | ⟨_, _, -, -, he⟩
  · simp [he]
  · exact absurd hm (Option.isSome_iff_ne_none.mp (makeRoom_isSome q h))
  · simp [he]

/-- **Queue length.**  In a run whose capacities are all at least `1`, the enqueue never
pops an empty queue; a step lengthens a queue only up to the capacity it leaves; and while
the capacity is never lowered, every queue fits in it. -/
theorem queue_length_within_qlen (configQlen : Option Nat) (ops : List (Op τ))
    (hpos : ∀ q ∈ qlenValues configQlen ops, 1 ≤ q) :
    let dp := (init configQlen).exec ops
    (∀ d p pkt t, (dp.enqueuePacket d p pkt t).2 ≠ .error .indexError) ∧
    (∀ op k q', (dp.step op).queue k = some q' →
      q'.length ≤ max (dp.step op).qlen (((dp.queue k).map List.length).getD 0)) ∧
    ((qlenValues configQlen ops).Sorted (· ≤ ·) → ∀ k q, dp.queue k = some q → q.length ≤ dp.qlen) :=
  ⟨fun d p pkt t => enqueuePacket_ne_indexError _ d p pkt t (hpos _ (qlen_exec_mem _ ops)),
    fun op k q' h => length_step_le _ op k q' h,
    fun hs => fits_exec _ ops (fits_init configQlen) hs⟩

/-- A port, three frames into a queue of capacity `2`, the third evicting the first, a
`set_qlen 3` and a fourth frame. -/
def evictingRun : List (Op Nat) :=
  [.portAdd "eth0" 0 1, .enqueue 0 1 [1] 1, .enqueue 0 1 [2] 2, .enqueue 0 1 [3] 3, .setQlen 3,
    .enqueue 0 1 [4] 4]

theorem queue_length_within_qlen_after_eviction :
    ((init (some 2) : DataPlane Nat).exec evictingRun).queue (0, 1) =
      some [([2], 2), ([3], 3), ([4], 4)] ∧
    (∀ q ∈ qlenValues (some 2) evictingRun, 1 ≤ q) ∧
    let dp := (init (some 2) : DataPlane Nat).exec evictingRun
    (∀ d p pkt t, (dp.enqueuePacket d p pkt t).2 ≠ .error .indexError) ∧
    (∀ op k q', (dp.step op).queue k = some q' →
      q'.length ≤ max (dp.step op).qlen (((dp.queue k).map List.length).getD 0)) ∧
    ((qlenValues (some 2) evictingRun).Sorted (· ≤ ·) →
      ∀ k q, dp.queue k = some q → q.length ≤ dp.qlen) :=
  ⟨by decide, by decide, queue_length_within_qlen (some 2) evictingRun (by decide)⟩

/-- `set_qlen` below a queue's length leaves the queue as it is, and the next enqueue
evicts one frame for the one it appends: the queue stays longer than the capacity. -/
theorem set_qlen_leaves_queue_over_qlen :
    let dp : DataPlane Nat := (init none).exec
      [.portAdd "eth0" 0 1, .enqueue 0 1 [1] 1, .enqueue 0 1 [2] 2, .setQlen 1, .enqueue 0 1 [3] 3]
    dp.qlen = 1 ∧ dp.queue (0, 1) = some [([2], 2), ([3], 3)] := by
  decide

end DataPlane

/-! ### Order of the frames in a queue -/

/-- The frames `run` appended to the queue of one key since its last `port_add` or
`flush` (`arrived`), and how many of them have left the queue since (`left`). -/
structure Backlog (τ : Type) where
  arrived : List (Packet × τ)
  left : Nat

namespace Backlog

variable {τ : Type}

/-- The backlog after a step with effect `e` on the queue. -/
def next (b : Backlog τ) : QueueEffect τ → Backlog τ
  | .push f => ⟨b.arrived ++ [f], b.left⟩
  | .evictPush f => ⟨b.arrived ++ [f], b.left + 1⟩
  | .pop => ⟨b.arrived, b.left + 1⟩
  | .clear => ⟨[], 0⟩
  | .fresh => ⟨[], 0⟩
  | .keep => b
  | .drop => b

/-- The queue, where there is one, is the backlog's arrivals after the first `left`. -/
def Holds (b : Backlog τ) (q : Option (List (Packet × τ))) : Prop :=
  ∀ l, q = some l → l = b.arrived.drop b.left ∧ b.left ≤ b.arrived.length

theorem left_lt_of_holds {b : Backlog τ} {f : Packet × τ} {l : List (Packet × τ)}
    (h : f :: l = b.arrived.drop b.left) : b.left < b.arrived.length := by
  by_contra hc
  rw [List.drop_eq_nil_iff.mpr (by omega)] at h
  cases h

end Backlog

namespace DataPlane

variable {τ : Type} [LinearOrder τ]

/-- The backlog of `k` along a run from `dp`. -/
def backlog (k : PortId) : DataPlane τ → List (Op τ) → Backlog τ → Backlog τ
  | _, [], b => b
  | dp, op :: ops, b => backlog k (dp.step op) ops (b.next (dp.queueEffect k op))

theorem holds_step {dp : DataPlane τ} {op : Op τ} {k : PortId} {b : Backlog τ}
    (h : b.Holds (dp.queue k)) :
    (b.next (dp.queueEffect k op)).Holds ((dp.step op).queue k) := by
  rw [queue_step]
  have hs := queueEffect_spec dp k op
  generalize dp.queueEffect k op = e at hs
  intro l hl
  cases hs with
  | keep => exact h l hl
  | push pkt t q hq _ =>
    simp only [hq, QueueEffect.apply, Option.map_some', Option.some.injEq] at hl
    obtain ⟨h1, h2⟩ := h q hq
    subst hl h1
    simp only [Backlog.next, List.length_append, List.length_singleton]
    exact ⟨(List.drop_append_of_le_length h2).symm, by omega⟩
  | evictPush pkt t q hq hne _ =>
    simp only [hq, QueueEffect.apply, Option.map_some', Option.some.injEq] at hl
    obtain ⟨h1, -⟩ := h q hq
    obtain ⟨g, q, rfl⟩ := List.exists_cons_of_ne_nil hne
    have hlt := Backlog.left_lt_of_holds h1
    subst hl
    simp only [Backlog.next, List.length_append, List.length_singleton, List.tail_cons]
    refine ⟨?_, by omega⟩
    rw [List.drop_append_of_le_length (by omega), ← List.tail_drop, ← h1, List.tail_cons]
  | pop port f q hq _ =>
    simp only [hq, QueueEffect.apply, Option.map_some', Option.some.injEq, List.tail_cons] at hl
    obtain ⟨h1, -⟩ := h _ hq
    have hlt := Backlog.left_lt_of_holds h1
    subst hl
    refine ⟨?_, by simp only [Backlog.next]; omega⟩
    simp only [Backlog.next]
    rw [← List.tail_drop, ← h1, List.tail_cons]
  | clear =>
    simp only [QueueEffect.apply, Option.map_eq_some'] at hl
    obtain ⟨_, _, rfl⟩ := hl
    simp [Backlog.next]
  | fresh =>
    simp only [QueueEffect.apply, Option.some.injEq] at hl
    subst hl
    simp [Backlog.next]
  | drop => simp [QueueEffect.apply] at hl

theorem holds_backlog (k : PortId) (dp : DataPlane τ) (ops : List (Op τ)) (b : Backlog τ)
    (h : b.Holds (dp.queue k)) : (backlog k dp ops b).Holds ((dp.exec ops).queue k) := by
  induction ops generalizing dp b with
  | nil => exact h
  | cons op ops ih => exact ih (dp.step op) _ (holds_step h)

/-- **FIFO order.**  The queue of `k` is what is left of the frames `run` appended to it
since its last `port_add` or `flush`, after the first `left` of them, which are the ones
that have left it; `packets` yields the oldest frame still queued. -/
theorem queue_is_suffix_of_appended (configQlen : Option Nat) (ops : List (Op τ))
    (k : PortId) (q : List (Packet × τ))
    (hq : ((init configQlen).exec ops).queue k = some q) :
    let b := backlog k (init configQlen) ops ⟨[], 0⟩
    q <:+ b.arrived ∧ b.arrived = b.arrived.take b.left ++ q ∧
      ∀ port f, (((init configQlen).exec ops).packetsNext k.1 port).2 = .ok (some (k.2, f)) →
        b.arrived[b.left]? = some f := by
  obtain ⟨h1, -⟩ := holds_backlog k (init configQlen) ops ⟨[], 0⟩ (by simp [Backlog.Holds, init, queue]) q hq
  refine ⟨h1 ▸ List.drop_suffix _ _, h1 ▸ (List.take_append_drop _ _).symm, fun port f hy => ?_⟩
  rcases packetsNext_cases ((init configQlen).exec ops) k.1 port with ⟨-, h2⟩ | ⟨rcv, g, rest, hq', h2, -⟩
  · exact absurd hy (h2 _)
  · rw [hy] at h2
    obtain ⟨rfl, rfl⟩ : k.2 = rcv ∧ f = g := by simpa using h2
    rw [Prod.mk.eta, hq, Option.some.injEq] at hq'
    rw [← List.head?_drop, ← h1, hq']
    rfl

/-- A port, three frames into a queue of capacity `2`, the third evicting the first,
`packets` taking the oldest, and a fourth frame. -/
def fifoRun : List (Op Nat) :=
  [.portAdd "eth0" 0 1, .enqueue 0 1 [1] 1, .enqueue 0 1 [2] 2, .enqueue 0 1 [3] 3,
    .packetsNext 0 (some 1), .enqueue 0 1 [4] 4]

theorem queue_is_suffix_of_appended_after_dequeue :
    ((init (some 2) : DataPlane Nat).exec fifoRun).queue (0, 1) = some [([3], 3), ([4], 4)] ∧
    let b := backlog (0, 1) (init (some 2)) fifoRun ⟨[], 0⟩
    [([3], 3), ([4], 4)] <:+ b.arrived ∧ b.arrived = b.arrived.take b.left ++ [([3], 3), ([4], 4)] ∧
      ∀ port f, (((init (some 2) : DataPlane Nat).exec fifoRun).packetsNext 0 port).2 =
        .ok (some (1, f)) → b.arrived[b.left]? = some f :=
  ⟨by decide, queue_is_suffix_of_appended (some 2) fifoRun (0, 1) _ (by decide)⟩

end DataPlane

end PtfDataplane
