/-
The rx and tx counters of the sequential engine.

`rx_counters[k]` counts the frames `run` appended to the queue of `k` (`appended`), and
`tx_counters[k]` the `send` calls on `k` whose port object's `send` returned (`sentOn`);
no other step touches them, and neither is ever reset.

* `counters_count_appends_and_sends` — along every run from construction both counters
  are these counts, and `rx_counters[k]` is at least the length of the queue of `k`;
* `RxCovers.step` — no step makes a queue longer than the rx count of its key.
-/
import PtfDataplane.Queues

namespace PtfDataplane

namespace Backlog

variable {τ : Type}

theorem length_next_le (b : Backlog τ) (e : QueueEffect τ) :
    (b.next e).arrived.length ≤ b.arrived.length + e.appends := by
  cases e <;> simp [next, QueueEffect.appends]

end Backlog

/-- An effect lengthens a queue by at most the frames it appends. -/
theorem QueueEffect.length_apply_le {τ : Type} (e : QueueEffect τ) (oq : Option (List (Packet × τ)))
    {q : List (Packet × τ)} (h : e.apply oq = some q) :
    q.length ≤ (oq.map List.length).getD 0 + e.appends := by
  cases e <;> cases oq <;> simp only [QueueEffect.apply, Option.map_some', Option.map_none',
    Option.some.injEq, reduceCtorEq] at h <;> subst h <;> simp [QueueEffect.appends]

namespace DataPlane

variable {τ : Type} [LinearOrder τ]

/-- The frames `run` appended to the queue of `k` along a run from `dp`. -/
def appendCount (k : PortId) : DataPlane τ → List (Op τ) → Nat
  | _, [] => 0
  | dp, op :: ops => (if dp.appended k op then 1 else 0) + appendCount k (dp.step op) ops

/-- The `send` calls on `k` whose port object's `send` returned, along a run from `dp`. -/
def sendCount (k : PortId) : DataPlane τ → List (Op τ) → Nat
  | _, [] => 0
  | dp, op :: ops => (if dp.sentOn k op then 1 else 0) + sendCount k (dp.step op) ops

theorem rxCounters_exec (dp : DataPlane τ) (ops : List (Op τ)) (k : PortId) :
    (dp.exec ops).rxCounters k = dp.rxCounters k + appendCount k dp ops := by
  induction ops generalizing dp with
  | nil => rfl
  | cons op ops ih => simp only [exec_cons, ih, rxCounters_step, appendCount]; omega

theorem txCounters_exec (dp : DataPlane τ) (ops : List (Op τ)) (k : PortId) :
    (dp.exec ops).txCounters k = dp.txCounters k + sendCount k dp ops := by
  induction ops generalizing dp with
  | nil => rfl
  | cons op ops ih => simp only [exec_cons, ih, txCounters_step, sendCount]; omega

/-- The backlog of `k` never holds more frames than `rx_counters[k]` has counted. -/
theorem arrived_le_rxCounters (k : PortId) (dp : DataPlane τ) (ops : List (Op τ))
    (b : Backlog τ) (h : b.arrived.length ≤ dp.rxCounters k) :
    (backlog k dp ops b).arrived.length ≤ (dp.exec ops).rxCounters k := by
  induction ops generalizing dp b with
  | nil => exact h
  | cons op ops ih =>
    apply ih
    have := b.length_next_le (dp.queueEffect k op)
    rw [rxCounters_step, ← appends_queueEffect]
    omega

/-- **Counters.**  Along every run, `rx_counters[k]` is the number of frames `run`
appended to the queue of `k` and at least that queue's length, and `tx_counters[k]` is
the number of `send` calls on `k` whose port object's `send` returned; a step changes a
counter only by such an append or such a send. -/
theorem counters_count_appends_and_sends (configQlen : Option Nat) (ops : List (Op τ))
    (k : PortId) :
    let dp := (init configQlen).exec ops
    dp.rxCounters k = appendCount k (init configQlen) ops ∧
    dp.txCounters k = sendCount k (init configQlen) ops ∧
    (∀ q, dp.queue k = some q → q.length ≤ dp.rxCounters k) ∧
    ∀ (s : DataPlane τ) (op : Op τ),
      (s.step op).rxCounters k = s.rxCounters k + (if s.appended k op then 1 else 0) ∧
      (s.step op).txCounters k = s.txCounters k + (if s.sentOn k op then 1 else 0) := by
  refine ⟨by simp [rxCounters_exec, init], by simp [txCounters_exec, init], fun q hq => ?_,
    fun s op => ⟨rxCounters_step s op k, txCounters_step s op k⟩⟩
  have hb : (⟨[], 0⟩ : Backlog τ).Holds ((init configQlen : DataPlane τ).queue k) := by
    simp [Backlog.Holds, init, queue]
  obtain ⟨h1, -⟩ := holds_backlog k (init configQlen) ops ⟨[], 0⟩ hb q hq
  have h2 := arrived_le_rxCounters k (init configQlen) ops ⟨[], 0⟩ (Nat.zero_le _)
  rw [h1]
  exact (List.length_drop _ _).le.trans (by omega)

/-! ### Every queued frame is counted, step by step -/

/-- Every queue is at most as long as the rx count of its key. -/
def RxCovers (dp : DataPlane τ) : Prop :=
  ∀ k q, dp.queue k = some q → q.length ≤ dp.rxCounters k

/-- No step of the sequential engine leaves a queue longer than its rx count. -/
theorem RxCovers.step {dp : DataPlane τ} (h : dp.RxCovers) (op : Op τ) : (dp.step op).RxCovers := by
  intro k q hq
  rw [queue_step] at hq
  have h1 := QueueEffect.length_apply_le _ _ hq
  have h2 : ((dp.queue k).map List.length).getD 0 ≤ dp.rxCounters k := by
    cases hk : dp.queue k with
    | none => exact Nat.zero_le _
    | some q₀ => exact h k q₀ hk
  rw [rxCounters_step, ← appends_queueEffect]
  omega

end DataPlane

end PtfDataplane
