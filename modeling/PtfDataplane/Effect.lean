/-
What one step of the sequential engine does to one queue and to the counters.

`queueEffect dp k op` reads off the state before a step what the step does to the queue
of `k`: keep it, append a frame, evict the head and append, pop the head, empty it,
replace it by a new empty queue, or delete it.  `queue_step` says that this is exactly
what happens, and `queueEffect_spec` which steps have which effect, so the invariants
of the following files are each a case analysis on seven effects and never unfold a
step again.

* `queue_step` — the queue of `k` after a step is `(queueEffect dp k op).apply` of the
  queue before;
* `queueEffect_spec` — which steps have which effect, and under which guards
  (`EffectCase`);
* `rxCounters_step`, `txCounters_step`, `appends_queueEffect` — the counters grow only
  on a successful enqueue, which is an effect that appends, and on a send whose backend
  call returns;
* `packetsNext_cases` — one resumption of `packets` either stops with the state unchanged
  or pops and yields the head of one queue of the device.
-/
import PtfDataplane.Engine

namespace PtfDataplane

/-- What a step does to the queue of one key. -/
inductive QueueEffect (τ : Type)
  | keep
  | push (f : Packet × τ)
  | evictPush (f : Packet × τ)
  | pop
  | clear
  | fresh
  | drop

namespace QueueEffect

variable {τ : Type}

/-- The queue after the effect, from the queue before (`none`: no entry). -/
def apply : QueueEffect τ → Option (List (Packet × τ)) → Option (List (Packet × τ))
  | .keep, q => q
  | .push f, q => q.map (· ++ [f])
  | .evictPush f, q => q.map (·.tail ++ [f])
  | .pop, q => q.map List.tail
  | .clear, q => q.map fun _ => []
  | .fresh, _ => some []
  | .drop, _ => none

/-- `1` for the effects that append a frame, the ones `run` counts in `rx_counters`. -/
def appends : QueueEffect τ → Nat
  | .push _ => 1
  | .evictPush _ => 1
  | _ => 0

end QueueEffect

theorem makeRoom_eq_some {α : Type} {qlen : Nat} {q kept : List α} :
    makeRoom qlen q = some kept ↔
      (qlen ≤ q.length ∧ q ≠ [] ∧ kept = q.tail) ∨ (q.length < qlen ∧ kept = q) := by
  unfold makeRoom
  split
  · cases q <;> simp_all [eq_comm]
  · simp_all [eq_comm]

/-- With a capacity of at least `1`, `queue.pop(0)` never meets an empty queue. -/
theorem makeRoom_isSome {α : Type} {qlen : Nat} (q : List α) (h : 1 ≤ qlen) :
    (makeRoom qlen q).isSome := by
  unfold makeRoom
  split_ifs with hl
  · cases q with
    | nil => simp at hl; omega
    | cons => rfl
  · rfl

namespace DataPlane

variable {τ : Type}

@[simp] theorem pcapWrite_packetQueues (dp : DataPlane τ) (pkt : Packet) (t : τ) (d p : Int) :
    (dp.pcapWrite pkt t d p).packetQueues = dp.packetQueues := rfl

@[simp] theorem pcapWrite_ports (dp : DataPlane τ) (pkt : Packet) (t : τ) (d p : Int) :
    (dp.pcapWrite pkt t d p).ports = dp.ports := rfl

@[simp] theorem pcapWrite_rxCounters (dp : DataPlane τ) (pkt : Packet) (t : τ) (d p : Int) :
    (dp.pcapWrite pkt t d p).rxCounters = dp.rxCounters := rfl

@[simp] theorem pcapWrite_txCounters (dp : DataPlane τ) (pkt : Packet) (t : τ) (d p : Int) :
    (dp.pcapWrite pkt t d p).txCounters = dp.txCounters := rfl

@[simp] theorem pcapWrite_qlen (dp : DataPlane τ) (pkt : Packet) (t : τ) (d p : Int) :
    (dp.pcapWrite pkt t d p).qlen = dp.qlen := rfl

/-- The enqueue of the capture loop, case by case. -/
theorem enqueuePacket_eq (dp : DataPlane τ) (d p : Int) (pkt : Packet) (t : τ) :
    dp.enqueuePacket d p pkt t =
      match dp.queue (d, p) with
      | none => (dp.pcapWrite pkt t d p, .error .keyError)
      | some q =>
        match makeRoom dp.qlen q with
        | none => (dp.pcapWrite pkt t d p, .error .indexError)
        | some kept =>
          ({ dp.pcapWrite pkt t d p with
              packetQueues := dp.packetQueues.set (d, p) (kept ++ [(pkt, t)])
              rxCounters := bump dp.rxCounters (d, p) }, .ok ()) := rfl

/-- The enqueue of the capture loop raises `KeyError` on a missing queue, raises
`IndexError` when it pops from an empty full queue, or appends. -/
theorem enqueuePacket_cases (dp : DataPlane τ) (d p : Int) (pkt : Packet) (t : τ) :
    (dp.queue (d, p) = none ∧
      dp.enqueuePacket d p pkt t = (dp.pcapWrite pkt t d p, .error .keyError)) ∨
    (∃ q, dp.queue (d, p) = some q ∧ makeRoom dp.qlen q = none ∧
      dp.enqueuePacket d p pkt t = (dp.pcapWrite pkt t d p, .error .indexError)) ∨
    ∃ q kept, dp.queue (d, p) = some q ∧ makeRoom dp.qlen q = some kept ∧
      dp.enqueuePacket d p pkt t =
        ({ dp.pcapWrite pkt t d p with
            packetQueues := dp.packetQueues.set (d, p) (kept ++ [(pkt, t)])
            rxCounters := bump dp.rxCounters (d, p) }, .ok ()) := by
  rw [enqueuePacket_eq]
  rcases hq : dp.queue (d, p) with _ | q
  · exact .inl ⟨rfl, rfl⟩
  · dsimp only
    rcases hm : makeRoom dp.qlen q with _ | kept
    · exact .inr (.inl ⟨q, rfl, hm, rfl⟩)
    · exact .inr (.inr ⟨q, kept, rfl, hm, rfl⟩)

variable [LinearOrder τ]

/-- What step `op` does to the queue of `k`, read off the state before it. -/
def queueEffect (dp : DataPlane τ) (k : PortId) : Op τ → QueueEffect τ
  | .portAdd _ d p => if (d, p) = k then .fresh else .keep
  | .portRemove d p => if (d, p) = k ∧ k ∈ dp.ports.keys then .drop else .keep
  | .enqueue d p pkt t =>
    if (d, p) = k then
      match dp.queue k with
      | none => .keep
      | some q =>
        match makeRoom dp.qlen q with
        | none => .keep
        | some _ => if dp.qlen ≤ q.length then .evictPush (pkt, t) else .push (pkt, t)
    else .keep
  | .packetsNext d port =>
    match (dp.packetsNext d port).2 with
    | .ok (some (rcv, _)) => if (d, rcv) = k then .pop else .keep
    | _ => .keep
  | .flush => .clear
  | _ => .keep

/-- One resumption of `packets`: it stops with the state unchanged, or it pops the head
of the queue of `(device, rcv)` and yields it. -/
theorem packetsNext_cases (dp : DataPlane τ) (d : Int) (port : Option Int) :
    ((dp.packetsNext d port).1 = dp ∧ ∀ r, (dp.packetsNext d port).2 ≠ .ok (some r)) ∨
    ∃ rcv f rest, dp.queue (d, rcv) = some (f :: rest) ∧
      (dp.packetsNext d port).2 = .ok (some (rcv, f)) ∧
      (dp.packetsNext d port).1 = { dp with packetQueues := dp.packetQueues.set (d, rcv) rest } := by
  unfold packetsNext
  split
  · exact .inl ⟨rfl, by simp⟩
  · rename_i rcv _
    split
    · exact .inl ⟨rfl, by simp⟩
    · exact .inl ⟨rfl, by simp⟩
    · rename_i pkt time rest hq
      exact .inr ⟨rcv, (pkt, time), rest, hq, rfl, rfl⟩

theorem queue_packetsNext (dp : DataPlane τ) (d : Int) (port : Option Int) (k : PortId) :
    (dp.packetsNext d port).1.queue k =
      (dp.queueEffect k (.packetsNext d port)).apply (dp.queue k) := by
  rcases packetsNext_cases dp d port with ⟨h1, h2⟩ | ⟨rcv, f, rest, hq, h2, h1⟩
  · simp only [queueEffect, h1]
    split
    · exact absurd ‹_› (h2 _)
    · rfl
  · simp only [queueEffect, h2, h1]
    by_cases hk : (d, rcv) = k
    · subst hk; simp only [queue] at hq ⊢; simp [hq, QueueEffect.apply]
    · simp [queue, Dict.get?_set_ne _ _ (Ne.symm hk), hk, QueueEffect.apply]

theorem queue_enqueue (dp : DataPlane τ) (d p : Int) (pkt : Packet) (t : τ) (k : PortId) :
    (dp.enqueuePacket d p pkt t).1.queue k =
      (dp.queueEffect k (.enqueue d p pkt t)).apply (dp.queue k) := by
  rw [enqueuePacket_eq]
  by_cases hk : (d, p) = k
  · subst hk
    simp only [queueEffect, if_true]
    rcases hq : dp.queue (d, p) with _ | q
    · exact hq
    · dsimp only
      rcases hm : makeRoom dp.qlen q with _ | kept
      · exact hq
      · simp only [queue, Dict.get?_set_self]
        rcases makeRoom_eq_some.mp hm with ⟨h1, -, rfl⟩ | ⟨h1, rfl⟩
        · simp [QueueEffect.apply, h1]
        · simp [QueueEffect.apply, Nat.not_le.mpr h1]
  · simp only [queueEffect, hk, if_false, QueueEffect.apply]
    split
    · rfl
    · split
      · rfl
      · simp [queue, Dict.get?_set_ne _ _ (Ne.symm hk)]

/-- **The queue of `k` after a step** is the step's effect applied to it. -/
theorem queue_step (dp : DataPlane τ) (op : Op τ) (k : PortId) :
    (dp.step op).queue k = (dp.queueEffect k op).apply (dp.queue k) := by
  cases op with
  | portAdd i d p =>
    by_cases hk : (d, p) = k
    · subst hk; simp [step, portAdd, queueEffect, queue, QueueEffect.apply]
    · simp [step, portAdd, queueEffect, queue, QueueEffect.apply, hk, Dict.get?_set_ne _ _ (Ne.symm hk)]
  | portRemove d p =>
    simp only [step, portRemove, queueEffect]
    by_cases hp : (d, p) ∈ dp.ports.keys
    · by_cases hq : (d, p) ∈ dp.packetQueues.keys
      · by_cases hk : (d, p) = k
        · subst hk; simp [hp, hq, queue, QueueEffect.apply]
        · simp [hp, hq, hk, queue, QueueEffect.apply, Dict.get?_erase_ne _ (Ne.symm hk)]
      · by_cases hk : (d, p) = k
        · subst hk
          simp [hp, hq, queue, QueueEffect.apply, (Dict.get?_eq_none_iff _ _).mpr hq]
        · simp [hp, hq, hk, queue, QueueEffect.apply]
    · have : ¬((d, p) = k ∧ k ∈ dp.ports.keys) := fun ⟨h, h'⟩ => hp (h ▸ h')
      simp [hp, this, QueueEffect.apply]
  | enqueue d p pkt t => exact queue_enqueue dp d p pkt t k
  | send d p pkt now r =>
    simp only [step, send, queueEffect, QueueEffect.apply]
    split
    · rfl
    · split <;> rfl
  | packetsNext d port => exact queue_packetsNext dp d port k
  | flush =>
    simp only [step, flush, queueEffect, queue, Dict.get?_assignAll, Dict.mem_keys_iff,
      QueueEffect.apply]
    cases dp.packetQueues.get? k <;> rfl
  | setQlen q => rfl
  | getCounters d p => rfl
  | oldestPortNumber d => rfl
  | portCall m d p => rfl
  | startPcap f =>
    simp only [step, startPcap, queueEffect, QueueEffect.apply]
    split <;> rfl
  | stopPcap => rfl

/-- **Which steps have which effect.**  Every effect but `keep` comes from one kind of
step on `k`, under the guard its branch of `queueEffect` checks. -/
inductive EffectCase (dp : DataPlane τ) (k : PortId) : Op τ → QueueEffect τ → Prop
  | keep (op : Op τ) : EffectCase dp k op .keep
  | fresh (i : String) : EffectCase dp k (.portAdd i k.1 k.2) .fresh
  | drop : k ∈ dp.ports.keys → EffectCase dp k (.portRemove k.1 k.2) .drop
  | push (pkt : Packet) (t : τ) (q : List (Packet × τ)) :
      dp.queue k = some q → q.length < dp.qlen →
      EffectCase dp k (.enqueue k.1 k.2 pkt t) (.push (pkt, t))
  | evictPush (pkt : Packet) (t : τ) (q : List (Packet × τ)) :
      dp.queue k = some q → q ≠ [] → dp.qlen ≤ q.length →
      EffectCase dp k (.enqueue k.1 k.2 pkt t) (.evictPush (pkt, t))
  | pop (port : Option Int) (f : Packet × τ) (q : List (Packet × τ)) :
      dp.queue k = some (f :: q) → (dp.packetsNext k.1 port).2 = .ok (some (k.2, f)) →
      EffectCase dp k (.packetsNext k.1 port) .pop
  | clear : EffectCase dp k .flush .clear

theorem queueEffect_spec (dp : DataPlane τ) (k : PortId) (op : Op τ) :
    EffectCase dp k op (dp.queueEffect k op) := by
  cases op with
  | portAdd i d p =>
    by_cases hk : (d, p) = k
    · subst hk; simpa [queueEffect] using EffectCase.fresh i
    · simpa [queueEffect, hk] using EffectCase.keep _
  | portRemove d p =>
    by_cases hk : (d, p) = k ∧ k ∈ dp.ports.keys
    · obtain ⟨rfl, hp⟩ := hk
      simpa [queueEffect, hp] using EffectCase.drop hp
    · simpa only [queueEffect, hk, if_false] using EffectCase.keep _
  | enqueue d p pkt t =>
    by_cases hk : (d, p) = k
    · subst hk
      rcases hq : dp.queue (d, p) with _ | q
      · simpa [queueEffect, hq] using EffectCase.keep _
      · rcases hm : makeRoom dp.qlen q with _ | kept
        · simpa [queueEffect, hq, hm] using EffectCase.keep _
        · rcases makeRoom_eq_some.mp hm with ⟨hl, hne, -⟩ | ⟨hl, -⟩
          · simpa [queueEffect, hq, hm, hl] using EffectCase.evictPush pkt t q hq hne hl
          · simpa [queueEffect, hq, hm, Nat.not_le.mpr hl] using EffectCase.push pkt t q hq hl
    · simpa [queueEffect, hk] using EffectCase.keep _
  | packetsNext d port =>
    rcases packetsNext_cases dp d port with ⟨-, h2⟩ | ⟨rcv, f, rest, hq, h2, -⟩
    · simp only [queueEffect]
      split
      · exact absurd ‹_› (h2 _)
      · exact .keep _
    · by_cases hk : (d, rcv) = k
      · subst hk; simpa [queueEffect, h2] using EffectCase.pop port f rest hq h2
      · simpa [queueEffect, h2, hk] using EffectCase.keep _
  | flush => exact .clear
  | _ => exact .keep _

/-- Whether step `op` is an enqueue of the capture loop that appends a frame to the
queue of `k`: one that raises neither `KeyError` nor `IndexError`. -/
def appended (dp : DataPlane τ) (k : PortId) : Op τ → Bool
  | .enqueue d p pkt t => decide ((d, p) = k) && (dp.enqueuePacket d p pkt t).2.isOk
  | _ => false

/-- Whether step `op` is a `send` on `k` whose call of the port object's `send`
returned. -/
def sentOn (dp : DataPlane τ) (k : PortId) : Op τ → Bool
  | .send d p _ _ reply => decide ((d, p) = k) && decide (k ∈ dp.ports.keys) && reply.isSome
  | _ => false

theorem rxCounters_step (dp : DataPlane τ) (op : Op τ) (k : PortId) :
    (dp.step op).rxCounters k = dp.rxCounters k + if dp.appended k op then 1 else 0 := by
  cases op with
  | enqueue d p pkt t =>
    rcases enqueuePacket_cases dp d p pkt t with ⟨-, h⟩ | ⟨q, -, -, h⟩ | ⟨q, kept, -, -, h⟩
    · simp [step, appended, h, Except.isOk, Except.toBool]
    · simp [step, appended, h, Except.isOk, Except.toBool]
    · by_cases hk : (d, p) = k
      · subst hk; simp [step, appended, h, bump_apply, Except.isOk, Except.toBool]
      · simp [step, appended, h, bump_apply, Ne.symm hk, hk]
  | portRemove d p =>
    simp only [step, portRemove, appended, Bool.false_eq_true, if_false, Nat.add_zero]
    split_ifs <;> rfl
  | send d p pkt now r =>
    simp only [step, send, appended, Bool.false_eq_true, if_false, Nat.add_zero]
    split_ifs <;> (try cases r) <;> rfl
  | packetsNext d port =>
    rcases packetsNext_cases dp d port with ⟨h1, -⟩ | ⟨rcv, f, rest, -, -, h1⟩ <;>
      simp [step, appended, h1]
  | startPcap f =>
    simp only [step, startPcap, appended, Bool.false_eq_true, if_false, Nat.add_zero]
    split <;> rfl
  | _ => rfl

theorem txCounters_step (dp : DataPlane τ) (op : Op τ) (k : PortId) :
    (dp.step op).txCounters k = dp.txCounters k + if dp.sentOn k op then 1 else 0 := by
  cases op with
  | enqueue d p pkt t =>
    rcases enqueuePacket_cases dp d p pkt t with ⟨-, h⟩ | ⟨q, -, -, h⟩ | ⟨q, kept, -, -, h⟩ <;>
      simp [step, sentOn, h]
  | portRemove d p =>
    simp only [step, portRemove, sentOn, Bool.false_eq_true, if_false, Nat.add_zero]
    split_ifs <;> rfl
  | send d p pkt now r =>
    simp only [step, send, sentOn]
    by_cases hp : (d, p) ∈ dp.ports.keys
    · cases r with
      | none => simp [hp]
      | some b =>
        by_cases hk : (d, p) = k
        · subst hk; simp [hp, bump_apply]
        · simp [hp, hk, bump_apply, Ne.symm hk]
    · by_cases hk : (d, p) = k
      · subst hk; simp [hp]
      · simp [hp, hk]
  | packetsNext d port =>
    rcases packetsNext_cases dp d port with ⟨h1, -⟩ | ⟨rcv, f, rest, -, -, h1⟩ <;>
      simp [step, sentOn, h1]
  | startPcap f =>
    simp only [step, startPcap, sentOn, Bool.false_eq_true, if_false, Nat.add_zero]
    split <;> rfl
  | _ => rfl

/-- The effects that append are exactly the successful enqueues. -/
theorem appends_queueEffect (dp : DataPlane τ) (k : PortId) (op : Op τ) :
    (dp.queueEffect k op).appends = if dp.appended k op then 1 else 0 := by
  cases op with
  | enqueue d p pkt t =>
    by_cases hk : (d, p) = k
    · subst hk
      rcases enqueuePacket_cases dp d p pkt t with ⟨hq, h⟩ | ⟨q, hq, hm, h⟩ | ⟨q, kept, hq, hm, h⟩
      · simp [queueEffect, appended, h, hq, QueueEffect.appends, Except.isOk, Except.toBool]
      · simp [queueEffect, appended, h, hq, hm, QueueEffect.appends, Except.isOk, Except.toBool]
      · simp only [queueEffect, appended, h, hq, hm, decide_True, Except.isOk, Except.toBool,
          Bool.and_self, if_true]
        split_ifs <;> rfl
    · simp [queueEffect, appended, hk, QueueEffect.appends]
  | packetsNext d port =>
    simp only [queueEffect, appended, Bool.false_eq_true, if_false]
    split <;> (try split_ifs) <;> rfl
  | portAdd i d p | portRemove d p =>
    simp only [queueEffect, appended, Bool.false_eq_true, if_false]; split_ifs <;> rfl
  | _ => rfl

/-- The queue capacity a step leaves: only `set_qlen` changes it. -/
theorem qlen_step (dp : DataPlane τ) (op : Op τ) :
    (dp.step op).qlen = match op with
      | .setQlen q => q
      | _ => dp.qlen := by
  cases op with
  | portRemove d p => simp only [step, portRemove]; split_ifs <;> rfl
  | enqueue d p pkt t =>
    rcases enqueuePacket_cases dp d p pkt t with ⟨-, h⟩ | ⟨q, -, -, h⟩ | ⟨q, kept, -, -, h⟩ <;> simp [step, h]
  | send d p pkt now r => simp only [step, send]; split_ifs <;> (try cases r) <;> rfl
  | packetsNext d port =>
    rcases packetsNext_cases dp d port with ⟨h1, -⟩ | ⟨rcv, f, rest, -, -, h1⟩ <;> simp [step, h1]
  | startPcap f => simp only [step, startPcap]; split <;> rfl
  | _ => rfl

end DataPlane

end PtfDataplane
