/-
Draining `packets(device, port)`: the generator run to its end.

`packets` resumes `packetsNext` until the generator stops, collecting what it yields, as
`list(self.packets(device, port))` does under the lock.  Every yield pops one of the
frames queued for the device (`framesOf`), so `framesOf + 1` resumptions reach the end;
`packetsUpTo` takes that bound as its fuel, and the one-resumption equations below show
the bound is never reached, so no later statement mentions it.

* `packets_of_error`, `packets_of_stop`, `packets_of_yield` — the drain, one resumption
  at a time;
* `packets_port` — with a port whose queue exists, the drain yields that queue in order
  and empties it and nothing else;
* `packets_merge` — without a port, when the device's queues are sorted by timestamp,
  the drain yields every queued frame of the device once, sorted by timestamp and in
  queue order within each port, and empties the device's queues and no other;
* `packets_drain_is_stable_merge` — the two together, and the `KeyError` of a port with
  no queue.
-/
import PtfDataplane.Order
import Mathlib.Algebra.Order.BigOperators.Group.List
import Mathlib.Algebra.Order.Ring.Nat

namespace PtfDataplane

/-- Writing `v` over `old` in a dictionary's entries moves a weighted sum over them by
the two weights. -/
theorem sum_map_assign {κ ν : Type} [DecidableEq κ] (w : κ × ν → Nat) {k : κ} {old : ν} (v : ν) :
    ∀ {l : List (κ × ν)}, l.lookup k = some old →
      ((assign k v l).map w).sum + w (k, old) = (l.map w).sum + w (k, v)
  | [], h => by simp at h
  | (a, b) :: rest, h => by
    by_cases hk : a = k
    · subst hk
      obtain rfl : b = old := by simpa using h
      simp only [assign, if_true, List.map_cons, List.sum_cons]
      omega
    · rw [lookup_cons_of_ne _ _ (Ne.symm hk)] at h
      have := sum_map_assign w v h
      simp only [assign, hk, if_false, List.map_cons, List.sum_cons]
      omega

namespace DataPlane

variable {τ : Type}

/-- The number of frames an entry of `packet_queues` holds for `device`. -/
def frameWeight (device : Int) (e : PortId × List (Packet × τ)) : Nat :=
  if e.1.1 = device then e.2.length else 0

/-- The number of frames queued for `device`, over all its ports. -/
def framesOf (dp : DataPlane τ) (device : Int) : Nat :=
  (dp.packetQueues.entries.map (frameWeight device)).sum

/-- Popping the head of a queue of the device leaves one frame fewer. -/
theorem framesOf_pop (dp : DataPlane τ) {d p : Int} {f : Packet × τ}
    {rest : List (Packet × τ)} (hq : dp.queue (d, p) = some (f :: rest)) :
    ({ dp with packetQueues := dp.packetQueues.set (d, p) rest } : DataPlane τ).framesOf d + 1 =
      dp.framesOf d := by
  have := sum_map_assign (frameWeight d) rest hq
  simp only [frameWeight, if_true, List.length_cons] at this
  simp only [framesOf, Dict.set]
  omega

/-- No frame is queued for the device exactly when each of its queues is empty. -/
theorem framesOf_eq_zero (dp : DataPlane τ) (d : Int) :
    dp.framesOf d = 0 ↔ ∀ k q, k.1 = d → dp.queue k = some q → q = [] := by
  simp only [framesOf, List.sum_eq_zero_iff, List.mem_map, queue, Dict.get?_eq_some_iff_mem]
  constructor
  · intro h k q hk hq
    have := h _ ⟨(k, q), hq, rfl⟩
    simpa [frameWeight, hk] using this
  · rintro h _ ⟨⟨k, q⟩, hq, rfl⟩
    by_cases hk : k.1 = d
    · simp [frameWeight, hk, h k q hk hq]
    · simp [frameWeight, hk]

variable [LinearOrder τ]

/-- `list(self.packets(device, port))` with at most `fuel` resumptions of the generator. -/
def packetsUpTo : Nat → DataPlane τ → Int → Option Int →
    DataPlane τ × Except PyError (List (Int × Packet × τ))
  | 0, dp, _, _ => (dp, .ok [])
  | fuel + 1, dp, device, port =>
    match dp.packetsNext device port with
    | (dp, .error err) => (dp, .error err)
    | (dp, .ok none) => (dp, .ok [])
    | (dp, .ok (some y)) =>
      let rest := packetsUpTo fuel dp device port
      (rest.1, rest.2.map (y :: ·))

/-- `list(self.packets(device, port))`: the generator run to its end, with the state it
leaves and what it yields, or the exception it raises. -/
def packets (dp : DataPlane τ) (device : Int) (port : Option Int) :
    DataPlane τ × Except PyError (List (Int × Packet × τ)) :=
  packetsUpTo (dp.framesOf device + 1) dp device port

/-- A yield pops one frame of the device. -/
theorem framesOf_packetsNext {dp dp' : DataPlane τ} {d : Int} {port : Option Int}
    {y : Int × Packet × τ} (h : dp.packetsNext d port = (dp', .ok (some y))) :
    dp'.framesOf d + 1 = dp.framesOf d := by
  rcases packetsNext_cases dp d port with ⟨-, hne⟩ | ⟨rcv, f, rest, hq, -, h1⟩
  · exact absurd (congrArg Prod.snd h) (hne y)
  · rw [h] at h1
    have h1' : dp' = _ := h1
    rw [h1']
    exact framesOf_pop dp hq

theorem packets_of_error {dp dp' : DataPlane τ} {d : Int} {port : Option Int} {err : PyError}
    (h : dp.packetsNext d port = (dp', .error err)) : dp.packets d port = (dp', .error err) := by
  simp only [packets, packetsUpTo, h]

theorem packets_of_stop {dp dp' : DataPlane τ} {d : Int} {port : Option Int}
    (h : dp.packetsNext d port = (dp', .ok none)) : dp.packets d port = (dp', .ok []) := by
  simp only [packets, packetsUpTo, h]

theorem packets_of_yield {dp dp' : DataPlane τ} {d : Int} {port : Option Int}
    {y : Int × Packet × τ} (h : dp.packetsNext d port = (dp', .ok (some y))) :
    dp.packets d port = ((dp'.packets d port).1, (dp'.packets d port).2.map (y :: ·)) := by
  simp only [packets, packetsUpTo, h, ← framesOf_packetsNext h]

/-- A drain that runs to the end after a yield is that yield, then the drain of the
rest. -/
theorem packets_ok_of_yield {dp dp₁ dpEnd : DataPlane τ} {d : Int} {port : Option Int}
    {y : Int × Packet × τ} {ys : List (Int × Packet × τ)}
    (hn : dp.packetsNext d port = (dp₁, .ok (some y)))
    (h : dp.packets d port = (dpEnd, .ok ys)) :
    ∃ ys₁, ys = y :: ys₁ ∧ dp₁.packets d port = (dpEnd, .ok ys₁) := by
  rw [packets_of_yield hn] at h
  rcases hp : dp₁.packets d port with ⟨dpEnd₁, err | ys₁⟩ <;>
    simp only [hp, Except.map, Prod.mk.injEq, reduceCtorEq, and_false, Except.ok.injEq] at h
  obtain ⟨rfl, rfl⟩ := h
  exact ⟨ys₁, rfl, rfl⟩

/-- One resumption of `packets(device, port)` with a port. -/
theorem packetsNext_some (dp : DataPlane τ) (d p : Int) :
    dp.packetsNext d (some p) =
      match dp.queue (d, p) with
      | none => (dp, .error .keyError)
      | some [] => (dp, .ok none)
      | some ((pkt, time) :: rest) =>
        ({ dp with packetQueues := dp.packetQueues.set (d, p) rest }, .ok (some (p, pkt, time))) :=
  rfl

/-- One resumption of `packets(device)` without a port. -/
theorem packetsNext_none (dp : DataPlane τ) (d : Int) :
    dp.packetsNext d none =
      match dp.oldestPortNumber d with
      | none => (dp, .ok none)
      | some r =>
        match dp.queue (d, r) with
        | none => (dp, .error .keyError)
        | some [] => (dp, .ok none)
        | some ((pkt, time) :: rest) =>
          ({ dp with packetQueues := dp.packetQueues.set (d, r) rest },
            .ok (some (r, pkt, time))) :=
  rfl

/-- The only exception a resumption of `packets` raises is the `KeyError` of a port given
without a queue: the port `oldest_port_number` picks always has one. -/
theorem packetsNext_error_iff (dp : DataPlane τ) (d : Int) (port : Option Int) (e : PyError) :
    (dp.packetsNext d port).2 = .error e ↔
      e = .keyError ∧ ∃ p, port = some p ∧ dp.queue (d, p) = none := by
  cases port with
  | some p =>
    rw [packetsNext_some]
    rcases hq : dp.queue (d, p) with _ | _ | ⟨⟨pkt, t⟩, rest⟩ <;> simp [hq, eq_comm]
  | none =>
    rw [packetsNext_none]
    rcases ho : dp.oldestPortNumber d with _ | r
    · simp
    · obtain ⟨⟨pkt, t⟩, rest, hq, -⟩ := oldestPortNumber_eq_some dp d r ho
      simp [hq]

/-- A resumption of `packets` keeps the set of keys that have a queue. -/
theorem packetsNext_queue_isSome (dp : DataPlane τ) (d : Int) (port : Option Int) (k : PortId) :
    ((dp.packetsNext d port).1.queue k).isSome = (dp.queue k).isSome := by
  rcases packetsNext_cases dp d port with ⟨h1, -⟩ | ⟨rcv, f, rest, hq, -, h1⟩ <;> rw [h1]
  simp only [queue, Dict.get?_set]
  split_ifs with hk
  · rw [hk]; simp only [queue] at hq; simp [hq]
  · rfl

/-- With a port whose key has no queue, `packets` raises `KeyError` at once. -/
theorem packets_keyError (dp : DataPlane τ) (d p : Int) (hq : dp.queue (d, p) = none) :
    dp.packets d (some p) = (dp, .error .keyError) :=
  packets_of_error (by rw [packetsNext_some, hq])

/-- With a port, `packets` yields the port's queue in order, leaves it empty, and leaves
every other queue as it was; one more resumption stops it. -/
theorem packets_port (dp : DataPlane τ) (d p : Int) (q : List (Packet × τ))
    (hq : dp.queue (d, p) = some q) :
    ∃ dp', dp.packets d (some p) = (dp', .ok (q.map fun f => (p, f))) ∧
      (∀ k, dp'.queue k = if k = (d, p) then some [] else dp.queue k) ∧
      dp'.packetsNext d (some p) = (dp', .ok none) := by
  induction q generalizing dp with
  | nil =>
    have hstop : dp.packetsNext d (some p) = (dp, .ok none) := by rw [packetsNext_some, hq]
    refine ⟨dp, packets_of_stop hstop, fun k => ?_, hstop⟩
    split_ifs with hk
    · rw [hk, hq]
    · rfl
  | cons f rest ih =>
    have hy : dp.packetsNext d (some p) =
        ({ dp with packetQueues := dp.packetQueues.set (d, p) rest }, .ok (some (p, f))) := by
      rw [packetsNext_some, hq]
    obtain ⟨dp', hrun, hqueue, hstop⟩ :=
      ih { dp with packetQueues := dp.packetQueues.set (d, p) rest } (by simp [queue])
    refine ⟨dp', by rw [packets_of_yield hy, hrun]; rfl, fun k => ?_, hstop⟩
    rw [hqueue k]
    split_ifs with hk
    · rfl
    · simp [queue, Dict.get?_set_ne _ _ hk]

/-- In a queue sorted by timestamp, the head is stamped no later than any frame. -/
theorem head_le_of_sorted {g : Packet × τ} {q : List (Packet × τ)}
    (hs : ((g :: q).map Prod.snd).Sorted (· ≤ ·)) {x : Packet × τ} (hx : x ∈ g :: q) :
    g.2 ≤ x.2 := by
  rcases List.mem_cons.mp hx with rfl | hx
  · exact le_rfl
  · exact List.rel_of_sorted_cons hs _ (List.mem_map_of_mem _ hx)

/-- When the device's queues are sorted, the frame `oldest_port_number` points at is
stamped no later than any frame queued for the device. -/
theorem oldest_le_queued (dp : DataPlane τ) {d r : Int} {f : Packet × τ}
    {rest : List (Packet × τ)}
    (hsorted : ∀ k q, k.1 = d → dp.queue k = some q → (q.map Prod.snd).Sorted (· ≤ ·))
    (hr : dp.oldestPortNumber d = some r) (hq : dp.queue (d, r) = some (f :: rest)) :
    ∀ k q, k.1 = d → dp.queue k = some q → ∀ x ∈ q, f.2 ≤ x.2 := by
  obtain ⟨f₀, rest₀, hq₀, hmin⟩ := oldestPortNumber_eq_some dp d r hr
  obtain ⟨rfl, -⟩ : f = f₀ ∧ rest = rest₀ := by simpa [hq] using hq₀
  intro k q hk hkq x hx
  obtain ⟨g, q', rfl⟩ := List.exists_cons_of_ne_nil (List.ne_nil_of_mem hx)
  exact (hmin k g q' hk hkq).trans (head_le_of_sorted (hsorted k _ hk hkq) hx)

/-- What the drain without a port yields and leaves, given that it runs to the end. -/
structure MergeSpec (dp dp' : DataPlane τ) (d : Int) (ys : List (Int × Packet × τ)) : Prop where
  length : ys.length = dp.framesOf d
  perPort : ∀ p, (ys.filter (·.1 = p)).map Prod.snd = (dp.queue (d, p)).getD []
  sorted : (ys.map fun y => y.2.2).Sorted (· ≤ ·)
  emptied : ∀ k, dp'.queue k = if k.1 = d then (dp.queue k).map fun _ => [] else dp.queue k
  stopped : dp'.packetsNext d none = (dp', .ok none)

/-- A frame the drain yields comes from the queue of its own port. -/
theorem MergeSpec.mem {dp dp' : DataPlane τ} {d : Int} {ys : List (Int × Packet × τ)}
    (h : MergeSpec dp dp' d ys) {y : Int × Packet × τ} (hy : y ∈ ys) :
    ∃ q, dp.queue (d, y.1) = some q ∧ y.2 ∈ q := by
  have hmem : y.2 ∈ (ys.filter (·.1 = y.1)).map Prod.snd :=
    List.mem_map_of_mem _ (List.mem_filter.mpr ⟨hy, by simp⟩)
  rw [h.perPort] at hmem
  cases hq : dp.queue (d, y.1) with
  | none => simp [hq] at hmem
  | some q => exact ⟨q, rfl, by simpa [hq] using hmem⟩

/-- The drain without a port when every queue of the device is empty. -/
theorem mergeSpec_of_empty (dp : DataPlane τ) (d : Int) (hr : dp.oldestPortNumber d = none) :
    dp.packets d none = (dp, .ok []) ∧ MergeSpec dp dp d [] := by
  have hempty := oldestPortNumber_eq_none dp d hr
  have hstop : dp.packetsNext d none = (dp, .ok none) := by rw [packetsNext_none, hr]
  refine ⟨packets_of_stop hstop, ⟨((framesOf_eq_zero dp d).mpr hempty).symm, fun p => ?_,
    List.sorted_nil, fun k => ?_, hstop⟩⟩
  · cases hq : dp.queue (d, p) with
    | none => rfl
    | some q => simp [hempty _ q rfl hq]
  · split_ifs with hk
    · cases hq : dp.queue k with
      | none => rfl
      | some q => simp [hempty k q hk hq]
    · rfl

/-- One yield of the drain without a port: the oldest head, then the drain of the rest. -/
theorem mergeSpec_cons {dp dp₁ dp' : DataPlane τ} {d r : Int} {f : Packet × τ}
    {rest : List (Packet × τ)} {ys : List (Int × Packet × τ)}
    (hsorted : ∀ k q, k.1 = d → dp.queue k = some q → (q.map Prod.snd).Sorted (· ≤ ·))
    (hr : dp.oldestPortNumber d = some r) (hq : dp.queue (d, r) = some (f :: rest))
    (hdp₁ : dp₁ = { dp with packetQueues := dp.packetQueues.set (d, r) rest })
    (h : MergeSpec dp₁ dp' d ys) : MergeSpec dp dp' d ((r, f) :: ys) := by
  have hq₁ : ∀ k, dp₁.queue k = if k = (d, r) then some rest else dp.queue k := by
    intro k; subst hdp₁; simp only [queue, Dict.get?_set]
  have hframes : dp₁.framesOf d + 1 = dp.framesOf d := hdp₁ ▸ framesOf_pop dp hq
  have hle := oldest_le_queued dp hsorted hr hq
  refine ⟨by simp [h.length, ← hframes], fun p => ?_, ?_, fun k => ?_, h.stopped⟩
  · have := h.perPort p
    rw [hq₁] at this
    by_cases hp : r = p
    · subst hp; simp [List.filter_cons, this, hq]
    · simpa [List.filter_cons, hp, Ne.symm hp] using this
  · refine List.sorted_cons.mpr ⟨fun t ht => ?_, h.sorted⟩
    obtain ⟨y, hy, rfl⟩ := List.mem_map.mp ht
    obtain ⟨q, hyq, hmem⟩ := h.mem hy
    rw [hq₁] at hyq
    split_ifs at hyq with hk
    · cases hyq
      exact hle _ _ rfl hq _ (List.mem_cons_of_mem _ hmem)
    · exact hle _ _ rfl hyq _ hmem
  · rw [h.emptied k, hq₁ k]
    by_cases hk : k = (d, r)
    · subst hk; simp [hq]
    · simp [hk]

/-- Without a port, on sorted queues, the drain runs to the end and is the stable merge
of the device's queues by timestamp. -/
theorem packets_merge (d : Int) :
    ∀ (n : Nat) (dp : DataPlane τ), dp.framesOf d = n →
      (∀ k q, k.1 = d → dp.queue k = some q → (q.map Prod.snd).Sorted (· ≤ ·)) →
      ∃ dp' ys, dp.packets d none = (dp', .ok ys) ∧ MergeSpec dp dp' d ys := by
  intro n
  induction n with
  | zero =>
    intro dp hn _
    have hempty := (framesOf_eq_zero dp d).mp hn
    exact ⟨dp, [], mergeSpec_of_empty dp d (oldestPortNumber_eq_none_of_empty dp d hempty)⟩
  | succ n ih =>
    intro dp hn hsorted
    cases hr : dp.oldestPortNumber d with
    | none => exact ⟨dp, [], mergeSpec_of_empty dp d hr⟩
    | some r =>
      obtain ⟨f, rest, hq, -⟩ := oldestPortNumber_eq_some dp d r hr
      set dp₁ : DataPlane τ := { dp with packetQueues := dp.packetQueues.set (d, r) rest }
        with hdp₁
      have hy : dp.packetsNext d none = (dp₁, .ok (some (r, f))) := by
        rw [packetsNext_none, hr]; simp only [hq]
      have hsorted₁ : ∀ k q, k.1 = d → dp₁.queue k = some q →
          (q.map Prod.snd).Sorted (· ≤ ·) := by
        intro k q hk hkq
        simp only [dp₁, queue, Dict.get?_set] at hkq
        split_ifs at hkq with hkr
        · cases hkq
          exact (hsorted _ _ rfl hq).sublist ((List.sublist_cons_self _ _).map _)
        · exact hsorted k q hk hkq
      have hframes : dp₁.framesOf d + 1 = dp.framesOf d := framesOf_pop dp hq
      obtain ⟨dp', ys, hrun, hspec⟩ := ih dp₁ (by omega) hsorted₁
      refine ⟨dp', (r, f) :: ys, ?_, mergeSpec_cons hsorted hr hq hdp₁ hspec⟩
      rw [packets_of_yield hy, hrun]
      rfl

/-- **Draining `packets`.**  Without a port, when each queue of the device is sorted by
timestamp, the drain yields as many frames as the device has queued; filtered to any
port, what it yields is that port's queue in order; it yields them in nondecreasing
timestamp order; afterwards the device's queues are empty and every other queue is as
it was, and the generator stops.  With a port whose key has a queue, it yields that
queue in order and empties it alone; with a port whose key has none, it raises
`KeyError` and changes nothing. -/
theorem packets_drain_is_stable_merge (dp : DataPlane τ) (d : Int)
    (hsorted : ∀ k q, k.1 = d → dp.queue k = some q → (q.map Prod.snd).Sorted (· ≤ ·)) :
    (∃ dp' ys, dp.packets d none = (dp', .ok ys) ∧
      ys.length = dp.framesOf d ∧
      (∀ p, (ys.filter (·.1 = p)).map Prod.snd = (dp.queue (d, p)).getD []) ∧
      (ys.map fun y => y.2.2).Sorted (· ≤ ·) ∧
      (∀ k, dp'.queue k = if k.1 = d then (dp.queue k).map fun _ => [] else dp.queue k) ∧
      dp'.packetsNext d none = (dp', .ok none)) ∧
    (∀ p q, dp.queue (d, p) = some q →
      ∃ dp', dp.packets d (some p) = (dp', .ok (q.map fun f => (p, f))) ∧
        (∀ k, dp'.queue k = if k = (d, p) then some [] else dp.queue k) ∧
        dp'.packetsNext d (some p) = (dp', .ok none)) ∧
    (∀ p, dp.queue (d, p) = none → dp.packets d (some p) = (dp, .error .keyError)) := by
  obtain ⟨dp', ys, hrun, h⟩ := packets_merge d _ dp rfl hsorted
  exact ⟨⟨dp', ys, hrun, h.length, h.perPort, h.sorted, h.emptied, h.stopped⟩,
    packets_port dp d, packets_keyError dp d⟩

theorem packets_drain_two_ports :
    let dp := (init none : DataPlane Nat).exec [.portAdd "a" 0 1, .portAdd "b" 0 2,
      .enqueue 0 1 [1] 10, .enqueue 0 2 [2] 5, .enqueue 0 1 [3] 12]
    (∀ k q, k.1 = 0 → dp.queue k = some q → (q.map Prod.snd).Sorted (· ≤ ·)) ∧
    (∃ dp' ys, dp.packets 0 none = (dp', .ok ys) ∧
      ys.length = dp.framesOf 0 ∧
      (∀ p, (ys.filter (·.1 = p)).map Prod.snd = (dp.queue (0, p)).getD []) ∧
      (ys.map fun y => y.2.2).Sorted (· ≤ ·) ∧
      (∀ k, dp'.queue k = if k.1 = 0 then (dp.queue k).map fun _ => [] else dp.queue k) ∧
      dp'.packetsNext 0 none = (dp', .ok none)) ∧
    (∀ p q, dp.queue (0, p) = some q →
      ∃ dp', dp.packets 0 (some p) = (dp', .ok (q.map fun f => (p, f))) ∧
        (∀ k, dp'.queue k = if k = (0, p) then some [] else dp.queue k) ∧
        dp'.packetsNext 0 (some p) = (dp', .ok none)) ∧
    (∀ p, dp.queue (0, p) = none → dp.packets 0 (some p) = (dp, .error .keyError)) := by
  intro dp
  have hentries : dp.packetQueues.entries =
      [((0, 1), [([1], 10), ([3], 12)]), ((0, 2), [([2], 5)])] := rfl
  have hs : ∀ k q, k.1 = 0 → dp.queue k = some q → (q.map Prod.snd).Sorted (· ≤ ·) := by
    intro k q _ hq
    rw [queue, Dict.get?_eq_some_iff_mem, hentries] at hq
    simp only [List.mem_cons, Prod.mk.injEq, List.mem_singleton, List.not_mem_nil, or_false] at hq
    rcases hq with ⟨-, rfl⟩ | ⟨-, rfl⟩ <;> decide
  exact ⟨hs, packets_drain_is_stable_merge dp 0 hs⟩

/-- Two ports of one device: the later-enqueued but earlier-stamped frame comes first. -/
example : (((init none : DataPlane Nat).exec [.portAdd "a" 0 1, .portAdd "b" 0 2,
    .enqueue 0 1 [1] 10, .enqueue 0 2 [2] 5, .enqueue 0 1 [3] 12]).packets 0 none).2 =
      .ok [(2, [2], 5), (1, [1], 10), (1, [3], 12)] := rfl

end DataPlane

end PtfDataplane
