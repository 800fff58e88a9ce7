/-
Timestamp order: `oldest_port_number` and the multi-port drain.

`oldest_port_number(device)` walks `packet_queues.items()` once, keeping the port whose
queue head has the smallest timestamp seen so far (`OldestSoFar` is the loop's
invariant).  When every queue holds its frames in nondecreasing timestamp order, the
head it finds is no later than any frame queued for the device.

* `oldestPortNumber_eq_none`, `oldestPortNumber_eq_some` — what the loop returns;
* `oldest_port_is_first_earliest_head` — `None` exactly when the device's queues are all
  empty, and otherwise the first key, in `packet_queues` order, whose head is earliest
  (`FirstSoFar` is the second loop invariant: `<` keeps the earlier key on a tie);
* `queues_sorted_and_oldest_first` — in every run where the frames of each port arrive
  with nondecreasing timestamps, every queue stays sorted by timestamp, and `packets(d)`
  without a port yields a frame stamped no later than any frame queued for `d`.
-/
import PtfDataplane.Effect
import Mathlib.Data.List.Sort

namespace PtfDataplane

namespace DataPlane

variable {τ : Type} [LinearOrder τ]

/-- What the loop of `oldest_port_number` knows after the entries `seen`: either no
queue of the device among them holds a frame, or `(min_port_number, min_time)` names one
whose head is stamped `min_time`, no later than the head of any of them. -/
def OldestSoFar (device : Int) (seen : List (PortId × List (Packet × τ))) :
    Option Int × Option τ → Prop
  | (none, none) => ∀ e ∈ seen, e.1.1 = device → e.2 = []
  | (some p, some m) => (∃ f rest, ((device, p), f :: rest) ∈ seen ∧ f.2 = m) ∧
      ∀ e ∈ seen, e.1.1 = device → ∀ g ∈ e.2.head?, m ≤ g.2
  | _ => False

/-- An entry of another device, or with an empty queue, changes nothing the loop knows. -/
theorem oldestSoFar_append_idle {device : Int} {seen : List (PortId × List (Packet × τ))}
    {acc : Option Int × Option τ} {e : PortId × List (Packet × τ)}
    (h : OldestSoFar device seen acc) (he : e.1.1 = device → e.2 = []) :
    OldestSoFar device (seen ++ [e]) acc := by
  rcases acc with ⟨_ | a, _ | m⟩ <;> simp only [OldestSoFar] at h ⊢
  · rintro e' h' hd
    rcases List.mem_append.mp h' with h' | h'
    · exact h e' h' hd
    · rw [List.mem_singleton.mp h'] at hd ⊢; exact he hd
  · obtain ⟨⟨f, rest, hmem, hm⟩, hmin⟩ := h
    refine ⟨⟨f, rest, List.mem_append_left _ hmem, hm⟩, fun e' h' hd g hg => ?_⟩
    rcases List.mem_append.mp h' with h' | h'
    · exact hmin e' h' hd g hg
    · rw [List.mem_singleton.mp h'] at hd hg; simp [he hd] at hg

theorem oldestSoFar_step {device : Int} {seen : List (PortId × List (Packet × τ))}
    {acc : Option Int × Option τ} (e : PortId × List (Packet × τ))
    (h : OldestSoFar device seen acc) :
    OldestSoFar device (seen ++ [e]) (oldestStep device acc e) := by
  obtain ⟨⟨d, p⟩, q⟩ := e
  by_cases hrel : d = device ∧ q ≠ []
  · obtain ⟨rfl, hq⟩ := hrel
    obtain ⟨f, rest, rfl⟩ := List.exists_cons_of_ne_nil hq
    have hstep : oldestStep d acc ((d, p), f :: rest) =
        if belowMin f.2 acc.2 then (some p, some f.2) else acc := by
      simp [oldestStep]
    have hnew : ∀ m, (∀ e ∈ seen, e.1.1 = d → ∀ g ∈ e.2.head?, m ≤ g.2) → f.2 ≤ m →
        OldestSoFar d (seen ++ [((d, p), f :: rest)]) (some p, some f.2) := by
      intro m hmin hle
      refine ⟨⟨f, rest, by simp, rfl⟩, fun e he hd g hg => ?_⟩
      rcases List.mem_append.mp he with he | he
      · exact hle.trans (hmin e he hd g hg)
      · rw [List.mem_singleton.mp he] at hg; simp at hg; rw [hg]
    rw [hstep]
    rcases acc with ⟨_ | a, _ | m⟩ <;> simp only [OldestSoFar] at h
    · simp only [belowMin, if_true]
      exact hnew f.2 (fun e he hd g hg => by simp [h e he hd] at hg) le_rfl
    · obtain ⟨⟨f0, r0, hmem, hm⟩, hmin⟩ := h
      simp only [belowMin, decide_eq_true_eq]
      split_ifs with hlt
      · exact hnew m hmin hlt.le
      · refine ⟨⟨f0, r0, List.mem_append_left _ hmem, hm⟩, fun e he hd g hg => ?_⟩
        rcases List.mem_append.mp he with he | he
        · exact hmin e he hd g hg
        · rw [List.mem_singleton.mp he] at hg; simp at hg; subst hg; exact not_lt.mp hlt
  · have hidle : d = device → q = [] := fun hd => by
      by_contra hne; exact hrel ⟨hd, hne⟩
    have hkeep : oldestStep device acc ((d, p), q) = acc := by
      by_cases hd : d = device
      · rw [hidle hd]; simp [oldestStep]
      · simp [oldestStep, hd]
    rw [hkeep]
    exact oldestSoFar_append_idle h hidle

theorem oldestSoFar_foldl (device : Int) (l : List (PortId × List (Packet × τ))) :
    ∀ (seen : List (PortId × List (Packet × τ))) (acc : Option Int × Option τ),
      OldestSoFar device seen acc →
        OldestSoFar device (seen ++ l) (l.foldl (oldestStep device) acc) := by
  induction l with
  | nil => simp
  | cons e l ih =>
    intro seen acc h
    simpa using ih (seen ++ [e]) _ (oldestSoFar_step e h)

theorem oldestSoFar_entries (dp : DataPlane τ) (device : Int) :
    OldestSoFar device dp.packetQueues.entries
      (dp.packetQueues.entries.foldl (oldestStep device) (none, none)) := by
  simpa using oldestSoFar_foldl device dp.packetQueues.entries [] (none, none) (by simp [OldestSoFar])

/-- `oldest_port_number` returns `None` only when every queue of the device is empty. -/
theorem oldestPortNumber_eq_none (dp : DataPlane τ) (device : Int)
    (h : dp.oldestPortNumber device = none) :
    ∀ k q, k.1 = device → dp.queue k = some q → q = [] := by
  intro k q hk hq
  have hi := oldestSoFar_entries dp device
  unfold oldestPortNumber at h
  rcases hr : dp.packetQueues.entries.foldl (oldestStep device) (none, none) with
    ⟨_ | a, _ | m⟩ <;> rw [hr] at h hi
  · exact hi (k, q) ((Dict.get?_eq_some_iff_mem _ _ _).mp hq) hk
  · simp [OldestSoFar] at hi
  · simp at h
  · simp at h

/-- The port `oldest_port_number` returns has a frame at the head of its queue, stamped
no later than the head of any queue of the device. -/
theorem oldestPortNumber_eq_some (dp : DataPlane τ) (device p : Int)
    (h : dp.oldestPortNumber device = some p) :
    ∃ f rest, dp.queue (device, p) = some (f :: rest) ∧
      ∀ k g q, k.1 = device → dp.queue k = some (g :: q) → f.2 ≤ g.2 := by
  have hi := oldestSoFar_entries dp device
  unfold oldestPortNumber at h
  rcases hr : dp.packetQueues.entries.foldl (oldestStep device) (none, none) with
    ⟨_ | a, _ | m⟩ <;> rw [hr] at h hi
  · simp at h
  · simp at h
  · simp [OldestSoFar] at hi
  obtain rfl : a = p := by simpa using h
  obtain ⟨⟨f, rest, hmem, rfl⟩, hmin⟩ := hi
  refine ⟨f, rest, (Dict.get?_eq_some_iff_mem _ _ _).mpr hmem, fun k g q hk hq => ?_⟩
  exact hmin (k, g :: q) ((Dict.get?_eq_some_iff_mem _ _ _).mp hq) hk g rfl

/-- `oldest_port_number` returns `None` whenever every queue of the device is empty. -/
theorem oldestPortNumber_eq_none_of_empty (dp : DataPlane τ) (device : Int)
    (h : ∀ k q, k.1 = device → dp.queue k = some q → q = []) :
    dp.oldestPortNumber device = none := by
  cases hp : dp.oldestPortNumber device with
  | none => rfl
  | some p =>
    obtain ⟨f, rest, hq, -⟩ := oldestPortNumber_eq_some dp device p hp
    exact absurd (h _ _ rfl hq) (List.cons_ne_nil f rest)

/-- What the loop of `oldest_port_number` knows of the order of `seen`: the entry it
holds is the first of `seen` whose head is stamped `min_time`, since `<` keeps an earlier
entry on a tie, so every queue of the device before it has a later head. -/
def FirstSoFar (device : Int) (seen : List (PortId × List (Packet × τ))) :
    Option Int × Option τ → Prop
  | (some p, some m) => ∃ before f rest after,
      seen = before ++ ((device, p), f :: rest) :: after ∧ f.2 = m ∧
      ∀ e ∈ before, e.1.1 = device → ∀ g ∈ e.2.head?, m < g.2
  | _ => True

theorem firstSoFar_append {device : Int} {seen : List (PortId × List (Packet × τ))}
    {acc : Option Int × Option τ} (e : PortId × List (Packet × τ))
    (h : FirstSoFar device seen acc) : FirstSoFar device (seen ++ [e]) acc := by
  rcases acc with ⟨_ | p, _ | m⟩ <;> simp only [FirstSoFar] at h ⊢
  obtain ⟨before, f, rest, after, rfl, hm, hlt⟩ := h
  exact ⟨before, f, rest, after ++ [e], by simp, hm, hlt⟩

theorem firstSoFar_step {device : Int} {seen : List (PortId × List (Packet × τ))}
    {acc : Option Int × Option τ} (e : PortId × List (Packet × τ))
    (ho : OldestSoFar device seen acc) (h : FirstSoFar device seen acc) :
    FirstSoFar device (seen ++ [e]) (oldestStep device acc e) := by
  obtain ⟨⟨d, p⟩, q⟩ := e
  unfold oldestStep
  split_ifs with hd
  · exact firstSoFar_append _ h
  · obtain rfl : d = device := not_not.mp hd
    rcases q with _ | ⟨⟨pkt, t⟩, rest⟩
    · exact firstSoFar_append _ h
    · dsimp only
      split_ifs with hlt
      · refine ⟨seen, (pkt, t), rest, [], rfl, rfl, fun e he hd g hg => ?_⟩
        rcases acc with ⟨_ | a, _ | m⟩ <;> simp only [OldestSoFar, belowMin] at ho hlt
        · simp [ho e he hd] at hg
        · exact lt_of_lt_of_le (by simpa using hlt) (ho.2 e he hd g hg)
      · exact firstSoFar_append _ h

theorem firstSoFar_foldl (device : Int) (l : List (PortId × List (Packet × τ))) :
    ∀ (seen : List (PortId × List (Packet × τ))) (acc : Option Int × Option τ),
      OldestSoFar device seen acc → FirstSoFar device seen acc →
        FirstSoFar device (seen ++ l) (l.foldl (oldestStep device) acc) := by
  induction l with
  | nil => simp
  | cons e l ih =>
    intro seen acc ho h
    simpa using ih (seen ++ [e]) _ (oldestSoFar_step e ho) (firstSoFar_step e ho h)

/-- The port `oldest_port_number` returns is the first key of `packet_queues`, in
insertion order, whose queue has the earliest head among the device's queues. -/
theorem oldestPortNumber_first (dp : DataPlane τ) (device p : Int)
    (h : dp.oldestPortNumber device = some p) :
    ∃ before f rest after,
      dp.packetQueues.entries = before ++ ((device, p), f :: rest) :: after ∧
      ∀ e ∈ before, e.1.1 = device → ∀ g ∈ e.2.head?, f.2 < g.2 := by
  have hi := firstSoFar_foldl device dp.packetQueues.entries [] (none, none)
    (by simp [OldestSoFar]) trivial
  rw [List.nil_append] at hi
  unfold oldestPortNumber at h
  rcases hr : dp.packetQueues.entries.foldl (oldestStep device) (none, none) with
    ⟨_ | a, _ | m⟩ <;> rw [hr] at h hi
  · simp at h
  · simp at h
  · have ho := oldestSoFar_entries dp device
    rw [hr] at ho
    simp [OldestSoFar] at ho
  obtain rfl : a = p := by simpa using h
  obtain ⟨before, f, rest, after, he, rfl, hlt⟩ := hi
  exact ⟨before, f, rest, after, he, hlt⟩

/-- **The port `oldest_port_number` picks.**  It returns `None` exactly when every queue
of the device is empty; otherwise a port whose queue has a head stamped no later than
the head of any queue of the device, and the first such key in `packet_queues` order. -/
theorem oldest_port_is_first_earliest_head (dp : DataPlane τ) (device : Int) :
    (dp.oldestPortNumber device = none ↔
      ∀ k q, k.1 = device → dp.queue k = some q → q = []) ∧
    ∀ p, dp.oldestPortNumber device = some p →
      ∃ before f rest after,
        dp.packetQueues.entries = before ++ ((device, p), f :: rest) :: after ∧
        dp.queue (device, p) = some (f :: rest) ∧
        (∀ k g q, k.1 = device → dp.queue k = some (g :: q) → f.2 ≤ g.2) ∧
        ∀ e ∈ before, e.1.1 = device → ∀ g ∈ e.2.head?, f.2 < g.2 := by
  refine ⟨⟨oldestPortNumber_eq_none dp device, oldestPortNumber_eq_none_of_empty dp device⟩,
    fun p hp => ?_⟩
  obtain ⟨before, f, rest, after, he, hlt⟩ := oldestPortNumber_first dp device p hp
  have hq : dp.queue (device, p) = some (f :: rest) :=
    (Dict.get?_eq_some_iff_mem _ _ _).mpr (by rw [he]; simp)
  obtain ⟨f₀, rest₀, hq₀, hmin⟩ := oldestPortNumber_eq_some dp device p hp
  obtain ⟨rfl, -⟩ : f = f₀ ∧ rest = rest₀ := by simpa [hq] using hq₀
  exact ⟨before, f, rest, after, he, hq, hmin, hlt⟩

/-- `packets(device)` without a port reads the queue `oldest_port_number` names. -/
theorem packetsNext_none_yields (dp : DataPlane τ) (d rcv : Int) (f : Packet × τ)
    (h : (dp.packetsNext d none).2 = .ok (some (rcv, f))) :
    dp.oldestPortNumber d = some rcv ∧ ∃ rest, dp.queue (d, rcv) = some (f :: rest) := by
  unfold packetsNext at h
  simp only [Option.orElse] at h
  split at h
  · cases h
  · rename_i r hr
    split at h
    · cases h
    · cases h
    · rename_i pkt time rest hq
      simp only [Except.ok.injEq, Option.some.injEq, Prod.mk.injEq] at h
      obtain ⟨rfl, rfl, rfl⟩ := h
      exact ⟨hr, rest, hq⟩

/-- A queue sorted by timestamp, none of whose frames is stamped later than the
timestamps `later`. -/
def QueueOrdered (q : List (Packet × τ)) (later : List τ) : Prop :=
  (q.map Prod.snd).Sorted (· ≤ ·) ∧ ∀ f ∈ q, ∀ t ∈ later, f.2 ≤ t

theorem QueueOrdered.sublist {q q₀ : List (Packet × τ)} {later later₀ : List τ}
    (h : QueueOrdered q later) (hq : q₀.Sublist q) (hl : later₀ ⊆ later) :
    QueueOrdered q₀ later₀ :=
  ⟨h.1.sublist (hq.map _), fun f hf t ht => h.2 f (hq.subset hf) t (hl ht)⟩

theorem QueueOrdered.append {q q₀ : List (Packet × τ)} {f : Packet × τ} {later : List τ}
    (h : QueueOrdered q (f.2 :: later)) (hs : (f.2 :: later).Sorted (· ≤ ·)) (hq : q₀.Sublist q) :
    QueueOrdered (q₀ ++ [f]) later := by
  obtain ⟨hs₀, hle₀⟩ := h.sublist hq (List.Subset.refl _)
  refine ⟨?_, fun g hg t ht => ?_⟩
  · rw [List.map_append, List.Sorted, List.pairwise_append]
    refine ⟨hs₀, List.pairwise_singleton _ _, fun a ha b hb => ?_⟩
    obtain ⟨g, hg, rfl⟩ := List.mem_map.mp ha
    rw [List.map_singleton, List.mem_singleton] at hb
    exact hb ▸ hle₀ g hg f.2 (List.mem_cons_self _ _)
  · rcases List.mem_append.mp hg with hg | hg
    · exact hle₀ g hg t (List.mem_cons_of_mem _ ht)
    · rw [List.mem_singleton.mp hg]; exact List.rel_of_sorted_cons hs t ht

end DataPlane

/-- The timestamp of the frame an enqueue step receives for `k`. -/
def Op.arrivalFor {τ : Type} (k : PortId) : Op τ → Option τ
  | .enqueue d p _ t => if (d, p) = k then some t else none
  | _ => none

namespace DataPlane

variable {τ : Type} [LinearOrder τ]

/-- The timestamps of the frames the capture loop receives for `k` along a run. -/
def arrivalStamps (k : PortId) (ops : List (Op τ)) : List τ := ops.filterMap (Op.arrivalFor k)

/-- Every queue is sorted by timestamp, and stamped no later than a frame the rest of
the run delivers for its key. -/
def Ordered (dp : DataPlane τ) (ops : List (Op τ)) : Prop :=
  ∀ k q, dp.queue k = some q → QueueOrdered q (arrivalStamps k ops)

omit [LinearOrder τ] in
theorem arrivalStamps_cons_subset (k : PortId) (op : Op τ) (ops : List (Op τ)) :
    arrivalStamps k ops ⊆ arrivalStamps k (op :: ops) := by
  intro t ht
  simp only [arrivalStamps, List.filterMap_cons] at ht ⊢
  split <;> simp_all

omit [LinearOrder τ] in
theorem arrivalStamps_enqueue_self (k : PortId) (pkt : Packet) (t : τ) (ops : List (Op τ)) :
    arrivalStamps k (.enqueue k.1 k.2 pkt t :: ops) = t :: arrivalStamps k ops := by
  simp [arrivalStamps, Op.arrivalFor]

theorem ordered_step {dp : DataPlane τ} {op : Op τ} {ops : List (Op τ)}
    (h : dp.Ordered (op :: ops)) (hs : ∀ k, (arrivalStamps k (op :: ops)).Sorted (· ≤ ·)) :
    (dp.step op).Ordered ops := by
  intro k q' hq'
  rw [queue_step] at hq'
  have hsub := arrivalStamps_cons_subset k op ops
  have he := queueEffect_spec dp k op
  generalize dp.queueEffect k op = e at he hq'
  cases he with
  | keep => exact (h k q' hq').sublist (List.Sublist.refl _) hsub
  | push pkt t q hq _ =>
    simp only [hq, QueueEffect.apply, Option.map_some', Option.some.injEq] at hq'
    subst hq'
    have := h k q hq; have hk := hs k; rw [arrivalStamps_enqueue_self] at this hk
    exact this.append hk (List.Sublist.refl _)
  | evictPush pkt t q hq _ _ =>
    simp only [hq, QueueEffect.apply, Option.map_some', Option.some.injEq] at hq'
    subst hq'
    have := h k q hq; have hk := hs k; rw [arrivalStamps_enqueue_self] at this hk
    exact this.append hk (List.tail_sublist q)
  | pop port f q hq _ =>
    simp only [hq, QueueEffect.apply, Option.map_some', Option.some.injEq,
      List.tail_cons] at hq'
    subst hq'
    exact (h k _ hq).sublist (List.sublist_cons_self _ _) hsub
  | clear =>
    simp only [QueueEffect.apply, Option.map_eq_some'] at hq'
    obtain ⟨_, _, rfl⟩ := hq'
    exact ⟨List.sorted_nil, by simp⟩
  | fresh =>
    simp only [QueueEffect.apply, Option.some.injEq] at hq'
    subst hq'
    exact ⟨List.sorted_nil, by simp⟩
  | drop => simp [QueueEffect.apply] at hq'

theorem ordered_exec (dp : DataPlane τ) (ops : List (Op τ)) (h : dp.Ordered ops)
    (hs : ∀ k, (arrivalStamps k ops).Sorted (· ≤ ·)) : (dp.exec ops).Ordered [] := by
  induction ops generalizing dp with
  | nil => exact h
  | cons op ops ih =>
    exact ih _ (ordered_step h hs) fun k => (hs k).sublist (by
      simp only [arrivalStamps, List.filterMap_cons]; split <;> simp)

/-- **Timestamp order.**  In every run where the frames of each port arrive with
nondecreasing timestamps, every queue stays sorted by timestamp, and each frame
`packets(d)` yields without a port is stamped no later than any frame queued for `d`. -/
theorem queues_sorted_and_oldest_first (configQlen : Option Nat) (ops : List (Op τ))
    (hsorted : ∀ k, (arrivalStamps k ops).Sorted (· ≤ ·)) :
    let dp := (init configQlen).exec ops
    (∀ k q, dp.queue k = some q → (q.map Prod.snd).Sorted (· ≤ ·)) ∧
    ∀ d rcv f, (dp.packetsNext d none).2 = .ok (some (rcv, f)) →
      ∀ k q, k.1 = d → dp.queue k = some q → ∀ g ∈ q, f.2 ≤ g.2 := by
  have hord := ordered_exec (init configQlen) ops
    (fun k q hq => by simp [init, queue] at hq) hsorted
  refine ⟨fun k q hq => (hord k q hq).1, fun d rcv f hy k q hk hq g hg => ?_⟩
  obtain ⟨hold, rest, hrcv⟩ := packetsNext_none_yields _ d rcv f hy
  obtain ⟨f₀, rest₀, hq₀, hmin⟩ := oldestPortNumber_eq_some _ d rcv hold
  obtain rfl : f = f₀ := by rw [hrcv] at hq₀; exact (List.cons.inj (Option.some.inj hq₀)).1
  obtain ⟨h, q', rfl⟩ := List.exists_cons_of_ne_nil (List.ne_nil_of_mem hg)
  have hhead := hmin k h q' hk hq
  rcases List.mem_cons.mp hg with rfl | hg
  · exact hhead
  · have hs := (hord k _ hq).1
    rw [List.map_cons] at hs
    exact hhead.trans (List.rel_of_sorted_cons hs _ (List.mem_map_of_mem _ hg))

theorem queues_sorted_and_oldest_first_two_ports :
    (∀ k, (arrivalStamps k ([.portAdd "a" 0 1, .portAdd "b" 0 2, .enqueue 0 1 [1] 10,
      .enqueue 0 2 [2] 5] : List (Op Nat))).Sorted (· ≤ ·)) ∧
    let dp := (init none : DataPlane Nat).exec
      [.portAdd "a" 0 1, .portAdd "b" 0 2, .enqueue 0 1 [1] 10, .enqueue 0 2 [2] 5]
    (∀ k q, dp.queue k = some q → (q.map Prod.snd).Sorted (· ≤ ·)) ∧
    ∀ d rcv f, (dp.packetsNext d none).2 = .ok (some (rcv, f)) →
      ∀ k q, k.1 = d → dp.queue k = some q → ∀ g ∈ q, f.2 ≤ g.2 := by
  have hs : ∀ k, (arrivalStamps k ([.portAdd "a" 0 1, .portAdd "b" 0 2, .enqueue 0 1 [1] 10,
      .enqueue 0 2 [2] 5] : List (Op Nat))).Sorted (· ≤ ·) := fun ⟨d, p⟩ => by
    simp only [arrivalStamps, List.filterMap_cons, List.filterMap_nil, Op.arrivalFor,
      Prod.mk.injEq]
    split_ifs <;> first | omega | simp
  exact ⟨hs, queues_sorted_and_oldest_first none _ hs⟩

end DataPlane

end PtfDataplane
