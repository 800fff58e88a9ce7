/-
The engine's threads against the sequential engine.

`Sys` runs the public calls and the capture loop statement by statement;
`DataPlane.step` runs each call, and each enqueue of the loop, in one piece.  With no
other thread between its statements, each is the other:

* `call_alone_refines_step` — a call whose statements run back to back, while the loop
  does not hold the lock, leaves the engine as the sequential operation of the same name
  does, and its thread idle or with the exception the operation raises;
* `Sys.run_drain` — a locked drain with no caller statement inside it, from ports that
  all have queues, is the sequential run of its enqueues;
* **`iteration_alone_refines_exec`** — in every reachable state, one iteration of
  `DataPlane.run` with no call inside it is the sequential run of one enqueue per frame
  read, and it raises nothing when the capacity is at least `1`.

Where threads interleave inside these windows the two models part; the race theorems of
`PtfDataplane.Threads` are those cases.

New infrastructure: `Sys.run_call` and `Sys.run_next` unfold a run one statement at a
time; `PortsKeyed`, that every port object is registered under its own numbers, holds in
every reachable state.
-/
import PtfDataplane.Threads

namespace PtfDataplane

variable {τ : Type}

/-- The sequential operation a call is. -/
def Call.toOp : Call τ → Op τ
  | .portAdd i d p => .portAdd i d p
  | .portRemove d p => .portRemove d p
  | .flush => .flush
  | .send d p pkt now reply => .send d p pkt now reply
  | .startPcap f => .startPcap f
  | .stopPcap => .stopPcap

namespace Sys

theorem run_call {s : Sys τ} {i : Nat} (hi : s.callers i = .idle) {c : Call τ}
    (hl : ¬(c.locked ∧ s.loop.holdsLock)) (as : List (Action τ)) :
    s.run (.call i c :: as) =
      ({ s with
          dp := (begin s.dp c).1
          callers := Function.update s.callers i (begin s.dp c).2 } : Sys τ).run as := by
  simp only [run, step, hi, hl, if_false, Option.some_bind]

theorem run_next {s : Sys τ} {i : Nat} {r : DataPlane τ × Caller τ}
    (hl : ¬((s.callers i).locked ∧ s.loop.holdsLock)) (h : resume s.dp (s.callers i) = some r)
    (as : List (Action τ)) :
    s.run (.next i :: as) =
      ({ s with dp := r.1, callers := Function.update s.callers i r.2 } : Sys τ).run as := by
  simp only [run, step, hl, if_false, h, Option.map_some', Option.some_bind]

/-- A statement of `flush` takes no lock. -/
theorem flushing_unlocked {s : Sys τ} {i : Nat} {ks : List PortId}
    (h : s.callers i = .flushing ks) : ¬((s.callers i).locked ∧ s.loop.holdsLock) := by
  rw [h]; exact fun h' => Bool.false_ne_true h'.1

/-- The rest of a `flush` run back to back: every key of its snapshot gets `[]`. -/
theorem run_flushing (s : Sys τ) (i : Nat) :
    ∀ ks : List PortId, s.callers i = .flushing ks →
      s.run (List.replicate (ks.length + 1) (.next i)) =
        some { s with
          dp := { s.dp with packetQueues := s.dp.packetQueues.assignAll ks [] }
          callers := Function.update s.callers i .idle }
  | [], h => by rw [List.replicate, run_next (flushing_unlocked h) (by rw [h]; rfl)]; rfl
  | k :: ks, h => by
    rw [List.length_cons, List.replicate_succ, run_next (flushing_unlocked h) (by rw [h]; rfl),
      run_flushing _ i ks (Function.update_same _ _ _)]
    simp only [Function.update_idem]
    rfl

end Sys

theorem DataPlane.pcapWrite_of_none {dp : DataPlane τ} (h : dp.pcapWriter = none)
    (pkt : Packet) (t : τ) (d p : Int) : dp.pcapWrite pkt t d p = dp := by
  cases dp; simp_all [DataPlane.pcapWrite]

theorem DataPlane.stopPcap_of_none {dp : DataPlane τ} (h : dp.pcapWriter = none) :
    dp.stopPcap = dp := by
  cases dp; simp_all [DataPlane.stopPcap]

/-- A run of a call that ends with the engine as `DataPlane.step` leaves it. -/
theorem call_alone_of_run [LinearOrder τ] {s : Sys τ} {i : Nat} {c : Call τ} (n : Nat)
    (c' : Caller τ) (hc' : c' = .idle ∨ ∃ e, c' = .raised e)
    (h : s.run (.call i c :: List.replicate n (.next i)) =
      some { s with dp := s.dp.step c.toOp, callers := Function.update s.callers i c' }) :
    ∃ n s', s.run (.call i c :: List.replicate n (.next i)) = some s' ∧
      s'.dp = s.dp.step c.toOp ∧ s'.loop = s.loop ∧
      (∀ j, j ≠ i → s'.callers j = s.callers j) ∧
      (s'.callers i = .idle ∨ ∃ e, s'.callers i = .raised e) :=
  ⟨n, _, h, rfl, rfl, fun _ hj => Function.update_noteq hj _ _,
    by simp only [Function.update_same]; exact hc'⟩

/-- A call run alone is the sequential operation: from any state where thread `i` is
idle and the loop does not hold the lock, the call followed by its remaining statements,
with no other thread in between, leaves the engine as `DataPlane.step` does, the capture
loop and the other threads where they were, and thread `i` idle or with the exception it
raised. -/
theorem call_alone_refines_step [LinearOrder τ] (s : Sys τ) (i : Nat) (c : Call τ)
    (hi : s.callers i = .idle) (hl : s.loop.holdsLock = false) :
    ∃ n s', s.run (.call i c :: List.replicate n (.next i)) = some s' ∧
      s'.dp = s.dp.step c.toOp ∧ s'.loop = s.loop ∧
      (∀ j, j ≠ i → s'.callers j = s.callers j) ∧
      (s'.callers i = .idle ∨ ∃ e, s'.callers i = .raised e) := by
  cases c with
  | portAdd i' d p =>
    exact call_alone_of_run 0 .idle (.inl rfl)
      (by rw [List.replicate, Sys.run_call hi (by simp [hl])]; rfl)
  | portRemove d p =>
    rcases hr : s.dp.portRemove d p with ⟨dp', e | b⟩ <;>
      [refine call_alone_of_run 0 (.raised e) (.inr ⟨e, rfl⟩) ?_;
        refine call_alone_of_run 0 .idle (.inl rfl) ?_] <;>
    · rw [List.replicate, Sys.run_call hi (by simp [hl])]
      simp [Sys.begin, hr, Sys.run, DataPlane.step, Call.toOp]
  | startPcap f =>
    cases hw : s.dp.pcapWriter with
    | some w =>
      exact call_alone_of_run 0 (.raised .assertionError) (.inr ⟨_, rfl⟩)
        (by rw [List.replicate, Sys.run_call hi (by simp [hl])]
            simp [Sys.begin, hw, Sys.run, DataPlane.step, Call.toOp, DataPlane.startPcap])
    | none =>
      exact call_alone_of_run 1 .idle (.inl rfl)
        (by rw [List.replicate, Sys.run_call hi (by simp [hl])]
            simp [Sys.begin, hw, Sys.run, Sys.step, Sys.resume, DataPlane.step, Call.toOp,
              DataPlane.startPcap, Function.update_idem, Caller.locked])
  | flush =>
    refine call_alone_of_run (s.dp.packetQueues.keys.length + 1) .idle (.inl rfl) ?_
    rw [Sys.run_call hi (by simp [hl]), Sys.run_flushing _ i _ (Function.update_same _ _ _)]
    simp only [Function.update_idem]
    rfl
  | stopPcap =>
    cases hw : s.dp.pcapWriter with
    | none =>
      exact call_alone_of_run 0 .idle (.inl rfl)
        (by rw [List.replicate, Sys.run_call hi (by simp [hl])]
            simp [Sys.begin, hw, Sys.run, DataPlane.step, Call.toOp, DataPlane.stopPcap_of_none hw])
    | some w =>
      exact call_alone_of_run 1 .idle (.inl rfl)
        (by rw [List.replicate, Sys.run_call hi (by simp [hl])]
            simp [Sys.begin, hw, Sys.run, Sys.step, Sys.resume, DataPlane.step, Call.toOp,
              Function.update_idem, hl])
  | send d p pkt now reply =>
    by_cases hk : (d, p) ∈ s.dp.ports.keys
    · obtain ⟨o, ho⟩ := Option.isSome_iff_exists.mp ((Dict.mem_keys_iff _ _).mp hk)
      cases hw : s.dp.pcapWriter <;> cases reply <;>
        [refine call_alone_of_run 2 (.raised .osError) (.inr ⟨_, rfl⟩) ?_;
          refine call_alone_of_run 3 .idle (.inl rfl) ?_;
          refine call_alone_of_run 3 (.raised .osError) (.inr ⟨_, rfl⟩) ?_;
          refine call_alone_of_run 4 .idle (.inl rfl) ?_] <;>
      · rw [Sys.run_call hi (by simp [hl])]
        simp [List.replicate, Sys.begin, hk, hw, ho, Sys.run, Sys.step, Sys.resume, Caller.locked,
          DataPlane.step, Call.toOp, DataPlane.send, DataPlane.pcapWrite_of_none, Function.update_idem]
    · exact call_alone_of_run 0 .idle (.inl rfl)
        (by rw [List.replicate, Sys.run_call hi (by simp [hl])]
            simp [Sys.begin, hk, Sys.run, DataPlane.step, Call.toOp, DataPlane.send])

/-! ## One iteration of the capture loop -/

namespace DataPlane

/-- Every port object is registered under its own numbers. -/
def PortsKeyed (dp : DataPlane τ) : Prop :=
  ∀ k o, dp.ports.get? k = some o → (o.deviceNumber, o.portNumber) = k

theorem PortsKeyed.of_ports {dp dp' : DataPlane τ} (h : dp.PortsKeyed)
    (he : dp'.ports = dp.ports) : dp'.PortsKeyed :=
  fun k o ho => h k o (he ▸ ho)

theorem PortsKeyed.portAdd {dp : DataPlane τ} (h : dp.PortsKeyed) (i : String) (d p : Int) :
    (dp.portAdd i d p).PortsKeyed := by
  intro k o ho
  simp only [DataPlane.portAdd, Dict.get?_set] at ho
  split_ifs at ho with hk
  · cases ho; exact hk.symm
  · exact h k o ho

theorem PortsKeyed.portRemove {dp : DataPlane τ} (h : dp.PortsKeyed) (d p : Int) :
    (dp.portRemove d p).1.PortsKeyed := by
  have herase : ({ dp with ports := dp.ports.erase (d, p) } : DataPlane τ).PortsKeyed := by
    intro k o ho
    simp only [Dict.get?_erase] at ho
    split_ifs at ho
    exact h k o ho
  unfold DataPlane.portRemove
  split_ifs
  · exact herase
  · exact herase
  · exact h

theorem enqueuePacket_ports (dp : DataPlane τ) (d p : Int) (pkt : Packet) (t : τ) :
    (dp.enqueuePacket d p pkt t).1.ports = dp.ports := by
  rcases enqueuePacket_cases dp d p pkt t with ⟨-, he⟩ | ⟨_, -, -, he⟩ | ⟨_, _, -, -, he⟩ <;>
    rw [he] <;> rfl

end DataPlane

namespace Sys

theorem resume_ports {dp : DataPlane τ} {c : Caller τ} {r : DataPlane τ × Caller τ}
    (hr : resume dp c = some r) : r.1.ports = dp.ports := by
  cases c with
  | flushing ks => cases ks <;> cases hr <;> rfl
  | sendWrite | sendPort | stopClose =>
    simp only [resume] at hr
    split at hr <;> cases hr <;> rfl
  | idle | raised => cases hr
  | sendTap | sendCount | startAssign => cases hr; rfl

theorem portsKeyed_begin {dp : DataPlane τ} (h : dp.PortsKeyed) (c : Call τ) :
    (begin dp c).1.PortsKeyed := by
  cases hl : c.locked
  · rw [begin_dp_of_unlocked dp c hl]; exact h
  cases c with
  | portAdd i d p => exact h.portAdd i d p
  | portRemove d p =>
    have h' := h.portRemove d p
    simp only [begin]
    split <;> rename_i heq <;> rw [heq] at h' <;> exact h'
  | _ => cases hl

theorem portsKeyed_of_reachable {configQlen : Option Nat} {s : Sys τ}
    (hs : Reachable configQlen s) : s.dp.PortsKeyed := by
  induction hs with
  | init => intro k o ho; simp [Sys.init, DataPlane.init] at ho
  | step _ _ hstep ih =>
    rcases step_dp_cases hstep with e | ⟨c, e⟩ | ⟨c, r, hr, e⟩ | ⟨d, p, pkt, t, e⟩ <;> rw [e]
    · exact ih
    · exact portsKeyed_begin ih c
    · exact ih.of_ports (resume_ports hr)
    · exact ih.of_ports (DataPlane.enqueuePacket_ports _ d p pkt t)

/-- The enqueues of one locked drain: one per ready source and the frame read from it. -/
def drainOps (l : List (Port × Packet × τ)) : List (Op τ) :=
  l.map fun x => .enqueue x.1.deviceNumber x.1.portNumber x.2.1 x.2.2

theorem drain_cons (f : Packet × τ) (fs : List (Packet × τ)) :
    Action.drain (f :: fs) = .recv f.1 f.2 :: .enqueue :: Action.drain fs := by
  simp [Action.drain]

/-- A locked drain with no caller statement inside it, from ports that all have queues,
at a capacity of at least `1`, is the sequential run of its enqueues and raises nothing. -/
theorem run_drain [LinearOrder τ] :
    ∀ (ready : List Port) (frames : List (Packet × τ)) (s : Sys τ),
      frames.length = ready.length → 1 ≤ s.dp.qlen → s.loop = .draining ready →
      (∀ src ∈ ready, (src.deviceNumber, src.portNumber) ∈ s.dp.packetQueues.keys) →
      s.run (Action.drain frames) =
        some { s with dp := s.dp.exec (drainOps (ready.zip frames)), loop := .top }
  | [], [], s, _, _, hl, _ => by simp [Action.drain, run, step, hl]; rfl
  | src :: rest, (pkt, t) :: fs, s, hlen, hq, hl, hk => by
    rcases DataPlane.enqueuePacket_cases s.dp src.deviceNumber src.portNumber pkt t with
      ⟨hn, -⟩ | ⟨q, -, hm, -⟩ | ⟨_, _, -, -, he⟩
    · exact absurd (hk _ (List.mem_cons_self _ _)) ((Dict.get?_eq_none_iff _ _).mp hn)
    · exact absurd hm (Option.isSome_iff_ne_none.mp (makeRoom_isSome q hq))
    · generalize he' : s.dp.enqueuePacket src.deviceNumber src.portNumber pkt t = r at he
      have hrun : s.run (Action.drain ((pkt, t) :: fs)) =
          ({ s with dp := r.1, loop := .draining rest } : Sys τ).run (Action.drain fs) := by
        rw [drain_cons]
        simp only [run, step, hl, Option.some_bind, he', he]
      have hq₁ : 1 ≤ r.1.qlen := by rw [he]; exact hq
      have hk₁ : ∀ x ∈ rest, (x.deviceNumber, x.portNumber) ∈ r.1.packetQueues.keys := by
        rw [he]
        exact fun x hx => (Dict.mem_keys_set _ _ _ _).mpr (.inr (hk x (List.mem_cons_of_mem _ hx)))
      rw [hrun, run_drain rest fs _ (Nat.succ.inj hlen) hq₁ rfl hk₁]
      simp [drainOps, DataPlane.step, he']
  | [], _ :: _, _, hlen, _, _, _ | _ :: _, [], _, hlen, _, _, _ => by cases hlen

end Sys

/-- **One iteration of the capture loop run alone is the sequential run of its
enqueues.**  From any reachable state at the top of `DataPlane.run`, the snapshot, a
`select` returning sources of the snapshot, and the locked drain of one frame from each,
with no statement of a caller in between, leave the engine as the sequential enqueues
do; with a capacity of at least `1` nothing raises and the loop returns to its top. -/
theorem iteration_alone_refines_exec [LinearOrder τ] {configQlen : Option Nat} {s : Sys τ}
    (hs : Reachable configQlen s) (hloop : s.loop = .top) (ready : List Port)
    (frames : List (Packet × τ)) (hready : ready.Nodup ∧ ready ⊆ Sys.sources s.dp)
    (hlen : frames.length = ready.length) (hq : 1 ≤ s.dp.qlen) :
    s.run ([.snapshot, .select ready] ++ Action.drain frames) =
      some { s with dp := s.dp.exec (Sys.drainOps (ready.zip frames)) } := by
  have hkeys : ∀ src ∈ ready,
      (src.deviceNumber, src.portNumber) ∈ s.dp.packetQueues.keys := by
    intro src hsrc
    obtain ⟨⟨k, o⟩, hmem, ho⟩ := List.mem_map.mp (hready.2 hsrc)
    have hget := (Dict.get?_eq_some_iff_mem _ _ _).mpr hmem
    rw [← show o = src from ho, Sys.portsKeyed_of_reachable hs k o hget]
    exact Sys.queuesCover_of_reachable hs k ((Dict.mem_keys_iff _ _).mpr (by simp [hget]))
  obtain ⟨dp, loop, callers⟩ := s
  obtain rfl : loop = .top := hloop
  have hdrain := Sys.run_drain ready frames ⟨dp, .draining ready, callers⟩ hlen hq rfl
    fun src hsrc => hkeys src hsrc
  simp only [List.cons_append, List.nil_append, Sys.run, Sys.step, Option.some_bind, hready,
    and_self, if_true]
  exact hdrain

/-- One iteration reading one frame from the one port registered by a first call. -/
theorem iteration_alone_after_port_add :
    ∃ s : Sys Nat, Reachable none s ∧ s.loop = .top ∧
      ([(⟨"eth1", 0, 1, 0⟩ : Port)].Nodup ∧ [(⟨"eth1", 0, 1, 0⟩ : Port)] ⊆ Sys.sources s.dp) ∧
      [([7], 3)].length = [(⟨"eth1", 0, 1, 0⟩ : Port)].length ∧ 1 ≤ s.dp.qlen ∧
      s.run ([.snapshot, .select [(⟨"eth1", 0, 1, 0⟩ : Port)]] ++ Action.drain [([7], 3)]) =
        some { s with dp := s.dp.exec (Sys.drainOps ([(⟨"eth1", 0, 1, 0⟩ : Port)].zip [([7], 3)])) } := by
  obtain ⟨s, hs, hloop, hready, hq⟩ : ∃ s : Sys Nat, Reachable none s ∧ s.loop = .top ∧
      ([(⟨"eth1", 0, 1, 0⟩ : Port)].Nodup ∧ [(⟨"eth1", 0, 1, 0⟩ : Port)] ⊆ Sys.sources s.dp) ∧ 1 ≤ s.dp.qlen :=
    exists_reachable_of_run none [.call 0 (.portAdd "eth1" 0 1)] (by decide)
  exact ⟨s, hs, hloop, hready, rfl, hq,
    iteration_alone_refines_exec hs hloop _ [([7], 3)] hready rfl hq⟩

end PtfDataplane
