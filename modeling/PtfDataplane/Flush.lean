/-
What `flush` drops, in every interleaving.

`flush` lists the keys of `packet_queues` and then, without the lock, sets the queue of
each listed key to `[]`, one key per statement.  Meanwhile the capture loop goes on
appending the frames it reads, and the other callers add, remove and empty queues.  A
queue that `flush` has not reached yet may still hold old frames; one it has emptied, or
one created after the listing, receives only frames the loop appends afterwards.  Those
were read after the call began, but for one: the loop reads a frame (`recv`) and looks
up and appends it in a later statement, and `flush`, taking no lock, may be called and
empty the frame's queue in between.  So when `flush` returns, whatever else ran, every
queued frame was read after `flush` was called or is the frame the loop held when it
was called, with raw-socket ports and with nanomsg sources, from any state.

* `DataPlane.FlushPending` — while a caller is inside `flush`, every queue of a key it
  has still to empty may hold anything, every other queue holds only frames of a given
  list; outside `flush`, every queue does;
* `Sys.FlushBound`, `SysNN.FlushBound` — that, and the frame the loop holds is in the
  list;
* `Sys.flushBound_step`, `SysNN.flushBound_step` — every step of every thread keeps it,
  for a list that holds the frames the step reads;
* `flush_leaves_frames_read_after_or_held` — once `flush` has returned, every queued
  frame is one the capture loop read after the call, or the one it held at the call.
-/
import PtfDataplane.Capacity

namespace PtfDataplane

namespace DataPlane

variable {τ : Type} {R : List (Packet × τ)} {c : Caller τ} {dp dp' : DataPlane τ}

/-- While the caller `c` is inside `flush` with the keys `ks` still to empty, every queue
of a key outside `ks` holds only frames of `R`; outside `flush` every queue does. -/
def FlushPending (R : List (Packet × τ)) (c : Caller τ) (dp : DataPlane τ) : Prop :=
  ∀ k q, dp.queue k = some q → (∃ ks, c = .flushing ks ∧ k ∈ ks) ∨ ∀ f ∈ q, f ∈ R

theorem FlushPending.shrink (h : FlushPending R c dp) (hs : Shrinks dp dp') :
    FlushPending R c dp' := by
  intro k q' hq'
  rcases hs k q' hq' with rfl | ⟨q, hq, hsub⟩
  · exact .inr fun _ hf => nomatch hf
  · exact (h k q hq).imp_right fun hR f hf => hR f (hsub.subset hf)

/-- Outside `flush`, every queue holds only frames of `R`, whatever the caller does
next. -/
theorem FlushPending.of_not_flushing (h : FlushPending R c dp) (hc : ∀ ks, c ≠ .flushing ks)
    (c' : Caller τ) : FlushPending R c' dp :=
  fun k q hq => .inr ((h k q hq).resolve_left fun ⟨ks, e, _⟩ => hc ks e)

/-- Right after `flush` has listed the keys, every queue is one it has still to empty. -/
theorem flushPending_listed (dp : DataPlane τ) :
    FlushPending R (.flushing dp.packetQueues.keys) dp :=
  fun _ q hq =>
    .inl ⟨_, rfl, (Dict.mem_keys_iff _ _).mpr (Option.isSome_iff_exists.mpr ⟨q, hq⟩)⟩

/-- The next statement of the caller itself: `flush` empties the next listed key, or
returns with every key done. -/
theorem FlushPending.resume_self (h : FlushPending R c dp) {r : DataPlane τ × Caller τ}
    (hr : Sys.resume dp c = some r) : FlushPending R r.2 r.1 := by
  by_cases hc : ∃ ks, c = .flushing ks
  · obtain ⟨_ | ⟨k, ks⟩, rfl⟩ := hc <;> simp only [Sys.resume, Option.some.injEq] at hr <;>
      subst hr
    · exact fun k q hq => .inr ((h k q hq).resolve_left fun ⟨_, e, hk⟩ => by cases e; cases hk)
    · intro k' q hq
      simp only [queue, Dict.get?_set] at hq
      split_ifs at hq with hk
      · cases hq; exact .inr fun _ hf => nomatch hf
      · refine (h k' q hq).imp_left fun ⟨_, e, hm⟩ => ⟨ks, rfl, ?_⟩
        cases e; exact (List.mem_cons.mp hm).resolve_left hk
  · push_neg at hc
    exact (h.shrink (shrinks_resume hr)).of_not_flushing hc _

/-- The next statement of caller `j` keeps the bound for caller `i`. -/
theorem FlushPending.resume_update {callers : Nat → Caller τ} {i j : Nat}
    (h : FlushPending R (callers i) dp) {r : DataPlane τ × Caller τ}
    (hr : Sys.resume dp (callers j) = some r) :
    FlushPending R (Function.update callers j r.2 i) r.1 := by
  by_cases hij : i = j
  · subst hij; rw [Function.update_same]; exact h.resume_self hr
  · rw [Function.update_noteq hij]; exact h.shrink (shrinks_resume hr)

variable [LinearOrder τ]

/-- A call of caller `j` keeps the bound for caller `i`. -/
theorem FlushPending.begin_update {callers : Nat → Caller τ} {i j : Nat}
    (h : FlushPending R (callers i) dp) (hj : callers j = .idle) (c : Call τ) :
    FlushPending R (Function.update callers j (Sys.begin dp c).2 i) (Sys.begin dp c).1 := by
  by_cases hij : i = j
  · subst hij
    rw [Function.update_same]
    exact (h.shrink (shrinks_begin c)).of_not_flushing (fun _ e => by rw [hj] at e; cases e) _
  · rw [Function.update_noteq hij]; exact h.shrink (shrinks_begin c)

theorem FlushPending.enqueuePacket (h : FlushPending R c dp) {pkt : Packet} {t : τ}
    (hf : (pkt, t) ∈ R) (d p : Int) : FlushPending R c (dp.enqueuePacket d p pkt t).1 := by
  intro k q' hq'
  rcases queue_enqueuePacket_cases hq' with hq | ⟨q, q₀, hq, hsub, rfl⟩
  · exact h k q' hq
  · refine (h k q hq).imp_right fun hR f hf' => ?_
    rcases List.mem_append.mp hf' with hf' | hf'
    · exact hR f (hsub.subset hf')
    · exact List.mem_singleton.mp hf' ▸ hf

end DataPlane

open DataPlane

variable {τ : Type}

/-- The frame a step reads: the one `recv` returns on a raw socket. -/
def Action.frames : Action τ → List (Packet × τ)
  | .recv pkt t => [(pkt, t)]
  | _ => []

/-- The frame a step reads: the bytes after the header of the message `recv` reads from a
nanomsg source, with the time of the read, the frame `recv` returns for a
`PACKET_OUT`. -/
def ActionNN.frames : ActionNN τ → List (Packet × τ)
  | .recv msg now => [(msg.drop (calcsizeInts 3), now)]
  | _ => []

/-- The frame the loop holds between its `recv` and its enqueue. -/
def Loop.frames : Loop τ → List (Packet × τ)
  | .read _ pkt t _ => [(pkt, t)]
  | _ => []

/-- The frame the loop holds between its `recv` and its enqueue. -/
def LoopNN.frames : LoopNN τ → List (Packet × τ)
  | .read (some (_, _, pkt, t)) _ => [(pkt, t)]
  | _ => []

variable [LinearOrder τ] {R : List (Packet × τ)}

/-- While caller `i` is inside `flush`, every queue it has emptied or not listed holds
only frames of `R`, and so does the frame the loop holds. -/
def Sys.FlushBound (R : List (Packet × τ)) (i : Nat) (s : Sys τ) : Prop :=
  FlushPending R (s.callers i) s.dp ∧ ∀ f ∈ s.loop.frames, f ∈ R

/-- While caller `i` is inside `flush`, every queue it has emptied or not listed holds
only frames of `R`, and so does the frame the loop holds. -/
def SysNN.FlushBound (R : List (Packet × τ)) (i : Nat) (s : SysNN τ) : Prop :=
  FlushPending R (s.callers i) s.dp ∧ ∀ f ∈ s.loop.frames, f ∈ R

namespace Sys

theorem flushBound_step (i : Nat) {s s' : Sys τ} {a : Action τ} (h : s.step a = some s')
    (hR : ∀ f ∈ a.frames, f ∈ R) (hi : s.FlushBound R i) : s'.FlushBound R i := by
  cases a with
  | call j c => obtain ⟨hj, -, rfl⟩ := step_call h; exact ⟨hi.1.begin_update hj c, hi.2⟩
  | next j => obtain ⟨-, r, hr, rfl⟩ := step_next h; exact ⟨hi.1.resume_update hr, hi.2⟩
  | snapshot => obtain ⟨-, rfl⟩ := step_snapshot h; exact ⟨hi.1, nofun⟩
  | select => obtain ⟨_, -, -, -, rfl⟩ := step_select h; exact ⟨hi.1, nofun⟩
  | release => obtain ⟨-, rfl⟩ := step_release h; exact ⟨hi.1, nofun⟩
  | recv => obtain ⟨-, -, -, rfl⟩ := step_recv h; exact ⟨hi.1, hR⟩
  | enqueue =>
    obtain ⟨src, pkt, t, rest, hl, hdp, hc, hok⟩ := step_enqueue h
    have hf : (pkt, t) ∈ R := hi.2 _ (by rw [hl]; exact List.mem_singleton_self _)
    refine ⟨by rw [hdp, hc]; exact hi.1.enqueuePacket hf _ _, fun f hf' => ?_⟩
    rcases hok with ⟨-, e⟩ | ⟨_, -, e⟩ <;> rw [e] at hf' <;> cases hf'

theorem flushBound_run (i : Nat) : ∀ (acts : List (Action τ)) {s s' : Sys τ},
    s.run acts = some s' → (∀ f ∈ acts.flatMap Action.frames, f ∈ R) →
      s.FlushBound R i → s'.FlushBound R i
  | [], _, _, h, _, hi => by cases h; exact hi
  | a :: as, s, _, h, hR, hi => by
    simp only [run] at h
    cases ha : s.step a with
    | none => rw [ha] at h; cases h
    | some s₁ =>
      rw [ha] at h
      rw [List.flatMap_cons] at hR
      exact flushBound_run i as h (fun f hf => hR f (List.mem_append_right _ hf))
        (flushBound_step i ha (fun f hf => hR f (List.mem_append_left _ hf)) hi)

end Sys

namespace SysNN

theorem flushBound_step (i : Nat) {s s' : SysNN τ} {a : ActionNN τ} (h : s.step a = some s')
    (hR : ∀ f ∈ a.frames, f ∈ R) (hi : s.FlushBound R i) : s'.FlushBound R i := by
  cases a with
  | call j c => obtain ⟨hj, -, rfl⟩ := step_call h; exact ⟨hi.1.begin_update hj c, hi.2⟩
  | next j => obtain ⟨-, r, hr, rfl⟩ := step_next h; exact ⟨hi.1.resume_update hr, hi.2⟩
  | snapshot => obtain ⟨-, rfl⟩ := step_snapshot h; exact ⟨hi.1, nofun⟩
  | select => obtain ⟨_, -, -, -, rfl⟩ := step_select h; exact ⟨hi.1, nofun⟩
  | release => obtain ⟨-, rfl⟩ := step_release h; exact ⟨hi.1, nofun⟩
  | recv msg now =>
    obtain ⟨k, rest, -, ⟨e, -, rfl⟩ | ⟨src, t, hr, rfl⟩⟩ := step_recv h
    · exact ⟨hi.1, nofun⟩
    rcases t with _ | ⟨d, p, pkt, t⟩
    · exact ⟨hi.1, nofun⟩
    obtain ⟨-, rfl, -, -, rfl⟩ := SourceNNRecv.recv_frame _ _ _ (congrArg Prod.snd hr)
    exact ⟨hi.1, hR⟩
  | enqueue =>
    rcases step_enqueue h with ⟨rest, -, rfl⟩ | ⟨d, p, pkt, t, rest, hl, hdp, -, -, hc, hok⟩
    · exact ⟨hi.1, nofun⟩
    have hf : (pkt, t) ∈ R := hi.2 _ (by rw [hl]; exact List.mem_singleton_self _)
    refine ⟨by rw [hdp, hc]; exact hi.1.enqueuePacket hf _ _, fun f hf' => ?_⟩
    rcases hok with ⟨-, e⟩ | ⟨_, -, e⟩ <;> rw [e] at hf' <;> cases hf'

theorem flushBound_run (i : Nat) : ∀ (acts : List (ActionNN τ)) {s s' : SysNN τ},
    s.run acts = some s' → (∀ f ∈ acts.flatMap ActionNN.frames, f ∈ R) →
      s.FlushBound R i → s'.FlushBound R i
  | [], _, _, h, _, hi => by cases h; exact hi
  | a :: as, s, _, h, hR, hi => by
    simp only [run] at h
    cases ha : s.step a with
    | none => rw [ha] at h; cases h
    | some s₁ =>
      rw [ha] at h
      rw [List.flatMap_cons] at hR
      exact flushBound_run i as h (fun f hf => hR f (List.mem_append_right _ hf))
        (flushBound_step i ha (fun f hf => hR f (List.mem_append_left _ hf)) hi)

end SysNN

/-- **`flush` drops every frame read before it but the one the loop holds, in every
interleaving.**  With raw-socket ports and with nanomsg sources, from any state, if
caller `i` calls `flush` and, whatever the other callers and the capture loop do
meanwhile, the call has returned (the caller is no longer inside `flush`), then every
queued frame is one the capture loop read after the call (a frame of a raw socket, or
the bytes after the header of a message read from a nanomsg source, with the time of
the read), or the frame the loop had read and not yet appended when `flush` was
called. -/
theorem flush_leaves_frames_read_after_or_held :
    (∀ (s s' : Sys τ) (i : Nat) (acts : List (Action τ)), s.callers i = .idle →
      s.run (.call i .flush :: acts) = some s' → (∀ ks, s'.callers i ≠ .flushing ks) →
      ∀ k q, s'.dp.queue k = some q → ∀ f ∈ q, f ∈ s.loop.frames ++ acts.flatMap Action.frames) ∧
    ∀ (s s' : SysNN τ) (i : Nat) (acts : List (ActionNN τ)), s.callers i = .idle →
      s.run (.call i .flush :: acts) = some s' → (∀ ks, s'.callers i ≠ .flushing ks) →
      ∀ k q, s'.dp.queue k = some q → ∀ f ∈ q,
        f ∈ s.loop.frames ++ acts.flatMap ActionNN.frames := by
  refine ⟨fun s s' i acts hi h hdone k q hq => ?_, fun s s' i acts hi h hdone k q hq => ?_⟩
  · simp only [Sys.run, Sys.step, hi, Option.some_bind, Call.locked, false_and, if_false] at h
    have hp := Sys.flushBound_run i acts h (fun f hf => List.mem_append_right _ hf)
      ⟨by simp only [Function.update_same]; exact flushPending_listed s.dp,
        fun f hf => List.mem_append_left _ hf⟩
    exact (hp.1 k q hq).resolve_left fun ⟨ks, e, _⟩ => hdone ks e
  · simp only [SysNN.run, SysNN.step, hi, Option.some_bind, Call.locked, false_and, if_false] at h
    have hp := SysNN.flushBound_run i acts h (fun f hf => List.mem_append_right _ hf)
      ⟨by simp only [Function.update_same]; exact flushPending_listed s.dp,
        fun f hf => List.mem_append_left _ hf⟩
    exact (hp.1 k q hq).resolve_left fun ⟨ks, e, _⟩ => hdone ks e

/-- A port is added, the loop appends a frame read at time `1`, and reads a frame at
time `2`. -/
def captureBeforeFlush : List (Action Nat) :=
  [.call 0 (.portAdd "eth0" 0 1), .snapshot, .select [⟨"eth0", 0, 1, 0⟩]] ++
    Action.drain [([1], 1)] ++ [.snapshot, .select [⟨"eth0", 0, 1, 0⟩], .recv [2] 2]

/-- After the call to `flush`: `flush` empties the queue, the loop appends the frame it
held, `flush` returns, and the loop reads and appends a frame at time `3`. -/
def flushAcrossCapture : List (Action Nat) :=
  [.next 1, .enqueue, .release, .next 1, .snapshot, .select [⟨"eth0", 0, 1, 0⟩]] ++
    Action.drain [([3], 3)]

theorem flush_keeps_frame_held_by_loop :
    ∃ s s' : Sys Nat, s.dp.queue (0, 1) = some [([1], 1)] ∧ s.loop.frames = [([2], 2)] ∧
      s.callers 1 = .idle ∧ s.run (.call 1 .flush :: flushAcrossCapture) = some s' ∧
      s'.callers 1 = .idle ∧ s'.dp.queue (0, 1) = some [([2], 2), ([3], 3)] ∧
      ∀ f ∈ [([2], 2), ([3], 3)], f ∈ s.loop.frames ++ flushAcrossCapture.flatMap Action.frames := by
  obtain ⟨s, hs, hsq⟩ := Option.map_eq_some'.mp (by decide :
    ((Sys.init none).run captureBeforeFlush).map
      (fun s => (s.dp.queue (0, 1), s.loop.frames, s.callers 1)) =
      some (some [([1], 1)], [([2], 2)], .idle))
  have h := (by decide : (((Sys.init none).run captureBeforeFlush).bind
    fun s => s.run (.call 1 .flush :: flushAcrossCapture)).map
      (fun s' => (s'.callers 1, s'.dp.queue (0, 1))) = some (.idle, some [([2], 2), ([3], 3)]))
  rw [hs, Option.some_bind] at h
  obtain ⟨s', hs', hsq'⟩ := Option.map_eq_some'.mp h
  obtain ⟨hq, hl, hi⟩ : _ ∧ _ ∧ _ := ⟨congrArg Prod.fst hsq, congrArg (·.2.1) hsq,
    congrArg (·.2.2) hsq⟩
  obtain ⟨hi', hq'⟩ := Prod.mk.inj hsq'
  exact ⟨s, s', hq, hl, hi, hs', hi', hq', flush_leaves_frames_read_after_or_held.1 s s' 1 _ hi hs'
    (fun _ e => by rw [hi'] at e; cases e) (0, 1) _ hq'⟩

end PtfDataplane
