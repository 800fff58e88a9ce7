/-
No frame is queued twice or out of nowhere, in every interleaving.

The only statement that brings a frame into `packet_queues` is the capture loop's
`queue.append((pkt, timestamp))`, once for each tuple a source's `recv` returns.  The
callers replace a queue by `[]` (`port_add`, each statement of `flush`), delete it
(`port_remove`), or leave the queues alone; the loop's `queue.pop(0)` drops a frame.  So,
however the threads interleave, the frames in all queues together are a sub-multiset of
the frames the loop has read: none is queued twice, under one key or under two, and none
is queued that was not read.

* `flatMap_assign_nil_sublist`, `flatMap_assign_append_subperm` — `d[k] = []` only drops
  values of a dictionary of lists, and `d[k] = kept + [x]` with `kept` a sublist of the
  old value only drops values and adds `x`;
* `DataPlane.queued_begin`, `queued_resume` — no statement of a caller adds a frame;
* `DataPlane.queued_enqueuePacket` — the loop's enqueue adds the one frame it was given;
* `Sys.queued_step`, `SysNN.queued_step` — a step adds to the queued frames and the one
  the loop holds between its `recv` and its enqueue at most the frame the step reads;
* `queued_frames_were_read` — in every interleaving of either platform, the queued frames
  are a sub-multiset of the frames the capture loop read.
-/
import PtfDataplane.Flush

namespace PtfDataplane

section Values

variable {κ α : Type}

theorem flatMap_filter_sublist (p : κ × List α → Bool) :
    ∀ l : List (κ × List α), ((l.filter p).flatMap Prod.snd).Sublist (l.flatMap Prod.snd)
  | [] => .slnil
  | e :: rest => by
    rw [List.filter_cons]
    split
    · exact (flatMap_filter_sublist p rest).append_left e.2
    · exact (flatMap_filter_sublist p rest).trans (List.sublist_append_right e.2 _)

variable [DecidableEq κ]

/-- `d[k] = []`, on a present key or a new one, drops values and adds none. -/
theorem flatMap_assign_nil_sublist (k : κ) :
    ∀ l : List (κ × List α), ((assign k [] l).flatMap Prod.snd).Sublist (l.flatMap Prod.snd)
  | [] => .slnil
  | e :: rest => by
    unfold assign
    split_ifs
    · exact List.sublist_append_right e.2 (rest.flatMap Prod.snd)
    · exact (flatMap_assign_nil_sublist k rest).append_left e.2

/-- `d[k] = kept + [x]`, where `kept` is a sublist of the value `d[k]` had, drops values
and adds `x`. -/
theorem flatMap_assign_append_subperm {k : κ} {q kept : List α} (x : α)
    (hsub : kept.Sublist q) : ∀ l : List (κ × List α), l.lookup k = some q →
      ((assign k (kept ++ [x]) l).flatMap Prod.snd).Subperm (l.flatMap Prod.snd ++ [x])
  | [], h => nomatch h
  | (a, b) :: rest, h => by
    unfold assign
    split_ifs with he
    · subst he
      obtain rfl : b = q := Option.some.inj (List.lookup_cons_self.symm.trans h)
      simp only [List.flatMap_cons, List.append_assoc]
      exact (List.perm_append_comm.append_left kept).subperm.trans
        (hsub.append (List.Sublist.refl _)).subperm
    · rw [lookup_cons_of_ne _ _ (Ne.symm he)] at h
      simp only [List.flatMap_cons, List.append_assoc]
      exact (List.subperm_append_left b).mpr (flatMap_assign_append_subperm x hsub rest h)

end Values

namespace DataPlane

variable {τ : Type} {dp : DataPlane τ}

/-- Every queued frame, queue by queue in the order of `packet_queues`. -/
def queued (dp : DataPlane τ) : List (Packet × τ) := dp.packetQueues.entries.flatMap Prod.snd

/-- No statement of a caller adds a frame to the queues. -/
theorem queued_resume {c : Caller τ} {r : DataPlane τ × Caller τ}
    (hr : Sys.resume dp c = some r) : r.1.queued.Sublist dp.queued := by
  rcases Sys.resume_packetQueues hr with e | ⟨k, e⟩ <;> rw [queued, e]
  · exact List.Sublist.refl _
  · exact flatMap_assign_nil_sublist k _

theorem queued_begin (c : Call τ) : (Sys.begin dp c).1.queued.Sublist dp.queued := by
  cases hl : c.locked
  · rw [Sys.begin_dp_of_unlocked dp c hl]
  cases c with
  | portAdd i d p => exact flatMap_assign_nil_sublist (d, p) _
  | portRemove d p =>
    rw [SysNN.begin_portRemove]
    unfold portRemove
    split_ifs
    · exact flatMap_filter_sublist _ _
    · exact List.Sublist.refl _
    · exact List.Sublist.refl _
  | _ => cases hl

/-- The loop's enqueue adds the one frame it was given, and may drop the oldest. -/
theorem queued_enqueuePacket (d p : Int) (pkt : Packet) (t : τ) :
    (dp.enqueuePacket d p pkt t).1.queued.Subperm (dp.queued ++ [(pkt, t)]) := by
  rcases enqueuePacket_cases dp d p pkt t with ⟨-, he⟩ | ⟨_, -, -, he⟩ | ⟨q, kept, hq, hm, he⟩ <;>
    rw [he]
  · exact (List.sublist_append_left _ _).subperm
  · exact (List.sublist_append_left _ _).subperm
  · have hsub : kept.Sublist q := by
      rcases makeRoom_eq_some.mp hm with ⟨-, -, rfl⟩ | ⟨-, rfl⟩
      · exact List.tail_sublist _
      · exact List.Sublist.refl _
    exact flatMap_assign_append_subperm (pkt, t) hsub _ hq

/-- A step that adds no frame and leaves the frame the loop holds. -/
theorem queued_keep {dp' : DataPlane τ} (hd : dp'.queued.Sublist dp.queued)
    (held read : List (Packet × τ)) : (dp'.queued ++ held).Subperm (dp.queued ++ held ++ read) :=
  ((hd.append (.refl _)).trans (List.sublist_append_left _ _)).subperm

/-- A step that leaves the queues and ends holding no frame. -/
theorem queued_idle (held read : List (Packet × τ)) :
    (dp.queued ++ []).Subperm (dp.queued ++ held ++ read) := by
  rw [List.append_nil, List.append_assoc]; exact (List.sublist_append_left _ _).subperm

/-- A step that leaves the queues and holds the frame it reads. -/
theorem queued_hold (held read : List (Packet × τ)) :
    (dp.queued ++ read).Subperm (dp.queued ++ held ++ read) :=
  ((List.sublist_append_left _ _).append (.refl _)).subperm

/-- The loop's enqueue of the frame it holds. -/
theorem queued_enqueue_held (d p : Int) (pkt : Packet) (t : τ) :
    ((dp.enqueuePacket d p pkt t).1.queued ++ []).Subperm (dp.queued ++ [(pkt, t)] ++ []) := by
  rw [List.append_nil, List.append_nil]; exact queued_enqueuePacket d p pkt t

end DataPlane

open DataPlane

variable {τ : Type}

namespace Sys

/-- One step adds to the queued frames and the one the loop holds at most the frame the
step reads. -/
theorem queued_step {s s' : Sys τ} {a : Action τ} (h : s.step a = some s') :
    (s'.dp.queued ++ s'.loop.frames).Subperm (s.dp.queued ++ s.loop.frames ++ a.frames) := by
  cases a with
  | call i c => obtain ⟨-, -, rfl⟩ := step_call h; exact queued_keep (queued_begin c) _ _
  | next i => obtain ⟨-, r, hr, rfl⟩ := step_next h; exact queued_keep (queued_resume hr) _ _
  | snapshot => obtain ⟨-, rfl⟩ := step_snapshot h; exact queued_idle _ _
  | select => obtain ⟨_, -, -, -, rfl⟩ := step_select h; exact queued_idle _ _
  | release => obtain ⟨-, rfl⟩ := step_release h; exact queued_idle _ _
  | recv =>
    obtain ⟨-, -, -, rfl⟩ := step_recv h
    exact queued_hold _ _
  | enqueue =>
    obtain ⟨src, pkt, t, rest, hl, hdp, -, hok⟩ := step_enqueue h
    have hs' : s'.loop.frames = [] := by rcases hok with ⟨-, e⟩ | ⟨_, -, e⟩ <;> rw [e] <;> rfl
    rw [hs', hdp, hl]
    exact queued_enqueue_held _ _ pkt t

theorem queued_run : ∀ (acts : List (Action τ)) {s s' : Sys τ}, s.run acts = some s' →
    (s'.dp.queued ++ s'.loop.frames).Subperm
      (s.dp.queued ++ s.loop.frames ++ acts.flatMap Action.frames)
  | [], _, _, h => by cases h; exact (List.sublist_append_left _ _).subperm
  | a :: as, s, _, h => by
    simp only [run] at h
    cases ha : s.step a with
    | none => rw [ha] at h; cases h
    | some s₁ =>
      rw [ha] at h
      rw [List.flatMap_cons, ← List.append_assoc]
      exact (queued_run as h).trans ((List.subperm_append_right _).mpr (queued_step ha))

end Sys

namespace SysNN

/-- One step adds to the queued frames and the one the loop holds at most the frame the
step reads. -/
theorem queued_step {s s' : SysNN τ} {a : ActionNN τ} (h : s.step a = some s') :
    (s'.dp.queued ++ s'.loop.frames).Subperm (s.dp.queued ++ s.loop.frames ++ a.frames) := by
  cases a with
  | call i c => obtain ⟨-, -, rfl⟩ := step_call h; exact queued_keep (queued_begin c) _ _
  | next i => obtain ⟨-, r, hr, rfl⟩ := step_next h; exact queued_keep (queued_resume hr) _ _
  | snapshot => obtain ⟨-, rfl⟩ := step_snapshot h; exact queued_idle _ _
  | select => obtain ⟨_, -, -, -, rfl⟩ := step_select h; exact queued_idle _ _
  | release => obtain ⟨-, rfl⟩ := step_release h; exact queued_idle _ _
  | recv msg now =>
    obtain ⟨k, rest, -, ⟨e, -, rfl⟩ | ⟨src, t, hr, rfl⟩⟩ := step_recv h
    · exact queued_idle _ _
    rcases t with _ | ⟨d, p, pkt, t⟩
    · exact queued_idle _ _
    obtain ⟨-, rfl, -, -, rfl⟩ := SourceNNRecv.recv_frame _ _ _ (congrArg Prod.snd hr)
    exact queued_hold _ _
  | enqueue =>
    rcases step_enqueue h with ⟨rest, -, rfl⟩ | ⟨d, p, pkt, t, rest, hl, hdp, -, -, -, hok⟩
    · exact queued_idle _ _
    have hs' : s'.loop.frames = [] := by rcases hok with ⟨-, e⟩ | ⟨_, -, e⟩ <;> rw [e] <;> rfl
    rw [hs', hdp, hl]
    exact queued_enqueue_held _ _ pkt t

theorem queued_run : ∀ (acts : List (ActionNN τ)) {s s' : SysNN τ}, s.run acts = some s' →
    (s'.dp.queued ++ s'.loop.frames).Subperm
      (s.dp.queued ++ s.loop.frames ++ acts.flatMap ActionNN.frames)
  | [], _, _, h => by cases h; exact (List.sublist_append_left _ _).subperm
  | a :: as, s, _, h => by
    simp only [run] at h
    cases ha : s.step a with
    | none => rw [ha] at h; cases h
    | some s₁ =>
      rw [ha] at h
      rw [List.flatMap_cons, ← List.append_assoc]
      exact (queued_run as h).trans ((List.subperm_append_right _).mpr (queued_step ha))

end SysNN

/-- **No frame is queued twice or out of nowhere, in every interleaving.**  With raw-socket
ports and with nanomsg sources, whatever the callers and the capture loop interleave, the
frames in all queues together are a sub-multiset of the frames the capture loop read (for
a nanomsg source, the bytes after each message's header with the time of the read): a
frame read once is queued at most once, under one key. -/
theorem queued_frames_were_read (configQlen : Option Nat) :
    (∀ (acts : List (Action τ)) (s : Sys τ), (Sys.init configQlen).run acts = some s →
      s.dp.queued.Subperm (acts.flatMap Action.frames)) ∧
    ∀ (acts : List (ActionNN τ)) (s : SysNN τ), (SysNN.init configQlen).run acts = some s →
      s.dp.queued.Subperm (acts.flatMap ActionNN.frames) :=
  ⟨fun acts _ h => (List.sublist_append_left _ _).subperm.trans (Sys.queued_run acts h),
    fun acts _ h => (List.sublist_append_left _ _).subperm.trans (SysNN.queued_run acts h)⟩

/-- Of the two frames the loop read after a first call added its port, it appended the
first and holds the second: one frame is queued. -/
theorem capture_queues_the_frame_read :
    ∃ s : Sys Nat, (Sys.init none).run captureBeforeFlush = some s ∧
      s.dp.queued = [([1], 1)] ∧
      s.dp.queued.Subperm (captureBeforeFlush.flatMap Action.frames) := by
  obtain ⟨s, hs, hq⟩ := Option.map_eq_some'.mp
    (by decide : ((Sys.init none).run captureBeforeFlush).map (·.dp.queued) = some [([1], 1)])
  exact ⟨s, hs, hq, (queued_frames_were_read none).1 _ s hs⟩

end PtfDataplane
