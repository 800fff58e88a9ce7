/-
What the pcap tap records, in every interleaving.

`start_pcap` asserts that no tap is open and assigns a new one in a second statement,
both without the lock; only the locked second statement of `stop_pcap` detaches a tap.
While a tap is open, the capture loop writes each frame it reads to it, under the lock
and before it looks for the frame's queue, and `send` writes each packet it sends to a
registered port.  So a tap that stays open, with no caller past the assert of a
`start_pcap` and none about to close it, keeps every record it has and records every
frame the loop reads, in the order read, whatever the callers then do with the queues: a
frame that `flush`, `port_add` or a full queue drops from its queue, or whose lookup
kills the loop, is still in the tap.  A caller past the assert replaces the tap, records
and all.

* `Sys.pcapWriter_begin`, `Sys.pcapWriter_resume` — no call changes the tap when it
  begins, and every statement of a caller but the close of `stop_pcap` and the
  assignment of `start_pcap` leaves the tap or writes one record to it;
* `Caller.KeepsTap`, `Sys.keepsTap_begin` — with a tap open, no call but `stop_pcap`
  leads its caller to a statement that closes or replaces it;
* `Sys.Tapped`, `Sys.tapped_step`, `Sys.tapped_run` — the tap is still open, has kept
  its records, and has recorded the frames read but the one the loop holds between its
  `recv` and its enqueue; every step keeps it;
* `tap_records_every_frame_read` — from any state with an open tap, in every
  interleaving that does not stop the capture, the tap gains records that hold every
  frame the loop read, in the order read, but the one it still holds.
-/
import PtfDataplane.Flush

namespace PtfDataplane

/-- The caller's next statement neither closes the tap (the second statement of
`stop_pcap`) nor assigns a new one (the second statement of `start_pcap`). -/
def Caller.KeepsTap {τ : Type} (c : Caller τ) : Prop :=
  c ≠ .stopClose ∧ ∀ f, c ≠ .startAssign f

namespace Sys

variable {τ : Type}

/-- No call changes the tap when it begins: `start_pcap` and `stop_pcap` assign or
detach it only in a later statement. -/
theorem pcapWriter_begin (dp : DataPlane τ) (c : Call τ) :
    (begin dp c).1.pcapWriter = dp.pcapWriter := by
  cases hl : c.locked
  · rw [begin_dp_of_unlocked dp c hl]
  cases c with
  | portAdd => rfl
  | portRemove d p =>
    rw [SysNN.begin_portRemove]; unfold DataPlane.portRemove; split_ifs <;> rfl
  | _ => cases hl

/-- With a tap open, a call other than `stop_pcap` leads its caller to no statement that
closes or replaces it: `start_pcap` raises on the assert. -/
theorem keepsTap_begin {dp : DataPlane τ} (h : dp.pcapWriter.isSome) :
    ∀ {c : Call τ}, c ≠ .stopPcap → (begin dp c).2.KeepsTap
  | .portAdd .., _ | .flush, _ => ⟨nofun, nofun⟩
  | .portRemove .., _ => by simp only [begin]; split <;> exact ⟨nofun, nofun⟩
  | .send .., _ => by simp only [begin]; split_ifs <;> exact ⟨nofun, nofun⟩
  | .startPcap _, _ => by
    simp only [begin]
    split
    · exact ⟨nofun, nofun⟩
    · rename_i hn; rw [hn] at h; cases h
  | .stopPcap, hc => absurd rfl hc

/-- A statement that neither closes nor replaces the tap leaves it or writes one record
to it, and leads to no statement that closes or replaces it. -/
theorem pcapWriter_resume {dp : DataPlane τ} {c : Caller τ} {r : DataPlane τ × Caller τ}
    (hr : resume dp c = some r) (hc : c.KeepsTap) :
    r.2.KeepsTap ∧ (r.1.pcapWriter = dp.pcapWriter ∨
      ∃ x, r.1.pcapWriter = dp.pcapWriter.map fun w => { w with records := w.records ++ [x] }) := by
  cases c with
  | flushing ks => cases ks <;> cases hr <;> exact ⟨⟨nofun, nofun⟩, .inl rfl⟩
  | sendTap => cases hr; exact ⟨by split <;> exact ⟨nofun, nofun⟩, .inl rfl⟩
  | sendWrite k pkt now reply =>
    simp only [resume] at hr
    split at hr <;> cases hr
    · exact ⟨⟨nofun, nofun⟩, .inl rfl⟩
    · exact ⟨⟨nofun, nofun⟩, .inr ⟨_, rfl⟩⟩
  | sendPort =>
    simp only [resume] at hr; split at hr <;> cases hr <;> exact ⟨⟨nofun, nofun⟩, .inl rfl⟩
  | sendCount => cases hr; exact ⟨⟨nofun, nofun⟩, .inl rfl⟩
  | startAssign f => exact absurd rfl (hc.2 f)
  | stopClose => exact absurd rfl hc.1
  | idle | raised => cases hr

/-- The loop's enqueue writes the frame to the tap first, whether or not the lookup or
the eviction then raises. -/
theorem pcapWriter_enqueuePacket (dp : DataPlane τ) (d p : Int) (pkt : Packet) (t : τ) :
    (dp.enqueuePacket d p pkt t).1.pcapWriter = (dp.pcapWrite pkt t d p).pcapWriter := by
  rcases DataPlane.enqueuePacket_cases dp d p pkt t with
    ⟨-, he⟩ | ⟨_, -, -, he⟩ | ⟨_, _, -, -, he⟩ <;> rw [he]

/-- The tap `w₀` is still open and has kept its records, and its new records, followed
by the frame the loop holds, hold the frames `read`, in order. -/
def Tapped (w₀ : PcapWriter τ) (read : List (Packet × τ)) (s : Sys τ) : Prop :=
  ∃ rest, s.dp.pcapWriter = some ⟨w₀.filename, w₀.records ++ rest⟩ ∧
    read.Sublist (rest.map (fun r => (r.1, r.2.1)) ++ s.loop.frames)

section Tapped

variable {w₀ : PcapWriter τ} {read : List (Packet × τ)} {s s' : Sys τ}

theorem Tapped.isSome (h : Tapped w₀ read s) : s.dp.pcapWriter.isSome := by
  obtain ⟨_, hw, -⟩ := h; rw [hw]; rfl

theorem Tapped.of_pcapWriter (h : Tapped w₀ read s) (e : s'.dp.pcapWriter = s.dp.pcapWriter)
    (hl : s'.loop.frames = s.loop.frames) : Tapped w₀ read s' := by
  rwa [Tapped, e, hl]

/-- One more record, a packet sent, keeps the frames read recorded. -/
theorem Tapped.write (h : Tapped w₀ read s) {x : Packet × τ × Int × Int}
    (e : s'.dp.pcapWriter = s.dp.pcapWriter.map fun w => { w with records := w.records ++ [x] })
    (hl : s'.loop.frames = s.loop.frames) : Tapped w₀ read s' := by
  obtain ⟨rest, hw, hs⟩ := h
  refine ⟨rest ++ [x], by simp only [e, hw, Option.map_some', List.append_assoc], ?_⟩
  rw [hl, List.map_append, List.append_assoc]
  exact hs.trans ((List.sublist_append_right _ _).append_left _)

/-- The loop's `recv` holds the frame it reads. -/
theorem Tapped.recv (h : Tapped w₀ read s) (e : s'.dp.pcapWriter = s.dp.pcapWriter)
    (hl : s.loop.frames = []) {f : Packet × τ} (hl' : s'.loop.frames = [f]) :
    Tapped w₀ (read ++ [f]) s' := by
  obtain ⟨rest, hw, hs⟩ := h
  rw [hl, List.append_nil] at hs
  exact ⟨rest, by rw [e, hw], by rw [hl']; exact hs.append (.refl _)⟩

/-- The loop's enqueue records the frame it held. -/
theorem Tapped.enqueue (h : Tapped w₀ read s) {pkt : Packet} {t : τ} {d p : Int}
    (hl : s.loop.frames = [(pkt, t)]) (e : s'.dp.pcapWriter = (s.dp.pcapWrite pkt t d p).pcapWriter)
    (hl' : s'.loop.frames = []) : Tapped w₀ read s' := by
  obtain ⟨rest, hw, hs⟩ := h
  refine ⟨rest ++ [(pkt, t, d, p)], ?_, ?_⟩
  · simp only [e, DataPlane.pcapWrite, hw, Option.map_some', List.append_assoc]
  · rw [hl', List.append_nil, List.map_append]; rw [hl] at hs; exact hs

end Tapped

variable {w₀ : PcapWriter τ}

/-- Every step but a `stop_pcap` keeps the tap and the frames read recorded, and leads no
caller to close or replace the tap. -/
theorem tapped_step {s s' : Sys τ} {a : Action τ} {read : List (Packet × τ)}
    (h : s.step a = some s') (ht : Tapped w₀ read s) (hc : ∀ i, (s.callers i).KeepsTap)
    (ha : ∀ i, a ≠ .call i .stopPcap) :
    Tapped w₀ (read ++ a.frames) s' ∧ ∀ i, (s'.callers i).KeepsTap := by
  have hupd : ∀ (i : Nat) (c : Caller τ), c.KeepsTap →
      ∀ j, (Function.update s.callers i c j).KeepsTap := fun i c hc' j => by
    rw [Function.update_apply]; split_ifs; exacts [hc', hc j]
  have idle : s'.dp = s.dp → s.loop.frames = [] → s'.loop.frames = [] → Tapped w₀ read s' :=
    fun e hl hl' => ht.of_pcapWriter (by rw [e]) (by rw [hl, hl'])
  cases a with
  | call i c =>
    obtain ⟨-, -, rfl⟩ := step_call h
    refine ⟨?_, hupd i _ (keepsTap_begin ht.isSome fun e => ha i (by rw [e]))⟩
    simp only [Action.frames, List.append_nil]
    exact ht.of_pcapWriter (pcapWriter_begin _ c) rfl
  | next i =>
    obtain ⟨-, r, hr, rfl⟩ := step_next h
    obtain ⟨hr2, hw⟩ := pcapWriter_resume hr (hc i)
    refine ⟨?_, hupd i _ hr2⟩
    simp only [Action.frames, List.append_nil]
    rcases hw with hw | ⟨x, hw⟩
    exacts [ht.of_pcapWriter hw rfl, ht.write hw rfl]
  | snapshot =>
    obtain ⟨hl, rfl⟩ := step_snapshot h
    simp only [Action.frames, List.append_nil]
    exact ⟨idle rfl (by rw [hl]; rfl) rfl, hc⟩
  | select =>
    obtain ⟨_, hl, -, -, rfl⟩ := step_select h
    simp only [Action.frames, List.append_nil]
    exact ⟨idle rfl (by rw [hl]; rfl) rfl, hc⟩
  | release =>
    obtain ⟨hl, rfl⟩ := step_release h
    simp only [Action.frames, List.append_nil]
    exact ⟨idle rfl (by rw [hl]; rfl) rfl, hc⟩
  | recv pkt t =>
    obtain ⟨src, rest, hl, rfl⟩ := step_recv h
    exact ⟨ht.recv (by rfl) (by rw [hl]; rfl) (by rfl), hc⟩
  | enqueue =>
    obtain ⟨src, pkt, t, rest, hl, hdp, hc', hok⟩ := step_enqueue h
    have hl' : s'.loop.frames = [] := by rcases hok with ⟨-, e⟩ | ⟨_, -, e⟩ <;> rw [e] <;> rfl
    simp only [Action.frames, List.append_nil, hc']
    exact ⟨ht.enqueue (by rw [hl]; rfl) (by rw [hdp, pcapWriter_enqueuePacket]) hl', hc⟩

theorem tapped_run : ∀ (acts : List (Action τ)) {s s' : Sys τ} {read : List (Packet × τ)},
    s.run acts = some s' → Tapped w₀ read s → (∀ i, (s.callers i).KeepsTap) →
    (∀ i, .call i .stopPcap ∉ acts) → Tapped w₀ (read ++ acts.flatMap Action.frames) s'
  | [], _, _, _, h, ht, _, _ => by
    cases h; rw [List.flatMap_nil, List.append_nil]; exact ht
  | a :: as, s, _, _, h, ht, hc, hstop => by
    simp only [run] at h
    cases hs : s.step a with
    | none => rw [hs] at h; cases h
    | some s₁ =>
      rw [hs] at h
      obtain ⟨ht₁, hc₁⟩ := tapped_step hs ht hc fun i e => hstop i (e ▸ List.mem_cons_self _ _)
      rw [List.flatMap_cons, ← List.append_assoc]
      exact tapped_run as h ht₁ hc₁ (fun i hi => hstop i (List.mem_cons_of_mem _ hi))

end Sys

/-- **An open tap records every frame the capture loop reads.**  From any state with a
pcap tap open and no caller about to close it or past the assert of a `start_pcap`, in
every interleaving of the callers with the capture loop over raw-socket ports that calls
no `stop_pcap`, the tap is still open under its file name, has kept its records, and its
new records hold every frame the loop read, the one it held at the start included, in
the order read, among the packets `send` wrote, but for the frame the loop still holds
between its `recv` and its enqueue: whatever the queues then did with the frames, and
even once the loop has died. -/
theorem tap_records_every_frame_read {τ : Type} {s s' : Sys τ} {w : PcapWriter τ}
    (acts : List (Action τ)) (hw : s.dp.pcapWriter = some w)
    (hcallers : ∀ i, (s.callers i).KeepsTap) (hstop : ∀ i, .call i .stopPcap ∉ acts)
    (hrun : s.run acts = some s') :
    ∃ rest, s'.dp.pcapWriter = some ⟨w.filename, w.records ++ rest⟩ ∧
      (s.loop.frames ++ acts.flatMap Action.frames).Sublist
        (rest.map (fun r => (r.1, r.2.1)) ++ s'.loop.frames) :=
  Sys.tapped_run acts hrun ⟨[], by rw [hw, List.append_nil], List.Sublist.refl _⟩ hcallers hstop

/-- Two `start_pcap` calls both pass the assert before either assigns: the second
assignment replaces the tap the first opened, with the frame it had recorded. -/
example : ((Sys.init none : Sys Nat).run
    ([.call 0 (.portAdd "eth0" 0 1), .call 1 (.startPcap "a.pcap"), .call 2 (.startPcap "b.pcap"),
      .next 1, .snapshot, .select [⟨"eth0", 0, 1, 0⟩]] ++ Action.drain [([1], 1)] ++
      [.next 2])).map (fun s => s.dp.pcapWriter.map fun w => (w.filename, w.records.length)) =
      some (some ("b.pcap", 0)) := by
  decide

/-- A tap opened after a first call added port `(0, 1)`, with no call in progress. -/
def tapOpen : Sys Nat :=
  ⟨(((DataPlane.init none).portAdd "eth0" 0 1).startPcap "cap.pcap").1, .top, fun _ => .idle⟩

/-- The loop reads a frame on `(0, 1)`, then a `flush` empties its queue. -/
def captureThenFlush : List (Action Nat) :=
  [.snapshot, .select [⟨"eth0", 0, 1, 0⟩]] ++ Action.drain [([1], 1)] ++
    [.call 1 .flush, .next 1, .next 1]

theorem tap_keeps_flushed_frame :
    ∃ s', tapOpen.dp.pcapWriter = some ⟨"cap.pcap", []⟩ ∧
      (∀ i, (tapOpen.callers i).KeepsTap) ∧ (∀ i, .call i .stopPcap ∉ captureThenFlush) ∧
      tapOpen.run captureThenFlush = some s' ∧ s'.dp.queue (0, 1) = some [] ∧
      ∃ rest, s'.dp.pcapWriter = some ⟨"cap.pcap", [] ++ rest⟩ ∧
        (tapOpen.loop.frames ++ captureThenFlush.flatMap Action.frames).Sublist
          (rest.map (fun r => (r.1, r.2.1)) ++ s'.loop.frames) := by
  obtain ⟨s', hs', hq⟩ := Option.map_eq_some'.mp (by decide :
    (tapOpen.run captureThenFlush).map (·.dp.queue (0, 1)) = some (some []))
  have hw : tapOpen.dp.pcapWriter = some ⟨"cap.pcap", []⟩ := rfl
  have hc : ∀ i, (tapOpen.callers i).KeepsTap := fun _ => ⟨nofun, nofun⟩
  have hst : ∀ i, .call i .stopPcap ∉ captureThenFlush := by simp [captureThenFlush, Action.drain]
  exact ⟨s', hw, hc, hst, hs', hq, tap_records_every_frame_read captureThenFlush hw hc hst hs'⟩

end PtfDataplane
