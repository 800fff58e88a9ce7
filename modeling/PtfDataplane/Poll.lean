/-
`poll`: matching the expected frame, and the inner `grab`.

`grab` walks `packets(device, port)` under the lock: it records each frame it takes in
`grab_log` (a `deque(maxlen=3)` of recent frames and a count), skips a frame that a
filter rejects or that does not match `exp_pkt`, and returns `PollSuccess` at the first
frame that passes both.  `Wanted` states the matching rules in their own words, and
`filterCheck_and_expMatches_iff` shows the code's tests are those rules (for a byte
string, `match_exp_pkt` compares a prefix of the frame when the string is shorter than
60 bytes).  `GrabLog.ofTaken` is what `grab_log` holds after a list of taken frames: the
last three of them and their number.

* `grab_of_error`, `grab_of_stop`, `grab_of_take`, `grab_of_skip` — `grab`, one resumption
  of `packets` at a time;
* `grab_takes_through_first_wanted` — `grab` takes the frames `packets` yields up to and
  including the first wanted one and returns it, leaving the rest queued, or takes them
  all and returns `None`; with a port whose key has no queue it raises `KeyError`.
-/
import PtfDataplane.Drain

namespace PtfDataplane

/-- `exp_pkt` when it is not `None`: the bytes of a frame (`bytes(exp_pkt)` of a byte
string or a packet object), or a `mask.Mask`, given by what its `is_valid()` and
`pkt_match(pkt)` return (`ptf/mask.py` is not among these sources). -/
inductive Expected
  | bytes (e : Packet)
  | mask (isValid : Bool) (pktMatch : Packet → Bool)

/-- The truth value of `exp_pkt`: an empty byte string is false, a mask object true. -/
def Expected.truthy : Expected → Bool
  | .bytes e => !e.isEmpty
  | .mask _ _ => true

/-- `match_exp_pkt(exp_pkt, pkt)`. -/
def matchExpPkt (expPkt : Expected) (pkt : Packet) : Bool :=
  match expPkt with
  | .mask isValid pktMatch => if !isValid then false else pktMatch pkt
  | .bytes e =>
    let p := if e.length < 60 then pkt.take e.length else pkt
    e == p

/-- `filter_check(pkt)`: every filter accepts the frame. -/
def filterCheck (filters : List (Packet → Bool)) (pkt : Packet) : Bool :=
  filters.all fun f => f pkt

/-- `not exp_pkt or match_exp_pkt(exp_pkt, pkt)`. -/
def expMatches : Option Expected → Packet → Bool
  | none, _ => true
  | some e, pkt => !e.truthy || matchExpPkt e pkt

/-- The frames `poll` looks for, as its matching rules state them: every filter accepts
the frame and, when `expected` is given, a mask reports itself valid and matches the
frame, or a byte string is a prefix of the frame when shorter than 60 bytes and equal to
it otherwise. -/
def Wanted (filters : List (Packet → Bool)) (expPkt : Option Expected) (pkt : Packet) : Prop :=
  (∀ f ∈ filters, f pkt = true) ∧
    match expPkt with
    | none => True
    | some (.bytes e) => if e.length < 60 then e <+: pkt else e = pkt
    | some (.mask isValid pktMatch) => isValid = true ∧ pktMatch pkt = true

theorem expMatches_iff (expPkt : Option Expected) (pkt : Packet) :
    expMatches expPkt pkt = true ↔ (Wanted [] expPkt pkt) := by
  simp only [Wanted, List.not_mem_nil, false_imp_iff, imp_true_iff, true_and]
  rcases expPkt with _ | e | ⟨v, m⟩
  · simp [expMatches]
  · dsimp only
    by_cases hl : e.length < 60
    · rw [if_pos hl, List.prefix_iff_eq_take]
      cases e with
      | nil => simp [expMatches, Expected.truthy]
      | cons b bs =>
        rw [List.length_cons] at hl
        simp [expMatches, Expected.truthy, matchExpPkt, hl]
    · have hne : e ≠ [] := by rintro rfl; simp at hl
      simp [expMatches, Expected.truthy, matchExpPkt, hl, List.isEmpty_iff, hne]
  · cases v <;> simp [expMatches, Expected.truthy, matchExpPkt]

/-- The two tests of `grab` are the matching rules. -/
theorem filterCheck_and_expMatches_iff (filters : List (Packet → Bool))
    (expPkt : Option Expected) (pkt : Packet) :
    filterCheck filters pkt = true ∧ expMatches expPkt pkt = true ↔ Wanted filters expPkt pkt := by
  rw [expMatches_iff]
  simp only [filterCheck, List.all_eq_true, Wanted, List.not_mem_nil, false_imp_iff,
    imp_true_iff, true_and]

/-- `DataPlane.PollSuccess(device, port, packet, expected_packet, time)`. -/
structure PollSuccess (τ : Type) where
  device : Int
  port : Int
  packet : Packet
  expectedPacket : Option Expected
  time : τ

/-- A `collections.deque(maxlen=maxlen)`: it never holds more than `maxlen` items. -/
@[ext]
structure BoundedDeque (α : Type) (maxlen : Nat) where
  items : List α
  length_le : items.length ≤ maxlen

/-- `deque.append(x)`: on a full deque the oldest item is dropped. -/
def BoundedDeque.append {α : Type} {maxlen : Nat} (d : BoundedDeque α maxlen) (x : α) :
    BoundedDeque α maxlen :=
  ⟨(d.items ++ [x]).drop (d.items.length + 1 - maxlen), by
    rw [List.length_drop, List.length_append, List.length_singleton]; omega⟩

/-- `DataPlane.POLL_MAX_RECENT_PACKETS`. -/
def pollMaxRecentPackets : Nat := 3

/-- `grab_log`, shared by the calls of `grab` within one `poll`. -/
@[ext]
structure GrabLog where
  recentPackets : BoundedDeque Packet pollMaxRecentPackets
  packetCount : Nat

namespace GrabLog

/-- `grab_log` as `poll` builds it. -/
def init : GrabLog := ⟨⟨[], Nat.zero_le _⟩, 0⟩

/-- `grab_log["recent_packets"].append(pkt)` and `grab_log["packet_count"] += 1`. -/
def record (log : GrabLog) (pkt : Packet) : GrabLog :=
  ⟨log.recentPackets.append pkt, log.packetCount + 1⟩

/-- What `grab_log` holds once `poll` has taken the frames `taken`, in order: the last
`min 3 taken.length` of them, and their number. -/
def ofTaken (taken : List Packet) : GrabLog :=
  ⟨⟨taken.drop (taken.length - pollMaxRecentPackets), by rw [List.length_drop]; omega⟩,
    taken.length⟩

theorem init_eq_ofTaken : init = ofTaken [] := rfl

theorem record_ofTaken (taken : List Packet) (pkt : Packet) :
    (ofTaken taken).record pkt = ofTaken (taken ++ [pkt]) := by
  ext1
  · apply BoundedDeque.ext
    simp only [record, ofTaken, BoundedDeque.append, List.length_drop, List.length_append,
      List.length_singleton, pollMaxRecentPackets]
    rw [← List.drop_append_of_le_length (by omega), List.drop_drop]
    congr 1
    omega
  · exact (List.length_append taken [pkt]).symm

theorem foldl_record_ofTaken (taken pkts : List Packet) :
    pkts.foldl record (ofTaken taken) = ofTaken (taken ++ pkts) := by
  induction pkts generalizing taken with
  | nil => simp
  | cons pkt pkts ih => rw [List.foldl_cons, record_ofTaken, ih]; simp

end GrabLog

namespace DataPlane

variable {τ : Type} [LinearOrder τ]

/-- The loop of `grab` with at most `fuel` resumptions of `packets(device, port)`. -/
def grabUpTo (device : Int) (port : Option Int) (expPkt : Option Expected)
    (filters : List (Packet → Bool)) :
    Nat → DataPlane τ → GrabLog → DataPlane τ × GrabLog × Except PyError (Option (PollSuccess τ))
  | 0, dp, log => (dp, log, .ok none)
  | fuel + 1, dp, log =>
    match dp.packetsNext device port with
    | (dp, .error err) => (dp, log, .error err)
    | (dp, .ok none) => (dp, log, .ok none)
    | (dp, .ok (some (rcvPort, pkt, time))) =>
      let log := log.record pkt
      if !filterCheck filters pkt then grabUpTo device port expPkt filters fuel dp log
      else if expMatches expPkt pkt then
        (dp, log, .ok (some ⟨device, rcvPort, pkt, expPkt, time⟩))
      else grabUpTo device port expPkt filters fuel dp log

/-- `grab()` of `DataPlane.poll`, run under the lock: every resumption of `packets` but
the last pops a frame of the device, so `framesOf + 1` of them reach its end. -/
def grab (dp : DataPlane τ) (device : Int) (port : Option Int) (expPkt : Option Expected)
    (filters : List (Packet → Bool)) (log : GrabLog) :
    DataPlane τ × GrabLog × Except PyError (Option (PollSuccess τ)) :=
  grabUpTo device port expPkt filters (dp.framesOf device + 1) dp log

section Resume

variable {dp dp₁ : DataPlane τ} {d : Int} {port : Option Int} {expPkt : Option Expected}
  {filters : List (Packet → Bool)} {log : GrabLog}

theorem grab_of_error {err : PyError} (h : dp.packetsNext d port = (dp₁, .error err)) :
    dp.grab d port expPkt filters log = (dp₁, log, .error err) := by
  simp only [grab, grabUpTo, h]

theorem grab_of_stop (h : dp.packetsNext d port = (dp₁, .ok none)) :
    dp.grab d port expPkt filters log = (dp₁, log, .ok none) := by
  simp only [grab, grabUpTo, h]

theorem grab_of_take {r : Int} {pkt : Packet} {t : τ}
    (h : dp.packetsNext d port = (dp₁, .ok (some (r, pkt, t))))
    (hw : Wanted filters expPkt pkt) :
    dp.grab d port expPkt filters log =
      (dp₁, log.record pkt, .ok (some ⟨d, r, pkt, expPkt, t⟩)) := by
  obtain ⟨hf, he⟩ := (filterCheck_and_expMatches_iff filters expPkt pkt).mpr hw
  simp only [grab, grabUpTo, h, hf, he, Bool.not_true, Bool.false_eq_true, if_false, if_true]

theorem grab_of_skip {r : Int} {pkt : Packet} {t : τ}
    (h : dp.packetsNext d port = (dp₁, .ok (some (r, pkt, t))))
    (hw : ¬ Wanted filters expPkt pkt) :
    dp.grab d port expPkt filters log = dp₁.grab d port expPkt filters (log.record pkt) := by
  rw [← filterCheck_and_expMatches_iff] at hw
  simp only [grab, grabUpTo, h, ← framesOf_packetsNext h]
  by_cases hf : filterCheck filters pkt = true
  · have he : expMatches expPkt pkt = false := by simpa [hf] using hw
    simp only [hf, he, Bool.not_true, Bool.false_eq_true, if_false]
  · simp only [hf, Bool.not_false, if_true]

/-- While the port given has a queue, no resumption of `grab` raises: each keeps the
queue, and the port `oldest_port_number` picks has one. -/
theorem grab_ne_keyError_of_lt (n : Nat) :
    ∀ (dp : DataPlane τ) (log : GrabLog), dp.framesOf d < n →
      (∀ p, port = some p → (dp.queue (d, p)).isSome) →
      (dp.grab d port expPkt filters log).2.2 ≠ .error .keyError := by
  induction n with
  | zero => intro _ _ h; omega
  | succ n ih =>
    intro dp log hn hq
    rcases hr : dp.packetsNext d port with ⟨dp₁, err | _ | ⟨r, pkt, t⟩⟩
    · obtain ⟨-, p, rfl, hp⟩ := (packetsNext_error_iff dp d port err).mp (by rw [hr])
      simp [hp] at hq
    · simp [grab_of_stop hr]
    · by_cases hw : Wanted filters expPkt pkt
      · simp [grab_of_take hr hw]
      · have hframes := framesOf_packetsNext hr
        have hq₁ := packetsNext_queue_isSome dp d port
        rw [hr] at hq₁
        rw [grab_of_skip hr hw]
        exact ih dp₁ _ (by omega) fun p hp => (hq₁ _).trans (hq p hp)

end Resume

/-- `grab` raises `KeyError` exactly when it is given a port whose key has no queue. -/
theorem grab_keyError_iff (dp : DataPlane τ) (d : Int) (port : Option Int)
    (expPkt : Option Expected) (filters : List (Packet → Bool)) (log : GrabLog) :
    (dp.grab d port expPkt filters log).2.2 = .error .keyError ↔
      ∃ p, port = some p ∧ dp.queue (d, p) = none := by
  constructor
  · intro h
    by_contra hne
    refine grab_ne_keyError_of_lt _ dp log (Nat.lt_succ_self _) (fun p hp => ?_) h
    exact Option.isSome_iff_ne_none.mpr fun hq => hne ⟨p, hp, hq⟩
  · rintro ⟨p, rfl, hq⟩
    rw [grab_of_error (by rw [packetsNext_some, hq])]

/-- `grab` returns the first wanted frame of the drain, having taken the frames before it. -/
theorem grab_first_wanted (d : Int) (port : Option Int) (expPkt : Option Expected)
    (filters : List (Packet → Bool)) (dpEnd : DataPlane τ) (f : Int × Packet × τ)
    (post : List (Int × Packet × τ)) (hf : Wanted filters expPkt f.2.1) :
    ∀ (pre : List (Int × Packet × τ)) (dp : DataPlane τ) (log : GrabLog),
      dp.packets d port = (dpEnd, .ok (pre ++ f :: post)) →
      (∀ y ∈ pre, ¬ Wanted filters expPkt y.2.1) →
      ∃ dp', dp.grab d port expPkt filters log =
          (dp', (pre ++ [f]).foldl (fun log y => log.record y.2.1) log,
            .ok (some ⟨d, f.1, f.2.1, expPkt, f.2.2⟩)) ∧
        dp'.packets d port = (dpEnd, .ok post) := by
  intro pre
  induction pre with
  | nil =>
    intro dp log h _
    rcases hn : dp.packetsNext d port with ⟨dp₁, err | _ | ⟨r, pkt, t⟩⟩
    · simp [packets_of_error hn] at h
    · simp [packets_of_stop hn] at h
    · obtain ⟨ys₁, hys, hrest⟩ := packets_ok_of_yield hn h
      obtain ⟨rfl, rfl⟩ := List.cons.inj hys
      exact ⟨dp₁, grab_of_take hn hf, hrest⟩
  | cons x pre ih =>
    intro dp log h hpre
    rcases hn : dp.packetsNext d port with ⟨dp₁, err | _ | ⟨r, pkt, t⟩⟩
    · simp [packets_of_error hn] at h
    · simp [packets_of_stop hn] at h
    · obtain ⟨ys₁, hys, hrest⟩ := packets_ok_of_yield hn h
      obtain ⟨rfl, rfl⟩ := List.cons.inj hys
      rw [grab_of_skip hn (hpre _ (List.mem_cons_self _ _))]
      exact ih dp₁ _ hrest fun y hy => hpre y (List.mem_cons_of_mem _ hy)

/-- When no frame of the drain is wanted, `grab` takes them all and returns `None`. -/
theorem grab_none_wanted (d : Int) (port : Option Int) (expPkt : Option Expected)
    (filters : List (Packet → Bool)) (dpEnd : DataPlane τ) :
    ∀ (ys : List (Int × Packet × τ)) (dp : DataPlane τ) (log : GrabLog),
      dp.packets d port = (dpEnd, .ok ys) → (∀ y ∈ ys, ¬ Wanted filters expPkt y.2.1) →
      dp.grab d port expPkt filters log =
        (dpEnd, ys.foldl (fun log y => log.record y.2.1) log, .ok none) := by
  intro ys
  induction ys with
  | nil =>
    intro dp log h _
    rcases hn : dp.packetsNext d port with ⟨dp₁, err | _ | ⟨r, pkt, t⟩⟩
    · simp [packets_of_error hn] at h
    · obtain ⟨rfl, -⟩ := Prod.mk.inj (h.symm.trans (packets_of_stop hn))
      exact grab_of_stop hn
    · obtain ⟨_, hys, _⟩ := packets_ok_of_yield hn h
      cases hys
  | cons x ys ih =>
    intro dp log h hno
    rcases hn : dp.packetsNext d port with ⟨dp₁, err | _ | ⟨r, pkt, t⟩⟩
    · simp [packets_of_error hn] at h
    · simp [packets_of_stop hn] at h
    · obtain ⟨ys₁, hys, hrest⟩ := packets_ok_of_yield hn h
      obtain ⟨rfl, rfl⟩ := List.cons.inj hys
      rw [grab_of_skip hn (hno _ (List.mem_cons_self _ _))]
      exact ih dp₁ _ hrest fun y hy => hno y (List.mem_cons_of_mem _ hy)

/-- **What one `grab` does.**  Starting from the `grab_log` of the frames `taken` so far
in this `poll`: with a port whose key has no queue, `grab` raises `KeyError` and changes
nothing; when the drain of `packets(device, port)` holds a wanted frame, `grab` takes
the frames up to and including the first one, returns it as `PollSuccess` and leaves
the rest of the drain queued; when it holds none, `grab` takes them all and returns
`None`.  Either way `grab_log` ends as the log of every frame taken so far. -/
theorem grab_takes_through_first_wanted (dp : DataPlane τ) (d : Int) (port : Option Int)
    (expPkt : Option Expected) (filters : List (Packet → Bool)) (taken : List Packet) :
    (∀ p, port = some p → dp.queue (d, p) = none →
      dp.grab d port expPkt filters (GrabLog.ofTaken taken) =
        (dp, GrabLog.ofTaken taken, .error .keyError)) ∧
    (∀ dpEnd pre f post, dp.packets d port = (dpEnd, .ok (pre ++ f :: post)) →
      (∀ y ∈ pre, ¬ Wanted filters expPkt y.2.1) → Wanted filters expPkt f.2.1 →
      ∃ dp', dp.grab d port expPkt filters (GrabLog.ofTaken taken) =
          (dp', GrabLog.ofTaken (taken ++ (pre ++ [f]).map fun y => y.2.1),
            .ok (some ⟨d, f.1, f.2.1, expPkt, f.2.2⟩)) ∧
        dp'.packets d port = (dpEnd, .ok post)) ∧
    (∀ dpEnd ys, dp.packets d port = (dpEnd, .ok ys) →
      (∀ y ∈ ys, ¬ Wanted filters expPkt y.2.1) →
      dp.grab d port expPkt filters (GrabLog.ofTaken taken) =
        (dpEnd, GrabLog.ofTaken (taken ++ ys.map fun y => y.2.1), .ok none)) := by
  refine ⟨fun p hp hq => ?_, fun dpEnd pre f post h hpre hf => ?_, fun dpEnd ys h hno => ?_⟩
  · subst hp
    exact grab_of_error (by rw [packetsNext_some, hq])
  · rw [← GrabLog.foldl_record_ofTaken, List.foldl_map]
    exact grab_first_wanted d port expPkt filters dpEnd f post hf pre dp _ h hpre
  · rw [← GrabLog.foldl_record_ofTaken, List.foldl_map]
    exact grab_none_wanted d port expPkt filters dpEnd ys dp _ h hno

/-- `grab` on a port that was never added: no frame is wanted, and yet it does not
return `None` but raises the `KeyError` of `packets`. -/
theorem grab_raises_on_port_without_queue :
    ((init none : DataPlane Nat).grab 0 (some 1) none [] GrabLog.init).2.2 = .error .keyError :=
  rfl

end DataPlane

end PtfDataplane
