/-
Frames the nanomsg capture loop drops.

On the `nn` platform `recv` returns a frame only for a number in its source's port set,
and every number in a set is registered on that source (`nn_port_sets_within_registry`).
So the capture loop queues frames only under registered keys: after `port_remove` the
key's queue is gone, or empty when a `flush` walking an older key list recreates it, and
stays so.  A re-add is worse: `port_add` on a key registered on the same interface builds
the new port object, whose number is already in its source's set, then finalises the old
one, which takes the number out (`nn_port_set_lost_on_re_add`).  The engine keeps the key
registered with a new empty queue, and from then on `recv` drops every frame the peer
sends for it, until another `port_add` or `port_remove` of the key.  Both rest on the
model's assumption that a port object's finaliser runs inside the call that drops it.

* `UnregisteredEmpty.begin`, `UnregisteredEmpty.resume`, `UnregisteredEmpty.enqueuePacket`
  — no statement of a caller, and no enqueue of a frame for a registered key, puts a frame
  under a key no port is registered under;
* `nn_unregistered_keys_hold_no_frames` — in every interleaving, a key no port is
  registered under has no queue or an empty one;
* `deaf_portAdd`, `Deaf.begin`, `Deaf.resume`, `DeafNN.step` — the re-add leaves the key
  `Deaf`, and every step that names another key keeps it, a frame the loop holds being
  for another key;
* `nn_re_added_port_stays_deaf` — in every interleaving after the re-add in which no
  `port_add` or `port_remove` names the key, the key stays registered and its queue empty.
-/
import PtfDataplane.Capacity

namespace PtfDataplane

/-! ## Unregistered keys hold no frames -/

namespace DataPlane

variable {τ : Type} {dp : DataPlane τ}

/-- Every key no port is registered under has no queue, or an empty one. -/
def UnregisteredEmpty (dp : DataPlane τ) : Prop :=
  ∀ k, k ∉ dp.ports.keys → ∀ q, dp.queue k = some q → q = []

theorem UnregisteredEmpty.begin (h : dp.UnregisteredEmpty) (c : Call τ) :
    (Sys.begin dp c).1.UnregisteredEmpty := by
  cases hl : c.locked
  · rw [Sys.begin_dp_of_unlocked dp c hl]; exact h
  cases c with
  | portAdd i d p =>
    intro k hk q hq
    have hk' := not_or.mp (mt (Dict.mem_keys_set _ _ _ _).mpr hk)
    exact h k hk'.2 q ((Dict.get?_set_ne _ _ hk'.1).symm.trans hq)
  | portRemove d p =>
    rw [SysNN.begin_portRemove]
    unfold DataPlane.portRemove
    split_ifs with hp hq'
    · intro k hk q hq
      by_cases he : k = (d, p)
      · subst he; simp [queue] at hq
      · exact h k (fun hm => hk ((Dict.mem_keys_erase _ _ _).mpr ⟨he, hm⟩)) q
          ((Dict.get?_erase_ne _ he).symm.trans hq)
    · intro k hk q hq
      by_cases he : k = (d, p)
      · subst he
        have hq₀ : dp.packetQueues.get? (d, p) = some q := hq
        exact absurd ((Dict.mem_keys_iff _ _).mpr (by rw [hq₀]; rfl)) hq'
      · exact h k (fun hm => hk ((Dict.mem_keys_erase _ _ _).mpr ⟨he, hm⟩)) q hq
    · exact h
  | _ => cases hl

theorem UnregisteredEmpty.resume (h : dp.UnregisteredEmpty) {c : Caller τ}
    {r : DataPlane τ × Caller τ} (hr : Sys.resume dp c = some r) : r.1.UnregisteredEmpty := by
  intro k hk q hq
  rw [Sys.resume_ports hr] at hk
  rcases Sys.resume_packetQueues hr with e | ⟨k', e⟩ <;> simp only [queue, e] at hq
  · exact h k hk q hq
  · rw [Dict.get?_set] at hq
    split_ifs at hq
    · exact (Option.some.inj hq).symm
    · exact h k hk q hq

/-- The enqueue of a frame for a registered key puts nothing under another key. -/
theorem UnregisteredEmpty.enqueuePacket (h : dp.UnregisteredEmpty) {d p : Int}
    (hreg : (d, p) ∈ dp.ports.keys) (pkt : Packet) (t : τ) :
    (dp.enqueuePacket d p pkt t).1.UnregisteredEmpty := by
  intro k' hk' q hq
  rw [DataPlane.enqueuePacket_ports] at hk'
  have hne : k' ≠ (d, p) := fun he => hk' (he ▸ hreg)
  rcases DataPlane.enqueuePacket_cases dp d p pkt t with
    ⟨-, he'⟩ | ⟨_, -, -, he'⟩ | ⟨_, kept, -, -, he'⟩ <;> rw [he'] at hq
  · exact h k' hk' q hq
  · exact h k' hk' q hq
  · exact h k' hk' q ((Dict.get?_set_ne _ (kept ++ [(pkt, t)]) hne).symm.trans hq)

/-- With the frame the loop holds registered (`InvNN`), no step puts a frame under an
unregistered key. -/
theorem UnregisteredEmpty.step {s s' : SysNN τ} (h : s.dp.UnregisteredEmpty) (hi : SysNN.InvNN s)
    {a : ActionNN τ} (hs : s.step a = some s') : s'.dp.UnregisteredEmpty := by
  rcases SysNN.step_dp_cases hs with e | ⟨c, e⟩ | ⟨c, r, hr, e⟩ | ⟨d, p, pkt, t, rest, hl, e⟩ <;>
    rw [e]
  · exact h
  · exact h.begin c
  · exact h.resume hr
  · exact h.enqueuePacket (hi.pending d p pkt t rest hl) pkt t

end DataPlane

theorem SysNN.unregisteredEmpty_of_reachable {τ : Type} [LinearOrder τ] {configQlen : Option Nat}
    {s : SysNN τ} (hs : ReachableNN configQlen s) : s.dp.UnregisteredEmpty := by
  induction hs with
  | init => intro k _ q hq; simp [SysNN.init, DataPlane.init, DataPlane.queue] at hq
  | step _ hr h ih => exact ih.step (SysNN.invNN_of_reachable hr) h

/-- **On nn, a key no port is registered under holds no frame.**  In every interleaving of
the callers with the capture loop, whatever the peer sends, a key that no port is
registered under has no queue, or an empty one that a `flush` walking an older key list
recreated: after `port_remove` no `poll` or `packets` ever returns a frame for the key,
until it is added again.  With raw-socket ports a frame read from a port object selected
before its `port_remove` can be queued under such a recreated queue.  This rests on the
finaliser of the removed port object running inside `port_remove`. -/
theorem nn_unregistered_keys_hold_no_frames {τ : Type} [LinearOrder τ] {configQlen : Option Nat}
    {s : SysNN τ} (hs : ReachableNN configQlen s) (k : PortId) (hk : k ∉ s.dp.ports.keys)
    (q : List (Packet × τ)) (hq : s.dp.queue k = some q) : q = [] :=
  SysNN.unregisteredEmpty_of_reachable hs k hk q hq

/-- A `flush` that listed the key before its `port_remove` recreates its queue, and the
loop reads a `PACKET_OUT` for the removed port from the source selected before the
removal: it drops the frame, counts nothing and goes on. -/
theorem removed_port_frame_dropped :
    ∃ s : SysNN Nat, ReachableNN none s ∧ s.loop = .top ∧ s.dp.rxCounters (0, 1) = 0 ∧
      (0, 1) ∉ s.dp.ports.keys ∧ s.dp.queue (0, 1) = some [] ∧
      ∀ q, s.dp.queue (0, 1) = some q → q = [] := by
  obtain ⟨s, hs, hl, hc, hk, hq⟩ : ∃ s : SysNN Nat, ReachableNN none s ∧ s.loop = .top ∧
      s.dp.rxCounters (0, 1) = 0 ∧ (0, 1) ∉ s.dp.ports.keys ∧ s.dp.queue (0, 1) = some [] :=
    exists_reachableNN_of_run none
      ([.call 0 (.portAdd "ipc://a" 0 1), .call 1 .flush, .snapshot, .call 0 (.portRemove 0 1),
        .next 1, .select [(0, "ipc://a")]] ++ ActionNN.drain [((PeerMsg.packetOut 1 [7]).encode, 3)])
      (by decide)
  exact ⟨s, hs, hl, hc, hk, hq, fun q hq' => nn_unregistered_keys_hold_no_frames hs _ hk q hq'⟩

/-- The same interleaving with a raw-socket port queues the frame under the removed key. -/
example : ((Sys.init none : Sys Nat).run
    ([.call 0 (.portAdd "eth0" 0 1), .call 1 .flush, .snapshot, .call 0 (.portRemove 0 1),
      .next 1, .select [⟨"eth0", 0, 1, 0⟩]] ++ Action.drain [([7], 3)])).map
      (fun s => (decide ((0, 1) ∈ s.dp.ports.keys), s.dp.queue (0, 1))) =
    some (false, some [([7], 3)]) := by
  decide

/-! ## A re-added key stays deaf -/

/-- Whether a call is `port_add` or `port_remove` on the key `(d, p)`. -/
def Call.touches {τ : Type} (d p : Int) : Call τ → Bool
  | .portAdd _ d' p' | .portRemove d' p' => decide ((d', p') = (d, p))
  | _ => false

/-- Whether an action is a call of `port_add` or `port_remove` on the key `(d, p)`. -/
def ActionNN.touches {τ : Type} (d p : Int) : ActionNN τ → Bool
  | .call _ c => c.touches d p
  | _ => false

variable {τ : Type}

/-- The key `(d, p)` is registered with an empty queue, and no source of device `d` has
`p` in its set, so `recv` drops every frame for it. -/
structure Deaf (d p : Int) (dp : DataPlane τ) (w : WorldNN) : Prop where
  registered : (d, p) ∈ dp.ports.keys
  empty : dp.queue (d, p) = some []
  unheard : ∀ i, p ∉ w.portsOf (d, i)

/-- `port_add(i, d, p)` on a key registered on interface `i`: the new queue is empty, and
the number leaves the set of the one source that had it. -/
theorem deaf_portAdd {w : WorldNN} {dp : DataPlane τ} (hw : w.SetsRegistered)
    (hr : RegistryMatches w dp) {d p : Int} {o : Port} (ho : dp.ports.get? (d, p) = some o) :
    Deaf d p (dp.portAdd o.interfaceName d p) (w.portAdd o.interfaceName d p) := by
  have hwo : w.ports.get? (d, p) = some ⟨o.interfaceName, d, p⟩ := by
    have h := hr (d, p)
    rw [ho] at h
    rw [h]
    exact congrArg some (hw.keyed d p _ h)
  refine ⟨(Dict.mem_keys_set _ _ _ _).mpr (.inl rfl), Dict.get?_set_self _ _ _, fun i hp => ?_⟩
  obtain ⟨hp, hold⟩ := (WorldNN.mem_portsOf_portAdd hw _ d p _ p).mp hp
  have hi : i ≠ o.interfaceName := fun hi => hold _ hwo ⟨by rw [hi], rfl⟩
  rw [WorldNN.portsOf_construct, if_neg (by simpa using hi)] at hp
  have h := hw.registered d i p hp
  rw [hwo] at h
  exact hi (PortNN.mk.inj (Option.some.inj h)).1.symm

namespace Deaf

variable {d p : Int}

theorem resume {dp : DataPlane τ} {w : WorldNN} (h : Deaf d p dp w) {c : Caller τ}
    {r : DataPlane τ × Caller τ} (hr : Sys.resume dp c = some r) : Deaf d p r.1 w := by
  refine ⟨Sys.resume_ports hr ▸ h.registered, ?_, h.unheard⟩
  rcases Sys.resume_packetQueues hr with e | ⟨k, e⟩ <;> simp only [DataPlane.queue, e]
  · exact h.empty
  · rw [Dict.get?_set]
    split_ifs
    · rfl
    · exact h.empty

/-- A call that names another key leaves the key deaf. -/
theorem begin {dp : DataPlane τ} {w : WorldNN} (h : Deaf d p dp w) (hw : w.SetsRegistered)
    (c : Call τ) (hc : c.touches d p = false) : Deaf d p (Sys.begin dp c).1 (w.call c) := by
  cases hl : c.locked
  · rw [Sys.begin_dp_of_unlocked dp c hl, SysNN.world_call_of_unlocked w c hl]; exact h
  cases c with
  | portAdd i d' p' =>
    have hne : (d', p') ≠ (d, p) := by simpa [Call.touches] using hc
    refine ⟨(Dict.mem_keys_set _ _ _ _).mpr (.inr h.registered),
      (Dict.get?_set_ne _ _ hne.symm).trans h.empty, fun i' hp => ?_⟩
    obtain ⟨hp, -⟩ := (WorldNN.mem_portsOf_portAdd hw i d' p' _ p).mp hp
    rw [WorldNN.portsOf_construct] at hp
    split_ifs at hp with hk
    · obtain ⟨rfl, -⟩ := Prod.mk.inj hk
      rcases List.mem_insert_iff.mp hp with rfl | hp
      · exact hne rfl
      · exact h.unheard i hp
    · exact h.unheard i' hp
  | portRemove d' p' =>
    have hne : (d', p') ≠ (d, p) := by simpa [Call.touches] using hc
    rw [SysNN.begin_portRemove]
    refine ⟨?_, ?_, fun i hp => h.unheard i ?_⟩
    · unfold DataPlane.portRemove
      split_ifs
      · exact (Dict.mem_keys_erase _ _ _).mpr ⟨hne.symm, h.registered⟩
      · exact (Dict.mem_keys_erase _ _ _).mpr ⟨hne.symm, h.registered⟩
      · exact h.registered
    · unfold DataPlane.portRemove
      split_ifs
      · exact (Dict.get?_erase_ne _ hne.symm).trans h.empty
      · exact h.empty
      · exact h.empty
    · change p ∈ (w.portRemove d' p').1.portsOf (d, i) at hp
      unfold WorldNN.portRemove at hp
      split at hp
      · exact hp
      · exact ((WorldNN.mem_portsOf_finalize { w with ports := w.ports.erase (d', p') } _
          (hw.nodup _) _ _).mp hp).1
  | _ => cases hl

/-- The enqueue of a frame for another key leaves the key deaf. -/
theorem enqueuePacket {dp : DataPlane τ} {w : WorldNN} (h : Deaf d p dp w) {d' p' : Int}
    (hne : (d', p') ≠ (d, p)) (pkt : Packet) (t : τ) : Deaf d p (dp.enqueuePacket d' p' pkt t).1 w := by
  rcases DataPlane.enqueuePacket_cases dp d' p' pkt t with
    ⟨-, he'⟩ | ⟨_, -, -, he'⟩ | ⟨_, _, -, -, he'⟩ <;> rw [he']
  · exact ⟨h.registered, h.empty, h.unheard⟩
  · exact ⟨h.registered, h.empty, h.unheard⟩
  · exact ⟨h.registered, (Dict.get?_set_ne _ _ hne.symm).trans h.empty, h.unheard⟩

end Deaf

/-- The key is deaf, and a frame the loop holds is for another key. -/
structure DeafNN (d p : Int) (s : SysNN τ) : Prop where
  deaf : Deaf d p s.dp s.world
  pending : ∀ d' p' pkt t rest, s.loop = .read (some (d', p', pkt, t)) rest → (d', p') ≠ (d, p)

namespace DeafNN

variable {d p : Int}

theorem of_loop {s' : SysNN τ} (h : Deaf d p s'.dp s'.world)
    (hl : ∀ f rest, s'.loop ≠ .read (some f) rest) : DeafNN d p s' :=
  ⟨h, fun _ _ _ _ rest he => absurd he (hl _ rest)⟩

/-- One step of any thread but a `port_add` or `port_remove` of the key: a frame `recv`
returns is for a number in its source's set, so never for the key. -/
theorem step {s s' : SysNN τ} (h : DeafNN d p s) (hw : s.world.SetsRegistered)
    {a : ActionNN τ} (hs : s.step a = some s') (ha : a.touches d p = false) : DeafNN d p s' := by
  cases a with
  | call j c =>
    obtain ⟨-, -, rfl⟩ := SysNN.step_call hs
    exact ⟨h.deaf.begin hw c ha, h.pending⟩
  | next j =>
    obtain ⟨-, r, hr, rfl⟩ := SysNN.step_next hs
    exact ⟨h.deaf.resume hr, h.pending⟩
  | snapshot =>
    obtain ⟨-, rfl⟩ := SysNN.step_snapshot hs
    exact of_loop h.deaf fun _ _ => nofun
  | select =>
    obtain ⟨_, -, -, -, rfl⟩ := SysNN.step_select hs
    exact of_loop h.deaf fun _ _ => nofun
  | release =>
    obtain ⟨-, rfl⟩ := SysNN.step_release hs
    exact of_loop h.deaf fun _ _ => nofun
  | recv msg now =>
    obtain ⟨⟨kd, ki⟩, rest, -, ⟨e, -, rfl⟩ | ⟨src, t, hr, rfl⟩⟩ := SysNN.step_recv hs
    · exact of_loop h.deaf fun _ _ => nofun
    refine ⟨h.deaf, fun d' p' pkt t' rest' he hkey => ?_⟩
    cases he
    obtain ⟨rfl, rfl⟩ := Prod.mk.inj hkey
    obtain ⟨-, -, rfl, hp', -⟩ := SourceNNRecv.recv_frame _ _ _ (congrArg Prod.snd hr)
    exact h.deaf.unheard ki hp'
  | enqueue =>
    rcases SysNN.step_enqueue hs with ⟨rest, -, rfl⟩ | ⟨d', p', pkt, t, rest, hl, hdp, hw', -, -, hok⟩
    · exact of_loop h.deaf fun _ _ => nofun
    have hd : Deaf d p s'.dp s'.world := by
      rw [hdp, hw']; exact h.deaf.enqueuePacket (h.pending d' p' pkt t rest hl) pkt t
    rcases hok with ⟨-, hl'⟩ | ⟨e, -, hl'⟩ <;> exact of_loop hd fun _ _ he => by rw [hl'] at he; cases he

end DeafNN

theorem deaf_run [LinearOrder τ] {d p : Int} :
    ∀ (as : List (ActionNN τ)) {s s' : SysNN τ}, SysNN.InvNN s → DeafNN d p s →
      (∀ a ∈ as, a.touches d p = false) → s.run as = some s' → DeafNN d p s'
  | [], _, _, _, h, _, hr => by cases hr; exact h
  | a :: as, s, _, hi, h, ha, hr => by
    simp only [SysNN.run] at hr
    cases hs : s.step a with
    | none => rw [hs] at hr; cases hr
    | some s₁ =>
      rw [hs] at hr
      exact deaf_run as (SysNN.invNN_step hi hs) (h.step hi.sets hs (ha a (List.mem_cons_self _ _)))
        (fun b hb => ha b (List.mem_cons_of_mem _ hb)) hr

/-- **A re-added nn port stays deaf.**  In every interleaving, `port_add` on a registered
key with the interface it is registered on leaves the key registered with an empty queue,
and no source of its device with its number in the set.  Whatever the threads do next,
and whatever the peer sends, as long as no `port_add` or `port_remove` names the key, the
key stays registered and its queue empty: `recv` drops every frame for it, so every
`poll` of the port finds nothing.  The old port object's finaliser runs inside the
re-add, as the model assumes throughout. -/
theorem nn_re_added_port_stays_deaf [LinearOrder τ] {configQlen : Option Nat} {s : SysNN τ}
    (hs : ReachableNN configQlen s) {d p : Int} {o : Port} (ho : s.dp.ports.get? (d, p) = some o)
    (j : Nat) (as : List (ActionNN τ)) (has : ∀ a ∈ as, a.touches d p = false) {s' : SysNN τ}
    (hrun : s.run (.call j (.portAdd o.interfaceName d p) :: as) = some s') :
    (d, p) ∈ s'.dp.ports.keys ∧ s'.dp.queue (d, p) = some [] ∧
      ∀ i, p ∉ s'.world.portsOf (d, i) := by
  have hi := SysNN.invNN_of_reachable hs
  simp only [SysNN.run] at hrun
  cases h1 : s.step (.call j (.portAdd o.interfaceName d p)) with
  | none => rw [h1] at hrun; cases hrun
  | some s₁ =>
    rw [h1] at hrun
    obtain ⟨-, hl, e⟩ := SysNN.step_call h1
    have hd : DeafNN d p s₁ := by
      rw [e]
      refine ⟨deaf_portAdd hi.sets hi.registry ho, fun _ _ _ _ rest he => ?_⟩
      simp only [Call.locked, true_and] at hl
      exact absurd (by rw [he]; rfl) hl
    have h := (deaf_run as (SysNN.invNN_step hi h1) hd has hrun).deaf
    exact ⟨h.registered, h.empty, h.unheard⟩

/-- Port `1` re-added, then a frame for it read by the loop: the frame is dropped. -/
theorem re_added_port_drops_peer_frame :
    ∃ s s' : SysNN Nat, ReachableNN none s ∧ s.dp.ports.get? (0, 1) = some ⟨"ipc://a", 0, 1, 0⟩ ∧
      (∀ a ∈ ([.snapshot, .select [(0, "ipc://a")]] ++
        ActionNN.drain [((PeerMsg.packetOut 1 [7]).encode, 3)] : List (ActionNN Nat)),
        a.touches 0 1 = false) ∧
      s.run (.call 0 (.portAdd "ipc://a" 0 1) :: ([.snapshot, .select [(0, "ipc://a")]] ++
        ActionNN.drain [((PeerMsg.packetOut 1 [7]).encode, 3)])) = some s' ∧
      ((0, 1) ∈ s'.dp.ports.keys ∧ s'.dp.queue (0, 1) = some [] ∧
        ∀ i, 1 ∉ s'.world.portsOf (0, i)) := by
  obtain ⟨s, hs, ho, hrun⟩ : ∃ s : SysNN Nat, ReachableNN none s ∧
      s.dp.ports.get? (0, 1) = some ⟨"ipc://a", 0, 1, 0⟩ ∧
      (s.run (.call 0 (.portAdd "ipc://a" 0 1) :: ([.snapshot, .select [(0, "ipc://a")]] ++
        ActionNN.drain [((PeerMsg.packetOut 1 [7]).encode, 3)]))).isSome = true :=
    exists_reachableNN_of_run none [.call 0 (.portAdd "ipc://a" 0 1)] (by decide)
  obtain ⟨s', hs'⟩ := Option.isSome_iff_exists.mp hrun
  have hL : ∀ a ∈ ([.snapshot, .select [(0, "ipc://a")]] ++
      ActionNN.drain [((PeerMsg.packetOut 1 [7]).encode, 3)] : List (ActionNN Nat)),
      ActionNN.touches 0 1 a = false := by decide
  exact ⟨s, s', hs, ho, hL, hs', nn_re_added_port_stays_deaf hs ho 0 _ hL hs'⟩

end PtfDataplane
