/-
The nanomsg platform: shared packet sources and the port registry.

On the `nn` platform every port object `DataPlanePortNN` shares the packet source
`DataPlanePacketSourceNN` of its `(device, interface)` pair, kept in the class-level
table `packet_injecters`.  Building a port object adds its number to the source's port
set and sends `PORT_ADD`; finalising it (`__del__`, which CPython runs as soon as the
registry drops the object) removes the number and sends `PORT_REMOVE`.  `WorldNN` is the
engine's registry together with that table, and `portAdd`, `portRemove` follow
`DataPlane.port_add` and `DataPlane.port_remove` with the constructor and the finaliser
where CPython runs them: the new object is built before the assignment drops the old one.

* `nn_port_set_lost_on_re_add` — adding a registered key again with the same interface
  leaves the key registered, while its number is gone from the source's port set and the
  last message sent for it is `PORT_REMOVE`;
* `nn_port_sets_track_registry` — in every sequence whose `port_add`s are on keys not
  registered, each source's port set is the registered numbers of its interface, and
  `PORT_ADD` is the last port message for exactly those (`Tracks` holds after every step);
* `nn_registry_is_engine_registry` — the registry of `WorldNN` is the engine's registry
  of `PtfDataplane.Engine`, port objects seen through their interface and numbers;
* `nn_port_sets_within_registry` — in every sequence, re-adds included, every number in a
  source's port set is registered on that source (`SetsRegistered` holds after every
  step): a re-add can only lose a number;
* `nn_kill_releases_every_port` — `DataPlane.kill`, which drops the registry, then leaves
  every source's set empty, and the peer's last port message for every number is not
  `PORT_ADD` (`PeerView`: the peer's view of a source is its set, in every sequence).
-/
import PtfDataplane.Engine

namespace PtfDataplane

/-- `DataPlanePacketSourceNN.MSG_TYPE_PORT_ADD`. -/
def msgTypePortAdd : Int := 0

/-- `DataPlanePacketSourceNN.MSG_TYPE_PORT_REMOVE`. -/
def msgTypePortRemove : Int := 1

/-- A `DataPlanePacketSourceNN`: its port set and the `(type, port, more)` headers it has
sent, in order. -/
structure SourceNN where
  ports : List Int
  sent : List (Int × Int × Int)
  deriving DecidableEq

namespace SourceNN

/-- A source as its constructor leaves it. -/
def new : SourceNN := ⟨[], []⟩

/-- `DataPlanePacketSourceNN.port_add`. -/
def portAdd (s : SourceNN) (p : Int) : SourceNN :=
  ⟨s.ports.insert p, s.sent ++ [(msgTypePortAdd, p, 0)]⟩

/-- `DataPlanePacketSourceNN.port_remove`; `none` is the `KeyError` of `set.remove`. -/
def portRemove (s : SourceNN) (p : Int) : Option SourceNN :=
  if p ∈ s.ports then some ⟨s.ports.erase p, s.sent ++ [(msgTypePortRemove, p, 0)]⟩ else none

/-- The type of the last `PORT_ADD` or `PORT_REMOVE` message sent for port `p`. -/
def lastPortMsg (s : SourceNN) (p : Int) : Option Int :=
  ((s.sent.filter fun m => m.2.1 = p ∧ (m.1 = msgTypePortAdd ∨ m.1 = msgTypePortRemove)).getLast?).map
    Prod.fst

end SourceNN

/-- A `DataPlanePortNN`. -/
structure PortNN where
  interfaceName : String
  deviceNumber : Int
  portNumber : Int
  deriving DecidableEq

/-- The engine's registry on the `nn` platform, with the table of shared sources. -/
structure WorldNN where
  ports : Dict PortId PortNN
  injecters : Dict (Int × String) SourceNN

/-- A registry operation. -/
inductive RegOp
  | portAdd (interfaceName : String) (device port : Int)
  | portRemove (device port : Int)

namespace WorldNN

/-- No port registered, no source built. -/
def empty : WorldNN := ⟨.empty, .empty⟩

/-- `DataPlanePortNN.__init__`: the source of `(device, interface)`, built on first use,
gets the port. -/
def construct (w : WorldNN) (interfaceName : String) (d p : Int) : WorldNN :=
  let s := (w.injecters.get? (d, interfaceName)).getD .new
  { w with injecters := w.injecters.set (d, interfaceName) (s.portAdd p) }

/-- `DataPlanePortNN.__del__`: the port leaves its source's set.  When it is not there,
`set.remove` raises, CPython reports and ignores the exception, and nothing is sent. -/
def finalize (w : WorldNN) (o : PortNN) : WorldNN :=
  match w.injecters.get? (o.deviceNumber, o.interfaceName) with
  | none => w
  | some s =>
    match s.portRemove o.portNumber with
    | none => w
    | some s' => { w with injecters := w.injecters.set (o.deviceNumber, o.interfaceName) s' }

/-- `DataPlane.port_add`: build the new object, assign it, and finalise the one it
replaces. -/
def portAdd (w : WorldNN) (interfaceName : String) (d p : Int) : WorldNN :=
  let w' := w.construct interfaceName d p
  let w'' := { w' with ports := w'.ports.set (d, p) ⟨interfaceName, d, p⟩ }
  match w.ports.get? (d, p) with
  | none => w''
  | some old => w''.finalize old

/-- `DataPlane.port_remove`: `false` when the key is not registered. -/
def portRemove (w : WorldNN) (d p : Int) : WorldNN × Bool :=
  match w.ports.get? (d, p) with
  | none => (w, false)
  | some old => (({ w with ports := w.ports.erase (d, p) } : WorldNN).finalize old, true)

/-- One registry operation. -/
def step (w : WorldNN) : RegOp → WorldNN
  | .portAdd i d p => w.portAdd i d p
  | .portRemove d p => (w.portRemove d p).1

/-- A sequence of registry operations. -/
def exec (w : WorldNN) (ops : List RegOp) : WorldNN := ops.foldl step w

end WorldNN

/-- **Re-adding a key loses its port.**  The second `port_add` builds the new object
(`PORT_ADD`, the number already in the set) before the assignment finalises the old one,
whose `__del__` removes the number and sends `PORT_REMOVE`: the key stays registered
while the source no longer delivers its frames. -/
theorem nn_port_set_lost_on_re_add :
    ∃ w, WorldNN.empty.exec [.portAdd "ipc://a" 0 1, .portAdd "ipc://a" 0 1] = w ∧
      w.ports.get? (0, 1) = some ⟨"ipc://a", 0, 1⟩ ∧
      (w.injecters.get? (0, "ipc://a")).map SourceNN.ports = some [] ∧
      (w.injecters.get? (0, "ipc://a")).map (·.lastPortMsg 1) = some (some msgTypePortRemove) :=
  ⟨_, rfl, by decide⟩

/-! ## Without re-adds the sources track the registry -/

namespace SourceNN

theorem lastPortMsg_send (ports ports' : List Int) (sent : List (Int × Int × Int)) (t p p' : Int)
    (ht : t = msgTypePortAdd ∨ t = msgTypePortRemove) :
    lastPortMsg ⟨ports, sent ++ [(t, p, 0)]⟩ p' =
      if p = p' then some t else lastPortMsg ⟨ports', sent⟩ p' := by
  unfold lastPortMsg
  split_ifs with h
  · subst h; simp [ht]
  · simp [h]

theorem lastPortMsg_portAdd (s : SourceNN) (p p' : Int) :
    (s.portAdd p).lastPortMsg p' = if p = p' then some msgTypePortAdd else s.lastPortMsg p' :=
  lastPortMsg_send _ _ _ _ _ _ (.inl rfl)

end SourceNN

namespace WorldNN

/-- The sources agree with the registry: every registered port object is keyed by its
own numbers and its source exists, and the port set of the source of `(d, i)` holds the
numbers `p` with `(d, p)` registered on interface `i`, without repeats, each with `PORT_ADD`
as its last port message exactly while it is in the set. -/
structure Tracks (w : WorldNN) : Prop where
  keyed : ∀ d p o, w.ports.get? (d, p) = some o → o = ⟨o.interfaceName, d, p⟩
  source : ∀ d p o, w.ports.get? (d, p) = some o → (d, o.interfaceName) ∈ w.injecters.keys
  nodup : ∀ k s, w.injecters.get? k = some s → s.ports.Nodup
  ports_iff : ∀ d i s, w.injecters.get? (d, i) = some s →
    ∀ p, p ∈ s.ports ↔ w.ports.get? (d, p) = some ⟨i, d, p⟩
  last_iff : ∀ k s, w.injecters.get? k = some s →
    ∀ p, s.lastPortMsg p = some msgTypePortAdd ↔ p ∈ s.ports

theorem tracks_empty : Tracks empty :=
  ⟨by simp [empty], by simp [empty], by simp [empty], by simp [empty], by simp [empty]⟩

/-- `port_add` on an unregistered key: build the port and register it; nothing is
finalised. -/
theorem portAdd_of_not_mem {w : WorldNN} {d p : Int} (i : String) (h : (d, p) ∉ w.ports.keys) :
    w.portAdd i d p =
      ⟨w.ports.set (d, p) ⟨i, d, p⟩,
        w.injecters.set (d, i) (((w.injecters.get? (d, i)).getD .new).portAdd p)⟩ := by
  simp [portAdd, construct, (Dict.get?_eq_none_iff _ _).mpr h]


theorem Tracks.portAdd {w : WorldNN} (h : w.Tracks) (i : String) {d p : Int}
    (hk : (d, p) ∉ w.ports.keys) : (w.portAdd i d p).Tracks := by
  rw [portAdd_of_not_mem i hk]
  have hnone : w.ports.get? (d, p) = none := (Dict.get?_eq_none_iff _ _).mpr hk
  obtain ⟨s₀, hs₀, hnodup, hiff, hlast⟩ : ∃ s₀, (w.injecters.get? (d, i)).getD .new = s₀ ∧
      s₀.ports.Nodup ∧ (∀ p', p' ∈ s₀.ports ↔ w.ports.get? (d, p') = some ⟨i, d, p'⟩) ∧
      ∀ p', s₀.lastPortMsg p' = some msgTypePortAdd ↔ p' ∈ s₀.ports := by
    cases hs : w.injecters.get? (d, i) with
    | none =>
      refine ⟨_, rfl, List.nodup_nil, fun p' => ⟨fun hp => absurd hp (List.not_mem_nil _),
        fun ho => ?_⟩, fun p' => by simp [SourceNN.new, SourceNN.lastPortMsg]⟩
      exact absurd (h.source d p' _ ho) ((Dict.get?_eq_none_iff _ _).mp hs)
    | some s => exact ⟨s, rfl, h.nodup _ s hs, h.ports_iff d i s hs, h.last_iff _ s hs⟩
  rw [hs₀]
  refine ⟨fun d' p' o ho => ?_, fun d' p' o ho => ?_, fun k s hs => ?_, fun d' i' s hs p' => ?_,
    fun k s hs p' => ?_⟩
  · rw [Dict.get?_set] at ho
    split_ifs at ho with he
    · cases ho; obtain ⟨rfl, rfl⟩ := Prod.mk.inj he; rfl
    · exact h.keyed d' p' o ho
  · rw [Dict.get?_set] at ho
    rw [Dict.mem_keys_set]
    split_ifs at ho with he
    · cases ho; obtain ⟨rfl, rfl⟩ := Prod.mk.inj he; exact .inl rfl
    · exact .inr (h.source d' p' o ho)
  · rw [Dict.get?_set] at hs
    split_ifs at hs
    · cases hs; exact hnodup.insert
    · exact h.nodup k s hs
  · rw [Dict.get?_set] at hs
    rw [Dict.get?_set]
    split_ifs at hs with he
    · cases hs
      obtain ⟨rfl, rfl⟩ := Prod.mk.inj he
      simp only [SourceNN.portAdd, List.mem_insert_iff, hiff, Prod.mk.injEq, true_and]
      by_cases hp : p' = p
      · subst hp; simp
      · simp [hp]
    · rw [h.ports_iff d' i' s hs p']
      split_ifs with hdp
      · obtain ⟨rfl, rfl⟩ := Prod.mk.inj hdp
        simp only [hnone, Option.some.injEq, PortNN.mk.injEq, and_true, reduceCtorEq, false_iff]
        rintro rfl
        exact he rfl
      · rfl
  · rw [Dict.get?_set] at hs
    split_ifs at hs
    · cases hs
      rw [SourceNN.lastPortMsg_portAdd]
      simp only [SourceNN.portAdd, List.mem_insert_iff]
      split_ifs with hp
      · simp [hp]
      · rw [hlast]; simp [Ne.symm hp]
    · exact h.last_iff k s hs p'


/-- `port_remove` of a registered port object whose number is in its source's set:
unregister it, and its finaliser takes the number out and sends `PORT_REMOVE`. -/
theorem portRemove_of_mem {w : WorldNN} {d p : Int} {i : String} {s : SourceNN}
    (ho : w.ports.get? (d, p) = some ⟨i, d, p⟩) (hs : w.injecters.get? (d, i) = some s)
    (hp : p ∈ s.ports) :
    (w.portRemove d p).1 =
      ⟨w.ports.erase (d, p),
        w.injecters.set (d, i) ⟨s.ports.erase p, s.sent ++ [(msgTypePortRemove, p, 0)]⟩⟩ := by
  simp [portRemove, ho, finalize, hs, SourceNN.portRemove, hp]

theorem Tracks.portRemove {w : WorldNN} (h : w.Tracks) (d p : Int) :
    (w.portRemove d p).1.Tracks := by
  cases ho : w.ports.get? (d, p) with
  | none => simpa [WorldNN.portRemove, ho] using h
  | some o =>
    obtain ⟨i, rfl⟩ : ∃ i, o = ⟨i, d, p⟩ := ⟨_, h.keyed d p o ho⟩
    obtain ⟨s, hs⟩ := Option.isSome_iff_exists.mp ((Dict.mem_keys_iff _ _).mp (h.source d p _ ho))
    have hp : p ∈ s.ports := (h.ports_iff d i s hs p).mpr ho
    rw [portRemove_of_mem ho hs hp]
    refine ⟨fun d' p' o' ho' => ?_, fun d' p' o' ho' => ?_, fun k s' hs' => ?_,
      fun d' i' s' hs' p' => ?_, fun k s' hs' p' => ?_⟩
    · rw [Dict.get?_erase] at ho'
      split_ifs at ho'
      exact h.keyed d' p' o' ho'
    · rw [Dict.get?_erase] at ho'
      split_ifs at ho'
      exact (Dict.mem_keys_set _ _ _ _).mpr (.inr (h.source d' p' o' ho'))
    · rw [Dict.get?_set] at hs'
      split_ifs at hs'
      · cases hs'; exact (h.nodup _ s hs).erase p
      · exact h.nodup k s' hs'
    · rw [Dict.get?_set] at hs'
      rw [Dict.get?_erase]
      split_ifs at hs' with he
      · cases hs'
        obtain ⟨rfl, rfl⟩ := Prod.mk.inj he
        rw [(h.nodup _ s hs).mem_erase_iff, h.ports_iff d' i' s hs p']
        split_ifs with hdp
        · obtain ⟨-, rfl⟩ := Prod.mk.inj hdp; simp
        · simp only [Prod.mk.injEq, true_and] at hdp; simp [hdp]
      · rw [h.ports_iff d' i' s' hs' p']
        split_ifs with hdp
        · obtain ⟨rfl, rfl⟩ := Prod.mk.inj hdp
          simp only [ho, Option.some.injEq, PortNN.mk.injEq, and_true, reduceCtorEq, iff_false]
          rintro rfl
          exact he rfl
        · rfl
    · rw [Dict.get?_set] at hs'
      split_ifs at hs'
      · cases hs'
        rw [SourceNN.lastPortMsg_send _ s.ports _ _ _ _ (.inr rfl), (h.nodup _ s hs).mem_erase_iff]
        split_ifs with hpp
        · subst hpp; simp [msgTypePortRemove, msgTypePortAdd]
        · rw [h.last_iff _ s hs]; simp [Ne.symm hpp]
      · exact h.last_iff k s' hs' p'


/-- Whether every `port_add` of `ops`, run from `w`, is on a key not registered then. -/
def addsFresh : WorldNN → List RegOp → Bool
  | _, [] => true
  | w, .portAdd i d p :: ops => !decide ((d, p) ∈ w.ports.keys) && addsFresh (w.portAdd i d p) ops
  | w, .portRemove d p :: ops => addsFresh (w.portRemove d p).1 ops

theorem tracks_exec :
    ∀ (w : WorldNN) (ops : List RegOp), w.Tracks → addsFresh w ops = true → (w.exec ops).Tracks
  | _, [], h, _ => h
  | w, .portAdd i d p :: ops, h, hf => by
    simp only [addsFresh, Bool.and_eq_true, Bool.not_eq_true', decide_eq_false_iff_not] at hf
    exact tracks_exec _ ops (h.portAdd i hf.1) hf.2
  | w, .portRemove d p :: ops, h, hf => tracks_exec _ ops (h.portRemove d p) hf

end WorldNN

/-- **The sources track the registry** in every sequence of `port_add` and `port_remove`
whose `port_add`s never target a registered key: every registered port's source exists,
the port set of the source of `(d, i)` is the numbers registered on interface `i` of
device `d`, and `PORT_ADD` is the last port message for exactly those numbers. -/
theorem nn_port_sets_track_registry (ops : List RegOp)
    (hf : WorldNN.addsFresh .empty ops = true) :
    (∀ d p o, (WorldNN.empty.exec ops).ports.get? (d, p) = some o →
      (d, o.interfaceName) ∈ (WorldNN.empty.exec ops).injecters.keys) ∧
    ∀ d i s, (WorldNN.empty.exec ops).injecters.get? (d, i) = some s → ∀ p,
      (p ∈ s.ports ↔ (WorldNN.empty.exec ops).ports.get? (d, p) = some ⟨i, d, p⟩) ∧
      (s.lastPortMsg p = some msgTypePortAdd ↔ p ∈ s.ports) :=
  have h := WorldNN.tracks_exec _ ops WorldNN.tracks_empty hf
  ⟨h.source, fun d i s hs p => ⟨h.ports_iff d i s hs p, h.last_iff _ s hs p⟩⟩

/-- Removing a port and adding it back, with another port on the same source. -/
theorem nn_port_sets_track_registry_remove_readd :
    WorldNN.addsFresh .empty [.portAdd "ipc://a" 0 1, .portAdd "ipc://a" 0 2,
      .portRemove 0 1, .portAdd "ipc://a" 0 1] = true ∧
    let w := WorldNN.empty.exec [.portAdd "ipc://a" 0 1, .portAdd "ipc://a" 0 2,
      .portRemove 0 1, .portAdd "ipc://a" 0 1]
    (∀ d p o, w.ports.get? (d, p) = some o → (d, o.interfaceName) ∈ w.injecters.keys) ∧
    ∀ d i s, w.injecters.get? (d, i) = some s → ∀ p,
      (p ∈ s.ports ↔ w.ports.get? (d, p) = some ⟨i, d, p⟩) ∧
      (s.lastPortMsg p = some msgTypePortAdd ↔ p ∈ s.ports) :=
  ⟨by decide, nn_port_sets_track_registry _ (by decide)⟩

/-! ## The registry is the engine's -/

/-- The engine call a registry operation is. -/
def RegOp.toOp {τ : Type} : RegOp → Op τ
  | .portAdd i d p => .portAdd i d p
  | .portRemove d p => .portRemove d p

/-- A port object of the engine seen as an `nn` port: its interface and numbers. -/
def PortNN.ofPort (o : Port) : PortNN := ⟨o.interfaceName, o.deviceNumber, o.portNumber⟩

/-- The `nn` registry holds, under every key, the engine's port object seen as an `nn`
port. -/
def RegistryMatches {τ : Type} (w : WorldNN) (dp : DataPlane τ) : Prop :=
  ∀ k, w.ports.get? k = (dp.ports.get? k).map PortNN.ofPort

namespace WorldNN

theorem finalize_ports (w : WorldNN) (o : PortNN) : (w.finalize o).ports = w.ports := by
  unfold finalize
  split
  · rfl
  · split <;> rfl

theorem portAdd_ports (w : WorldNN) (i : String) (d p : Int) :
    (w.portAdd i d p).ports = w.ports.set (d, p) ⟨i, d, p⟩ := by
  unfold portAdd
  split
  · rfl
  · exact finalize_ports _ _

theorem portRemove_ports (w : WorldNN) (d p : Int) :
    (w.portRemove d p).1.ports = if (d, p) ∈ w.ports.keys then w.ports.erase (d, p) else w.ports := by
  unfold portRemove
  split <;> rename_i h
  · rw [if_neg ((Dict.get?_eq_none_iff _ _).mp h)]
  · rw [finalize_ports, if_pos ((Dict.mem_keys_iff _ _).mpr (by simp [h]))]

end WorldNN

theorem registryMatches_step {τ : Type} [LinearOrder τ] {w : WorldNN} {dp : DataPlane τ}
    (h : RegistryMatches w dp) (op : RegOp) : RegistryMatches (w.step op) (dp.step op.toOp) := by
  have hkeys : ∀ k, k ∈ w.ports.keys ↔ k ∈ dp.ports.keys := fun k => by
    rw [Dict.mem_keys_iff, Dict.mem_keys_iff, h k, Option.isSome_map']
  intro k
  cases op with
  | portAdd i d p =>
    simp only [WorldNN.step, RegOp.toOp, DataPlane.step, DataPlane.portAdd,
      WorldNN.portAdd_ports, Dict.get?_set]
    split_ifs
    · rfl
    · exact h k
  | portRemove d p =>
    simp only [WorldNN.step, RegOp.toOp, DataPlane.step, WorldNN.portRemove_ports, hkeys]
    unfold DataPlane.portRemove
    split_ifs
    · simp only [Dict.get?_erase]; split_ifs <;> first | rfl | exact h k
    · simp only [Dict.get?_erase]; split_ifs <;> first | rfl | exact h k
    · exact h k

theorem registryMatches_exec {τ : Type} [LinearOrder τ] :
    ∀ (w : WorldNN) (dp : DataPlane τ) (ops : List RegOp), RegistryMatches w dp →
      RegistryMatches (w.exec ops) (dp.exec (ops.map RegOp.toOp))
  | _, _, [], h => h
  | w, dp, op :: ops, h => registryMatches_exec (w.step op) (dp.step op.toOp) ops
      (registryMatches_step h op)

/-- **The `nn` registry is the engine's.**  After any sequence of `port_add` and
`port_remove`, `WorldNN` holds under each key the port object the engine holds there,
seen through its interface and numbers. -/
theorem nn_registry_is_engine_registry {τ : Type} [LinearOrder τ] (configQlen : Option Nat)
    (ops : List RegOp) (k : PortId) :
    (WorldNN.empty.exec ops).ports.get? k =
      (((DataPlane.init configQlen : DataPlane τ).exec (ops.map RegOp.toOp)).ports.get? k).map
        PortNN.ofPort :=
  registryMatches_exec WorldNN.empty (DataPlane.init configQlen) ops (fun _ => rfl) k

/-! ## With re-adds the sources stay within the registry -/

namespace WorldNN

/-- The port set of the source of `k`, empty when none was built. -/
def portsOf (w : WorldNN) (k : Int × String) : List Int :=
  ((w.injecters.get? k).map SourceNN.ports).getD []

theorem portsOf_construct (w : WorldNN) (i : String) (d p : Int) (k : Int × String) :
    (w.construct i d p).portsOf k =
      if k = (d, i) then (w.portsOf (d, i)).insert p else w.portsOf k := by
  simp only [portsOf, construct, Dict.get?_set]
  split_ifs with hk
  · subst hk; cases w.injecters.get? (d, i) <;> rfl
  · rfl

theorem mem_keys_construct (w : WorldNN) (i : String) (d p : Int) (k : Int × String) :
    k ∈ (w.construct i d p).injecters.keys ↔ k = (d, i) ∨ k ∈ w.injecters.keys :=
  Dict.mem_keys_set _ _ _ _

theorem keys_finalize (w : WorldNN) (o : PortNN) :
    (w.finalize o).injecters.keys = w.injecters.keys := by
  unfold finalize
  rcases hs : w.injecters.get? (o.deviceNumber, o.interfaceName) with _ | s
  · rfl
  · dsimp only
    cases s.portRemove o.portNumber
    · rfl
    · exact Dict.keys_set_of_mem _ _ ((Dict.mem_keys_iff _ _).mpr (by rw [hs]; rfl))

/-- Finalising `o` takes its number out of its source's set, and nothing else. -/
theorem mem_portsOf_finalize (w : WorldNN) (o : PortNN)
    (hnd : (w.portsOf (o.deviceNumber, o.interfaceName)).Nodup) (k : Int × String) (q : Int) :
    q ∈ (w.finalize o).portsOf k ↔
      q ∈ w.portsOf k ∧ ¬(k = (o.deviceNumber, o.interfaceName) ∧ q = o.portNumber) := by
  unfold finalize
  rcases hs : w.injecters.get? (o.deviceNumber, o.interfaceName) with _ | s
  · refine ⟨fun hq => ⟨hq, ?_⟩, And.left⟩
    rintro ⟨rfl, -⟩
    simp [portsOf, hs] at hq
  · simp only [portsOf, hs, Option.map_some', Option.getD_some] at hnd
    dsimp only
    unfold SourceNN.portRemove
    split_ifs with hp
    · simp only [portsOf, Dict.get?_set]
      split_ifs with hk
      · subst hk
        simp only [hs, Option.map_some', Option.getD_some, hnd.mem_erase_iff, true_and]
        exact and_comm
      · simp [hk]
    · constructor
      · intro hq
        refine ⟨hq, ?_⟩
        rintro ⟨rfl, rfl⟩
        simp [portsOf, hs] at hq
        exact hp hq
      · exact And.left

theorem nodup_portsOf_finalize (w : WorldNN) (o : PortNN) (hnd : ∀ k, (w.portsOf k).Nodup)
    (k : Int × String) : ((w.finalize o).portsOf k).Nodup := by
  unfold finalize
  rcases hs : w.injecters.get? (o.deviceNumber, o.interfaceName) with _ | s
  · exact hnd k
  · dsimp only
    unfold SourceNN.portRemove
    split_ifs
    · simp only [portsOf, Dict.get?_set]
      split_ifs with hk
      · have := hnd (o.deviceNumber, o.interfaceName)
        simp only [portsOf, hs, Option.map_some', Option.getD_some] at this
        exact this.erase _
      · exact hnd k
    · exact hnd k

/-- Every registered port object is keyed by its own numbers and its source exists, the
port sets have no repeats, and every number in the port set of the source of `(d, i)` is
registered on interface `i` of device `d`. -/
structure SetsRegistered (w : WorldNN) : Prop where
  keyed : ∀ d p o, w.ports.get? (d, p) = some o → o = ⟨o.interfaceName, d, p⟩
  source : ∀ d p o, w.ports.get? (d, p) = some o → (d, o.interfaceName) ∈ w.injecters.keys
  nodup : ∀ k, (w.portsOf k).Nodup
  registered : ∀ d i p, p ∈ w.portsOf (d, i) → w.ports.get? (d, p) = some ⟨i, d, p⟩

theorem setsRegistered_empty : SetsRegistered empty :=
  ⟨by simp [empty], by simp [empty], by simp [empty, portsOf], by simp [empty, portsOf]⟩

theorem nodup_portsOf_construct {w : WorldNN} (hnd : ∀ k, (w.portsOf k).Nodup) (i : String)
    (d p : Int) (k : Int × String) : ((w.construct i d p).portsOf k).Nodup := by
  rw [portsOf_construct]
  split_ifs
  · exact (hnd _).insert
  · exact hnd k

theorem mem_keys_portAdd (w : WorldNN) (i : String) (d p : Int) (k : Int × String) :
    k ∈ (w.portAdd i d p).injecters.keys ↔ k = (d, i) ∨ k ∈ w.injecters.keys := by
  unfold portAdd
  split
  · exact mem_keys_construct w i d p k
  · rw [keys_finalize]; exact mem_keys_construct w i d p k

/-- `port_add`: the number joins the set of the new object's source, then leaves the set
of the source of the object it replaces. -/
theorem mem_portsOf_portAdd {w : WorldNN} (h : w.SetsRegistered) (i : String) (d p : Int)
    (k : Int × String) (q : Int) :
    q ∈ (w.portAdd i d p).portsOf k ↔
      q ∈ (w.construct i d p).portsOf k ∧
        ∀ o, w.ports.get? (d, p) = some o → ¬(k = (d, o.interfaceName) ∧ q = p) := by
  unfold portAdd
  rcases ho : w.ports.get? (d, p) with _ | o
  · exact ⟨fun hq => ⟨hq, by simp⟩, And.left⟩
  · obtain ⟨i0, rfl⟩ : ∃ i0, o = ⟨i0, d, p⟩ := ⟨_, h.keyed d p o ho⟩
    dsimp only
    rw [mem_portsOf_finalize _ _ ?_]
    · simp only [Option.some.injEq, forall_eq']
      rfl
    · exact nodup_portsOf_construct h.nodup i d p _

theorem SetsRegistered.portAdd {w : WorldNN} (h : w.SetsRegistered) (i : String) (d p : Int) :
    (w.portAdd i d p).SetsRegistered := by
  refine ⟨fun d' p' o ho => ?_, fun d' p' o ho => ?_, fun k => ?_, fun d' i' q hq => ?_⟩
  · rw [portAdd_ports, Dict.get?_set] at ho
    split_ifs at ho with he
    · cases ho; obtain ⟨rfl, rfl⟩ := Prod.mk.inj he; rfl
    · exact h.keyed d' p' o ho
  · rw [portAdd_ports, Dict.get?_set] at ho
    rw [mem_keys_portAdd]
    split_ifs at ho with he
    · cases ho; obtain ⟨rfl, rfl⟩ := Prod.mk.inj he; exact .inl rfl
    · exact .inr (h.source d' p' o ho)
  · unfold WorldNN.portAdd
    split
    · exact nodup_portsOf_construct h.nodup i d p k
    · apply nodup_portsOf_finalize
      exact nodup_portsOf_construct h.nodup i d p
  · obtain ⟨hq₁, hq₂⟩ := (mem_portsOf_portAdd h i d p _ q).mp hq
    rw [portsOf_construct] at hq₁
    rw [portAdd_ports, Dict.get?_set]
    by_cases he : (d', q) = (d, p)
    · obtain ⟨rfl, rfl⟩ := Prod.mk.inj he
      rw [if_pos rfl]
      by_cases hk : (d', i') = (d', i)
      · obtain ⟨-, rfl⟩ := Prod.mk.inj hk; rfl
      · rw [if_neg hk] at hq₁
        exact absurd ⟨rfl, rfl⟩ (hq₂ _ (h.registered _ _ _ hq₁))
    · rw [if_neg he]
      split_ifs at hq₁ with hk
      · obtain ⟨rfl, rfl⟩ := Prod.mk.inj hk
        rcases List.mem_insert_iff.mp hq₁ with rfl | hq₁
        · exact absurd rfl he
        · exact h.registered _ _ q hq₁
      · exact h.registered _ _ q hq₁

theorem SetsRegistered.portRemove {w : WorldNN} (h : w.SetsRegistered) (d p : Int) :
    (w.portRemove d p).1.SetsRegistered := by
  rcases ho : w.ports.get? (d, p) with _ | o
  · simpa [WorldNN.portRemove, ho] using h
  · obtain ⟨i0, rfl⟩ : ∃ i0, o = ⟨i0, d, p⟩ := ⟨_, h.keyed d p o ho⟩
    have hw : (w.portRemove d p).1 =
        ({ w with ports := w.ports.erase (d, p) } : WorldNN).finalize ⟨i0, d, p⟩ := by
      simp [WorldNN.portRemove, ho]
    rw [hw]
    refine ⟨fun d' p' o ho' => ?_, fun d' p' o ho' => ?_, nodup_portsOf_finalize _ _ h.nodup,
      fun d' i' q hq => ?_⟩
    · rw [finalize_ports, Dict.get?_erase] at ho'
      split_ifs at ho'
      exact h.keyed d' p' o ho'
    · rw [finalize_ports, Dict.get?_erase] at ho'
      rw [keys_finalize]
      split_ifs at ho'
      exact h.source d' p' o ho'
    · obtain ⟨hq₁, hq₂⟩ :=
        (mem_portsOf_finalize ({ w with ports := w.ports.erase (d, p) } : WorldNN) _ (h.nodup _)
          _ q).mp hq
      rw [finalize_ports, Dict.get?_erase]
      split_ifs with he
      · obtain ⟨rfl, rfl⟩ := Prod.mk.inj he
        have := h.registered _ _ _ hq₁
        rw [ho] at this
        cases this
        exact absurd ⟨rfl, rfl⟩ hq₂
      · exact h.registered _ _ q hq₁

theorem setsRegistered_exec : ∀ (w : WorldNN) (ops : List RegOp), w.SetsRegistered →
    (w.exec ops).SetsRegistered
  | _, [], h => h
  | _, .portAdd i d p :: ops, h => setsRegistered_exec _ ops (h.portAdd i d p)
  | _, .portRemove d p :: ops, h => setsRegistered_exec _ ops (h.portRemove d p)

end WorldNN

/-- **The sources never outgrow the registry.**  In every sequence of `port_add` and
`port_remove`, repeated calls on one key included, every registered port's source exists
and every number in the port set of the source of `(d, i)` is registered on interface
`i` of device `d`.  A re-add can drop a registered number from its source's set
(`nn_port_set_lost_on_re_add`), never leave an unregistered one in it. -/
theorem nn_port_sets_within_registry (ops : List RegOp) :
    (∀ d p o, (WorldNN.empty.exec ops).ports.get? (d, p) = some o →
      (d, o.interfaceName) ∈ (WorldNN.empty.exec ops).injecters.keys) ∧
    ∀ d i s, (WorldNN.empty.exec ops).injecters.get? (d, i) = some s → ∀ p ∈ s.ports,
      (WorldNN.empty.exec ops).ports.get? (d, p) = some ⟨i, d, p⟩ := by
  have h := WorldNN.setsRegistered_exec _ ops WorldNN.setsRegistered_empty
  refine ⟨h.source, fun d i s hs p hp => h.registered d i p ?_⟩
  simpa [WorldNN.portsOf, hs] using hp

/-! ## `kill` releases every port -/

namespace SourceNN

/-- What the peer can tell of a source from the port messages it received: `PORT_ADD` is
the last of them exactly for the numbers in the source's set, which has no repeats. -/
def PeerView (s : SourceNN) : Prop :=
  s.ports.Nodup ∧ ∀ p, s.lastPortMsg p = some msgTypePortAdd ↔ p ∈ s.ports

theorem peerView_new : new.PeerView :=
  ⟨List.nodup_nil, fun p => by simp [new, lastPortMsg]⟩

theorem PeerView.portAdd {s : SourceNN} (h : s.PeerView) (p : Int) : (s.portAdd p).PeerView := by
  refine ⟨h.1.insert, fun p' => ?_⟩
  rw [lastPortMsg_portAdd]
  simp only [SourceNN.portAdd, List.mem_insert_iff]
  split_ifs with hp
  · simp [hp]
  · rw [h.2]; simp [Ne.symm hp]

theorem PeerView.portRemove {s s' : SourceNN} (h : s.PeerView) {p : Int}
    (hr : s.portRemove p = some s') : s'.PeerView := by
  unfold SourceNN.portRemove at hr
  split_ifs at hr
  cases hr
  refine ⟨h.1.erase p, fun p' => ?_⟩
  rw [lastPortMsg_send _ s.ports _ _ _ _ (.inr rfl), h.1.mem_erase_iff]
  split_ifs with hp
  · subst hp; simp [msgTypePortRemove, msgTypePortAdd]
  · rw [h.2]; simp [Ne.symm hp]

end SourceNN

namespace WorldNN

/-- Every source of the table is seen by the peer as it is. -/
def PeerViews (w : WorldNN) : Prop := ∀ k s, w.injecters.get? k = some s → s.PeerView

theorem peerViews_empty : empty.PeerViews := by simp [PeerViews, empty]

theorem PeerViews.construct {w : WorldNN} (h : w.PeerViews) (i : String) (d p : Int) :
    (w.construct i d p).PeerViews := by
  intro k s hs
  simp only [WorldNN.construct, Dict.get?_set] at hs
  split_ifs at hs
  · cases hs
    cases hw : w.injecters.get? (d, i) with
    | none => exact SourceNN.peerView_new.portAdd p
    | some s₀ => exact (h _ s₀ hw).portAdd p
  · exact h k s hs

theorem PeerViews.finalize {w : WorldNN} (h : w.PeerViews) (o : PortNN) :
    (w.finalize o).PeerViews := by
  unfold WorldNN.finalize
  rcases hs : w.injecters.get? (o.deviceNumber, o.interfaceName) with _ | s₀
  · exact h
  · dsimp only
    rcases hr : s₀.portRemove o.portNumber with _ | s₁
    · exact h
    · intro k s hk
      simp only [Dict.get?_set] at hk
      split_ifs at hk
      · cases hk; exact (h _ s₀ hs).portRemove hr
      · exact h k s hk

theorem PeerViews.portAdd {w : WorldNN} (h : w.PeerViews) (i : String) (d p : Int) :
    (w.portAdd i d p).PeerViews := by
  unfold WorldNN.portAdd
  split
  · exact h.construct i d p
  · dsimp only
    apply PeerViews.finalize
    exact h.construct i d p

theorem PeerViews.portRemove {w : WorldNN} (h : w.PeerViews) (d p : Int) :
    (w.portRemove d p).1.PeerViews := by
  unfold WorldNN.portRemove
  split
  · exact h
  · apply PeerViews.finalize
    exact h

theorem peerViews_exec : ∀ (w : WorldNN) (ops : List RegOp), w.PeerViews → (w.exec ops).PeerViews
  | _, [], h => h
  | _, .portAdd i d p :: ops, h => peerViews_exec _ ops (h.portAdd i d p)
  | _, .portRemove d p :: ops, h => peerViews_exec _ ops (h.portRemove d p)

/-- `DataPlane.kill` as the sources see it: once the capture thread has exited,
`del self.ports` drops the registry, and CPython finalises its port objects in the order
of its entries.  (Later calls find no `ports` attribute; the model does not follow them.) -/
def kill (w : WorldNN) : WorldNN :=
  (w.ports.entries.map Prod.snd).foldl finalize { w with ports := .empty }

theorem PeerViews.foldl_finalize : ∀ (L : List PortNN) {w : WorldNN}, w.PeerViews →
    (L.foldl WorldNN.finalize w).PeerViews
  | [], _, h => h
  | o :: L, _, h => PeerViews.foldl_finalize L (h.finalize o)

theorem PeerViews.kill {w : WorldNN} (h : w.PeerViews) : w.kill.PeerViews :=
  PeerViews.foldl_finalize _ (show ({ w with ports := .empty } : WorldNN).PeerViews from h)

/-- Finalising a list of port objects that holds the object of every number in a set
empties every set. -/
theorem portsOf_foldl_finalize : ∀ (L : List PortNN) (w : WorldNN), (∀ k, (w.portsOf k).Nodup) →
    (∀ k p, p ∈ w.portsOf k → (⟨k.2, k.1, p⟩ : PortNN) ∈ L) →
      ∀ k, (L.foldl finalize w).portsOf k = []
  | [], _, _, hL, k => List.eq_nil_iff_forall_not_mem.mpr fun p hp => by simpa using hL k p hp
  | o :: L, w, hnd, hL, k => by
    rw [List.foldl_cons]
    refine portsOf_foldl_finalize L _ (nodup_portsOf_finalize _ _ hnd) (fun k' p hp => ?_) k
    obtain ⟨hp, hne⟩ := (mem_portsOf_finalize _ _ (hnd _) _ _).mp hp
    rcases List.mem_cons.mp (hL k' p hp) with he | he
    · subst he; exact absurd ⟨rfl, rfl⟩ hne
    · exact he

theorem portsOf_kill {w : WorldNN} (h : w.SetsRegistered) (k : Int × String) :
    w.kill.portsOf k = [] := by
  refine portsOf_foldl_finalize _ { w with ports := .empty } h.nodup (fun k p hp => ?_) k
  have ho := h.registered k.1 k.2 p hp
  exact List.mem_map.mpr ⟨_, (Dict.get?_eq_some_iff_mem _ _ _).mp ho, rfl⟩

end WorldNN

/-- **`kill` releases every port.**  After any sequence of `port_add` and `port_remove`,
re-adds included, `DataPlane.kill` leaves every source with an empty port set, and the
last port message each source sent for any number is not `PORT_ADD`: the peer has been
told that every port it was told of is removed. -/
theorem nn_kill_releases_every_port (ops : List RegOp) :
    ∀ k s, (WorldNN.empty.exec ops).kill.injecters.get? k = some s →
      s.ports = [] ∧ ∀ p, s.lastPortMsg p ≠ some msgTypePortAdd := by
  intro k s hs
  have hw := WorldNN.setsRegistered_exec _ ops WorldNN.setsRegistered_empty
  have hv := (WorldNN.peerViews_exec _ ops WorldNN.peerViews_empty).kill k s hs
  have hp : s.ports = [] := by simpa [WorldNN.portsOf, hs] using WorldNN.portsOf_kill hw k
  exact ⟨hp, fun p h => by simpa [hp] using (hv.2 p).mp h⟩

/-- Two ports on one source: `kill` sends a `PORT_REMOVE` for each, in registry order. -/
theorem nn_kill_removes_both_ports :
    let s : SourceNN := ⟨[], [(0, 1, 0), (0, 2, 0), (1, 1, 0), (1, 2, 0)]⟩
    (WorldNN.empty.exec [.portAdd "ipc://a" 0 1, .portAdd "ipc://a" 0 2]).kill.injecters.get?
        (0, "ipc://a") = some s ∧
      s.ports = [] ∧ ∀ p, s.lastPortMsg p ≠ some msgTypePortAdd :=
  have h : (WorldNN.empty.exec [.portAdd "ipc://a" 0 1, .portAdd "ipc://a" 0 2]).kill.injecters.get?
      (0, "ipc://a") = some ⟨[], [(0, 1, 0), (0, 2, 0), (1, 1, 0), (1, 2, 0)]⟩ := by decide
  ⟨h, nn_kill_releases_every_port _ _ _ h⟩

end PtfDataplane
