/-
The registry and the queues of the sequential engine share their keys.

`DataPlane.port_add` writes `ports[k]` and then `packet_queues[k]`, `port_remove`
deletes both, and every other write to `packet_queues` is under a key read from it: the
capture loop's enqueue and `packets` after a successful lookup, `flush` over
`list(self.packet_queues.keys())`.  So while every call runs alone the two dictionaries
have the same keys in the same order (`KeysAgree`), and each lookup of
`packet_queues` raises `KeyError` exactly on a key no port is registered under.  When
calls interleave, the unlocked walk of `flush` breaks this
(`flush_keeps_queue_of_removed_port`).

* `keysAgree_step`, `keysAgree_exec` — every step of the sequential engine keeps the key
  lists of `ports` and `packet_queues` equal;
* `registry_and_queues_share_keys` — in every sequential run from construction the key
  lists are equal, `port_remove` never raises and returns whether the key was
  registered, and the capture loop's enqueue, each resumption of `packets` and `grab`
  raise `KeyError` exactly on an unregistered key.
-/
import PtfDataplane.Poll

namespace PtfDataplane

namespace DataPlane

variable {τ : Type} {dp dp' : DataPlane τ}

/-- `ports` and `packet_queues` have the same keys, in the same order. -/
def KeysAgree (dp : DataPlane τ) : Prop := dp.packetQueues.keys = dp.ports.keys

theorem KeysAgree.mem_iff (h : dp.KeysAgree) (k : PortId) :
    (dp.queue k).isSome ↔ k ∈ dp.ports.keys := by
  rw [queue, ← Dict.mem_keys_iff, h]

theorem KeysAgree.of_eq (h : dp.KeysAgree) (hp : dp'.ports = dp.ports)
    (hq : dp'.packetQueues = dp.packetQueues) : dp'.KeysAgree := by
  rw [KeysAgree, hp, hq]; exact h

/-- Writing the queue of a key that has one keeps the keys. -/
theorem KeysAgree.setQueue (h : dp.KeysAgree) {k : PortId} {q : List (Packet × τ)}
    (hk : (dp.queue k).isSome) (hp : dp'.ports = dp.ports)
    (hq : dp'.packetQueues = dp.packetQueues.set k q) : dp'.KeysAgree := by
  rw [KeysAgree, hp, hq, Dict.keys_set_of_mem _ _ ((Dict.mem_keys_iff _ _).mpr hk)]; exact h

theorem keysAgree_init (configQlen : Option Nat) : (init configQlen : DataPlane τ).KeysAgree :=
  rfl

theorem KeysAgree.portAdd (h : dp.KeysAgree) (i : String) (d p : Int) :
    (dp.portAdd i d p).KeysAgree := by
  show (dp.packetQueues.set (d, p) []).keys = (dp.ports.set (d, p) _).keys
  by_cases hk : (d, p) ∈ dp.ports.keys
  · rw [Dict.keys_set_of_mem _ _ (h ▸ hk), Dict.keys_set_of_mem _ _ hk, h]
  · rw [Dict.keys_set_of_not_mem _ _ (h ▸ hk), Dict.keys_set_of_not_mem _ _ hk, h]

/-- On agreeing keys `port_remove` deletes both entries of a registered key. -/
theorem KeysAgree.portRemove_eq (h : dp.KeysAgree) (d p : Int) :
    dp.portRemove d p =
      if (d, p) ∈ dp.ports.keys then
        ({ dp with
            ports := dp.ports.erase (d, p)
            packetQueues := dp.packetQueues.erase (d, p) }, .ok true)
      else (dp, .ok false) := by
  unfold DataPlane.portRemove
  split_ifs with hp hq
  · rfl
  · exact absurd (h ▸ hp) hq
  · rfl

theorem KeysAgree.portRemove (h : dp.KeysAgree) (d p : Int) : (dp.portRemove d p).1.KeysAgree := by
  rw [h.portRemove_eq]
  split_ifs
  · show (dp.packetQueues.erase (d, p)).keys = (dp.ports.erase (d, p)).keys
    rw [Dict.keys_erase, Dict.keys_erase, h]
  · exact h

theorem KeysAgree.enqueuePacket (h : dp.KeysAgree) (d p : Int) (pkt : Packet) (t : τ) :
    (dp.enqueuePacket d p pkt t).1.KeysAgree := by
  rcases enqueuePacket_cases dp d p pkt t with ⟨-, he⟩ | ⟨_, -, -, he⟩ | ⟨q, _, hq, -, he⟩ <;>
    rw [he]
  · exact h.of_eq rfl rfl
  · exact h.of_eq rfl rfl
  · exact h.setQueue (by rw [hq]; rfl) rfl rfl

theorem KeysAgree.flush (h : dp.KeysAgree) : dp.flush.KeysAgree := by
  show (dp.packetQueues.assignAll dp.packetQueues.keys []).keys = dp.ports.keys
  rw [Dict.keys_assignAll_of_subset _ _ _ fun _ hk => hk]; exact h

variable [LinearOrder τ]

theorem KeysAgree.packetsNext (h : dp.KeysAgree) (d : Int) (port : Option Int) :
    (dp.packetsNext d port).1.KeysAgree := by
  rcases packetsNext_cases dp d port with ⟨h1, -⟩ | ⟨rcv, f, rest, hq, -, h1⟩ <;> rw [h1]
  · exact h
  · exact h.setQueue (by rw [hq]; rfl) rfl rfl

/-- **Every step keeps the keys agreeing.** -/
theorem keysAgree_step (h : dp.KeysAgree) (op : Op τ) : (dp.step op).KeysAgree := by
  cases op with
  | portAdd i d p => exact h.portAdd i d p
  | portRemove d p => exact h.portRemove d p
  | enqueue d p pkt t => exact h.enqueuePacket d p pkt t
  | send d p pkt now r =>
    show (dp.send d p pkt now r).1.KeysAgree
    unfold DataPlane.send
    split_ifs
    · cases r <;> exact h.of_eq rfl rfl
    · exact h
  | packetsNext d port => exact h.packetsNext d port
  | flush => exact h.flush
  | startPcap f =>
    show (dp.startPcap f).1.KeysAgree
    unfold DataPlane.startPcap
    split <;> exact h.of_eq rfl rfl
  | setQlen | stopPcap => exact h.of_eq rfl rfl
  | getCounters | oldestPortNumber | portCall => exact h

theorem keysAgree_exec (h : dp.KeysAgree) (ops : List (Op τ)) : (dp.exec ops).KeysAgree := by
  induction ops generalizing dp with
  | nil => exact h
  | cons op ops ih => exact ih (keysAgree_step h op)

/-- **The registry and the queues share their keys.**  In every sequential run from
construction, `ports` and `packet_queues` have the same keys in the same order;
`port_remove` never raises and returns whether the key was registered; and the capture
loop's enqueue, each resumption of `packets` and poll's `grab` raise `KeyError` exactly
when they look up a key no port is registered under (for `packets` and `grab`, a port
given explicitly). -/
theorem registry_and_queues_share_keys (configQlen : Option Nat) (ops : List (Op τ)) :
    let dp := (init configQlen : DataPlane τ).exec ops
    dp.packetQueues.keys = dp.ports.keys ∧
    (∀ d p, (dp.portRemove d p).2 = .ok (decide ((d, p) ∈ dp.ports.keys))) ∧
    (∀ d p pkt t, (dp.enqueuePacket d p pkt t).2 = .error .keyError ↔
      (d, p) ∉ dp.ports.keys) ∧
    (∀ d port, (dp.packetsNext d port).2 = .error .keyError ↔
      ∃ p, port = some p ∧ (d, p) ∉ dp.ports.keys) ∧
    ∀ d port expPkt filters log, (dp.grab d port expPkt filters log).2.2 = .error .keyError ↔
      ∃ p, port = some p ∧ (d, p) ∉ dp.ports.keys := by
  intro dp
  have h : dp.KeysAgree := keysAgree_exec (keysAgree_init configQlen) ops
  have hnone : ∀ k, dp.queue k = none ↔ k ∉ dp.ports.keys := fun k => by
    rw [← h.mem_iff, Option.not_isSome_iff_eq_none]
  refine ⟨h, fun d p => ?_, fun d p pkt t => ?_, fun d port => ?_, fun d port e fs log => ?_⟩
  · rw [h.portRemove_eq]; split_ifs with hp <;> simp [hp]
  · rcases enqueuePacket_cases dp d p pkt t with ⟨hq, he⟩ | ⟨q, hq, -, he⟩ | ⟨q, _, hq, -, he⟩ <;>
      rw [he, ← hnone] <;> simp [hq]
  · simp only [packetsNext_error_iff, true_and, hnone]
  · simp only [grab_keyError_iff, hnone]

end DataPlane

end PtfDataplane
