/-
The dataplane engine of `ptf/dataplane.py`: its state and its operations.

`DataPlane τ` is what a `DataPlane` object keeps under its lock: the port registry
`ports`, the per-port queues `packet_queues`, the rx and tx counters, the queue
capacity `qlen` and the pcap tap.  Timestamps are values of a linear order `τ`: the
code reads them from `time.time()` and only ever compares them.  Each method is a
function of the state that returns the new state together with what the method
returns, or the exception it raises (`PyError`).  The capture loop's locked drain is
`enqueuePacket`, applied to each tuple that a packet source's `recv` returns.

The sequential engine is `step` and `exec` over `Op`: every public operation and every
enqueue of the capture loop is one atomic step.  The interleavings of the statements
that run outside the lock are modelled in `PtfDataplane.Threads`.

Design notes: the backend objects are opaque here (`Port` records the interface and
an identity); what a backend's own `send` or `recv` does is an argument of the step.
-/
import PtfDataplane.Dict
import Mathlib.Order.Defs.LinearOrder
import Mathlib.Logic.Function.Basic

namespace PtfDataplane

/-- A port's key `(device_number, port_number)`. -/
abbrev PortId := Int × Int

/-- The bytes of a frame. -/
abbrev Packet := List UInt8

/-- The exceptions the engine's code raises; `structError` is `struct.error`. -/
inductive PyError
  | keyError
  | indexError
  | attributeError
  | assertionError
  | osError
  | structError
  | typeError
  | valueError
  deriving DecidableEq, Repr

/-- A port object built by the platform's port class (`self.dppclass(...)` in
`port_add`), with the device and port numbers it was built for; `serial` is its
identity, new at every construction. -/
structure Port where
  interfaceName : String
  deviceNumber : Int
  portNumber : Int
  serial : Nat
  deriving DecidableEq, Repr

/-- An open pcap tap (`PcapWriter`) with the records written to it, in order. -/
structure PcapWriter (τ : Type) where
  filename : String
  records : List (Packet × τ × Int × Int)

/-- The state of a `DataPlane`.  `serials` counts the port objects built so far. -/
structure DataPlane (τ : Type) where
  ports : Dict PortId Port
  packetQueues : Dict PortId (List (Packet × τ))
  rxCounters : PortId → Nat
  txCounters : PortId → Nat
  qlen : Nat
  pcapWriter : Option (PcapWriter τ)
  serials : Nat

/-- `counters[k] += 1` on a `defaultdict(int)`. -/
def bump (c : PortId → Nat) (k : PortId) : PortId → Nat := Function.update c k (c k + 1)

theorem bump_apply (c : PortId → Nat) (k k' : PortId) :
    bump c k k' = c k' + if k' = k then 1 else 0 := by
  by_cases h : k' = k
  · subst h; simp [bump]
  · simp [bump, Function.update_noteq h, h]

/-- `if len(queue) >= self.qlen: queue.pop(0)`; `none` is the `IndexError` of `pop` on
an empty list. -/
def makeRoom {α : Type} (qlen : Nat) (queue : List α) : Option (List α) :=
  if qlen ≤ queue.length then queue.tail? else some queue

namespace DataPlane

variable {τ : Type}

/-- `DataPlane.MAX_QUEUE_LEN`. -/
def maxQueueLen : Nat := 100

/-- `DataPlane.__init__`; `configQlen` is `config["qlen"]` when the key is set. -/
def init (configQlen : Option Nat) : DataPlane τ where
  ports := .empty
  packetQueues := .empty
  rxCounters := fun _ => 0
  txCounters := fun _ => 0
  qlen := configQlen.getD maxQueueLen
  pcapWriter := none
  serials := 0

/-- The queue of a key, `none` when `packet_queues` has no entry for it. -/
def queue (dp : DataPlane τ) (k : PortId) : Option (List (Packet × τ)) :=
  dp.packetQueues.get? k

/-- `if self.pcap_writer: self.pcap_writer.write(pkt, timestamp, device, port)`. -/
def pcapWrite (dp : DataPlane τ) (pkt : Packet) (timestamp : τ) (device port : Int) :
    DataPlane τ :=
  { dp with pcapWriter := dp.pcapWriter.map fun w =>
      { w with records := w.records ++ [(pkt, timestamp, device, port)] } }

/-- The capture loop's enqueue of one received tuple `(device, port, pkt, timestamp)`,
the body of the locked drain in `DataPlane.run`. -/
def enqueuePacket (dp : DataPlane τ) (device port : Int) (pkt : Packet) (timestamp : τ) :
    DataPlane τ × Except PyError Unit :=
  let dp := dp.pcapWrite pkt timestamp device port
  match dp.packetQueues.get? (device, port) with
  | none => (dp, .error .keyError)
  | some queue =>
    match makeRoom dp.qlen queue with
    | none => (dp, .error .indexError)
    | some kept =>
      ({ dp with
          packetQueues := dp.packetQueues.set (device, port) (kept ++ [(pkt, timestamp)])
          rxCounters := bump dp.rxCounters (device, port) }, .ok ())

/-- `DataPlane.set_qlen`. -/
def setQlen (dp : DataPlane τ) (qlen : Nat) : DataPlane τ := { dp with qlen := qlen }

/-- `DataPlane.port_add`: a new port object and an empty queue under the key, in place
of whatever the key held. -/
def portAdd (dp : DataPlane τ) (interfaceName : String) (device port : Int) : DataPlane τ :=
  { dp with
    ports := dp.ports.set (device, port) ⟨interfaceName, device, port, dp.serials⟩
    packetQueues := dp.packetQueues.set (device, port) []
    serials := dp.serials + 1 }

/-- `DataPlane.port_remove`: `false` when the key is not registered. -/
def portRemove (dp : DataPlane τ) (device port : Int) : DataPlane τ × Except PyError Bool :=
  if (device, port) ∈ dp.ports.keys then
    let dp' := { dp with ports := dp.ports.erase (device, port) }
    if (device, port) ∈ dp.packetQueues.keys then
      ({ dp' with packetQueues := dp.packetQueues.erase (device, port) }, .ok true)
    else (dp', .error .keyError)
  else (dp, .ok false)

/-- `DataPlane.send`.  `reply` is what the registered port object's `send` does: the
byte count it returns, or `none` when it raises. -/
def send (dp : DataPlane τ) (device port : Int) (pkt : Packet) (now : τ)
    (reply : Option Nat) : DataPlane τ × Except PyError Nat :=
  if (device, port) ∉ dp.ports.keys then (dp, .ok 0)
  else
    let dp := dp.pcapWrite pkt now device port
    match reply with
    | none => (dp, .error .osError)
    | some bytes => ({ dp with txCounters := bump dp.txCounters (device, port) }, .ok bytes)

/-- `DataPlane.flush`: `for port_id in list(self.packet_queues.keys()): ... = []`. -/
def flush (dp : DataPlane τ) : DataPlane τ :=
  { dp with packetQueues := dp.packetQueues.assignAll dp.packetQueues.keys [] }

/-- `DataPlane.get_counters`. -/
def getCounters (dp : DataPlane τ) (device port : Int) : Nat × Nat :=
  (dp.rxCounters (device, port), dp.txCounters (device, port))

/-- `DataPlane.start_pcap`. -/
def startPcap (dp : DataPlane τ) (filename : String) : DataPlane τ × Except PyError Unit :=
  match dp.pcapWriter with
  | some _ => (dp, .error .assertionError)
  | none => ({ dp with pcapWriter := some ⟨filename, []⟩ }, .ok ())

/-- `DataPlane.stop_pcap`: close the tap and detach it. -/
def stopPcap (dp : DataPlane τ) : DataPlane τ := { dp with pcapWriter := none }

/-- The lookup `self.ports[(device_number, port_number)]` that `port_down`, `port_up`,
`get_mac` and `get_nn_counters` make before calling the port object's own method. -/
def portLookup (dp : DataPlane τ) (device port : Int) : Except PyError Port :=
  match dp.ports.get? (device, port) with
  | none => .error .keyError
  | some p => .ok p

/-- `DataPlane.port_down`. -/
def portDown (dp : DataPlane τ) (device port : Int) : Except PyError Port :=
  dp.portLookup device port

/-- `DataPlane.port_up`. -/
def portUp (dp : DataPlane τ) (device port : Int) : Except PyError Port :=
  dp.portLookup device port

/-- `DataPlane.get_mac`. -/
def getMac (dp : DataPlane τ) (device port : Int) : Except PyError Port :=
  dp.portLookup device port

/-- `DataPlane.get_nn_counters`. -/
def getNnCounters (dp : DataPlane τ) (device port : Int) : Except PyError Port :=
  dp.portLookup device port

section Ordered

variable [LinearOrder τ]

/-- `t < min_time`, where `none` is the initial `float("inf")`. -/
def belowMin (t : τ) : Option τ → Bool
  | none => true
  | some m => t < m

/-- One pass of the loop of `oldest_port_number` over `(port_id, queue)`. -/
def oldestStep (device : Int) (acc : Option Int × Option τ)
    (entry : PortId × List (Packet × τ)) : Option Int × Option τ :=
  if entry.1.1 ≠ device then acc
  else
    match entry.2 with
    | [] => acc
    | (_, t) :: _ => if belowMin t acc.2 then (some entry.1.2, some t) else acc

/-- `DataPlane.oldest_port_number`: the loop over `list(self.packet_queues.items())`. -/
def oldestPortNumber (dp : DataPlane τ) (device : Int) : Option Int :=
  (dp.packetQueues.entries.foldl (oldestStep device) (none, none)).1

/-- One resumption of the generator `packets(device, port)`: `ok none` is its `break`,
`ok (some (rcv_port, pkt, time))` one `yield` after `queue.pop(0)`. -/
def packetsNext (dp : DataPlane τ) (device : Int) (port : Option Int) :
    DataPlane τ × Except PyError (Option (Int × Packet × τ)) :=
  match port.orElse fun _ => dp.oldestPortNumber device with
  | none => (dp, .ok none)
  | some rcvPort =>
    match dp.packetQueues.get? (device, rcvPort) with
    | none => (dp, .error .keyError)
    | some [] => (dp, .ok none)
    | some ((pkt, time) :: rest) =>
      ({ dp with packetQueues := dp.packetQueues.set (device, rcvPort) rest },
        .ok (some (rcvPort, pkt, time)))

end Ordered

end DataPlane

/-- The methods behind `DataPlane.portLookup`. -/
inductive PortMethod
  | down
  | up
  | mac
  | nnCounters
  deriving DecidableEq, Repr

/-- One atomic step of the sequential engine: a public operation, or one enqueue of
the capture loop. -/
inductive Op (τ : Type)
  | portAdd (interfaceName : String) (device port : Int)
  | portRemove (device port : Int)
  | enqueue (device port : Int) (pkt : Packet) (timestamp : τ)
  | send (device port : Int) (pkt : Packet) (now : τ) (reply : Option Nat)
  | packetsNext (device : Int) (port : Option Int)
  | flush
  | setQlen (qlen : Nat)
  | getCounters (device port : Int)
  | oldestPortNumber (device : Int)
  | portCall (method : PortMethod) (device port : Int)
  | startPcap (filename : String)
  | stopPcap

namespace DataPlane

variable {τ : Type} [LinearOrder τ]

/-- The state after one step; the reads `get_counters`, `oldest_port_number` and the
port lookups change nothing. -/
def step (dp : DataPlane τ) : Op τ → DataPlane τ
  | .portAdd i d p => dp.portAdd i d p
  | .portRemove d p => (dp.portRemove d p).1
  | .enqueue d p pkt t => (dp.enqueuePacket d p pkt t).1
  | .send d p pkt now r => (dp.send d p pkt now r).1
  | .packetsNext d p => (dp.packetsNext d p).1
  | .flush => dp.flush
  | .setQlen q => dp.setQlen q
  | .getCounters _ _ => dp
  | .oldestPortNumber _ => dp
  | .portCall _ _ _ => dp
  | .startPcap f => (dp.startPcap f).1
  | .stopPcap => dp.stopPcap

/-- A sequential run. -/
def exec (dp : DataPlane τ) (ops : List (Op τ)) : DataPlane τ := ops.foldl step dp

@[simp] theorem exec_nil (dp : DataPlane τ) : dp.exec [] = dp := rfl

@[simp] theorem exec_cons (dp : DataPlane τ) (op : Op τ) (ops : List (Op τ)) :
    dp.exec (op :: ops) = (dp.step op).exec ops := rfl

theorem exec_append (dp : DataPlane τ) (ops ops' : List (Op τ)) :
    dp.exec (ops ++ ops') = (dp.exec ops).exec ops' := List.foldl_append _ _ _ _

end DataPlane

end PtfDataplane
