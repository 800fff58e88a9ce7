/-
The nanomsg wire format: `send`, `__send_port_msg` and `recv`.

Every message is a header of three int32 fields `<type, port, more>` and a payload.
`send` emits `PACKET_IN` with the frame as payload; `__send_port_msg` emits a bare
header, for `port_add`, `port_remove`, `port_bring_up`, `port_bring_down` and the info
requests each with its own type and `more` fields (`SourceCall`).  `recv` decodes what the peer sends: a `PACKET_OUT` carries a frame of `more`
bytes, an `INFO_REP` carries an int32 status and, on success, the hardware address
(`more = 0`) or the counters `<rx, tx>` (`more = 1`), which `__handle_info_rep` stores
in the source's caches.  `PeerMsg` lists the well-formed messages of the peer and their
bytes.

* `sent_messages_parse_back` — what `send` and `__send_port_msg` emit parses back to the
  header and the frame they were given;
* `source_messages_unambiguous` — two different calls never write the same bytes to
  the socket;
* `recv_handles_peer_messages` — every well-formed message but a "not supported"
  counters reply is decoded as the format says;
* `recv_raises_on_unsupported_counters_reply` — that reply makes `recv` raise
  `TypeError`: `__handle_info_rep` unpacks the counters from `None`;
* `recv_raises_on_malformed` — a short message, a type other than `PACKET_OUT` and
  `INFO_REP`, a `PACKET_OUT` of the wrong length, an `INFO_REP` without a status or with
  truncated counters all make `recv` raise, each for a registered port;
* `recv_error_state` — when `recv` raises, the source is as it was;
* `recv_frame_iff` — `recv` returns a frame exactly for the bytes of a `PACKET_OUT` with
  int32 fields for a port of the set, and the frame is the one those bytes carry.
-/
import PtfDataplane.NN.Ports
import PtfDataplane.NN.Struct

namespace PtfDataplane

/-- `DataPlanePacketSourceNN.MSG_TYPE_PORT_SET_STATUS`. -/
def msgTypePortSetStatus : Int := 2

/-- `DataPlanePacketSourceNN.MSG_TYPE_PACKET_IN`. -/
def msgTypePacketIn : Int := 3

/-- `DataPlanePacketSourceNN.MSG_TYPE_PACKET_OUT`. -/
def msgTypePacketOut : Int := 4

/-- `DataPlanePacketSourceNN.MSG_TYPE_INFO_REQ`. -/
def msgTypeInfoReq : Int := 5

/-- `DataPlanePacketSourceNN.MSG_TYPE_INFO_REP`. -/
def msgTypeInfoRep : Int := 6

/-- `DataPlanePacketSourceNN.MSG_PORT_STATUS_UP`. -/
def msgPortStatusUp : Int := 0

/-- `DataPlanePacketSourceNN.MSG_PORT_STATUS_DOWN`. -/
def msgPortStatusDown : Int := 1

/-- `DataPlanePacketSourceNN.MSG_INFO_TYPE_HWADDR`. -/
def msgInfoTypeHwaddr : Int := 0

/-- `DataPlanePacketSourceNN.MSG_INFO_TYPE_CTRS`. -/
def msgInfoTypeCtrs : Int := 1

/-- `DataPlanePacketSourceNN.MSG_INFO_STATUS_SUCCESS`. -/
def msgInfoStatusSuccess : Int := 0

/-- `DataPlanePacketSourceNN.MSG_INFO_STATUS_NOT_SUPPORTED`. -/
def msgInfoStatusNotSupported : Int := 1

namespace SourceNN

/-- `DataPlanePacketSourceNN.__send_port_msg(msg_type, port_number, more)`: the message
it hands to the socket. -/
def sendPortMsg (msgType portNumber more : Int) : Except PyError Packet :=
  packInts [msgType, portNumber, more]

/-- `DataPlanePacketSourceNN.port_bring_up(port_number)`. -/
def portBringUp (portNumber : Int) : Except PyError Packet :=
  sendPortMsg msgTypePortSetStatus portNumber msgPortStatusUp

/-- `DataPlanePacketSourceNN.port_bring_down(port_number)`. -/
def portBringDown (portNumber : Int) : Except PyError Packet :=
  sendPortMsg msgTypePortSetStatus portNumber msgPortStatusDown

/-- `DataPlanePacketSourceNN.__send_info_req_msg(port_number, info_type)`. -/
def sendInfoReqMsg (portNumber infoType : Int) : Except PyError Packet :=
  sendPortMsg msgTypeInfoReq portNumber infoType

/-- `DataPlanePacketSourceNN.__request_mac(port_number)`. -/
def requestMac (portNumber : Int) : Except PyError Packet :=
  sendInfoReqMsg portNumber msgInfoTypeHwaddr

/-- `DataPlanePacketSourceNN.__request_ctrs(port_number)`. -/
def requestCtrs (portNumber : Int) : Except PyError Packet :=
  sendInfoReqMsg portNumber msgInfoTypeCtrs

/-- `DataPlanePacketSourceNN.send(port_number, packet)`: the message it hands to the
socket (a `bytearray` of the same bytes), and what it returns. -/
def send (portNumber : Int) (packet : Packet) : Except PyError (Packet × Nat) :=
  (packIntsBytes [msgTypePacketIn, portNumber, packet.length] packet.length packet).map
    fun msg => (msg, packet.length)

end SourceNN

/-- **The sent messages parse back.**  For a port and a frame length in the int32 range,
`send(p, f)` emits the three int32 fields `PACKET_IN, p, len(f)` followed by exactly `f`
and returns `len(f)`; unpacking the 12-byte header gives the fields back and the bytes
after it are `f`.  Every `__send_port_msg(t, p, m)` with its fields in range emits a
header that unpacks to `t, p, m` with nothing after it. -/
theorem sent_messages_parse_back (p : Int) (f : Packet) (hp : inInt32Range p = true)
    (hf : f.length < 2147483648) :
    SourceNN.send p f =
      .ok ([msgTypePacketIn, p, f.length].flatMap int32LE ++ f, f.length) ∧
    unpackFromInts 3 (some ([msgTypePacketIn, p, f.length].flatMap int32LE ++ f)) =
      .ok [msgTypePacketIn, p, f.length] ∧
    ([msgTypePacketIn, p, f.length].flatMap int32LE ++ f).drop (calcsizeInts 3) = f ∧
    ∀ t q m, inInt32Range t = true → inInt32Range q = true → inInt32Range m = true →
      ∃ msg, SourceNN.sendPortMsg t q m = .ok msg ∧
        unpackFromInts 3 (some msg) = .ok [t, q, m] ∧ msg.drop (calcsizeInts 3) = [] := by
  have hv : ∀ v ∈ [msgTypePacketIn, p, (f.length : Int)], inInt32Range v = true := by
    simp only [List.mem_cons, List.mem_singleton, List.not_mem_nil, or_false]
    rintro v (rfl | rfl | rfl)
    · decide
    · exact hp
    · simp only [inInt32Range, Bool.and_eq_true, decide_eq_true_eq]; omega
  refine ⟨?_, unpackFromInts_flatMap hv f, drop_flatMap_int32LE [_, _, _] f,
    fun t q m ht hq hm => ?_⟩
  · simp [SourceNN.send, packIntsBytes, packInts_of_inRange hv, Except.map]
  · have hv' : ∀ v ∈ [t, q, m], inInt32Range v = true := by
      simp only [List.mem_cons, List.mem_singleton, List.not_mem_nil, or_false]
      rintro v (rfl | rfl | rfl) <;> assumption
    refine ⟨[t, q, m].flatMap int32LE, packInts_of_inRange hv', ?_, ?_⟩
    · simpa using unpackFromInts_flatMap hv' []
    · simpa using drop_flatMap_int32LE [t, q, m] []

theorem sent_messages_parse_back_negative_port :
    inInt32Range (-1) = true ∧ [1, 2, 3].length < 2147483648 ∧
    SourceNN.send (-1) [1, 2, 3] =
      .ok ([msgTypePacketIn, -1, [1, 2, 3].length].flatMap int32LE ++ [1, 2, 3], 3) ∧
    unpackFromInts 3 (some ([msgTypePacketIn, -1, [1, 2, 3].length].flatMap int32LE ++ [1, 2, 3])) =
      .ok [msgTypePacketIn, -1, [1, 2, 3].length] ∧
    ([msgTypePacketIn, -1, [1, 2, 3].length].flatMap int32LE ++ [1, 2, 3]).drop (calcsizeInts 3) =
      [1, 2, 3] ∧
    ∀ t q m, inInt32Range t = true → inInt32Range q = true → inInt32Range m = true →
      ∃ msg, SourceNN.sendPortMsg t q m = .ok msg ∧
        unpackFromInts 3 (some msg) = .ok [t, q, m] ∧ msg.drop (calcsizeInts 3) = [] :=
  ⟨by decide, by decide, sent_messages_parse_back (-1) [1, 2, 3] (by decide) (by decide)⟩

/-- A call of a `DataPlanePacketSourceNN` that writes one message to its socket. -/
inductive SourceCall
  | portAdd (port : Int)
  | portRemove (port : Int)
  | portBringUp (port : Int)
  | portBringDown (port : Int)
  | requestMac (port : Int)
  | requestCtrs (port : Int)
  | send (port : Int) (packet : Packet)
  deriving DecidableEq

namespace SourceCall

/-- The message the call hands to the socket; `port_add` and `port_remove` send the
header that `SourceNN.portAdd` and `SourceNN.portRemove` log. -/
def message : SourceCall → Except PyError Packet
  | .portAdd p => SourceNN.sendPortMsg msgTypePortAdd p 0
  | .portRemove p => SourceNN.sendPortMsg msgTypePortRemove p 0
  | .portBringUp p => SourceNN.portBringUp p
  | .portBringDown p => SourceNN.portBringDown p
  | .requestMac p => SourceNN.requestMac p
  | .requestCtrs p => SourceNN.requestCtrs p
  | .send p pkt => (SourceNN.send p pkt).map Prod.fst

/-- The header fields `<type, port, more>` the call writes. -/
def header : SourceCall → List Int
  | .portAdd p => [msgTypePortAdd, p, 0]
  | .portRemove p => [msgTypePortRemove, p, 0]
  | .portBringUp p => [msgTypePortSetStatus, p, msgPortStatusUp]
  | .portBringDown p => [msgTypePortSetStatus, p, msgPortStatusDown]
  | .requestMac p => [msgTypeInfoReq, p, msgInfoTypeHwaddr]
  | .requestCtrs p => [msgTypeInfoReq, p, msgInfoTypeCtrs]
  | .send p pkt => [msgTypePacketIn, p, pkt.length]

/-- The bytes the call writes after the header: the frame of `send`, nothing else. -/
def payload : SourceCall → Packet
  | .send _ pkt => pkt
  | _ => []

@[simp] theorem length_header (c : SourceCall) : c.header.length = 3 := by cases c <;> rfl

/-- Every call packs its header and appends its payload. -/
theorem message_eq (c : SourceCall) : c.message = (packInts c.header).map (· ++ c.payload) := by
  cases c <;>
    simp only [message, header, payload, SourceNN.sendPortMsg, SourceNN.portBringUp,
      SourceNN.portBringDown, SourceNN.requestMac, SourceNN.requestCtrs, SourceNN.sendInfoReqMsg,
      SourceNN.send, packIntsBytes, List.take_length, Nat.sub_self, List.replicate_zero,
      List.append_nil] <;>
    cases packInts _ <;> rfl

theorem message_ok {c : SourceCall} {msg : Packet} (h : c.message = .ok msg) :
    (∀ v ∈ c.header, inInt32Range v = true) ∧
      msg = c.header.flatMap int32LE ++ c.payload := by
  rw [message_eq, packInts] at h
  split_ifs at h with hv
  · cases h; exact ⟨List.all_eq_true.mp hv, rfl⟩
  · cases h

/-- The header and the payload tell the call. -/
theorem eq_of_header_payload {c c' : SourceCall} (hh : c.header = c'.header)
    (hp : c.payload = c'.payload) : c = c' := by
  cases c <;> cases c' <;>
    simp only [header, payload, msgTypePortAdd, msgTypePortRemove, msgTypePortSetStatus,
      msgTypeInfoReq, msgTypePacketIn, msgPortStatusUp, msgPortStatusDown, msgInfoTypeHwaddr,
      msgInfoTypeCtrs, List.cons.injEq, Int.reduceEq, false_and, and_false,
      reduceCtorEq] at hh hp ⊢ <;>
    simp_all

end SourceCall

/-- **A source's messages are unambiguous.**  Two different calls among `port_add`,
`port_remove`, `port_bring_up`, `port_bring_down`, `__request_mac`, `__request_ctrs` and
`send` never hand the same bytes to the socket: the int32 header tells the call and its
port, and the bytes after it are the frame of `send`. -/
theorem source_messages_unambiguous {c c' : SourceCall} {msg msg' : Packet}
    (h : c.message = .ok msg) (h' : c'.message = .ok msg') (hne : c ≠ c') : msg ≠ msg' := by
  obtain ⟨hv, rfl⟩ := SourceCall.message_ok h
  obtain ⟨hv', rfl⟩ := SourceCall.message_ok h'
  intro he
  have hh : c.header = c'.header := by
    have h1 := unpackFromInts_flatMap hv c.payload
    rw [he, SourceCall.length_header, ← c'.length_header, unpackFromInts_flatMap hv'] at h1
    exact (Except.ok.inj h1).symm
  have hp : c.payload = c'.payload := by
    have h1 := drop_flatMap_int32LE c.header c.payload
    rw [he, SourceCall.length_header, ← c'.length_header, drop_flatMap_int32LE] at h1
    exact h1.symm
  exact hne (SourceCall.eq_of_header_payload hh hp)

/-- `port_bring_up` and `__request_mac` differ only in the type field. -/
theorem bring_up_and_request_mac_differ :
    (SourceCall.portBringUp 1).message = .ok [2, 0, 0, 0, 1, 0, 0, 0, 0, 0, 0, 0] ∧
      (SourceCall.requestMac 1).message = .ok [5, 0, 0, 0, 1, 0, 0, 0, 0, 0, 0, 0] ∧
      SourceCall.portBringUp 1 ≠ SourceCall.requestMac 1 ∧
      ([2, 0, 0, 0, 1, 0, 0, 0, 0, 0, 0, 0] : Packet) ≠ [5, 0, 0, 0, 1, 0, 0, 0, 0, 0, 0, 0] :=
  have h : (SourceCall.portBringUp 1).message = .ok [2, 0, 0, 0, 1, 0, 0, 0, 0, 0, 0, 0] := rfl
  have h' : (SourceCall.requestMac 1).message = .ok [5, 0, 0, 0, 1, 0, 0, 0, 0, 0, 0, 0] := rfl
  have hne : SourceCall.portBringUp 1 ≠ SourceCall.requestMac 1 := by decide
  ⟨h, h', hne, source_messages_unambiguous h h' hne⟩

/-- The well-formed messages the peer sends to `recv`: a frame for a port, or the reply
to an info request, `none` standing for "not supported". -/
inductive PeerMsg
  | packetOut (port : Int) (payload : Packet)
  | hwaddrRep (port : Int) (addr : Option Packet)
  | ctrsRep (port : Int) (ctrs : Option (Int × Int))

namespace PeerMsg

/-- The port a message is for. -/
def port : PeerMsg → Int
  | .packetOut p _ => p
  | .hwaddrRep p _ => p
  | .ctrsRep p _ => p

/-- The bytes of a message: its int32 fields, then the frame or the address. -/
def encode : PeerMsg → Packet
  | .packetOut p payload => [msgTypePacketOut, p, payload.length].flatMap int32LE ++ payload
  | .hwaddrRep p (some addr) =>
    [msgTypeInfoRep, p, msgInfoTypeHwaddr, msgInfoStatusSuccess].flatMap int32LE ++ addr
  | .hwaddrRep p none =>
    [msgTypeInfoRep, p, msgInfoTypeHwaddr, msgInfoStatusNotSupported].flatMap int32LE
  | .ctrsRep p (some (rx, tx)) =>
    [msgTypeInfoRep, p, msgInfoTypeCtrs, msgInfoStatusSuccess, rx, tx].flatMap int32LE
  | .ctrsRep p none =>
    [msgTypeInfoRep, p, msgInfoTypeCtrs, msgInfoStatusNotSupported].flatMap int32LE

/-- Its integer fields are int32 values. -/
def InRange : PeerMsg → Prop
  | .packetOut p payload => inInt32Range p = true ∧ payload.length < 2147483648
  | .hwaddrRep p _ => inInt32Range p = true
  | .ctrsRep p ctrs =>
    inInt32Range p = true ∧ ∀ c ∈ ctrs, inInt32Range c.1 = true ∧ inInt32Range c.2 = true

/-- Every well-formed message starts with its three header fields. -/
theorem encode_header (m : PeerMsg) (hm : m.InRange) :
    ∃ t more rest, (∀ v ∈ [t, m.port, more], inInt32Range v = true) ∧
      m.encode = [t, m.port, more].flatMap int32LE ++ rest := by
  rcases m with ⟨p, payload⟩ | ⟨p, _ | addr⟩ | ⟨p, _ | ⟨rx, tx⟩⟩ <;>
    simp only [InRange] at hm
  · exact ⟨_, _, payload, header_inRange (by decide) hm.1 (inInt32Range_length hm.2), rfl⟩
  · exact ⟨msgTypeInfoRep, msgInfoTypeHwaddr, [msgInfoStatusNotSupported].flatMap int32LE,
      header_inRange (by decide) hm (by decide), by simp [encode, port, List.flatMap_cons]⟩
  · exact ⟨msgTypeInfoRep, msgInfoTypeHwaddr, [msgInfoStatusSuccess].flatMap int32LE ++ addr,
      header_inRange (by decide) hm (by decide), by simp [encode, port, List.flatMap_cons]⟩
  · exact ⟨msgTypeInfoRep, msgInfoTypeCtrs, [msgInfoStatusNotSupported].flatMap int32LE,
      header_inRange (by decide) hm.1 (by decide), by simp [encode, port, List.flatMap_cons]⟩
  · exact ⟨msgTypeInfoRep, msgInfoTypeCtrs, [msgInfoStatusSuccess, rx, tx].flatMap int32LE,
      header_inRange (by decide) hm.1 (by decide), by simp [encode, port, List.flatMap_cons]⟩

end PeerMsg

/-- What `recv` reads and writes of a `DataPlanePacketSourceNN`: its device number and
port set, the caches `mac_addresses` and `nn_counters`, and the number of
`cvar.notify_all()` calls so far. -/
structure SourceNNRecv where
  deviceNumber : Int
  ports : List Int
  macAddresses : Dict Int (Option Packet)
  nnCounters : Dict Int (List Int)
  notifications : Nat

namespace SourceNNRecv

variable {τ : Type}

/-- `DataPlanePacketSourceNN.__handle_info_rep(port_number, info_type, msg)`; an
exception inside `with self.cvar` leaves the caches as they were. -/
def handleInfoRep (s : SourceNNRecv) (portNumber infoType : Int) (msg : Packet) :
    SourceNNRecv × Except PyError Unit :=
  match unpackFromInts 1 (some msg) with
  | .error e => (s, .error e)
  | .ok [status] =>
    let msg := if status ≠ msgInfoStatusSuccess then none else some (msg.drop (calcsizeInts 1))
    if infoType = msgInfoTypeHwaddr then
      ({ s with
          macAddresses := s.macAddresses.set portNumber msg
          notifications := s.notifications + 1 }, .ok ())
    else if infoType = msgInfoTypeCtrs then
      match unpackFromInts 2 msg with
      | .error e => (s, .error e)
      | .ok ctrs =>
        ({ s with
            nnCounters := s.nnCounters.set portNumber ctrs
            notifications := s.notifications + 1 }, .ok ())
    else (s, .ok ())
  | .ok _ => (s, .error .valueError)

/-- `DataPlanePacketSourceNN.recv` on the message `msg` from the socket, at time `now`:
`ok none` is the "no data" `None`. -/
def recv (s : SourceNNRecv) (msg : Packet) (now : τ) :
    SourceNNRecv × Except PyError (Option (Int × Int × Packet × τ)) :=
  match unpackFromInts 3 (some msg) with
  | .error e => (s, .error e)
  | .ok [msgType, portNumber, more] =>
    if portNumber ∉ s.ports then (s, .ok none)
    else
      let msg := msg.drop (calcsizeInts 3)
      if msgType = msgTypeInfoRep then
        match s.handleInfoRep portNumber more msg with
        | (s, .error e) => (s, .error e)
        | (s, .ok ()) => (s, .ok none)
      else if msgType ≠ msgTypePacketOut then (s, .error .assertionError)
      else if (msg.length : Int) ≠ more then (s, .error .assertionError)
      else (s, .ok (some (s.deviceNumber, portNumber, msg, now)))
  | .ok _ => (s, .error .valueError)

/-- `recv` on a message whose three header fields are int32 values: the outcome by port
and by type. -/
theorem recv_fields (s : SourceNNRecv) (t p more : Int) (payload : Packet) (now : τ)
    (hv : ∀ v ∈ [t, p, more], inInt32Range v = true) :
    s.recv ([t, p, more].flatMap int32LE ++ payload) now =
      if p ∉ s.ports then (s, .ok none)
      else if t = msgTypeInfoRep then
        match s.handleInfoRep p more payload with
        | (s, .error e) => (s, .error e)
        | (s, .ok ()) => (s, .ok none)
      else if t ≠ msgTypePacketOut then (s, .error .assertionError)
      else if (payload.length : Int) ≠ more then (s, .error .assertionError)
      else (s, .ok (some (s.deviceNumber, p, payload, now))) := by
  have hu : unpackFromInts 3 (some ([t, p, more].flatMap int32LE ++ payload)) = .ok [t, p, more] :=
    unpackFromInts_flatMap hv payload
  have hd : ([t, p, more].flatMap int32LE ++ payload).drop (calcsizeInts 3) = payload :=
    drop_flatMap_int32LE [t, p, more] payload
  simp only [recv, hu, hd]

/-- `__handle_info_rep` on a reply whose status field is an int32 value. -/
theorem handleInfoRep_status (s : SourceNNRecv) (p kind status : Int) (body : Packet)
    (hs : inInt32Range status = true) :
    s.handleInfoRep p kind ([status].flatMap int32LE ++ body) =
      let msg := if status ≠ msgInfoStatusSuccess then none else some body
      if kind = msgInfoTypeHwaddr then
        ({ s with
            macAddresses := s.macAddresses.set p msg
            notifications := s.notifications + 1 }, .ok ())
      else if kind = msgInfoTypeCtrs then
        match unpackFromInts 2 msg with
        | .error e => (s, .error e)
        | .ok ctrs =>
          ({ s with
              nnCounters := s.nnCounters.set p ctrs
              notifications := s.notifications + 1 }, .ok ())
      else (s, .ok ()) := by
  have hu : unpackFromInts 1 (some ([status].flatMap int32LE ++ body)) = .ok [status] :=
    unpackFromInts_flatMap (by simpa using hs) body
  have hd : ([status].flatMap int32LE ++ body).drop (calcsizeInts 1) = body :=
    drop_flatMap_int32LE [status] body
  simp only [handleInfoRep, hu, hd]

/-- A reply too short to hold its status raises `struct.error`. -/
theorem handleInfoRep_short (s : SourceNNRecv) (p kind : Int) (body : Packet)
    (h : body.length < 4) : s.handleInfoRep p kind body = (s, .error .structError) := by
  simp only [handleInfoRep, unpackFromInts_short (show body.length < calcsizeInts 1 from h)]

/-- `__handle_info_rep` either raises with the source as it was, or returns. -/
theorem handleInfoRep_cases (s : SourceNNRecv) (p kind : Int) (msg : Packet) :
    (∃ e, s.handleInfoRep p kind msg = (s, .error e)) ∨
      ∃ s', s.handleInfoRep p kind msg = (s', .ok ()) := by
  unfold handleInfoRep
  split
  · exact .inl ⟨_, rfl⟩
  · generalize (if _ ≠ msgInfoStatusSuccess then none else some _ : Option Packet) = reply
    by_cases hh : kind = msgInfoTypeHwaddr
    · exact .inr ⟨_, if_pos hh⟩
    · by_cases hc : kind = msgInfoTypeCtrs
      · rw [if_neg hh, if_pos hc]
        cases unpackFromInts 2 reply
        · exact .inl ⟨_, rfl⟩
        · exact .inr ⟨_, rfl⟩
      · exact .inr ⟨_, by rw [if_neg hh, if_neg hc]⟩
  · exact .inl ⟨_, rfl⟩

/-- `recv` either raises with the source as it was, or returns. -/
theorem recv_cases (s : SourceNNRecv) (msg : Packet) (now : τ) :
    (∃ e, s.recv msg now = (s, .error e)) ∨ ∃ s' r, s.recv msg now = (s', .ok r) := by
  unfold recv
  split
  · exact .inl ⟨_, rfl⟩
  · rename_i t p more _
    by_cases hp : p ∈ s.ports
    · rw [if_neg (not_not.mpr hp)]
      by_cases hi : t = msgTypeInfoRep
      · rw [if_pos hi]
        rcases handleInfoRep_cases s p more (msg.drop (calcsizeInts 3)) with ⟨e, he⟩ | ⟨s', hs'⟩
        · exact .inl ⟨e, by rw [he]⟩
        · exact .inr ⟨s', none, by rw [hs']⟩
      · rw [if_neg hi]
        split_ifs
        · exact .inl ⟨_, rfl⟩
        · exact .inl ⟨_, rfl⟩
        · exact .inr ⟨_, _, rfl⟩
    · exact .inr ⟨_, _, if_pos hp⟩
  · exact .inl ⟨_, rfl⟩

/-- **A failed `recv` changes nothing.**  When `recv` raises, the source's caches and
notification count are as they were. -/
theorem recv_error_state (s : SourceNNRecv) (msg : Packet) (now : τ) {e : PyError}
    (h : (s.recv msg now).2 = .error e) : (s.recv msg now).1 = s := by
  rcases recv_cases s msg now with ⟨e', he⟩ | ⟨s', r, hr⟩
  · rw [he]
  · rw [hr] at h; cases h

/-- Whether `__handle_info_rep` raises, and what, does not depend on the caches. -/
theorem handleInfoRep_snd (s s' : SourceNNRecv) (p kind : Int) (msg : Packet) :
    (s.handleInfoRep p kind msg).2 = (s'.handleInfoRep p kind msg).2 := by
  unfold handleInfoRep
  split
  · rfl
  · generalize (if _ ≠ msgInfoStatusSuccess then none else some _ : Option Packet) = reply
    by_cases hh : kind = msgInfoTypeHwaddr
    · rw [if_pos hh, if_pos hh]
    · by_cases hc : kind = msgInfoTypeCtrs
      · rw [if_neg hh, if_neg hh, if_pos hc, if_pos hc]
        cases unpackFromInts 2 reply <;> rfl
      · rw [if_neg hh, if_neg hh, if_neg hc, if_neg hc]
  · rfl

/-- What `recv` returns or raises depends on the source's device number and port set
only, not on its caches. -/
theorem recv_snd (s s' : SourceNNRecv) (hd : s.deviceNumber = s'.deviceNumber)
    (hp : s.ports = s'.ports) (msg : Packet) (now : τ) :
    (s.recv msg now).2 = (s'.recv msg now).2 := by
  unfold recv
  split
  · rfl
  · rename_i t p more _
    rw [hp, hd]
    by_cases hq : p ∈ s'.ports
    · rw [if_neg (not_not.mpr hq), if_neg (not_not.mpr hq)]
      by_cases hi : t = msgTypeInfoRep
      · rw [if_pos hi, if_pos hi]
        have h2 := handleInfoRep_snd s s' p more (msg.drop (calcsizeInts 3))
        revert h2
        rcases s.handleInfoRep p more (msg.drop (calcsizeInts 3)) with ⟨s₁, e | ⟨⟩⟩ <;>
          rcases s'.handleInfoRep p more (msg.drop (calcsizeInts 3)) with ⟨s₁', e' | ⟨⟩⟩ <;>
          rintro ⟨⟩ <;> rfl
      · rw [if_neg hi, if_neg hi]
        split_ifs <;> rfl
    · rw [if_pos hq, if_pos hq]
  · rfl

/-- `__handle_info_rep` raises only what `struct.unpack_from` raises, and the `ValueError`
of an unpacking into the wrong number of names. -/
theorem handleInfoRep_error_mem (s : SourceNNRecv) (p kind : Int) (msg : Packet) {e : PyError}
    (h : (s.handleInfoRep p kind msg).2 = .error e) :
    e = .structError ∨ e = .typeError ∨ e = .valueError := by
  unfold handleInfoRep at h
  split at h
  · rename_i e' he
    cases h
    exact (unpackFromInts_error he).imp_right .inl
  · generalize (if _ ≠ msgInfoStatusSuccess then none else some _ : Option Packet) = reply at h
    split_ifs at h
    dsimp only at h
    split at h <;> cases h
    exact (unpackFromInts_error ‹_›).imp_right .inl
  · cases h; exact .inr (.inr rfl)

/-- The exceptions `recv` raises: those of `struct.unpack_from` and of the unpacking of
its result, and the `AssertionError` of its checks. -/
theorem recv_error_mem (s : SourceNNRecv) (msg : Packet) (now : τ) {e : PyError}
    (h : (s.recv msg now).2 = .error e) :
    e = .structError ∨ e = .typeError ∨ e = .valueError ∨ e = .assertionError := by
  unfold recv at h
  split at h
  · cases h; exact (unpackFromInts_error ‹_›).imp_right .inl
  · rename_i t p more _
    by_cases hp : p ∈ s.ports
    · rw [if_neg (not_not.mpr hp)] at h
      by_cases hi : t = msgTypeInfoRep
      · rw [if_pos hi] at h
        split at h <;> cases h
        rename_i he
        exact (handleInfoRep_error_mem _ _ _ _ (congrArg Prod.snd he)).imp_right (.imp_right .inl)
      · rw [if_neg hi] at h
        split_ifs at h <;> cases h <;> exact .inr (.inr (.inr rfl))
    · rw [if_pos hp] at h; cases h
  · cases h; exact .inr (.inr (.inl rfl))

/-- A frame `recv` returns comes from a `PACKET_OUT` header whose length field counts the
bytes after it, for a number of the source's port set; it is returned under the source's
device number, stamped with the time of the call. -/
theorem recv_frame (s : SourceNNRecv) (msg : Packet) (now : τ) {d p : Int} {pkt : Packet}
    {t : τ} (h : (s.recv msg now).2 = .ok (some (d, p, pkt, t))) :
    unpackFromInts 3 (some msg) = .ok [msgTypePacketOut, p, pkt.length] ∧
      pkt = msg.drop (calcsizeInts 3) ∧ d = s.deviceNumber ∧ p ∈ s.ports ∧ t = now := by
  unfold recv at h
  split at h
  · cases h
  · rename_i t' p' more hu
    by_cases hp : p' ∈ s.ports
    · rw [if_neg (not_not.mpr hp)] at h
      by_cases hi : t' = msgTypeInfoRep
      · rw [if_pos hi] at h; split at h <;> cases h
      · rw [if_neg hi] at h
        split_ifs at h with ht hl
        cases h
        obtain rfl := not_not.mp ht
        obtain rfl := not_not.mp hl
        exact ⟨hu, rfl, rfl, hp, rfl⟩
    · rw [if_pos hp] at h; cases h
  · cases h

/-- **`recv` returns a frame exactly for a well-formed `PACKET_OUT`.**  It returns
`(device, p, pkt, t)` exactly when the message is the bytes of `PACKET_OUT` for `p` and
`pkt` with int32 fields, `p` is in the source's set, `device` is the source's device
number and `t` the time of the call: every frame it accepts comes from a well-formed
message, and is the frame that message carries. -/
theorem recv_frame_iff (s : SourceNNRecv) (msg : Packet) (now : τ) (d p : Int) (pkt : Packet)
    (t : τ) :
    (s.recv msg now).2 = .ok (some (d, p, pkt, t)) ↔
      msg = (PeerMsg.packetOut p pkt).encode ∧ (PeerMsg.packetOut p pkt).InRange ∧
        p ∈ s.ports ∧ d = s.deviceNumber ∧ t = now := by
  constructor
  · intro h
    obtain ⟨hu, rfl, rfl, hp, rfl⟩ := recv_frame s msg now h
    obtain ⟨hmsg, -, hv⟩ := unpackFromInts_ok hu
    have hm := hv ((msg.drop (calcsizeInts 3)).length : Int) (by simp)
    simp only [inInt32Range, Bool.and_eq_true, decide_eq_true_eq] at hm
    exact ⟨hmsg, ⟨hv p (by simp), by omega⟩, hp, rfl, rfl⟩
  · rintro ⟨rfl, hm, hp, rfl, rfl⟩
    rw [PeerMsg.encode, recv_fields s _ _ _ _ _
      (header_inRange (by decide) hm.1 (inInt32Range_length hm.2))]
    simp [hp, msgTypeInfoRep, msgTypePacketOut]

/-- An `INFO_REP` for a port of the set goes to `__handle_info_rep` with the bytes after
the header. -/
theorem recv_infoRep (s : SourceNNRecv) (p kind : Int) (body : Packet) (now : τ)
    (hv : ∀ v ∈ [msgTypeInfoRep, p, kind], inInt32Range v = true) (hp : p ∈ s.ports) :
    s.recv ([msgTypeInfoRep, p, kind].flatMap int32LE ++ body) now =
      match s.handleInfoRep p kind body with
      | (s, .error e) => (s, .error e)
      | (s, .ok ()) => (s, .ok none) := by
  rw [recv_fields s _ _ _ body now hv, if_neg (not_not.mpr hp), if_pos rfl]

/-- A reply for a port of the set: `__handle_info_rep` gets the status field and what
follows it. -/
theorem recv_reply (s : SourceNNRecv) (p kind status : Int) (body : Packet) (now : τ)
    (hp : inInt32Range p = true) (hk : inInt32Range kind = true) (hmem : p ∈ s.ports) :
    s.recv ([msgTypeInfoRep, p, kind, status].flatMap int32LE ++ body) now =
      match s.handleInfoRep p kind ([status].flatMap int32LE ++ body) with
      | (s, .error e) => (s, .error e)
      | (s, .ok ()) => (s, .ok none) := by
  have h := recv_infoRep s p kind ([status].flatMap int32LE ++ body) now
    (header_inRange (by decide) hp hk) hmem
  simpa [List.flatMap_cons, List.append_assoc] using h

/-- **`recv` on the peer's messages.**  A well-formed message for a port outside the
set is dropped with nothing changed.  For a port of the set, a `PACKET_OUT` is returned
as `(device, port, frame, now)`; a hardware-address reply stores the address, or `None`
on "not supported", and notifies the waiters; a successful counters reply stores
`(rx, tx)` and notifies the waiters. -/
theorem recv_handles_peer_messages (s : SourceNNRecv) (now : τ) :
    (∀ m : PeerMsg, m.InRange → m.port ∉ s.ports → s.recv m.encode now = (s, .ok none)) ∧
    (∀ p payload, (PeerMsg.packetOut p payload).InRange → p ∈ s.ports →
      s.recv (PeerMsg.packetOut p payload).encode now =
        (s, .ok (some (s.deviceNumber, p, payload, now)))) ∧
    (∀ p addr, (PeerMsg.hwaddrRep p addr).InRange → p ∈ s.ports →
      s.recv (PeerMsg.hwaddrRep p addr).encode now =
        ({ s with
            macAddresses := s.macAddresses.set p addr
            notifications := s.notifications + 1 }, .ok none)) ∧
    (∀ p rx tx, (PeerMsg.ctrsRep p (some (rx, tx))).InRange → p ∈ s.ports →
      s.recv (PeerMsg.ctrsRep p (some (rx, tx))).encode now =
        ({ s with
            nnCounters := s.nnCounters.set p [rx, tx]
            notifications := s.notifications + 1 }, .ok none)) := by
  refine ⟨fun m hm hp => ?_, fun p payload hm hp => ?_, fun p addr hm hp => ?_,
    fun p rx tx hm hp => ?_⟩
  · obtain ⟨t, more, rest, hv, he⟩ := m.encode_header hm
    rw [he, recv_fields s _ _ _ _ now hv, if_pos hp]
  · rw [PeerMsg.encode, recv_fields s _ _ _ _ now
      (header_inRange (by decide) hm.1 (inInt32Range_length hm.2))]
    simp [hp, msgTypeInfoRep, msgTypePacketOut]
  · cases addr with
    | none =>
      have h := recv_reply s p msgInfoTypeHwaddr msgInfoStatusNotSupported [] now hm
        (by decide) hp
      rw [List.append_nil] at h
      rw [PeerMsg.encode, h, handleInfoRep_status s p _ _ _ (by decide)]
      simp [msgInfoStatusNotSupported, msgInfoStatusSuccess]
    | some addr =>
      rw [PeerMsg.encode, recv_reply s p _ _ addr now hm (by decide) hp,
        handleInfoRep_status s p _ _ _ (by decide)]
      simp [msgInfoStatusSuccess]
  · simp only [PeerMsg.InRange, Option.mem_def, Option.some.injEq, forall_eq'] at hm
    have h := recv_reply s p msgInfoTypeCtrs msgInfoStatusSuccess ([rx, tx].flatMap int32LE)
      now hm.1 (by decide) hp
    rw [PeerMsg.encode, show [msgTypeInfoRep, p, msgInfoTypeCtrs, msgInfoStatusSuccess, rx, tx] =
      [msgTypeInfoRep, p, msgInfoTypeCtrs, msgInfoStatusSuccess] ++ [rx, tx] from rfl,
      List.flatMap_append, h, handleInfoRep_status s p _ _ _ (by decide)]
    have hu : unpackFromInts 2 (some (int32LE rx ++ int32LE tx)) = .ok [rx, tx] := by
      simpa using @unpackFromInts_flatMap [rx, tx] (by simp [hm.2.1, hm.2.2]) []
    simp [msgInfoStatusSuccess, msgInfoTypeHwaddr, msgInfoTypeCtrs, hu]

/-- **A "not supported" counters reply kills `recv`.**  For a port of the set,
`__handle_info_rep` sets `msg = None` on the failure status and then calls
`struct.unpack_from("<ii", None)`, which raises `TypeError`: `recv` raises instead of
storing `None` and returning. -/
theorem recv_raises_on_unsupported_counters_reply (s : SourceNNRecv) (now : τ) (p : Int)
    (hp : inInt32Range p = true) (hmem : p ∈ s.ports) :
    s.recv (PeerMsg.ctrsRep p none).encode now = (s, .error .typeError) := by
  have h := recv_reply s p msgInfoTypeCtrs msgInfoStatusNotSupported [] now hp (by decide) hmem
  rw [List.append_nil] at h
  rw [PeerMsg.encode, h, handleInfoRep_status s p _ _ _ (by decide)]
  simp [msgInfoStatusNotSupported, msgInfoStatusSuccess, msgInfoTypeHwaddr, msgInfoTypeCtrs,
    unpackFromInts]

theorem recv_raises_on_unsupported_counters_reply_port_one :
    inInt32Range 1 = true ∧ (1 : Int) ∈ [1] ∧
    (SourceNNRecv.mk 0 [1] .empty .empty 0).recv (PeerMsg.ctrsRep 1 none).encode (0 : Nat) =
      (SourceNNRecv.mk 0 [1] .empty .empty 0, .error .typeError) :=
  ⟨by decide, by decide,
    recv_raises_on_unsupported_counters_reply (SourceNNRecv.mk 0 [1] .empty .empty 0) (0 : Nat) 1
      (by decide) (by decide)⟩

/-- **Malformed messages make `recv` raise.**  A message shorter than the header raises
`struct.error`; for a port of the set, a type other than `PACKET_OUT` and `INFO_REP`, or
a `PACKET_OUT` whose payload is not `more` bytes long, fails an `assert`; an `INFO_REP`
with no room for its status, or a successful counters reply with fewer than 8 bytes of
counters, raises `struct.error`. -/
theorem recv_raises_on_malformed (s : SourceNNRecv) (now : τ) :
    (∀ msg : Packet, msg.length < 12 → s.recv msg now = (s, .error .structError)) ∧
    (∀ t p more payload, (∀ v ∈ [t, p, more], inInt32Range v = true) → p ∈ s.ports →
      t ≠ msgTypePacketOut → t ≠ msgTypeInfoRep →
      s.recv ([t, p, more].flatMap int32LE ++ payload) now = (s, .error .assertionError)) ∧
    (∀ p more payload, (∀ v ∈ [msgTypePacketOut, p, more], inInt32Range v = true) →
      p ∈ s.ports → (payload.length : Int) ≠ more →
      s.recv ([msgTypePacketOut, p, more].flatMap int32LE ++ payload) now =
        (s, .error .assertionError)) ∧
    (∀ p kind payload, (∀ v ∈ [msgTypeInfoRep, p, kind], inInt32Range v = true) →
      p ∈ s.ports → payload.length < 4 →
      s.recv ([msgTypeInfoRep, p, kind].flatMap int32LE ++ payload) now =
        (s, .error .structError)) ∧
    (∀ p counters, inInt32Range p = true → p ∈ s.ports → counters.length < 8 →
      s.recv ([msgTypeInfoRep, p, msgInfoTypeCtrs, msgInfoStatusSuccess].flatMap int32LE ++
        counters) now = (s, .error .structError)) := by
  refine ⟨fun msg h => ?_, fun t p more payload hv hp ht ht' => ?_,
    fun p more payload hv hp hl => ?_, fun p kind payload hv hp hl => ?_,
    fun p counters hp hmem hl => ?_⟩
  · simp only [recv, unpackFromInts_short (show msg.length < calcsizeInts 3 from h)]
  · rw [recv_fields s _ _ _ _ now hv]
    simp [hp, ht, ht']
  · rw [recv_fields s _ _ _ _ now hv]
    simp [hp, hl, msgTypePacketOut, msgTypeInfoRep]
  · rw [recv_infoRep s _ _ _ now hv hp, handleInfoRep_short s _ _ _ hl]
  · rw [recv_reply s p _ _ counters now hp (by decide) hmem,
      handleInfoRep_status s p _ _ _ (by decide)]
    simp [msgInfoStatusSuccess, msgInfoTypeHwaddr, msgInfoTypeCtrs,
      unpackFromInts_short (show counters.length < calcsizeInts 2 from hl)]

end SourceNNRecv

end PtfDataplane
