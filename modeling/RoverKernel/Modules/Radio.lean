import RoverKernel.Queue
import RoverKernel.Payload
import RoverKernel.Text.Utf8
import RoverKernel.Text.Escape

/-!
# The radio module

A TCP/IP radio with a server switch, five socket slots and logs of the frames sent and the
data received.  Services:

* `0` TCP_SERVER: enable byte, then the port when enabling;
* `1` CONNECT_TCP: the address in dotted decimal, then the port — opens the lowest free slot;
* `2` SEND_TCP: socket byte, then the data;
* `3` RECEIVE: socket byte — moves the socket's inbound data to the received log;
* `4` CLOSE_TCP: socket byte.

A fault leaves the radio as it was and reports its code; an unknown service is ignored.
Both logs keep the last 64 frames.  Inbound data arrives through `injectInbound`, which then
runs the inbound hook installed, if any.  A hook is any function of the socket and the data on
whatever it captured, typically a queue it pushes a reply to; whoever installs it holds it
beside the radio and hands it to `injectInbound`.
-/

namespace RoverKernel

def maxSockets : Nat := 5

/-- frames each log keeps -/
def maxRetainedFrames : Nat := 64

structure Ipv4Addr where
  /-- the four octets, most significant first -/
  octets : List Nat
deriving DecidableEq, Repr, Inhabited

namespace Ipv4Addr

def new (a b c d : UInt8) : Ipv4Addr := ⟨[a.toNat, b.toNat, c.toNat, d.toNat]⟩

/-- dotted-decimal text -/
def toText (a : Ipv4Addr) : String := ".".intercalate (a.octets.map toString)

/-- one octet: one to three digits, no leading zero unless the octet is `0`, at most 255 -/
def parseOctet (ds : List Char) : Option Nat :=
  if ds.isEmpty || 3 < ds.length || !ds.all Char.isDigit then none
  else if ds.head? == some '0' && 1 < ds.length then none
  else
    let v := ds.foldl (fun acc c => 10 * acc + (c.toNat - 48)) 0
    if v ≤ 255 then some v else none

/-- strict dotted-decimal parsing: exactly four octets and nothing else -/
def parse (cs : List Char) : Option Ipv4Addr :=
  let parts := cs.splitOn '.'
  if parts.length ≠ 4 then none
  else (parts.mapM parseOctet).map Ipv4Addr.mk

end Ipv4Addr

/-- why a radio request failed -/
inductive RadioFault where
  /-- the payload does not hold the request -/
  | badArgs (e : KernelError)
  | badAddress (text : String)
  /-- the socket slot is out of range or empty -/
  | noSuchSocket (id : Nat)
  | noFreeSocket
deriving DecidableEq, Repr

namespace RadioFault

/-- the code written into the outcome -/
def code : RadioFault → Nat
  | .badArgs _ => 1
  | .badAddress _ => 2
  | .noSuchSocket _ => 3
  | .noFreeSocket => 4

def kind : RadioFault → String
  | .badArgs _ => "BadArgs"
  | .badAddress _ => "BadAddress"
  | .noSuchSocket _ => "NoSuchSocket"
  | .noFreeSocket => "NoFreeSocket"

def message : RadioFault → String
  | .badArgs e => "malformed payload: " ++ e.message
  | .badAddress t => "invalid IPv4 address " ++ Escape.debugStr t.toList
  | .noSuchSocket id => s!"socket {id} not open"
  | .noFreeSocket => "no free socket"

/-- the structural form -/
def debug : RadioFault → String
  | .badArgs e => "BadArgs(" ++ e.debug ++ ")"
  | .badAddress t => "BadAddress(" ++ Escape.debugStr t.toList ++ ")"
  | .noSuchSocket id => s!"NoSuchSocket({id})"
  | .noFreeSocket => "NoFreeSocket"

/-- the kernel error underneath, for `badArgs` -/
def source : RadioFault → Option KernelError
  | .badArgs e => some e
  | _ => none

end RadioFault

def liftRadioArgs {α : Type} (r : KernelResult α) : Except RadioFault α := r.mapError .badArgs

@[simp] theorem liftRadioArgs_ok {α : Type} (a : α) : liftRadioArgs (.ok a) = .ok a := rfl

@[simp] theorem liftRadioArgs_error {α : Type} (e : KernelError) :
    liftRadioArgs (.error e : KernelResult α) = .error (.badArgs e) := rfl

/-- a request to open a connection -/
structure ConnectRequest where
  ip : Ipv4Addr
  port : Nat
deriving DecidableEq, Repr

namespace ConnectRequest

/-- appends the dotted-decimal address and the little-endian port, or nothing if the whole
encoding does not fit -/
def encodeInto (c : ConnectRequest) (e : TaskEntry) : KernelResult TaskEntry := do
  let text := Utf8.encode c.ip.toText.toList
  let needed := text.length + 2
  if e.remaining < needed then throw (.argumentTooLarge needed e.remaining)
  let e ← e.appendBytes text
  e.appendU16 c.port

/-- reads a request: all bytes but the last two are the address text, the last two the port.
The text must be UTF-8 and, without its trailing NULs, a dotted-decimal address; a bad address
is reported with the whole text. -/
def decode (r : ArgReader) : Except RadioFault (ConnectRequest × ArgReader) := do
  if r.remaining < 2 then throw (.badArgs (.payloadUnderrun 2 r.remaining))
  let (text, r) ← liftRadioArgs (r.readBytes (r.remaining - 2))
  let (port, r) ← liftRadioArgs r.readU16
  match Utf8.decode? text with
  | none => throw (.badAddress (String.ofList (Utf8.decodeLossy text)))
  | some cs =>
    match Ipv4Addr.parse (cs.reverse.dropWhile (· == '\x00')).reverse with
    | none => throw (.badAddress (String.ofList cs))
    | some ip => pure (⟨ip, port⟩, r)

end ConnectRequest

/-- appends a SEND_TCP payload, the socket byte then the data, or nothing if it does not fit -/
def encodeSend (e : TaskEntry) (socket : Nat) (data : List UInt8) : KernelResult TaskEntry := do
  if e.remaining < data.length + 1 then throw (.argumentTooLarge (data.length + 1) e.remaining)
  let e ← e.appendBytes [UInt8.ofNat socket]
  e.appendBytes data

/-- an open connection -/
structure Socket where
  /-- the slot it occupies -/
  id : Nat
  ip : Ipv4Addr
  port : Nat
  /-- data received and not yet collected -/
  inbound : List UInt8 := []
deriving DecidableEq, Repr, Inhabited

/-- a frame in a log: the socket and the bytes -/
abbrev Frame := Nat × List UInt8

/-- appends to a log that keeps the last `maxRetainedFrames` frames -/
def retainFrame (log : List Frame) (f : Frame) : List Frame :=
  if log.length = maxRetainedFrames then log.tail ++ [f] else log ++ [f]

structure RadioState where
  /-- port of the TCP server, when enabled -/
  serverPort : Option Nat := none
  sockets : Vector (Option Socket) maxSockets := Vector.replicate maxSockets none
  /-- frames sent, oldest first -/
  sent : List Frame := []
  /-- data received, oldest first -/
  received : List Frame := []
  /-- frames sent in total -/
  framesSent : Nat := 0
deriving DecidableEq, Repr, Inhabited

namespace RadioState

/-- the open socket in slot `id` -/
def socket (s : RadioState) (id : Nat) : Except RadioFault Socket :=
  match s.sockets[id]? with
  | some (some sock) => .ok sock
  | _ => .error (.noSuchSocket id)

/-- identifiers of the open sockets, ascending -/
def openSockets (s : RadioState) : List Nat := s.sockets.toList.filterMap (·.map (·.id))

/-- TCP_SERVER: enable with a port, or disable -/
def tcpServer (s : RadioState) (r : ArgReader) : Except RadioFault RadioState := do
  let (enable, r) ← liftRadioArgs r.readBool
  if enable then
    let (port, _) ← liftRadioArgs r.readU16
    pure { s with serverPort := some port }
  else pure { s with serverPort := none }

/-- CONNECT_TCP: opens the lowest free slot -/
def connect (s : RadioState) (r : ArgReader) : Except RadioFault RadioState := do
  let (req, _) ← ConnectRequest.decode r
  match s.sockets.toList.findIdx? (·.isNone) with
  | none => throw .noFreeSocket
  | some i => pure { s with sockets := s.sockets.setIfInBounds i (some ⟨i, req.ip, req.port, []⟩) }

/-- SEND_TCP: logs the frame on an open socket -/
def send (s : RadioState) (r : ArgReader) : Except RadioFault RadioState := do
  let (id, r) ← liftRadioArgs r.readU8
  let (data, _) := r.readRest
  let _ ← s.socket id.toNat
  pure { s with framesSent := s.framesSent + 1, sent := retainFrame s.sent (id.toNat, data) }

/-- RECEIVE: moves a socket's inbound data to the received log, if there is any -/
def receive (s : RadioState) (r : ArgReader) : Except RadioFault RadioState := do
  let (id, _) ← liftRadioArgs r.readU8
  let sock ← s.socket id.toNat
  let s := { s with sockets := s.sockets.setIfInBounds id.toNat (some { sock with inbound := [] }) }
  if sock.inbound.isEmpty then pure s
  else pure { s with received := retainFrame s.received (id.toNat, sock.inbound) }

/-- CLOSE_TCP: frees a socket's slot -/
def close (s : RadioState) (r : ArgReader) : Except RadioFault RadioState := do
  let (id, _) ← liftRadioArgs r.readU8
  let _ ← s.socket id.toNat
  pure { s with sockets := s.sockets.setIfInBounds id.toNat none }

end RadioState

/-- an inbound hook: what it does with the socket and the data to the world `ω` it captured -/
abbrev InboundHook (ω : Type) := Nat → List UInt8 → ω → ω

structure Radio where
  buffer : ServiceBuffer := ServiceBuffer.new argCapacity
  state : RadioState := {}
deriving DecidableEq, Repr, Inhabited

namespace Radio

/-- runs a service on the state: `none` for an unknown service -/
def run (s : RadioState) (service : Nat) (r : ArgReader) : Option (Except RadioFault RadioState) :=
  match service with
  | 0 => some (s.tcpServer r)
  | 1 => some (s.connect r)
  | 2 => some (s.send r)
  | 3 => some (s.receive r)
  | 4 => some (s.close r)
  | _ => none

/-- serves the request in the buffer -/
def invoke (m : Radio) : Radio :=
  match run m.state m.buffer.service m.buffer.reader with
  | none => m
  | some (.ok s) => { m with state := s, buffer := m.buffer.setOutcome .ok }
  | some (.error f) => { m with buffer := m.buffer.setOutcome (.failed f.code) }

/-- a request delivered to the radio: the payload is loaded into its buffer and the radio
serves it; a payload the buffer cannot take is refused and changes nothing -/
def call (m : Radio) (service : Nat) (payload : List UInt8) : Radio :=
  match m.buffer.load service payload with
  | .ok b => { m with buffer := b }.invoke
  | .error _ => m

/-- data arriving on a socket: appended to its inbound buffer, then handed to the hook
installed, if any, which acts on the world `w` it captured.  Fails, changing nothing and
running no hook, if the socket is not open. -/
def injectInbound {ω : Type} (m : Radio) (hook : Option (InboundHook ω)) (socket : Nat)
    (data : List UInt8) (w : ω) : Except RadioFault (Radio × ω) := do
  let sock ← m.state.socket socket
  let m := { m with state := { m.state with
    sockets := m.state.sockets.setIfInBounds socket (some { sock with inbound := sock.inbound ++ data }) } }
  match hook with
  | none => pure (m, w)
  | some h => pure (m, h socket data w)

/-- takes the sent log, leaving it empty -/
def takeSent (m : Radio) : List Frame × Radio := (m.state.sent, { m with state := { m.state with sent := [] } })

/-- takes the received log, leaving it empty -/
def takeReceived (m : Radio) : List Frame × Radio :=
  (m.state.received, { m with state := { m.state with received := [] } })

/-- the structural form of the radio: its buffer slot, its state, and whether a hook is set,
each lock shown as unlocked and unpoisoned -/
def debug (m : Radio) (hasHook : Bool) : String :=
  let bytes := debugList fun (x : UInt8) => toString x.toNat
  let frame := fun ((s, d) : Frame) => s!"({s}, " ++ bytes d ++ ")"
  let socket := fun (o : Option Socket) => match o with
    | none => "None"
    | some k => s!"Some(Socket \x7b id: {k.id}, ip: " ++ k.ip.toText ++ s!", port: {k.port}, inbound: " ++
        bytes k.inbound ++ " \x7d)"
  let port := match m.state.serverPort with
    | none => "None"
    | some p => s!"Some({p})"
  let state := "RadioState \x7b server_port: " ++ port ++ ", sockets: " ++
    debugList socket m.state.sockets.toList ++ ", sent: " ++ debugList frame m.state.sent ++
    ", received: " ++ debugList frame m.state.received ++ s!", frames_sent: {m.state.framesSent} \x7d"
  "Radio \x7b slot: ServiceSlot \x7b buffer: " ++ debugLocked m.buffer.debug ++ " \x7d, state: " ++
    debugLocked state ++ s!", has_hook: {hasHook} \x7d"

end Radio

end RoverKernel
