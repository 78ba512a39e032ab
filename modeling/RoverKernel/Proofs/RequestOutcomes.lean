import Mathlib.Data.List.Basic
import RoverKernel.Proofs.RadioSessions
import RoverKernel.Proofs.EngineCommands
import RoverKernel.Proofs.SpeedLoop

/-!
# What a module writes back for a request

A module serves the request in its buffer and writes `Ok`, or `Failed(code)` with the code of
the first check the request fails; a request it does not know, or ignores, leaves even the
outcome alone.  The checks are stated here on the payload bytes, in the order the modules
make them, and every failure is shown to change nothing but the outcome:

* `failureCode`, `outcomeOf`           the code a service result writes, and the outcome;
* `RadioState.refusal`                 the radio's code for each service, checked on the bytes;
* `RadioState.failureCode_run`         each service fails with exactly that code;
* `radio_refusals`                     a refused radio request changes nothing but its outcome,
                                       and data for a closed socket is refused before it is stored;
* `MoveCommand.refusal`, `ArcCommand.refusal`, `PercentCommand.refusal`   the engines' codes,
                                       with `failureCode_decode` and `decode_of_refusal` for each;
* `engine_request_outcomes`            what the engines do with every request.
-/

namespace RoverKernel

/-- the code a service result writes when it is a fault, `none` when it succeeds -/
def failureCode {ε α : Type} (code : ε → Nat) : Except ε α → Option Nat
  | .ok _ => none
  | .error f => some (code f)

/-- the outcome written for a request that fails with a code, or succeeds -/
def outcomeOf : Option Nat → ServiceOutcome
  | some c => .failed c
  | none => .ok

@[simp] theorem failureCode_ok {ε α : Type} (code : ε → Nat) (a : α) :
    failureCode code (.ok a : Except ε α) = none := rfl

@[simp] theorem failureCode_error {ε α : Type} (code : ε → Nat) (f : ε) :
    failureCode code (.error f : Except ε α) = some (code f) := rfl

namespace RadioState

/-- whether the text of a CONNECT_TCP payload, all of it but the last two bytes, is UTF-8 that
names an IPv4 address once its trailing NULs are dropped -/
def addressReads (p : List UInt8) : Bool :=
  match Utf8.decode? (p.take (p.length - 2)) with
  | none => false
  | some cs => (Ipv4Addr.parse (dropTrailingNul cs)).isSome

/-- the code SEND_TCP, RECEIVE and CLOSE_TCP fail with: `1` without a socket byte, `3` when
the byte names no slot or an empty one -/
def socketRefusal (s : RadioState) : List UInt8 → Option Nat
  | [] => some 1
  | b :: _ => if maxSockets ≤ b.toNat ∨ s.slot b.toNat = none then some 3 else none

/-- the code a request fails with, its checks taken in the order the radio makes them, or
`none` when it succeeds -/
def refusal (s : RadioState) (service : Nat) (p : List UInt8) : Option Nat :=
  match service with
  | 0 => if p = [] ∨ (p.head? ≠ some 0 ∧ p.length < 3) then some 1 else none
  | 1 =>
    if p.length < 2 then some 1
    else if !addressReads p then some 2
    else if ∀ i < maxSockets, (s.slot i).isSome then some 4
    else none
  | 2 | 3 | 4 => s.socketRefusal p
  | _ => none

theorem failureCode_tcpServer (s : RadioState) (p : List UInt8) :
    failureCode RadioFault.code (s.tcpServer ⟨p⟩) =
      if p = [] ∨ (p.head? ≠ some 0 ∧ p.length < 3) then some 1 else none := by
  rcases p with _ | ⟨b, rest⟩
  · rfl
  by_cases hb : b = 0
  · subst hb
    simp [tcpServer, bind, Except.bind, pure, Except.pure]
  · rcases rest with _ | ⟨x, _ | ⟨y, rest⟩⟩ <;>
      simp [tcpServer, hb, bind, Except.bind, pure, Except.pure, ArgReader.readU16, RadioFault.code]

/-- a CONNECT_TCP payload fails to read with `1` when it has no port, then with `2` when its
text names no address -/
theorem failureCode_readRequest (p : List UInt8) :
    failureCode RadioFault.code (ConnectRequest.decode ⟨p⟩) =
      if p.length < 2 then some 1 else if addressReads p then none else some 2 := by
  by_cases hshort : p.length < 2
  · simp [ConnectRequest.decode, ArgReader.remaining, hshort, throw, throwThe,
      MonadExceptOf.throw, bind, Except.bind, RadioFault.code]
  · -- the port is the last two bytes, so both reads succeed
    have hlen : (p.drop (p.length - 2)).length = 2 := by simp; omega
    obtain ⟨x, y, hxy⟩ := List.length_eq_two.mp hlen
    have hread : ArgReader.readBytes ⟨p⟩ (p.length - 2) =
        .ok (p.take (p.length - 2), ⟨[x, y]⟩) := by
      rw [ArgReader.readBytes, if_neg (by simp [ArgReader.remaining]), hxy]
    -- the address text decodes or not, and names an address or not
    rcases hd : Utf8.decode? (p.take (p.length - 2)) with _ | cs
    · simp only [ConnectRequest.decode, ArgReader.remaining, hshort, if_false, hread,
        liftRadioArgs_ok, ArgReader.readU16_cons, bind, Except.bind, addressReads, hd]
      rfl
    · rcases hip : Ipv4Addr.parse (cs.reverse.dropWhile (· == '\x00')).reverse with _ | ip <;>
        simp only [ConnectRequest.decode, ArgReader.remaining, hshort, if_false, hread,
          liftRadioArgs_ok, ArgReader.readU16_cons, bind, Except.bind, addressReads, hd,
          dropTrailingNul, hip] <;> rfl

section
variable {s : RadioState}

/-- a slot past the five is never open -/
theorem slot_of_le (i : Nat) (h : maxSockets ≤ i) : s.slot i = none := by
  simp [slot, Vector.getElem?_eq_none h]

theorem socketRefusal_cons (b : UInt8) (rest : List UInt8) :
    s.socketRefusal (b :: rest) = if s.slot b.toNat = none then some 3 else none := by
  by_cases hb : maxSockets ≤ b.toNat
  · simp [socketRefusal, hb, slot_of_le _ hb]
  · simp [socketRefusal, hb]

/-- CONNECT_TCP fails with `1` or `2` as its payload fails to read, then with `4` when all
five slots are taken -/
theorem failureCode_connect (p : List UInt8) :
    failureCode RadioFault.code (s.connect ⟨p⟩) =
      if p.length < 2 then some 1
      else if !addressReads p then some 2
      else if ∀ i < maxSockets, (s.slot i).isSome then some 4
      else none := by
  have hcode := failureCode_readRequest p
  rcases hd : ConnectRequest.decode ⟨p⟩ with f | ⟨req, r'⟩
  · rw [connect_of_decode_error hd]
    rw [hd] at hcode
    by_cases hshort : p.length < 2
    · simpa [hshort] using hcode
    · by_cases hreads : addressReads p <;> simp_all
  · -- a request that reads goes to the first free slot, if there is one
    rw [hd] at hcode
    have hshort : ¬ p.length < 2 := fun h => by simp [h] at hcode
    have hreads : addressReads p = true := by
      by_contra h
      simp [hshort, h] at hcode
    rcases hi : s.sockets.toList.findIdx? (·.isNone) with _ | i
    · have hfull := findIdx?_isNone_eq_none_iff.mp hi
      rw [connect_of_full hd hi, if_neg hshort, if_neg (by simp [hreads]), if_pos hfull]
      rfl
    · obtain ⟨hlt, hfree, -⟩ := findIdx?_isNone_eq_some_iff.mp hi
      have hnot : ¬ ∀ j < maxSockets, (s.slot j).isSome := fun hall => by
        simpa [hfree] using hall i hlt
      simp [connect_of_free hd hi, hshort, hreads, hnot]

theorem failureCode_send (p : List UInt8) :
    failureCode RadioFault.code (s.send ⟨p⟩) = s.socketRefusal p := by
  rcases p with _ | ⟨b, d⟩
  · rfl
  rw [send_cons, socketRefusal_cons]
  cases h : s.slot b.toNat with
  | none => simp [socket_of_slot_none h, Except.map, RadioFault.code]
  | some sock => simp [socket_eq_ok_iff.mpr h, Except.map]

theorem failureCode_receive (p : List UInt8) :
    failureCode RadioFault.code (s.receive ⟨p⟩) = s.socketRefusal p := by
  rcases p with _ | ⟨b, rest⟩
  · rfl
  rw [socketRefusal_cons]
  simp only [receive, ArgReader.readU8_cons, liftRadioArgs_ok, bind, Except.bind]
  cases h : s.slot b.toNat with
  | none => simp [socket_of_slot_none h, RadioFault.code]
  | some sock =>
    rw [socket_eq_ok_iff.mpr h]
    by_cases hin : sock.inbound.isEmpty <;> simp [hin, pure, Except.pure]

theorem failureCode_close (p : List UInt8) :
    failureCode RadioFault.code (s.close ⟨p⟩) = s.socketRefusal p := by
  rcases p with _ | ⟨b, rest⟩
  · rfl
  rw [socketRefusal_cons]
  simp only [close, ArgReader.readU8_cons, liftRadioArgs_ok, bind, Except.bind]
  cases h : s.slot b.toNat with
  | none => simp [socket_of_slot_none h, RadioFault.code]
  | some sock => simp [socket_eq_ok_iff.mpr h, pure, Except.pure]

/-- every known service is served, and fails with the code `refusal` gives -/
theorem failureCode_run {service : Nat} (hsvc : service ≤ 4) (p : List UInt8) :
    ∃ r, Radio.run s service ⟨p⟩ = some r ∧ failureCode RadioFault.code r = s.refusal service p := by
  obtain rfl | rfl | rfl | rfl | rfl : service = 0 ∨ service = 1 ∨ service = 2 ∨ service = 3 ∨
    service = 4 := by omega
  · exact ⟨_, rfl, failureCode_tcpServer s p⟩
  · exact ⟨_, rfl, failureCode_connect p⟩
  · exact ⟨_, rfl, failureCode_send p⟩
  · exact ⟨_, rfl, failureCode_receive p⟩
  · exact ⟨_, rfl, failureCode_close p⟩

end

end RadioState

namespace Radio

/-- a request the radio does not know is ignored: not even the outcome is written -/
theorem invoke_unknown (m : Radio) (h : 4 < m.buffer.service) : m.invoke = m := by
  obtain ⟨n, hn⟩ : ∃ n, m.buffer.service = n + 5 := ⟨m.buffer.service - 5, by omega⟩
  rw [invoke, hn]
  rfl

/-- a request that writes a failure changes the buffer alone -/
theorem invoke_of_failed {m : Radio} {c : Nat} (h : m.invoke.buffer.outcome = .failed c) :
    m.invoke = { m with buffer := m.invoke.buffer } := by
  unfold invoke at h ⊢
  split at h
  · rfl
  · exact nomatch h
  · rfl

/-- a known request writes `Ok`, or the code `refusal` gives -/
theorem invoke_buffer {m : Radio} (hsvc : m.buffer.service ≤ 4) :
    m.invoke.buffer =
      m.buffer.setOutcome (outcomeOf (m.state.refusal m.buffer.service m.buffer.payload)) := by
  obtain ⟨r, hr, hcode⟩ := RadioState.failureCode_run hsvc m.buffer.payload
  rw [← hcode, invoke, ServiceBuffer.reader, hr]
  cases r <;> rfl

/-- data for a socket that is not open is refused before anything is stored or any hook
runs -/
theorem injectInbound_of_closed {ω : Type} (m : Radio) (hook : Option (InboundHook ω)) {i : Nat}
    (h : m.state.slot i = none) (d : List UInt8) (w : ω) :
    m.injectInbound hook i d w = .error (.noSuchSocket i) := by
  simp [injectInbound, RadioState.socket_of_slot_none h, bind, Except.bind]

/-- what the radio does with a request, and with data for a closed socket -/
structure Refusals (m : Radio) : Prop where
  /-- a request that writes a failure leaves the state as it was -/
  failed_keeps : ∀ c, m.invoke.buffer.outcome = .failed c → m.invoke = { m with buffer := m.invoke.buffer }
  /-- a known request writes `Ok` or the code of the first check it fails, in the order of
  `RadioState.refusal` -/
  outcome_eq : m.buffer.service ≤ 4 →
    m.invoke.buffer = m.buffer.setOutcome (outcomeOf (m.state.refusal m.buffer.service m.buffer.payload))
  /-- an unknown request changes nothing, not even the outcome -/
  unknown_ignored : 4 < m.buffer.service → m.invoke = m
  /-- data for a socket that is not open is refused with `NoSuchSocket`, so nothing is stored
  and no hook runs, whatever it is and whatever it acts on -/
  inject_closed : ∀ (ω : Type) (hook : Option (InboundHook ω)) i d (w : ω), m.state.slot i = none →
    m.injectInbound hook i d w = .error (.noSuchSocket i)

end Radio

/-- **A refused radio request changes nothing but its outcome.**  For every radio state and any
request in its buffer: a request that writes `Failed(code)` leaves the
server port, the socket table with its inbound data, both logs and the send counter as they
were.  The code is that of the first check the request fails: TCP_SERVER `1` for an empty
payload or an enabling one without its port; CONNECT_TCP `1` without a port, then `2` when the
text before the port is not UTF-8 naming an IPv4 address once trailing NULs are dropped, then
`4` when every slot is taken; SEND_TCP, RECEIVE and CLOSE_TCP `1` without a socket byte, then
`3` when the byte names a slot past the five or an empty one.  An unknown service leaves the
radio and its previous outcome untouched, and data for a socket that is not open is refused
with `NoSuchSocket` before it is stored or the inbound hook, whichever it is, runs. -/
theorem radio_refusals (m : Radio) : m.Refusals where
  failed_keeps _ h := Radio.invoke_of_failed h
  outcome_eq := Radio.invoke_buffer
  unknown_ignored := Radio.invoke_unknown m
  inject_closed _ hook _ d w h := m.injectInbound_of_closed hook h d w

/-! ## the engines -/

theorem Direction.ofByte_of_four_le {b : UInt8} (h : 4 ≤ b) :
    Direction.ofByte b = .error (.badDirection b.toNat) := by
  have h0 : b ≠ 0 := by rintro rfl; contradiction
  have h1 : b ≠ 1 := by rintro rfl; contradiction
  have h2 : b ≠ 2 := by rintro rfl; contradiction
  have h3 : b ≠ 3 := by rintro rfl; contradiction
  simp [Direction.ofByte, h0, h1, h2, h3]

namespace MoveCommand

/-- the code a MOVE payload fails with: `1` when empty, then `2` for a direction byte of four
or more, then `1` when shorter than six bytes -/
def refusal (p : List UInt8) : Option Nat :=
  match p with
  | [] => some 1
  | d :: _ => if 4 ≤ d then some 2 else if p.length < 6 then some 1 else none

theorem failureCode_decode (p : List UInt8) :
    failureCode EngineFault.code (decode ⟨p⟩) = refusal p := by
  rcases p with _ | ⟨d, rest⟩
  · rfl
  by_cases hd : 4 ≤ d
  · simp [decode, refusal, hd, Direction.ofByte_of_four_le hd, bind, Except.bind, EngineFault.code]
  · obtain ⟨dir, hdir, -⟩ := Direction.ofByte_eq_ok (UInt8.not_le.mp hd)
    rcases rest with _ | ⟨x0, _ | ⟨x1, _ | ⟨x2, _ | ⟨x3, _ | ⟨b, rest⟩⟩⟩⟩⟩ <;>
      simp [decode, refusal, hd, hdir, ArgReader.readF32, ArgReader.readBool, ArgReader.readU8,
        bind, Except.bind, pure, Except.pure, EngineFault.code, ArgReader.remaining]

/-- a MOVE that reads takes its command from the first six bytes alone -/
theorem decode_of_refusal {p : List UInt8} (h : refusal p = none) :
    ∃ c, decode ⟨p⟩ = .ok (c, ⟨p.drop 6⟩) ∧ decode ⟨p.take 6⟩ = .ok (c, ⟨[]⟩) := by
  rcases p with _ | ⟨d, _ | ⟨x0, _ | ⟨x1, _ | ⟨x2, _ | ⟨x3, _ | ⟨b, rest⟩⟩⟩⟩⟩⟩
  iterate 6 · simp [refusal] at h <;> split at h <;> simp at h
  have hd : d < 4 := UInt8.not_le.mp fun hd => by simp [refusal, hd] at h
  obtain ⟨dir, hdir, -⟩ := Direction.ofByte_eq_ok hd
  exact ⟨⟨dir, F32.ofBytes x0 x1 x2 x3, b != 0⟩, by simp [decode, hdir, bind, Except.bind, pure,
    Except.pure], by simp [decode, hdir, bind, Except.bind, pure, Except.pure]⟩

end MoveCommand

namespace ArcCommand

/-- the code a MOVE_ARC payload fails with: `1` when shorter than twelve bytes -/
def refusal (p : List UInt8) : Option Nat := if p.length < 12 then some 1 else none

theorem failureCode_decode (p : List UInt8) :
    failureCode EngineFault.code (decode ⟨p⟩) = refusal p := by
  rcases p with _ | ⟨a0, _ | ⟨a1, _ | ⟨a2, _ | ⟨a3, _ | ⟨b0, _ | ⟨b1, _ | ⟨b2, _ | ⟨b3,
    _ | ⟨c0, _ | ⟨c1, _ | ⟨c2, _ | ⟨c3, rest⟩⟩⟩⟩⟩⟩⟩⟩⟩⟩⟩⟩ <;>
    simp [decode, refusal, ArgReader.readF32, bind, Except.bind, pure, Except.pure,
      EngineFault.code, ArgReader.remaining]

/-- an arc that reads takes its command from the first twelve bytes alone -/
theorem decode_of_refusal {p : List UInt8} (h : refusal p = none) :
    ∃ c, decode ⟨p⟩ = .ok (c, ⟨p.drop 12⟩) ∧ decode ⟨p.take 12⟩ = .ok (c, ⟨[]⟩) := by
  obtain ⟨c, hc, hlay⟩ := ArcCommand.encode_decode p (by simp [refusal] at h; omega)
  refine ⟨c, hc, ?_⟩
  rw [← hlay, ← List.append_nil c.encode]
  exact c.decode_encode []

end ArcCommand

namespace PercentCommand

/-- the code a MOVE_PERCENT payload fails with: `1` when empty, then `2` for a direction byte
of four or more, then `1` when shorter than nine bytes, then `3` when a duty lies outside
`[0, 100]` -/
def refusal (p : List UInt8) : Option Nat :=
  match p with
  | [] => some 1
  | d :: _ =>
    if 4 ≤ d then some 2
    else if p.length < 9 then some 1
    else if dutyInRange (F32.ofBytes p[1]! p[2]! p[3]! p[4]!) &&
        dutyInRange (F32.ofBytes p[5]! p[6]! p[7]! p[8]!) then none
    else some 3

theorem failureCode_decode (p : List UInt8) :
    failureCode EngineFault.code (decode ⟨p⟩) = refusal p := by
  rcases p with _ | ⟨d, rest⟩
  · rfl
  by_cases hd : 4 ≤ d
  · simp [decode, refusal, hd, Direction.ofByte_of_four_le hd, bind, Except.bind, EngineFault.code]
  · obtain ⟨dir, hdir, -⟩ := Direction.ofByte_eq_ok (UInt8.not_le.mp hd)
    rcases rest with _ | ⟨l0, _ | ⟨l1, _ | ⟨l2, _ | ⟨l3, _ | ⟨r0, _ | ⟨r1, _ | ⟨r2,
      _ | ⟨r3, rest⟩⟩⟩⟩⟩⟩⟩⟩ <;>
      simp [decode, refusal, hd, hdir, ArgReader.readF32, ArgReader.readU8, bind, Except.bind,
        pure, Except.pure, EngineFault.code, ArgReader.remaining]
    -- both duties read: the left one is checked first, and both faults have code `3`
    by_cases hl : dutyInRange (F32.ofBytes l0 l1 l2 l3) <;>
      by_cases hr : dutyInRange (F32.ofBytes r0 r1 r2 r3) <;>
      simp [hl, hr, throw, throwThe, MonadExceptOf.throw, EngineFault.code]

/-- a duty command that reads takes its command from the first nine bytes alone -/
theorem decode_of_refusal {p : List UInt8} (h : refusal p = none) :
    ∃ c, decode ⟨p⟩ = .ok (c, ⟨p.drop 9⟩) ∧ decode ⟨p.take 9⟩ = .ok (c, ⟨[]⟩) := by
  rcases p with _ | ⟨d, _ | ⟨l0, _ | ⟨l1, _ | ⟨l2, _ | ⟨l3, _ | ⟨r0, _ | ⟨r1, _ | ⟨r2,
    _ | ⟨r3, rest⟩⟩⟩⟩⟩⟩⟩⟩⟩
  iterate 9 · simp [refusal] at h <;> split at h <;> simp at h
  have hd : d < 4 := UInt8.not_le.mp fun hd => by simp [refusal, hd] at h
  obtain ⟨dir, hdir, -⟩ := Direction.ofByte_eq_ok hd
  have hduty : dutyInRange (F32.ofBytes l0 l1 l2 l3) = true ∧
      dutyInRange (F32.ofBytes r0 r1 r2 r3) = true := by
    simp [refusal, UInt8.not_le.mpr hd] at h
    split at h
    · cases h
    · split at h
      · assumption
      · cases h
  exact ⟨⟨dir, F32.ofBytes l0 l1 l2 l3, F32.ofBytes r0 r1 r2 r3⟩,
    by simp [decode, hdir, hduty, bind, Except.bind, pure, Except.pure],
    by simp [decode, hdir, hduty, bind, Except.bind, pure, Except.pure]⟩

end PercentCommand

namespace Engines

/-- the engines after a motion request whose payload reads as `dec`: the command applied and
`Ok`, or the fault's code and nothing else -/
def respond {α : Type} (e : Engines) (dec : Except EngineFault (α × ArgReader))
    (cmd : α → MotorCommand) : Engines :=
  match dec with
  | .ok (c, _) => { e with state := e.state.apply (cmd c), buffer := e.buffer.setOutcome .ok }
  | .error f => { e with buffer := e.buffer.setOutcome (.failed f.code) }

section
variable {α : Type} (e : Engines) {dec : Except EngineFault (α × ArgReader)} (cmd : α → MotorCommand)

theorem respond_of_failureCode {k : Nat} (h : failureCode EngineFault.code dec = some k) :
    e.respond dec cmd = { e with buffer := e.buffer.setOutcome (.failed k) } := by
  rcases dec with f | ⟨c, r⟩
  · cases h
    rfl
  · exact nomatch h

theorem respond_of_ok {c : α} {r : ArgReader} (h : dec = .ok (c, r)) :
    e.respond dec cmd =
      { e with state := { e.state with lastCommand := cmd c, commands := e.state.commands + 1 },
               buffer := e.buffer.setOutcome .ok } := by
  rw [h]
  rfl

end

theorem invoke_move {e : Engines} (now : Millis) (h : e.buffer.service = 0) :
    e.invoke now = some (e.respond (MoveCommand.decode e.buffer.reader) .move) := by
  dsimp only [invoke, run]
  rw [h]
  cases MoveCommand.decode e.buffer.reader <;> rfl

theorem invoke_arc {e : Engines} (now : Millis) (h : e.buffer.service = 1) :
    e.invoke now = some (e.respond (ArcCommand.decode e.buffer.reader) .arc) := by
  dsimp only [invoke, run]
  rw [h]
  cases ArcCommand.decode e.buffer.reader <;> rfl

theorem invoke_percent {e : Engines} (now : Millis) (h : e.buffer.service = 2) :
    e.invoke now = some (e.respond (PercentCommand.decode e.buffer.reader) .percent) := by
  dsimp only [invoke, run]
  rw [h]
  cases PercentCommand.decode e.buffer.reader <;> rfl

/-- a motion request whose payload is refused writes the code and changes nothing else; one
that is not applies the command read from the first `n` bytes, counts it and writes `Ok` -/
theorem invoke_of_respond {α : Type} {e : Engines} {now : Millis}
    {decode : ArgReader → Except EngineFault (α × ArgReader)} {cmd : α → MotorCommand}
    {refusal : List UInt8 → Option Nat} {n : Nat}
    (hinv : e.invoke now = some (e.respond (decode ⟨e.buffer.payload⟩) cmd))
    (hcode : failureCode EngineFault.code (decode ⟨e.buffer.payload⟩) = refusal e.buffer.payload)
    (hread : refusal e.buffer.payload = none → ∃ c,
      decode ⟨e.buffer.payload⟩ = .ok (c, ⟨e.buffer.payload.drop n⟩) ∧
      decode ⟨e.buffer.payload.take n⟩ = .ok (c, ⟨[]⟩)) :
    (∀ k, refusal e.buffer.payload = some k →
      e.invoke now = some { e with buffer := e.buffer.setOutcome (.failed k) }) ∧
    (refusal e.buffer.payload = none → ∃ c, decode ⟨e.buffer.payload.take n⟩ = .ok (c, ⟨[]⟩) ∧
      e.invoke now = some
        { e with state := { e.state with lastCommand := cmd c, commands := e.state.commands + 1 },
                 buffer := e.buffer.setOutcome .ok }) := by
  rw [hinv]
  refine ⟨fun k hk => congrArg some (e.respond_of_failureCode cmd (hcode.trans hk)), fun hnone => ?_⟩
  obtain ⟨c, hdec, htake⟩ := hread hnone
  exact ⟨c, htake, congrArg some (e.respond_of_ok cmd hdec)⟩

/-- a REBOOT takes effect when its first byte is the code, and is otherwise ignored -/
theorem invoke_reboot {e : Engines} (now : Millis) (h : e.buffer.service = 3) :
    e.invoke now = some (if e.buffer.payload.head? = some rebootCode then
      { e with state := e.state.reboot now, buffer := e.buffer.setOutcome .ok } else e) := by
  dsimp only [invoke, run]
  rw [h, ServiceBuffer.reader]
  rcases e.buffer.payload with _ | ⟨b, rest⟩
  · rfl
  · by_cases hb : b = rebootCode <;> simp [hb]

theorem invoke_speedLoop {e : Engines} (now : Millis) (h : e.buffer.service = 4) :
    e.invoke now = (e.state.speedLoop e.geometry now).map fun s =>
      { e with state := s, buffer := e.buffer.setOutcome .ok } := by
  dsimp only [invoke, run]
  rw [h]
  cases e.state.speedLoop e.geometry now <;> rfl

theorem invoke_unknown {e : Engines} (now : Millis) (h : 4 < e.buffer.service) :
    e.invoke now = some e := by
  obtain ⟨n, hn⟩ : ∃ n, e.buffer.service = n + 5 := ⟨e.buffer.service - 5, by omega⟩
  dsimp only [invoke, run]
  rw [hn]
  rfl

end Engines

/-- **What the engines do with a request.**  For any engine state, time and request in the
buffer: MOVE, MOVE_ARC and MOVE_PERCENT apply the command read from the first 6, 12 or 9 bytes
(the rest is ignored), count it, touch nothing else and write `Ok`; or they write the code of the
first check the payload fails (`MoveCommand.refusal`, `ArcCommand.refusal`,
`PercentCommand.refusal`) and change nothing else.  A REBOOT whose first byte is `0x17` resets
the state to its defaults except the reboot count, one higher, and the speed-loop time, now; any
other REBOOT and any unknown service change nothing, not even the outcome.  SPEED_LOOP writes
`Ok` whenever its arithmetic does not overflow (`EngineState.speedLoop_eq_none_iff` says when it
does). -/
theorem engine_request_outcomes (e : Engines) (now : Millis) :
    let p := e.buffer.payload
    let failed : Nat → Engines := fun k => { e with buffer := e.buffer.setOutcome (.failed k) }
    let applied : MotorCommand → Engines := fun c =>
      { e with state := { e.state with lastCommand := c, commands := e.state.commands + 1 },
               buffer := e.buffer.setOutcome .ok }
    (e.buffer.service = 0 →
      (∀ k, MoveCommand.refusal p = some k → e.invoke now = some (failed k)) ∧
      (MoveCommand.refusal p = none → ∃ c, MoveCommand.decode ⟨p.take 6⟩ = .ok (c, ⟨[]⟩) ∧
        e.invoke now = some (applied (.move c)))) ∧
    (e.buffer.service = 1 →
      (∀ k, ArcCommand.refusal p = some k → e.invoke now = some (failed k)) ∧
      (ArcCommand.refusal p = none → ∃ c, ArcCommand.decode ⟨p.take 12⟩ = .ok (c, ⟨[]⟩) ∧
        e.invoke now = some (applied (.arc c)))) ∧
    (e.buffer.service = 2 →
      (∀ k, PercentCommand.refusal p = some k → e.invoke now = some (failed k)) ∧
      (PercentCommand.refusal p = none → ∃ c, PercentCommand.decode ⟨p.take 9⟩ = .ok (c, ⟨[]⟩) ∧
        e.invoke now = some (applied (.percent c)))) ∧
    (e.buffer.service = 3 → e.invoke now = some (if p.head? = some rebootCode then
        { e with state := { reboots := e.state.reboots + 1, lastSpeedMs := now },
                 buffer := e.buffer.setOutcome .ok }
      else e)) ∧
    (e.buffer.service = 4 → e.invoke now = (e.state.speedLoop e.geometry now).map fun s =>
        { e with state := s, buffer := e.buffer.setOutcome .ok }) ∧
    (4 < e.buffer.service → e.invoke now = some e) := by
  intro p failed applied
  exact ⟨fun h => Engines.invoke_of_respond (Engines.invoke_move now h)
      (MoveCommand.failureCode_decode p) MoveCommand.decode_of_refusal,
    fun h => Engines.invoke_of_respond (Engines.invoke_arc now h)
      (ArcCommand.failureCode_decode p) ArcCommand.decode_of_refusal,
    fun h => Engines.invoke_of_respond (Engines.invoke_percent now h)
      (PercentCommand.failureCode_decode p) PercentCommand.decode_of_refusal,
    Engines.invoke_reboot now, Engines.invoke_speedLoop now, Engines.invoke_unknown now⟩

end RoverKernel
