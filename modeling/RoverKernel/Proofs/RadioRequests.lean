import RoverKernel.Modules.Radio
import RoverKernel.Proofs.PayloadRoundTrip

/-!
# Connect and send requests

A CONNECT_TCP payload is the address as dotted-decimal text followed by the port, two bytes
low first.  The text has no length field and no terminator: the reader takes all bytes but
the last two as the text, drops NUL bytes at its end, and parses what is left strictly.  A
SEND_TCP payload is the socket byte followed by the data.  Each encoder checks the whole size
once and then appends in two steps.

* `Ipv4Addr.parse_toText`        the text of every address parses back to it;
* `Ipv4Addr.length_toText`       that text is 7 to 15 ASCII characters, with no NUL;
* `Utf8.decode?_encode_ascii`    ASCII text is read back from its bytes;
* `ConnectRequest.encodeInto_eq`, `encodeSend_eq`   each encoder appends its whole encoding
                                 or refuses, naming the size and the room left;
* `ConnectRequest.decode_padded` a connect payload is read back, also with NULs between the
                                 text and the port;
* `Radio.call_send`              a send delivered to a radio with the socket open logs the
                                 frame and counts it;
* `connect_send_round_trip`      all of it.
-/

namespace RoverKernel

/-! ## numbers as decimal text -/

/-- the first digit of a number's decimal text is `0` only for zero itself -/
theorem Nat.head?_toDigits_eq_zero {n : Nat} (h : (Nat.toDigits 10 n).head? = some '0') :
    n = 0 := by
  induction n using Nat.strongRecOn with
  | ind n ih =>
    rw [Nat.toDigits_eq_if (by omega)] at h
    split at h
    · simpa using h
    · -- the text of `n / 10` comes first, and it is not empty
      obtain ⟨x, xs, hx⟩ := List.exists_cons_of_ne_nil (Nat.toDigits_ne_nil (b := 10) (n := n / 10))
      rw [hx, List.cons_append, List.head?_cons] at h
      have := ih (n / 10) (by omega) (by rw [hx, List.head?_cons, h])
      omega

/-- the decimal text of an octet is read back as the octet -/
theorem Ipv4Addr.parseOctet_toDigits {n : Nat} (h : n < 256) :
    Ipv4Addr.parseOctet (Nat.toDigits 10 n) = some n := by
  have hlen : (Nat.toDigits 10 n).length ≤ 3 :=
    (Nat.length_toDigits_le_iff (by omega) (by omega)).mpr (by omega)
  have hne : (Nat.toDigits 10 n).isEmpty = false := by simp
  have hdig : (Nat.toDigits 10 n).all Char.isDigit = true :=
    List.all_eq_true.mpr fun c hc => Nat.isDigit_of_mem_toDigits (by omega) (by omega) hc
  have hval : (Nat.toDigits 10 n).foldl (fun acc c => 10 * acc + (c.toNat - 48)) 0 = n :=
    Nat.ofDigitChars_ten_toDigits
  -- a leading `0` would make the number zero, whose text is that one digit
  have hlead : ¬((Nat.toDigits 10 n).head? == some '0' &&
      decide (1 < (Nat.toDigits 10 n).length)) = true := by
    intro h0
    simp only [Bool.and_eq_true, beq_iff_eq, decide_eq_true_eq] at h0
    obtain rfl := Nat.head?_toDigits_eq_zero h0.1
    simp at h0
  rw [Ipv4Addr.parseOctet, hne, hdig, if_neg (by simp; omega), if_neg hlead]
  simp only [hval]
  rw [if_pos (by omega)]

/-! ## the text of an address -/

namespace Ipv4Addr

/-- the digits of one octet -/
def octetText (x : UInt8) : List Char := Nat.toDigits 10 x.toNat

theorem octetText_length (x : UInt8) : 1 ≤ (octetText x).length ∧ (octetText x).length ≤ 3 :=
  ⟨Nat.length_toDigits_pos,
    (Nat.length_toDigits_le_iff (by omega) (by omega)).mpr (by have := x.toNat_lt; omega)⟩

theorem isDigit_of_mem_octetText {x : UInt8} {ch : Char} (h : ch ∈ octetText x) :
    ch.isDigit = true :=
  Nat.isDigit_of_mem_toDigits (by omega) (by omega) h

theorem dot_not_mem_octetText (x : UInt8) : '.' ∉ octetText x := fun h => by
  have := isDigit_of_mem_octetText h
  simp [Char.isDigit] at this

theorem parseOctet_octetText (x : UInt8) : parseOctet (octetText x) = some x.toNat :=
  parseOctet_toDigits (by have := x.toNat_lt; omega)

theorem toText_toList (a b c d : UInt8) :
    (new a b c d).toText.toList =
      octetText a ++ '.' :: octetText b ++ '.' :: octetText c ++ '.' :: octetText d := by
  simp [toText, new, octetText]

theorem toText_eq_intercalate (a b c d : UInt8) :
    (new a b c d).toText.toList =
      ['.'].intercalate [octetText a, octetText b, octetText c, octetText d] := by
  rw [toText_toList]
  simp [List.intercalate]

/-- **The text of every address parses back to it.** -/
theorem parse_toText (a b c d : UInt8) : parse (new a b c d).toText.toList = some (new a b c d) := by
  have hsplit : (new a b c d).toText.toList.splitOn '.' =
      [octetText a, octetText b, octetText c, octetText d] := by
    rw [toText_eq_intercalate]
    apply List.splitOn_intercalate
    · simp only [List.mem_cons, List.not_mem_nil, or_false]
      rintro l (rfl | rfl | rfl | rfl) <;> exact dot_not_mem_octetText _
    · simp
  rw [parse]
  simp only [hsplit]
  simp [List.mapM_cons, parseOctet_octetText, new]

/-- every character of the text is a digit or a dot -/
theorem mem_toText {a b c d : UInt8} {ch : Char} (h : ch ∈ (new a b c d).toText.toList) :
    ch.isDigit = true ∨ ch = '.' := by
  rw [toText_toList] at h
  simp only [List.mem_append, List.mem_cons, or_assoc] at h
  rcases h with h | rfl | h | rfl | h | rfl | h
  · exact .inl (isDigit_of_mem_octetText h)
  · exact .inr rfl
  · exact .inl (isDigit_of_mem_octetText h)
  · exact .inr rfl
  · exact .inl (isDigit_of_mem_octetText h)
  · exact .inr rfl
  · exact .inl (isDigit_of_mem_octetText h)

theorem toText_ascii (a b c d : UInt8) :
    ∀ ch ∈ (new a b c d).toText.toList, ch.toNat < 128 := by
  intro ch hch
  rcases mem_toText hch with h | rfl
  · simp only [Char.isDigit, Bool.and_eq_true, decide_eq_true_eq] at h
    have : ch.toNat ≤ '9'.toNat := h.2
    simp only [Char.reduceToNat] at this
    omega
  · decide

theorem nul_not_mem_toText (a b c d : UInt8) : '\x00' ∉ (new a b c d).toText.toList := by
  intro h
  rcases mem_toText h with h | h <;> simp [Char.isDigit] at h

/-- seven to fifteen characters: four octets of one to three digits and three dots -/
theorem length_toText (a b c d : UInt8) :
    7 ≤ (new a b c d).toText.toList.length ∧ (new a b c d).toText.toList.length ≤ 15 := by
  have := octetText_length a
  have := octetText_length b
  have := octetText_length c
  have := octetText_length d
  simp only [toText_toList, List.length_append, List.length_cons]
  omega

end Ipv4Addr

/-! ## ASCII bytes -/

namespace Utf8

theorem encodeChar_ascii {c : Char} (h : c.toNat < 128) : encodeChar c = [UInt8.ofNat c.toNat] := by
  simp [encodeChar, show c.toNat < 0x80 from h]

theorem encode_append (cs ds : List Char) : encode (cs ++ ds) = encode cs ++ encode ds := by
  simp [encode]

/-- a NUL is the byte `0` -/
theorem encode_replicate_nul (k : Nat) : encode (List.replicate k '\x00') = List.replicate k 0 := by
  induction k with
  | zero => rfl
  | succ k ih =>
    rw [List.replicate_succ, List.replicate_succ, encode, List.flatMap_cons, ← encode, ih]
    rfl

theorem length_encode_ascii {cs : List Char} (h : ∀ c ∈ cs, c.toNat < 128) :
    (encode cs).length = cs.length := by
  induction cs with
  | nil => rfl
  | cons c cs ih =>
    rw [encode, List.flatMap_cons, ← encode, encodeChar_ascii (h c List.mem_cons_self)]
    simp [ih fun x hx => h x (List.mem_cons_of_mem c hx)]

/-- each byte of ASCII text is one step of reading -/
theorem units_encode_ascii {cs : List Char} (h : ∀ c ∈ cs, c.toNat < 128) :
    units (encode cs) = cs.map some := by
  induction cs with
  | nil => simp [encode, units]
  | cons c cs ih =>
    have hc : c.toNat < 128 := h c List.mem_cons_self
    have hbyte : (UInt8.ofNat c.toNat).toNat = c.toNat := by
      rw [UInt8.toNat_ofNat']
      omega
    have hstep : step (UInt8.ofNat c.toNat) (encode cs) = (some c, 1) := by
      have hlt : UInt8.ofNat c.toNat < 0x80 := by
        rw [UInt8.lt_iff_toNat_lt, hbyte]
        exact hc
      simp [step, hlt, hbyte]
    rw [encode, List.flatMap_cons, ← encode, encodeChar_ascii hc, List.singleton_append, units,
      hstep]
    simp [ih fun x hx => h x (List.mem_cons_of_mem c hx)]

/-- **ASCII text is read back from its bytes.** -/
theorem decode?_encode_ascii {cs : List Char} (h : ∀ c ∈ cs, c.toNat < 128) :
    decode? (encode cs) = some cs := by
  rw [decode?, units_encode_ascii h]
  induction cs with
  | nil => rfl
  | cons c cs ih =>
    simp [ih fun x hx => h x (List.mem_cons_of_mem c hx)]

end Utf8

/-- NULs after a text that does not end in one are exactly the NULs dropped from its end -/
theorem dropTrailingNuls_append {cs : List Char} (h : ∀ x ∈ cs.getLast?, x ≠ '\x00') (k : Nat) :
    ((cs ++ List.replicate k '\x00').reverse.dropWhile (· == '\x00')).reverse = cs := by
  rw [List.reverse_append, List.reverse_replicate,
    List.dropWhile_append_of_pos (by simp)]
  -- what is left starts with the last character of the text
  rw [← List.head?_reverse] at h
  rcases hr : cs.reverse with _ | ⟨x, xs⟩
  · simpa using hr
  · have hx : x ≠ '\x00' := h x (by simp [hr])
    rw [List.dropWhile_cons_of_neg (by simpa using hx), ← hr, List.reverse_reverse]

/-! ## the encoders -/

/-- **A connect request is appended whole or not at all**: the address text and the port when
both fit, else a refusal naming their size and the room left. -/
theorem ConnectRequest.encodeInto_eq (c : ConnectRequest) (e : TaskEntry) :
    c.encodeInto e =
      if e.remaining < (Utf8.encode c.ip.toText.toList).length + 2 then
        .error (.argumentTooLarge ((Utf8.encode c.ip.toText.toList).length + 2) e.remaining)
      else .ok { e with args := e.args ++ Utf8.encode c.ip.toText.toList ++ u16Bytes c.port } := by
  by_cases hfit : e.remaining < (Utf8.encode c.ip.toText.toList).length + 2
  · simp [encodeInto, hfit, throw, throwThe, MonadExceptOf.throw, bind, Except.bind]
  · -- both appends fit once the whole does
    have htext := TaskEntry.appendBytes_of_le e (Utf8.encode c.ip.toText.toList)
      (by simp only [TaskEntry.remaining] at hfit; omega)
    have hport := TaskEntry.appendBytes_of_le { e with args := e.args ++ Utf8.encode c.ip.toText.toList }
      (u16Bytes c.port)
      (by simp only [TaskEntry.remaining, TaskEntry.argLen] at hfit; simp [TaskEntry.argLen, u16Bytes]; omega)
    simp only [encodeInto, hfit, if_false, TaskEntry.appendU16, htext, hport, bind, Except.bind]

/-- **A send is appended whole or not at all**: the socket byte and the data when both fit,
else a refusal naming their size and the room left. -/
theorem encodeSend_eq (e : TaskEntry) (s : UInt8) (d : List UInt8) :
    encodeSend e s.toNat d =
      if e.remaining < d.length + 1 then .error (.argumentTooLarge (d.length + 1) e.remaining)
      else .ok { e with args := e.args ++ s :: d } := by
  by_cases hfit : e.remaining < d.length + 1
  · simp [encodeSend, hfit, throw, throwThe, MonadExceptOf.throw, bind, Except.bind]
  · have hsock := TaskEntry.appendBytes_of_le e [s]
      (by simp only [TaskEntry.remaining] at hfit; simp; omega)
    have hdata := TaskEntry.appendBytes_of_le { e with args := e.args ++ [s] } d
      (by simp only [TaskEntry.remaining, TaskEntry.argLen] at hfit; simp [TaskEntry.argLen]; omega)
    simp only [encodeSend, hfit, if_false, UInt8.ofNat_toNat, hsock, hdata, bind, Except.bind,
      List.append_assoc, List.singleton_append]

/-! ## reading a connect request -/

/-- **A connect request is read back**, the port included, with nothing left over; NUL bytes
between the text and the port, any number of them, change nothing. -/
theorem ConnectRequest.decode_padded (a b c d : UInt8) (port : UInt16) (k : Nat) :
    decode ⟨Utf8.encode (Ipv4Addr.new a b c d).toText.toList ++ List.replicate k 0 ++
      u16Bytes port.toNat⟩ = .ok (⟨Ipv4Addr.new a b c d, port.toNat⟩, ⟨[]⟩) := by
  -- the text with its padding is itself ASCII text
  have hascii : ∀ ch ∈ (Ipv4Addr.new a b c d).toText.toList ++ List.replicate k '\x00',
      ch.toNat < 128 := by
    intro ch hch
    rcases List.mem_append.mp hch with h | h
    · exact Ipv4Addr.toText_ascii a b c d ch h
    · rw [(List.mem_replicate.mp h).2]
      decide
  have htext : Utf8.encode (Ipv4Addr.new a b c d).toText.toList ++ List.replicate k 0 =
      Utf8.encode ((Ipv4Addr.new a b c d).toText.toList ++ List.replicate k '\x00') := by
    rw [Utf8.encode_append, Utf8.encode_replicate_nul]
  have hstrip : (((Ipv4Addr.new a b c d).toText.toList ++ List.replicate k '\x00').reverse.dropWhile
      (· == '\x00')).reverse = (Ipv4Addr.new a b c d).toText.toList :=
    dropTrailingNuls_append
      (fun x hx hnul => Ipv4Addr.nul_not_mem_toText a b c d (hnul ▸ List.mem_of_getLast? hx)) k
  have hport : ArgReader.readU16 ⟨u16Bytes port.toNat⟩ = .ok (port.toNat, ⟨[]⟩) :=
    ArgReader.readU16_u16Bytes port.toNat port.toNat_lt []
  -- the reader takes all but the last two bytes as the text
  generalize hX : Utf8.encode ((Ipv4Addr.new a b c d).toText.toList ++ List.replicate k '\x00') = X
    at htext
  have hlen : (⟨X ++ u16Bytes port.toNat⟩ : ArgReader).remaining - 2 = X.length := by
    simp [ArgReader.remaining, u16Bytes]
  rw [htext, decode, if_neg (by simp [ArgReader.remaining, u16Bytes]), hlen,
    ArgReader.readBytes_append]
  simp only [liftRadioArgs_ok, hport, bind, Except.bind, ← hX, Utf8.decode?_encode_ascii hascii,
    hstrip, Ipv4Addr.parse_toText, pure, Except.pure]

/-! ## delivering a request -/

namespace Radio

/-- a payload that fits is served from a buffer holding exactly it -/
theorem call_of_fits {m : Radio} {service : Nat} {p : List UInt8}
    (hfit : p.length ≤ m.buffer.maxPayload) (hsmall : p.length < 256) :
    ∃ b : ServiceBuffer, b.service = service ∧ b.reader = ⟨p⟩ ∧ b.maxPayload = m.buffer.maxPayload ∧
      m.call service p = { m with buffer := b }.invoke := by
  obtain ⟨b, hl, -, -, hpay⟩ := ServiceBuffer.load_payload m.buffer service p hfit hsmall
  obtain ⟨-, rfl⟩ := ServiceBuffer.load_eq_ok hl
  refine ⟨_, rfl, by rw [ServiceBuffer.reader, hpay], ?_, by rw [call, hl]⟩
  simp only [ServiceBuffer.maxPayload] at hfit ⊢
  simp only [List.cons_append, List.length_cons, List.length_append, List.length_drop]
  omega

theorem call_of_too_large {m : Radio} {service : Nat} {p : List UInt8}
    (h : m.buffer.maxPayload < p.length) : m.call service p = m := by
  rw [call, ServiceBuffer.load, if_pos h]

end Radio

/-- SEND_TCP on an open socket logs the data after the socket byte and counts the frame -/
theorem RadioState.send_cons (s : RadioState) (b : UInt8) (d : List UInt8) :
    s.send ⟨b :: d⟩ = (s.socket b.toNat).map fun _ =>
      { s with framesSent := s.framesSent + 1, sent := retainFrame s.sent (b.toNat, d) } := by
  simp only [RadioState.send, ArgReader.readU8_cons, liftRadioArgs_ok, ArgReader.readRest, bind,
    Except.bind]
  cases s.socket b.toNat <;> rfl

/-- **A send delivered to a radio whose socket is open logs its frame**: the data after the
socket byte, on that socket, kept with the last frames, and counted. -/
theorem Radio.call_send (m : Radio) (s : UInt8) (d : List UInt8) (sock : Socket)
    (hopen : m.state.socket s.toNat = .ok sock) (hfit : d.length + 1 ≤ m.buffer.maxPayload)
    (hcap : d.length + 1 ≤ argCapacity) :
    (m.call 2 (s :: d)).state =
      { m.state with
        framesSent := m.state.framesSent + 1
        sent := retainFrame m.state.sent (s.toNat, d) } ∧
    (m.call 2 (s :: d)).buffer.outcome = .ok := by
  have hsmall : (s :: d).length < 256 := by
    simp only [argCapacity, List.length_cons] at hcap ⊢
    omega
  obtain ⟨b, hsvc, hrd, -, hcall⟩ := @Radio.call_of_fits m 2 (s :: d) (by simpa using hfit) hsmall
  rw [hcall, Radio.invoke, hsvc, hrd, Radio.run, RadioState.send_cons, hopen]
  exact ⟨rfl, rfl⟩

/-- on an entry with an empty payload a connect request always fits: 9 to 17 bytes -/
theorem ConnectRequest.encodeInto_empty (a b c d : UInt8) (port : UInt16) (e : TaskEntry)
    (he : e.args = []) :
    ConnectRequest.encodeInto ⟨Ipv4Addr.new a b c d, port.toNat⟩ e =
      .ok { e with
        args := Utf8.encode (Ipv4Addr.new a b c d).toText.toList ++ u16Bytes port.toNat } ∧
    9 ≤ (Utf8.encode (Ipv4Addr.new a b c d).toText.toList ++ u16Bytes port.toNat).length ∧
    (Utf8.encode (Ipv4Addr.new a b c d).toText.toList ++ u16Bytes port.toNat).length ≤ 17 := by
  -- one byte per character of a text of 7 to 15 characters, then two for the port
  have hlen := Utf8.length_encode_ascii (Ipv4Addr.toText_ascii a b c d)
  have htext := Ipv4Addr.length_toText a b c d
  have hbytes : (Utf8.encode (Ipv4Addr.new a b c d).toText.toList ++ u16Bytes port.toNat).length =
      (Ipv4Addr.new a b c d).toText.toList.length + 2 := by
    simp [hlen, u16Bytes]
  have hroom : e.remaining = argCapacity := by simp [TaskEntry.remaining, TaskEntry.argLen, he]
  refine ⟨?_, by omega, by omega⟩
  rw [ConnectRequest.encodeInto_eq, hroom, if_neg (by simp only [argCapacity]; omega), he,
    List.nil_append]

/-- **Connect and send requests round trip.**  For every address `a.b.c.d` and port, writing
the connect request into an entry with an empty payload succeeds and appends the address as
dotted-decimal text, the decimal digits of each octet joined by dots, then the port low byte
first: 9 to 17 bytes.  Reading that payload gives the address and port back and consumes it
all, also with any number of NUL bytes between the text and the port.  Writing a send appends
the socket byte and the data when they fit, and delivering that payload as SEND_TCP to a radio
with the socket open logs the frame of that socket and data and counts it.  Each encoder
otherwise refuses, naming its whole size and the room left, and never writes part of its
encoding. -/
theorem connect_send_round_trip :
    (∀ (a b c d : UInt8) (port : UInt16) (e : TaskEntry), e.args = [] →
      (Ipv4Addr.new a b c d).toText.toList = Ipv4Addr.octetText a ++ '.' :: Ipv4Addr.octetText b ++
        '.' :: Ipv4Addr.octetText c ++ '.' :: Ipv4Addr.octetText d ∧
      ConnectRequest.encodeInto ⟨Ipv4Addr.new a b c d, port.toNat⟩ e =
        .ok { e with
          args := Utf8.encode (Ipv4Addr.new a b c d).toText.toList ++ u16Bytes port.toNat } ∧
      9 ≤ (Utf8.encode (Ipv4Addr.new a b c d).toText.toList ++ u16Bytes port.toNat).length ∧
      (Utf8.encode (Ipv4Addr.new a b c d).toText.toList ++ u16Bytes port.toNat).length ≤ 17) ∧
    (∀ (a b c d : UInt8) (port : UInt16) (k : Nat),
      ConnectRequest.decode ⟨Utf8.encode (Ipv4Addr.new a b c d).toText.toList ++
        List.replicate k 0 ++ u16Bytes port.toNat⟩ =
        .ok (⟨Ipv4Addr.new a b c d, port.toNat⟩, ⟨[]⟩)) ∧
    (∀ (e : TaskEntry) (s : UInt8) (d : List UInt8), d.length + 1 ≤ e.remaining →
      encodeSend e s.toNat d = .ok { e with args := e.args ++ s :: d }) ∧
    (∀ (m : Radio) (s : UInt8) (d : List UInt8) (sock : Socket),
      m.state.socket s.toNat = .ok sock → d.length + 1 ≤ m.buffer.maxPayload →
      d.length + 1 ≤ argCapacity →
      (m.call 2 (s :: d)).state =
        { m.state with
          framesSent := m.state.framesSent + 1
          sent := retainFrame m.state.sent (s.toNat, d) } ∧
      (m.call 2 (s :: d)).buffer.outcome = .ok) ∧
    (∀ (c : ConnectRequest) (e : TaskEntry), c.encodeInto e =
      if e.remaining < (Utf8.encode c.ip.toText.toList).length + 2 then
        .error (.argumentTooLarge ((Utf8.encode c.ip.toText.toList).length + 2) e.remaining)
      else .ok { e with args := e.args ++ Utf8.encode c.ip.toText.toList ++ u16Bytes c.port }) ∧
    (∀ (e : TaskEntry) (s : UInt8) (d : List UInt8), encodeSend e s.toNat d =
      if e.remaining < d.length + 1 then .error (.argumentTooLarge (d.length + 1) e.remaining)
      else .ok { e with args := e.args ++ s :: d }) := by
  refine ⟨fun a b c d port e he => ?_, fun a b c d port k => ConnectRequest.decode_padded a b c d port k,
    fun e s d hfit => ?_, fun m s d sock hopen hfit hcap => Radio.call_send m s d sock hopen hfit hcap,
    ConnectRequest.encodeInto_eq, encodeSend_eq⟩
  · obtain ⟨henc, hlo, hhi⟩ := ConnectRequest.encodeInto_empty a b c d port e he
    exact ⟨Ipv4Addr.toText_toList a b c d, henc, hlo, hhi⟩
  · rw [encodeSend_eq, if_neg (by omega)]

end RoverKernel
