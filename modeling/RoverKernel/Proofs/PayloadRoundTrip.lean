import RoverKernel.Payload
import RoverKernel.Proofs.QueueRefinement

/-!
# Payloads read back what was appended

A producer appends typed arguments to an entry, directly or through the queue; the dispatcher
copies the payload behind a length byte into the module's buffer; the module reads it back
with a cursor.  The three are separate code paths: little-endian encoders on the entry, a
length-prefixed copy, and decoders that read fixed-size arrays.  Here they are shown to agree.

* `Arg`, `Arg.encode`, `ArgKind.read`   a typed argument (raw bytes, `u16`, `f32`), its bytes,
                          and the read of an argument of a given kind;
* `appendAll_eq`          appending arguments that fit puts their encodings behind the payload;
* `withArgs_args`         appending them through the queue builds the same entry;
* `load_payload`          a load that fits hands the module exactly the payload;
* `readAll_encode`        reading the same kinds from the encodings gives the arguments back,
                          floats bit for bit, and consumes exactly their bytes;
* `ArgKind.read_underrun` a read past the end fails with what it needed and what was left;
* `ServiceBuffer.Reachable.argLen_le`   the length byte of every buffer a module can hold stays
                          within its capacity, so the payload and the raw view are in bounds;
* `payload_round_trip`    all of it together.
-/

namespace RoverKernel

/-! ## typed arguments -/

/-- a typed argument, as a producer appends it and a module reads it back -/
inductive Arg where
  | raw (bs : List UInt8)
  | u16 (v : UInt16)
  | f32 (v : F32)
deriving DecidableEq, Repr

/-- what a module asks for: raw bytes of a given length, a `u16` or an `f32` -/
inductive ArgKind where
  | raw (n : Nat)
  | u16
  | f32
deriving DecidableEq, Repr

namespace Arg

/-- the little-endian bytes of an argument -/
def encode : Arg → List UInt8
  | .raw bs => bs
  | .u16 v => u16Bytes v.toNat
  | .f32 v => v.toBytes

def kind : Arg → ArgKind
  | .raw bs => .raw bs.length
  | .u16 _ => .u16
  | .f32 _ => .f32

/-- `append_bytes`, `append_u16` or `append_f32` -/
def append (e : TaskEntry) : Arg → KernelResult TaskEntry
  | .raw bs => e.appendBytes bs
  | .u16 v => e.appendU16 v.toNat
  | .f32 v => e.appendF32 v

/-- the queue's append of the argument; the queue has no `u16` append, so a `u16` goes as its
two bytes -/
def argOp : Arg → ArgOp
  | .raw bs => .bytes bs
  | .u16 v => .bytes (u16Bytes v.toNat)
  | .f32 v => .float v

theorem append_eq (e : TaskEntry) (v : Arg) : v.append e = e.appendBytes v.encode := by
  cases v <;> rfl

theorem argOp_onEntry (e : TaskEntry) (v : Arg) : v.argOp.onEntry e = e.appendBytes v.encode := by
  cases v <;> rfl

end Arg

/-- appends arguments in order, stopping at the first that does not fit -/
def appendAll (e : TaskEntry) : List Arg → KernelResult TaskEntry
  | [] => .ok e
  | v :: vs => do
    let e ← v.append e
    appendAll e vs

/-- the total encoding of arguments -/
def encodeAll (vs : List Arg) : List UInt8 := vs.flatMap Arg.encode

@[simp] theorem encodeAll_nil : encodeAll [] = [] := rfl
@[simp] theorem encodeAll_cons (v : Arg) (vs : List Arg) :
    encodeAll (v :: vs) = v.encode ++ encodeAll vs := rfl

namespace ArgKind

def size : ArgKind → Nat
  | .raw n => n
  | .u16 => 2
  | .f32 => 4

/-- `read_bytes(n)`, `read_u16` or `read_f32` -/
def read (r : ArgReader) : ArgKind → KernelResult (Arg × ArgReader)
  | .raw n => do
    let (bs, r) ← r.readBytes n
    pure (.raw bs, r)
  | .u16 => do
    let (v, r) ← r.readU16
    pure (.u16 (UInt16.ofNat v), r)
  | .f32 => do
    let (v, r) ← r.readF32
    pure (.f32 v, r)

/-- reads arguments of the given kinds in order -/
def readAll (r : ArgReader) : List ArgKind → KernelResult (List Arg × ArgReader)
  | [] => .ok ([], r)
  | k :: ks => do
    let (v, r) ← k.read r
    let (vs, r) ← readAll r ks
    pure (v :: vs, r)

end ArgKind

/-! ## encoding -/

theorem TaskEntry.appendBytes_of_le (e : TaskEntry) (bs : List UInt8)
    (h : e.argLen + bs.length ≤ argCapacity) :
    e.appendBytes bs = .ok { e with args := e.args ++ bs } := by
  rw [TaskEntry.appendBytes, if_neg]
  rw [TaskEntry.remaining]
  omega

/-- **Appending arguments that fit puts their encodings behind the payload**, in order. -/
theorem appendAll_eq (e : TaskEntry) (vs : List Arg)
    (h : e.argLen + (encodeAll vs).length ≤ argCapacity) :
    appendAll e vs = .ok { e with args := e.args ++ encodeAll vs } := by
  induction vs generalizing e with
  | nil => simp [appendAll]
  | cons v vs ih =>
    simp only [encodeAll_cons, List.length_append] at h
    have hv : v.append e = .ok { e with args := e.args ++ v.encode } := by
      rw [Arg.append_eq]
      exact TaskEntry.appendBytes_of_le e _ (by omega)
    have hrest := ih { e with args := e.args ++ v.encode }
      (by simp only [TaskEntry.argLen, List.length_append] at h ⊢; omega)
    simp only [appendAll, hv, bind, Except.bind, hrest, encodeAll_cons, List.append_assoc]

/-- the same arguments appended through the queue's operations build the same entry -/
theorem withArgs_argOp (e : TaskEntry) (vs : List Arg)
    (h : e.argLen + (encodeAll vs).length ≤ argCapacity) :
    e.withArgs (vs.map Arg.argOp) = { e with args := e.args ++ encodeAll vs } := by
  induction vs generalizing e with
  | nil => simp [TaskEntry.withArgs]
  | cons v vs ih =>
    simp only [encodeAll_cons, List.length_append] at h
    have hv : v.argOp.onEntry e = .ok { e with args := e.args ++ v.encode } := by
      rw [Arg.argOp_onEntry]
      exact TaskEntry.appendBytes_of_le e _ (by omega)
    have hrest := ih { e with args := e.args ++ v.encode }
      (by simp only [TaskEntry.argLen, List.length_append] at h ⊢; omega)
    simp only [List.map_cons, TaskEntry.withArgs, hv, hrest, encodeAll_cons, List.append_assoc]

/-! ## decoding -/

/-- the two bytes of a `u16`, low byte first, read back as the value -/
theorem ArgReader.readU16_u16Bytes (v : Nat) (hv : v < 65536) (rest : List UInt8) :
    ArgReader.readU16 ⟨u16Bytes v ++ rest⟩ = .ok (v, ⟨rest⟩) := by
  have h : (UInt8.ofNat (v % 256)).toNat + 256 * (UInt8.ofNat (v / 256 % 256)).toNat = v := by
    simp only [UInt8.toNat_ofNat']
    omega
  simp only [u16Bytes, List.cons_append, List.nil_append, ArgReader.readU16]
  rw [h]

/-- the four bytes of a float, low byte first, read back as the same bit pattern -/
theorem ArgReader.readF32_toBytes (x : F32) (rest : List UInt8) :
    ArgReader.readF32 ⟨x.toBytes ++ rest⟩ = .ok (x, ⟨rest⟩) := by
  have hx : x.toNat < 2 ^ 32 := x.bits.toNat_lt
  have h : (UInt8.ofNat (x.toNat % 256)).toNat + 256 * (UInt8.ofNat (x.toNat / 256 % 256)).toNat +
      65536 * (UInt8.ofNat (x.toNat / 65536 % 256)).toNat +
      16777216 * (UInt8.ofNat (x.toNat / 16777216 % 256)).toNat = x.toNat := by
    simp only [UInt8.toNat_ofNat']
    omega
  simp only [F32.toBytes, List.map_cons, List.map_nil, List.cons_append, List.nil_append,
    ArgReader.readF32, F32.ofBytes]
  rw [h]
  simp [F32.ofNat, F32.toNat]

theorem ArgKind.read_encode (v : Arg) (rest : List UInt8) :
    v.kind.read ⟨v.encode ++ rest⟩ = .ok (v, ⟨rest⟩) := by
  cases v with
  | raw bs =>
    have hr : ArgReader.readBytes ⟨bs ++ rest⟩ bs.length = .ok (bs, ⟨rest⟩) := by
      rw [ArgReader.readBytes, if_neg (by simp [ArgReader.remaining])]
      simp
    simp only [Arg.kind, Arg.encode, read, hr]
    rfl
  | u16 v =>
    have hr := ArgReader.readU16_u16Bytes v.toNat v.toNat_lt rest
    simp only [Arg.kind, Arg.encode, read, hr, bind, Except.bind, pure, Except.pure,
      UInt16.ofNat_toNat]
  | f32 x =>
    simp only [Arg.kind, Arg.encode, read, ArgReader.readF32_toBytes]
    rfl

/-- **Reading the same kinds gives the arguments back** and consumes exactly their bytes. -/
theorem readAll_encode (vs : List Arg) (rest : List UInt8) :
    ArgKind.readAll ⟨encodeAll vs ++ rest⟩ (vs.map Arg.kind) = .ok (vs, ⟨rest⟩) := by
  induction vs with
  | nil => rfl
  | cons v vs ih =>
    simp only [encodeAll_cons, List.append_assoc, List.map_cons, ArgKind.readAll,
      ArgKind.read_encode, bind, Except.bind, ih]
    rfl

/-- a read past the end fails, naming what it needed and what was left -/
theorem ArgKind.read_underrun (r : ArgReader) (k : ArgKind) (h : r.remaining < k.size) :
    k.read r = .error (.payloadUnderrun k.size r.remaining) := by
  cases k with
  | raw n =>
    simp only [size] at h
    simp only [read, size, ArgReader.readBytes, if_pos h]
    rfl
  | u16 =>
    have hlen : r.rest.length < 2 := h
    rcases hr : r.rest with _ | ⟨b0, _ | ⟨b1, rest⟩⟩
    · simp only [read, size, ArgReader.readU16, ArgReader.remaining, hr]
      rfl
    · simp only [read, size, ArgReader.readU16, ArgReader.remaining, hr]
      rfl
    · simp only [hr, List.length_cons] at hlen
      omega
  | f32 =>
    have hlen : r.rest.length < 4 := h
    rcases hr : r.rest with _ | ⟨b0, _ | ⟨b1, _ | ⟨b2, _ | ⟨b3, rest⟩⟩⟩⟩
    iterate 4
      · simp only [read, size, ArgReader.readF32, ArgReader.remaining, hr]
        rfl
    · simp only [hr, List.length_cons] at hlen
      omega

/-! ## the module's buffer -/

namespace ServiceBuffer

/-- what an accepted load leaves: the service, the length byte, the payload, and behind it
whatever an earlier, longer payload left -/
theorem load_eq_ok {b b' : ServiceBuffer} {s : Nat} {p : List UInt8} (h : b.load s p = .ok b') :
    p.length ≤ b.maxPayload ∧
      b' = { b with service := s, data := UInt8.ofNat p.length :: p ++ b.data.drop (p.length + 1) } := by
  unfold load at h
  by_cases hp : b.maxPayload < p.length
  · simp [hp] at h
  · simp only [hp, if_false, Except.ok.injEq] at h
    exact ⟨by omega, h.symm⟩

/-- a load is refused, naming the payload's length and the capacity, exactly when the payload
does not fit -/
theorem load_eq_error_iff (b : ServiceBuffer) (s : Nat) (p : List UInt8) :
    b.load s p = .error (.argumentTooLarge p.length b.maxPayload) ↔ b.maxPayload < p.length := by
  unfold load
  by_cases hp : b.maxPayload < p.length <;> simp [hp]

theorem load_outcome {b b' : ServiceBuffer} {s : Nat} {p : List UInt8} (h : b.load s p = .ok b') :
    b'.outcome = b.outcome := by
  rw [(load_eq_ok h).2]

/-- a payload that fits is loaded, and the module sees exactly it -/
theorem load_payload (b : ServiceBuffer) (s : Nat) (p : List UInt8) (h : p.length ≤ b.maxPayload)
    (h256 : p.length < 256) :
    ∃ b', b.load s p = .ok b' ∧ b'.outcome = b.outcome ∧ b'.argLen = p.length ∧ b'.payload = p := by
  have hl : b.load s p =
      .ok ⟨s, b.outcome, UInt8.ofNat p.length :: p ++ b.data.drop (p.length + 1)⟩ := by
    rw [load, if_neg (by omega)]
  have harg : (UInt8.ofNat p.length).toNat = p.length := by
    rw [UInt8.toNat_ofNat']
    omega
  refine ⟨_, hl, rfl, harg, ?_⟩
  simp [payload, argLen, harg]

/-- the buffers a module can hold: a new one, after loads and outcomes written -/
inductive Reachable : ServiceBuffer → Prop
  | new (n : Nat) : Reachable (ServiceBuffer.new n)
  | load {b b' : ServiceBuffer} {s : Nat} {p : List UInt8} :
      Reachable b → b.load s p = .ok b' → Reachable b'
  | setOutcome {b : ServiceBuffer} (o : ServiceOutcome) : Reachable b → Reachable (b.setOutcome o)

/-- **The length byte never exceeds the capacity**, which never exceeds an entry's. -/
theorem Reachable.argLen_le {b : ServiceBuffer} (h : b.Reachable) :
    b.argLen ≤ b.maxPayload ∧ b.maxPayload ≤ argCapacity ∧ 0 < b.data.length := by
  induction h with
  | new n =>
    simp only [ServiceBuffer.new, argLen, maxPayload, List.length_replicate]
    cases hn : min n argCapacity + 1 with
    | zero => omega
    | succ k => simp [List.replicate_succ, argCapacity] at hn ⊢; omega
  | @load b b' s p _ hl ih =>
    -- the new length byte is the payload's length, which fits the unchanged capacity
    obtain ⟨hp, rfl⟩ := load_eq_ok hl
    have harg : (UInt8.ofNat p.length).toNat = p.length := by
      have := ih.2.1
      rw [UInt8.toNat_ofNat']
      simp only [argCapacity] at this
      omega
    simp only [argLen, maxPayload, List.cons_append, List.headD_cons, harg, List.length_cons,
      List.length_append, List.length_drop, argCapacity] at ih hp ⊢
    omega
  | setOutcome o _ ih => exact ih

/-- so the payload and the raw view never reach past the data -/
theorem Reachable.length_payload {b : ServiceBuffer} (h : b.Reachable) :
    b.payload.length = b.argLen ∧ b.raw.length = b.argLen + 1 := by
  obtain ⟨h1, -, h3⟩ := h.argLen_le
  simp only [maxPayload] at h1
  simp only [payload, raw, List.length_take, List.length_drop]
  omega

end ServiceBuffer

/-! ## the round trip -/

/-- **Payloads round trip.**  Typed arguments whose encodings fit an entry are appended to a
fresh entry, directly or through the queue to the entry just pushed, and the two ways build
the same entry.  Delivered to a module whose buffer takes that many bytes, the payload is
loaded without touching the outcome, and a reader asking for the same kinds gets the
arguments back, floats bit for bit, with nothing left over.  Besides: a read past the end
fails with what it needed and what was left; a load is refused exactly when the payload does
not fit, naming its length and the capacity, and no load changes the outcome; and the
length byte of every buffer a module can hold stays within its capacity, so its payload and
raw views lie within the data. -/
theorem payload_round_trip (module service due : Nat) (vs : List Arg) (b : ServiceBuffer)
    (sid : Nat) (hfit : (encodeAll vs).length ≤ argCapacity)
    (hb : (encodeAll vs).length ≤ b.maxPayload) :
    (∃ e b', appendAll (TaskEntry.scheduled module service due) vs = .ok e ∧
      (∀ (q q' : TaskQueue) (i : Nat),
        q.pushTask (TaskEntry.scheduled module service due) = .ok (i, q') →
          (q'.withArgs (vs.map Arg.argOp)).pending = q.pending ++ [e]) ∧
      b.load sid e.args = .ok b' ∧ b'.outcome = b.outcome ∧
      ArgKind.readAll b'.reader (vs.map Arg.kind) = .ok (vs, ⟨[]⟩)) ∧
    (∀ (r : ArgReader) (k : ArgKind), r.remaining < k.size →
      k.read r = .error (.payloadUnderrun k.size r.remaining)) ∧
    (∀ (c : ServiceBuffer) s p, (c.load s p = .error (.argumentTooLarge p.length c.maxPayload) ↔
      c.maxPayload < p.length) ∧ ∀ c', c.load s p = .ok c' → c'.outcome = c.outcome) ∧
    (∀ c : ServiceBuffer, c.Reachable →
      c.argLen ≤ c.maxPayload ∧ c.payload.length = c.argLen ∧ c.raw.length = c.argLen + 1) := by
  -- the entry both ways
  let e₀ := TaskEntry.scheduled module service due
  have hlen : e₀.argLen + (encodeAll vs).length ≤ argCapacity := by
    simpa [e₀, TaskEntry.scheduled, TaskEntry.argLen] using hfit
  have happ := appendAll_eq e₀ vs hlen
  have hqueue : ∀ (q q' : TaskQueue) (i : Nat), q.pushTask e₀ = .ok (i, q') →
      (q'.withArgs (vs.map Arg.argOp)).pending =
        q.pending ++ [{ e₀ with args := e₀.args ++ encodeAll vs }] := by
    intro q q' i hp
    rw [← TaskQueue.view_pending, TaskQueue.pushTask_withArgs_view hp, withArgs_argOp e₀ vs hlen]
  -- the load and the reads
  have hargs : e₀.args ++ encodeAll vs = encodeAll vs := by simp [e₀, TaskEntry.scheduled]
  obtain ⟨b', hl, hout, -, hpay⟩ := ServiceBuffer.load_payload b sid (encodeAll vs) hb
    (by simp only [argCapacity] at hfit; omega)
  have hread : ArgKind.readAll b'.reader (vs.map Arg.kind) = .ok (vs, ⟨[]⟩) := by
    rw [ServiceBuffer.reader, hpay, ← List.append_nil (encodeAll vs)]
    exact readAll_encode vs []
  refine ⟨⟨_, b', happ, hqueue, ?_, hout, hread⟩, ArgKind.read_underrun,
    fun c s p => ⟨c.load_eq_error_iff s p, fun _ => ServiceBuffer.load_outcome⟩,
    fun c hc => ⟨hc.argLen_le.1, hc.length_payload⟩⟩
  rw [hargs]
  exact hl

/-- a byte, a `u16` and a negative zero, delivered into a buffer of the largest size -/
theorem payload_round_trip_mixed :
    (encodeAll [.raw [0xAB], .u16 513, .f32 ⟨0x80000000⟩]).length ≤ argCapacity ∧
    (encodeAll [.raw [0xAB], .u16 513, .f32 ⟨0x80000000⟩]).length ≤
      (ServiceBuffer.new argCapacity).maxPayload ∧
    (∃ e b', appendAll (TaskEntry.scheduled 1 2 0) [.raw [0xAB], .u16 513, .f32 ⟨0x80000000⟩] =
        .ok e ∧
      (∀ (q q' : TaskQueue) (i : Nat), q.pushTask (TaskEntry.scheduled 1 2 0) = .ok (i, q') →
        (q'.withArgs ([Arg.raw [0xAB], .u16 513, .f32 ⟨0x80000000⟩].map Arg.argOp)).pending =
          q.pending ++ [e]) ∧
      (ServiceBuffer.new argCapacity).load 3 e.args = .ok b' ∧
      b'.outcome = (ServiceBuffer.new argCapacity).outcome ∧
      ArgKind.readAll b'.reader ([Arg.raw [0xAB], .u16 513, .f32 ⟨0x80000000⟩].map Arg.kind) =
        .ok ([.raw [0xAB], .u16 513, .f32 ⟨0x80000000⟩], ⟨[]⟩)) ∧
    (∀ (r : ArgReader) (k : ArgKind), r.remaining < k.size →
      k.read r = .error (.payloadUnderrun k.size r.remaining)) ∧
    (∀ (c : ServiceBuffer) s p, (c.load s p = .error (.argumentTooLarge p.length c.maxPayload) ↔
      c.maxPayload < p.length) ∧ ∀ c', c.load s p = .ok c' → c'.outcome = c.outcome) ∧
    (∀ c : ServiceBuffer, c.Reachable →
      c.argLen ≤ c.maxPayload ∧ c.payload.length = c.argLen ∧ c.raw.length = c.argLen + 1) :=
  ⟨by decide, by decide, payload_round_trip 1 2 0 _ _ 3 (by decide) (by decide)⟩

end RoverKernel
