import RoverKernel.Modules.Engines
import RoverKernel.Proofs.PayloadRoundTrip

/-!
# Engine commands read back what was written

A MOVE, MOVE_ARC or MOVE_PERCENT request travels as a fixed layout: a direction byte, floats
as four little-endian bytes each, and for a move a blocking byte.  Writing fills the layout
field by field; reading walks a cursor over it, turns the direction byte into a direction,
takes any non-zero blocking byte as true, and for duties checks the range `[0, 100]` after
both are read.  Both directions of the round trip hold for every float pattern, NaNs and
negative zero included:

* `MoveCommand.decode_encode`, `ArcCommand.decode_encode`   reading a written command gives
  it back and consumes exactly its 6 or 12 bytes;
* `PercentCommand.decode_encode`   the same for duties in range, and otherwise the first duty
  out of range is reported; `dutyInRange_of_isNaN`: a NaN never is in range;
* `MoveCommand.encode_decode`, `ArcCommand.encode_decode`, `PercentCommand.encode_decode`
  a payload whose bytes the writer could have produced is read, and the command read
  writes back exactly the bytes it consumed;
* `MoveCommand.encodeInto_eq`, ...   appending a command appends its layout whole, or
  refuses with the size needed and the room left;
* `engine_commands_round_trip`   all of it.
-/

namespace RoverKernel

/-- the four bytes a direction byte below four can be, each the byte of its direction -/
theorem Direction.ofByte_eq_ok {b : UInt8} (h : b < 4) :
    ∃ d, Direction.ofByte b = .ok d ∧ d.toByte = b := by
  obtain rfl | rfl | rfl | rfl : b = 0 ∨ b = 1 ∨ b = 2 ∨ b = 3 := by grind
  · exact ⟨.forward, rfl, rfl⟩
  · exact ⟨.backward, rfl, rfl⟩
  · exact ⟨.left, rfl, rfl⟩
  · exact ⟨.right, rfl, rfl⟩

/-- a blocking byte of `0` or `1` is written back as itself -/
theorem blockingByte_of_le_one {b : UInt8} (h : b ≤ 1) :
    (if (b != 0) = true then (1 : UInt8) else 0) = b := by
  obtain rfl | rfl : b = 0 ∨ b = 1 := by grind
  · rfl
  · rfl

/-- no NaN lies in the duty range -/
theorem dutyInRange_of_isNaN {x : F32} (h : x.isNaN = true) : dutyInRange x = false := by
  have hx : FloatFormat.binary32.classify x.toNat = .nan := by
    simpa [F32.isNaN, FloatFormat.isNaN] using h
  -- comparing anything with a NaN gives no ordering, so `0 ≤ x` already fails
  have hcmp : FloatFormat.binary32.compare (F32.ofInt 0).toNat x.toNat = none := by
    rw [FloatFormat.compare, hx]
    split <;> simp_all
  simp [dutyInRange, F32.le, FloatFormat.le, hcmp]

/-! ## writing, then reading -/

namespace MoveCommand

theorem encode_length (c : MoveCommand) : c.encode.length = 6 := by
  simp [encode, F32.toBytes]

theorem decode_encode (c : MoveCommand) (rest : List UInt8) :
    decode ⟨c.encode ++ rest⟩ = .ok (c, ⟨rest⟩) := by
  have hbool : ((if c.blocking then 1 else 0 : UInt8) != 0) = c.blocking := by
    cases c.blocking <;> rfl
  simp only [decode, encode, List.cons_append, List.nil_append, List.append_assoc,
    ArgReader.readU8_cons, liftArgs_ok, Direction.ofByte_toByte, ArgReader.readF32_toBytes,
    ArgReader.readBool_cons, hbool, bind, Except.bind, pure, Except.pure]

theorem encodeInto_eq (c : MoveCommand) (e : TaskEntry) :
    c.encodeInto e = if e.remaining < 6 then .error (.argumentTooLarge 6 e.remaining)
      else .ok { e with args := e.args ++ c.encode } := by
  rw [encodeInto, TaskEntry.appendBytes, encode_length]

end MoveCommand

namespace ArcCommand

theorem encode_length (c : ArcCommand) : c.encode.length = 12 := by
  simp [encode, F32.toBytes]

theorem decode_encode (c : ArcCommand) (rest : List UInt8) :
    decode ⟨c.encode ++ rest⟩ = .ok (c, ⟨rest⟩) := by
  simp only [decode, encode, List.append_assoc, ArgReader.readF32_toBytes, liftArgs_ok, bind,
    Except.bind, pure, Except.pure]

theorem encodeInto_eq (c : ArcCommand) (e : TaskEntry) :
    c.encodeInto e = if e.remaining < 12 then .error (.argumentTooLarge 12 e.remaining)
      else .ok { e with args := e.args ++ c.encode } := by
  rw [encodeInto, TaskEntry.appendBytes, encode_length]

end ArcCommand

namespace PercentCommand

theorem encode_length (c : PercentCommand) : c.encode.length = 9 := by
  simp [encode, F32.toBytes]

/-- the left duty is checked first; a command with both duties in range comes back whole -/
theorem decode_encode (c : PercentCommand) (rest : List UInt8) :
    decode ⟨c.encode ++ rest⟩ =
      if !dutyInRange c.left then .error (.outOfRange c.left)
      else if !dutyInRange c.right then .error (.outOfRange c.right)
      else .ok (c, ⟨rest⟩) := by
  simp only [decode, encode, List.cons_append, List.nil_append, List.append_assoc,
    ArgReader.readU8_cons, liftArgs_ok, Direction.ofByte_toByte, ArgReader.readF32_toBytes, bind,
    Except.bind, pure, Except.pure]
  by_cases hl : dutyInRange c.left <;> by_cases hr : dutyInRange c.right <;>
    simp [hl, hr, throw, throwThe, MonadExceptOf.throw]

theorem encodeInto_eq (c : PercentCommand) (e : TaskEntry) :
    c.encodeInto e = if e.remaining < 9 then .error (.argumentTooLarge 9 e.remaining)
      else .ok { e with args := e.args ++ c.encode } := by
  rw [encodeInto, TaskEntry.appendBytes, encode_length]

end PercentCommand

/-! ## reading, then writing -/

/-- a payload with a direction byte below four and a blocking byte of `0` or `1` is read,
and the move read writes back its first six bytes -/
theorem MoveCommand.encode_decode (p : List UInt8) (hlen : 6 ≤ p.length) (hd : p[0]! < 4)
    (hb : p[5]! ≤ 1) :
    ∃ c, MoveCommand.decode ⟨p⟩ = .ok (c, ⟨p.drop 6⟩) ∧ c.encode = p.take 6 := by
  rcases p with _ | ⟨d, _ | ⟨x0, _ | ⟨x1, _ | ⟨x2, _ | ⟨x3, _ | ⟨b, rest⟩⟩⟩⟩⟩⟩
  iterate 6 · simp at hlen
  simp only [List.getElem!_cons_zero, List.getElem!_cons_succ] at hd hb
  obtain ⟨dir, hdir, hbyte⟩ := Direction.ofByte_eq_ok hd
  refine ⟨⟨dir, F32.ofBytes x0 x1 x2 x3, b != 0⟩, ?_, ?_⟩
  · simp only [MoveCommand.decode, ArgReader.readU8_cons, liftArgs_ok, hdir,
      ArgReader.readF32_cons, ArgReader.readBool_cons, bind, Except.bind, pure, Except.pure,
      List.drop_succ_cons, List.drop_zero]
  · rw [MoveCommand.encode, hbyte, F32.toBytes_ofBytes, blockingByte_of_le_one hb]
    rfl

/-- any twelve bytes are read as an arc, which writes them back -/
theorem ArcCommand.encode_decode (p : List UInt8) (hlen : 12 ≤ p.length) :
    ∃ c, ArcCommand.decode ⟨p⟩ = .ok (c, ⟨p.drop 12⟩) ∧ c.encode = p.take 12 := by
  rcases p with _ | ⟨a0, _ | ⟨a1, _ | ⟨a2, _ | ⟨a3, _ | ⟨b0, _ | ⟨b1, _ | ⟨b2, _ | ⟨b3,
    _ | ⟨c0, _ | ⟨c1, _ | ⟨c2, _ | ⟨c3, rest⟩⟩⟩⟩⟩⟩⟩⟩⟩⟩⟩⟩
  iterate 12 · simp at hlen
  refine ⟨⟨F32.ofBytes a0 a1 a2 a3, F32.ofBytes b0 b1 b2 b3, F32.ofBytes c0 c1 c2 c3⟩, ?_, ?_⟩
  · simp only [ArcCommand.decode, ArgReader.readF32_cons, liftArgs_ok, bind, Except.bind, pure,
      Except.pure, List.drop_succ_cons, List.drop_zero]
  · simp [ArcCommand.encode, F32.toBytes_ofBytes]

/-- a payload with a direction byte below four and both duties in range is read, and the
command read writes back its first nine bytes -/
theorem PercentCommand.encode_decode (p : List UInt8) (hlen : 9 ≤ p.length) (hd : p[0]! < 4)
    (hl : dutyInRange (F32.ofBytes p[1]! p[2]! p[3]! p[4]!) = true)
    (hr : dutyInRange (F32.ofBytes p[5]! p[6]! p[7]! p[8]!) = true) :
    ∃ c, PercentCommand.decode ⟨p⟩ = .ok (c, ⟨p.drop 9⟩) ∧ c.encode = p.take 9 := by
  rcases p with _ | ⟨d, _ | ⟨l0, _ | ⟨l1, _ | ⟨l2, _ | ⟨l3, _ | ⟨r0, _ | ⟨r1, _ | ⟨r2,
    _ | ⟨r3, rest⟩⟩⟩⟩⟩⟩⟩⟩⟩
  iterate 9 · simp at hlen
  simp only [List.getElem!_cons_zero, List.getElem!_cons_succ] at hd hl hr
  obtain ⟨dir, hdir, hbyte⟩ := Direction.ofByte_eq_ok hd
  refine ⟨⟨dir, F32.ofBytes l0 l1 l2 l3, F32.ofBytes r0 r1 r2 r3⟩, ?_, ?_⟩
  · simp only [PercentCommand.decode, ArgReader.readU8_cons, liftArgs_ok, hdir,
      ArgReader.readF32_cons, hl, hr, bind, Except.bind, pure, Except.pure, Bool.not_true,
      Bool.false_eq_true, if_false, List.drop_succ_cons, List.drop_zero]
  · simp [PercentCommand.encode, hbyte, F32.toBytes_ofBytes]

/-- **Engine commands round trip.**  Every move, arc and duty command is written as 6, 12
and 9 bytes, and reading them back over any following bytes gives the command, floats bit
for bit, leaving exactly the following bytes; a duty command instead fails on the first of
its duties, left then right, that lies outside `[0, 100]`, and no NaN lies inside.  Conversely
every payload that long whose direction byte is below four, whose blocking byte is `0` or `1`
and whose duties lie in range is read, and the command read is written back as the bytes it
consumed.  Appending a command to an entry appends exactly its bytes when they fit, and
otherwise refuses, naming the size and the room left, and builds no entry. -/
theorem engine_commands_round_trip :
    (∀ (c : MoveCommand) (rest : List UInt8), c.encode.length = 6 ∧
      MoveCommand.decode ⟨c.encode ++ rest⟩ = .ok (c, ⟨rest⟩)) ∧
    (∀ (c : ArcCommand) (rest : List UInt8), c.encode.length = 12 ∧
      ArcCommand.decode ⟨c.encode ++ rest⟩ = .ok (c, ⟨rest⟩)) ∧
    (∀ (c : PercentCommand) (rest : List UInt8), c.encode.length = 9 ∧
      PercentCommand.decode ⟨c.encode ++ rest⟩ =
        if !dutyInRange c.left then .error (.outOfRange c.left)
        else if !dutyInRange c.right then .error (.outOfRange c.right)
        else .ok (c, ⟨rest⟩)) ∧
    (∀ x : F32, x.isNaN = true → dutyInRange x = false) ∧
    (∀ p : List UInt8, 6 ≤ p.length → p[0]! < 4 → p[5]! ≤ 1 →
      ∃ c, MoveCommand.decode ⟨p⟩ = .ok (c, ⟨p.drop 6⟩) ∧ c.encode = p.take 6) ∧
    (∀ p : List UInt8, 12 ≤ p.length →
      ∃ c, ArcCommand.decode ⟨p⟩ = .ok (c, ⟨p.drop 12⟩) ∧ c.encode = p.take 12) ∧
    (∀ p : List UInt8, 9 ≤ p.length → p[0]! < 4 →
      dutyInRange (F32.ofBytes p[1]! p[2]! p[3]! p[4]!) = true →
      dutyInRange (F32.ofBytes p[5]! p[6]! p[7]! p[8]!) = true →
      ∃ c, PercentCommand.decode ⟨p⟩ = .ok (c, ⟨p.drop 9⟩) ∧ c.encode = p.take 9) ∧
    (∀ (c : MoveCommand) (e : TaskEntry), c.encodeInto e =
      if e.remaining < 6 then .error (.argumentTooLarge 6 e.remaining)
      else .ok { e with args := e.args ++ c.encode }) ∧
    (∀ (c : ArcCommand) (e : TaskEntry), c.encodeInto e =
      if e.remaining < 12 then .error (.argumentTooLarge 12 e.remaining)
      else .ok { e with args := e.args ++ c.encode }) ∧
    (∀ (c : PercentCommand) (e : TaskEntry), c.encodeInto e =
      if e.remaining < 9 then .error (.argumentTooLarge 9 e.remaining)
      else .ok { e with args := e.args ++ c.encode }) :=
  ⟨fun c rest => ⟨c.encode_length, c.decode_encode rest⟩,
    fun c rest => ⟨c.encode_length, c.decode_encode rest⟩,
    fun c rest => ⟨c.encode_length, c.decode_encode rest⟩,
    fun _ => dutyInRange_of_isNaN,
    MoveCommand.encode_decode, ArcCommand.encode_decode, PercentCommand.encode_decode,
    MoveCommand.encodeInto_eq, ArcCommand.encodeInto_eq, PercentCommand.encodeInto_eq⟩

end RoverKernel
