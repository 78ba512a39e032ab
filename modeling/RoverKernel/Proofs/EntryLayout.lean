import RoverKernel.Proofs.PayloadRoundTrip

/-!
# The payload as stored: a fixed array behind a length byte

An entry keeps its payload in an array of `argCapacity` bytes, with a length byte saying how
many of them are in use; `args` is the array's first `len` bytes.  `TaskEntry` keeps only
those bytes, as a list.  Here the stored form is written out with each call as the source
makes it: an append checks the room left, copies its bytes into the window behind the payload
and narrows the new length to a byte; `setArgs` zeroes the whole array before copying;
`clearArgs` zeroes it and the length.

Two facts hold of every entry the calls can build (`StoredEntry.Valid`): the length stays
within the array, and every byte behind it is zero.  From them, equality of stored entries
(the whole array and the length compared) is equality of what the list form keeps, and every
call does to the list what the list form's own operation does.

* `overwrite`                 the copy into a window of the array;
* `StoredEntry.Valid`         the two facts; `withPayload_valid` is the one write every
                              successful append and replacement makes;
* `StoredEntry.eq_iff_toEntry_eq`   equality of valid stored entries;
* `StoredEntry.Refines`, `StoredEntry.call_refines`   each call does what the list form's
                              operation does, the error and the untouched entry included;
* `EntryOp.onList`, `refArgs` the payload as a plain list: appends concatenate their
                              encodings, `setArgs` replaces, `clearArgs` empties;
* `StoredEntry.run_refines`   a run keeps both facts and builds the list form's run and the
                              plain list;
* `stored_payload_matches_list`   all of it, for every entry the calls build.
-/

namespace RoverKernel

/-- `dst` with its bytes from position `start` on replaced by those of `src`, as far as `dst`
reaches: `dst[start..start + src.len].copy_from_slice(src)` -/
def overwrite : List UInt8 → Nat → List UInt8 → List UInt8
  | [], _, _ => []
  | d :: ds, 0, [] => d :: ds
  | _ :: ds, 0, s :: ss => s :: overwrite ds 0 ss
  | d :: ds, k + 1, src => d :: overwrite ds k src

@[simp] theorem length_overwrite (dst : List UInt8) (start : Nat) (src : List UInt8) :
    (overwrite dst start src).length = dst.length := by
  fun_induction overwrite <;> simp_all

/-- a window that lies inside the array is the array's prefix, the new bytes, and its rest -/
theorem overwrite_eq (dst : List UInt8) (start : Nat) (src : List UInt8)
    (h : start + src.length ≤ dst.length) :
    overwrite dst start src = dst.take start ++ src ++ dst.drop (start + src.length) := by
  induction dst, start, src using overwrite.induct with
  | case1 start src => simp at h; simp [overwrite, h]
  | case2 d ds => simp [overwrite]
  | case3 d ds s ss ih =>
    simp only [List.length_cons] at h
    simp [overwrite, ih (by omega)]
  | case4 d ds k src ih =>
    simp only [List.length_cons] at h
    simp [overwrite, ih (by omega), Nat.add_right_comm k 1]

/-- A task entry as stored: module, service, due time, a length byte and a fixed array of
`argCapacity` payload bytes. -/
structure StoredEntry where
  module : Nat
  service : Nat
  due : Millis
  len : UInt8
  bytes : List UInt8
  length_bytes : bytes.length = argCapacity
deriving DecidableEq

namespace StoredEntry

/-- `TaskEntry::scheduled`: an empty payload over a zeroed array -/
def scheduled (module service due : Nat) : StoredEntry :=
  ⟨module, service, due, 0, List.replicate argCapacity 0, List.length_replicate⟩

def argLen (e : StoredEntry) : Nat := e.len.toNat

/-- the payload: the array's first `len` bytes -/
def args (e : StoredEntry) : List UInt8 := e.bytes.take e.argLen

def remaining (e : StoredEntry) : Nat := argCapacity - e.argLen

/-- the entry with the array `base` overwritten by `src` from position `start` on, under the
length byte `n` narrowed to a byte -/
def withPayload (e : StoredEntry) (base : List UInt8) (hbase : base.length = argCapacity)
    (start : Nat) (src : List UInt8) (n : Nat) : StoredEntry :=
  { e with bytes := overwrite base start src, len := UInt8.ofNat n,
           length_bytes := by rw [length_overwrite, hbase] }

/-- `append_bytes`: bytes that do not fit are refused before anything is written; otherwise
they are copied behind the payload and the new length is narrowed to a byte -/
def appendBytes (e : StoredEntry) (src : List UInt8) : KernelResult Unit × StoredEntry :=
  if e.remaining < src.length then (.error (.argumentTooLarge src.length e.remaining), e)
  else (.ok (), e.withPayload e.bytes e.length_bytes e.argLen src (e.argLen + src.length))

/-- `set_args`: a payload longer than the array is refused; otherwise the array is zeroed and
the payload copied to its front -/
def setArgs (e : StoredEntry) (src : List UInt8) : KernelResult Unit × StoredEntry :=
  if argCapacity < src.length then (.error (.argumentTooLarge src.length argCapacity), e)
  else (.ok (), e.withPayload (List.replicate argCapacity 0) List.length_replicate 0 src src.length)

/-- `clear_args`: the array and the length zeroed -/
def clearArgs (e : StoredEntry) : StoredEntry :=
  { e with bytes := List.replicate argCapacity 0, len := 0, length_bytes := List.length_replicate }

/-- the list form: the payload's bytes and nothing of the array behind them -/
def toEntry (e : StoredEntry) : TaskEntry :=
  { module := e.module, service := e.service, due := e.due, args := e.args }

end StoredEntry

/-- a call that changes an entry's payload -/
inductive EntryOp where
  | appendBytes (bs : List UInt8)
  | appendF32 (v : F32)
  | appendU16 (v : Nat)
  | appendNumeric (text : List UInt8)
  | setArgs (bs : List UInt8)
  | clearArgs
deriving DecidableEq, Repr

/-- the call on a stored entry: what it returns, and the entry after it -/
def StoredEntry.call (e : StoredEntry) : EntryOp → KernelResult Unit × StoredEntry
  | .appendBytes bs => e.appendBytes bs
  | .appendF32 v => e.appendBytes v.toBytes
  | .appendU16 v => e.appendBytes (u16Bytes v)
  | .appendNumeric text =>
    match parseNumericText text with
    | .error err => (.error err, e)
    | .ok v => e.appendBytes v.toBytes
  | .setArgs bs => e.setArgs bs
  | .clearArgs => (.ok (), e.clearArgs)

namespace EntryOp

/-- the list form's own operation -/
def onEntry (e : TaskEntry) : EntryOp → KernelResult TaskEntry
  | .appendBytes bs => e.appendBytes bs
  | .appendF32 v => e.appendF32 v
  | .appendU16 v => e.appendU16 v
  | .appendNumeric text => e.appendNumeric text
  | .setArgs bs => e.setArgs bs
  | .clearArgs => .ok e.clearArgs

/-- the payload as a plain list: an append puts its encoding behind it, `setArgs` replaces it
and `clearArgs` empties it; `none` for a call refused because the result would pass
`argCapacity` bytes or the text is not a number -/
def onList (op : EntryOp) (acc : List UInt8) : Option (List UInt8) :=
  let append (bs : List UInt8) : Option (List UInt8) :=
    if argCapacity < acc.length + bs.length then none else some (acc ++ bs)
  match op with
  | .appendBytes bs => append bs
  | .appendF32 v => append v.toBytes
  | .appendU16 v => append (u16Bytes v)
  | .appendNumeric text => (parseNumericText text).toOption.bind fun v => append v.toBytes
  | .setArgs bs => if argCapacity < bs.length then none else some bs
  | .clearArgs => some []

end EntryOp

/-- calls made one after another on a stored entry -/
def StoredEntry.run (e : StoredEntry) (ops : List EntryOp) : StoredEntry :=
  ops.foldl (fun e op => (e.call op).2) e

/-- the list form's operations made one after another; a refused one changes nothing -/
def TaskEntry.runOps (e : TaskEntry) : List EntryOp → TaskEntry
  | [] => e
  | op :: ops =>
    match op.onEntry e with
    | .ok e' => e'.runOps ops
    | .error _ => e.runOps ops

/-- the payload the calls build as a plain list; a refused call changes nothing -/
def refArgs (acc : List UInt8) : List EntryOp → List UInt8
  | [] => acc
  | op :: ops => refArgs ((op.onList acc).getD acc) ops

/-! ## the window an append writes -/

/-- writing right behind a prefix keeps the prefix, and what follows the window -/
theorem overwrite_append (p rest src : List UInt8) (h : src.length ≤ rest.length) :
    overwrite (p ++ rest) p.length src = p ++ src ++ rest.drop src.length := by
  rw [overwrite_eq _ _ _ (by simp; omega)]
  simp [List.drop_append]

theorem toNat_ofNat_of_le {n : Nat} (h : n ≤ argCapacity) : (UInt8.ofNat n).toNat = n := by
  rw [UInt8.toNat_ofNat']
  simp only [argCapacity] at h
  omega

/-! ## the two facts every entry keeps -/

namespace StoredEntry

variable {e : StoredEntry}

/-- what every entry the calls build satisfies: the length byte is within the array, and every
byte of the array behind the payload is zero -/
structure Valid (e : StoredEntry) : Prop where
  argLen_le : e.argLen ≤ argCapacity
  tail_zero : e.bytes.drop e.argLen = List.replicate (argCapacity - e.argLen) 0

theorem Valid.length_args (h : e.Valid) : e.args.length = e.argLen := by
  simp [args, e.length_bytes, h.argLen_le]

theorem Valid.bytes_eq (h : e.Valid) :
    e.bytes = e.args ++ List.replicate (argCapacity - e.argLen) 0 := by
  rw [args, ← h.tail_zero, List.take_append_drop]

/-- a length byte saying `p.length` over `p` followed by zeros is valid, with payload `p` -/
theorem valid_of_bytes {p : List UInt8} (hp : p.length ≤ argCapacity)
    (hlen : e.argLen = p.length) (hb : e.bytes = p ++ List.replicate (argCapacity - p.length) 0) :
    e.Valid ∧ e.args = p := by
  refine ⟨⟨by omega, ?_⟩, ?_⟩
  · rw [hb, hlen, List.drop_left]
  · rw [args, hb, hlen, List.take_left]

theorem scheduled_valid (m s due : Nat) :
    (scheduled m s due).Valid ∧ (scheduled m s due).args = [] :=
  valid_of_bytes (Nat.zero_le _) rfl rfl

/-- copying `src` right behind a payload `p` that is followed by zeros gives a valid entry
with payload `p ++ src`, when the two fit -/
theorem withPayload_valid {base : List UInt8} (hbase : base.length = argCapacity)
    {p src : List UInt8} (hb : base = p ++ List.replicate (argCapacity - p.length) 0)
    (hfit : p.length + src.length ≤ argCapacity) :
    (e.withPayload base hbase p.length src (p.length + src.length)).Valid ∧
      (e.withPayload base hbase p.length src (p.length + src.length)).toEntry =
        { e.toEntry with args := p ++ src } := by
  -- the window starts right behind the payload, among the zeros
  have hw : overwrite base p.length src =
      p ++ src ++ List.replicate (argCapacity - (p ++ src).length) 0 := by
    rw [hb, overwrite_append _ _ _ (by rw [List.length_replicate]; omega), List.drop_replicate,
      List.length_append, Nat.sub_sub]
  have hv := valid_of_bytes (e := e.withPayload base hbase p.length src (p.length + src.length))
    (by simp only [List.length_append]; omega)
    (by simp only [argLen, withPayload, toNat_ofNat_of_le hfit, List.length_append]) hw
  exact ⟨hv.1, by simp only [toEntry, hv.2]; rfl⟩

/-- bytes that fit are copied behind the payload: the entry stays valid and its payload grows
by exactly them -/
theorem appendBytes_of_fits (h : e.Valid) {src : List UInt8}
    (hfit : e.argLen + src.length ≤ argCapacity) :
    ∃ e', e.appendBytes src = (.ok (), e') ∧ e'.Valid ∧
      e'.toEntry = { e.toEntry with args := e.args ++ src } := by
  have hroom : ¬ e.remaining < src.length := by
    simp only [remaining]
    omega
  have hb : e.bytes = e.args ++ List.replicate (argCapacity - e.args.length) 0 := by
    rw [h.length_args]
    exact h.bytes_eq
  have hv := withPayload_valid (e := e) e.length_bytes hb
    (show e.args.length + src.length ≤ argCapacity by rw [h.length_args]; exact hfit)
  rw [h.length_args] at hv
  exact ⟨_, by simp only [appendBytes, if_neg hroom], hv⟩

/-- bytes that do not fit are refused with their length and the room left, and nothing is
written -/
theorem appendBytes_of_too_long (h : e.argLen ≤ argCapacity) {src : List UInt8}
    (hlong : argCapacity < e.argLen + src.length) :
    e.appendBytes src = (.error (.argumentTooLarge src.length (argCapacity - e.argLen)), e) := by
  have hroom : e.remaining < src.length := by
    simp only [remaining]
    omega
  rw [appendBytes, if_pos hroom, remaining]

theorem setArgs_of_fits {src : List UInt8} (hfit : src.length ≤ argCapacity) :
    ∃ e', e.setArgs src = (.ok (), e') ∧ e'.Valid ∧ e'.toEntry = { e.toEntry with args := src } := by
  have hv := withPayload_valid (e := e) (p := []) List.length_replicate rfl
    (show ([] : List UInt8).length + src.length ≤ argCapacity by
      rw [List.length_nil, Nat.zero_add]; exact hfit)
  simp only [List.length_nil, Nat.zero_add, List.nil_append] at hv
  exact ⟨_, by simp only [setArgs, if_neg (Nat.not_lt.2 hfit)], hv⟩

theorem setArgs_of_too_long {src : List UInt8} (hlong : argCapacity < src.length) :
    e.setArgs src = (.error (.argumentTooLarge src.length argCapacity), e) := by
  simp only [setArgs, if_pos hlong]

theorem clearArgs_valid (e : StoredEntry) :
    e.clearArgs.Valid ∧ e.clearArgs.toEntry = { e.toEntry with args := [] } := by
  have hv := valid_of_bytes (e := e.clearArgs) (p := []) (Nat.zero_le _) rfl rfl
  exact ⟨hv.1, by simp only [toEntry, hv.2]; rfl⟩

theorem Valid.toEntry_argLen (h : e.Valid) : e.toEntry.argLen = e.argLen :=
  h.length_args

/-- **Equality of valid entries is equality of their list forms**: the length byte is the
payload's length and the array is the payload followed by zeros, so nothing else is left to
differ. -/
theorem eq_iff_toEntry_eq {e' : StoredEntry} (h : e.Valid) (h' : e'.Valid) :
    e = e' ↔ e.toEntry = e'.toEntry := by
  refine ⟨congrArg toEntry, fun ht => ?_⟩
  simp only [toEntry, TaskEntry.mk.injEq] at ht
  obtain ⟨hm, hs, hd, ha⟩ := ht
  have hlen : e.argLen = e'.argLen := by rw [← h.length_args, ← h'.length_args, ha]
  have hb : e.bytes = e'.bytes := by rw [h.bytes_eq, h'.bytes_eq, ha, hlen]
  have hl : e.len = e'.len := UInt8.toNat_inj.1 hlen
  cases e
  cases e'
  simp_all

/-! ## each call refines the list form's operation -/

/-- what a call `r` on `e` should do, given the list form's answer `t`: on success, a valid
entry standing for the new list form; on failure, the same error with `e` left as it was -/
def Refines (e : StoredEntry) (r : KernelResult Unit × StoredEntry) :
    KernelResult TaskEntry → Prop
  | .ok t => r.1 = .ok () ∧ r.2.Valid ∧ r.2.toEntry = t
  | .error err => r = (.error err, e)

theorem refines_of_ok {r : KernelResult Unit × StoredEntry} {t : TaskEntry}
    (h : ∃ e', r = (.ok (), e') ∧ e'.Valid ∧ e'.toEntry = t) : Refines e r (.ok t) := by
  obtain ⟨e', rfl, hv, ht⟩ := h
  exact ⟨rfl, hv, ht⟩

theorem appendBytes_refines (h : e.Valid) (src : List UInt8) :
    Refines e (e.appendBytes src) (e.toEntry.appendBytes src) := by
  by_cases hfit : e.argLen + src.length ≤ argCapacity
  · rw [TaskEntry.appendBytes_of_le _ _ (by rw [h.toEntry_argLen]; exact hfit)]
    exact refines_of_ok (appendBytes_of_fits h hfit)
  · -- both refuse, with the same room left
    have hroom : e.toEntry.remaining < src.length := by
      have := h.argLen_le
      simp only [TaskEntry.remaining, h.toEntry_argLen]
      omega
    rw [TaskEntry.appendBytes, if_pos hroom, TaskEntry.remaining, h.toEntry_argLen]
    exact appendBytes_of_too_long h.argLen_le (by omega)

theorem setArgs_refines (e : StoredEntry) (src : List UInt8) :
    Refines e (e.setArgs src) (e.toEntry.setArgs src) := by
  by_cases hfit : src.length ≤ argCapacity
  · rw [TaskEntry.setArgs, if_neg (Nat.not_lt.2 hfit)]
    exact refines_of_ok (setArgs_of_fits hfit)
  · rw [TaskEntry.setArgs, if_pos (Nat.lt_of_not_le hfit)]
    exact setArgs_of_too_long (Nat.lt_of_not_le hfit)

end StoredEntry

/-- **Every call refines the list form's operation**, on every valid entry -/
theorem StoredEntry.call_refines {e : StoredEntry} (h : e.Valid) (op : EntryOp) :
    e.Refines (e.call op) (op.onEntry e.toEntry) := by
  cases op with
  | appendBytes bs => exact e.appendBytes_refines h bs
  | appendF32 v => exact e.appendBytes_refines h v.toBytes
  | appendU16 v => exact e.appendBytes_refines h (u16Bytes v)
  | appendNumeric text =>
    -- the text is parsed first; a number is appended as its four bytes
    simp only [call, EntryOp.onEntry, TaskEntry.appendNumeric]
    cases parseNumericText text with
    | error err => rfl
    | ok v => exact e.appendBytes_refines h v.toBytes
  | setArgs bs => exact e.setArgs_refines bs
  | clearArgs => exact ⟨rfl, e.clearArgs_valid.1, e.clearArgs_valid.2⟩

/-! ## the list form against the plain list -/

@[simp] theorem F32.length_toBytes (v : F32) : v.toBytes.length = 4 := rfl

theorem parseNumericText_eq_error {text : List UInt8} {err : KernelError}
    (h : parseNumericText text = .error err) : ∃ s, err = .invalidNumericArgument s := by
  unfold parseNumericText at h
  -- every refusal is the same `invalid` value
  split at h
  · cases h
    exact ⟨_, rfl⟩
  · simp only at h
    split at h
    · cases h
      exact ⟨_, rfl⟩
    · split at h
      · cases h
        exact ⟨_, rfl⟩
      · cases h

/-- an append to a list form within the capacity gives the plain concatenation, or nothing
when the result would not fit -/
theorem TaskEntry.appendBytes_toOption {t : TaskEntry} (ht : t.argLen ≤ argCapacity)
    (bs : List UInt8) :
    (t.appendBytes bs).toOption.map TaskEntry.args =
      if argCapacity < t.args.length + bs.length then none else some (t.args ++ bs) := by
  by_cases hfit : t.argLen + bs.length ≤ argCapacity
  · rw [TaskEntry.appendBytes_of_le t bs hfit, if_neg (by simp only [TaskEntry.argLen] at hfit; omega)]
    rfl
  · have hroom : t.remaining < bs.length := by
      simp only [TaskEntry.remaining]
      omega
    rw [TaskEntry.appendBytes, if_pos hroom, if_pos (by simp only [TaskEntry.argLen] at hfit; omega)]
    rfl

/-- the plain list follows the list form's operation, on a payload within the capacity -/
theorem EntryOp.onList_eq {t : TaskEntry} (ht : t.argLen ≤ argCapacity) (op : EntryOp) :
    op.onList t.args = (op.onEntry t).toOption.map TaskEntry.args := by
  cases op with
  | appendBytes bs => exact (TaskEntry.appendBytes_toOption ht bs).symm
  | appendF32 v => exact (TaskEntry.appendBytes_toOption ht v.toBytes).symm
  | appendU16 v => exact (TaskEntry.appendBytes_toOption ht (u16Bytes v)).symm
  | appendNumeric text =>
    simp only [onList, onEntry, TaskEntry.appendNumeric]
    cases parseNumericText text with
    | error err => rfl
    | ok v => exact (TaskEntry.appendBytes_toOption ht v.toBytes).symm
  | setArgs bs =>
    simp only [onList, onEntry, TaskEntry.setArgs]
    split <;> rfl
  | clearArgs => rfl

/-! ## runs of calls -/

namespace StoredEntry

/-- **Every run keeps both facts, and its list form is the list form's own run**: one step by
`call_refines`, then the rest of the run from where it left the entry -/
theorem run_refines {e : StoredEntry} (h : e.Valid) (ops : List EntryOp) :
    (e.run ops).Valid ∧ (e.run ops).toEntry = e.toEntry.runOps ops ∧
      (e.run ops).args = refArgs e.args ops := by
  induction ops generalizing e with
  | nil => exact ⟨h, rfl, rfl⟩
  | cons op ops ih =>
    have hr := call_refines h op
    have hl := EntryOp.onList_eq (h.toEntry_argLen ▸ h.argLen_le) op
    show ((e.call op).2.run ops).Valid ∧ ((e.call op).2.run ops).toEntry = _ ∧
      ((e.call op).2.run ops).args = refArgs ((op.onList e.args).getD e.args) ops
    rw [TaskEntry.runOps]
    -- `e.toEntry.args` is `e.args`
    change op.onList e.args = _ at hl
    revert hr hl
    cases op.onEntry e.toEntry with
    | ok t =>
      -- the call succeeded: the run goes on from the entry standing for `t`
      rintro ⟨-, hv, ht⟩ hl
      obtain ⟨iv, it, ia⟩ := ih hv
      refine ⟨iv, by rw [it, ht], ?_⟩
      rw [ia, hl, ← ht]
      rfl
    | error err =>
      -- the call was refused and left the entry as it was
      intro hr hl
      rw [hr, hl]
      exact ih h

/-- a valid entry refuses an append, with its length and the room left, exactly when the
bytes would take the payload past the array -/
theorem appendBytes_eq_error_iff {e : StoredEntry} (h : e.Valid) (src : List UInt8) :
    (e.appendBytes src).1 = .error (.argumentTooLarge src.length (argCapacity - e.argLen)) ↔
      argCapacity < e.argLen + src.length := by
  by_cases hfit : e.argLen + src.length ≤ argCapacity
  · obtain ⟨e', he, -⟩ := appendBytes_of_fits h hfit
    rw [he]
    exact iff_of_false (by simp) (by omega)
  · rw [appendBytes_of_too_long h.argLen_le (by omega)]
    exact iff_of_true rfl (by omega)

theorem setArgs_eq_error_iff (e : StoredEntry) (src : List UInt8) :
    (e.setArgs src).1 = .error (.argumentTooLarge src.length argCapacity) ↔
      argCapacity < src.length := by
  by_cases hfit : src.length ≤ argCapacity
  · obtain ⟨e', he, -⟩ := setArgs_of_fits (e := e) hfit
    rw [he]
    exact iff_of_false (by simp) (by omega)
  · rw [setArgs_of_too_long (by omega)]
    exact iff_of_true rfl (by omega)

/-- an append writes only after its check has passed: it succeeds or leaves the entry as it was -/
theorem appendBytes_ok_or_unchanged (e : StoredEntry) (src : List UInt8) :
    (e.appendBytes src).1 = .ok () ∨ (e.appendBytes src).2 = e := by
  unfold appendBytes
  split
  · exact .inr rfl
  · exact .inl rfl

theorem setArgs_ok_or_unchanged (e : StoredEntry) (src : List UInt8) :
    (e.setArgs src).1 = .ok () ∨ (e.setArgs src).2 = e := by
  unfold setArgs
  split
  · exact .inr rfl
  · exact .inl rfl

theorem call_ok_or_unchanged (e : StoredEntry) (op : EntryOp) :
    (e.call op).1 = .ok () ∨ (e.call op).2 = e := by
  cases op with
  | appendBytes bs => exact e.appendBytes_ok_or_unchanged bs
  | appendF32 v => exact e.appendBytes_ok_or_unchanged v.toBytes
  | appendU16 v => exact e.appendBytes_ok_or_unchanged (u16Bytes v)
  | appendNumeric text =>
    simp only [call]
    cases parseNumericText text with
    | error err => exact .inr rfl
    | ok v => exact e.appendBytes_ok_or_unchanged v.toBytes
  | setArgs bs => exact e.setArgs_ok_or_unchanged bs
  | clearArgs => exact .inl rfl

end StoredEntry

/-- **The stored payload is the plain list, and the array behind it is zero.**  Take the entry
that `TaskEntry::scheduled` (so also `new` and `default`) makes, and any sequence of appends of
raw bytes, floats, 16-bit values and decimal text, replacements and clears.  Its payload is the
list built by concatenating the bytes and little-endian encodings, `setArgs` replacing the
list and `clearArgs` emptying it, a refused call changing nothing; its length byte is at most
`argCapacity` and every byte of the array behind the payload is zero.  So two such entries are
equal, array and length byte compared, exactly when their module, service, due time and payload
are.  On it, an append is refused with its encoding's length and the room left exactly when the
payload would pass `argCapacity` bytes (text only once it reads as a number), and `setArgs`
with its length and the capacity exactly when the new payload would; every call either
succeeds or leaves the entry as it was, array and length byte included.  The list form of the
entry is what the list form's own operations build. -/
theorem stored_payload_matches_list (m s due : Nat) (ops : List EntryOp) :
    let e := (StoredEntry.scheduled m s due).run ops
    e.args = refArgs [] ops ∧
      e.argLen ≤ argCapacity ∧ e.bytes.drop e.argLen = List.replicate (argCapacity - e.argLen) 0 ∧
      (∀ (m' s' due' : Nat) (ops' : List EntryOp),
        let e' := (StoredEntry.scheduled m' s' due').run ops'
        e = e' ↔ e.module = e'.module ∧ e.service = e'.service ∧ e.due = e'.due ∧ e.args = e'.args) ∧
      (∀ bs, (e.call (.appendBytes bs)).1 =
          .error (.argumentTooLarge bs.length (argCapacity - e.argLen)) ↔
        argCapacity < e.argLen + bs.length) ∧
      (∀ v, (e.call (.appendF32 v)).1 = .error (.argumentTooLarge 4 (argCapacity - e.argLen)) ↔
        argCapacity < e.argLen + 4) ∧
      (∀ v, (e.call (.appendU16 v)).1 = .error (.argumentTooLarge 2 (argCapacity - e.argLen)) ↔
        argCapacity < e.argLen + 2) ∧
      (∀ text, (e.call (.appendNumeric text)).1 =
          .error (.argumentTooLarge 4 (argCapacity - e.argLen)) ↔
        (∃ v, parseNumericText text = .ok v) ∧ argCapacity < e.argLen + 4) ∧
      (∀ bs, (e.call (.setArgs bs)).1 = .error (.argumentTooLarge bs.length argCapacity) ↔
        argCapacity < bs.length) ∧
      (∀ op, (e.call op).1 = .ok () ∨ (e.call op).2 = e) ∧
      e.toEntry = (TaskEntry.scheduled m s due).runOps ops := by
  intro e
  obtain ⟨h0, -⟩ := StoredEntry.scheduled_valid m s due
  obtain ⟨hv, ht, ha⟩ : e.Valid ∧ e.toEntry = _ ∧ e.args = _ := StoredEntry.run_refines h0 ops
  refine ⟨ha, hv.argLen_le, hv.tail_zero, ?_, StoredEntry.appendBytes_eq_error_iff hv,
    fun v => StoredEntry.appendBytes_eq_error_iff hv v.toBytes,
    fun v => StoredEntry.appendBytes_eq_error_iff hv (u16Bytes v), ?_,
    StoredEntry.setArgs_eq_error_iff e, StoredEntry.call_ok_or_unchanged e, ht⟩
  · -- equality of valid entries is equality of their list forms
    intro m' s' due' ops' e'
    obtain ⟨h0', -⟩ := StoredEntry.scheduled_valid m' s' due'
    have hv' : e'.Valid := (StoredEntry.run_refines h0' ops').1
    rw [StoredEntry.eq_iff_toEntry_eq hv hv']
    simp only [StoredEntry.toEntry, TaskEntry.mk.injEq]
  · -- decimal text: a refused parse is not a size error
    intro text
    simp only [StoredEntry.call]
    cases hp : parseNumericText text with
    | error err =>
      obtain ⟨str, rfl⟩ := parseNumericText_eq_error hp
      exact iff_of_false (by simp) (by simp)
    | ok v =>
      show (e.appendBytes v.toBytes).1 = _ ↔ _
      rw [← F32.length_toBytes v, StoredEntry.appendBytes_eq_error_iff hv v.toBytes]
      exact ⟨fun h => ⟨⟨v, rfl⟩, h⟩, And.right⟩

end RoverKernel
