import Mathlib.Data.List.Induction
import RoverKernel.Dispatcher
import RoverKernel.Proofs.PayloadRoundTrip

/-!
# Where a delivered entry goes

The dispatcher hands a popped entry to the module registered at the entry's identifier.  The
registry keeps, in each of its ten slots, the module of the last registration there; a
registration outside the slots is refused and changes nothing.  So after any history of
registrations, a lookup gives the module most recently registered at an identifier in range,
`moduleNotRegistered` for a slot never filled, and `invalidModuleId` out of range.

Delivery then takes one of three paths.  An entry with no module is dropped as
`skippedUnknownModule`; one whose payload does not fit the module's buffer is dropped as
`skippedPayloadTooLarge`; either way only the skip counter and the log change, so the
module's buffer is as it was.  Otherwise the buffer is loaded (the entry's service, the
length byte and the payload, the module's last outcome, its capacity) and the module is
invoked once on it; unless it panics, the invocation counter, the callback's time and the log
record it.

* `ModuleRegistry.registerAll`       a history of registrations, a refused one kept out;
* `ModuleRegistry.lookup_registerAll`  the last registration at an identifier wins;
* `ServiceBuffer.load_layout`        what a loaded buffer shows the module;
* `Dispatcher.deliver_of_lookup_error`, `deliver_of_too_large`, `deliver_of_fits`
                                     the three paths of a delivery;
* `delivery_follows_registry`        all of it, for every entry and every dispatcher.
-/

namespace RoverKernel

/-! ## the registry after a history of registrations -/

namespace ModuleRegistry

variable {α : Type}

/-- one registration of a history: a refused one leaves the registry as it was -/
def registerOrKeep (r : ModuleRegistry α) (reg : Nat × α) : ModuleRegistry α :=
  match r.register reg.1 reg.2 with
  | .ok r' => r'
  | .error _ => r

/-- the registry after the registrations `regs`, made in order -/
def registerAll (r : ModuleRegistry α) (regs : List (Nat × α)) : ModuleRegistry α :=
  regs.foldl registerOrKeep r

theorem registerOrKeep_slots (r : ModuleRegistry α) (id : Nat) (m : α) :
    (r.registerOrKeep (id, m)).slots = if id < moduleSlots then r.slots.set id (some m) else r.slots := by
  by_cases h : id < moduleSlots <;>
    simp [registerOrKeep, register, index, h, bind, Except.bind, pure, Except.pure]

theorem length_registerAll (r : ModuleRegistry α) (regs : List (Nat × α)) :
    (r.registerAll regs).slots.length = r.slots.length := by
  induction regs generalizing r with
  | nil => rfl
  | cons reg regs ih =>
    rw [registerAll, List.foldl_cons, ← registerAll, ih, registerOrKeep_slots]
    split <;> simp

theorem lookup_of_le (r : ModuleRegistry α) {id : Nat} (h : moduleSlots ≤ id) :
    r.lookup id = .error (.invalidModuleId id moduleSlots) := by
  simp [lookup, index, Nat.not_lt.2 h, bind, Except.bind]

theorem lookup_of_lt (r : ModuleRegistry α) {id : Nat} (h : id < moduleSlots) :
    r.lookup id = match r.slots[id]? with
      | some (some m) => .ok m
      | _ => .error (.moduleNotRegistered id) := by
  simp only [lookup, index, h, if_true, bind, Except.bind]
  rfl

theorem lookup_congr {r r' : ModuleRegistry α} {id : Nat} (h : r.slots[id]? = r'.slots[id]?) :
    r.lookup id = r'.lookup id := by
  rcases Nat.lt_or_ge id moduleSlots with hid | hid
  · rw [lookup_of_lt _ hid, lookup_of_lt _ hid, h]
  · rw [lookup_of_le _ hid, lookup_of_le _ hid]

/-- one registration changes only the lookup of its own identifier, and only when it is in
range -/
theorem lookup_registerOrKeep {r : ModuleRegistry α} (hr : r.slots.length = moduleSlots)
    (i id : Nat) (m : α) :
    (r.registerOrKeep (i, m)).lookup id = if id = i ∧ id < moduleSlots then .ok m else r.lookup id := by
  rcases Nat.lt_or_ge id moduleSlots with hid | hid
  · by_cases hi : id = i
    · subst hi
      rw [if_pos ⟨rfl, hid⟩, lookup_of_lt _ hid, registerOrKeep_slots, if_pos hid,
        List.getElem?_set_self (by omega)]
    · rw [if_neg (fun h => hi h.1)]
      apply lookup_congr
      rw [registerOrKeep_slots]
      split
      · exact List.getElem?_set_ne (Ne.symm hi)
      · rfl
  · rw [if_neg (fun h => by omega), lookup_of_le _ hid, lookup_of_le _ hid]

/-- **The last registration at an identifier wins.**  After any history of registrations from
the empty registry, an identifier in range finds the module most recently registered at it,
and a slot nothing was registered at is reported as such -/
theorem lookup_registerAll (regs : List (Nat × α)) {id : Nat} (hid : id < moduleSlots) :
    (({} : ModuleRegistry α).registerAll regs).lookup id =
      match regs.reverse.lookup id with
      | some m => .ok m
      | none => .error (.moduleNotRegistered id) := by
  -- by the registrations from the last: the registry is the one before it, registered once more
  induction regs using List.reverseRecOn with
  | nil =>
    rw [lookup_of_lt _ hid]
    simp [registerAll, hid]
  | append_singleton regs reg ih =>
    obtain ⟨i, m⟩ := reg
    have hlen : (({} : ModuleRegistry α).registerAll regs).slots.length = moduleSlots := by
      rw [length_registerAll]
      rfl
    rw [registerAll, List.foldl_append, List.foldl_cons, List.foldl_nil, ← registerAll, lookup_registerOrKeep hlen,
      List.reverse_concat, List.lookup_cons]
    by_cases h : id = i
    · subst h
      rw [if_pos ⟨rfl, hid⟩, beq_self_eq_true]
    · rw [if_neg (fun h' => h h'.1), ih, beq_false_of_ne h]

end ModuleRegistry

/-! ## the module's buffer -/

namespace ServiceBuffer

theorem maxPayload_new (n : Nat) : (ServiceBuffer.new n).maxPayload = min n argCapacity := by
  simp [ServiceBuffer.new, maxPayload]

/-- **What a loaded buffer shows the module**: the request's service, the length byte
followed by the payload, the outcome the module last wrote, and the capacity it had -/
theorem load_layout {b b' : ServiceBuffer} {s : Nat} {p : List UInt8} (h : b.load s p = .ok b')
    (h256 : p.length < 256) :
    b'.service = s ∧ b'.raw = UInt8.ofNat p.length :: p ∧ b'.outcome = b.outcome ∧
      b'.maxPayload = b.maxPayload := by
  obtain ⟨hp, rfl⟩ := load_eq_ok h
  have harg : (UInt8.ofNat p.length).toNat = p.length := by
    rw [UInt8.toNat_ofNat']
    omega
  refine ⟨rfl, ?_, rfl, ?_⟩
  · simp [raw, argLen, harg]
  · simp only [maxPayload, List.length_cons, List.length_append, List.length_drop] at hp ⊢
    omega

end ServiceBuffer

/-! ## the three paths of a delivery -/

namespace Dispatcher

variable {d : Dispatcher} {e : TaskEntry} {m : Module}

theorem lookup_eq_ok {id : Nat} :
    d.lookup id = .ok m ↔ ∃ pos, d.registry.lookup id = .ok pos ∧ d.modules[pos]? = some m := by
  unfold lookup
  cases hr : d.registry.lookup id with
  | error err => simp [bind, Except.bind]
  | ok pos =>
    cases hm : d.modules[pos]? <;>
      simp [hm, bind, Except.bind, pure, Except.pure, throw, throwThe, MonadExceptOf.throw]

theorem deliver_of_lookup_error {err : KernelError} (h : d.lookup e.module = .error err)
    (r : DispatchReport) : d.deliver e r = some (d.skip d.time.now e .skippedUnknownModule r) := by
  unfold lookup at h
  cases hr : d.registry.lookup e.module with
  | error => simp only [deliver, hr]
  | ok pos =>
    cases hm : d.modules[pos]? with
    | none => simp only [deliver, hr, hm]
    | some m => simp [hr, hm, bind, Except.bind, pure, Except.pure] at h

theorem deliver_of_too_large (h : d.lookup e.module = .ok m) (hl : m.buffer.maxPayload < e.argLen)
    (r : DispatchReport) : d.deliver e r = some (d.skip d.time.now e .skippedPayloadTooLarge r) := by
  obtain ⟨pos, hr, hm⟩ := lookup_eq_ok.1 h
  have hload : m.buffer.load e.service e.args = .error (.argumentTooLarge e.argLen m.buffer.maxPayload) :=
    (ServiceBuffer.load_eq_error_iff _ _ _).2 hl
  simp only [deliver, hr, hm, hload]

/-- an entry that fits is loaded into its module's buffer, and the module runs once on it,
taking the next callback time -/
theorem deliver_of_fits (h : d.lookup e.module = .ok m) (hl : e.argLen ≤ m.buffer.maxPayload)
    (r : DispatchReport) :
    ∃ pos buf, d.registry.lookup e.module = .ok pos ∧ d.modules[pos]? = some m ∧
      m.buffer.load e.service e.args = .ok buf ∧
      d.deliver e r = ((m.withBuffer buf).invoke d.time.now d.queue).map fun res =>
        ({ d with modules := d.modules.set pos res.1, queue := res.2,
                  metrics := (d.metrics.recordInvocation (d.timings.headD ⟨0, 0⟩)).2,
                  timings := d.timings.tail,
                  log := d.log.map (·.record (.ofEntry d.time.now e .invoked)) },
          { r with invoked := r.invoked + 1 }) := by
  obtain ⟨pos, hr, hm⟩ := lookup_eq_ok.1 h
  cases hload : m.buffer.load e.service e.args with
  | error err =>
    -- the load refuses only a payload longer than the capacity
    rw [ServiceBuffer.load, if_neg (show ¬m.buffer.maxPayload < e.args.length from Nat.not_lt.2 hl)] at hload
    cases hload
  | ok buf =>
    refine ⟨pos, buf, hr, hm, rfl, ?_⟩
    simp only [deliver, hr, hm, hload]
    rfl

/-- a dropped entry is counted as skipped and logged; the modules and the queue are as they
were -/
theorem skip_eq (now : Millis) (e : TaskEntry) (ev : DispatchEvent) (r : DispatchReport) :
    d.skip now e ev r =
      ({ d with metrics := d.metrics.recordSkip, log := d.log.map (·.record (.ofEntry now e ev)) },
        { r with skipped := r.skipped + 1 }) :=
  rfl

end Dispatcher

/-- **Every delivered entry goes where the registry says, and is accounted once.**  After any
history of registrations, an identifier out of range is refused, and one in range finds the
module most recently registered there, or none.  A new buffer takes what it was asked for, up
to an entry's capacity.  A delivery of an entry with no module, or with a payload its module's
buffer cannot take, counts one skip and logs one record of that kind, and changes neither the
modules (so no buffer) nor the queue.  Any other entry is loaded into the buffer of the
module found (its service, the length byte then the payload, the outcome the module last
wrote, the same capacity), the module is invoked once on it and may push onto the queue, and
unless the module panics one invocation, taking the next callback time, and one record are
counted. -/
theorem delivery_follows_registry {α : Type} (regs : List (Nat × α)) (id n : Nat) (d : Dispatcher)
    (e : TaskEntry) (r : DispatchReport) (he : e.argLen ≤ argCapacity) :
    (moduleSlots ≤ id →
      (({} : ModuleRegistry α).registerAll regs).lookup id = .error (.invalidModuleId id moduleSlots)) ∧
    (id < moduleSlots →
      (({} : ModuleRegistry α).registerAll regs).lookup id =
        match regs.reverse.lookup id with
        | some m => .ok m
        | none => .error (.moduleNotRegistered id)) ∧
    (ServiceBuffer.new n).maxPayload = min n argCapacity ∧
    (∀ err, d.lookup e.module = .error err →
      d.deliver e r =
        some ({ d with metrics := d.metrics.recordSkip,
                       log := d.log.map (·.record (.ofEntry d.time.now e .skippedUnknownModule)) },
          { r with skipped := r.skipped + 1 })) ∧
    (∀ m, d.lookup e.module = .ok m → m.buffer.maxPayload < e.argLen →
      d.deliver e r =
        some ({ d with metrics := d.metrics.recordSkip,
                       log := d.log.map (·.record (.ofEntry d.time.now e .skippedPayloadTooLarge)) },
          { r with skipped := r.skipped + 1 })) ∧
    (∀ m, d.lookup e.module = .ok m → e.argLen ≤ m.buffer.maxPayload →
      ∃ pos buf, d.registry.lookup e.module = .ok pos ∧ d.modules[pos]? = some m ∧
        buf.service = e.service ∧ buf.raw = UInt8.ofNat e.argLen :: e.args ∧
        buf.outcome = m.buffer.outcome ∧ buf.maxPayload = m.buffer.maxPayload ∧
        d.deliver e r = ((m.withBuffer buf).invoke d.time.now d.queue).map fun res =>
          ({ d with modules := d.modules.set pos res.1, queue := res.2,
                    metrics := (d.metrics.recordInvocation (d.timings.headD ⟨0, 0⟩)).2,
                    timings := d.timings.tail,
                    log := d.log.map (·.record (.ofEntry d.time.now e .invoked)) },
            { r with invoked := r.invoked + 1 })) := by
  refine ⟨ModuleRegistry.lookup_of_le _, ModuleRegistry.lookup_registerAll regs,
    ServiceBuffer.maxPayload_new n, fun err h => ?_, fun m h hl => ?_, fun m h hl => ?_⟩
  · rw [Dispatcher.deliver_of_lookup_error h, Dispatcher.skip_eq]
  · rw [Dispatcher.deliver_of_too_large h hl, Dispatcher.skip_eq]
  · obtain ⟨pos, buf, hr, hm, hload, hd⟩ := Dispatcher.deliver_of_fits h hl r
    -- an entry's payload fits its length byte
    have h256 : e.args.length < 256 := by
      simp only [TaskEntry.argLen, argCapacity] at he
      omega
    obtain ⟨hs, hraw, ho, hcap⟩ := ServiceBuffer.load_layout hload h256
    exact ⟨pos, buf, hr, hm, hs, hraw, ho, hcap, hd⟩

/-- three registrations, one of them out of range: slot 3 holds the last module put there,
and a delivery of an empty payload meets the length bound -/
theorem delivery_follows_registry_last_wins :
    (TaskEntry.scheduled 3 1 0).argLen ≤ argCapacity ∧
      (({} : ModuleRegistry String).registerAll [(3, "radio"), (12, "recorder"), (3, "engines")]).lookup 3 =
        .ok "engines" := by
  refine ⟨by decide, ?_⟩
  obtain ⟨-, hin, -⟩ := delivery_follows_registry [(3, "radio"), (12, "recorder"), (3, "engines")]
    3 8 default (TaskEntry.scheduled 3 1 0) {} (by decide)
  rw [hin (by decide)]
  rfl

end RoverKernel
