import RoverKernel.Proofs.Poll
import RoverKernel.Proofs.SpeedLoop

/-!
# Polls that cannot panic

The one panic a module raises is the engines' speed loop taking a tick difference that leaves
32 bits.  Engines whose counters differ from the values the speed loop last remembered by
amounts that fit 32 bits (`EngineState.Settled`) cannot raise it, and every request they serve
keeps them so: a command leaves the counters alone, a reboot clears them with the remembered
values, and a speed loop that runs remembers the counters.  Only encoder ticks, which no
delivery feeds, can unsettle them.  So a dispatcher whose engines are settled polls without a
panic and is settled after the poll, and that carries along every run of polls.

* `EngineState.speedLoop_settled`, `Engines.invoke_settled`   the engines return, settled;
* `Module.invoke_eq_none_iff`   a module panics exactly when it is the engines serving a speed
                                loop that overflows;
* `Dispatcher.deliver_settled`, `Dispatcher.drain_settled`, `Dispatcher.poll_settled`
                                a delivery, the loop and a poll of a settled dispatcher
                                return, settled.
-/

namespace RoverKernel

namespace EngineState

/-- the counters differ from the values the speed loop remembered by amounts that fit 32 bits,
so the speed loop cannot overflow -/
def Settled (s : EngineState) : Prop :=
  fitsI32 (s.counterLeft - s.lastLeft) = true ∧ fitsI32 (s.counterRight - s.lastRight) = true

theorem apply_settled {s : EngineState} (h : s.Settled) (c : MotorCommand) : (s.apply c).Settled :=
  h

theorem reboot_settled (s : EngineState) (now : Millis) : (s.reboot now).Settled :=
  ⟨rfl, rfl⟩

/-- **A settled speed loop returns, settled**: it either keeps the state or remembers the
counters, which leaves no difference at all -/
theorem speedLoop_settled {s : EngineState} (h : s.Settled) (g : WheelGeometry) (now : Millis) :
    ∃ s', s.speedLoop g now = some s' ∧ s'.Settled := by
  rcases hs : s.speedLoop g now with _ | s'
  · exact absurd h ((speedLoop_eq_none_iff s g now).mp hs).2.2
  · refine ⟨s', rfl, ?_⟩
    rcases speedLoop_eq_some hs with rfl | ⟨hll, hlr, hcl, hcr⟩
    · exact h
    · simp [Settled, hll, hlr, hcl, hcr, fitsI32]

end EngineState

/-- what a command's decoding leaves: a failure, or the state with the command applied -/
theorem Except.map_apply_settled {α : Type} {s s' : EngineState} (h : s.Settled)
    {x : Except EngineFault α} {f : α → MotorCommand}
    (hx : x.map (fun a => s.apply (f a)) = .ok s') : s'.Settled := by
  cases x with
  | error _ => cases hx
  | ok a =>
    cases hx
    exact EngineState.apply_settled h (f a)

/-- **Settled engines return, settled**, whatever request they serve -/
theorem Engines.invoke_settled {e : Engines} (h : e.state.Settled) (now : Millis) :
    ∃ e', e.invoke now = some e' ∧ e'.state.Settled := by
  -- every request but the speed loop returns, and the states it can leave are settled
  have hrun : ∃ o, e.run now = some o ∧ ∀ s, o = some (.ok s) → s.Settled := by
    unfold Engines.run
    split
    · exact ⟨_, rfl, fun s hs => Except.map_apply_settled h (Option.some.inj hs)⟩
    · exact ⟨_, rfl, fun s hs => Except.map_apply_settled h (Option.some.inj hs)⟩
    · exact ⟨_, rfl, fun s hs => Except.map_apply_settled h (Option.some.inj hs)⟩
    · -- a reboot with the wrong code, or no code, is ignored
      dsimp only
      split
      · split
        · exact ⟨_, rfl, fun s hs => by cases hs; exact EngineState.reboot_settled _ _⟩
        · exact ⟨_, rfl, fun s hs => nomatch hs⟩
      · exact ⟨_, rfl, fun s hs => nomatch hs⟩
    · obtain ⟨s', hs', hset⟩ := EngineState.speedLoop_settled h e.geometry now
      exact ⟨_, by rw [hs']; rfl, fun s hs => by cases hs; exact hset⟩
    · exact ⟨_, rfl, fun s hs => nomatch hs⟩
  obtain ⟨o, ho, hset⟩ := hrun
  refine ⟨_, by rw [Engines.invoke, ho]; rfl, ?_⟩
  rcases o with _ | _ | s
  · exact h
  · exact h
  · exact hset s rfl

/-- the engines fail to answer only for a speed loop that overflows -/
theorem Engines.run_eq_none_iff (e : Engines) (now : Millis) :
    e.run now = none ↔ e.buffer.service = 4 ∧ e.state.speedLoop e.geometry now = none := by
  unfold Engines.run
  -- every service but the speed loop answers, the reboot whatever its payload
  split
  · simp_all
  · simp_all
  · simp_all
  · dsimp only
    split
    · split <;> simp_all
    · simp_all
  · simp_all
  · simp_all

namespace Module

/-- a module that cannot panic: any module but engines whose speed loop could overflow -/
def Settled : Module → Prop
  | .engines e => e.state.Settled
  | _ => True

@[simp] theorem settled_withBuffer (m : Module) (b : ServiceBuffer) :
    (m.withBuffer b).Settled ↔ m.Settled := by
  cases m <;> exact Iff.rfl

/-- **A settled module returns, settled** -/
theorem invoke_settled {m : Module} (h : m.Settled) (now : Millis) (q : TaskQueue) :
    ∃ res, m.invoke now q = some res ∧ res.1.Settled := by
  cases m with
  | recorder r => exact ⟨_, invoke_recorder r now q, trivial⟩
  | radio r => exact ⟨_, invoke_radio r now q, trivial⟩
  | engines e =>
    obtain ⟨e', he', hset⟩ := Engines.invoke_settled h now
    exact ⟨(.engines e', q), by rw [invoke_engines, he']; rfl, hset⟩

/-- **The only panic**: a module panics exactly when it is the engines serving a speed loop
whose tick difference leaves 32 bits -/
theorem invoke_eq_none_iff (m : Module) (now : Millis) (q : TaskQueue) :
    m.invoke now q = none ↔
      ∃ e, m = .engines e ∧ e.buffer.service = 4 ∧ e.state.speedLoop e.geometry now = none := by
  cases m with
  | recorder r => simp [invoke_recorder]
  | radio r => simp [invoke_radio]
  | engines e =>
    rw [invoke_engines, Option.map_eq_none_iff, Engines.invoke, Option.map_eq_none_iff,
      Engines.run_eq_none_iff]
    simp

end Module

namespace Dispatcher

/-- every stored module is settled -/
def Settled (d : Dispatcher) : Prop := ∀ m ∈ d.modules, m.Settled

theorem takeDueHead_settled {d d' : Dispatcher} {e : Option TaskEntry} (h : d.Settled)
    (ht : d.takeDueHead = (e, d')) : d'.Settled := by
  rw [takeDueHead_eq, Prod.mk.injEq] at ht
  rw [← ht.2]
  exact h

/-- **A settled dispatcher delivers without a panic**, and stays settled -/
theorem deliver_settled {d : Dispatcher} (h : d.Settled) (e : TaskEntry) (r : DispatchReport) :
    ∃ d' r', d.deliver e r = some (d', r') ∧ d'.Settled := by
  rw [deliver_eq]
  cases hr : d.route e with
  | skip ev => exact ⟨_, _, rfl, h⟩
  | run pos m buf =>
    -- the module stored at `pos` is settled, runs, and is stored back settled
    obtain ⟨-, hm, -⟩ := route_run hr
    have hset : (m.withBuffer buf).Settled :=
      (Module.settled_withBuffer m buf).mpr (h m (List.mem_of_getElem? hm))
    obtain ⟨⟨m', q⟩, hinv, hm'⟩ := Module.invoke_settled hset d.time.now d.queue
    refine ⟨_, _, by dsimp only; rw [hinv]; rfl, fun x hx => ?_⟩
    rcases List.mem_or_eq_of_mem_set hx with hin | rfl
    · exact h x hin
    · exact hm'

theorem drain_settled {d : Dispatcher} (h : d.Settled) (fuel : Nat) (r : DispatchReport) :
    ∃ d' r', drain fuel d r = some (d', r') ∧ d'.Settled := by
  induction fuel generalizing d r with
  | zero => exact ⟨d, r, rfl, h⟩
  | succ fuel ih =>
    rcases ht : d.takeDueHead with ⟨_ | e, d₁⟩
    · exact ⟨d₁, r, drain_succ_none ht fuel r, takeDueHead_settled h ht⟩
    · -- the round delivers without a panic, and the rest of the rounds start settled
      obtain ⟨d₂, r₂, hdel, h₂⟩ := deliver_settled (takeDueHead_settled h ht) e r
      obtain ⟨d', r', hrest, h'⟩ := ih h₂ r₂
      exact ⟨d', r', by rw [drain_succ_some ht, hdel, Option.bind_some, hrest], h'⟩

/-- **A settled dispatcher polls without a panic**, and stays settled -/
theorem poll_settled {d : Dispatcher} (h : d.Settled) :
    ∃ d' r, d.poll = some (d', r) ∧ d'.Settled :=
  drain_settled (d := { d with metrics := d.metrics.recordPoll }) h _ {}

end Dispatcher

end RoverKernel
