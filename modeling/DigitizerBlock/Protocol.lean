import DigitizerBlock.Requests

/-!
# The poller protocol

Three results on the request slot `d_poller_state`, each derived from what the threads' steps
can write (`DigitizerBlock.Requests`):

* `Coherent` holds in every reachable state (`Reachable.coherent`): a live poller never has
  `RUNNING` cached while the slot reads `IDLE`. Hence at each step in which a call of
  `transit_poll_thread_to_idle` returns (`IdleReturn`), the poller is not polling, and it does
  not poll until `RUNNING` is written again (`Reachable.not_polling_until_running`,
  `no_poll_until_running`).
* `Handshake` holds as long as no step of the scheduler thread changes the slot
  (`requests_kept_without_scheduler_writes`): the poller acknowledges only the request it finds,
  and every pending request has its requester waiting for the answer. A watchdog re-arm by the
  scheduler breaks it (`watchdog_rearm_overwrites_pendExit`).
* A `disarm()` that waits for `IDLE` with no poller thread waits forever (`Stuck`,
  `disarm_without_poller_waits_forever`).
-/

set_option autoImplicit false

namespace DigitizerBlock

/-! ## The cached state: no polling after `IDLE` -/

/-- The poller, if there is one, agrees with the slot. -/
def Coherent (v : PollerView) : Prop := ∀ p, v.poller = some p → p.Coherent v.shared

/-- No live poller has `RUNNING` cached. -/
def Quiet (v : PollerView) : Prop := ∀ p, v.poller = some p → p.pc ≠ .exited → p.state ≠ .running

section Views

variable {v : PollerView}

theorem Coherent.apply (r : Request) (h : Coherent v) : Coherent (r.apply v) := by
  cases r with
  | start ok =>
    dsimp only [Request.apply]
    split_ifs
    · rintro _ ⟨⟩
      exact Poller.fresh_coherent
    · rintro _ ⟨⟩
    · exact h
  | toRunning => exact fun p hp => (h p hp).request nofun nofun
  | toIdle =>
    dsimp only [Request.apply]
    split_ifs
    · exact h
    · exact fun p hp => (h p hp).request nofun nofun
  | toExit =>
    dsimp only [Request.apply]
    split_ifs
    · exact h
    · exact fun p hp => (h p hp).request nofun nofun
  | join => exact fun _ hp => nomatch hp

theorem Coherent.pollStep (h : Coherent v) : Coherent v.pollStep := by
  obtain ⟨sh, _ | p⟩ := v
  · exact h
  · rintro _ ⟨⟩
    exact (h p rfl).step

theorem Quiet.apply (r : Request) (h : Quiet v) : Quiet (r.apply v) := by
  cases r with
  | start ok =>
    dsimp only [Request.apply]
    split_ifs
    · rintro _ ⟨⟩ _
      exact nofun
    · rintro _ ⟨⟩
    · exact h
  | toRunning => exact h
  | toIdle => dsimp only [Request.apply]; split_ifs <;> exact h
  | toExit => dsimp only [Request.apply]; split_ifs <;> exact h
  | join => exact fun _ hp => nomatch hp

/-- The poller stays quiet as long as the slot does not read `RUNNING` after its step. -/
theorem Quiet.pollStep (hc : Coherent v) (hq : Quiet v) (hr : v.pollStep.shared ≠ .running) :
    Quiet v.pollStep := by
  obtain ⟨sh, _ | p⟩ := v
  · exact hq
  · rintro _ ⟨⟩
    exact Poller.step_quiet (hc p rfl) (hq p rfl) hr

/-- A quiet poller is not polling. -/
theorem Quiet.not_polling (hc : Coherent v) (hq : Quiet v) {p : Poller} (hp : v.poller = some p) :
    p.pc ≠ .polling := fun hpc =>
  hq p hp (by rw [hpc]; exact nofun) ((hc p hp).polling_running hpc)

end Views

namespace Sys

variable {s s' : Sys} {e : Event}

theorem coherent_step (h : s.step e = some s') (hc : Coherent s.blk.view) :
    Coherent s'.blk.view := by
  rcases s.step_view h with ⟨-, hv⟩ | hm
  · exact hv ▸ hc.pollStep
  · exact hm.invariant (fun r _ _ => Coherent.apply r) hc

theorem quiet_step (h : s.step e = some s') (hr : s'.blk.pollerState ≠ .running)
    (hc : Coherent s.blk.view) (hq : Quiet s.blk.view) : Quiet s'.blk.view := by
  rcases s.step_view h with ⟨-, hv⟩ | hm
  · have hr' : s'.blk.view.shared ≠ .running := hr
    rw [hv] at hr' ⊢
    exact hq.pollStep hc hr'
  · exact hm.invariant (fun r _ _ => Quiet.apply r) hq

end Sys

/-- In every reachable state a live poller does not have `RUNNING` cached while the slot reads
`IDLE`, and the slot reads `EXIT` only without a live poller. -/
theorem Reachable.coherent {s : Sys} (hs : Reachable s) : Coherent s.blk.view := by
  obtain ⟨_, _, _, _, _, h⟩ := hs
  exact h.preserve (fun _ _ _ hstep _ hu => Sys.coherent_step hstep hu) (fun _ hp => nomatch hp)

/-- From a reachable state in which a call of `transit_poll_thread_to_idle()` can have
returned (the slot reads `IDLE`, or `EXIT`, on which the call returns at once), along every
continuation in which no step leaves `RUNNING` in the slot, the poller is never polling. -/
theorem Reachable.not_polling_until_running {s t : Sys} (hs : Reachable s)
    (hret : s.blk.pollerState = .idle ∨ s.blk.pollerState = .exit)
    (h : Steps (fun _ _ v => v.blk.pollerState ≠ .running) s t) : t.blk.pollerPolling = false := by
  have hc := hs.coherent
  have hq : Quiet s.blk.view := fun p hp hx => by
    rcases hret with hi | he
    · exact (hc p hp).idle_not_running hx hi
    · exact absurd ((hc p hp).exit_exited he) hx
  obtain ⟨hct, hqt⟩ := h.preserve (P := fun u => Coherent u.blk.view ∧ Quiet u.blk.view)
    (fun _ _ _ hstep hr hu => ⟨Sys.coherent_step hstep hu.1, Sys.quiet_step hstep hr hu.1 hu.2⟩)
    ⟨hc, hq⟩
  unfold Block.pollerPolling
  split
  · rename_i p hp
    simpa using hqt.not_polling hct hp
  · rfl

/-- The steps in which a call of `transit_poll_thread_to_idle()` returns: the wait of
`disarm()`, of the `disarm()` in `stop()` or of the watchdog's `disarm()` in `work_stream` sees
`IDLE`; or such a call finds `EXIT` in the slot and returns at once. -/
inductive IdleReturn : Sys → Event → Prop where
  | controlIdle {s : Sys} {k : AfterIdle} (ec : Option Errc) :
      s.control = .waitIdle k → s.blk.pollerState = .idle → IdleReturn s (.controlIdle ec)
  | workerIdle {s : Sys} (ec : Option Errc) :
      s.worker = .waitIdle → s.blk.pollerState = .idle → IdleReturn s (.workerIdle ec)
  | disarmExit {s : Sys} (ec : Option Errc) :
      s.control = .free → s.blk.armed = true → s.blk.acquisitionMode = .streaming →
        s.blk.pollerState = .exit → IdleReturn s (.disarm ec)
  | stopExit {s : Sys} (ec : Option Errc) :
      s.control = .free → s.blk.initialized = true → s.blk.armed = true →
        s.blk.acquisitionMode = .streaming → s.blk.pollerState = .exit → IdleReturn s (.stop ec)
  | watchdogExit {s : Sys} (outputs : List OutputItem) (ecDisarm : Option Errc) :
      s.worker = .waitApp → Sys.appReady s.blk.appBuffer = some (some .watchdog) →
        s.blk.armed = true → s.blk.acquisitionMode = .streaming → s.blk.pollerState = .exit →
        IdleReturn s (.appWake outputs ecDisarm)

theorem pollerState_disarmEnd (b : Block) (ec : Option Errc) :
    (b.disarmEnd ec).pollerState = b.pollerState :=
  congrArg PollerView.shared (b.view_disarmEnd ec)

/-- The rest of `stop()` writes `PEND_EXIT` or nothing. -/
theorem stopRest_pollerState (b : Block) :
    (Sys.stopRest b).1.pollerState = b.pollerState ∨ (Sys.stopRest b).1.pollerState = .pendExit := by
  unfold Sys.stopRest
  split <;> rename_i h <;> rcases b.stopAfterDisarm_spec h with ⟨-, -, hv⟩ | ⟨-, hv⟩ <;>
    have hs := congrArg PollerView.shared hv
  all_goals first | exact .inr hs | exact .inl hs

namespace IdleReturn

variable {s s' : Sys} {e : Event}

/-- A call returns from `IDLE` or from `EXIT`. -/
theorem slot (h : IdleReturn s e) : s.blk.pollerState = .idle ∨ s.blk.pollerState = .exit := by
  cases h <;> simp_all

/-- The step in which the call returns, and the rest of its caller's segment, write no
`RUNNING`. -/
theorem step_not_running (h : IdleReturn s e) (hs : s.step e = some s') :
    s'.blk.pollerState ≠ .running := by
  cases h with
  | controlIdle ec hc hi =>
    simp only [Sys.step, hc, hi, if_true] at hs
    split at hs <;> cases hs <;> dsimp only
    · rw [pollerState_disarmEnd, hi]
      exact nofun
    · rcases stopRest_pollerState (s.blk.disarmEnd ec) with h | h <;> rw [h]
      · rw [pollerState_disarmEnd, hi]
        exact nofun
      · exact nofun
  | workerIdle ec hw hi =>
    simp only [Sys.step, hw, hi, and_self, if_true, Option.some.injEq] at hs
    subst hs
    rw [pollerState_disarmEnd, hi]
    exact nofun
  | disarmExit ec hc ha hm hx =>
    simp only [Sys.step, hc, if_true, Sys.controlCall, Option.map_some', Option.some.injEq] at hs
    subst hs
    simp [Sys.disarmCall, Block.disarmBegin, Block.transitPollThreadToIdle, Block.disarmEnd,
      Block.recordError_eq, ha, hm, hx]
  | stopExit ec hc hi ha hm hx =>
    simp only [Sys.step, hc, if_true, Sys.controlCall, Option.map_some', Option.some.injEq] at hs
    subst hs
    simp only [Sys.stopBegin, hi, ha, Bool.not_true, Bool.false_eq_true, if_true, if_false,
      Block.notifyDataReady, Block.disarmBegin, Block.transitPollThreadToIdle,
      Block.recordError_eq, hm, hx]
    rcases stopRest_pollerState (Block.disarmEnd ec _) with h | h <;> rw [h]
    · simp [pollerState_disarmEnd, hx]
    · exact nofun
  | watchdogExit outputs ecDisarm hw happ ha hm hx =>
    simp only [Sys.step, hw, if_true, happ, Option.map_some', Option.some.injEq] at hs
    subst hs
    simp [Sys.streamAfterWait, Block.disarmBegin, Block.transitPollThreadToIdle,
      Block.disarmEnd, Block.recordError_eq, ha, hm, hx]

end IdleReturn

/-- In every reachable state a live poller does not have `RUNNING` cached while the slot reads
`IDLE`. Hence whenever a call of `transit_poll_thread_to_idle()` returns, the poller is not
polling, neither before nor after the step of the return, and it does not poll along any
continuation in which no step leaves `RUNNING` in the slot: the `driver_disarm()` that follows
the return does not overlap `driver_poll()` unless a `transit_poll_thread_to_running()` runs. -/
theorem no_poll_until_running :
    (∀ s, Reachable s → ∀ p, s.blk.poller = some p → p.pc ≠ .exited →
      s.blk.pollerState = .idle → p.state ≠ .running) ∧
    ∀ s e s' t, Reachable s → IdleReturn s e → s.step e = some s' →
      Steps (fun _ _ v => v.blk.pollerState ≠ .running) s' t →
      s.blk.pollerPolling = false ∧ s'.blk.pollerPolling = false ∧ t.blk.pollerPolling = false := by
  refine ⟨fun _ hs p hp hx hi => (hs.coherent p hp).idle_not_running hx hi,
    fun s e s' t hs hret hstep h => ?_⟩
  have hok := hret.step_not_running hstep
  exact ⟨hs.not_polling_until_running hret.slot (.refl s),
    hs.not_polling_until_running hret.slot (.tail (.refl s) hstep hok),
    hs.not_polling_until_running hret.slot (Steps.head hstep hok h)⟩

/-- A streaming block after `start()` and `arm()`: the poller reads `RUNNING` and polls. Then
`disarm()` writes `PEND_IDLE` and waits; thirty poller steps later the poller reads the request
and answers `IDLE`, and the wait returns. The poller is not polling at the return, nor over its
next three steps. -/
theorem no_poll_until_running_after_disarm :
    ∃ u s s' t, (Sys.init (digitizerBlockImpl [] [] 0 0 false)).run
        [.start none none none true none, .arm none, .poll none false, .poll none false] = some u ∧
      u.blk.pollerPolling = true ∧
      u.run (.disarm none :: .poll none false ::
        (List.replicate 9 [.poll none false, .poll none false, .poll none false]).flatten ++
          [.poll none false, .poll none false]) = some s ∧
      Reachable s ∧ IdleReturn s (.controlIdle none) ∧ s.step (.controlIdle none) = some s' ∧
      s'.run [.poll none false, .poll none false, .poll none false] = some t ∧
      Steps (fun _ _ v => v.blk.pollerState ≠ .running) s' t ∧
      s.blk.pollerPolling = false ∧ s'.blk.pollerPolling = false ∧ t.blk.pollerPolling = false := by
  let u := ((Sys.init (digitizerBlockImpl [] [] 0 0 false)).run
    [.start none none none true none, .arm none, .poll none false, .poll none false]).get (by decide)
  let s := (u.run (.disarm none :: .poll none false ::
    (List.replicate 9 [.poll none false, .poll none false, .poll none false]).flatten ++
      [.poll none false, .poll none false])).get (by decide)
  let s' := (s.step (.controlIdle none)).get (by decide)
  let t := (s'.run [.poll none false, .poll none false, .poll none false]).get (by decide)
  have hu := Option.eq_some_of_isSome (o := (Sys.init (digitizerBlockImpl [] [] 0 0 false)).run
    [.start none none none true none, .arm none, .poll none false, .poll none false]) (by decide)
  have hs := Option.eq_some_of_isSome (o := u.run (.disarm none :: .poll none false ::
    (List.replicate 9 [.poll none false, .poll none false, .poll none false]).flatten ++
      [.poll none false, .poll none false])) (by decide)
  have hs' := Option.eq_some_of_isSome (o := s.step (.controlIdle none)) (by decide)
  have ht := Option.eq_some_of_isSome
    (o := s'.run [.poll none false, .poll none false, .poll none false]) (by decide)
  have hreach : Reachable s := ⟨[], [], 0, 0, false, (Sys.run_steps hu).trans (Sys.run_steps hs)⟩
  have hidle : IdleReturn s (.controlIdle none) := .controlIdle (k := .disarm) none (by decide) (by decide)
  have hsteps : Steps (fun _ _ v => v.blk.pollerState ≠ .running) s' t :=
    Sys.steps_of_runChecks ht (by decide)
  exact ⟨u, s, s', t, hu, by decide, hs, hreach, hidle, hs', ht, hsteps,
    no_poll_until_running.2 s _ s' t hreach hidle hs' hsteps⟩

/-! ## The handshake: every request is answered -/

/-- The values of the slot that go with each position of the control thread: no pending
request while it runs, its own request or the answer while it waits. -/
def Expects : ControlPc → PollerState → Prop
  | .free, sh => sh ≠ .pendIdle ∧ sh ≠ .pendExit
  | .waitIdle _, sh => sh = .pendIdle ∨ sh = .idle
  | .waitExit, sh | .join, sh => sh = .pendExit ∨ sh = .exit

/-- A pending `PEND_IDLE` has its requester waiting for `IDLE`. -/
theorem Expects.pendIdle {c : ControlPc} (h : Expects c .pendIdle) : ∃ k, c = .waitIdle k := by
  cases c <;> simp_all [Expects]

/-- A pending `PEND_EXIT` has `stop()` waiting for `EXIT` or in the join. -/
theorem Expects.pendExit {c : ControlPc} (h : Expects c .pendExit) :
    c = .waitExit ∨ c = .join := by
  cases c <;> simp_all [Expects]

/-- While `stop()` waits for the poller, the slot holds `PEND_EXIT` or its answer. -/
theorem Expects.stopping {c : ControlPc} {sh : PollerState} (h : Expects c sh)
    (hc : c = .waitExit ∨ c = .join) : sh = .pendExit ∨ sh = .exit := by
  rcases hc with rfl | rfl <;> exact h

/-- The control thread and the poller agree on the request in the slot: the slot holds what
the control thread expects, `stop()` waits only for a joinable poller, a request cached by the
poller is the one in the slot, and a poller that has returned has answered `stop()`, which is
still waiting. -/
structure Handshake (c : ControlPc) (v : PollerView) : Prop where
  expects : Expects c v.shared
  joinable : c = .waitExit ∨ c = .join → v.poller.isNone = false
  acks : ∀ p, v.poller = some p → p.Acks v.shared
  exited : ∀ p, v.poller = some p → p.pc = .exited → v.shared = .exit ∧ (c = .waitExit ∨ c = .join)

/-- No request pending, in the slot or in the poller's cache, and no returned poller: what a
public call starts from. -/
structure Calm (v : PollerView) : Prop where
  not_pendIdle : v.shared ≠ .pendIdle
  not_pendExit : v.shared ≠ .pendExit
  poller : ∀ p, v.poller = some p → p.state ≠ .pendIdle ∧ p.state ≠ .pendExit ∧ p.pc ≠ .exited

section Handshake

variable {c : ControlPc} {v w : PollerView}

theorem Calm.apply {r : Request} (hr : r.Returning) (h : Calm v) : Calm (r.apply v) := by
  rcases hr with rfl | ⟨ok, rfl⟩
  · exact ⟨nofun, nofun, h.poller⟩
  · dsimp only [Request.apply]
    split_ifs
    · exact ⟨nofun, nofun, by rintro _ ⟨⟩; exact ⟨nofun, nofun, nofun⟩⟩
    · exact ⟨nofun, nofun, by rintro _ ⟨⟩⟩
    · exact h

/-- With no request cached and no returned poller, the handshake is the control thread's
expectation. -/
theorem Handshake.of_poller (hp : ∀ p, w.poller = some p →
      p.state ≠ .pendIdle ∧ p.state ≠ .pendExit ∧ p.pc ≠ .exited)
    (he : Expects c w.shared) (hj : c = .waitExit ∨ c = .join → w.poller.isNone = false) :
    Handshake c w :=
  ⟨he, hj, fun p h => ⟨fun hs => absurd hs (hp p h).1, fun hs => absurd hs (hp p h).2.1⟩,
    fun p h hx => absurd hx (hp p h).2.2⟩

/-- What the handshake says about a state without a pending request. -/
theorem Handshake.calm (h : Handshake c v) (hi : v.shared ≠ .pendIdle) (hx : v.shared ≠ .pendExit)
    (hc : c ≠ .waitExit ∧ c ≠ .join) : Calm v :=
  ⟨hi, hx, fun p hp => ⟨fun hs => hi ((h.acks p hp).pendIdle hs).2,
    fun hs => hx ((h.acks p hp).pendExit hs).2,
    fun hpc => (h.exited p hp hpc).2.elim hc.1 hc.2⟩⟩

/-- A public call, made from a calm state, leaves the handshake in place. -/
theorem Calm.call (h : Calm v) (he : CallEffect v w c) : Handshake c w := by
  cases c with
  | free =>
    have hw := Moves.invariant (fun _ _ hr hu => Calm.apply hr hu) he h
    exact .of_poller hw.poller ⟨hw.not_pendIdle, hw.not_pendExit⟩ (by rintro (h | h) <;> cases h)
  | waitIdle k =>
    obtain ⟨-, rfl⟩ := he
    exact .of_poller h.poller (.inl rfl) (by rintro (h | h) <;> cases h)
  | waitExit =>
    obtain ⟨hj, rfl⟩ := he
    exact .of_poller h.poller (.inl rfl) fun _ => hj
  | join => exact he.elim

/-- The handshake does not tell the wait for `EXIT` from the join after it. -/
theorem Handshake.join (h : Handshake .waitExit v) : Handshake .join v :=
  ⟨h.expects, fun _ => h.joinable (.inl rfl), h.acks,
    fun p hp hpc => ⟨(h.exited p hp hpc).1, .inr rfl⟩⟩

/-- Joining a returned poller leaves the slot at `EXIT` with no poller. -/
theorem Handshake.joined (h : Handshake .join v) (hd : ∀ p, v.poller = some p → p.pc = .exited) :
    Handshake .free (Request.join.apply v) := by
  have hs : v.shared = .exit := by
    cases hp : v.poller with
    | none =>
      have := h.joinable (.inr rfl)
      simp [hp] at this
    | some p => exact (h.exited p hp (hd p hp)).1
  exact .of_poller (fun _ hp => nomatch hp) (by simp [Expects, Request.apply, hs]) (by rintro (h | h) <;> cases h)

/-- A step of the poller keeps the handshake: it answers only the request it cached, which is
the one in the slot. -/
theorem Handshake.pollStep (h : Handshake c v) : Handshake c v.pollStep := by
  obtain ⟨sh, _ | p⟩ := v
  · exact h
  show Handshake c ⟨(p.step sh).2, some (p.step sh).1⟩
  have ha := h.acks p rfl
  have hacks : ∀ q, some (p.step sh).1 = some q → q.Acks (p.step sh).2 := by
    rintro _ ⟨⟩
    exact ha.step
  rcases Poller.step_shared p sh with hs | ⟨hb, hst, hs⟩ | ⟨-, hst, hs⟩
  · -- no write: a poller that returns in this step would write `EXIT`
    refine ⟨by rw [hs]; exact h.expects, fun _ => rfl, hacks, ?_⟩
    rintro _ ⟨⟩ hx
    rcases Poller.step_exited p sh hx with ⟨hpc, -⟩ | ⟨-, hst, hx⟩
    · rw [hs]
      exact h.exited p rfl hpc
    · exact absurd ((ha.pendExit hst).2.symm.trans (hs.symm.trans hx)) nofun
  · -- `IDLE` over the `PEND_IDLE` the control thread waits for
    have hsh := (ha.pendIdle hst).2
    obtain ⟨k, rfl⟩ := (hsh ▸ h.expects : Expects c .pendIdle).pendIdle
    refine ⟨.inr hs, fun _ => rfl, hacks, ?_⟩
    rintro _ ⟨⟩ hx
    rcases Poller.step_exited p sh hx with ⟨hpc, -⟩ | ⟨-, hst', -⟩
    · exact absurd (hb.symm.trans hpc) nofun
    · exact absurd (hst.symm.trans hst') nofun
  · -- `EXIT` over the `PEND_EXIT` that `stop()` waits for
    have hsh := (ha.pendExit hst).2
    have hc := (hsh ▸ h.expects : Expects c .pendExit).pendExit
    exact ⟨by rcases hc with rfl | rfl <;> exact .inr hs, fun _ => rfl, hacks,
      fun _ _ _ => ⟨hs, hc⟩⟩

end Handshake

theorem Block.exited_of_not_alive {b : Block} (h : b.pollerAlive = false) :
    ∀ p, b.poller = some p → p.pc = .exited := by
  intro p hp
  unfold Block.pollerAlive at h
  rw [hp] at h
  simpa using h

/-- A step keeps the handshake, provided a step of the scheduler thread leaves the slot as it
was. -/
theorem Sys.handshake_step {s s' : Sys} {e : Event} (h : s.step e = some s')
    (hq : e.thread = .scheduler → s'.blk.pollerState = s.blk.pollerState)
    (hh : Handshake s.control s.blk.view) : Handshake s'.control s'.blk.view := by
  cases ht : e.thread
  · rcases s.step_control h ht with ⟨hc, he⟩ | ⟨k, hc, hi, he⟩ | ⟨hc, hc', hv⟩ | ⟨hc, ha, hc', hv⟩
    · rw [hc] at hh
      exact (hh.calm hh.expects.1 hh.expects.2 ⟨nofun, nofun⟩).call he
    · rw [hc] at hh
      have hi' : s.blk.view.shared = .idle := hi
      exact (hh.calm (by rw [hi']; exact nofun) (by rw [hi']; exact nofun) ⟨nofun, nofun⟩).call he
    · rw [hc', hv]
      rw [hc] at hh
      exact hh.join
    · rw [hc', hv]
      rw [hc] at hh
      exact hh.joined (Block.exited_of_not_alive ha)
  · obtain ⟨hc, hm⟩ := s.step_scheduler h ht
    have hv : s'.blk.view = s.blk.view := by
      show PollerView.mk _ _ = PollerView.mk _ _
      rw [hq ht]
      exact congrArg _ hm.poller_of_scheduler
    rw [hc, hv]
    exact hh
  · obtain ⟨hc, -, hv⟩ := s.step_poller h ht
    rw [hc, hv]
    exact hh.pollStep
  · obtain ⟨hc, hv⟩ := s.step_driver h ht
    rw [hc, hv]
    exact hh

/-- Over every interleaving in which no step of the scheduler thread changes
`d_poller_state` (the control thread, the poller and the driver's callbacks run freely): the
poller writes the slot only to answer the request in it, `IDLE` over `PEND_IDLE` and `EXIT`
over `PEND_EXIT`; a pending request has its requester waiting for the answer; and while
`stop()` waits for the poller or joins it, the slot holds `PEND_EXIT` or `EXIT`. -/
theorem requests_kept_without_scheduler_writes {channels : List ChannelSetting}
    {ports : List PortSetting} {ai_channels di_ports : Nat} {auto_arm : Bool} {s : Sys}
    (h : Steps (fun u e v => e.thread = .scheduler → v.blk.pollerState = u.blk.pollerState)
      (Sys.init (digitizerBlockImpl channels ports ai_channels di_ports auto_arm)) s) :
    (∀ pollErr watchdog s', s.step (.poll pollErr watchdog) = some s' →
      s'.blk.pollerState = s.blk.pollerState ∨
        (s.blk.pollerState = .pendIdle ∧ s'.blk.pollerState = .idle) ∨
        (s.blk.pollerState = .pendExit ∧ s'.blk.pollerState = .exit)) ∧
    (s.blk.pollerState = .pendIdle → ∃ k, s.control = .waitIdle k) ∧
    (s.blk.pollerState = .pendExit → s.control = .waitExit ∨ s.control = .join) ∧
    (s.control = .waitExit ∨ s.control = .join →
      s.blk.pollerState = .pendExit ∨ s.blk.pollerState = .exit) := by
  have hh : Handshake s.control s.blk.view :=
    h.preserve (fun _ _ _ hstep hq hu => Sys.handshake_step hstep hq hu)
      ⟨⟨nofun, nofun⟩, nofun, nofun, nofun⟩
  have he : Expects s.control s.blk.pollerState := hh.expects
  refine ⟨fun pollErr watchdog s' hs => ?_, fun hp => (hp ▸ he).pendIdle,
    fun hp => (hp ▸ he).pendExit, he.stopping⟩
  obtain ⟨-, ha, hv⟩ := s.step_poller hs rfl
  have hsh : s'.blk.pollerState = s.blk.view.pollStep.shared := congrArg PollerView.shared hv
  cases hp : s.blk.poller with
  | none => simp [Block.pollerAlive, hp] at ha
  | some p =>
    have hsh : s'.blk.pollerState = (p.step s.blk.pollerState).2 := by
      rw [hsh]
      simp [PollerView.pollStep, Block.view, hp]
    have hack := hh.acks p hp
    rcases Poller.step_shared p s.blk.pollerState with h₁ | ⟨-, hst, h₁⟩ | ⟨-, hst, h₁⟩
    · exact .inl (hsh.trans h₁)
    · exact .inr (.inl ⟨(hack.pendIdle hst).2, hsh.trans h₁⟩)
    · exact .inr (.inr ⟨(hack.pendExit hst).2, hsh.trans h₁⟩)

/-- `start()` and `stop()` on a streaming block with auto-arm, with the scheduler's watchdog
between them: the poller polls and posts
`Watchdog`, `work_stream` wakes and its `disarm()` writes `PEND_IDLE`, which the poller
answers on its next read; `stop()` then finds the block disarmed and writes `PEND_EXIT`, and
the scheduler's `arm()` writes `RUNNING` over it. `stop()` waits for an `EXIT` that the poller,
which now polls again, does not write. -/
theorem watchdog_rearm_overwrites_pendExit :
    let es : List Event :=
      [.start none none none true none, .poll none true, .poll none true, .poll none true,
        .work ⟨none, none, none, none, none, []⟩ 1 2,
        .appWake [.floats [0], .floats [0]] none] ++
      (List.replicate 9 [.poll none false, .poll none false, .poll none false]).flatten ++
      [.poll none false, .poll none false, .workerIdle none, .stop none]
    ((Sys.init (digitizerBlockImpl [⟨5, 0, true, true, 5⟩] [] 1 0 true)).run es).map
        (fun s => (s.control, s.blk.pollerState)) = some (.waitExit, .pendExit) ∧
      ((Sys.init (digitizerBlockImpl [⟨5, 0, true, true, 5⟩] [] 1 0 true)).run
        (es ++ [.workerArm 2 none])).map
        (fun s => (s.control, s.blk.pollerState, s.blk.pollerAlive)) =
        some (.waitExit, .running, true) := by
  decide

/-! ## A `disarm()` that no poller answers -/

/-- The control thread waits for `IDLE` in `transit_poll_thread_to_idle()`, there is no poller
thread, and the slot does not read `IDLE`. -/
def Stuck (k : AfterIdle) (s : Sys) : Prop :=
  s.control = .waitIdle k ∧ s.blk.poller = none ∧ s.blk.pollerState ≠ .idle

/-- The scheduler's requests neither create a poller nor write `IDLE`. -/
theorem Request.apply_no_idle {r : Request} (hr : r.OfScheduler) {v : PollerView}
    (hv : v.poller = none ∧ v.shared ≠ .idle) :
    (r.apply v).poller = none ∧ (r.apply v).shared ≠ .idle := by
  rcases hr with rfl | rfl
  · dsimp only [Request.apply]
    split_ifs
    · exact hv
    · exact ⟨hv.1, nofun⟩
  · exact ⟨hv.1, nofun⟩

/-- No step ends the wait: the control thread, which alone could start a poller, is the one
waiting, there is no poller to step, and the scheduler's requests never write `IDLE`. -/
theorem Stuck.step {k : AfterIdle} {s s' : Sys} {e : Event} (hs : Stuck k s)
    (h : s.step e = some s') : Stuck k s' := by
  obtain ⟨hc, hp, hi⟩ := hs
  cases ht : e.thread
  · rcases s.step_control h ht with ⟨hc', -⟩ | ⟨_, -, hi', -⟩ | ⟨hc', -⟩ | ⟨hc', -⟩
    · exact absurd (hc.symm.trans hc') nofun
    · exact absurd hi' hi
    · exact absurd (hc.symm.trans hc') nofun
    · exact absurd (hc.symm.trans hc') nofun
  · obtain ⟨hc', hm⟩ := s.step_scheduler h ht
    have hv := hm.invariant (P := fun v => v.poller = none ∧ v.shared ≠ .idle)
      (fun _ _ hr hu => Request.apply_no_idle hr hu) ⟨hp, hi⟩
    exact ⟨hc'.trans hc, hv⟩
  · obtain ⟨-, ha, -⟩ := s.step_poller h ht
    simp [Block.pollerAlive, hp] at ha
  · obtain ⟨hc', hv⟩ := s.step_driver h ht
    have hv' : s'.blk.view = ⟨s.blk.pollerState, s.blk.poller⟩ := hv
    simp only [Block.view, PollerView.mk.injEq] at hv'
    exact ⟨hc'.trans hc, hv'.2.trans hp, hv'.1 ▸ hi⟩

/-- A streaming block that is initialised, configured and armed without `start()`: `arm()`
writes `RUNNING` although no poller thread was started, so `disarm()` writes `PEND_IDLE` and
waits for an `IDLE` that nothing writes. Whatever the threads and the driver do next, the
control thread stays in `transit_poll_thread_to_idle()` and no poller is alive. -/
theorem disarm_without_poller_waits_forever :
    ∃ s, (Sys.init (digitizerBlockImpl [] [] 0 0 false)).run
        [.initialise none, .configure none none, .arm none, .disarm none] = some s ∧
      ∀ t, Steps (fun _ _ _ => True) s t →
        t.control = .waitIdle .disarm ∧ t.blk.pollerAlive = false := by
  have h : (Sys.init (digitizerBlockImpl [] [] 0 0 false)).run
      [.initialise none, .configure none none, .arm none, .disarm none] = some _ := rfl
  refine ⟨_, h, fun t ht => ?_⟩
  have hs : Stuck .disarm t := ht.preserve (fun _ _ _ hstep _ hu => hu.step hstep) ⟨rfl, rfl, nofun⟩
  exact ⟨hs.1, by simp [Block.pollerAlive, hs.2.1]⟩

end DigitizerBlock
