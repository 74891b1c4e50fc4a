import DigitizerBlock.Configuration

/-!
# The capture state across the threads

`d_bstate`, the fetch state machine of rapid-block mode, is written by `work_rapid_block` only:
no setter, no other public method (`initialize`, `configure`, `arm`, `disarm`, `close`, `start`,
`stop`), no step of the poller and no driver callback touches it (`Sys.step_bstate`), so every
run of the other threads keeps it (`Sys.run_bstate`).

In particular `stop()` and `start()` do not end a capture sequence in progress. After any run
of the control thread, the poller and the driver from a state where a capture is being read, the
next `work()` call does not wait for a block-complete notification: it goes on reading the same
capture, from the waveform and offset where it stood (`capture_survives_restart`).
-/

set_option autoImplicit false

namespace DigitizerBlock

/-! ## Each method other than `work_rapid_block` keeps `d_bstate` -/

namespace Block

variable (b : Block)

@[simp] theorem bstate_recordError (ec : Option Errc) : (b.recordError ec).bstate = b.bstate := by
  cases ec <;> rfl

@[simp] theorem bstate_notifyDataReady (ec : Option Errc) :
    (b.notifyDataReady ec).bstate = b.bstate :=
  b.bstate_recordError ec

@[simp] theorem bstate_disarmEnd (ec : Option Errc) : (b.disarmEnd ec).bstate = b.bstate :=
  b.bstate_recordError ec

theorem bstate_initialise (ec : Option Errc) : (b.initialise ec).1.bstate = b.bstate := by
  unfold initialise
  split
  · rfl
  · split <;> rfl

theorem bstate_configure (ec : Option Errc) (actualRate : Option ℚ) :
    (b.configure ec actualRate).1.bstate = b.bstate := by
  obtain ⟨_, _, _, h, -⟩ := configure_writes ec actualRate b
  rw [h]

theorem bstate_arm (ec : Option Errc) : (b.arm ec).1.bstate = b.bstate := by
  obtain ⟨_, _, _, _, _, _, _, _, h⟩ := arm_writes ec b
  rw [h]

theorem bstate_of_arm {ec : Option Errc} {b' : Block} {r : Option Exception}
    (h : b.arm ec = (b', r)) : b'.bstate = b.bstate :=
  (congrArg (·.1.bstate) h).symm.trans (b.bstate_arm ec)

theorem bstate_startAfterConfigure (spawnOk : Bool) (ecArm : Option Errc) :
    (b.startAfterConfigure spawnOk ecArm).1.bstate = b.bstate := by
  unfold startAfterConfigure startPollThread
  dsimp only
  split <;> rename_i h <;> (repeat' split at h) <;> cases h
  all_goals first
    | rfl
    | split_ifs
      · split <;> rename_i h <;> exact (Block.bstate_of_arm _ h :)
      · rfl

theorem bstate_start (ecInit ecConf : Option Errc) (actualRate : Option ℚ) (spawnOk : Bool)
    (ecArm : Option Errc) :
    (b.start ecInit ecConf actualRate spawnOk ecArm).1.bstate = b.bstate := by
  have hi := b.bstate_initialise ecInit
  unfold start
  rcases hI : b.initialise ecInit with ⟨b₁, _ | ex⟩ <;> rw [hI] at hi <;> dsimp only at hi ⊢
  · have hc := b₁.bstate_configure ecConf actualRate
    rcases hC : b₁.configure ecConf actualRate with ⟨b₂, _ | ex⟩ <;> rw [hC] at hc <;> dsimp only at hc ⊢
    · exact ((b₂.bstate_startAfterConfigure spawnOk ecArm).trans hc).trans hi
    · exact hc.trans hi
  · exact hi

theorem bstate_disarmBegin {b' : Block} {w : Bool} (h : b.disarmBegin = some (b', w)) :
    b'.bstate = b.bstate := by
  unfold disarmBegin transitPollThreadToIdle at h
  split_ifs at h <;> cases h <;> rfl

theorem bstate_stopAfterDisarm : b.stopAfterDisarm.1.bstate = b.bstate := by
  unfold stopAfterDisarm stopPollThread
  split_ifs <;> rfl

theorem bstate_pollerStep (pollErr : Option Errc) (watchdog : Bool) :
    (b.pollerStep pollErr watchdog).bstate = b.bstate := by
  unfold pollerStep
  split <;> rfl

end Block

/-- No setter writes `d_bstate`. -/
theorem Setter.bstate_run (x : Setter) (b : Block) : (x.run b).1.bstate = b.bstate := by
  rw [x.run_eq_withSettings b]
  rfl

/-! ## Each step of the other threads keeps it -/

namespace Sys

theorem bstate_disarmCall (ec : Option Errc) (b : Block) :
    (disarmCall ec b).1.bstate = b.bstate := by
  unfold disarmCall
  split
  · exact b.bstate_disarmBegin ‹_›
  · exact (Block.bstate_disarmEnd _ ec).trans (b.bstate_disarmBegin ‹_›)
  · rfl

theorem bstate_stopRest (b : Block) : (stopRest b).1.bstate = b.bstate := by
  unfold stopRest
  split <;> rename_i h <;> exact (congrArg (·.1.bstate) h).symm.trans b.bstate_stopAfterDisarm

theorem bstate_stopBegin (ec : Option Errc) (b : Block) :
    (stopBegin ec b).1.bstate = b.bstate := by
  have hn := b.bstate_notifyDataReady (some .stopped)
  unfold stopBegin
  split_ifs
  · rfl
  · split <;> rename_i h
    · exact (Block.bstate_disarmBegin _ h).trans hn
    · exact (bstate_stopRest _).trans
        ((Block.bstate_disarmEnd _ ec).trans ((Block.bstate_disarmBegin _ h).trans hn))
    · exact (bstate_stopRest _).trans hn
  · exact bstate_stopRest b

/-- No public call of the control thread writes `d_bstate`. -/
theorem bstate_controlCall {b : Block} {e : Event} {r : Block × ControlPc}
    (h : controlCall b e = some r) : r.1.bstate = b.bstate := by
  cases e <;> simp only [controlCall, Option.some.injEq, reduceCtorEq] at h <;> subst h
  case setter x => exact x.bstate_run b
  case initialise ec => exact b.bstate_initialise ec
  case configure ec actualRate => exact b.bstate_configure ec actualRate
  case arm ec => exact b.bstate_arm ec
  case disarm ec => exact bstate_disarmCall ec b
  case close ec => exact b.bstate_recordError ec
  case start ecInit ecConf actualRate spawnOk ecArm =>
    exact b.bstate_start ecInit ecConf actualRate spawnOk ecArm
  case stop ec => exact bstate_stopBegin ec b

/-- Every step of the control thread, the poller and the driver keeps `d_bstate`. -/
theorem step_bstate {s t : Sys} {e : Event} (h : s.step e = some t)
    (he : e.thread ≠ .scheduler) : t.blk.bstate = s.blk.bstate := by
  cases e <;> simp only [Event.thread, ne_eq, not_true_eq_false] at he <;> simp only [step] at h
  case controlIdle ec =>
    split at h
    · split_ifs at h
      split at h <;> cases h
      · exact Block.bstate_disarmEnd _ ec
      · exact (bstate_stopRest _).trans (Block.bstate_disarmEnd _ ec)
    · cases h
  case controlExit | controlJoin =>
    split_ifs at h
    cases h
    rfl
  case poll pollErr watchdog =>
    split_ifs at h
    cases h
    exact s.blk.bstate_pollerStep pollErr watchdog
  case push c =>
    cases h
    rfl
  case blockReady ec =>
    cases h
    exact s.blk.bstate_notifyDataReady ec
  all_goals
    split_ifs at h
    obtain ⟨r, hr, rfl⟩ := Option.map_eq_some'.1 h
    exact bstate_controlCall hr

/-- Every run of the control thread, the poller and the driver keeps `d_bstate`. -/
theorem run_bstate : ∀ {s t : Sys} {es : List Event}, s.run es = some t →
    (∀ e ∈ es, e.thread ≠ .scheduler) → t.blk.bstate = s.blk.bstate
  | _, _, [], h, _ => by cases h; rfl
  | s, t, e :: es, h, he => by
    simp only [run, Option.bind_eq_some] at h
    obtain ⟨u, hu, hrun⟩ := h
    exact (run_bstate hrun fun e' he' => he e' (List.mem_cons_of_mem _ he')).trans
      (step_bstate hu (he e (List.mem_cons_self _ _)))

end Sys

/-! ## A capture survives a restart -/

/-- A reading call asks the driver for samples of the waveform the machine stands at. -/
theorem Block.rapidRead_waveform (b : Block) (n size : Nat) (ecPrefetch ecData : Option Errc)
    (status : List Nat) {rd : BlockRead}
    (h : (b.rapidRead n size ecPrefetch ecData status).2.read = some rd) :
    rd.waveform = b.bstate.waveformIdx := by
  unfold rapidRead readingPart1 readingTheRest at h
  split at h
  · dsimp only at h
    split at h
    · cases h
    · split at h <;> cases h <;> rfl
  · dsimp only at h
    split at h <;> cases h <;> rfl
  · cases h

/-- After any run of the control thread, the poller and the driver (a `stop()` and a `start()`
among them) from a state where a capture sequence is being read, the next `work()` call in
rapid-block mode does not wait for the driver's block-complete notification: it is a reading
call of `work_rapid_block` on the machine as it stood, and asks the driver for samples of the
same waveform. -/
theorem capture_survives_restart {s t : Sys} {es : List Event} (h : s.run es = some t)
    (he : ∀ e ∈ es, e.thread ≠ .scheduler) (hr : s.blk.bstate.state ≠ .waiting)
    (hm : t.blk.acquisitionMode = .rapidBlock) (hw : t.worker = .free) (env : RapidEnv)
    (n size : Nat) :
    t.blk.bstate = s.blk.bstate ∧
      t.step (.work env n size) =
        some (t.finishWork (t.blk.rapidRead n size env.ecPrefetch env.ecData env.status).1 size
          (t.blk.rapidRead n size env.ecPrefetch env.ecData env.status).2.ret
          (t.blk.rapidRead n size env.ecPrefetch env.ecData env.status).2.tags) ∧
      ∀ rd, (t.blk.rapidRead n size env.ecPrefetch env.ecData env.status).2.read = some rd →
        rd.waveform = s.blk.bstate.waveformIdx := by
  have hb := Sys.run_bstate h he
  refine ⟨hb, ?_, fun rd hrd => (t.blk.rapidRead_waveform n size _ _ _ hrd).trans (by rw [hb])⟩
  simp only [Sys.step, hw, hm, hb, ne_eq, not_true_eq_false, if_false, hr]

/-- A capture of four samples, of which the first `work()` read two, is read on after `stop()`
and `start()`: the next call asks for two samples of waveform 0 at offset 2. -/
theorem capture_survives_restart_half_read :
    let env : RapidEnv := ⟨none, none, none, none, none, [0]⟩
    let s := ((Sys.init (digitizerBlockImpl [⟨5, 0, true, true, 5⟩] [] 1 0 true)).run
      [.setter (.setRapidBlock 1), .setter (.setSamples 4 0), .start none none none true none,
        .work env 2 1, .blockReady none, .rdyWake, .rdyClear env 2 1]).getD
          (Sys.init (digitizerBlockImpl [] [] 0 0 false))
    let t := (s.run [.stop none, .start none none none true none]).getD s
    t.blk.bstate = s.blk.bstate ∧
      t.step (.work env 2 1) =
        some (t.finishWork (t.blk.rapidRead 2 1 env.ecPrefetch env.ecData env.status).1 1
          (t.blk.rapidRead 2 1 env.ecPrefetch env.ecData env.status).2.ret
          (t.blk.rapidRead 2 1 env.ecPrefetch env.ecData env.status).2.tags) ∧
      ∀ rd, (t.blk.rapidRead 2 1 env.ecPrefetch env.ecData env.status).2.read = some rd →
        rd.waveform = s.blk.bstate.waveformIdx := by
  intro env s t
  exact @capture_survives_restart s t [.stop none, .start none none none true none]
    ((Option.eq_some_of_isSome (by decide)).trans (congrArg some (Option.get_eq_getD _)))
    (by decide) (by decide) (by decide) (by decide) env 2 1

end DigitizerBlock
