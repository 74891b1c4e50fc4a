import DigitizerBlock.System

/-!
# Requests on the poller protocol

`d_poller_state` is a request slot. The control thread and the scheduler thread write requests
into it (`start_poll_thread`, `transit_poll_thread_to_running`, `transit_poll_thread_to_idle`,
`stop_poll_thread`); the poller thread reads it every tenth iteration and writes its
acknowledgements `IDLE` and `EXIT`. `PollerView` is the slot with the poller thread, `Request`
names the requesting writes, and `Moves ok v w` says that a sequence of requests allowed by `ok`
leads from `v` to `w`.

Each method of the block gets one lemma saying which requests it makes: none for the methods
that leave the protocol alone (`Block.view_setter`, `Block.view_workStreamData`, ...), and
`Block.arm_moves`, `Block.disarmBegin_spec`, `Block.start_moves`, ... for the others. A public
call's effect is summed up by where it leaves the control thread (`CallEffect`,
`Sys.controlCall_effect`), and each thread's steps get one lemma (`Sys.step_control`,
`Sys.step_scheduler`, `Sys.step_poller`, `Sys.step_driver`), which `Sys.step_view` collects.
The invariants of the protocol are proved from these alone (`DigitizerBlock.Protocol`).
-/

set_option autoImplicit false

namespace DigitizerBlock

/-! ## The request slot and its writers -/

/-- `d_poller_state` and the poller thread `d_poller`. -/
structure PollerView where
  shared : PollerState
  poller : Option Poller
  deriving DecidableEq, Repr

/-- The protocol's part of the block. -/
def Block.view (b : Block) : PollerView := ⟨b.pollerState, b.poller⟩

/-- A write of the control or the scheduler thread into the protocol's state. -/
inductive Request where
  /-- `start_poll_thread()`, with whether the thread could be created. -/
  | start (spawnOk : Bool)
  /-- `transit_poll_thread_to_running()`. -/
  | toRunning
  /-- The lock region of `transit_poll_thread_to_idle()`. -/
  | toIdle
  /-- The lock region of `stop_poll_thread()`. -/
  | toExit
  /-- The end of `d_poller.join()`. -/
  | join
  deriving DecidableEq, Repr

/-- What a request does to the view. -/
def Request.apply : Request → PollerView → PollerView
  | .start ok, v => if v.poller.isNone then ⟨.idle, if ok then some .fresh else none⟩ else v
  | .toRunning, v => ⟨.running, v.poller⟩
  | .toIdle, v => if v.shared = .exit then v else ⟨.pendIdle, v.poller⟩
  | .toExit, v => if v.poller.isNone then v else ⟨.pendExit, v.poller⟩
  | .join, v => ⟨v.shared, none⟩

/-- The requests of the scheduler thread: the `disarm()` and `arm()` of the watchdog and of the
rapid-block auto-arm. -/
def Request.OfScheduler (r : Request) : Prop := r = .toIdle ∨ r = .toRunning

/-- The requests a public call can make without waiting afterwards. -/
def Request.Returning (r : Request) : Prop := r = .toRunning ∨ ∃ ok, r = .start ok

/-- A sequence of requests allowed by `ok` leads from one view to the other. -/
def Moves (ok : Request → Prop) : PollerView → PollerView → Prop :=
  Relation.ReflTransGen fun v w => ∃ r, ok r ∧ w = r.apply v

namespace Moves

variable {ok : Request → Prop} {u v w : PollerView}

theorem of_eq (h : w = v) : Moves ok v w := h ▸ Relation.ReflTransGen.refl

theorem single (r : Request) (hr : ok r) (v : PollerView) : Moves ok v (r.apply v) :=
  Relation.ReflTransGen.single ⟨r, hr, rfl⟩

theorem trans (h₁ : Moves ok u v) (h₂ : Moves ok v w) : Moves ok u w :=
  Relation.ReflTransGen.trans h₁ h₂

theorem mono {ok' : Request → Prop} (hok : ∀ r, ok r → ok' r) (h : Moves ok v w) :
    Moves ok' v w :=
  Relation.ReflTransGen.mono (fun _ _ ⟨r, hr, e⟩ => ⟨r, hok r hr, e⟩) h

/-- A property that every allowed request keeps holds after any sequence of them. -/
theorem invariant {P : PollerView → Prop} (hP : ∀ r v, ok r → P v → P (r.apply v))
    (h : Moves ok v w) (hv : P v) : P w := by
  induction h with
  | refl => exact hv
  | tail _ hs ih =>
    obtain ⟨r, hr, rfl⟩ := hs
    exact hP r _ hr ih

end Moves

/-- Scheduler requests never touch the poller thread. -/
theorem Request.poller_apply {r : Request} (hr : r.OfScheduler) (v : PollerView) :
    (r.apply v).poller = v.poller := by
  rcases hr with rfl | rfl
  · show (if v.shared = .exit then v else ⟨.pendIdle, v.poller⟩).poller = v.poller
    split <;> rfl
  · rfl

theorem Moves.poller_of_scheduler {v w : PollerView} (h : Moves Request.OfScheduler v w) :
    w.poller = v.poller :=
  Moves.invariant (P := fun u => u.poller = v.poller)
    (fun _ _ hr hu => (Request.poller_apply hr _).trans hu) h rfl

/-! ## What each method writes -/

namespace Block

variable (b : Block)

/-! ### Methods that leave the protocol alone -/

@[simp] theorem view_recordError (ec : Option Errc) : (b.recordError ec).view = b.view := by
  cases ec <;> rfl

@[simp] theorem view_notifyDataReady (ec : Option Errc) : (b.notifyDataReady ec).view = b.view :=
  b.view_recordError ec

@[simp] theorem view_disarmEnd (ec : Option Errc) : (b.disarmEnd ec).view = b.view :=
  b.view_recordError ec

@[simp] theorem view_close (ec : Option Errc) : (b.close ec).view = b.view :=
  b.view_recordError ec

theorem view_initialise (ec : Option Errc) : (b.initialise ec).1.view = b.view := by
  unfold initialise
  split
  · rfl
  · split <;> rfl

theorem view_configure (ec : Option Errc) (actualRate : Option ℚ) :
    (b.configure ec actualRate).1.view = b.view := by
  obtain ⟨_, _, _, h, -⟩ := configure_writes ec actualRate b
  rw [h]
  rfl

theorem view_setter (x : Setter) : (x.run b).1.view = b.view := by
  rw [x.run_eq_withSettings b]
  rfl

theorem view_softwareTrigger {outputs : List OutputItem} {b' : Block} {offs : List Nat}
    (h : b.softwareTrigger outputs = .ok (b', offs)) : b'.view = b.view := by
  unfold softwareTrigger findAnalogTriggers findDigitalTriggers at h
  simp only [Except.map] at h
  (repeat' split at h) <;> cases h <;> rfl

theorem view_workStreamData {outputs outputs' : List OutputItem} {b' : Block} {tags : List Tag}
    (h : b.workStreamData outputs = .ok (b', outputs', tags)) : b'.view = b.view := by
  unfold workStreamData at h
  dsimp only at h
  split at h
  · cases h
  · split at h
    · cases h
    · cases h
      rw [view_softwareTrigger _ (by assumption)]
      split <;> rfl

theorem view_rapidAfterWait (ec : Option Errc) : (b.rapidAfterWait ec).1.view = b.view := by
  unfold rapidAfterWait
  split <;> rfl

theorem view_rapidRead (n size : Nat) (ecPrefetch ecData : Option Errc) (status : List Nat) :
    (b.rapidRead n size ecPrefetch ecData status).1.view = b.view := by
  unfold rapidRead readingPart1 readingTheRest
  split <;> (try split) <;> (try split) <;> rfl

/-! ### The requests -/

theorem view_startPollThread (ok : Bool) :
    (b.startPollThread ok).1.view = (Request.start ok).apply b.view := by
  unfold startPollThread Request.apply view
  cases hp : b.poller <;> cases ok <;> simp [hp]

theorem view_transitPollThreadToRunning :
    b.transitPollThreadToRunning.view = Request.toRunning.apply b.view := rfl

theorem view_joinPoller : b.joinPoller.view = Request.join.apply b.view := rfl

/-- `disarm()` up to its wait: it writes `PEND_IDLE` exactly when it then waits, and that
happens only on a slot that does not read `EXIT`. -/
theorem disarmBegin_spec {b' : Block} {w : Bool} (h : b.disarmBegin = some (b', w)) :
    (w = true ∧ b.pollerState ≠ .exit ∧ b'.view = ⟨.pendIdle, b.poller⟩) ∨
      (w = false ∧ b'.view = b.view) := by
  unfold disarmBegin transitPollThreadToIdle at h
  split_ifs at h <;> cases h
  · exact .inr ⟨rfl, rfl⟩
  · exact .inl ⟨rfl, by assumption, rfl⟩
  · exact .inr ⟨rfl, rfl⟩

/-- `stop_poll_thread()` up to its wait: it writes `PEND_EXIT` exactly when it then waits, and
that happens only with a joinable poller. -/
theorem stopAfterDisarm_spec {b' : Block} {w : Bool} (h : b.stopAfterDisarm = (b', w)) :
    (w = true ∧ b.poller.isNone = false ∧ b'.view = ⟨.pendExit, b.poller⟩) ∨
      (w = false ∧ b'.view = b.view) := by
  unfold stopAfterDisarm stopPollThread at h
  split_ifs at h with hs hp <;> cases h
  · exact .inr ⟨rfl, rfl⟩
  · exact .inl ⟨rfl, Bool.eq_false_iff.mpr hp, rfl⟩
  · exact .inr ⟨rfl, rfl⟩

theorem disarmBegin_moves {b' : Block} {w : Bool} (h : b.disarmBegin = some (b', w)) :
    Moves (Eq .toIdle) b.view b'.view := by
  rcases b.disarmBegin_spec h with ⟨-, hx, hv⟩ | ⟨-, hv⟩
  · have e : Request.toIdle.apply b.view = b'.view := by rw [hv]; exact if_neg hx
    exact e ▸ Moves.single .toIdle rfl _
  · exact Moves.of_eq hv

theorem arm_moves (ec : Option Errc) : Moves (Eq .toRunning) b.view (b.arm ec).1.view := by
  unfold arm armSucceeded
  split
  · exact Moves.of_eq rfl
  · split
    · exact Moves.of_eq rfl
    · dsimp only
      split
      · exact Moves.single .toRunning rfl _
      · exact Moves.of_eq rfl

theorem rapidDisarm_moves (ec : Option Errc) :
    Moves (Eq .toIdle) b.view (b.rapidDisarm ec).view := by
  unfold rapidDisarm
  split
  · rename_i h
    rw [view_disarmEnd]
    exact b.disarmBegin_moves h
  · exact Moves.of_eq rfl

theorem rapidBeforeWait_moves (ecDisarm ecArm : Option Errc) :
    Moves Request.OfScheduler b.view (b.rapidBeforeWait ecDisarm ecArm).1.view := by
  have h := ((b.rapidDisarm_moves ecDisarm).mono fun _ hr => Or.inl hr.symm).trans
    (((b.rapidDisarm ecDisarm).arm_moves ecArm).mono fun _ hr => Or.inr hr.symm)
  unfold rapidBeforeWait
  split_ifs
  · exact Moves.of_eq rfl
  · split <;> rename_i heq <;> rw [heq] at h <;> exact h
  · exact Moves.of_eq rfl

theorem startPollThread_moves {c : Prop} [Decidable c] (spawnOk : Bool) {b₀ b₁ : Block}
    {r : Option Exception} (hv : b₀.view = b.view)
    (h : (if c then b₀.startPollThread spawnOk else (b₀, none)) = (b₁, r)) :
    Moves Request.Returning b.view b₁.view := by
  have e := congrArg (fun p => p.1.view) h
  dsimp only at e
  split_ifs at e
  · rw [← e, view_startPollThread, hv]
    exact Moves.single _ (.inr ⟨spawnOk, rfl⟩) _
  · exact Moves.of_eq (e.symm.trans hv)

theorem startAfterConfigure_moves (spawnOk : Bool) (ecArm : Option Errc) :
    Moves Request.Returning b.view (b.startAfterConfigure spawnOk ecArm).1.view := by
  unfold startAfterConfigure
  dsimp only
  split
  · rename_i h
    have h₁ := b.startPollThread_moves spawnOk (by rfl) h
    exact h₁
  · rename_i b₁ h
    have h₁ := b.startPollThread_moves spawnOk (by rfl) h
    split_ifs
    · have h₂ : Moves Request.Returning b₁.view (b₁.arm ecArm).1.view :=
        (b₁.arm_moves ecArm).mono fun _ hr => Or.inl hr.symm
      split <;> rename_i heq <;> rw [heq] at h₂ <;> exact h₁.trans h₂
    · exact h₁

theorem start_moves (ecInit ecConf : Option Errc) (actualRate : Option ℚ) (spawnOk : Bool)
    (ecArm : Option Errc) :
    Moves Request.Returning b.view (b.start ecInit ecConf actualRate spawnOk ecArm).1.view := by
  have hi := b.view_initialise ecInit
  unfold start
  split
  · rename_i h₁
    rw [h₁] at hi
    exact Moves.of_eq hi
  · rename_i b₁ h₁
    rw [h₁] at hi
    have hc := b₁.view_configure ecConf actualRate
    split
    · rename_i h₂
      rw [h₂] at hc
      exact Moves.of_eq (hc.trans hi)
    · rename_i b₂ h₂
      rw [h₂] at hc
      exact (hc.trans hi) ▸ b₂.startAfterConfigure_moves spawnOk ecArm

end Block

/-! ## What each step writes -/

/-- The one step of the poller on the view. -/
def PollerView.pollStep (v : PollerView) : PollerView :=
  match v.poller with
  | none => v
  | some p => ⟨(p.step v.shared).2, some (p.step v.shared).1⟩

theorem Block.view_pollerStep (b : Block) (pollErr : Option Errc) (watchdog : Bool) :
    (b.pollerStep pollErr watchdog).view = b.view.pollStep := by
  unfold Block.pollerStep PollerView.pollStep Block.view
  dsimp only
  cases h : b.poller <;> simp [h]

/-- What a public call leaves in the protocol's state, by where it leaves the control thread:
returning, it made only `start` and `to_running` requests; waiting for `IDLE`, it wrote
`PEND_IDLE` over a slot that did not read `EXIT`; waiting for `EXIT`, it wrote `PEND_EXIT`
with a joinable poller. -/
def CallEffect (v w : PollerView) : ControlPc → Prop
  | .free => Moves Request.Returning v w
  | .waitIdle _ => v.shared ≠ .exit ∧ w = ⟨.pendIdle, v.poller⟩
  | .waitExit => v.poller.isNone = false ∧ w = ⟨.pendExit, v.poller⟩
  | .join => False

/-- Each effect is a sequence of requests. -/
theorem CallEffect.moves {v w : PollerView} {c : ControlPc} (h : CallEffect v w c) :
    Moves (fun _ => True) v w := by
  cases c with
  | free => exact h.mono fun _ _ => trivial
  | waitIdle k =>
    obtain ⟨hx, rfl⟩ := h
    exact (if_neg hx : Request.toIdle.apply v = _) ▸ Moves.single .toIdle trivial v
  | waitExit =>
    obtain ⟨hp, rfl⟩ := h
    exact (if_neg (by simp [hp]) : Request.toExit.apply v = _) ▸ Moves.single .toExit trivial v
  | join => exact h.elim

namespace Sys

variable (s : Sys)

theorem stopRest_effect (b : Block) : CallEffect b.view (stopRest b).1.view (stopRest b).2 := by
  unfold stopRest
  split <;> rename_i h <;> rcases b.stopAfterDisarm_spec h with ⟨hw, hp, hv⟩ | ⟨hw, hv⟩ <;>
    cases hw
  · exact ⟨hp, hv⟩
  · exact Moves.of_eq hv

theorem disarmCall_effect (ec : Option Errc) (b : Block) :
    CallEffect b.view (disarmCall ec b).1.view (disarmCall ec b).2 := by
  unfold disarmCall
  split
  · rename_i h
    rcases b.disarmBegin_spec h with ⟨-, hx, hv⟩ | ⟨hw, -⟩
    · exact ⟨hx, hv⟩
    · cases hw
  · rename_i h
    rcases b.disarmBegin_spec h with ⟨hw, -⟩ | ⟨-, hv⟩
    · cases hw
    · exact Moves.of_eq ((Block.view_disarmEnd _ ec).trans hv)
  · exact Moves.of_eq rfl

theorem stopBegin_effect (ec : Option Errc) (b : Block) :
    CallEffect b.view (stopBegin ec b).1.view (stopBegin ec b).2 := by
  unfold stopBegin
  split_ifs
  · exact Moves.of_eq rfl
  · split
    · rename_i h
      rcases Block.disarmBegin_spec _ h with ⟨-, hx, hv⟩ | ⟨hw, -⟩
      · exact ⟨hx, hv⟩
      · cases hw
    · rename_i b₁ h
      rcases Block.disarmBegin_spec _ h with ⟨hw, -⟩ | ⟨-, hv⟩
      · cases hw
      · have := stopRest_effect (b₁.disarmEnd ec)
        rwa [Block.view_disarmEnd, hv, Block.view_notifyDataReady] at this
    · have := stopRest_effect (b.notifyDataReady (some .stopped))
      rwa [Block.view_notifyDataReady] at this
  · exact stopRest_effect b

theorem controlCall_effect {b : Block} {e : Event} {r : Block × ControlPc}
    (h : controlCall b e = some r) : CallEffect b.view r.1.view r.2 := by
  cases e <;> simp only [controlCall, Option.some.injEq, reduceCtorEq] at h <;> subst h
  case setter x => exact Moves.of_eq (b.view_setter x)
  case initialise ec => exact Moves.of_eq (b.view_initialise ec)
  case configure ec actualRate => exact Moves.of_eq (b.view_configure ec actualRate)
  case arm ec => exact (b.arm_moves ec).mono fun _ hr => .inl hr.symm
  case disarm ec => exact disarmCall_effect ec b
  case close ec => exact Moves.of_eq (b.view_close ec)
  case start ecInit ecConf actualRate spawnOk ecArm =>
    exact b.start_moves ecInit ecConf actualRate spawnOk ecArm
  case stop ec => exact stopBegin_effect ec b

/-! ### The four threads -/

theorem finishWork_control (b : Block) (size : Nat) (ret : Int) (tags : List Tag) :
    (s.finishWork b size ret tags).control = s.control := rfl

theorem view_finishWork (b : Block) (size : Nat) (ret : Int) (tags : List Tag) :
    (s.finishWork b size ret tags).blk.view = b.view := by
  unfold finishWork
  dsimp only
  split <;> rfl

/-- `work_stream` after its wait: the watchdog's `disarm()` is its only request. -/
theorem streamAfterWait_spec (ec : Option Errc) (outputs : List OutputItem)
    (ecDisarm : Option Errc) :
    (s.streamAfterWait ec outputs ecDisarm).control = s.control ∧
      Moves Request.OfScheduler s.blk.view (s.streamAfterWait ec outputs ecDisarm).blk.view := by
  have hv := s.blk.view_recordError ec
  unfold streamAfterWait
  dsimp only
  split
  · exact ⟨s.finishWork_control .., Moves.of_eq ((s.view_finishWork ..).trans hv)⟩
  · split <;> refine ⟨rfl, ?_⟩
    · rename_i h
      exact hv ▸ (Block.disarmBegin_moves _ h).mono fun _ hr => .inl hr.symm
    · rename_i b' h
      exact hv ▸ (b'.view_disarmEnd ecDisarm).symm ▸
        (Block.disarmBegin_moves _ h).mono fun _ hr => .inl hr.symm
    · exact Moves.of_eq hv
  · exact ⟨s.finishWork_control .., Moves.of_eq ((s.view_finishWork ..).trans hv)⟩
  · split
    · exact ⟨rfl, Moves.of_eq hv⟩
    · rename_i h
      exact ⟨s.finishWork_control .., Moves.of_eq ((s.view_finishWork ..).trans
        ((Block.view_workStreamData _ h).trans hv))⟩

/-- A step of the scheduler thread leaves the control thread where it is and makes only
scheduler requests. -/
theorem step_scheduler {e : Event} {s' : Sys} (h : s.step e = some s')
    (he : e.thread = .scheduler) :
    s'.control = s.control ∧ Moves Request.OfScheduler s.blk.view s'.blk.view := by
  cases e <;> simp only [Event.thread, reduceCtorEq] at he <;> simp only [step] at h
  case work env n size =>
    split_ifs at h
    · split at h
      · cases h
        exact ⟨rfl, Moves.of_eq rfl⟩
      · have hm := s.blk.rapidBeforeWait_moves env.ecDisarm env.ecArm
        split at h <;> cases h <;> rename_i heq <;> rw [heq] at hm
        · exact ⟨rfl, by rw [view_finishWork]; exact hm⟩
        · exact ⟨rfl, hm⟩
    · split at h <;> cases h
      · exact ⟨rfl, Moves.of_eq rfl⟩
      · exact ⟨rfl, Moves.of_eq ((s.view_finishWork ..).trans (s.blk.view_rapidRead ..))⟩
  case appWake outputs ecDisarm =>
    split_ifs at h
    obtain ⟨ec, -, rfl⟩ := Option.map_eq_some'.mp h
    exact s.streamAfterWait_spec ec outputs ecDisarm
  case workerIdle ec =>
    split_ifs at h
    cases h
    exact ⟨rfl, Moves.of_eq (s.blk.view_disarmEnd ec)⟩
  case workerArm size ec =>
    split_ifs at h
    have hm : Moves Request.OfScheduler s.blk.view (s.blk.arm ec).1.view :=
      (s.blk.arm_moves ec).mono fun _ hr => .inr hr.symm
    split at h <;> cases h <;> rename_i heq <;> rw [heq] at hm
    · exact ⟨rfl, hm⟩
    · exact ⟨rfl, by rw [view_finishWork]; exact hm⟩
  case rdyWake =>
    split_ifs at h
    cases h
    exact ⟨rfl, Moves.of_eq rfl⟩
  case rdyClear env n size =>
    split at h
    · rename_i ec _
      have hv := s.blk.view_rapidAfterWait ec
      split at h <;> cases h <;> rename_i heq <;> rw [heq] at hv
      · exact ⟨rfl, Moves.of_eq ((s.view_finishWork ..).trans hv)⟩
      · exact ⟨rfl, Moves.of_eq ((s.view_finishWork ..).trans ((Block.view_rapidRead ..).trans hv))⟩
    · cases h

/-- A driver callback touches neither the control thread nor the protocol. -/
theorem step_driver {e : Event} {s' : Sys} (h : s.step e = some s') (he : e.thread = .driver) :
    s'.control = s.control ∧ s'.blk.view = s.blk.view := by
  cases e <;> simp only [Event.thread, reduceCtorEq] at he <;>
    simp only [step, Option.some.injEq] at h <;> subst h
  · exact ⟨rfl, rfl⟩
  · exact ⟨rfl, s.blk.view_notifyDataReady _⟩

/-- A step of the poller is taken by a live poller and is `PollerView.pollStep` on the view. -/
theorem step_poller {e : Event} {s' : Sys} (h : s.step e = some s') (he : e.thread = .poller) :
    s'.control = s.control ∧ s.blk.pollerAlive = true ∧ s'.blk.view = s.blk.view.pollStep := by
  cases e <;> simp only [Event.thread, reduceCtorEq] at he
  simp only [step] at h
  split_ifs at h with ha
  cases h
  exact ⟨rfl, ha, Block.view_pollerStep ..⟩

/-- A public call starts from a free control thread. -/
theorem step_call {e : Event} {s' : Sys}
    (h : (if s.control = .free then
      (controlCall s.blk e).map fun r => { s with blk := r.1, control := r.2 } else none) =
        some s') :
    s.control = .free ∧ CallEffect s.blk.view s'.blk.view s'.control := by
  split_ifs at h with hc
  obtain ⟨r, hr, rfl⟩ := Option.map_eq_some'.mp h
  exact ⟨hc, controlCall_effect hr⟩

/-- The steps of the control thread: a public call from `free`; the return of
`transit_poll_thread_to_idle()` on `IDLE`, followed by the rest of `disarm()` or `stop()`; the
end of the wait for `EXIT`; and the join of a poller that has returned. -/
theorem step_control {e : Event} {s' : Sys} (h : s.step e = some s')
    (he : e.thread = .control) :
    (s.control = .free ∧ CallEffect s.blk.view s'.blk.view s'.control) ∨
      (∃ k, s.control = .waitIdle k ∧ s.blk.pollerState = .idle ∧
        CallEffect s.blk.view s'.blk.view s'.control) ∨
      (s.control = .waitExit ∧ s'.control = .join ∧ s'.blk.view = s.blk.view) ∨
      (s.control = .join ∧ s.blk.pollerAlive = false ∧ s'.control = .free ∧
        s'.blk.view = Request.join.apply s.blk.view) := by
  cases e <;> simp only [Event.thread, reduceCtorEq] at he <;> simp only [step] at h
  case controlIdle ec =>
    split at h
    · rename_i k hk
      split_ifs at h with hi
      refine .inr (.inl ⟨k, hk, hi, ?_⟩)
      cases k <;> simp only [Option.some.injEq] at h <;> subst h
      · exact Moves.of_eq (s.blk.view_disarmEnd ec)
      · have := stopRest_effect (s.blk.disarmEnd ec)
        rwa [Block.view_disarmEnd] at this
    · cases h
  case controlExit =>
    split_ifs at h with hc
    cases h
    exact .inr (.inr (.inl ⟨hc, rfl, rfl⟩))
  case controlJoin =>
    split_ifs at h with hc
    cases h
    exact .inr (.inr (.inr ⟨hc.1, hc.2, rfl, rfl⟩))
  all_goals exact .inl (s.step_call h)

/-- Every step is a step of the poller or a sequence of requests. -/
theorem step_view {e : Event} {s' : Sys} (h : s.step e = some s') :
    (s.blk.pollerAlive = true ∧ s'.blk.view = s.blk.view.pollStep) ∨
      Moves (fun _ => True) s.blk.view s'.blk.view := by
  cases ht : e.thread
  · rcases s.step_control h ht with ⟨-, hc⟩ | ⟨_, -, -, hc⟩ | ⟨-, -, hv⟩ | ⟨-, -, -, hv⟩
    · exact .inr hc.moves
    · exact .inr hc.moves
    · exact .inr (Moves.of_eq hv)
    · exact .inr (hv ▸ Moves.single .join trivial _)
  · exact .inr ((s.step_scheduler h ht).2.mono fun _ _ => trivial)
  · exact .inl (s.step_poller h ht).2
  · exact .inr (Moves.of_eq (s.step_driver h ht).2)

end Sys

end DigitizerBlock
