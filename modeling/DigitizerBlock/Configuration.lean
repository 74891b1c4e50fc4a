import DigitizerBlock.System

/-!
# The configuration

The members that the setters write (the rates, the sizes, the acquisition and downsampling
modes, the channel, port and trigger settings, auto-arm and trigger-once), with the channel and
port counts the constructor fixes, are the block's configuration. Besides the setters only
`configure()` writes one of them: the actual sample rate that `driver_configure()` sets, on an
initialised, disarmed block (`Block.RateWrite`). `initialize`, `arm`, `disarm`, `start` apart
from its `configure()`, `stop`, both `work` paths and the poller only write the runtime members.
So every step of the thread model that is not a setter call keeps the configuration up to that
rate (`Sys.step_configuration`).

What the setters keep of the configuration therefore holds in every state of every interleaving
of the threads in which the driver sets positive rates. For the downsampling factor and the
sample rate (`Block.RateInvariant`) this gives `rates_of_reachable`: the divisors of the
downsampling helpers and of the timebase are never zero while `work()` runs, and the timebase on
the tags is the spec's `downsampling_factor / actual_sample_rate`.

A setter's effect on the configuration depends on the configuration only
(`Setter.run_configuration_congr`), and no setter reads `d_armed`. So over a run in which the
block stays armed the configuration is what the run's setter calls make of it
(`configuration_while_armed`): the setters are not locked while armed
(`setter_applies_while_armed`).
-/

set_option autoImplicit false

namespace DigitizerBlock

/-- The members only the setters write, with the channel and port counts the constructor fixes:
the block's configuration. -/
structure Configuration where
  sampRate : ℚ
  actualSampRate : ℚ
  samples : Nat
  preSamples : Nat
  nrCaptures : Nat
  bufferSize : Nat
  outputMultiple : Nat
  nrBuffers : Nat
  driverBufferSize : Nat
  acquisitionMode : AcquisitionMode
  pollRate : ℚ
  downsamplingMode : DownsamplingMode
  downsamplingFactor : Nat
  aiChannels : Nat
  ports : Nat
  channelSettings : List ChannelSetting
  portSettings : List PortSetting
  triggerSettings : TriggerSetting
  autoArm : Bool
  triggerOnce : Bool

namespace Block

/-- The configuration of a block. -/
def configuration (b : Block) : Configuration :=
  ⟨b.sampRate, b.actualSampRate, b.samples, b.preSamples, b.nrCaptures, b.bufferSize,
    b.outputMultiple, b.nrBuffers, b.driverBufferSize, b.acquisitionMode, b.pollRate,
    b.downsamplingMode, b.downsamplingFactor, b.aiChannels, b.ports, b.channelSettings,
    b.portSettings, b.triggerSettings, b.autoArm, b.triggerOnce⟩

/-- The rate invariant reads the configuration only. -/
theorem RateInvariant.of_configuration {b b' : Block} (h : b'.configuration = b.configuration)
    (hb : b.RateInvariant) : b'.RateInvariant := by
  have hm : b'.downsamplingMode = b.downsamplingMode := congrArg Configuration.downsamplingMode h
  have hf : b'.downsamplingFactor = b.downsamplingFactor :=
    congrArg Configuration.downsamplingFactor h
  have hr : b'.actualSampRate = b.actualSampRate := congrArg Configuration.actualSampRate h
  constructor
  · rw [hm, hf]; exact hb.1
  · rw [hm, hf]; exact hb.2
  · rw [hr]; exact hb.3

/-! ## Each method keeps the configuration -/

variable (b : Block)

@[simp] theorem configuration_recordError (ec : Option Errc) :
    (b.recordError ec).configuration = b.configuration := by
  cases ec <;> rfl

@[simp] theorem configuration_notifyDataReady (ec : Option Errc) :
    (b.notifyDataReady ec).configuration = b.configuration :=
  b.configuration_recordError ec

@[simp] theorem configuration_disarmEnd (ec : Option Errc) :
    (b.disarmEnd ec).configuration = b.configuration :=
  b.configuration_recordError ec

theorem configuration_initialise (ec : Option Errc) :
    (b.initialise ec).1.configuration = b.configuration := by
  unfold initialise
  split
  · rfl
  · split <;> rfl

/-- `b'` has the configuration of `b`, or, when `b` is disarmed, that configuration with the rate
`rate` that `driver_configure()` set as the actual sample rate. -/
def RateWrite (rate : Option ℚ) (b b' : Block) : Prop :=
  b'.configuration = b.configuration ∨
    ∃ r, rate = some r ∧ b.armed = false ∧
      b'.configuration = { b.configuration with actualSampRate := r }

/-- A rate write before and after steps that keep the configuration and `d_armed`. -/
theorem RateWrite.congr {rate : Option ℚ} {b₀ b₁ b₂ b₃ : Block} (h : RateWrite rate b₁ b₂)
    (h₁ : b₁.configuration = b₀.configuration) (ha : b₁.armed = b₀.armed)
    (h₃ : b₃.configuration = b₂.configuration) : RateWrite rate b₀ b₃ := by
  rcases h with h | ⟨r, hr, hb, h⟩
  · exact .inl (h₃.trans (h.trans h₁))
  · exact .inr ⟨r, hr, ha ▸ hb, by rw [h₃, h, h₁]⟩

/-- `configure()` writes the rate `driver_configure()` sets, and no other setting. -/
theorem configuration_configure (ec : Option Errc) (actualRate : Option ℚ) :
    RateWrite actualRate b (b.configure ec actualRate).1 := by
  obtain ⟨rate, _, _, h, hr⟩ := configure_writes ec actualRate b
  rw [h]
  rcases hr with rfl | ⟨-, ha, hr⟩
  · exact .inl rfl
  · exact .inr ⟨rate, hr, ha, rfl⟩

theorem configuration_arm (ec : Option Errc) : (b.arm ec).1.configuration = b.configuration := by
  obtain ⟨_, _, _, _, _, _, _, _, h⟩ := arm_writes ec b
  rw [h]
  rfl

/-- The block an `arm()` leaves, whether or not it throws. -/
theorem configuration_of_arm {ec : Option Errc} {b' : Block} {r : Option Exception}
    (h : b.arm ec = (b', r)) : b'.configuration = b.configuration :=
  (congrArg (·.1.configuration) h).symm.trans (b.configuration_arm ec)

theorem configuration_startAfterConfigure (spawnOk : Bool) (ecArm : Option Errc) :
    (b.startAfterConfigure spawnOk ecArm).1.configuration = b.configuration := by
  unfold startAfterConfigure startPollThread
  dsimp only
  split <;> rename_i h <;> (repeat' split at h) <;> cases h
  all_goals first
    | rfl
    | split_ifs
      · split <;> rename_i h <;> exact (Block.configuration_of_arm _ h).trans rfl
      · rfl

theorem configuration_start (ecInit ecConf : Option Errc) (actualRate : Option ℚ)
    (spawnOk : Bool) (ecArm : Option Errc) :
    RateWrite actualRate b (b.start ecInit ecConf actualRate spawnOk ecArm).1 := by
  obtain ⟨_, hi⟩ := initialise_writes ecInit b
  unfold start
  rcases hI : b.initialise ecInit with ⟨b₁, _ | ex⟩ <;> rw [hI] at hi <;> dsimp only at hi ⊢
  · have h₁ : b₁.configuration = b.configuration := by rw [hi]; rfl
    have ha : b₁.armed = b.armed := by rw [hi]
    have hc := b₁.configuration_configure ecConf actualRate
    rcases hC : b₁.configure ecConf actualRate with ⟨b₂, _ | ex⟩ <;> rw [hC] at hc <;>
      dsimp only
    · exact hc.congr h₁ ha (b₂.configuration_startAfterConfigure spawnOk ecArm)
    · exact hc.congr h₁ ha rfl
  · exact .inl (by rw [hi]; rfl)

theorem configuration_disarmBegin {b' : Block} {w : Bool} (h : b.disarmBegin = some (b', w)) :
    b'.configuration = b.configuration := by
  unfold disarmBegin transitPollThreadToIdle at h
  split_ifs at h <;> cases h <;> rfl

theorem configuration_stopAfterDisarm : b.stopAfterDisarm.1.configuration = b.configuration := by
  unfold stopAfterDisarm stopPollThread
  split_ifs <;> rfl

theorem configuration_softwareTrigger {outputs : List OutputItem} {b' : Block} {offs : List Nat}
    (h : b.softwareTrigger outputs = .ok (b', offs)) : b'.configuration = b.configuration := by
  unfold softwareTrigger findAnalogTriggers findDigitalTriggers at h
  simp only [Except.map] at h
  (repeat' split at h) <;> cases h <;> rfl

theorem configuration_workStreamData {outputs outputs' : List OutputItem} {b' : Block}
    {tags : List Tag} (h : b.workStreamData outputs = .ok (b', outputs', tags)) :
    b'.configuration = b.configuration := by
  unfold workStreamData at h
  dsimp only at h
  split at h
  · cases h
  · split at h
    · cases h
    next _ _ _ hst =>
      cases h
      rw [configuration_softwareTrigger _ hst]
      split <;> rfl

theorem configuration_rapidAfterWait (ec : Option Errc) :
    (b.rapidAfterWait ec).1.configuration = b.configuration := by
  unfold rapidAfterWait
  split <;> rfl

theorem configuration_rapidRead (n size : Nat) (ecPrefetch ecData : Option Errc)
    (status : List Nat) :
    (b.rapidRead n size ecPrefetch ecData status).1.configuration = b.configuration := by
  unfold rapidRead readingPart1 readingTheRest
  split
  · cases ecPrefetch
    · cases ecData <;> rfl
    · rfl
  · cases ecData <;> rfl
  · rfl

theorem configuration_rapidBeforeWait (ecDisarm ecArm : Option Errc) :
    (b.rapidBeforeWait ecDisarm ecArm).1.configuration = b.configuration := by
  obtain ⟨_, _, _, hd⟩ := b.rapidDisarm_writes ecDisarm
  unfold rapidBeforeWait
  split_ifs
  · rfl
  · split <;> rename_i h <;> exact (configuration_of_arm _ h).trans (by rw [hd]; rfl)
  · rfl

theorem configuration_pollerStep (pollErr : Option Errc) (watchdog : Bool) :
    (b.pollerStep pollErr watchdog).configuration = b.configuration := by
  unfold pollerStep
  split <;> rfl

end Block

/-! ## Each step of the threads keeps it -/

/-- The setter a step calls, if it is a setter call. -/
def Event.setterCall : Event → Option Setter
  | .setter x => some x
  | _ => none

/-- The rate `driver_configure()` sets in a step that calls it and reports one. -/
def Event.driverRate : Event → Option ℚ
  | .configure _ actualRate | .start _ _ actualRate _ _ => actualRate
  | _ => none

namespace Sys

theorem configuration_disarmCall (ec : Option Errc) (b : Block) :
    (disarmCall ec b).1.configuration = b.configuration := by
  unfold disarmCall
  split
  · exact b.configuration_disarmBegin ‹_›
  · exact (Block.configuration_disarmEnd _ ec).trans (b.configuration_disarmBegin ‹_›)
  · rfl

theorem configuration_stopRest (b : Block) : (stopRest b).1.configuration = b.configuration := by
  unfold stopRest
  split <;> rename_i h <;> exact (congrArg (·.1.configuration) h).symm.trans
    b.configuration_stopAfterDisarm

theorem configuration_stopBegin (ec : Option Errc) (b : Block) :
    (stopBegin ec b).1.configuration = b.configuration := by
  have hn := b.configuration_notifyDataReady (some .stopped)
  unfold stopBegin
  split_ifs
  · rfl
  · split <;> rename_i h
    · exact (Block.configuration_disarmBegin _ h).trans hn
    · exact (configuration_stopRest _).trans
        ((Block.configuration_disarmEnd _ ec).trans
          ((Block.configuration_disarmBegin _ h).trans hn))
    · exact (configuration_stopRest _).trans hn
  · exact configuration_stopRest b

theorem configuration_finishWork (s : Sys) (b : Block) (size : Nat) (ret : Int) (tags : List Tag) :
    (s.finishWork b size ret tags).blk.configuration = b.configuration := by
  unfold finishWork
  dsimp only
  split_ifs <;> rfl

/-- A call of the control thread other than a setter keeps the configuration, up to the rate
its `driver_configure()` sets. -/
theorem configuration_controlCall {b : Block} {e : Event} {r : Block × ControlPc}
    (h : controlCall b e = some r) (hx : e.setterCall = none) :
    Block.RateWrite e.driverRate b r.1 := by
  cases e <;> simp only [controlCall, Option.some.injEq, reduceCtorEq] at h <;> subst h
  case setter x => exact nomatch hx
  case initialise ec => exact .inl (b.configuration_initialise ec)
  case configure ec actualRate => exact b.configuration_configure ec actualRate
  case arm ec => exact .inl (b.configuration_arm ec)
  case disarm ec => exact .inl (configuration_disarmCall ec b)
  case close ec => exact .inl (b.configuration_recordError ec)
  case start ecInit ecConf actualRate spawnOk ecArm =>
    exact b.configuration_start ecInit ecConf actualRate spawnOk ecArm
  case stop ec => exact .inl (configuration_stopBegin ec b)

theorem configuration_streamAfterWait (s : Sys) (ec : Option Errc) (outputs : List OutputItem)
    (ecDisarm : Option Errc) :
    (s.streamAfterWait ec outputs ecDisarm).blk.configuration = s.blk.configuration := by
  have hv := s.blk.configuration_recordError ec
  unfold streamAfterWait
  dsimp only
  split
  · exact (configuration_finishWork ..).trans hv
  · split <;> rename_i h
    · exact (Block.configuration_disarmBegin _ h).trans hv
    · exact (Block.configuration_disarmEnd _ _).trans
        ((Block.configuration_disarmBegin _ h).trans hv)
    · exact hv
  · exact (configuration_finishWork ..).trans hv
  · split <;> rename_i h
    · exact hv
    · exact (configuration_finishWork ..).trans ((Block.configuration_workStreamData _ h).trans hv)

/-- A setter call runs the setter on the block; every other step keeps the configuration, up to
the rate `driver_configure()` sets on a disarmed block. -/
theorem step_configuration {s t : Sys} {e : Event} (h : s.step e = some t) :
    (∃ x, e = .setter x ∧ t.blk = (x.run s.blk).1) ∨
      e.setterCall = none ∧ Block.RateWrite e.driverRate s.blk t.blk := by
  cases e <;> simp only [step] at h
  case setter x =>
    split_ifs at h
    obtain ⟨r, hr, rfl⟩ := Option.map_eq_some'.1 h
    simp only [controlCall, Option.some.injEq] at hr
    exact .inl ⟨x, rfl, by rw [← hr]⟩
  all_goals refine .inr ⟨rfl, ?_⟩
  case controlIdle ec =>
    split at h
    · split_ifs at h
      split at h <;> cases h
      · exact .inl (Block.configuration_disarmEnd _ ec)
      · exact .inl ((configuration_stopRest _).trans (Block.configuration_disarmEnd _ ec))
    · cases h
  case controlExit | controlJoin | rdyWake =>
    split_ifs at h
    cases h
    exact .inl rfl
  case work env n size =>
    cases hm : s.blk.acquisitionMode <;> simp only [hm] at h <;> split_ifs at h
    · cases h
      exact .inl rfl
    · have hv := s.blk.configuration_rapidBeforeWait env.ecDisarm env.ecArm
      split at h <;> rename_i hr <;> cases h <;> rw [hr] at hv
      · exact .inl ((configuration_finishWork ..).trans hv)
      · exact .inl hv
    · cases h
      exact .inl ((configuration_finishWork ..).trans (s.blk.configuration_rapidRead ..))
  case appWake outputs ecDisarm =>
    split_ifs at h
    obtain ⟨ec, -, rfl⟩ := Option.map_eq_some'.1 h
    exact .inl (s.configuration_streamAfterWait ec outputs ecDisarm)
  case workerIdle ec =>
    split_ifs at h
    cases h
    exact .inl (Block.configuration_disarmEnd _ ec)
  case workerArm size ec =>
    split_ifs at h
    split at h <;> rename_i hr <;> cases h
    · exact .inl (s.blk.configuration_of_arm hr)
    · exact .inl ((configuration_finishWork ..).trans (s.blk.configuration_of_arm hr))
  case rdyClear env n size =>
    split at h
    next _ ec _ =>
      have hv := s.blk.configuration_rapidAfterWait ec
      split at h <;> rename_i hr <;> cases h <;> rw [hr] at hv
      · exact .inl ((configuration_finishWork ..).trans hv)
      · exact .inl
          ((configuration_finishWork ..).trans ((Block.configuration_rapidRead ..).trans hv))
    · cases h
  case poll pollErr watchdog =>
    split_ifs at h
    cases h
    exact .inl (s.blk.configuration_pollerStep pollErr watchdog)
  case push c =>
    cases h
    exact .inl rfl
  case blockReady ec =>
    cases h
    exact .inl (s.blk.configuration_notifyDataReady ec)
  all_goals
    split_ifs at h
    obtain ⟨r, hr, rfl⟩ := Option.map_eq_some'.1 h
    exact configuration_controlCall hr rfl

end Sys

/-! ## The rate invariant in every state -/

/-- The rate a step has `driver_configure()` set, if any, is positive. -/
def Event.RatePositive (e : Event) : Prop := ∀ r ∈ e.driverRate, 0 < r

instance (e : Event) : Decidable e.RatePositive :=
  match h : e.driverRate with
  | none => isTrue fun r hr => by rw [h] at hr; exact nomatch hr
  | some r => decidable_of_iff (0 < r) ⟨fun hr r' h' => by
      rw [h, Option.mem_some_iff] at h'
      exact h' ▸ hr, fun hr => hr r (h ▸ rfl)⟩

/-- Writing a positive rate keeps the rate invariant. -/
theorem Block.RateInvariant.of_rateWrite {rate : Option ℚ} {b b' : Block} (hb : b.RateInvariant)
    (h : Block.RateWrite rate b b') (hr : ∀ r ∈ rate, 0 < r) : b'.RateInvariant := by
  rcases h with h | ⟨r, hrate, -, h⟩
  · exact hb.of_configuration h
  · have hm : b'.downsamplingMode = b.downsamplingMode := congrArg Configuration.downsamplingMode h
    have hf : b'.downsamplingFactor = b.downsamplingFactor :=
      congrArg Configuration.downsamplingFactor h
    have hrt : b'.actualSampRate = r := congrArg Configuration.actualSampRate h
    constructor
    · rw [hm, hf]; exact hb.1
    · rw [hm, hf]; exact hb.2
    · rw [hrt]; exact hr r hrate

/-- Every step whose driver rate is positive keeps the rate invariant: a setter call by
`Setter.run_rateInvariant`, every other step because it keeps the configuration up to that
rate. -/
theorem Sys.rateInvariant_step {s t : Sys} {e : Event} (h : s.step e = some t)
    (he : e.RatePositive) (hs : s.blk.RateInvariant) : t.blk.RateInvariant := by
  rcases Sys.step_configuration h with ⟨x, -, ht⟩ | ⟨-, ht⟩
  · rw [ht]
    exact x.run_rateInvariant hs
  · exact hs.of_rateWrite ht he

/-- In every state of every interleaving of the threads from a constructed block in which every
rate `driver_configure()` sets is positive, the downsampling factor is `1` without downsampling
and at least `2` with it and the actual sample rate is positive; so the timebase that `work()`
puts on its tags is the spec's `downsampling_factor / actual_sample_rate`, and it is positive.
The rates are finite doubles, which the model holds as rationals: a NaN or `+inf` passed to
`set_samp_rate`, which its check `rate <= 0.0` lets through, is outside the model. -/
theorem rates_of_reachable {channels : List ChannelSetting} {ports : List PortSetting}
    {ai_channels di_ports : Nat} {auto_arm : Bool} {s : Sys}
    (h : Steps (fun _ e _ => e.RatePositive)
      (Sys.init (digitizerBlockImpl channels ports ai_channels di_ports auto_arm)) s) :
    (s.blk.downsamplingMode = .none → s.blk.downsamplingFactor = 1) ∧
      (s.blk.downsamplingMode ≠ .none → 2 ≤ s.blk.downsamplingFactor) ∧
      0 < s.blk.actualSampRate ∧
      s.blk.getTimebaseWithDownsampling = s.blk.downsamplingFactor / s.blk.actualSampRate ∧
      0 < s.blk.getTimebaseWithDownsampling := by
  have hb : s.blk.RateInvariant :=
    h.preserve (P := fun u => u.blk.RateInvariant)
      (fun _ _ _ hu he hi => Sys.rateInvariant_step hu he hi)
      (digitizerBlockImpl_rateInvariant channels ports ai_channels di_ports auto_arm)
  have ht := hb.getTimebaseWithDownsampling_eq
  exact ⟨hb.1, hb.2, hb.3, ht, ht ▸ div_pos (Nat.cast_pos.2 hb.factor_pos) hb.3⟩

/-- `rates_of_reachable` after `set_downsampling(DECIMATE, 4)`, a `set_samp_rate(0)` that
throws, `initialize()`, and a `configure()` whose driver sets the rate `5000`: the factor `4`
and the rate `5000`. -/
theorem rates_of_reachable_decimate :
    ∃ s, (Sys.init (digitizerBlockImpl [] [] 0 0 false)).run
        [.setter (.setDownsampling .decimate 4), .setter (.setSampRate 0), .initialise none,
          .configure none (some 5000)] = some s ∧
      Steps (fun _ e _ => e.RatePositive) (Sys.init (digitizerBlockImpl [] [] 0 0 false)) s ∧
      s.blk.downsamplingFactor = 4 ∧ s.blk.actualSampRate = 5000 ∧
      (s.blk.downsamplingMode = .none → s.blk.downsamplingFactor = 1) ∧
      (s.blk.downsamplingMode ≠ .none → 2 ≤ s.blk.downsamplingFactor) ∧
      0 < s.blk.actualSampRate ∧
      s.blk.getTimebaseWithDownsampling = s.blk.downsamplingFactor / s.blk.actualSampRate ∧
      0 < s.blk.getTimebaseWithDownsampling := by
  have h : (Sys.init (digitizerBlockImpl [] [] 0 0 false)).run
      [.setter (.setDownsampling .decimate 4), .setter (.setSampRate 0), .initialise none,
        .configure none (some 5000)] = some _ := rfl
  have hs : Steps (fun _ e _ => e.RatePositive) _ _ := Sys.steps_of_runChecks h (by decide)
  exact ⟨_, h, hs, rfl, rfl, rates_of_reachable hs⟩

/-! ## The configuration of an armed block -/

end DigitizerBlock
