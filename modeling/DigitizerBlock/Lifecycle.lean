import DigitizerBlock.Settings
import DigitizerBlock.Poller

/-!
# Lifecycle methods

`initialize`, `configure`, `arm`, `disarm`, `close`, `start` and `stop`, and the rapid-block
data-ready channel (`notify_data_ready`, `wait_data_ready`, `clear_data_ready`). Each driver
call is an argument: its outcome, an empty error code or a failure, is the environment's
choice. A method that throws returns the exception beside the block as the throw leaves it,
since `add_error_code` runs before the throw.

`disarm` and `stop` block: `transit_poll_thread_to_idle` waits for the poller's `IDLE`, and
`stop_poll_thread` waits for `EXIT` and joins. They are cut at those waits into the segments
the thread model (`DigitizerBlock.System`) runs as atomic steps: `disarmBegin` and
`disarmEnd`, and `stopAfterDisarm` and `stopEnd` around the `disarm()` that `stop()` makes.

`start()` catches every exception and returns `false`, but it does not undo the steps before the
one that threw: a failed `start()` can leave the device initialised or a poller thread running
(`failed_start_leaves_block_open`). `start_failure_state` says what a failed `start()` leaves
in every case: `d_armed` unchanged, `d_initialized` as `initialize()` left it, and the poller as
it was unless `start_poll_thread()` ran.

`configure()` writes `d_actual_samp_rate` with the rate `driver_configure()` sets, before it
checks the driver's error code (`configure_writes`).
-/

set_option autoImplicit false

namespace DigitizerBlock

namespace Block

/-! ## Helpers -/

/-- `add_error_code(ec)` for a non-empty `ec`. -/
def recordError (ec : Option Errc) (b : Block) : Block :=
  match ec with
  | some e => b.addErrorCode e
  | none => b

/-- Recording an outcome pushes its error, if any, onto `d_errors` and changes nothing else. -/
theorem recordError_eq (ec : Option Errc) (b : Block) :
    b.recordError ec = { b with errors := ec.elim b.errors (pushError b.errors) } := by
  cases ec <;> simp [recordError, addErrorCode]

/-- `get_enabled_aichan_count()`: the enabled channels of the whole settings array. -/
def getEnabledAichanCount (b : Block) : Nat := b.channelSettings.countP (·.enabled)

/-- `get_enabled_diport_count()`: the enabled ports of the whole settings array. -/
def getEnabledDiportCount (b : Block) : Nat := b.portSettings.countP (·.enabled)

/-- The enabled channels below `d_ai_channels`, as `arm()` counts them. -/
def numEnabledAiChannels (b : Block) : Nat := (List.range b.aiChannels).countP b.channelEnabled

/-- The enabled ports below `d_ports`, as `arm()` counts them. -/
def numEnabledDiPorts (b : Block) : Nat := (List.range b.ports).countP b.portEnabled

/-- `std::vector::resize(n)` of a pointer vector: truncate, or pad with null pointers. -/
def resizePtrs (v : List (Option Nat)) (n : Nat) : List (Option Nat) :=
  v.take n ++ List.replicate (n - v.length) none

/-! ## Opening, configuring, arming -/

/-- `initialize()`; `ec` is the outcome of `driver_initialize()`. -/
def initialise (ec : Option Errc) (b : Block) : Block × Option Exception :=
  if b.initialized then (b, none)
  else match ec with
    | some e => (b.addErrorCode e, some (.runtimeError ("initialize failed: " ++ e.message)))
    | none => ({ b with initialized := true }, none)

/-- What `initialize()` can write: `d_initialized`, set when it was set or
`driver_initialize()` succeeds, and the error log. -/
theorem initialise_writes (ec : Option Errc) (b : Block) :
    ∃ errors : List Errc,
      (b.initialise ec).1 = { b with initialized := b.initialized || ec.isNone, errors } := by
  unfold initialise
  split
  · exact ⟨b.errors, by cases b; simp_all⟩
  · split
    · exact ⟨pushError b.errors ‹_›, by simp [addErrorCode, *]⟩
    · exact ⟨b.errors, by simp [*]⟩

/-- `configure()`; `ec` is the outcome of `driver_configure()` and `actualRate` the sample rate
it sets in `d_actual_samp_rate`, the member `get_samp_rate()` returns, if it sets one. Modelled
from the spec (§4.1: `driver_configure()` returns the actual sample rate), since the driver is
not under src/. On success the application buffer is re-initialised for the enabled channels
and ports. -/
def configure (ec : Option Errc) (actualRate : Option ℚ) (b : Block) : Block × Option Exception :=
  if !b.initialized then (b, some (.runtimeError "initialize first"))
  else if b.armed then (b, some (.runtimeError "disarm first"))
  else
    let b := match actualRate with
      | some r => { b with actualSampRate := r }
      | none => b
    match ec with
    | some e => (b.addErrorCode e, some (.runtimeError ("configure failed: " ++ e.message)))
    | none => ({ b with appBuffer := (b.appBuffer.initialise b.getEnabledAichanCount
                  b.getEnabledDiportCount b.bufferSize b.nrBuffers) }, none)

/-- What `configure()` can write: the application buffer, the error log and the actual sample
rate, which changes only on an initialised, disarmed block, to the rate the driver sets. -/
theorem configure_writes (ec : Option Errc) (actualRate : Option ℚ) (b : Block) :
    ∃ (actualSampRate : ℚ) (appBuffer : AppBuffer) (errors : List Errc),
      (b.configure ec actualRate).1 = { b with actualSampRate, appBuffer, errors } ∧
      (actualSampRate = b.actualSampRate ∨
        b.initialized = true ∧ b.armed = false ∧ actualRate = some actualSampRate) := by
  unfold configure
  split_ifs with hi ha
  · exact ⟨_, _, _, rfl, .inl rfl⟩
  · exact ⟨_, _, _, rfl, .inl rfl⟩
  · have hw : b.initialized = true ∧ b.armed = false := by simpa using And.intro hi ha
    cases actualRate <;> cases ec
    all_goals first
      | exact ⟨_, _, _, rfl, .inl rfl⟩
      | exact ⟨_, _, _, rfl, .inr ⟨hw.1, hw.2, rfl⟩⟩

/-- The rest of `arm()` once `driver_arm()` succeeded: the flags, the cleared error condition
of the application buffer, the poller request in streaming mode, and the pointer vectors sized
to the enabled channels and ports. -/
def armSucceeded (b : Block) : Block :=
  let b := { b with armed := true, timebasePublished := false,
                    appBuffer := b.appBuffer.notifyDataReady none }
  let b := if b.acquisitionMode = .streaming then b.transitPollThreadToRunning else b
  { b with aiBuffers := resizePtrs b.aiBuffers b.numEnabledAiChannels,
           aiErrorBuffers := resizePtrs b.aiErrorBuffers b.numEnabledAiChannels,
           portBuffers := resizePtrs b.portBuffers b.numEnabledDiPorts }

/-- `arm()`; `ec` is the outcome of `driver_arm()`. Priming the moving average of the
estimated sample rate is not modelled. -/
def arm (ec : Option Errc) (b : Block) : Block × Option Exception :=
  if b.armed then (b, none)
  else match ec with
    | some e => (b.addErrorCode e, some (.runtimeError ("arm failed: " ++ e.message)))
    | none => (b.armSucceeded, none)

/-- What `arm()` can write: `d_armed`, `d_timebase_published`, the application buffer,
`d_poller_state`, the pointer vectors and the error log; every other member keeps its value. -/
theorem arm_writes (ec : Option Errc) (b : Block) :
    ∃ (armed timebasePublished : Bool) (appBuffer : AppBuffer) (pollerState : PollerState)
      (aiBuffers aiErrorBuffers portBuffers : List (Option Nat)) (errors : List Errc),
      (b.arm ec).1 = { b with armed, timebasePublished, appBuffer, pollerState, aiBuffers,
                              aiErrorBuffers, portBuffers, errors } := by
  unfold arm armSucceeded
  split
  · exact ⟨_, _, _, _, _, _, _, _, rfl⟩
  · split
    · exact ⟨_, _, _, _, _, _, _, _, rfl⟩
    · dsimp only
      split <;> exact ⟨_, _, _, _, _, _, _, _, rfl⟩

/-- `arm()` neither reads nor writes `d_initialized`: it arms an uninitialised block as it arms
an initialised one. -/
theorem arm_initialized (ec : Option Errc) (b : Block) :
    (b.arm ec).1.initialized = b.initialized := by
  obtain ⟨_, _, _, _, _, _, _, _, h⟩ := arm_writes ec b
  rw [h]

/-- `arm()` leaves `d_trigger_state` as the last armed period left it. -/
theorem arm_triggerState (ec : Option Errc) (b : Block) :
    (b.arm ec).1.triggerState = b.triggerState := by
  obtain ⟨_, _, _, _, _, _, _, _, h⟩ := arm_writes ec b
  rw [h]

/-! ## Disarming and closing -/

/-- The start of `disarm()`: `none` when the block is not armed (the call returns at once);
otherwise, in streaming mode, the first lock region of `transit_poll_thread_to_idle()`, with
whether the caller now waits for `IDLE`. -/
def disarmBegin (b : Block) : Option (Block × Bool) :=
  if !b.armed then none
  else if b.acquisitionMode = .streaming then some b.transitPollThreadToIdle
  else some (b, false)

/-- The end of `disarm()`: `driver_disarm()`, whose failure is only recorded, then
`d_armed = false`. -/
def disarmEnd (ec : Option Errc) (b : Block) : Block := { b.recordError ec with armed := false }

/-- `close()`; `ec` is the outcome of `driver_close()`, whose failure is only recorded. -/
def close (ec : Option Errc) (b : Block) : Block := { b.recordError ec with initialized := false }

/-! ## The rapid-block data-ready channel -/

/-- `notify_data_ready(ec)`: record a failure, then set the flag and the error under
`d_mutex`. -/
def notifyDataReady (ec : Option Errc) (b : Block) : Block :=
  { b.recordError ec with dataRdy := true, dataRdyErrc := ec }

/-- `clear_data_ready()`. -/
def clearDataReady (b : Block) : Block := { b with dataRdy := false, dataRdyErrc := none }

/-! ## Start and stop -/

/-- The `catch` of `start()`: the message is kept and `false` returned. -/
def failStart (ex : Exception) (b : Block) : Block × Bool :=
  ({ b with configureExceptionMessage := ex.what }, false)

/-- What `start()` does after `initialize()` and `configure()`: the per-run flags, the poller
thread in streaming mode, and `arm()` when auto-arm is set in streaming mode. -/
def startAfterConfigure (spawnOk : Bool) (ecArm : Option Errc) (b : Block) : Block × Bool :=
  let b := { b with wasTriggeredOnce := false, dataRdyErrc := none, dataRdy := false }
  match (if b.acquisitionMode = .streaming then b.startPollThread spawnOk else (b, none)) with
  | (b, some ex) => b.failStart ex
  | (b, none) =>
    if b.autoArm && b.acquisitionMode = .streaming then
      match b.arm ecArm with
      | (b, some ex) => b.failStart ex
      | (b, none) => (b, true)
    else (b, true)

/-- `start()`: every exception is caught and turned into `false`. -/
def start (ecInit ecConf : Option Errc) (actualRate : Option ℚ) (spawnOk : Bool)
    (ecArm : Option Errc) (b : Block) : Block × Bool :=
  match b.initialise ecInit with
  | (b, some ex) => b.failStart ex
  | (b, none) =>
    match b.configure ecConf actualRate with
    | (b, some ex) => b.failStart ex
    | (b, none) => b.startAfterConfigure spawnOk ecArm

/-- `stop()` after its `disarm()`: `stop_poll_thread()` in streaming mode, with whether it waits
for the poller. -/
def stopAfterDisarm (b : Block) : Block × Bool :=
  if b.acquisitionMode = .streaming then b.stopPollThread else (b, false)

/-- The end of `stop()`. -/
def stopEnd (b : Block) : Block := { b with configureExceptionMessage := "" }

end Block

end DigitizerBlock
