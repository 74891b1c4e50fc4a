import Mathlib.Algebra.Order.Field.Rat

/-!
# Data model of the digitizer block

`digitizer_block_impl` is the GNU Radio source block that drives a PicoScope digitizer. This
module fixes its data: the enumerations it switches on, the error codes it raises and passes
around, the analog-channel, port and trigger settings, and the block record with every member
that a modelled method reads or writes, initialised as the constructor does
(`digitizerBlockImpl`).

Floating-point members (rates, voltages, samples) are exact rationals, that is finite
doubles: a NaN or an infinity is outside the model. The `uint32_t` members are natural numbers:
each setter checks the sign of its `int` argument before it converts. Where the code converts a
`uint32_t` back to `int` the model does so by `uint32ToInt`, which wraps from `2^31` on:
`noutput_items = d_buffer_size` in `work_stream`, the sample count `find_*_triggers` gets, and
`samples_left`, the `int` counter of `d_bstate` that `get_block_size_with_downsampling()` fills.
The header `digitizer_block_impl.h`, the `app_buffer` class and the error history's class are
not under src/: the header's settings arrays enter as constructor arguments (their lengths are
`MAX_SUPPORTED_AI_CHANNELS` and `MAX_SUPPORTED_PORTS`), and the helper types whose code is
missing (`d_bstate`, the application buffer, the error history) are modelled from the spec and
say so.
-/

set_option autoImplicit false

namespace DigitizerBlock

/-! ## Machine integers -/

/-- The conversion of a `uint32_t` value to `int`, two's complement: from `2^31` on the value is
negative. -/
def uint32ToInt (n : Nat) : Int :=
  if n % 2 ^ 32 < 2 ^ 31 then (n % 2 ^ 32 : Nat) else ((n % 2 ^ 32 : Nat) : Int) - 2 ^ 32

/-- Below `2^31` the conversion keeps the value. -/
theorem uint32ToInt_of_lt {n : Nat} (h : n < 2 ^ 31) : uint32ToInt n = n := by
  have hm : n % 2 ^ 32 = n := Nat.mod_eq_of_lt (by omega)
  simp only [uint32ToInt, hm, if_pos h]

/-- A count read back from the `int` is never more than the `uint32_t` it came from. -/
theorem uint32ToInt_toNat_le (n : Nat) : (uint32ToInt n).toNat ≤ n := by
  have := Nat.mod_le n (2 ^ 32)
  unfold uint32ToInt
  split <;> omega

/-! ## Enumerations and error codes -/

/-- `acquisition_mode_t`. -/
inductive AcquisitionMode where
  | streaming
  | rapidBlock
  deriving DecidableEq, Repr

/-- `downsampling_mode_t`. -/
inductive DownsamplingMode where
  | none
  | minMax
  | decimate
  | average
  deriving DecidableEq, Repr

/-- `trigger_direction_t`. -/
inductive TriggerDirection where
  | rising
  | falling
  | low
  | high
  deriving DecidableEq, Repr

/-- `poller_state_t`: the requests and acknowledgements exchanged with the poller thread
through `d_poller_state`. -/
inductive PollerState where
  | idle
  | running
  | pendIdle
  | pendExit
  | exit
  deriving DecidableEq, Repr

/-- `rapid_block_state_t`: the phase of the rapid-block fetch. -/
inductive RapidBlockState where
  | waiting
  | readingPart1
  | readingTheRest
  deriving DecidableEq, Repr

/-- A non-empty `std::error_code`: a `digitizer_block_errc` value, or a code of the driver's
own error category. The empty error code is `none : Option Errc`. -/
inductive Errc where
  | interrupted
  | stopped
  | watchdog
  | driver (code : Nat)
  deriving DecidableEq, Repr

/-- `to_string` of an error code: `digitizer_block_err_category::message` for the block's own
codes; a driver code is shown by its number (the driver's category is not under src/). -/
def Errc.message : Errc → String
  | .interrupted => "Wit interrupted"
  | .driver code => "driver error " ++ toString code
  | _ => "(unrecognized error)"

/-- The exceptions the block throws, with their `what()` text. -/
inductive Exception where
  | invalidArgument (what : String)
  | runtimeError (what : String)
  | badLexicalCast
  | threadResourceError
  | outOfRange
  deriving DecidableEq, Repr

/-- The `what()` text of an exception. -/
def Exception.what : Exception → String
  | .invalidArgument w => w
  | .runtimeError w => w
  | .badLexicalCast => "bad lexical cast: source type value could not be interpreted as target"
  | .threadResourceError => "boost::thread_resource_error"
  | .outOfRange => "vector::_M_range_check"

/-! ## Settings -/

/-- `channel_setting_t`: one analog input. `actualRange` is the range the driver accepted;
the analog software trigger derives its hysteresis band from it. -/
structure ChannelSetting where
  range : ℚ
  offset : ℚ
  enabled : Bool
  dcCoupled : Bool
  actualRange : ℚ
  deriving DecidableEq, Repr

/-- `port_setting_t`: one 8-bit digital port. -/
structure PortSetting where
  logicLevel : ℚ
  enabled : Bool
  deriving DecidableEq, Repr

/-- `trigger_setting_t`. `source` is a channel letter, `TRIGGER_DIGITAL_SOURCE` or
`TRIGGER_NONE_SOURCE`; `pinNumber` is read for the digital source only. -/
structure TriggerSetting where
  source : String
  threshold : ℚ
  direction : TriggerDirection
  pinNumber : Nat
  deriving DecidableEq, Repr

/-- Modelled from the spec: the source name of a disabled trigger (§3 TriggerConfig, "None");
its definition is in the header, which is not under src/. -/
def TRIGGER_NONE_SOURCE : String := "None"

/-- Modelled from the spec: the digital-source sentinel of §3 TriggerConfig. Its spelling is in
the header, which is not under src/; every string of a length other than one behaves alike. -/
def TRIGGER_DIGITAL_SOURCE : String := "DI"

namespace TriggerSetting

/-- Modelled from the spec: `is_enabled()`, a source other than `TRIGGER_NONE_SOURCE`. -/
def isEnabled (t : TriggerSetting) : Bool := t.source != TRIGGER_NONE_SOURCE

/-- Modelled from the spec: `is_digital()`, the digital-source sentinel. -/
def isDigital (t : TriggerSetting) : Bool := t.source == TRIGGER_DIGITAL_SOURCE

/-- Modelled from the spec: `is_analog()`, an enabled source that is not the digital one. -/
def isAnalog (t : TriggerSetting) : Bool := t.isEnabled && !t.isDigital

/-- Modelled from the spec: the default-constructed trigger, with no source. -/
def default : TriggerSetting :=
  ⟨TRIGGER_NONE_SOURCE, 0, .rising, 0⟩

end TriggerSetting

/-! ## Helper state whose code is not under src/ -/

/-- Modelled from the spec (§4.4 RapidBlockState): the type of `d_bstate`, the per-waveform
fetch state of rapid-block mode. `offset` and `samplesLeft` are `int`s: `work_rapid_block`
takes `std::min(noutput_items, d_bstate.samples_left)` of two `int`s. -/
structure RapidBlockMachine where
  state : RapidBlockState
  waveformIdx : Nat
  waveformCount : Nat
  offset : Int
  samplesLeft : Int
  deriving DecidableEq, Repr

namespace RapidBlockMachine

/-- Modelled from the spec: a machine with no waveform in progress. -/
def idle : RapidBlockMachine := ⟨.waiting, 0, 0, 0, 0⟩

/-- Modelled from the spec: `initialize(n)` starts waveform `0` of `n` in `READING_PART1`
(`initialize` is a Lean keyword, hence the spelling). -/
def initialise (n : Nat) (_ : RapidBlockMachine) : RapidBlockMachine :=
  ⟨.readingPart1, 0, n, 0, 0⟩

/-- Modelled from the spec: `set_waveform_params(offset, samples)`. -/
def setWaveformParams (offset samples : Int) (m : RapidBlockMachine) : RapidBlockMachine :=
  { m with offset := offset, samplesLeft := samples }

/-- Modelled from the spec: `update_state(k)` moves `offset` and `samples_left` by `k`; while
samples are left the waveform goes on in `READING_THE_REST`, else the next waveform starts in
`READING_PART1`, or, after the last one, the machine is back in `WAITING`. -/
def updateState (k : Int) (m : RapidBlockMachine) : RapidBlockMachine :=
  if 0 < m.samplesLeft - k then
    { m with state := .readingTheRest, offset := m.offset + k, samplesLeft := m.samplesLeft - k }
  else if m.waveformIdx + 1 = m.waveformCount then
    { m with state := .waiting, waveformIdx := m.waveformIdx + 1, offset := m.offset + k,
             samplesLeft := m.samplesLeft - k }
  else
    { m with state := .readingPart1, waveformIdx := m.waveformIdx + 1, offset := m.offset + k,
             samplesLeft := m.samplesLeft - k }

end RapidBlockMachine

/-- One acquisition chunk as the application buffer hands it out: per enabled analog channel
its values and estimated errors, per enabled port its bytes, the per-channel status words and
the capture timestamp. -/
structure AcqChunk where
  values : List (List ℚ)
  errors : List (List ℚ)
  ports : List (List UInt8)
  status : List Nat
  timestamp : Int
  deriving DecidableEq, Repr

/-- Modelled from the spec (§4.2 AppBuffer): `d_app_buffer`. `shape` holds the arguments of
its last `initialize` (enabled channels, enabled ports, buffer size, number of buffers);
`chunks` are the queued chunks, oldest first; `lost` counts overwritten chunks since the last
dequeue; `errc` is the pending notification of `notify_data_ready`. -/
structure AppBuffer where
  shape : Nat × Nat × Nat × Nat
  chunks : List AcqChunk
  lost : Nat
  errc : Option Errc
  deriving DecidableEq, Repr

namespace AppBuffer

/-- Modelled from the spec: a default-constructed buffer, empty and with no notification. -/
def empty : AppBuffer := ⟨(0, 0, 0, 0), [], 0, none⟩

/-- Modelled from the spec: `initialize(n_analog, n_digital, size, nr_buffers)` clears the
ring, the lost count and the error condition. -/
def initialise (nAnalog nDigital size nrBuffers : Nat) (_ : AppBuffer) : AppBuffer :=
  ⟨(nAnalog, nDigital, size, nrBuffers), [], 0, none⟩

/-- Modelled from the spec: `notify_data_ready(ec)` replaces the pending notification. -/
def notifyDataReady (ec : Option Errc) (a : AppBuffer) : AppBuffer := { a with errc := ec }

end AppBuffer

/-- Where the poller thread is in `poll_work_function`. -/
inductive PollerPc where
  /-- At the top of the `while (true)` loop. -/
  | loop
  /-- After the lazy read, at the branch on the cached `state`. -/
  | branch
  /-- In the `RUNNING` branch: `driver_poll()`, the watchdog check and the sleep. -/
  | polling
  /-- Returned from `poll_work_function` after acknowledging `PEND_EXIT`. -/
  | exited
  deriving DecidableEq, Repr

/-- The poller thread `d_poller` with the locals of `poll_work_function`: its position, the
cached `state` and `poller_state_check_counter`. -/
structure Poller where
  pc : PollerPc
  state : PollerState
  checkCounter : Nat
  deriving DecidableEq, Repr

/-- A freshly started poller. The counter starts at `check_every_n_times = 10`, so the first
iteration reads `d_poller_state` before the uninitialised `state` is used; its initial value
here is immaterial. -/
def Poller.fresh : Poller := ⟨.loop, .idle, 10⟩

/-! ## The block -/

/-- The members of `digitizer_block_impl` that the modelled methods use. The settings arrays
keep the length the header gives them; `aiBuffers`, `aiErrorBuffers` and `portBuffers` hold
the output-slot index each pointer was set to (`none` for a null pointer); `poller` is
`d_poller`, `some` exactly while it is joinable; `outputMultiple` is the output multiple
that `set_output_multiple` hands to the scheduler, and `nitemsWritten` the scheduler's
`nitems_written(0)`, the stream offset of the next output item. -/
structure Block where
  sampRate : ℚ
  actualSampRate : ℚ
  samples : Nat
  preSamples : Nat
  nrCaptures : Nat
  bufferSize : Nat
  outputMultiple : Nat
  nrBuffers : Nat
  driverBufferSize : Nat
  acquisitionMode : AcquisitionMode
  pollRate : ℚ
  downsamplingMode : DownsamplingMode
  downsamplingFactor : Nat
  aiChannels : Nat
  ports : Nat
  channelSettings : List ChannelSetting
  portSettings : List PortSetting
  triggerSettings : TriggerSetting
  status : List Nat
  appBuffer : AppBuffer
  initialized : Bool
  armed : Bool
  autoArm : Bool
  triggerOnce : Bool
  wasTriggeredOnce : Bool
  timebasePublished : Bool
  aiBuffers : List (Option Nat)
  aiErrorBuffers : List (Option Nat)
  portBuffers : List (Option Nat)
  dataRdy : Bool
  dataRdyErrc : Option Errc
  triggerState : Bool
  errors : List Errc
  pollerState : PollerState
  poller : Option Poller
  bstate : RapidBlockMachine
  configureExceptionMessage : String
  nitemsWritten : Nat
  deriving DecidableEq, Repr

/-- The constructor `digitizer_block_impl(ai_channels, di_ports, auto_arm)`. `channels` and
`ports` are the header's default-initialised `d_channel_settings` and `d_port_settings`.
`d_trigger_state(0)` is `false`. -/
def digitizerBlockImpl (channels : List ChannelSetting) (ports : List PortSetting)
    (ai_channels di_ports : Nat) (auto_arm : Bool) : Block where
  sampRate := 10000
  actualSampRate := 10000
  samples := 10000
  preSamples := 1000
  nrCaptures := 1
  bufferSize := 8192
  outputMultiple := 1
  nrBuffers := 100
  driverBufferSize := 100000
  acquisitionMode := .streaming
  pollRate := 1 / 1000
  downsamplingMode := .none
  downsamplingFactor := 1
  aiChannels := ai_channels
  ports := di_ports
  channelSettings := channels
  portSettings := ports
  triggerSettings := TriggerSetting.default
  status := List.replicate ai_channels 0
  appBuffer := AppBuffer.empty
  initialized := false
  armed := false
  autoArm := auto_arm
  triggerOnce := false
  wasTriggeredOnce := false
  timebasePublished := false
  aiBuffers := List.replicate ai_channels none
  aiErrorBuffers := List.replicate ai_channels none
  portBuffers := List.replicate di_ports none
  dataRdy := false
  dataRdyErrc := none
  triggerState := false
  errors := []
  pollerState := .idle
  poller := none
  bstate := RapidBlockMachine.idle
  configureExceptionMessage := ""
  nitemsWritten := 0

namespace Block

/-- Modelled from the spec (ErrorRing): `d_errors.push(ec)` on the history of capacity `128`
that the constructor gives `d_errors`, a FIFO that overwrites its oldest entry when full. -/
def pushError (errors : List Errc) (e : Errc) : List Errc :=
  if errors.length < 128 then errors ++ [e] else errors.tail ++ [e]

/-- The history keeps to its capacity. -/
theorem length_pushError_le {errors : List Errc} (h : errors.length ≤ 128) (e : Errc) :
    (pushError errors e).length ≤ 128 := by
  unfold pushError
  split <;> simp only [List.length_append, List.length_tail, List.length_singleton] <;> omega

/-- `add_error_code(ec)`: push onto the error history `d_errors`. -/
def addErrorCode (e : Errc) (b : Block) : Block := { b with errors := pushError b.errors e }

/-- `MAX_SUPPORTED_AI_CHANNELS`, the length of `d_channel_settings`. -/
def MAX_SUPPORTED_AI_CHANNELS (b : Block) : Nat := b.channelSettings.length

/-- `MAX_SUPPORTED_PORTS`, the length of `d_port_settings`. -/
def MAX_SUPPORTED_PORTS (b : Block) : Nat := b.portSettings.length

/-- `d_channel_settings[i].enabled`; an index past the array reads as disabled. -/
def channelEnabled (b : Block) (i : Nat) : Bool := ((b.channelSettings[i]?).map (·.enabled)).getD false

/-- `d_port_settings[i].enabled`; an index past the array reads as disabled. -/
def portEnabled (b : Block) (i : Nat) : Bool := ((b.portSettings[i]?).map (·.enabled)).getD false

end Block

end DigitizerBlock
