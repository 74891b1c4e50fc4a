import DigitizerBlock.Basic

/-!
# Setters, id parsers and derived sizes

The public configuration surface of `digitizer_block_impl`: the setters, the parsers
`convert_to_aichan_idx` and `convert_to_port_idx` that validate channel and port ids, and the
helpers that derive the rapid-block sizes and the output timebase from the settings.

Every setter but one checks its arguments before it writes a member, so a setter that throws
leaves the block as it was; `Except` carries exactly that, and the setters that check one
argument and write it are instances of `checkedSetter`. `set_buffer_size` is the exception: it
writes `d_buffer_size` before `set_output_multiple`, which throws for `0`. `Setter.run` gives
the block as any setter call leaves it, and `Setter.run_of_throw` says that this write is the
only one a throwing call leaves behind. No setter reads `d_armed` (`Setter.apply_armed`): a
setter called while the block is armed does what it does on a disarmed block.

`convertToAichanIdx_eq_ok_iff` and `convertToPortIdx_eq_ok_iff` say exactly which ids the two
parsers accept. Both bounds are inclusive and are the lengths of the settings arrays, not the
device's channel and port counts, and the port parser reads only the fifth byte
(`ids_accepted_out_of_range`). `preTrigger_lt_blockSize_iff` says over which accepted settings the
pre-trigger part of a downsampled waveform is shorter than the waveform.

`Block.RateInvariant` is what `set_downsampling` and `set_samp_rate` keep of the constructed
block: the factor is `1` without downsampling and at least `2` with it, and the actual sample
rate is positive. `setters_keep_rate_invariant` states it after any sequence of setter calls,
thrown ones included; `DigitizerBlock.Configuration` extends it to every thread step.
-/

set_option autoImplicit false

namespace DigitizerBlock

namespace Block

/-! ## Derived sizes -/

/-- `get_pre_trigger_samples_with_downsampling()`. -/
def getPreTriggerSamplesWithDownsampling (b : Block) : Nat :=
  if b.downsamplingMode ≠ .none then b.preSamples / b.downsamplingFactor else b.preSamples

/-- `get_post_trigger_samples_with_downsampling()`. -/
def getPostTriggerSamplesWithDownsampling (b : Block) : Nat :=
  if b.downsamplingMode ≠ .none then b.samples / b.downsamplingFactor else b.samples

/-- `get_block_size()`. -/
def getBlockSize (b : Block) : Nat := b.samples + b.preSamples

/-- `get_block_size_with_downsampling()`. -/
def getBlockSizeWithDownsampling (b : Block) : Nat :=
  b.getPreTriggerSamplesWithDownsampling + b.getPostTriggerSamplesWithDownsampling

/-- `get_timebase_with_downsampling()`: seconds per output sample. -/
def getTimebaseWithDownsampling (b : Block) : ℚ :=
  if b.downsamplingMode = .none then 1 / b.actualSampRate
  else b.downsamplingFactor / b.actualSampRate

/-- `get_samp_rate()`. -/
def getSampRate (b : Block) : ℚ := b.actualSampRate

/-! ## Id parsers -/

/-- The byte at index `i` of a `std::string`, `0` past its end. -/
def byteAt (id : String) (i : Nat) : UInt8 := id.toUTF8.data.getD i 0

/-- `std::toupper(id[0]) - 'A'`; read only for one-byte ids, whose byte is an ASCII
character. -/
def letterIndex (id : String) : Int := ((id.get 0).toUpper.toNat : Int) - ('A'.toNat : Int)

/-- `convert_to_aichan_idx(id)`. -/
def convertToAichanIdx (b : Block) (id : String) : Except Exception Nat :=
  if id.utf8ByteSize ≠ 1 then
    .error (.invalidArgument ("aichan id should be a single character: " ++ id))
  else if letterIndex id < 0 ∨ letterIndex id > b.MAX_SUPPORTED_AI_CHANNELS then
    .error (.invalidArgument ("invalid aichan id: " ++ id))
  else .ok (letterIndex id).toNat

/-- `boost::lexical_cast<int>(c)` of one character: its digit value, or `bad_lexical_cast`. -/
def lexicalCastDigit (c : UInt8) : Except Exception Nat :=
  if 48 ≤ c ∧ c ≤ 57 then .ok (c.toNat - 48) else .error .badLexicalCast

/-- `convert_to_port_idx(id)`: only the length and the fifth byte are checked. -/
def convertToPortIdx (b : Block) (id : String) : Except Exception Nat :=
  if id.utf8ByteSize ≠ 5 then
    .error (.invalidArgument
      ("invalid port id: " ++ id ++ ", should be of the following format 'port<d>'"))
  else match lexicalCastDigit (byteAt id 4) with
    | .error e => .error e
    | .ok idx =>
      if idx > b.MAX_SUPPORTED_PORTS then .error (.invalidArgument ("invalid port number: " ++ id))
      else .ok idx

/-- What `convert_to_aichan_idx` accepts: a one-byte id whose upper-cased letter is at most
`MAX_SUPPORTED_AI_CHANNELS` past `A`, and that distance is the index. The bound is inclusive and
is the length of `d_channel_settings`, not `d_ai_channels`. -/
theorem convertToAichanIdx_eq_ok_iff (b : Block) (id : String) (i : Nat) :
    b.convertToAichanIdx id = .ok i ↔
      id.utf8ByteSize = 1 ∧ letterIndex id = i ∧ i ≤ b.MAX_SUPPORTED_AI_CHANNELS := by
  unfold convertToAichanIdx
  split_ifs with h1 h2
  · simp only [reduceCtorEq, false_iff]
    exact fun h => h1 h.1
  · simp only [reduceCtorEq, false_iff]
    rintro ⟨-, hl, hi⟩
    omega
  · rw [Except.ok.injEq]
    omega

/-- What `convert_to_port_idx` accepts: a five-byte id whose fifth byte is a decimal digit `d` at
most `MAX_SUPPORTED_PORTS`, and then `d`. The first four bytes are not read, the bound is
inclusive, and it is the length of `d_port_settings`, not `d_ports`. -/
theorem convertToPortIdx_eq_ok_iff (b : Block) (id : String) (d : Nat) :
    b.convertToPortIdx id = .ok d ↔
      id.utf8ByteSize = 5 ∧ (byteAt id 4).toNat = 48 + d ∧ d ≤ 9 ∧ d ≤ b.MAX_SUPPORTED_PORTS := by
  unfold convertToPortIdx lexicalCastDigit
  have h48 : ∀ c : UInt8, (48 ≤ c ∧ c ≤ 57) ↔ 48 ≤ c.toNat ∧ c.toNat ≤ 57 := fun c => by
    simp only [UInt8.le_def, BitVec.le_def]
    rfl
  split_ifs with h1 h2
  · simp only [reduceCtorEq, false_iff]
    exact fun h => h1 h.1
  · rw [h48] at h2
    dsimp only
    split_ifs
    · simp only [reduceCtorEq, false_iff]
      omega
    · rw [Except.ok.injEq]
      omega
  · rw [h48] at h2
    simp only [reduceCtorEq, false_iff]
    omega

/-! ## Setters -/

/-- `d_channel_settings[idx]` rewritten by `f`. -/
def modifyChannel (idx : Nat) (f : ChannelSetting → ChannelSetting) (b : Block) : Block :=
  { b with channelSettings := b.channelSettings.modify f idx }

/-- `d_port_settings[idx]` rewritten by `f`. -/
def modifyPort (idx : Nat) (f : PortSetting → PortSetting) (b : Block) : Block :=
  { b with portSettings := b.portSettings.modify f idx }

/-- The setters that check one argument and then write members: `reject` is the check,
`what` the text of the `std::invalid_argument` it throws, `write` the writes. -/
def checkedSetter {α : Type} (reject : α → Bool) (what : String) (write : α → Block → Block)
    (x : α) (b : Block) : Except Exception Block :=
  if reject x then .error (.invalidArgument what) else .ok (write x b)

/-- `set_samples(samples, pre_samples)`: two checks, then the sizes and `d_buffer_size`. -/
def setSamples (samples pre_samples : Int) (b : Block) : Except Exception Block :=
  if samples < 1 then .error (.invalidArgument "post-trigger samples can't be less than one")
  else if pre_samples < 0 then
    .error (.invalidArgument "pre-trigger samples can't be less than zero")
  else .ok { b with samples := samples.toNat, preSamples := pre_samples.toNat,
                    bufferSize := samples.toNat + pre_samples.toNat }

/-- `set_samp_rate(rate)`. The rate is a finite double here: the guard `rate <= 0.0` is false
for a NaN and for `+inf` as well, which the code therefore accepts and the model cannot hold. -/
def setSampRate (rate : ℚ) : Block → Except Exception Block :=
  checkedSetter (fun r => decide (r ≤ 0)) "sample rate should be greater than zero"
    (fun r b => { b with sampRate := r, actualSampRate := r }) rate

/-- `set_buffer_size(buffer_size)`: the sign check, the write of `d_buffer_size`, then
`set_output_multiple(buffer_size)` of `gr::block`, which throws `std::invalid_argument` for a
multiple below one. The block as the call leaves it, and the exception it throws. -/
def setBufferSize (buffer_size : Int) (b : Block) : Block × Option Exception :=
  if buffer_size < 0 then (b, some (.invalidArgument "buffer size can't be negative"))
  else
    let b := { b with bufferSize := buffer_size.toNat }
    if buffer_size < 1 then (b, some (.invalidArgument "block::set_output_multiple"))
    else ({ b with outputMultiple := buffer_size.toNat }, none)

/-- `set_nr_buffers(nr_buffers)`. -/
def setNrBuffers (nr_buffers : Int) : Block → Except Exception Block :=
  checkedSetter (fun n => decide (n < 1)) "number of buffers can't be a negative number"
    (fun n b => { b with nrBuffers := n.toNat }) nr_buffers

/-- `set_driver_buffer_size(driver_buffer_size)`. -/
def setDriverBufferSize (driver_buffer_size : Int) : Block → Except Exception Block :=
  checkedSetter (fun n => decide (n < 1)) "driver buffer size can't be a negative number"
    (fun n b => { b with driverBufferSize := n.toNat }) driver_buffer_size

/-- `set_streaming(poll_rate)`; it also resets `d_nr_captures` to one. -/
def setStreaming (poll_rate : ℚ) : Block → Except Exception Block :=
  checkedSetter (fun p => decide (p < 0)) "poll rate can't be negative"
    (fun p b => { b with acquisitionMode := .streaming, pollRate := p, nrCaptures := 1 })
    poll_rate

/-- `set_rapid_block(nr_captures)`. -/
def setRapidBlock (nr_captures : Int) : Block → Except Exception Block :=
  checkedSetter (fun n => decide (n < 1)) "nr waveforms should be at least one"
    (fun n b => { b with acquisitionMode := .rapidBlock, nrCaptures := n.toNat }) nr_captures

/-- `set_downsampling(mode, downsample_factor)`: the factor is forced to one for
`DOWNSAMPLING_MODE_NONE` and checked otherwise. -/
def setDownsampling (mode : DownsamplingMode) (downsample_factor : Int) (b : Block) :
    Except Exception Block :=
  if mode = .none then .ok { b with downsamplingMode := mode, downsamplingFactor := 1 }
  else if downsample_factor < 2 then
    .error (.invalidArgument "downsampling factor should be at least 2")
  else .ok { b with downsamplingMode := mode, downsamplingFactor := downsample_factor.toNat }

/-- `set_auto_arm(auto_arm)`. -/
def setAutoArm (auto_arm : Bool) (b : Block) : Except Exception Block :=
  .ok { b with autoArm := auto_arm }

/-- `set_trigger_once(once)`. -/
def setTriggerOnce (once : Bool) (b : Block) : Except Exception Block :=
  .ok { b with triggerOnce := once }

/-- `set_aichan(id, enabled, range, dc_coupling, range_offset)`. -/
def setAichan (id : String) (enabled : Bool) (range : ℚ) (dc_coupling : Bool)
    (range_offset : ℚ) (b : Block) : Except Exception Block :=
  (b.convertToAichanIdx id).map fun idx =>
    b.modifyChannel idx fun c =>
      { c with range := range, offset := range_offset, enabled := enabled,
               dcCoupled := dc_coupling }

/-- `set_aichan_range(id, range, range_offset)`. -/
def setAichanRange (id : String) (range range_offset : ℚ) (b : Block) :
    Except Exception Block :=
  (b.convertToAichanIdx id).map fun idx =>
    b.modifyChannel idx fun c => { c with range := range, offset := range_offset }

/-- `set_aichan_trigger(id, direction, threshold)`: the id is parsed only to validate it. -/
def setAichanTrigger (id : String) (direction : TriggerDirection) (threshold : ℚ) (b : Block) :
    Except Exception Block :=
  (b.convertToAichanIdx id).map fun _ =>
    { b with triggerSettings := ⟨id, threshold, direction, 0⟩ }

/-- `set_diport(id, enabled, thresh_voltage)`. -/
def setDiport (id : String) (enabled : Bool) (thresh_voltage : ℚ) (b : Block) :
    Except Exception Block :=
  (b.convertToPortIdx id).map fun port_number =>
    b.modifyPort port_number fun p => { p with logicLevel := thresh_voltage, enabled := enabled }

/-- `set_di_trigger(pin, direction)`. -/
def setDiTrigger (pin : Nat) (direction : TriggerDirection) (b : Block) :
    Except Exception Block :=
  .ok { b with triggerSettings := ⟨TRIGGER_DIGITAL_SOURCE, 0, direction, pin⟩ }

/-- `disable_triggers()`. -/
def disableTriggers (b : Block) : Except Exception Block :=
  .ok { b with triggerSettings := { b.triggerSettings with source := TRIGGER_NONE_SOURCE } }

/-- Over the settings that `set_samples` and `set_downsampling` accept, the pre-trigger part of
a downsampled waveform is shorter than the whole waveform exactly when downsampling is off or
the post-trigger count is at least the factor. -/
theorem preTrigger_lt_blockSize_iff {b b₁ b₂ : Block} {samples pre_samples factor : Int}
    {mode : DownsamplingMode} (hs : b.setSamples samples pre_samples = .ok b₁)
    (hd : b₁.setDownsampling mode factor = .ok b₂) :
    b₂.getPreTriggerSamplesWithDownsampling < b₂.getBlockSizeWithDownsampling ↔
      mode = .none ∨ factor ≤ samples := by
  unfold setSamples at hs
  split_ifs at hs with h1 h2
  obtain rfl := Except.ok.inj hs
  unfold getBlockSizeWithDownsampling getPreTriggerSamplesWithDownsampling
    getPostTriggerSamplesWithDownsampling
  unfold setDownsampling at hd
  split_ifs at hd with h3 h4 <;> obtain rfl := Except.ok.inj hd
  · simp only [h3, ne_eq, not_true_eq_false, if_false, true_or, iff_true]
    omega
  · simp only [h3, ne_eq, not_false_eq_true, if_true, false_or]
    rw [Nat.lt_add_right_iff_pos, Nat.div_pos_iff (by omega)]
    omega

/-- One analog channel with two channel settings, one port with two port settings (the
constructor asserts that the counts are below the lengths). `convert_to_aichan_idx` accepts
`"C"`, index `2`, one past `d_channel_settings`, and `"b"`, index `1`, which is not a channel of
the device; `convert_to_port_idx` accepts `"xxxx0"`, whose prefix is not `port`, and `"port2"`,
index `2`, one past `d_port_settings`. So `set_aichan("C", ...)` and `set_diport("port2", ...)`
succeed and the source writes past the end of its settings arrays (the model's `List.modify`
leaves the arrays as they are). -/
theorem ids_accepted_out_of_range :
    (digitizerBlockImpl [⟨5, 0, true, true, 5⟩, ⟨5, 0, false, true, 5⟩] [⟨1, true⟩, ⟨1, false⟩] 1 1
        false).convertToAichanIdx "C" = .ok 2 ∧
      (digitizerBlockImpl [⟨5, 0, true, true, 5⟩, ⟨5, 0, false, true, 5⟩] [⟨1, true⟩, ⟨1, false⟩] 1 1
        false).convertToAichanIdx "b" = .ok 1 ∧
      (digitizerBlockImpl [⟨5, 0, true, true, 5⟩, ⟨5, 0, false, true, 5⟩] [⟨1, true⟩, ⟨1, false⟩] 1 1
        false).convertToPortIdx "xxxx0" = .ok 0 ∧
      (digitizerBlockImpl [⟨5, 0, true, true, 5⟩, ⟨5, 0, false, true, 5⟩] [⟨1, true⟩, ⟨1, false⟩] 1 1
        false).convertToPortIdx "port2" = .ok 2 ∧
      (digitizerBlockImpl [⟨5, 0, true, true, 5⟩, ⟨5, 0, false, true, 5⟩] [⟨1, true⟩, ⟨1, false⟩] 1 1
        false).setAichan "C" true 5 true 0 =
        .ok (digitizerBlockImpl [⟨5, 0, true, true, 5⟩, ⟨5, 0, false, true, 5⟩] [⟨1, true⟩, ⟨1, false⟩]
          1 1 false) ∧
      (digitizerBlockImpl [⟨5, 0, true, true, 5⟩, ⟨5, 0, false, true, 5⟩] [⟨1, true⟩, ⟨1, false⟩] 1 1
        false).setDiport "port2" true 1 =
        .ok (digitizerBlockImpl [⟨5, 0, true, true, 5⟩, ⟨5, 0, false, true, 5⟩] [⟨1, true⟩, ⟨1, false⟩]
          1 1 false) :=
  ⟨rfl, rfl, rfl, rfl, rfl, rfl⟩

end Block

/-- A call of one configuration setter, with its arguments. -/
inductive Setter where
  | setSamples (samples pre_samples : Int)
  | setSampRate (rate : ℚ)
  | setBufferSize (buffer_size : Int)
  | setNrBuffers (nr_buffers : Int)
  | setDriverBufferSize (driver_buffer_size : Int)
  | setStreaming (poll_rate : ℚ)
  | setRapidBlock (nr_captures : Int)
  | setDownsampling (mode : DownsamplingMode) (downsample_factor : Int)
  | setAichan (id : String) (enabled : Bool) (range : ℚ) (dc_coupling : Bool) (range_offset : ℚ)
  | setAichanRange (id : String) (range range_offset : ℚ)
  | setAichanTrigger (id : String) (direction : TriggerDirection) (threshold : ℚ)
  | setDiport (id : String) (enabled : Bool) (thresh_voltage : ℚ)
  | setDiTrigger (pin : Nat) (direction : TriggerDirection)
  | disableTriggers
  | setAutoArm (auto_arm : Bool)
  | setTriggerOnce (once : Bool)
  deriving DecidableEq, Repr

/-- A call of a setter that checks before it writes: the block it returns, or the block as it
was with the exception it throws. -/
def Block.ofChecked (b : Block) : Except Exception Block → Block × Option Exception
  | .ok b' => (b', none)
  | .error e => (b, some e)

/-- Run a setter call on a block: the block as the call leaves it, and the exception it
throws. -/
def Setter.run : Setter → Block → Block × Option Exception
  | .setSamples s p, b => b.ofChecked (b.setSamples s p)
  | .setSampRate r, b => b.ofChecked (b.setSampRate r)
  | .setBufferSize n, b => b.setBufferSize n
  | .setNrBuffers n, b => b.ofChecked (b.setNrBuffers n)
  | .setDriverBufferSize n, b => b.ofChecked (b.setDriverBufferSize n)
  | .setStreaming p, b => b.ofChecked (b.setStreaming p)
  | .setRapidBlock n, b => b.ofChecked (b.setRapidBlock n)
  | .setDownsampling m f, b => b.ofChecked (b.setDownsampling m f)
  | .setAichan id e r dc o, b => b.ofChecked (b.setAichan id e r dc o)
  | .setAichanRange id r o, b => b.ofChecked (b.setAichanRange id r o)
  | .setAichanTrigger id d t, b => b.ofChecked (b.setAichanTrigger id d t)
  | .setDiport id e v, b => b.ofChecked (b.setDiport id e v)
  | .setDiTrigger pin d, b => b.ofChecked (b.setDiTrigger pin d)
  | .disableTriggers, b => b.ofChecked b.disableTriggers
  | .setAutoArm a, b => b.ofChecked (b.setAutoArm a)
  | .setTriggerOnce o, b => b.ofChecked (b.setTriggerOnce o)

/-- A setter call as its caller sees it: the block on a return, the exception on a throw. -/
def Setter.apply (x : Setter) (b : Block) : Except Exception Block :=
  match x.run b with
  | (b', none) => .ok b'
  | (_, some e) => .error e

/-- `b` with the settings of `c`: the members the setters read and write. -/
def Block.withSettings (b c : Block) : Block :=
  { b with sampRate := c.sampRate, actualSampRate := c.actualSampRate, samples := c.samples,
           preSamples := c.preSamples, nrCaptures := c.nrCaptures, bufferSize := c.bufferSize,
           outputMultiple := c.outputMultiple, nrBuffers := c.nrBuffers,
           driverBufferSize := c.driverBufferSize, acquisitionMode := c.acquisitionMode,
           pollRate := c.pollRate, downsamplingMode := c.downsamplingMode,
           downsamplingFactor := c.downsamplingFactor, aiChannels := c.aiChannels,
           ports := c.ports, channelSettings := c.channelSettings, portSettings := c.portSettings,
           triggerSettings := c.triggerSettings, autoArm := c.autoArm, triggerOnce := c.triggerOnce }

@[simp] theorem Block.withSettings_self (b : Block) : b.withSettings b = b := rfl

/-- A setter reads and writes the settings only: on a block with the settings of `c` it throws
what it throws on `c`, and leaves the block with the settings it leaves `c` with. -/
theorem Setter.run_withSettings (x : Setter) (b c : Block) :
    x.run (b.withSettings c) = (b.withSettings (x.run c).1, (x.run c).2) := by
  cases x <;>
    simp only [Setter.run, Block.setSamples, Block.setSampRate,
      Block.setBufferSize, Block.setNrBuffers, Block.setDriverBufferSize, Block.setStreaming,
      Block.setRapidBlock, Block.setDownsampling, Block.setAichan, Block.setAichanRange,
      Block.setAichanTrigger, Block.setDiport, Block.setDiTrigger, Block.disableTriggers,
      Block.setAutoArm, Block.setTriggerOnce, Block.checkedSetter, Block.convertToAichanIdx,
      Block.convertToPortIdx, Block.MAX_SUPPORTED_AI_CHANNELS, Block.MAX_SUPPORTED_PORTS,
      Block.withSettings] <;>
    (repeat' split) <;> rfl

/-- So a setter call changes nothing but the settings. -/
theorem Setter.run_eq_withSettings (x : Setter) (b : Block) :
    (x.run b).1 = b.withSettings (x.run b).1 := by
  simpa using congrArg Prod.fst (x.run_withSettings b b)

/-- A setter call that throws leaves the block as it was, except `set_buffer_size(0)`, which
has written `d_buffer_size = 0` when `set_output_multiple(0)` throws. -/
theorem Setter.run_of_throw {x : Setter} {b b' : Block} {e : Exception}
    (h : x.run b = (b', some e)) : b' = b ∨ x = .setBufferSize 0 ∧ b' = { b with bufferSize := 0 } := by
  cases x <;>
    simp only [Setter.run, Block.ofChecked, Block.setSamples, Block.setSampRate,
      Block.setBufferSize, Block.setNrBuffers, Block.setDriverBufferSize, Block.setStreaming,
      Block.setRapidBlock, Block.setDownsampling, Block.setAichan, Block.setAichanRange,
      Block.setAichanTrigger, Block.setDiport, Block.setDiTrigger, Block.disableTriggers,
      Block.setAutoArm, Block.setTriggerOnce, Block.checkedSetter, Except.map] at h <;>
    (repeat' split at h) <;> simp only [Prod.mk.injEq, reduceCtorEq, and_false] at h
  all_goals first
    | exact .inl h.1.symm
    | exact .inr ⟨by congr; omega, by rw [← h.1]; congr; omega⟩

/-- A setter call on a block with `d_armed = a` leaves the block the call leaves with any other
value, with `d_armed = a`, and throws the same exception. -/
theorem Setter.run_armed (x : Setter) (b : Block) (a : Bool) :
    x.run { b with armed := a } = ({ (x.run b).1 with armed := a }, (x.run b).2) := by
  have h := x.run_withSettings { b with armed := a } b
  rw [show ({ b with armed := a } : Block).withSettings b = { b with armed := a } from rfl] at h
  rw [h, x.run_eq_withSettings b]
  rfl

/-- No setter reads `d_armed`: on a block with `d_armed = a` a setter accepts or rejects its
arguments as on the same block with any other value, and writes the same fields. -/
theorem Setter.apply_armed (x : Setter) (b : Block) (a : Bool) :
    x.apply { b with armed := a } = (x.apply b).map fun b' => { b' with armed := a } := by
  unfold Setter.apply
  rw [Setter.run_armed]
  rcases x.run b with ⟨b', _ | e⟩ <;> rfl

/-! ## The downsampling factor and the sample rate -/

/-- The control thread's setter calls in order, each on the block the previous call left,
whether it returned or threw. -/
def Block.applySetters : Block → List Setter → Block
  | b, [] => b
  | b, x :: xs => (x.run b).1.applySetters xs

/-- What the downsampling helpers and the timebase divide by: the factor is `1` without
downsampling and at least `2` with it, and the actual sample rate is positive. -/
structure Block.RateInvariant (b : Block) : Prop where
  /-- `set_downsampling` forces the factor to one for `DOWNSAMPLING_MODE_NONE`. -/
  factor_of_none : b.downsamplingMode = .none → b.downsamplingFactor = 1
  /-- and rejects a factor below two for every other mode. -/
  factor_of_mode : b.downsamplingMode ≠ .none → 2 ≤ b.downsamplingFactor
  /-- `set_samp_rate` rejects a rate that is not positive. -/
  rate_pos : 0 < b.actualSampRate

/-- The constructor sets no downsampling, a factor of one and a rate of `10000`. -/
theorem digitizerBlockImpl_rateInvariant (channels : List ChannelSetting) (ports : List PortSetting)
    (ai_channels di_ports : Nat) (auto_arm : Bool) :
    (digitizerBlockImpl channels ports ai_channels di_ports auto_arm).RateInvariant where
  factor_of_none _ := rfl
  factor_of_mode h := absurd rfl h
  rate_pos := show (0 : ℚ) < 10000 by decide

/-- Every setter call, returning or throwing, keeps the invariant: `set_samp_rate` and
`set_downsampling` check what they write, and no other setter writes these members. -/
theorem Setter.run_rateInvariant (x : Setter) {b : Block} (hb : b.RateInvariant) :
    (x.run b).1.RateInvariant := by
  cases x
  case setSampRate r =>
    simp only [Setter.run, Block.setSampRate, Block.checkedSetter]
    split_ifs with hr
    · exact hb
    · exact ⟨hb.1, hb.2, by simpa using hr⟩
  case setDownsampling mode f =>
    simp only [Setter.run, Block.setDownsampling]
    split_ifs with hm hf
    · exact ⟨fun _ => rfl, fun h => absurd hm h, hb.3⟩
    · exact hb
    · exact ⟨fun h => absurd h hm, fun _ => show 2 ≤ f.toNat by omega, hb.3⟩
  all_goals
    simp only [Setter.run, Block.setSamples, Block.setBufferSize, Block.setNrBuffers, Block.setDriverBufferSize, Block.setStreaming, Block.setRapidBlock,
      Block.setAutoArm, Block.setTriggerOnce, Block.setAichan, Block.setAichanRange,
      Block.setAichanTrigger, Block.setDiport, Block.setDiTrigger, Block.disableTriggers,
      Block.checkedSetter, Except.map]
    (repeat' split) <;> exact ⟨hb.1, hb.2, hb.3⟩

/-- Every sequence of setter calls, those that throw included, keeps the invariant. -/
theorem Block.RateInvariant.applySetters {b : Block} (hb : b.RateInvariant) :
    ∀ xs : List Setter, (b.applySetters xs).RateInvariant := by
  intro xs
  induction xs generalizing b with
  | nil => exact hb
  | cons x xs ih => exact ih (x.run_rateInvariant hb)

namespace Block.RateInvariant

variable {b : Block} (hb : b.RateInvariant)
include hb

/-- The factor is never zero, with or without downsampling. -/
theorem factor_pos : 0 < b.downsamplingFactor := by
  by_cases hm : b.downsamplingMode = .none
  · rw [hb.factor_of_none hm]; exact Nat.one_pos
  · exact Nat.lt_of_lt_of_le (by decide) (hb.factor_of_mode hm)

/-- The timebase is the spec's `downsampling_factor / actual_sample_rate` in both branches. -/
theorem getTimebaseWithDownsampling_eq :
    b.getTimebaseWithDownsampling = b.downsamplingFactor / b.actualSampRate := by
  unfold getTimebaseWithDownsampling
  split_ifs with hm
  · rw [hb.factor_of_none hm, Nat.cast_one]
  · rfl

end Block.RateInvariant

/-- Downsampling never lengthens a waveform. -/
theorem Block.getBlockSizeWithDownsampling_le (b : Block) :
    b.getBlockSizeWithDownsampling ≤ b.getBlockSize := by
  unfold getBlockSizeWithDownsampling getPreTriggerSamplesWithDownsampling
    getPostTriggerSamplesWithDownsampling getBlockSize
  split_ifs
  · exact Nat.add_comm _ _ ▸ Nat.add_le_add (Nat.div_le_self _ _) (Nat.div_le_self _ _)
  · omega

/-- From the constructor, over every sequence of setter calls, those that throw included: the
downsampling factor is `1` without downsampling and at least `2` with it and the actual sample
rate is positive, so neither divisor of the downsampling helpers and of the timebase is zero; and
downsampling never lengthens a waveform. -/
theorem setters_keep_rate_invariant (channels : List ChannelSetting) (ports : List PortSetting)
    (ai_channels di_ports : Nat) (auto_arm : Bool) (xs : List Setter) :
    let b := (digitizerBlockImpl channels ports ai_channels di_ports auto_arm).applySetters xs
    (b.downsamplingMode = .none → b.downsamplingFactor = 1) ∧
      (b.downsamplingMode ≠ .none → 2 ≤ b.downsamplingFactor) ∧ 0 < b.actualSampRate ∧
      0 < b.downsamplingFactor ∧ b.getBlockSizeWithDownsampling ≤ b.getBlockSize := by
  intro b
  have hb : b.RateInvariant :=
    (digitizerBlockImpl_rateInvariant channels ports ai_channels di_ports auto_arm).applySetters xs
  exact ⟨hb.1, hb.2, hb.3, hb.factor_pos, b.getBlockSizeWithDownsampling_le⟩

end DigitizerBlock
