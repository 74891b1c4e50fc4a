import DigitizerBlock.Trigger
import DigitizerBlock.Lifecycle

/-!
# Streaming: one chunk per `work()` call

What `work_stream` does once `d_app_buffer.wait_data_ready()` returned no error: it points the
pointer vectors at the output slots, lets the application buffer copy one chunk into them,
attaches acquisition-info tags, runs the software trigger on one slot and attaches a trigger
tag at every offset it reports.

The output slots of the block are laid out as the output signature fixes them: channel `i` has
its values at slot `2 i` and its errors at `2 i + 1`, port `j` sits at `2 d_ai_channels + j`,
and a disabled input keeps its slots. Four loops of `work_stream` walk the inputs with a
counter; `slotLoop` is that loop once. The data loop advances the counter over disabled inputs
too (`slotLoop_fill`); the loops that place the tags and pick the trigger buffer advance it
over enabled inputs only (`slotLoop_skip`), so they agree with the layout exactly when no lower
input is disabled (`triggerBufferSlot_eq_layout_iff`). `arm()` sizes the pointer vectors to what
the data loop fills, for the settings as they stand at `arm()` (`armSucceeded_ptrs`).
-/

set_option autoImplicit false

namespace DigitizerBlock

/-- The contents of one output buffer: `float` samples for the analog values and errors, bytes
for the digital ports. -/
inductive OutputItem where
  | floats (xs : List ℚ)
  | bytes (xs : List UInt8)
  deriving DecidableEq, Repr

/-- A buffer read through `float const *`; a byte buffer read so yields no samples here. -/
def OutputItem.asFloats : OutputItem → List ℚ
  | .floats xs => xs
  | .bytes _ => []

/-- A buffer read through `uint8_t const *`; a float buffer read so yields no samples here. -/
def OutputItem.asBytes : OutputItem → List UInt8
  | .floats _ => []
  | .bytes xs => xs

/-- The payload of a stream tag. -/
inductive TagKind where
  /-- `make_acq_info_tag`: timebase, sample count and channel status. -/
  | acqInfo (timebase : ℚ) (samples status : Nat)
  /-- `make_trigger_tag()` with default contents. -/
  | trigger
  /-- `make_trigger_tag(pre, post, status, timebase, ...)`. -/
  | triggerInfo (pre post status : Nat) (timebase : ℚ)
  /-- `make_timebase_info_tag(timebase)`. -/
  | timebase (t : ℚ)
  deriving DecidableEq, Repr

/-- `add_item_tag(slot, tag)` with the tag's absolute stream offset. -/
structure Tag where
  slot : Nat
  offset : Nat
  kind : TagKind
  deriving DecidableEq, Repr

/-- The counter loops over the inputs `i < n`: an enabled `i` records the counter and adds
`onEnabled` to it, a disabled one adds `onDisabled`. The recorded values, in loop order, and the
final counter. -/
def slotLoop (enabled : Nat → Bool) (onEnabled onDisabled : Nat) : Nat → Nat → List Nat × Nat
  | 0, c => ([], c)
  | n + 1, c =>
    let r := slotLoop enabled onEnabled onDisabled n c
    if enabled n then (r.1 ++ [r.2], r.2 + onEnabled) else (r.1, r.2 + onDisabled)

/-- Modelled from the spec (§4.2 AppBuffer): `get_data_chunk` dequeues the oldest chunk and
returns it with the lost count, which it resets. -/
def AppBuffer.getDataChunk (a : AppBuffer) : Option (AcqChunk × Nat × AppBuffer) :=
  match a.chunks with
  | [] => none
  | c :: cs => some (c, a.lost, { a with chunks := cs, lost := 0 })

/-- Modelled from the spec (§4.2 AppBuffer): `push(chunk)` enqueues; on a full ring the oldest
chunk is overwritten and counted as lost. -/
def AppBuffer.push (c : AcqChunk) (a : AppBuffer) : AppBuffer :=
  if a.chunks.length < a.shape.2.2.2 then { a with chunks := a.chunks ++ [c] }
  else { a with chunks := a.chunks.tail ++ [c], lost := a.lost + 1 }

/-- The chunk read when no chunk is queued; not reached, since `wait_data_ready` returns no
error only with a chunk queued. -/
def AcqChunk.empty : AcqChunk := ⟨[], [], [], [], 0⟩

namespace Block

/-- Write the recorded slots into a pointer vector from index `0` (`ptrs[k] = slot`). -/
def writePtrs (v : List (Option Nat)) (slots : List Nat) : List (Option Nat) :=
  (slots.zip (List.range slots.length)).foldl (fun v p => v.set p.2 (some p.1)) v

/-- Modelled from the spec (§4.2 AppBuffer): the copy of `get_data_chunk`: the `k`-th pointer
of each vector receives the `k`-th channel's (or port's) data of the chunk. -/
def copyChunk (c : AcqChunk) (b : Block) (outputs : List OutputItem) : List OutputItem :=
  let put (o : List OutputItem) (ptr : Option Nat) (x : OutputItem) :=
    match ptr with
    | some slot => o.set slot x
    | none => o
  let o := (b.aiBuffers.zip (c.values.map .floats)).foldl (fun o p => put o p.1 p.2) outputs
  let o := (b.aiErrorBuffers.zip (c.errors.map .floats)).foldl (fun o p => put o p.1 p.2) o
  (b.portBuffers.zip (c.ports.map .bytes)).foldl (fun o p => put o p.1 p.2) o

/-- The data loop of `work_stream`: the value slot of each enabled channel (its error slot is
the next one) and the counter after the channels. -/
def dataChannelSlots (b : Block) : List Nat × Nat := slotLoop b.channelEnabled 2 2 b.aiChannels 0

/-- The data loop of `work_stream` over the ports, continuing the counter. -/
def dataPortSlots (b : Block) : List Nat × Nat :=
  slotLoop b.portEnabled 1 1 b.ports b.dataChannelSlots.2

/-- The tag loop of `work_stream` over the channels: the slot of each enabled channel's tag. -/
def tagChannelSlots (b : Block) : List Nat × Nat := slotLoop b.channelEnabled 2 0 b.aiChannels 0

/-- The tag loop of `work_stream` over the ports, continuing the counter. -/
def tagPortSlots (b : Block) : List Nat × Nat :=
  slotLoop b.portEnabled 1 0 b.ports b.tagChannelSlots.2

/-- The slot of the analog trigger buffer: two per enabled channel below `aichan`. -/
def triggerBufferSlot (b : Block) (aichan : Nat) : Nat :=
  (slotLoop b.channelEnabled 2 0 aichan 0).2

/-- The software trigger of `work_stream` on the filled output slots: the offsets, and the
block with the detector state it leaves. `find_*_triggers` take the sample count as an `int`,
so they read `d_buffer_size` samples below `2^31` and none from there on. -/
def softwareTrigger (b : Block) (outputs : List OutputItem) :
    Except Exception (Block × List Nat) :=
  if b.triggerSettings.isAnalog then
    match b.convertToAichanIdx b.triggerSettings.source with
    | .error e => .error e
    | .ok aichan =>
      b.findAnalogTriggers (((outputs[b.triggerBufferSlot aichan]?).map OutputItem.asFloats).getD
        [] |>.take (uint32ToInt b.bufferSize).toNat)
  else if b.triggerSettings.isDigital then
    let port := b.triggerSettings.pinNumber / 8
    let mask : UInt8 := (1 <<< (b.triggerSettings.pinNumber % 8)).toUInt8
    .ok (b.findDigitalTriggers (((outputs[outputs.length - b.ports + port]?).map
      OutputItem.asBytes).getD [] |>.take (uint32ToInt b.bufferSize).toNat) mask)
  else .ok (b, [])

/-- `channel_status.at(i)`, which throws `std::out_of_range` past the end. -/
def statusAt (status : List Nat) (i : Nat) : Except Exception Nat :=
  match status[i]? with
  | some s => .ok s
  | none => .error .outOfRange

/-- The acquisition-info tags: one per enabled channel, with its status `channel_status.at(i)`,
and one per enabled port with status `0`. -/
def acqInfoTags (b : Block) (status : List Nat) : Except Exception (List Tag) :=
  let info (s : Nat) : TagKind := .acqInfo b.getTimebaseWithDownsampling b.bufferSize s
  match ((List.range b.aiChannels).filter b.channelEnabled).mapM (statusAt status) with
  | .error e => .error e
  | .ok sts =>
    .ok ((b.tagChannelSlots.1.zip sts).map (fun p => ⟨p.1, b.nitemsWritten, info p.2⟩) ++
      b.tagPortSlots.1.map (fun slot => ⟨slot, b.nitemsWritten, info 0⟩))

/-- The trigger tags at offset `o`: one on the tag slot of every enabled channel and port. -/
def triggerTags (b : Block) (o : Nat) : List Tag :=
  (b.tagChannelSlots.1 ++ b.tagPortSlots.1).map fun slot => ⟨slot, b.nitemsWritten + o, .trigger⟩

/-- `work_stream` after a wait that returned no error: the pointer vectors, the chunk copied into
the output slots, and the tags; the call then returns `d_buffer_size` (`Sys.streamAfterWait`).
`outputs` are the scheduler's buffers as the call finds them. The model does not read
`noutput_items` and leaves out the `assert(noutput_items >= d_buffer_size)` at the top of the
call: the chunk is copied whole, whatever room the scheduler gave. -/
def workStreamData (b : Block) (outputs : List OutputItem) :
    Except Exception (Block × List OutputItem × List Tag) :=
  let b := { b with aiBuffers := writePtrs b.aiBuffers b.dataChannelSlots.1,
                    aiErrorBuffers := writePtrs b.aiErrorBuffers (b.dataChannelSlots.1.map (· + 1)),
                    portBuffers := writePtrs b.portBuffers b.dataPortSlots.1 }
  let (c, b) := match b.appBuffer.getDataChunk with
    | some (c, _, a) => (c, { b with appBuffer := a })
    | none => (AcqChunk.empty, b)
  let outputs := b.copyChunk c outputs
  match b.acqInfoTags c.status with
  | .error e => .error e
  | .ok info =>
    match b.softwareTrigger outputs with
    | .error e => .error e
    | .ok (b, offsets) => .ok (b, outputs, info ++ offsets.flatMap b.triggerTags)

/-! ## The slot layout -/

/-- A loop that advances the counter by the same amount over every input records the layout
position `c + e i` of each enabled input `i`. -/
theorem slotLoop_fill (enabled : Nat → Bool) (e c : Nat) :
    ∀ n, slotLoop enabled e e n c =
      (((List.range n).filter enabled).map (fun i => c + e * i), c + e * n)
  | 0 => rfl
  | n + 1 => by
    rw [slotLoop, slotLoop_fill enabled e c n, List.range_succ, List.filter_append]
    cases h : enabled n <;> simp [h, Nat.mul_succ, Nat.add_assoc]

/-- A loop that advances the counter over enabled inputs only records `c + e k` for the `k`-th
enabled input, whatever its index. -/
theorem slotLoop_skip (enabled : Nat → Bool) (e c : Nat) :
    ∀ n, slotLoop enabled e 0 n c =
      ((List.range ((List.range n).countP enabled)).map (fun k => c + e * k),
        c + e * (List.range n).countP enabled)
  | 0 => rfl
  | n + 1 => by
    rw [slotLoop, slotLoop_skip enabled e c n, List.range_succ, List.countP_append]
    cases h : enabled n <;> simp [h, List.range_succ, Nat.mul_succ, Nat.add_assoc]

/-- The data loop puts channel `i`'s values in slot `2 i`, as the layout says. -/
theorem dataChannelSlots_eq (b : Block) :
    b.dataChannelSlots.1 = ((List.range b.aiChannels).filter b.channelEnabled).map (2 * ·) := by
  simp [dataChannelSlots, slotLoop_fill]

/-- The data loop over the ports records each enabled port's slot after the channels'. -/
theorem dataPortSlots_eq (b : Block) :
    b.dataPortSlots.1 = ((List.range b.ports).filter b.portEnabled).map
      (fun j => 2 * b.aiChannels + j) := by
  simp [dataPortSlots, dataChannelSlots, slotLoop_fill]

/-- `arm()` sizes the pointer vectors to the channels and ports that `work_stream` fills, as the
settings stand when it runs; `configure()` counts over the whole settings arrays instead, and a
setter may change the settings between `arm()` and `work()`. -/
theorem armSucceeded_ptrs (b : Block) :
    b.armSucceeded.aiBuffers.length = b.armSucceeded.dataChannelSlots.1.length ∧
      b.armSucceeded.aiErrorBuffers.length = b.armSucceeded.dataChannelSlots.1.length ∧
      b.armSucceeded.portBuffers.length = b.armSucceeded.dataPortSlots.1.length := by
  have hr : ∀ (v : List (Option Nat)) (n : Nat), (resizePtrs v n).length = n := fun v n => by
    simp only [resizePtrs, List.length_append, List.length_take, List.length_replicate]
    omega
  simp only [dataChannelSlots_eq, dataPortSlots_eq, List.length_map, ← List.countP_eq_length_filter]
  exact ⟨hr _ _, hr _ _, hr _ _⟩

/-- The tag loop puts the `k`-th enabled channel's tag in slot `2 k`. -/
theorem tagChannelSlots_eq (b : Block) :
    b.tagChannelSlots.1 =
      (List.range ((List.range b.aiChannels).countP b.channelEnabled)).map (2 * ·) := by
  simp [tagChannelSlots, slotLoop_skip]

/-- The analog trigger buffer is slot `2 k` for the `k` enabled channels below the source. -/
theorem triggerBufferSlot_eq (b : Block) (aichan : Nat) :
    b.triggerBufferSlot aichan = 2 * (List.range aichan).countP b.channelEnabled := by
  simp [triggerBufferSlot, slotLoop_skip]

/-- The trigger buffer is the source's value slot `2 aichan` exactly when every channel below
the source is enabled. -/
theorem triggerBufferSlot_eq_layout_iff (b : Block) (aichan : Nat) :
    b.triggerBufferSlot aichan = 2 * aichan ↔ ∀ i < aichan, b.channelEnabled i = true := by
  rw [triggerBufferSlot_eq, Nat.mul_left_cancel_iff (by norm_num)]
  constructor
  · intro h i hi
    have := List.countP_eq_length.mp (h.trans (List.length_range aichan).symm)
    simpa using this i (List.mem_range.mpr hi)
  · intro h
    rw [List.countP_eq_length.mpr fun i hi => h i (List.mem_range.mp hi), List.length_range]

end Block

/-- Channel `A` disabled, channel `B` enabled with range `5 V` and a rising trigger at `1 V` on
it, buffer size one, armed, one chunk queued in which `B` rises to `2`: `work_stream`
copies `B`'s values into slot 2, but puts `B`'s acquisition-info tag on slot 0 and runs the
detector on slot 0, which this call did not write, so the rise is not reported. -/
theorem workStream_slots_of_disabled_channelA :
    ∃ b, ((digitizerBlockImpl [⟨5, 0, false, true, 5⟩, ⟨5, 0, true, true, 5⟩] [] 2 0 false
        |>.setAichanTrigger "B" .rising 1) >>= (Setter.setBufferSize 1).apply) = .ok b ∧
      ∃ b', ({ ((b.initialise none).1.configure none none).1.arm none |>.1 with
          appBuffer := (((b.initialise none).1.configure none none).1.arm none).1.appBuffer.push
            ⟨[[2]], [[0]], [], [0, 9], 0⟩ } : Block).workStreamData
          [.floats [0], .floats [0], .floats [0], .floats [0]] =
        .ok (b', [.floats [0], .floats [0], .floats [2], .floats [0]],
          [⟨0, 0, .acqInfo (1 / 10000) 1 9⟩]) :=
  ⟨_, rfl, _, rfl⟩

end DigitizerBlock
