import DigitizerBlock.Stream

/-!
# Rapid-block mode: `work_rapid_block`

In rapid-block mode each `work()` call runs the fetch state machine `d_bstate` one step. In
`WAITING` the call ends the stream once the one waveform of trigger-once mode is out, re-arms
under auto-arm, and waits for the driver's block-complete notification; a successful wait
starts a capture sequence of `d_nr_captures` waveforms. Each waveform is then read in calls of
at most `noutput_items` samples: the first (`READING_PART1`) asks the driver to prefetch and
attaches the trigger tags, the others (`READING_THE_REST`) only read.

The spec's view of a capture sequence is a cursor over the samples of all its waveforms in
reading order (`Capture`): a call asking for `n` items gets the next `min n (N - offset)`
samples of the current waveform. `RapidBlockMachine.toCapture` maps the state machine to that
cursor; `rapidRead_refines` shows that one reading call of the code is one step of the cursor
and `captureRun_refines` lifts this to a whole capture sequence, whose properties are proved
once on the cursor (`Capture.run_samples` and its companions).

`workRun` runs `work_rapid_block` calls one after another. A call that reaches `READING_PART1`
sets `d_was_triggered_once` and no call clears it (`workRun_once`), so in trigger-once mode
every call after the first capture returns `-1` and touches nothing
(`trigger_once_single_capture`). The trigger point of `READING_PART1` is `pre` items after the
waveform's start; with downsampling the pre-trigger part can fill the whole waveform, and the
tag then lands on the next one (`trigger_tag_past_waveform`).
-/

set_option autoImplicit false

namespace DigitizerBlock

/-! ## Requests, results and driver outcomes -/

/-- A request `driver_get_rapid_block_data(offset, n, waveform_idx, ...)`; the offset and the
count are the `int`s `d_bstate.offset` and `noutput_items`. -/
structure BlockRead where
  offset : Int
  count : Int
  waveform : Nat
  deriving DecidableEq, Repr

/-- The positions of the requested samples in the reading order of a capture of waveforms of
`N` samples: waveform `w`, sample `i` is at `w N + i`. -/
def BlockRead.samples (N : Nat) (r : BlockRead) : List Nat :=
  List.range' (r.waveform * N + r.offset.toNat) r.count.toNat

/-- What one `work()` call hands the scheduler: its return value (`-1` ends the stream), the
driver request it made, and the tags it attached. -/
structure WorkResult where
  ret : Int
  read : Option BlockRead
  tags : List Tag
  deriving DecidableEq, Repr

/-- The outcomes of the driver calls one `work_rapid_block` call can make, chosen by the
environment: `driver_disarm()` and `driver_arm()` under auto-arm, the notification that ends
`wait_data_ready()` when `d_data_rdy` is unset, `driver_prefetch_block`, and
`driver_get_rapid_block_data` with the status words it writes to `d_status`. -/
structure RapidEnv where
  ecDisarm : Option Errc
  ecArm : Option Errc
  ecNotify : Option Errc
  ecPrefetch : Option Errc
  ecData : Option Errc
  status : List Nat
  deriving DecidableEq, Repr

/-- Every driver call of the environment succeeds. -/
def RapidEnv.Succeeds (env : RapidEnv) : Prop :=
  env.ecDisarm = none ∧ env.ecArm = none ∧ env.ecNotify = none ∧ env.ecPrefetch = none ∧
    env.ecData = none

/-- The tag loops of `work_rapid_block` from input `i`, with `r` inputs left and counter `c`: an
input is visited while `c` is below `size`, the number of output slots; an enabled one records
its index and `c`, and every visited one advances `c` by `stride`. The records and the final
counter. -/
def boundedSlotLoop (enabled : Nat → Bool) (stride size : Nat) :
    Nat → Nat → Nat → List (Nat × Nat) × Nat
  | _, 0, c => ([], c)
  | i, r + 1, c =>
    if c < size then
      let rest := boundedSlotLoop enabled stride size (i + 1) r (c + stride)
      (if enabled i then (i, c) :: rest.1 else rest.1, rest.2)
    else ([], c)

namespace Block

/-! ## `work_rapid_block` -/

/-- The tags of `READING_PART1` with `size` output slots: on the value slot of every enabled
channel and on every enabled port, a trigger tag with the pre- and post-trigger sizes, the
status and the timebase at the waveform's first item, and a default trigger tag at the trigger
point, `pre` items later. A channel's status is `d_status[i]`, a port's `0`. -/
def rapidTriggerTags (b : Block) (size : Nat) : List Tag :=
  let pre := b.getPreTriggerSamplesWithDownsampling
  let info (s : Nat) : TagKind :=
    .triggerInfo pre b.getPostTriggerSamplesWithDownsampling s b.getTimebaseWithDownsampling
  let pair (slot s : Nat) : List Tag :=
    [⟨slot, b.nitemsWritten, info s⟩, ⟨slot, b.nitemsWritten + pre, .trigger⟩]
  let chans := boundedSlotLoop b.channelEnabled 2 size 0 b.aiChannels 0
  let ports := boundedSlotLoop b.portEnabled 1 size 0 b.ports chans.2
  chans.1.flatMap (fun p => pair p.2 (b.status.getD p.1 0)) ++
    ports.1.flatMap (fun p => pair p.2 0)

/-- `disarm()` in rapid-block mode, where it does not wait for the poller. -/
def rapidDisarm (ec : Option Errc) (b : Block) : Block :=
  match b.disarmBegin with
  | some (b, _) => b.disarmEnd ec
  | none => b

/-- The `WAITING` branch up to `wait_data_ready()`: end of stream once the one waveform of
trigger-once mode is out; under auto-arm `disarm()` and then `arm()`, whose exception also
ends the stream. `none` when the call goes on to wait. -/
def rapidBeforeWait (ecDisarm ecArm : Option Errc) (b : Block) : Block × Option Int :=
  if b.triggerOnce && b.wasTriggeredOnce then (b, some (-1))
  else if b.autoArm then
    match (b.rapidDisarm ecDisarm).arm ecArm with
    | (b, some _) => (b, some (-1))
    | (b, none) => (b, none)
  else (b, none)

/-- `wait_data_ready()` once it returns: with `d_data_rdy` unset, the driver's block-complete
callback `notify_data_ready(ec)` is what ends the wait. The block and the error returned. -/
def waitDataReady (ec : Option Errc) (b : Block) : Block × Option Errc :=
  let b := if b.dataRdy then b else b.notifyDataReady ec
  (b, b.dataRdyErrc)

/-- The `WAITING` branch after the wait returned `ec`: `clear_data_ready()`, end of stream on
`Stopped`, `0` on another error, else a capture sequence of `d_nr_captures` waveforms. -/
def rapidAfterWait (ec : Option Errc) (b : Block) : Block × Option Int :=
  let b := b.clearDataReady
  match ec with
  | some .stopped => (b, some (-1))
  | some _ => (b, some 0)
  | none => ({ b with bstate := b.bstate.initialise b.nrCaptures }, none)

/-- The `WAITING` branch of `work_rapid_block`, taken when `d_bstate` is in `WAITING`: `some`
return value when the call ends in it. -/
def rapidWaiting (env : RapidEnv) (b : Block) : Block × Option Int :=
  if b.bstate.state = .waiting then
    match b.rapidBeforeWait env.ecDisarm env.ecArm with
    | (b, some r) => (b, some r)
    | (b, none) =>
      let w := b.waitDataReady env.ecNotify
      w.1.rapidAfterWait w.2
  else (b, none)

/-- `READING_PART1`: the trigger-once flag, `driver_prefetch_block`, the waveform's
parameters, the first read of at most `n` samples, the trigger tags and `update_state`. The
`int` `samples_left` receives the `uint32_t` `get_block_size_with_downsampling()`. -/
def readingPart1 (n size : Nat) (ecPrefetch ecData : Option Errc) (status : List Nat)
    (b : Block) : Block × WorkResult :=
  let b := { b with wasTriggeredOnce := true }
  match ecPrefetch with
  | some e => (b.addErrorCode e, ⟨-1, none, []⟩)
  | none =>
    let m := b.bstate.setWaveformParams 0 (uint32ToInt b.getBlockSizeWithDownsampling)
    let k := min (n : Int) m.samplesLeft
    let rd : BlockRead := ⟨m.offset, k, m.waveformIdx⟩
    match ecData with
    | some e => ({ b with bstate := m }.addErrorCode e, ⟨-1, some rd, []⟩)
    | none =>
      let b := { b with bstate := m, status := status }
      ({ b with bstate := m.updateState k }, ⟨k, some rd, b.rapidTriggerTags size⟩)

/-- `READING_THE_REST`: a read of at most `n` samples and `update_state`. -/
def readingTheRest (n : Nat) (ecData : Option Errc) (status : List Nat) (b : Block) :
    Block × WorkResult :=
  let m := b.bstate
  let k := min (n : Int) m.samplesLeft
  let rd : BlockRead := ⟨m.offset, k, m.waveformIdx⟩
  match ecData with
  | some e => (b.addErrorCode e, ⟨-1, some rd, []⟩)
  | none => ({ b with status := status, bstate := m.updateState k }, ⟨k, some rd, []⟩)

/-- The reading part of `work_rapid_block`, on the state the `WAITING` branch left. -/
def rapidRead (n size : Nat) (ecPrefetch ecData : Option Errc) (status : List Nat)
    (b : Block) : Block × WorkResult :=
  match b.bstate.state with
  | .readingPart1 => b.readingPart1 n size ecPrefetch ecData status
  | .readingTheRest => b.readingTheRest n ecData status
  | .waiting => (b, ⟨-1, none, []⟩)

/-- `work_rapid_block(noutput_items, output_items)` with `n` requested items, `size` output
slots and the driver outcomes `env`. -/
def workRapidBlock (env : RapidEnv) (n size : Nat) (b : Block) : Block × WorkResult :=
  match b.rapidWaiting env with
  | (b, some r) => (b, ⟨r, none, []⟩)
  | (b, none) => b.rapidRead n size env.ecPrefetch env.ecData env.status

/-- The scheduler after a `work()` call: `nitems_written(0)` advances by the items produced. -/
def produce (r : WorkResult) (b : Block) : Block :=
  { b with nitemsWritten := b.nitemsWritten + r.ret.toNat }

@[simp] theorem produce_bstate (r : WorkResult) (b : Block) : (b.produce r).bstate = b.bstate := rfl

/-- Successive `work_rapid_block` calls of one capture sequence: each call meets the driver
outcomes and the `noutput_items` of its entry in `calls`, and the sequence ends when the block
is back in `WAITING`. Each call's `noutput_items` with its result, and the block at the end. -/
def captureRun (size : Nat) : Block → List (RapidEnv × Nat) → List (Nat × WorkResult) × Block
  | b, [] => ([], b)
  | b, (env, n) :: calls =>
    let r := b.workRapidBlock env n size
    let b' := r.1.produce r.2
    if b'.bstate.state = .waiting then ([(n, r.2)], b')
    else
      let rest := captureRun size b' calls
      ((n, r.2) :: rest.1, rest.2)

end Block

/-! ## The spec's capture sequence -/

/-- The spec's view of a capture sequence (§4.4): `count` waveforms of `size` samples, read
waveform by waveform, and `cursor`, the position in that order of the next sample to
deliver. -/
@[ext] structure Capture where
  count : Nat
  size : Nat
  cursor : Nat
  cursor_le : cursor ≤ count * size

namespace Capture

/-- Every sample of the capture has been delivered. -/
def Done (c : Capture) : Prop := c.cursor = c.count * c.size

instance (c : Capture) : Decidable c.Done := inferInstanceAs (Decidable (_ = _))

/-- How many samples a call asking for `n` items gets: the rest of the current waveform, at
most `n`; nothing once the capture is complete. -/
def chunk (c : Capture) (n : Nat) : Nat :=
  if c.cursor < c.count * c.size then min n (c.size - c.cursor % c.size) else 0

/-- The request that delivers them: waveform `cursor / size` from its sample `cursor % size`. -/
def read (c : Capture) (n : Nat) : BlockRead :=
  ⟨(c.cursor % c.size : Nat), (c.chunk n : Nat), c.cursor / c.size⟩

/-- A cursor inside the capture is in a waveform below `count`, and the rest of that waveform
is still inside the capture. -/
theorem waveform_lt (c : Capture) (h : c.cursor < c.count * c.size) :
    c.cursor / c.size < c.count ∧ c.cursor + (c.size - c.cursor % c.size) ≤ c.count * c.size := by
  have hpos : 0 < c.size := Nat.pos_of_ne_zero fun h0 => by simp [h0] at h
  have hw : c.cursor / c.size < c.count := (Nat.div_lt_iff_lt_mul hpos).2 h
  have hdm := Nat.div_add_mod c.cursor c.size
  have hmod := Nat.mod_lt c.cursor hpos
  have hle : c.size * (c.cursor / c.size + 1) ≤ c.size * c.count := Nat.mul_le_mul_left _ hw
  rw [Nat.mul_succ, Nat.mul_comm c.size c.count] at hle
  exact ⟨hw, by omega⟩

theorem cursor_add_chunk_le (c : Capture) (n : Nat) : c.cursor + c.chunk n ≤ c.count * c.size := by
  unfold chunk
  split
  · have := (c.waveform_lt ‹_›).2
    have := Nat.min_le_right n (c.size - c.cursor % c.size)
    omega
  · simpa using c.cursor_le

@[simp] theorem read_count (c : Capture) (n : Nat) : (c.read n).count = c.chunk n := rfl

@[simp] theorem read_count_toNat (c : Capture) (n : Nat) : (c.read n).count.toNat = c.chunk n :=
  Int.toNat_ofNat _

/-- The capture after a call asking for `n` items. -/
def deliver (c : Capture) (n : Nat) : Capture :=
  ⟨c.count, c.size, c.cursor + c.chunk n, c.cursor_add_chunk_le n⟩

@[simp] theorem deliver_count (c : Capture) (n : Nat) : (c.deliver n).count = c.count := rfl
@[simp] theorem deliver_size (c : Capture) (n : Nat) : (c.deliver n).size = c.size := rfl
@[simp] theorem deliver_cursor (c : Capture) (n : Nat) :
    (c.deliver n).cursor = c.cursor + c.chunk n := rfl

/-- The spec's deliveries for successive calls asking for `ns` items, up to the end of the
capture: each call's request with its read. -/
def run (c : Capture) : List Nat → List (Nat × BlockRead)
  | [] => []
  | n :: ns => (n, c.read n) :: if (c.deliver n).Done then [] else (c.deliver n).run ns

theorem chunk_le (c : Capture) (n : Nat) : c.chunk n ≤ n := by
  unfold chunk; split <;> omega

theorem chunk_pos (c : Capture) {n : Nat} (hd : ¬c.Done) (hn : 0 < n) : 0 < c.chunk n := by
  have hlt : c.cursor < c.count * c.size := lt_of_le_of_ne c.cursor_le hd
  have hpos : 0 < c.size := Nat.pos_of_ne_zero fun h0 => by simp [h0] at hlt
  have := Nat.mod_lt c.cursor hpos
  simp only [chunk, hlt, if_true]
  omega

/-- Each request of a capture in progress stays inside one waveform of the capture. -/
theorem read_within (c : Capture) (n : Nat) (hd : ¬c.Done) :
    0 ≤ (c.read n).offset ∧ (c.read n).offset + (c.read n).count ≤ c.size ∧
      (c.read n).waveform < c.count := by
  have hlt : c.cursor < c.count * c.size := lt_of_le_of_ne c.cursor_le hd
  have hpos : 0 < c.size := Nat.pos_of_ne_zero fun h0 => by simp [h0] at hlt
  have := Nat.mod_lt c.cursor hpos
  simp only [read, chunk, hlt, if_true]
  exact ⟨by omega, by omega, (c.waveform_lt hlt).1⟩

/-- A request reads the samples from the cursor on. -/
theorem read_samples (c : Capture) (n : Nat) :
    (c.read n).samples c.size = List.range' c.cursor (c.chunk n) := by
  simp only [read, BlockRead.samples, Int.toNat_ofNat, Nat.div_add_mod']

section Run

variable (c : Capture) (ns : List Nat)

/-- Every request of a run asks for at least one and at most the requested number of items,
inside one waveform of the capture. -/
theorem run_reads (hn : ∀ n ∈ ns, 0 < n) (hd : ¬c.Done) :
    ∀ p ∈ c.run ns, 0 < p.2.count ∧ p.2.count ≤ p.1 ∧ 0 ≤ p.2.offset ∧
      p.2.offset + p.2.count ≤ c.size ∧ p.2.waveform < c.count := by
  induction ns generalizing c with
  | nil => simp [run]
  | cons n ns ih =>
    intro p hp
    simp only [run, List.mem_cons] at hp
    rcases hp with rfl | hp
    · have hpos := c.chunk_pos hd (hn n (List.mem_cons_self n ns))
      have hle := c.chunk_le n
      exact ⟨by simp only [read_count]; omega, by simp only [read_count]; omega, c.read_within n hd⟩
    · split at hp
      · simp at hp
      · simpa using ih (c.deliver n) (fun m hm => hn m (List.mem_cons_of_mem n hm)) ‹_› p hp

/-- The requests of a run read the samples from the cursor on, each once and in order. -/
theorem run_samples :
    (c.run ns).flatMap (fun p => p.2.samples c.size) =
      List.range' c.cursor ((c.run ns).map (fun p => p.2.count.toNat)).sum := by
  induction ns generalizing c with
  | nil => rfl
  | cons n ns ih =>
    simp only [run, List.flatMap_cons, List.map_cons, List.sum_cons, read_samples]
    split
    · simp
    · have := ih (c.deliver n)
      simp only [deliver_size, deliver_cursor] at this
      rw [this, List.range'_append_1]
      simp [read, Nat.add_comm]

/-- A run never reads past the end of the capture. -/
theorem run_le :
    c.cursor + ((c.run ns).map (fun p => p.2.count.toNat)).sum ≤ c.count * c.size := by
  induction ns generalizing c with
  | nil => exact c.cursor_le
  | cons n ns ih =>
    have := c.cursor_add_chunk_le n
    simp only [run, List.map_cons, List.sum_cons, read_count_toNat]
    split
    · simpa using this
    · have := ih (c.deliver n)
      simp only [deliver_cursor, deliver_count, deliver_size] at this
      omega

/-- A run with at least as many calls as samples left completes the capture. -/
theorem run_complete (hn : ∀ n ∈ ns, 0 < n) (hd : ¬c.Done)
    (hlen : c.count * c.size ≤ c.cursor + ns.length) :
    c.cursor + ((c.run ns).map (fun p => p.2.count.toNat)).sum = c.count * c.size := by
  induction ns generalizing c with
  | nil => exact absurd (Nat.le_antisymm c.cursor_le (by simpa using hlen)) hd
  | cons n ns ih =>
    have hk := c.chunk_pos hd (hn n (List.mem_cons_self n ns))
    simp only [run, List.map_cons, List.sum_cons, read_count_toNat]
    split
    · simpa [Done] using ‹(c.deliver n).Done›
    · have := ih (c.deliver n) (fun m hm => hn m (List.mem_cons_of_mem n hm)) ‹_›
        (by simp only [List.length_cons] at hlen; simp; omega)
      simp only [deliver_cursor, deliver_count, deliver_size] at this
      omega

end Run

end Capture

/-! ## The state machine as a cursor -/

namespace RapidBlockMachine

/-- The fields agree with a capture of `waveformCount` waveforms of `N` samples: a waveform
being read is one of them, and one read in part has a non-negative offset and its offset and the
samples left adding up to `N`. -/
def Consistent (N : Nat) (m : RapidBlockMachine) : Prop :=
  match m.state with
  | .waiting => True
  | .readingPart1 => m.waveformIdx < m.waveformCount
  | .readingTheRest =>
    m.waveformIdx < m.waveformCount ∧ 0 ≤ m.offset ∧ 0 < m.samplesLeft ∧
      m.offset + m.samplesLeft = N

/-- The cursor the machine stands for: the start of the current waveform in `READING_PART1`,
its offset in `READING_THE_REST`, the end of the capture in `WAITING`. -/
def position (N : Nat) (m : RapidBlockMachine) : Nat :=
  match m.state with
  | .waiting => m.waveformCount * N
  | .readingPart1 => m.waveformIdx * N
  | .readingTheRest => m.waveformIdx * N + m.offset.toNat

theorem position_le {N : Nat} {m : RapidBlockMachine} (h : m.Consistent N) :
    m.position N ≤ m.waveformCount * N := by
  cases hs : m.state <;> simp only [Consistent, position, hs] at h ⊢
  · exact le_rfl
  · exact Nat.mul_le_mul_right N h.le
  · have : (m.waveformIdx + 1) * N ≤ m.waveformCount * N := Nat.mul_le_mul_right N h.1
    rw [Nat.add_one_mul] at this
    omega

/-- The abstraction: the capture a consistent machine is reading. -/
def toCapture (N : Nat) (m : RapidBlockMachine) (h : m.Consistent N) : Capture :=
  ⟨m.waveformCount, N, m.position N, position_le h⟩

@[simp] theorem toCapture_count {N : Nat} {m : RapidBlockMachine} (h : m.Consistent N) :
    (m.toCapture N h).count = m.waveformCount := rfl
@[simp] theorem toCapture_size {N : Nat} {m : RapidBlockMachine} (h : m.Consistent N) :
    (m.toCapture N h).size = N := rfl
@[simp] theorem toCapture_cursor {N : Nat} {m : RapidBlockMachine} (h : m.Consistent N) :
    (m.toCapture N h).cursor = m.position N := rfl

/-- A consistent machine has delivered the whole capture exactly when it is in `WAITING`. -/
theorem toCapture_done_iff {N : Nat} {m : RapidBlockMachine} (hN : 0 < N) (h : m.Consistent N) :
    (m.toCapture N h).Done ↔ m.state = .waiting := by
  simp only [Capture.Done, toCapture]
  cases hs : m.state <;> simp only [Consistent, position, hs, reduceCtorEq, iff_false] at h ⊢
  · exact ((Nat.mul_lt_mul_right hN).2 h).ne
  · have : (m.waveformIdx + 1) * N ≤ m.waveformCount * N := Nat.mul_le_mul_right N h.1
    rw [Nat.add_one_mul] at this
    omega

/-- The offset inside a waveform and the waveform of a cursor `w N + o`. -/
theorem cursor_mod_div {N w o : Nat} (ho : o < N) : (w * N + o) % N = o ∧ (w * N + o) / N = w := by
  rw [Nat.mul_comm]
  exact ⟨by rw [Nat.mul_add_mod, Nat.mod_eq_of_lt ho],
    by rw [Nat.mul_add_div (by omega), Nat.div_eq_of_lt ho, Nat.add_zero]⟩

/-- `update_state(k)` by a count `0 ≤ k ≤ samples_left` on a waveform with `N` samples between
its offset and its end keeps the machine consistent and advances its cursor by `k`. -/
theorem updateState_spec {N : Nat} {k : Int} {m : RapidBlockMachine}
    (hw : m.waveformIdx < m.waveformCount) (ho : 0 ≤ m.offset)
    (hsum : m.offset + m.samplesLeft = N) (hk0 : 0 ≤ k) (hk : k ≤ m.samplesLeft) :
    (m.updateState k).Consistent N ∧ (m.updateState k).waveformCount = m.waveformCount ∧
      (m.updateState k).position N = m.waveformIdx * N + m.offset.toNat + k.toNat := by
  unfold updateState
  split
  · simp only [Consistent, position, true_and]
    omega
  · split
    · refine ⟨trivial, rfl, ?_⟩
      simp only [position, ← ‹m.waveformIdx + 1 = m.waveformCount›, Nat.add_one_mul]
      omega
    · simp only [Consistent, position, Nat.add_one_mul, true_and]
      omega

end RapidBlockMachine

namespace Block

section Refinement

variable (b : Block) {N : Nat}

/-- What a reading call whose driver calls succeed does on a waveform of `N < 2^31` samples: on
the machine `m` of the current waveform (the stored one, or in `READING_PART1` the one with the
waveform's parameters set) it reads `min n samples_left` samples from `m`'s offset, attaches
tags only at offset `0`, and runs `update_state`; the settings are not touched. -/
theorem rapidRead_reading (n size : Nat) (status : List Nat) (hN : 0 < N) (hN31 : N < 2 ^ 31)
    (hNb : b.getBlockSizeWithDownsampling = N) (hc : b.bstate.Consistent N)
    (hr : b.bstate.state ≠ .waiting) :
    ∃ m : RapidBlockMachine, ∃ tags : List Tag,
      m.waveformIdx < m.waveformCount ∧ m.waveformCount = b.bstate.waveformCount ∧
      0 ≤ m.offset ∧ 0 < m.samplesLeft ∧ m.offset + m.samplesLeft = N ∧
      b.bstate.position N = m.waveformIdx * N + m.offset.toNat ∧ (tags ≠ [] → m.offset = 0) ∧
      (b.rapidRead n size none none status).2 =
        ⟨min (n : Int) m.samplesLeft, some ⟨m.offset, min (n : Int) m.samplesLeft, m.waveformIdx⟩,
          tags⟩ ∧
      (b.rapidRead n size none none status).1.bstate = m.updateState (min (n : Int) m.samplesLeft) ∧
      (b.rapidRead n size none none status).1.getBlockSizeWithDownsampling = N ∧
      (b.rapidRead n size none none status).1.nrCaptures = b.nrCaptures := by
  subst hNb
  cases hs : b.bstate.state with
  | waiting => exact absurd hs hr
  | readingPart1 =>
    have hw : b.bstate.waveformIdx < b.bstate.waveformCount := by
      simpa [RapidBlockMachine.Consistent, hs] using hc
    have hconv := uint32ToInt_of_lt hN31
    refine ⟨b.bstate.setWaveformParams 0 (uint32ToInt b.getBlockSizeWithDownsampling),
      ({ b with wasTriggeredOnce := true, status := status,
                bstate := b.bstate.setWaveformParams 0
                  (uint32ToInt b.getBlockSizeWithDownsampling) } : Block).rapidTriggerTags size,
      hw, rfl, le_rfl, by simp only [RapidBlockMachine.setWaveformParams, hconv]; omega,
      by simp [RapidBlockMachine.setWaveformParams, hconv],
      by simp [RapidBlockMachine.position, RapidBlockMachine.setWaveformParams, hs],
      fun _ => rfl, ?_⟩
    simp only [rapidRead, hs]
    exact ⟨rfl, rfl, rfl, rfl⟩
  | readingTheRest =>
    obtain ⟨hw, ho, hleft, hsum⟩ : b.bstate.waveformIdx < b.bstate.waveformCount ∧
        0 ≤ b.bstate.offset ∧ 0 < b.bstate.samplesLeft ∧
        b.bstate.offset + b.bstate.samplesLeft = b.getBlockSizeWithDownsampling := by
      simpa [RapidBlockMachine.Consistent, hs] using hc
    refine ⟨b.bstate, [], hw, rfl, ho, hleft, hsum, by simp [RapidBlockMachine.position, hs],
      fun h => absurd rfl h, ?_⟩
    simp only [rapidRead, hs]
    exact ⟨rfl, rfl, rfl, rfl⟩

/-- One reading call of `work_rapid_block` whose driver calls succeed, on waveforms of
`N < 2^31` samples, is one step of the capture cursor: it returns the cursor's chunk, requests
the cursor's read, attaches tags only at the start of a waveform, and leaves the machine at the
delivered cursor, with the settings unchanged. -/
theorem rapidRead_refines (n size : Nat) (status : List Nat) (hN : 0 < N) (hN31 : N < 2 ^ 31)
    (hNb : b.getBlockSizeWithDownsampling = N) (hc : b.bstate.Consistent N)
    (hr : b.bstate.state ≠ .waiting) :
    let c := b.bstate.toCapture N hc
    let r := b.rapidRead n size none none status
    r.2.ret = c.chunk n ∧ r.2.read = some (c.read n) ∧ (r.2.tags ≠ [] → (c.read n).offset = 0) ∧
      r.1.getBlockSizeWithDownsampling = N ∧ r.1.nrCaptures = b.nrCaptures ∧
      ∃ h : r.1.bstate.Consistent N, r.1.bstate.toCapture N h = c.deliver n := by
  intro c r
  obtain ⟨m, tags, hw, hcount, ho, hleft, hsum, hpos, htags, h2, h1, hN1, hC1⟩ :=
    b.rapidRead_reading n size status hN hN31 hNb hc hr
  have hcur : c.cursor = m.waveformIdx * N + m.offset.toNat := hpos
  have hcc : c.count = m.waveformCount := hcount.symm
  have hcs : c.size = N := rfl
  obtain ⟨hmod, hdiv⟩ :=
    RapidBlockMachine.cursor_mod_div (w := m.waveformIdx) (by omega : m.offset.toNat < N)
  have hlt : c.cursor < c.count * c.size := by
    have : (m.waveformIdx + 1) * N ≤ m.waveformCount * N := Nat.mul_le_mul_right N hw
    rw [Nat.add_one_mul] at this
    rw [hcur, hcc, hcs]
    omega
  have hchunk : (c.chunk n : Int) = min (n : Int) m.samplesLeft := by
    rw [Capture.chunk, if_pos hlt, hcur, hcs, hmod]
    omega
  have hread : c.read n = ⟨m.offset, min (n : Int) m.samplesLeft, m.waveformIdx⟩ := by
    simp only [Capture.read, hcur, hcs, hmod, hdiv, hchunk, Int.toNat_of_nonneg ho]
  obtain ⟨hc', hcount', hpos'⟩ :=
    RapidBlockMachine.updateState_spec hw ho hsum (by omega) (min_le_right (n : Int) _)
  refine ⟨by rw [h2, ← hchunk], by rw [h2, hread], fun h => ?_, hN1, hC1, h1 ▸ hc', ?_⟩
  · rw [hread]
    exact htags (by rwa [h2] at h)
  · ext
    · simp only [RapidBlockMachine.toCapture_count, Capture.deliver_count, hcc, ← hcount']
      rw [h1]
    · rfl
    · simp only [RapidBlockMachine.toCapture_cursor, Capture.deliver_cursor, hcur]
      rw [h1, hpos']
      omega

/-- Outside `WAITING` a call goes straight to reading. -/
theorem workRapidBlock_reading (env : RapidEnv) (n size : Nat) (hr : b.bstate.state ≠ .waiting) :
    b.workRapidBlock env n size = b.rapidRead n size env.ecPrefetch env.ecData env.status := by
  simp [workRapidBlock, rapidWaiting, hr]

/-- A run of reading calls whose driver calls succeed makes the requests of the capture
cursor's run and returns their sizes, attaches tags only at the start of a waveform, and ends in
`WAITING` exactly when the capture is complete. -/
theorem captureRun_refines (size : Nat) (calls : List (RapidEnv × Nat))
    (hok : ∀ e ∈ calls, e.1.Succeeds) (hN : 0 < N) (hN31 : N < 2 ^ 31)
    (hNb : b.getBlockSizeWithDownsampling = N) (hc : b.bstate.Consistent N)
    (hr : b.bstate.state ≠ .waiting) :
    let c := b.bstate.toCapture N hc
    let run := b.captureRun size calls
    run.1.map (fun r => (r.1, r.2.ret, r.2.read)) =
        (c.run (calls.map (·.2))).map (fun p => (p.1, (p.2.count : Int), some p.2)) ∧
      (∀ r ∈ run.1, r.2.tags ≠ [] → ∃ rd, r.2.read = some rd ∧ rd.offset = 0) ∧
      (run.2.bstate.state = .waiting ↔
        c.cursor + ((c.run (calls.map (·.2))).map (·.2.count.toNat)).sum = c.count * c.size) := by
  induction calls generalizing b with
  | nil =>
    simp only [captureRun, Capture.run, List.map_nil, List.sum_nil, Nat.add_zero,
      List.not_mem_nil, false_implies, implies_true, true_and]
    exact (RapidBlockMachine.toCapture_done_iff hN hc).symm
  | cons e calls ih =>
    obtain ⟨env, n⟩ := e
    obtain ⟨-, -, -, hp, hd⟩ := hok _ (List.mem_cons_self _ _)
    have hstep : b.workRapidBlock env n size = b.rapidRead n size none none env.status := by
      rw [workRapidBlock_reading b env n size hr, hp, hd]
    obtain ⟨hret, hread, htags, hN1, -, hc1, hcap⟩ :=
      b.rapidRead_refines n size env.status hN hN31 hNb hc hr
    have hdone := RapidBlockMachine.toCapture_done_iff hN hc1
    rw [hcap] at hdone
    simp only [captureRun, hstep, produce_bstate, List.map_cons, Capture.run]
    by_cases hwt : (b.rapidRead n size none none env.status).1.bstate.state = .waiting
    · have hcd := hdone.2 hwt
      simp only [hwt, if_true, hcd, List.map_cons, List.map_nil, List.sum_cons, List.sum_nil,
        Nat.add_zero, List.mem_singleton, forall_eq, hret, hread, Capture.read_count,
        Int.toNat_ofNat, true_iff]
      exact ⟨trivial, fun h => ⟨_, rfl, htags h⟩, iff_of_true hwt hcd⟩
    · have hcd : ¬((b.bstate.toCapture N hc).deliver n).Done := mt hdone.1 hwt
      let b' := (b.rapidRead n size none none env.status).1.produce
        (b.rapidRead n size none none env.status).2
      have hcap' : b'.bstate.toCapture N hc1 = (b.bstate.toCapture N hc).deliver n := hcap
      obtain ⟨ih1, ih2, ih3⟩ :=
        ih b' (fun e he => hok e (List.mem_cons_of_mem _ he)) hN1 hc1 hwt
      rw [hcap'] at ih1 ih3
      simp only [hwt, if_false, hcd, List.map_cons, List.sum_cons, List.mem_cons,
        forall_eq_or_imp, hret, hread, Capture.read_count, Int.toNat_ofNat] at ih1 ih3 ⊢
      refine ⟨congrArg _ ih1, ⟨fun h => ⟨_, rfl, htags h⟩, ih2⟩, ?_⟩
      rw [ih3, Capture.deliver_cursor, Capture.deliver_count, Capture.deliver_size, Nat.add_assoc]

/-- `arm()` leaves the data-ready channel, the state machine and the settings alone. -/
theorem arm_frame (ec : Option Errc) :
    (b.arm ec).1.dataRdy = b.dataRdy ∧ (b.arm ec).1.dataRdyErrc = b.dataRdyErrc ∧
      (b.arm ec).1.bstate = b.bstate ∧
      (b.arm ec).1.getBlockSizeWithDownsampling = b.getBlockSizeWithDownsampling ∧
      (b.arm ec).1.nrCaptures = b.nrCaptures := by
  obtain ⟨_, _, _, _, _, _, _, _, h⟩ := arm_writes ec b
  rw [h]
  exact ⟨rfl, rfl, rfl, rfl, rfl⟩

/-- So does `disarm()`. -/
theorem rapidDisarm_frame (ec : Option Errc) :
    (b.rapidDisarm ec).dataRdy = b.dataRdy ∧ (b.rapidDisarm ec).dataRdyErrc = b.dataRdyErrc ∧
      (b.rapidDisarm ec).bstate = b.bstate ∧
      (b.rapidDisarm ec).getBlockSizeWithDownsampling = b.getBlockSizeWithDownsampling ∧
      (b.rapidDisarm ec).nrCaptures = b.nrCaptures := by
  unfold rapidDisarm disarmBegin transitPollThreadToIdle disarmEnd
  split_ifs
  · exact ⟨rfl, rfl, rfl, rfl, rfl⟩
  all_goals dsimp only; rw [recordError_eq]; exact ⟨rfl, rfl, rfl, rfl, rfl⟩

/-- Before its wait, a call in `WAITING` whose auto-arm succeeds goes on to wait, with the
data-ready channel, the state machine and the settings as they were. -/
theorem rapidBeforeWait_ok (hfirst : (b.triggerOnce && b.wasTriggeredOnce) = false) :
    ∃ b₀ : Block, b.rapidBeforeWait none none = (b₀, none) ∧ b₀.dataRdy = b.dataRdy ∧
      b₀.dataRdyErrc = b.dataRdyErrc ∧ b₀.getBlockSizeWithDownsampling = b.getBlockSizeWithDownsampling ∧
      b₀.nrCaptures = b.nrCaptures := by
  simp only [rapidBeforeWait, hfirst, Bool.false_eq_true, if_false]
  split
  · obtain ⟨h1, h2, -, h4, h5⟩ := (b.rapidDisarm none).arm_frame none
    obtain ⟨g1, g2, -, g4, g5⟩ := b.rapidDisarm_frame none
    have harm : (b.rapidDisarm none).arm none = (((b.rapidDisarm none).arm none).1, none) := by
      unfold arm; split <;> rfl
    rw [harm]
    exact ⟨_, rfl, h1.trans g1, h2.trans g2, h4.trans g4, h5.trans g5⟩
  · exact ⟨b, rfl, rfl, rfl, rfl, rfl⟩

/-- A call in `WAITING` whose driver calls succeed, from a block that has not yet delivered its
trigger-once waveform and has no error pending on the data-ready channel, starts a capture of
`d_nr_captures` waveforms in `READING_PART1` and goes on to read, the settings unchanged. -/
theorem rapidWaiting_start (env : RapidEnv) (hok : env.Succeeds) (hw : b.bstate.state = .waiting)
    (hfirst : (b.triggerOnce && b.wasTriggeredOnce) = false)
    (hrdy : b.dataRdy = true → b.dataRdyErrc = none) :
    ∃ b₁ : Block, b.rapidWaiting env = (b₁, none) ∧ b₁.bstate = b.bstate.initialise b.nrCaptures ∧
      b₁.getBlockSizeWithDownsampling = b.getBlockSizeWithDownsampling ∧
      b₁.nrCaptures = b.nrCaptures := by
  obtain ⟨hd, ha, hn, -, -⟩ := hok
  obtain ⟨b₀, hb₀, h1, h2, h4, h5⟩ := b.rapidBeforeWait_ok hfirst
  obtain ⟨w, hwait, hw4, hw5⟩ : ∃ w : Block, b₀.waitDataReady env.ecNotify = (w, none) ∧
      w.getBlockSizeWithDownsampling = b.getBlockSizeWithDownsampling ∧ w.nrCaptures = b.nrCaptures := by
    rw [hn]
    unfold waitDataReady
    split
    · exact ⟨b₀, by simp only [h2, hrdy (h1 ▸ ‹_›)], h4, h5⟩
    · exact ⟨_, rfl, h4, h5⟩
  simp only [rapidWaiting, hw, if_true, hd, ha, hb₀, hwait, rapidAfterWait]
  exact ⟨_, rfl, by rw [← hw5]; rfl, hw4, hw5⟩

end Refinement

/-! ## A capture sequence -/

/-- A first call in `WAITING` whose driver calls succeed starts the capture sequence: the run is
the run from the block it leaves in `READING_PART1`, whose cursor is at the start of
`d_nr_captures` waveforms. -/
theorem captureRun_start (size : Nat) (b : Block) (env : RapidEnv) (n : Nat)
    (calls : List (RapidEnv × Nat)) (hok : env.Succeeds) (hw : b.bstate.state = .waiting)
    (hfirst : (b.triggerOnce && b.wasTriggeredOnce) = false)
    (hrdy : b.dataRdy = true → b.dataRdyErrc = none) (hC : 0 < b.nrCaptures) :
    ∃ (b₁ : Block) (hc : b₁.bstate.Consistent b.getBlockSizeWithDownsampling),
      b.captureRun size ((env, n) :: calls) = b₁.captureRun size ((env, n) :: calls) ∧
      b₁.bstate.state ≠ .waiting ∧
      b₁.getBlockSizeWithDownsampling = b.getBlockSizeWithDownsampling ∧
      (b₁.bstate.toCapture _ hc).cursor = 0 ∧ (b₁.bstate.toCapture _ hc).count = b.nrCaptures := by
  obtain ⟨b₁, hb₁, hst, hN₁, -⟩ := b.rapidWaiting_start env hok hw hfirst hrdy
  have hc₁ : b₁.bstate.Consistent b.getBlockSizeWithDownsampling := by
    rw [hst]
    exact hC
  have hr₁ : b₁.bstate.state ≠ .waiting := by
    rw [hst]
    exact nofun
  have hwork : b.workRapidBlock env n size = b₁.workRapidBlock env n size := by
    rw [workRapidBlock_reading b₁ env n size hr₁, workRapidBlock, hb₁]
  refine ⟨b₁, hc₁, by simp only [captureRun, hwork], hr₁, hN₁, ?_, ?_⟩
  · simp [hst, RapidBlockMachine.initialise, RapidBlockMachine.position]
  · simp [hst, RapidBlockMachine.initialise]

/-- After a wait that returns no error, `work_rapid_block` delivers one capture sequence. With
every driver call succeeding, every call asking for at least one item, at least one capture
and between one and `2^31 - 1` samples per waveform (`samples_left` is an `int` filled from the
`uint32_t` block size): each call returns the size of its one request, between
one and what it was asked for; each request lies inside one waveform below `d_nr_captures`,
and only a request from offset `0` carries tags; the requests read the samples of waveforms
`0, 1, ...`, each from offset `0` on, in order and each once; and once every sample is read
the block is back in `WAITING`, which it reaches within `d_nr_captures * N` calls. -/
theorem captureRun_delivers (size : Nat) (b : Block) (calls : List (RapidEnv × Nat))
    (hok : ∀ e ∈ calls, e.1.Succeeds) (hn : ∀ e ∈ calls, 0 < e.2)
    (hN : 0 < b.getBlockSizeWithDownsampling) (hN31 : b.getBlockSizeWithDownsampling < 2 ^ 31)
    (hC : 0 < b.nrCaptures)
    (hw : b.bstate.state = .waiting) (hfirst : (b.triggerOnce && b.wasTriggeredOnce) = false)
    (hrdy : b.dataRdy = true → b.dataRdyErrc = none) :
    let N := b.getBlockSizeWithDownsampling
    let run := b.captureRun size calls
    let reads := run.1.filterMap (·.2.read)
    (∀ r ∈ run.1, ∃ rd, r.2.read = some rd ∧ r.2.ret = rd.count ∧ 0 < rd.count ∧
        rd.count ≤ r.1 ∧ 0 ≤ rd.offset ∧ rd.offset + rd.count ≤ N ∧ rd.waveform < b.nrCaptures ∧
        (rd.offset ≠ 0 → r.2.tags = [])) ∧
      reads.flatMap (·.samples N) = List.range (reads.map (·.count.toNat)).sum ∧
      (reads.map (·.count.toNat)).sum ≤ b.nrCaptures * N ∧
      ((reads.map (·.count.toNat)).sum = b.nrCaptures * N → run.2.bstate.state = .waiting) ∧
      (b.nrCaptures * N ≤ calls.length → (reads.map (·.count.toNat)).sum = b.nrCaptures * N) := by
  intro N run reads
  have hCN : 0 < b.nrCaptures * N := Nat.mul_pos hC hN
  cases calls with
  | nil => simp only [run, reads, captureRun]; simp; omega
  | cons e calls =>
    obtain ⟨env, n⟩ := e
    obtain ⟨b₁, hc₁, hrun, hr₁, hN₁, hcur, hcount⟩ :=
      b.captureRun_start size env n calls (hok _ (List.mem_cons_self _ _)) hw hfirst hrdy hC
    obtain ⟨hmap, htags, hend⟩ := b₁.captureRun_refines size _ hok hN hN31 hN₁ hc₁ hr₁
    set c := b₁.bstate.toCapture N hc₁
    set ns := ((env, n) :: calls).map (·.2)
    have hd0 : ¬c.Done := fun h => by
      simp only [Capture.Done, hcur, hcount] at h
      exact Nat.ne_of_lt hCN h
    have hns : ∀ m ∈ ns, 0 < m := fun m hm => by
      obtain ⟨e, he, rfl⟩ := List.mem_map.1 hm
      exact hn e he
    have hreads : reads = (c.run ns).map (·.2) := by
      have := congrArg (List.filterMap (fun t : Nat × Int × Option BlockRead => t.2.2)) hmap
      rw [← List.filterMap_eq_map]
      simpa only [List.filterMap_map, Function.comp_def, reads, run, hrun] using this
    have hsum : (reads.map (·.count.toNat)).sum = ((c.run ns).map (·.2.count.toNat)).sum := by
      rw [hreads, List.map_map]
      rfl
    have hrun' : run = b₁.captureRun size ((env, n) :: calls) := hrun
    have hle := c.run_le ns
    rw [hcur, hcount, Nat.zero_add] at hle
    rw [hsum, hrun']
    refine ⟨fun r hr => ?_, ?_, hle, fun h => hend.2 (by rw [hcur, hcount, h, Nat.zero_add]; rfl),
      fun hlen => ?_⟩
    · obtain ⟨p, hp, hpe⟩ := List.mem_map.1 (hmap ▸ List.mem_map_of_mem _ hr)
      simp only [Prod.mk.injEq] at hpe
      obtain ⟨h1, h2, h3⟩ := hpe
      obtain ⟨k1, k2, k3, k4, k5⟩ := c.run_reads ns hns hd0 p hp
      refine ⟨p.2, h3.symm, h2.symm, k1, h1 ▸ k2, k3, k4, hcount ▸ k5, fun hne => ?_⟩
      by_contra ht
      obtain ⟨rd, hrd, hoff⟩ := htags r hr ht
      rw [← h3, Option.some.injEq] at hrd
      exact hne (hrd ▸ hoff)
    · rw [hreads, List.flatMap_map, List.range_eq_range', ← hcur]
      exact c.run_samples ns
    · have := c.run_complete ns hns hd0
        (by rw [hcur, hcount, Nat.zero_add]; simpa [ns] using hlen)
      rwa [hcur, hcount, Nat.zero_add] at this

/-- Two waveforms of three samples (`set_samples(2, 1)`, `set_rapid_block(2)`) read by four calls
of two items: each waveform takes a `READING_PART1` call and a `READING_THE_REST` call. -/
theorem captureRun_delivers_two_waveforms :
    let b := (digitizerBlockImpl [] [] 0 0 false).applySetters [.setSamples 2 1, .setRapidBlock 2]
    let calls := List.replicate 4 ((⟨none, none, none, none, none, []⟩ : RapidEnv), 2)
    (∀ e ∈ calls, e.1.Succeeds) ∧ (∀ e ∈ calls, 0 < e.2) ∧ 0 < b.getBlockSizeWithDownsampling ∧
    b.getBlockSizeWithDownsampling < 2 ^ 31 ∧ 0 < b.nrCaptures ∧ b.bstate.state = .waiting ∧
    (b.triggerOnce && b.wasTriggeredOnce) = false ∧ (b.dataRdy = true → b.dataRdyErrc = none) ∧
    (b.captureRun 0 calls).1.filterMap (·.2.read) = [⟨0, 2, 0⟩, ⟨2, 1, 0⟩, ⟨0, 2, 1⟩, ⟨2, 1, 1⟩] ∧
    let N := b.getBlockSizeWithDownsampling
    let run := b.captureRun 0 calls
    let reads := run.1.filterMap (·.2.read)
    (∀ r ∈ run.1, ∃ rd, r.2.read = some rd ∧ r.2.ret = rd.count ∧ 0 < rd.count ∧
        rd.count ≤ r.1 ∧ 0 ≤ rd.offset ∧ rd.offset + rd.count ≤ N ∧ rd.waveform < b.nrCaptures ∧
        (rd.offset ≠ 0 → r.2.tags = [])) ∧
      reads.flatMap (·.samples N) = List.range (reads.map (·.count.toNat)).sum ∧
      (reads.map (·.count.toNat)).sum ≤ b.nrCaptures * N ∧
      ((reads.map (·.count.toNat)).sum = b.nrCaptures * N → run.2.bstate.state = .waiting) ∧
      (b.nrCaptures * N ≤ calls.length → (reads.map (·.count.toNat)).sum = b.nrCaptures * N) := by
  intro b calls
  have hok : ∀ e ∈ calls, e.1.Succeeds := by simp [calls, RapidEnv.Succeeds]
  have hn : ∀ e ∈ calls, 0 < e.2 := by simp [calls]
  have hN : 0 < b.getBlockSizeWithDownsampling := by decide
  have hN31 : b.getBlockSizeWithDownsampling < 2 ^ 31 := by decide
  have hC : 0 < b.nrCaptures := by decide
  have hw : b.bstate.state = .waiting := by decide
  have hfirst : (b.triggerOnce && b.wasTriggeredOnce) = false := by decide
  have hrdy : b.dataRdy = true → b.dataRdyErrc = none := by decide
  exact ⟨hok, hn, hN, hN31, hC, hw, hfirst, hrdy, by decide,
    captureRun_delivers 0 b calls hok hn hN hN31 hC hw hfirst hrdy⟩

/-- From `2^31` samples per waveform (`set_samples(2147483647, 1)`) the conversion to `int` makes
`samples_left` negative: the one call that reads the waveform returns `-2^31` items, and the
block is back in `WAITING`. -/
theorem captureRun_negative_at_2_31 :
    let b := (digitizerBlockImpl [] [] 0 0 false).applySetters [.setSamples 2147483647 1]
    let run := b.captureRun 0 [((⟨none, none, none, none, none, []⟩ : RapidEnv), 1)]
    b.getBlockSizeWithDownsampling = 2 ^ 31 ∧ run.1.map (·.2.ret) = [-2 ^ 31] ∧
      run.2.bstate.state = .waiting := by
  decide

/-! ## Trigger-once mode -/

/-- Successive `work_rapid_block` calls, each with the driver outcomes and `noutput_items` of its
entry in `calls`, the scheduler advancing `nitems_written` after each: every call's result, and
the block after the last. -/
def workRun (size : Nat) : Block → List (RapidEnv × Nat) → List WorkResult × Block
  | b, [] => ([], b)
  | b, (env, n) :: calls =>
    let r := b.workRapidBlock env n size
    let rest := workRun size (r.1.produce r.2) calls
    (r.2 :: rest.1, rest.2)

/-- A call reaches the `READING_PART1` branch: the `WAITING` branch, if it is taken, goes on to
read and leaves the machine at the start of a waveform. -/
def entersPart1 (env : RapidEnv) (b : Block) : Bool :=
  match b.rapidWaiting env with
  | (b, none) => b.bstate.state == .readingPart1
  | (_, some _) => false

theorem workRun_length (size : Nat) :
    ∀ (b : Block) (calls : List (RapidEnv × Nat)), (b.workRun size calls).1.length = calls.length
  | _, [] => rfl
  | b, (env, n) :: calls => by
    simp only [workRun, List.length_cons, workRun_length size _ calls]

/-- A run of calls is the run of its first calls followed by the run of the rest. -/
theorem workRun_append (size : Nat) :
    ∀ (b : Block) (xs ys : List (RapidEnv × Nat)), b.workRun size (xs ++ ys) =
      ((b.workRun size xs).1 ++ ((b.workRun size xs).2.workRun size ys).1,
        ((b.workRun size xs).2.workRun size ys).2)
  | _, [], _ => rfl
  | b, (env, n) :: xs, ys => by
    rw [List.cons_append]
    simp only [workRun]
    rw [workRun_append size _ xs ys]
    rfl

section Once

variable (b : Block)

/-- `disarm()` in rapid-block mode writes `d_armed`, `d_poller_state` and the error log only. -/
theorem rapidDisarm_writes (ec : Option Errc) :
    ∃ (armed : Bool) (pollerState : PollerState) (errors : List Errc),
      b.rapidDisarm ec = { b with armed, pollerState, errors } := by
  unfold rapidDisarm disarmBegin transitPollThreadToIdle disarmEnd
  split_ifs
  · exact ⟨_, _, _, rfl⟩
  all_goals dsimp only; rw [recordError_eq]; exact ⟨_, _, _, rfl⟩

/-- The `WAITING` branch leaves `d_trigger_once` and `d_was_triggered_once` alone. -/
theorem rapidWaiting_once (env : RapidEnv) :
    (b.rapidWaiting env).1.triggerOnce = b.triggerOnce ∧
      (b.rapidWaiting env).1.wasTriggeredOnce = b.wasTriggeredOnce := by
  have hb : (b.rapidBeforeWait env.ecDisarm env.ecArm).1.triggerOnce = b.triggerOnce ∧
      (b.rapidBeforeWait env.ecDisarm env.ecArm).1.wasTriggeredOnce = b.wasTriggeredOnce := by
    obtain ⟨_, _, _, hd⟩ := b.rapidDisarm_writes env.ecDisarm
    obtain ⟨_, _, _, _, _, _, _, _, ha⟩ := arm_writes env.ecArm (b.rapidDisarm env.ecDisarm)
    unfold rapidBeforeWait
    split_ifs
    · exact ⟨rfl, rfl⟩
    · split <;> rename_i h <;> rw [← congrArg Prod.fst h, ha, hd] <;> exact ⟨rfl, rfl⟩
    · exact ⟨rfl, rfl⟩
  unfold rapidWaiting
  split_ifs
  · split <;> rename_i h <;> rw [h] at hb
    · exact hb
    · simp only [rapidAfterWait, waitDataReady, clearDataReady, notifyDataReady, recordError_eq]
      split_ifs <;> split <;> exact hb
  · exact ⟨rfl, rfl⟩

/-- The reading part sets `d_was_triggered_once` exactly when it runs `READING_PART1`. -/
theorem rapidRead_once (n size : Nat) (ecPrefetch ecData : Option Errc) (status : List Nat) :
    (b.rapidRead n size ecPrefetch ecData status).1.triggerOnce = b.triggerOnce ∧
      (b.rapidRead n size ecPrefetch ecData status).1.wasTriggeredOnce =
        (b.wasTriggeredOnce || b.bstate.state == .readingPart1) := by
  unfold rapidRead readingPart1 readingTheRest
  cases b.bstate.state <;> dsimp only <;> (try split) <;> (try split) <;>
    simp [addErrorCode]

/-- A call keeps `d_trigger_once`, and sets `d_was_triggered_once` when it reaches
`READING_PART1`; no call clears it. -/
theorem workRapidBlock_once (env : RapidEnv) (n size : Nat) :
    (b.workRapidBlock env n size).1.triggerOnce = b.triggerOnce ∧
      (b.workRapidBlock env n size).1.wasTriggeredOnce = (b.wasTriggeredOnce || b.entersPart1 env) := by
  obtain ⟨h1, h2⟩ := b.rapidWaiting_once env
  unfold workRapidBlock entersPart1
  split <;> rename_i h <;> simp only [h] at h1 h2 ⊢
  · exact ⟨h1, by rw [h2, Bool.or_false]⟩
  · obtain ⟨g1, g2⟩ := rapidRead_once _ n size env.ecPrefetch env.ecData env.status
    rw [g1, g2, h1, h2]
    exact ⟨rfl, rfl⟩

/-- Once the one capture of trigger-once mode has started and the machine is back in `WAITING`,
a call returns `-1` at once: it does not disarm, arm, wait or call the driver, and the block is
left as it was. -/
theorem workRapidBlock_done (env : RapidEnv) (n size : Nat) (hto : b.triggerOnce = true)
    (hwas : b.wasTriggeredOnce = true) (hw : b.bstate.state = .waiting) :
    b.workRapidBlock env n size = (b, ⟨-1, none, []⟩) := by
  simp [workRapidBlock, rapidWaiting, rapidBeforeWait, hw, hto, hwas]

end Once

theorem workRun_done (b : Block) (size : Nat) (hto : b.triggerOnce = true) (hwas : b.wasTriggeredOnce = true)
    (hw : b.bstate.state = .waiting) :
    ∀ calls : List (RapidEnv × Nat), b.workRun size calls = (calls.map fun _ => ⟨-1, none, []⟩, b)
  | [] => rfl
  | (env, n) :: calls => by
    simp only [workRun, workRapidBlock_done b env n size hto hwas hw, List.map_cons]
    rw [show b.produce ⟨-1, none, []⟩ = b from rfl, workRun_done b size hto hwas hw calls]

/-- A run keeps `d_trigger_once`, and `d_was_triggered_once` once it is set. -/
theorem workRun_once (size : Nat) :
    ∀ (b : Block) (calls : List (RapidEnv × Nat)),
      (b.workRun size calls).2.triggerOnce = b.triggerOnce ∧
        (b.wasTriggeredOnce = true → (b.workRun size calls).2.wasTriggeredOnce = true)
  | _, [] => ⟨rfl, id⟩
  | b, (env, n) :: calls => by
    obtain ⟨h1, h2⟩ := b.workRapidBlock_once env n size
    obtain ⟨g1, g2⟩ := workRun_once size _ calls
    refine ⟨g1.trans h1, fun hw => g2 ?_⟩
    show (b.workRapidBlock env n size).1.wasTriggeredOnce = true
    rw [h2, hw, Bool.true_or]

/-- With `d_trigger_once` set, over every run of `work_rapid_block` calls (any `noutput_items`,
any driver outcomes, with or without auto-arm): once a call has reached `READING_PART1` and the
machine is back in `WAITING` after some later calls, every further call returns `-1` without
reading or attaching tags, and the block is left as those calls found it, so no further capture
is read. -/
theorem trigger_once_single_capture (size : Nat) (b : Block) (pre mid post : List (RapidEnv × Nat))
    (env : RapidEnv) (n : Nat) (hto : b.triggerOnce = true)
    (hpart1 : (b.workRun size pre).2.entersPart1 env = true)
    (hwait : ((b.workRun size pre).2.workRun size ((env, n) :: mid)).2.bstate.state = .waiting) :
    (b.workRun size (pre ++ (env, n) :: mid ++ post)).1.drop (pre.length + mid.length + 1) =
        post.map (fun _ => ⟨-1, none, []⟩) ∧
      (b.workRun size (pre ++ (env, n) :: mid ++ post)).2 =
        ((b.workRun size pre).2.workRun size ((env, n) :: mid)).2 := by
  set b₁ := (b.workRun size pre).2
  set b₂ := (b₁.workRun size ((env, n) :: mid)).2
  have hto₁ : b₁.triggerOnce = true := (workRun_once size b pre).1.trans hto
  have hwas₂ : b₂.wasTriggeredOnce = true := by
    obtain ⟨-, h2⟩ := b₁.workRapidBlock_once env n size
    refine (workRun_once size _ mid).2 ?_
    show (b₁.workRapidBlock env n size).1.wasTriggeredOnce = true
    rw [h2, hpart1, Bool.or_true]
  have hto₂ : b₂.triggerOnce = true := (workRun_once size b₁ _).1.trans hto₁
  have hpost := workRun_done b₂ size hto₂ hwas₂ hwait post
  have hlen : ((b.workRun size pre).1 ++ (b₁.workRun size ((env, n) :: mid)).1).length =
      pre.length + mid.length + 1 := by
    rw [List.length_append, workRun_length, workRun_length, List.length_cons, Nat.add_assoc]
  rw [workRun_append, workRun_append]
  simp only [hpost]
  rw [← hlen, List.drop_left]
  exact ⟨rfl, trivial⟩

/-- `trigger_once_single_capture` on a constructed block in rapid-block mode with trigger-once
set: the first call reads the whole capture of one 11000-sample waveform; a later call whose
driver calls would all fail returns `-1` without making them. -/
theorem trigger_once_single_capture_fresh :
    ({ digitizerBlockImpl [] [] 0 0 false with acquisitionMode := .rapidBlock, triggerOnce := true }
        : Block).triggerOnce = true ∧
    (({ digitizerBlockImpl [] [] 0 0 false with acquisitionMode := .rapidBlock, triggerOnce := true }
        : Block).workRun 2 []).2.entersPart1 ⟨none, none, none, none, none, []⟩ = true ∧
    ((({ digitizerBlockImpl [] [] 0 0 false with acquisitionMode := .rapidBlock, triggerOnce := true }
        : Block).workRun 2 []).2.workRun 2
        [(⟨none, none, none, none, none, []⟩, 11000)]).2.bstate.state = .waiting ∧
    (({ digitizerBlockImpl [] [] 0 0 false with acquisitionMode := .rapidBlock, triggerOnce := true }
        : Block).workRun 2
        ([] ++ (⟨none, none, none, none, none, []⟩, 11000) :: [] ++
          [(⟨none, some (.driver 1), some (.driver 2), some (.driver 3), some (.driver 4), [7]⟩, 4)])).1.drop
        (([] : List (RapidEnv × Nat)).length + ([] : List (RapidEnv × Nat)).length + 1) =
      ([(⟨none, some (.driver 1), some (.driver 2), some (.driver 3), some (.driver 4), [7]⟩, 4)] :
        List (RapidEnv × Nat)).map (fun _ => (⟨-1, none, []⟩ : WorkResult)) ∧
    (({ digitizerBlockImpl [] [] 0 0 false with acquisitionMode := .rapidBlock, triggerOnce := true }
        : Block).workRun 2
        ([] ++ (⟨none, none, none, none, none, []⟩, 11000) :: [] ++
          [(⟨none, some (.driver 1), some (.driver 2), some (.driver 3), some (.driver 4), [7]⟩, 4)])).2 =
      ((({ digitizerBlockImpl [] [] 0 0 false with acquisitionMode := .rapidBlock, triggerOnce := true }
        : Block).workRun 2 []).2.workRun 2 ((⟨none, none, none, none, none, []⟩, 11000) :: [])).2 :=
  ⟨rfl, rfl, rfl, trigger_once_single_capture 2 _ [] [] _ _ 11000 rfl rfl rfl⟩

/-! ## The trigger point of a downsampled waveform -/

/-- One channel, `set_samples(1, 2)`, `set_downsampling(DECIMATE, 2)` and `set_rapid_block(2)`,
all accepted (`preTrigger_lt_blockSize_iff`: the factor exceeds the post-trigger count). The
downsampled waveform has one sample and its pre-trigger part one too. The first
`work_rapid_block` call, asked for ten items on two output slots, reads that one sample (stream
offset `0`) and puts the trigger point at offset `1`, which is the first sample of the second
waveform. -/
theorem trigger_tag_past_waveform :
    ∃ b, ((digitizerBlockImpl [⟨5, 0, true, true, 5⟩] [] 1 0 false).setSamples 1 2 >>=
        fun b => b.setDownsampling .decimate 2 >>= fun b => b.setRapidBlock 2) = .ok b ∧
      b.getPreTriggerSamplesWithDownsampling = 1 ∧ b.getBlockSizeWithDownsampling = 1 ∧
      (b.workRapidBlock ⟨none, none, none, none, none, [0]⟩ 10 2).2.ret = 1 ∧
      ((b.workRapidBlock ⟨none, none, none, none, none, [0]⟩ 10 2).2.tags.filter
        (·.kind == .trigger)).map (·.offset) = [1] :=
  ⟨_, rfl, rfl, rfl, rfl, rfl⟩

end Block

end DigitizerBlock
