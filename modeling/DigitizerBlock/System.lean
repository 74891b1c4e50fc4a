import DigitizerBlock.RapidBlock

/-!
# The block and its threads

`digitizer_block_impl` is used by three threads at once, and by the driver's callbacks:

* the control thread makes the public calls (setters, `initialize`, `configure`, `arm`,
  `disarm`, `close`, `start`, `stop`), one at a time;
* the scheduler thread calls `work()`, which blocks in `wait_data_ready()` and, in streaming
  mode, re-arms the device when the watchdog fires;
* the poller thread runs `poll_work_function` (`DigitizerBlock.Poller`);
* the driver pushes chunks into the application buffer and signals completed rapid-block
  captures with `notify_data_ready`.

A state `Sys` is the block with the position of the control and scheduler threads and the
results `work()` has returned so far. `step` runs one atomic step, labelled by an `Event` that
names the thread and the outcomes of the driver calls the step makes. A step is one lock
region, or the code of one thread between two of its blocking points, which touches no state
another thread writes under a lock. Blocking points are the waits of
`transit_poll_thread_to_idle`, `stop_poll_thread` and `d_poller.join()`, and the two
`wait_data_ready()`; a thread in one of them moves on only with the step that observes what it
waits for. `Reachable` collects the states of every interleaving from a constructed block.

The last sections run the model on call sequences that the spec's rules exclude: `stop()` with
a streaming worker waiting on the application buffer, which no segment of `stop()` touches
(`stopBegin_appBuffer`, `stop_streaming_worker_reads_data`); and an armed block that is not
initialised (`armed_uninitialized_reachable`). Three more show what `work_stream` trusts without
checking: the channel counts of `configure()`, `arm()` and the data loop can differ
(`enabled_counts_disagree`), no setter checks the trigger source against the inputs
(`trigger_source_unchecked`), and the watchdog re-arm lets the exception of a failing `arm()`
leave `work()` (`watchdog_rearm_failure_throws`).
-/

set_option autoImplicit false

namespace DigitizerBlock

/-! ## States and events -/

/-- What follows the return of `transit_poll_thread_to_idle()` in the control thread: the end of
`disarm()`, or the end of the `disarm()` inside `stop()` and then `stop_poll_thread()`. -/
inductive AfterIdle where
  | disarm
  | stop
  deriving DecidableEq, Repr

/-- Where the control thread is. -/
inductive ControlPc where
  /-- Between public calls. -/
  | free
  /-- In `transit_poll_thread_to_idle()`, waiting for `IDLE`. -/
  | waitIdle (k : AfterIdle)
  /-- In `stop_poll_thread()`, waiting at most 5 s for `EXIT`. -/
  | waitExit
  /-- In `d_poller.join()`. -/
  | join
  deriving DecidableEq, Repr

/-- Where the scheduler thread is. -/
inductive WorkerPc where
  /-- Between `work()` calls. -/
  | free
  /-- `work_stream` in `d_app_buffer.wait_data_ready()`. -/
  | waitApp
  /-- `work_stream`'s watchdog `disarm()` in `transit_poll_thread_to_idle()`, waiting for
  `IDLE`. -/
  | waitIdle
  /-- `work_stream`'s watchdog branch between `disarm()` and `arm()`. -/
  | disarmed
  /-- `work_rapid_block` in `wait_data_ready()`. -/
  | waitRdy
  /-- `work_rapid_block` after `wait_data_ready()` returned `ec`, before `clear_data_ready()`. -/
  | gotRdy (ec : Option Errc)
  /-- `work()` returned `-1` or threw: the scheduler makes no further call. -/
  | done
  deriving DecidableEq, Repr

/-- The block, the threads' positions, and the return value and tags of every `work()` call
that has returned, in order. -/
structure Sys where
  blk : Block
  control : ControlPc
  worker : WorkerPc
  out : List (Int × List Tag)
  deriving DecidableEq, Repr

/-- A constructed block, with both threads between calls. -/
def Sys.init (b : Block) : Sys := ⟨b, .free, .free, []⟩

/-- One atomic step, with the thread that takes it and the outcomes of the driver calls it
makes. -/
inductive Event where
  /-- The control thread calls a setter. -/
  | setter (s : Setter)
  /-- The control thread calls `initialize()`; `ec` is `driver_initialize()`. -/
  | initialise (ec : Option Errc)
  /-- The control thread calls `configure()`; `ec` is `driver_configure()` and `actualRate`
  the `actual_sample_rate` it writes back, if it writes one. -/
  | configure (ec : Option Errc) (actualRate : Option ℚ)
  /-- The control thread calls `arm()`; `ec` is `driver_arm()`. -/
  | arm (ec : Option Errc)
  /-- The control thread calls `disarm()`; `ec` is `driver_disarm()` if it is reached in
  this step. -/
  | disarm (ec : Option Errc)
  /-- The control thread calls `close()`; `ec` is `driver_close()`. -/
  | close (ec : Option Errc)
  /-- The control thread calls `start()` with the outcomes of `driver_initialize()`,
  `driver_configure()` (with the rate it writes back), the thread creation and `driver_arm()`. -/
  | start (ecInit ecConf : Option Errc) (actualRate : Option ℚ) (spawnOk : Bool)
      (ecArm : Option Errc)
  /-- The control thread calls `stop()`; `ec` is `driver_disarm()` if it is reached in this
  step. -/
  | stop (ec : Option Errc)
  /-- The control thread's `transit_poll_thread_to_idle()` sees `IDLE` and returns; `ec` is
  the `driver_disarm()` that follows. -/
  | controlIdle (ec : Option Errc)
  /-- The wait of `stop_poll_thread()` ends: `EXIT` was seen, or 5 s passed. -/
  | controlExit
  /-- `d_poller.join()` returns once the poller has returned. -/
  | controlJoin
  /-- The scheduler calls `work(n, ...)` with `size` output slots; `env` holds the outcomes
  of the driver calls a rapid-block call makes without waiting. -/
  | work (env : RapidEnv) (n size : Nat)
  /-- `d_app_buffer.wait_data_ready()` returns in `work_stream`; `outputs` are the scheduler's
  buffers, `ecDisarm` the outcome of a watchdog `disarm()` that does not wait. -/
  | appWake (outputs : List OutputItem) (ecDisarm : Option Errc)
  /-- The watchdog `disarm()` of `work_stream` sees `IDLE` and ends; `ec` is
  `driver_disarm()`. -/
  | workerIdle (ec : Option Errc)
  /-- The watchdog branch calls `arm()` and returns `0`; `size` is the number of output slots
  and `ec` the outcome of `driver_arm()`. -/
  | workerArm (size : Nat) (ec : Option Errc)
  /-- `wait_data_ready()` returns in `work_rapid_block`. -/
  | rdyWake
  /-- `work_rapid_block` continues from `clear_data_ready()`. -/
  | rdyClear (env : RapidEnv) (n size : Nat)
  /-- The poller takes a step; `pollErr` is `driver_poll()` and `watchdog` the rate check. -/
  | poll (pollErr : Option Errc) (watchdog : Bool)
  /-- The driver's streaming callback pushes a chunk. -/
  | push (c : AcqChunk)
  /-- The driver's block-complete callback calls `notify_data_ready(ec)`. -/
  | blockReady (ec : Option Errc)
  deriving DecidableEq, Repr

/-- The thread, or the driver's callback, that takes a step. -/
inductive Thread where
  | control
  | scheduler
  | poller
  | driver
  deriving DecidableEq, Repr

/-- The thread that takes the step an event names. -/
def Event.thread : Event → Thread
  | .work .. | .appWake .. | .workerIdle _ | .workerArm .. | .rdyWake | .rdyClear .. => .scheduler
  | .poll .. => .poller
  | .push _ | .blockReady _ => .driver
  | _ => .control

/-! ## The threads' steps -/

namespace Sys

/-- The rest of `stop()` after its `disarm()`: `stop_poll_thread()`, which waits when there is
a poller to stop, and the message reset. -/
def stopRest (b : Block) : Block × ControlPc :=
  match b.stopAfterDisarm with
  | (b, true) => (b, .waitExit)
  | (b, false) => (b.stopEnd, .free)

/-- `stop()` up to its first wait: nothing on an uninitialised block; on an armed one, the
`Stopped` notification of the rapid-block channel and `disarm()`; then `stopRest`. -/
def stopBegin (ec : Option Errc) (b : Block) : Block × ControlPc :=
  if !b.initialized then (b, .free)
  else if b.armed then
    match (b.notifyDataReady (some .stopped)).disarmBegin with
    | some (b, true) => (b, .waitIdle .stop)
    | some (b, false) => stopRest (b.disarmEnd ec)
    | none => stopRest (b.notifyDataReady (some .stopped))
  else stopRest b

/-- `disarm()` up to its wait: nothing on a disarmed block, the end of `disarm()` at once when
there is nothing to wait for. -/
def disarmCall (ec : Option Errc) (b : Block) : Block × ControlPc :=
  match b.disarmBegin with
  | some (b, true) => (b, .waitIdle .disarm)
  | some (b, false) => (b.disarmEnd ec, .free)
  | none => (b, .free)

/-- A step of the control thread from `free`: the call's effect on the block and where the
thread is after it. A call that throws returns to the caller as the throw leaves the block. -/
def controlCall (b : Block) : Event → Option (Block × ControlPc)
  | .setter x => some ((x.run b).1, .free)
  | .initialise ec => some ((b.initialise ec).1, .free)
  | .configure ec actualRate => some ((b.configure ec actualRate).1, .free)
  | .arm ec => some ((b.arm ec).1, .free)
  | .disarm ec => some (disarmCall ec b)
  | .close ec => some (b.close ec, .free)
  | .start ecInit ecConf actualRate spawnOk ecArm =>
    some ((b.start ecInit ecConf actualRate spawnOk ecArm).1, .free)
  | .stop ec => some (stopBegin ec b)
  | _ => none

/-- A `work()` call returns `ret` with `tags`: on its first positive return after `arm()` it
adds a timebase tag on each of the `size` output slots; the scheduler records the result and
advances `nitems_written` by what was produced; `-1` ends the stream. -/
def finishWork (s : Sys) (b : Block) (size : Nat) (ret : Int) (tags : List Tag) : Sys :=
  let tb : List Tag :=
    (List.range size).map fun i => ⟨i, b.nitemsWritten, .timebase b.getTimebaseWithDownsampling⟩
  let (b, tags) :=
    if 0 < ret ∧ b.timebasePublished = false then ({ b with timebasePublished := true }, tags ++ tb)
    else (b, tags)
  { s with blk := b.produce ⟨ret, none, []⟩, worker := if ret < 0 then .done else .free,
           out := s.out ++ [(ret, tags)] }

/-- `work()` threw: the exception leaves the scheduler thread. -/
def throwWork (s : Sys) (b : Block) : Sys := { s with blk := b, worker := .done }

/-- `work_stream` once `d_app_buffer.wait_data_ready()` returned `ec`: the error is recorded;
`Stopped` ends the stream; `Watchdog` disarms, waiting for the poller's `IDLE` when there is
something to wait for, before it re-arms; any other error ends the stream; no error runs the
data path on the scheduler's `outputs` and returns `noutput_items = d_buffer_size`, the
`uint32_t` converted to `int`. -/
def streamAfterWait (s : Sys) (ec : Option Errc) (outputs : List OutputItem)
    (ecDisarm : Option Errc) : Sys :=
  let b := s.blk.recordError ec
  match ec with
  | some .stopped => s.finishWork b outputs.length (-1) []
  | some .watchdog =>
    match b.disarmBegin with
    | some (b, true) => { s with blk := b, worker := .waitIdle }
    | some (b, false) => { s with blk := b.disarmEnd ecDisarm, worker := .disarmed }
    | none => { s with blk := b, worker := .disarmed }
  | some _ => s.finishWork b outputs.length (-1) []
  | none =>
    match b.workStreamData outputs with
    | .error _ => s.throwWork b
    | .ok (b', _, tags) => s.finishWork b' outputs.length (uint32ToInt b.bufferSize) tags

/-- Modelled from the spec (§4.2 AppBuffer): what `wait_data_ready()` returns once it
returns: the pending error, which wins over queued data, or no error when a chunk is queued;
`none` while it blocks. -/
def appReady (a : AppBuffer) : Option (Option Errc) :=
  match a.errc with
  | some e => some (some e)
  | none => if a.chunks = [] then none else some none

/-- One atomic step. -/
def step (s : Sys) : Event → Option Sys
  | .controlIdle ec =>
    match s.control with
    | .waitIdle k =>
      if s.blk.pollerState = .idle then
        let b := s.blk.disarmEnd ec
        match k with
        | .disarm => some { s with blk := b, control := .free }
        | .stop => some { s with blk := (stopRest b).1, control := (stopRest b).2 }
      else none
    | _ => none
  | .controlExit => if s.control = .waitExit then some { s with control := .join } else none
  | .controlJoin =>
    if s.control = .join ∧ s.blk.pollerAlive = false then
      some { s with blk := s.blk.joinPoller.stopEnd, control := .free }
    else none
  | .work env n size =>
    if s.worker ≠ .free then none
    else match s.blk.acquisitionMode with
    | .streaming => some { s with worker := .waitApp }
    | .rapidBlock =>
      if s.blk.bstate.state = .waiting then
        match s.blk.rapidBeforeWait env.ecDisarm env.ecArm with
        | (b, some r) => some (s.finishWork b size r [])
        | (b, none) => some { s with blk := b, worker := .waitRdy }
      else
        let r := s.blk.rapidRead n size env.ecPrefetch env.ecData env.status
        some (s.finishWork r.1 size r.2.ret r.2.tags)
  | .appWake outputs ecDisarm =>
    if s.worker = .waitApp then (appReady s.blk.appBuffer).map fun ec =>
      s.streamAfterWait ec outputs ecDisarm
    else none
  | .workerIdle ec =>
    if s.worker = .waitIdle ∧ s.blk.pollerState = .idle then
      some { s with blk := s.blk.disarmEnd ec, worker := .disarmed }
    else none
  | .workerArm size ec =>
    if s.worker = .disarmed then
      match s.blk.arm ec with
      | (b, some _) => some (s.throwWork b)
      | (b, none) => some (s.finishWork b size 0 [])
    else none
  | .rdyWake =>
    if s.worker = .waitRdy ∧ s.blk.dataRdy = true then
      some { s with worker := .gotRdy s.blk.dataRdyErrc }
    else none
  | .rdyClear env n size =>
    match s.worker with
    | .gotRdy ec =>
      match s.blk.rapidAfterWait ec with
      | (b, some r) => some (s.finishWork b size r [])
      | (b, none) =>
        let r := b.rapidRead n size env.ecPrefetch env.ecData env.status
        some (s.finishWork r.1 size r.2.ret r.2.tags)
    | _ => none
  | .poll pollErr watchdog =>
    if s.blk.pollerAlive then some { s with blk := s.blk.pollerStep pollErr watchdog } else none
  | .push c => some { s with blk := { s.blk with appBuffer := s.blk.appBuffer.push c } }
  | .blockReady ec => some { s with blk := s.blk.notifyDataReady ec }
  | e =>
    if s.control = .free then
      (controlCall s.blk e).map fun r => { s with blk := r.1, control := r.2 }
    else none

/-- The states a sequence of events leads to, if every step is enabled. -/
def run (s : Sys) : List Event → Option Sys
  | [] => some s
  | e :: es => (s.step e).bind fun s' => s'.run es

end Sys

/-! ## Executions -/

/-- The executions whose every step satisfies `ok` (which sees the state before the step, the
event and the state after it). -/
inductive Steps (ok : Sys → Event → Sys → Prop) : Sys → Sys → Prop where
  | refl (s : Sys) : Steps ok s s
  | tail {s u v : Sys} {e : Event} : Steps ok s u → u.step e = some v → ok u e v → Steps ok s v

/-- The states of every interleaving of the threads from a constructed block. -/
def Reachable (s : Sys) : Prop :=
  ∃ (channels : List ChannelSetting) (ports : List PortSetting) (ai_channels di_ports : Nat)
    (auto_arm : Bool),
    Steps (fun _ _ _ => True) (Sys.init (digitizerBlockImpl channels ports ai_channels di_ports
      auto_arm)) s

/-- An execution can be extended by a step at its start. -/
theorem Steps.head {ok : Sys → Event → Sys → Prop} {s u v : Sys} {e : Event}
    (hs : s.step e = some u) (hok : ok s e u) (h : Steps ok u v) : Steps ok s v := by
  induction h with
  | refl => exact .tail (.refl _) hs hok
  | tail _ hstep hok' ih => exact .tail ih hstep hok'

/-- Two executions in a row are one. -/
theorem Steps.trans {ok : Sys → Event → Sys → Prop} {s u v : Sys} (h₁ : Steps ok s u)
    (h₂ : Steps ok u v) : Steps ok s v := by
  induction h₂ with
  | refl => exact h₁
  | tail _ hstep hok ih => exact .tail ih hstep hok

/-- A property that every allowed step keeps holds along every execution. -/
theorem Steps.preserve {ok : Sys → Event → Sys → Prop} {P : Sys → Prop} {s t : Sys}
    (hP : ∀ u e v, u.step e = some v → ok u e v → P u → P v) (h : Steps ok s t) (hs : P s) :
    P t := by
  induction h with
  | refl => exact hs
  | tail _ hstep hok ih => exact hP _ _ _ hstep hok ih

/-- A run that `Sys.run` accepts is an execution. -/
theorem Sys.run_steps {s s' : Sys} {es : List Event} (h : s.run es = some s') :
    Steps (fun _ _ _ => True) s s' := by
  induction es generalizing s with
  | nil => cases h; exact .refl _
  | cons e es ih =>
    simp only [Sys.run, Option.bind_eq_some] at h
    obtain ⟨u, hu, hrun⟩ := h
    exact Steps.head hu trivial (ih hrun)

/-- Whether a run is enabled and each of its steps satisfies `ok`. -/
def Sys.runChecks (ok : Sys → Event → Sys → Prop) [∀ u e v, Decidable (ok u e v)] (s : Sys) :
    List Event → Bool
  | [] => true
  | e :: l =>
    match s.step e with
    | some v => decide (ok s e v) && v.runChecks ok l
    | none => false

/-- A run that passes `Sys.runChecks ok` is an execution whose steps satisfy `ok`. -/
theorem Sys.steps_of_runChecks {ok : Sys → Event → Sys → Prop} [∀ u e v, Decidable (ok u e v)]
    {s s' : Sys} {l : List Event} (h : s.run l = some s') (hc : s.runChecks ok l = true) :
    Steps ok s s' := by
  induction l generalizing s with
  | nil => cases h; exact .refl _
  | cons e l ih =>
    simp only [Sys.run, Option.bind_eq_some] at h
    obtain ⟨u, hu, hrun⟩ := h
    simp only [Sys.runChecks, hu, Bool.and_eq_true, decide_eq_true_eq] at hc
    exact Steps.head hu hc.1 (ih hrun hc.2)

/-! ## `stop()` and the channel a streaming worker waits on -/

/-- `stop()` posts `Stopped` only on the rapid-block data-ready channel: none of its segments
touches the application buffer, on which `work_stream` waits. -/
theorem stopRest_appBuffer (b : Block) : (Sys.stopRest b).1.appBuffer = b.appBuffer := by
  unfold Sys.stopRest Block.stopAfterDisarm Block.stopPollThread
  split_ifs <;> rfl

theorem stopBegin_appBuffer (ec : Option Errc) (b : Block) :
    (Sys.stopBegin ec b).1.appBuffer = b.appBuffer := by
  unfold Sys.stopBegin
  split_ifs
  · rfl
  · split <;> rename_i h <;> unfold Block.disarmBegin Block.transitPollThreadToIdle at h <;>
      split_ifs at h <;> cases h <;>
      simp only [stopRest_appBuffer, Block.disarmEnd, Block.notifyDataReady, Block.recordError_eq]
  · exact stopRest_appBuffer _

/-- Streaming with channel `A` and auto-arm: `start()`, a chunk pushed by the driver, `work()`
waiting on the application buffer, then `stop()`. `stop()` posts `Stopped` on the rapid-block
channel and waits for the poller's `IDLE`; the application buffer holds no error, so the
worker's wait returns the chunk and `work()` returns `8192` items with three tags (the
acquisition-info tag and a timebase tag on each of the two slots). -/
theorem stop_streaming_worker_reads_data :
    ((Sys.init (digitizerBlockImpl [⟨5, 0, true, true, 5⟩] [] 1 0 true)).run
      [.start none none none true none, .push ⟨[[1]], [[0]], [], [0], 0⟩,
        .work ⟨none, none, none, none, none, []⟩ 1 2, .stop none,
        .appWake [.floats [0], .floats [0]] none]).map
      (fun s => (s.control, s.blk.dataRdyErrc, s.blk.appBuffer.errc,
        s.out.map fun r => (r.1, r.2.length))) =
    some (.waitIdle .stop, some .stopped, none, [(8192, 3)]) := by
  decide

/-! ## The lifecycle -/

/-- `arm()` on a constructed block whose `initialize()` was never called succeeds
(`Block.arm_initialized`), and `close()` on an armed block leaves it armed: both reach
`d_armed = true` with `d_initialized = false`. -/
theorem armed_uninitialized_reachable :
    ((Sys.init (digitizerBlockImpl [] [] 0 0 false)).run [.arm none]).map
        (fun s => (s.blk.initialized, s.blk.armed)) = some (false, true) ∧
      ((Sys.init (digitizerBlockImpl [] [] 0 0 false)).run
        [.initialise none, .arm none, .close none]).map
        (fun s => (s.blk.initialized, s.blk.armed)) = some (false, true) := by
  decide

/-! ## Counts and indices that `work_stream` trusts -/

/-- Two streaming runs up to the point where `work_stream` waits with a chunk queued, compared
on the count `configure()` handed to the application buffer, the size of `ai_buffers` that
`arm()` set, and the number of channels the data loop fills. Channel `A` disabled, then
`set_aichan("A", true, ...)` after `arm()`: `0`, `0` and `1`, so `work_stream` writes
`ai_buffers[0]` of an empty vector. One channel whose settings array also holds a channel `B`,
enabled with `set_aichan("B", true, ...)`: `configure()` counts `2` over the whole array, while
`arm()` and the data loop count `1` below `d_ai_channels`. -/
theorem enabled_counts_disagree :
    ((Sys.init (digitizerBlockImpl [⟨5, 0, false, true, 5⟩] [] 1 0 false)).run
      [.start none none none true none, .arm none, .setter (.setAichan "A" true 5 true 0),
        .push ⟨[[1]], [[0]], [], [0], 0⟩, .work ⟨none, none, none, none, none, []⟩ 1 2]).map
      (fun s => (s.worker, s.blk.appBuffer.shape.1, s.blk.aiBuffers.length,
        s.blk.dataChannelSlots.1.length)) = some (.waitApp, 0, 0, 1) ∧
    ((Sys.init (digitizerBlockImpl [⟨5, 0, true, true, 5⟩, ⟨5, 0, false, true, 5⟩] [] 1 0 false)).run
      [.setter (.setAichan "B" true 5 true 0), .start none none none true none, .arm none,
        .push ⟨[[1]], [[0]], [], [0], 0⟩, .work ⟨none, none, none, none, none, []⟩ 1 2]).map
      (fun s => (s.worker, s.blk.appBuffer.shape.1, s.blk.aiBuffers.length,
        s.blk.dataChannelSlots.1.length)) = some (.waitApp, 2, 1, 1) := by
  decide

/-- Two streaming runs up to the point where `work_stream` waits with a chunk queued, with a
trigger source that no setter checked against the inputs. `set_di_trigger(8, RISING)` on a
block with one port: the trigger buffer's index `output_items.size() - d_ports + 8 / 8` is `1`
with one output slot, past the end. `set_aichan_trigger("B", ...)` on a block with one channel
whose settings array also holds `B`, disabled: the source parses to channel `1`, which is not
below `d_ai_channels` and not enabled, and its trigger buffer is slot `2` of two. -/
theorem trigger_source_unchecked :
    ((Sys.init (digitizerBlockImpl [] [⟨1, true⟩, ⟨1, false⟩] 0 1 false)).run
      [.setter (.setDiTrigger 8 .rising), .start none none none true none, .arm none,
        .push ⟨[], [], [[1]], [], 0⟩, .work ⟨none, none, none, none, none, []⟩ 1 1]).map
      (fun s => (s.worker, s.blk.triggerSettings.isDigital,
        1 - s.blk.ports + s.blk.triggerSettings.pinNumber / 8)) = some (.waitApp, true, 1) ∧
    ((Sys.init (digitizerBlockImpl [⟨5, 0, true, true, 5⟩, ⟨5, 0, false, true, 5⟩] [] 1 0 false)).run
      [.setter (.setAichanTrigger "B" .rising 1), .start none none none true none, .arm none,
        .push ⟨[[1]], [[0]], [], [0], 0⟩, .work ⟨none, none, none, none, none, []⟩ 1 2]).map
      (fun s => (s.worker, s.blk.triggerSettings.isAnalog,
        (s.blk.convertToAichanIdx s.blk.triggerSettings.source).toOption, s.blk.aiChannels,
        s.blk.channelEnabled 1, s.blk.triggerBufferSlot 1)) =
      some (.waitApp, true, some 1, 1, false, 2) := by
  decide

/-! ## The watchdog re-arm -/

/-- Streaming with one channel and auto-arm: `start()`, `work()` waiting on the application
buffer, the poller reading `RUNNING` and posting `Watchdog`. The worker wakes, records it and
disarms, waiting for `IDLE`; the poller reads `PEND_IDLE` at its next check and answers. The
re-arm's `driver_arm()` then fails: `arm()` throws and `work()` passes the exception on, so the
scheduler thread ends with no `work()` result. -/
theorem watchdog_rearm_failure_throws :
    ((Sys.init (digitizerBlockImpl [⟨5, 0, true, true, 5⟩] [] 1 0 true)).run
      ([.start none none none true none, .work ⟨none, none, none, none, none, []⟩ 1 2,
        .poll none false, .poll none false, .poll none true,
        .appWake [.floats [0], .floats [0]] none] ++ List.replicate 29 (.poll none false) ++
        [.workerIdle none, .workerArm 2 (some (.driver 1))])).map
      (fun s => (s.worker, s.out.length, s.blk.errors)) =
      some (.done, 0, [.watchdog, .driver 1]) := by
  decide

/-! ## The software trigger across arming -/

end DigitizerBlock
