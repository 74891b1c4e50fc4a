import DigitizerBlock.Basic

/-!
# The poller thread and its requests

In streaming mode a dedicated thread runs `poll_work_function`. It reads the shared
`d_poller_state` only every tenth iteration, keeps the value in its local `state`, and acts on
that cached value: in `RUNNING` it calls `driver_poll()` and runs the watchdog, on `PEND_IDLE` it
writes the acknowledgement `IDLE`, on `PEND_EXIT` it writes `EXIT` and returns. The block asks
for these transitions with `start_poll_thread`, `transit_poll_thread_to_running`,
`transit_poll_thread_to_idle` and `stop_poll_thread`, each of which writes `d_poller_state`
under `d_poller_mutex`; the latter two then wait for the acknowledgement.

Each function here is one region of `d_poller_mutex` (or one iteration segment of the poller),
so that the thread model can interleave them at the granularity of the lock. The last section
says what one step of the poller does: it writes the slot only to acknowledge
(`Poller.step_shared`); it keeps `Poller.Coherent`, which links the slot to the cached copy, and
`Poller.Acks`, under which a cached request is one just read; and it does not cache `RUNNING`
from a slot that does not hold it (`Poller.step_quiet`).
-/

set_option autoImplicit false

namespace DigitizerBlock

namespace Block

/-! ## Requests of the block -/

/-- `start_poll_thread()`: when no poller is joinable, `IDLE` is written under the lock and a
thread is created; `spawnOk` is whether `boost::thread` could create it (it throws
`thread_resource_error` otherwise, after the write). -/
def startPollThread (spawnOk : Bool) (b : Block) : Block × Option Exception :=
  if b.poller.isNone then
    if spawnOk then ({ b with pollerState := .idle, poller := some Poller.fresh }, none)
    else ({ b with pollerState := .idle }, some .threadResourceError)
  else (b, none)

/-- `transit_poll_thread_to_running()`: an unconditional write. -/
def transitPollThreadToRunning (b : Block) : Block := { b with pollerState := .running }

/-- The lock region at the start of `transit_poll_thread_to_idle()`: nothing when the poller has
exited, else the request `PEND_IDLE`, after which the caller waits for `IDLE`. The flag says
whether it waits. -/
def transitPollThreadToIdle (b : Block) : Block × Bool :=
  if b.pollerState = .exit then (b, false) else ({ b with pollerState := .pendIdle }, true)

/-- The lock region at the start of `stop_poll_thread()`: nothing without a joinable poller,
else the request `PEND_EXIT`, after which the caller waits for `EXIT` (at most 5 s) and then
joins. The flag says whether it waits. -/
def stopPollThread (b : Block) : Block × Bool :=
  if b.poller.isNone then (b, false) else ({ b with pollerState := .pendExit }, true)

/-- The end of `d_poller.join()`: the exited thread is released. -/
def joinPoller (b : Block) : Block := { b with poller := none }

/-- The poller thread is alive: started and not yet returned. -/
def pollerAlive (b : Block) : Bool :=
  match b.poller with
  | some p => p.pc != .exited
  | none => false

/-- The poller thread is executing `driver_poll()` or the rest of its `RUNNING` branch. -/
def pollerPolling (b : Block) : Bool :=
  match b.poller with
  | some p => p.pc == .polling
  | none => false

end Block

/-! ## The poller loop -/

/-- The number of iterations between two reads of `d_poller_state` (`check_every_n_times`). -/
def checkEveryNTimes : Nat := 10

/-- One step of `poll_work_function` with the shared state `shared`: the new poller and the new
shared state. At the loop head the counter is incremented and, every tenth time,
`d_poller_state` is read into `state`; at the branch the cached `state` decides, and the
acknowledgements are written from it. -/
def Poller.step (p : Poller) (shared : PollerState) : Poller × PollerState :=
  match p.pc with
  | .loop =>
    if p.checkCounter + 1 ≥ checkEveryNTimes then
      ({ p with pc := .branch, state := shared, checkCounter := 0 }, shared)
    else ({ p with pc := .branch, checkCounter := p.checkCounter + 1 }, shared)
  | .branch =>
    match p.state with
    | .running => ({ p with pc := .polling }, shared)
    | .pendIdle => ({ p with pc := .loop, state := .idle }, .idle)
    | .pendExit => ({ p with pc := .exited, state := .exit }, .exit)
    | _ => ({ p with pc := .loop }, shared)
  | .polling => ({ p with pc := .loop }, shared)
  | .exited => (p, shared)

namespace Block

/-- What the `RUNNING` branch posts to the application buffer: the error of `driver_poll()`, if
any, then `Watchdog` if the estimated sample rate fell below the threshold. -/
def pollNotify (pollErr : Option Errc) (watchdog : Bool) (a : AppBuffer) : AppBuffer :=
  let a := match pollErr with
    | some e => a.notifyDataReady (some e)
    | none => a
  if watchdog then a.notifyDataReady (some .watchdog) else a

/-- The poller takes one step; leaving the `RUNNING` branch it posts `pollNotify`. `pollErr` is
the outcome of `driver_poll()` and `watchdog` the outcome of the rate comparison, both chosen
by the environment. -/
def pollerStep (pollErr : Option Errc) (watchdog : Bool) (b : Block) : Block :=
  match b.poller with
  | none => b
  | some p =>
    { b with poller := some (p.step b.pollerState).1, pollerState := (p.step b.pollerState).2,
             appBuffer := if p.pc = .polling then pollNotify pollErr watchdog b.appBuffer
                          else b.appBuffer }

end Block

/-! ## What one step of the poller does -/

namespace Poller

variable {p : Poller} {sh : PollerState}

/-- The poller writes the slot only to acknowledge, at the branch: `IDLE` for a cached
`PEND_IDLE`, `EXIT` for a cached `PEND_EXIT`. -/
theorem step_shared (p : Poller) (sh : PollerState) :
    (p.step sh).2 = sh ∨ (p.pc = .branch ∧ p.state = .pendIdle ∧ (p.step sh).2 = .idle) ∨
      (p.pc = .branch ∧ p.state = .pendExit ∧ (p.step sh).2 = .exit) := by
  unfold step
  split
  · split_ifs <;> exact .inl rfl
  · split <;> simp_all
  · exact .inl rfl
  · exact .inl rfl

/-- The poller returns only by acknowledging a cached `PEND_EXIT`; once returned it stays. -/
theorem step_exited (p : Poller) (sh : PollerState) (h : (p.step sh).1.pc = .exited) :
    (p.pc = .exited ∧ p.step sh = (p, sh)) ∨
      (p.pc = .branch ∧ p.state = .pendExit ∧ (p.step sh).2 = .exit) := by
  unfold step at h ⊢
  split at h
  · split_ifs at h
  · split at h <;> simp_all
  · cases h
  · simp_all

/-- The cached state agrees with the slot `sh`: no `RUNNING` cached by a live poller while the
slot reads `IDLE`, no live poller while it reads `EXIT`, and polling only on a cached
`RUNNING`. -/
structure Coherent (sh : PollerState) (p : Poller) : Prop where
  idle_not_running : p.pc ≠ .exited → sh = .idle → p.state ≠ .running
  exit_exited : sh = .exit → p.pc = .exited
  polling_running : p.pc = .polling → p.state = .running

theorem fresh_coherent : Poller.fresh.Coherent .idle :=
  ⟨fun _ _ => by decide, by decide, by decide⟩

/-- A request that leaves neither `IDLE` nor `EXIT` in the slot keeps the agreement. -/
theorem Coherent.request (h : p.Coherent sh) {sh' : PollerState} (hi : sh' ≠ .idle)
    (hx : sh' ≠ .exit) : p.Coherent sh' :=
  ⟨fun _ h' => absurd h' hi, fun h' => absurd h' hx, h.polling_running⟩

theorem Coherent.step (h : p.Coherent sh) : (p.step sh).1.Coherent (p.step sh).2 := by
  obtain ⟨hi, hx, hp⟩ := h
  unfold Poller.step
  split
  · split_ifs <;> constructor <;> simp_all
  · split <;> constructor <;> simp_all
  · constructor <;> simp_all
  · exact ⟨hi, hx, hp⟩

/-- Stepping from a slot that does not read `RUNNING` (which is what the poller reads, if it
reads), a live poller without `RUNNING` cached does not cache it. -/
theorem step_quiet (h : p.Coherent sh) (hq : p.pc ≠ .exited → p.state ≠ .running)
    (hr : (p.step sh).2 ≠ .running) :
    (p.step sh).1.pc ≠ .exited → (p.step sh).1.state ≠ .running := by
  obtain ⟨pc, st, k⟩ := p
  cases pc <;> simp only [Poller.step] at hr ⊢
  · split_ifs at hr ⊢ <;> simp_all
  · cases st <;> simp_all
  · exact absurd (h.polling_running rfl) (hq nofun)
  · exact hq

/-- A cached request is one the poller has just read from the slot and not yet answered. -/
structure Acks (sh : PollerState) (p : Poller) : Prop where
  pendIdle : p.state = .pendIdle → p.pc = .branch ∧ sh = .pendIdle
  pendExit : p.state = .pendExit → p.pc = .branch ∧ sh = .pendExit

theorem Acks.step (h : p.Acks sh) : (p.step sh).1.Acks (p.step sh).2 := by
  obtain ⟨hi, hx⟩ := h
  unfold Poller.step
  split
  · split_ifs <;> constructor <;> simp_all
  · split <;> constructor <;> simp_all
  · constructor <;> simp_all
  · exact ⟨hi, hx⟩

end Poller

end DigitizerBlock
