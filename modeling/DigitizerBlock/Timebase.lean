import DigitizerBlock.System

/-!
# The timebase tag

`work()` emits a timebase tag on every output slot, at the stream offset `nitems_written(0)` of
the call, when the call returns a positive count while `d_timebase_published` is clear, and then
sets the flag; `arm()` clears the flag once `driver_arm()` has succeeded. This module proves the
law those lines implement over whole runs of the thread model.

The law is a machine of its own (`TimebaseObs.lawful`): it sees a successful `arm()` or a returned
`work()` call with the slots and offsets of its timebase tags, and keeps one bit, whether a call
has returned a positive count since the last successful `arm()` or since construction. A returned
call must carry a timebase tag on each of its slots at its offset exactly when it is positive and
the bit is clear. `Sys.observe` is what one step of the model shows of this: `Sys.armsIn` names
the steps that run an `arm()` past `driver_arm()` (the control thread's `arm()` and the one in
`start()`, and the re-arms of `work_rapid_block` and of the watchdog), and the entry a step adds
to the results of `work()` is a returned call.

`d_timebase_published` is the law's bit. Every method keeps the flag and `nitems_written(0)`
except an `arm()` that gets past `driver_arm()` (the `Block.timebaseView_*` lemmas), and the tags
the data paths add carry no timebase tag of their own. So every enabled step is a
`Sys.TimebaseStep` (`Sys.step_timebaseStep`): its observations are lawful from the flag and leave
the law in the state the step leaves the flag in (`Sys.TimebaseStep.law`), and the result it shows
is the one it adds (`Sys.TimebaseStep.results`). By induction every run from a constructed block
obeys the law, and what it shows of the returned calls is what the scheduler received
(`timebase_tags_follow_arm`); on a run that `Sys.run` accepts, `Sys.observeRun` reaches the state
`Sys.run` does (`Sys.observeRun_of_run`). An `arm()` on an armed block returns at once and clears
nothing; it is not an arm for the law.
-/

set_option autoImplicit false

namespace DigitizerBlock

/-! ## The law -/

/-- The slots and offsets of the timebase tags among `tags`. -/
def timebaseMarks (tags : List Tag) : List (Nat × Nat) :=
  tags.filterMap fun t =>
    match t.kind with
    | .timebase _ => some (t.slot, t.offset)
    | _ => none

@[simp] theorem timebaseMarks_append (xs ys : List Tag) :
    timebaseMarks (xs ++ ys) = timebaseMarks xs ++ timebaseMarks ys :=
  List.filterMap_append ..

@[simp] theorem timebaseMarks_flatMap {α : Type} (l : List α) (f : α → List Tag) :
    timebaseMarks (l.flatMap f) = l.flatMap fun a => timebaseMarks (f a) :=
  List.filterMap_flatMap ..

/-- What a run shows of the timebase law. -/
inductive TimebaseObs where
  /-- An `arm()` got past `driver_arm()`. -/
  | armed
  /-- A `work()` call returned `ret` from `size` output slots at the stream offset `offset`,
  with timebase tags at `marks`. -/
  | returned (ret : Int) (size offset : Nat) (marks : List (Nat × Nat))
  deriving DecidableEq, Repr

namespace TimebaseObs

/-- A returned call as the scheduler received it: the count and where its timebase tags are. -/
def result : TimebaseObs → Option (Int × List (Nat × Nat))
  | .armed => none
  | .returned ret _ _ marks => some (ret, marks)

/-- The timebase tags the law asks of a call returning `ret` from `size` slots at `offset`, with
`published` whether a positive count was returned since the last successful `arm()`: one on each
slot at `offset` if the call is the first positive one, none otherwise. -/
def expected (published : Bool) (ret : Int) (size offset : Nat) : List (Nat × Nat) :=
  if 0 < ret ∧ published = false then (List.range size).map (·, offset) else []

/-- The law's bit after an observation. -/
def next (published : Bool) : TimebaseObs → Bool
  | .armed => false
  | .returned ret _ _ _ => published || decide (0 < ret)

/-- An observation agrees with the law from `published`. -/
def ok (published : Bool) : TimebaseObs → Bool
  | .armed => true
  | .returned ret size offset marks => marks == expected published ret size offset

/-- Every observation of `os` agrees with the law, from `published` on. -/
def lawful : Bool → List TimebaseObs → Bool
  | _, [] => true
  | p, o :: os => o.ok p && lawful (o.next p) os

theorem lawful_append (p : Bool) :
    ∀ xs ys : List TimebaseObs,
      lawful p (xs ++ ys) = (lawful p xs && lawful (xs.foldl next p) ys)
  | [], _ => rfl
  | o :: xs, ys => by
    rw [List.cons_append, lawful, lawful, lawful_append (o.next p) xs ys, List.foldl_cons,
      Bool.and_assoc]

end TimebaseObs

/-! ## What each method does to the flag and the offset -/

namespace Block

/-- `d_timebase_published` and `nitems_written(0)`. -/
def timebaseView (b : Block) : Bool × Nat := (b.timebasePublished, b.nitemsWritten)

variable (b : Block)

@[simp] theorem timebaseView_recordError (ec : Option Errc) :
    (b.recordError ec).timebaseView = b.timebaseView := by
  cases ec <;> rfl

@[simp] theorem timebaseView_notifyDataReady (ec : Option Errc) :
    (b.notifyDataReady ec).timebaseView = b.timebaseView :=
  b.timebaseView_recordError ec

@[simp] theorem timebaseView_disarmEnd (ec : Option Errc) :
    (b.disarmEnd ec).timebaseView = b.timebaseView :=
  b.timebaseView_recordError ec

theorem timebaseView_initialise (ec : Option Errc) :
    (b.initialise ec).1.timebaseView = b.timebaseView := by
  unfold initialise
  split
  · rfl
  · split <;> rfl

theorem timebaseView_configure (ec : Option Errc) (actualRate : Option ℚ) :
    (b.configure ec actualRate).1.timebaseView = b.timebaseView := by
  obtain ⟨_, _, _, h, -⟩ := configure_writes ec actualRate b
  rw [h]
  rfl

theorem timebaseView_setter (x : Setter) : (x.run b).1.timebaseView = b.timebaseView := by
  rw [x.run_eq_withSettings b]
  rfl

theorem timebaseView_disarmBegin {b' : Block} {w : Bool} (h : b.disarmBegin = some (b', w)) :
    b'.timebaseView = b.timebaseView := by
  unfold disarmBegin transitPollThreadToIdle at h
  split_ifs at h <;> cases h <;> rfl

theorem timebaseView_stopAfterDisarm : b.stopAfterDisarm.1.timebaseView = b.timebaseView := by
  unfold stopAfterDisarm stopPollThread
  split_ifs <;> rfl

/-- `arm()` clears the flag exactly when it gets past `driver_arm()`. -/
theorem timebaseView_arm (ec : Option Errc) :
    (b.arm ec).1.timebaseView =
      if !b.armed && ec.isNone then (false, b.nitemsWritten) else b.timebaseView := by
  unfold arm armSucceeded
  cases b.armed <;> cases ec <;> simp only [Bool.not_false, Bool.not_true, Option.isNone_none,
    Option.isNone_some, Bool.and_true, Bool.and_false, Bool.false_eq_true, if_true, if_false] <;>
    (try split) <;> rfl

/-- What `start()` does after `configure()` clears the flag exactly when its `arm()` runs and
gets past `driver_arm()`. -/
theorem timebaseView_startAfterConfigure (spawnOk : Bool) (ecArm : Option Errc) :
    (b.startAfterConfigure spawnOk ecArm).1.timebaseView =
      if !b.armed && b.acquisitionMode == .streaming && (b.poller.isSome || spawnOk) &&
          b.autoArm && ecArm.isNone then (false, b.nitemsWritten)
      else b.timebaseView := by
  unfold startAfterConfigure startPollThread
  cases hm : b.acquisitionMode
  case rapidBlock => simp [hm, timebaseView]
  case streaming =>
    cases hp : b.poller <;> cases spawnOk <;> cases ha : b.autoArm <;> cases harm : b.armed <;>
      cases ecArm <;>
      simp [hm, hp, ha, harm, failStart, timebaseView, arm, armSucceeded, addErrorCode,
        transitPollThreadToRunning]

/-- `start()` clears the flag exactly when its `arm()` runs and gets past `driver_arm()`. -/
theorem timebaseView_start (ecInit ecConf : Option Errc) (actualRate : Option ℚ) (spawnOk : Bool)
    (ecArm : Option Errc) :
    (b.start ecInit ecConf actualRate spawnOk ecArm).1.timebaseView =
      if (b.initialized || ecInit.isNone) && !b.armed && ecConf.isNone &&
          b.acquisitionMode == .streaming && (b.poller.isSome || spawnOk) && b.autoArm &&
          ecArm.isNone then (false, b.nitemsWritten)
      else b.timebaseView := by
  unfold start initialise configure
  cases hi : b.initialized <;> cases ecInit <;> cases harm : b.armed <;> cases ecConf <;>
    cases actualRate <;> simp [hi, harm, timebaseView_startAfterConfigure] <;> rfl

theorem timebaseView_softwareTrigger {outputs : List OutputItem} {b' : Block} {offs : List Nat}
    (h : b.softwareTrigger outputs = .ok (b', offs)) : b'.timebaseView = b.timebaseView := by
  unfold softwareTrigger findAnalogTriggers findDigitalTriggers at h
  simp only [Except.map] at h
  (repeat' split at h) <;> cases h <;> rfl

/-! The tags the data paths add are acquisition-info and trigger tags. -/

theorem marks_acqInfoTags {status : List Nat} {info : List Tag}
    (h : b.acqInfoTags status = .ok info) : timebaseMarks info = [] := by
  unfold acqInfoTags at h
  split at h <;> cases h
  simp [timebaseMarks, List.filterMap_map, Function.comp_def]

theorem marks_triggerTags (o : Nat) : timebaseMarks (b.triggerTags o) = [] := by
  simp [timebaseMarks, triggerTags, List.filterMap_map, Function.comp_def]

theorem marks_rapidTriggerTags (size : Nat) : timebaseMarks (b.rapidTriggerTags size) = [] := by
  simp only [rapidTriggerTags, timebaseMarks_append, timebaseMarks_flatMap]
  simp [timebaseMarks]

theorem timebaseView_workStreamData {outputs outputs' : List OutputItem} {b' : Block}
    {tags : List Tag} (h : b.workStreamData outputs = .ok (b', outputs', tags)) :
    b'.timebaseView = b.timebaseView ∧ timebaseMarks tags = [] := by
  unfold workStreamData at h
  dsimp only at h
  split at h
  · cases h
  next _ info hinfo =>
    split at h
    · cases h
    next _ b₁ offs hst =>
      cases h
      refine ⟨?_, ?_⟩
      · rw [timebaseView_softwareTrigger _ hst]
        split <;> rfl
      · simp [marks_acqInfoTags _ hinfo, marks_triggerTags]

theorem timebaseView_rapidAfterWait (ec : Option Errc) :
    (b.rapidAfterWait ec).1.timebaseView = b.timebaseView := by
  unfold rapidAfterWait
  split <;> rfl

theorem timebaseView_rapidRead (n size : Nat) (ecPrefetch ecData : Option Errc)
    (status : List Nat) :
    (b.rapidRead n size ecPrefetch ecData status).1.timebaseView = b.timebaseView ∧
      timebaseMarks (b.rapidRead n size ecPrefetch ecData status).2.tags = [] := by
  unfold rapidRead readingPart1 readingTheRest
  split
  · cases ecPrefetch
    · cases ecData
      · exact ⟨rfl, marks_rapidTriggerTags _ _⟩
      · exact ⟨rfl, rfl⟩
    · exact ⟨rfl, rfl⟩
  · cases ecData <;> exact ⟨rfl, rfl⟩
  · exact ⟨rfl, rfl⟩

theorem timebaseView_rapidDisarm (ec : Option Errc) :
    (b.rapidDisarm ec).timebaseView = b.timebaseView ∧ (b.rapidDisarm ec).armed = false := by
  unfold rapidDisarm disarmBegin transitPollThreadToIdle
  split_ifs with h₁
  · exact ⟨rfl, by simpa using h₁⟩
  all_goals exact ⟨timebaseView_disarmEnd _ ec, rfl⟩

/-- The block an `arm()` leaves, whether or not it throws. -/
theorem timebaseView_of_arm {ec : Option Errc} {b' : Block} {r : Option Exception}
    (h : b.arm ec = (b', r)) :
    b'.timebaseView = if !b.armed && ec.isNone then (false, b.nitemsWritten) else b.timebaseView :=
  (congrArg (·.1.timebaseView) h).symm.trans (timebaseView_arm b ec)

/-- The `WAITING` branch before its wait clears the flag exactly when its re-arm runs and gets
past `driver_arm()`. -/
theorem timebaseView_rapidBeforeWait (ecDisarm ecArm : Option Errc) :
    (b.rapidBeforeWait ecDisarm ecArm).1.timebaseView =
      if !(b.triggerOnce && b.wasTriggeredOnce) && b.autoArm && ecArm.isNone then
        (false, b.nitemsWritten)
      else b.timebaseView := by
  unfold rapidBeforeWait
  obtain ⟨hv, ha⟩ := b.timebaseView_rapidDisarm ecDisarm
  cases h₁ : (b.triggerOnce && b.wasTriggeredOnce) <;> cases h₂ : b.autoArm
  case false.true =>
    simp only [Bool.not_false, Bool.true_and, Bool.false_eq_true, if_false, if_true]
    have hn : (b.rapidDisarm ecDisarm).nitemsWritten = b.nitemsWritten := congrArg Prod.snd hv
    split <;> rename_i h <;> rw [timebaseView_of_arm _ h, ha, hv, hn] <;> rfl
  all_goals simp [h₁, h₂]

theorem timebaseView_pollerStep (pollErr : Option Errc) (watchdog : Bool) :
    (b.pollerStep pollErr watchdog).timebaseView = b.timebaseView := by
  unfold pollerStep
  split <;> rfl

end Block

/-! ## The steps of the threads -/

/-- The output slots of the `work()` call that an event can end. -/
def Event.slots : Event → Nat
  | .work _ _ size | .workerArm size _ | .rdyClear _ _ size => size
  | .appWake outputs _ => outputs.length
  | _ => 0

namespace Sys

/-- Whether an enabled step runs an `arm()` past `driver_arm()`: the control thread's `arm()`,
the one in `start()` (streaming mode, auto-arm), the re-arm of `work_rapid_block` in `WAITING`,
and the watchdog's re-arm. An `arm()` on an armed block returns at once. -/
def armsIn (s : Sys) : Event → Bool
  | .arm ec => !s.blk.armed && ec.isNone
  | .start ecInit ecConf _ spawnOk ecArm =>
    (s.blk.initialized || ecInit.isNone) && !s.blk.armed && ecConf.isNone &&
      s.blk.acquisitionMode == .streaming && (s.blk.poller.isSome || spawnOk) && s.blk.autoArm &&
      ecArm.isNone
  | .work env _ _ =>
    s.blk.acquisitionMode == .rapidBlock && s.blk.bstate.state == .waiting &&
      (!(s.blk.triggerOnce && s.blk.wasTriggeredOnce) && s.blk.autoArm && env.ecArm.isNone)
  | .workerArm _ ec => !s.blk.armed && ec.isNone
  | _ => false

/-- The flag and the offset as a step's `arm()` leaves them. -/
def armedView (s : Sys) (e : Event) : Bool × Nat :=
  if s.armsIn e then (false, s.blk.nitemsWritten) else s.blk.timebaseView

/-- What a step from `s` to `t` shows: the `arm()` it runs past `driver_arm()`, then the call it
ends, with its slots, `nitems_written(0)` and the timebase tags it carries. -/
def observe (s : Sys) (e : Event) (t : Sys) : List TimebaseObs :=
  (if s.armsIn e then [.armed] else []) ++
    match t.out.drop s.out.length with
    | [(ret, tags)] => [.returned ret e.slots s.blk.nitemsWritten (timebaseMarks tags)]
    | _ => []

/-- A run up to its first step that is not enabled: what it shows, and the state it reaches. -/
def observeRun (s : Sys) : List Event → List TimebaseObs × Sys
  | [] => ([], s)
  | e :: es =>
    match s.step e with
    | some t => (s.observe e t ++ (t.observeRun es).1, (t.observeRun es).2)
    | none => ([], s)

/-- How a step meets the law: it ends no `work()` call and leaves the flag and the offset as
its `arm()` does, or it ends one through `finishWork` on a block that does, with tags that
carry no timebase tag of their own. -/
inductive TimebaseStep (s : Sys) (e : Event) : Sys → Prop where
  | quiet {t : Sys} : t.out = s.out → t.blk.timebaseView = s.armedView e → TimebaseStep s e t
  | returns {b : Block} {ret : Int} {tags : List Tag} :
      b.timebaseView = s.armedView e → timebaseMarks tags = [] →
      TimebaseStep s e (s.finishWork b e.slots ret tags)

/-- A returned call adds one result, which carries, beyond the call's own tags, the timebase
tags the law asks of it. -/
theorem finishWork_out (s : Sys) (b : Block) (size : Nat) (ret : Int) (tags : List Tag) :
    ∃ tags', (s.finishWork b size ret tags).out = s.out ++ [(ret, tags')] ∧
      timebaseMarks tags' = timebaseMarks tags ++
        TimebaseObs.expected b.timebasePublished ret size b.nitemsWritten := by
  unfold finishWork TimebaseObs.expected
  by_cases h : 0 < ret ∧ b.timebasePublished = false
  · refine ⟨_, rfl, ?_⟩
    simp only [h, and_self, if_true, timebaseMarks_append]
    refine congrArg _ ?_
    rw [timebaseMarks, List.filterMap_map]
    exact congrFun (List.filterMap_eq_map _) _
  · exact ⟨tags, by simp [h], by simp [h]⟩

/-- A returned call leaves the flag set once a positive count has been returned. -/
theorem finishWork_flag (s : Sys) (b : Block) (size : Nat) (ret : Int) (tags : List Tag) :
    (s.finishWork b size ret tags).blk.timebasePublished =
      (b.timebasePublished || decide (0 < ret)) := by
  unfold finishWork
  by_cases h : 0 < ret <;> cases hb : b.timebasePublished <;> simp [h, hb, Block.produce]

theorem armedView_eq (s : Sys) (e : Event) :
    s.armedView e =
      (if s.armsIn e then false else s.blk.timebasePublished, s.blk.nitemsWritten) := by
  unfold armedView
  split <;> rfl

/-- Every step the law sees is lawful from the flag, and leaves the law in the state it leaves
the flag in. -/
theorem TimebaseStep.law {s t : Sys} {e : Event} (h : s.TimebaseStep e t) :
    TimebaseObs.lawful s.blk.timebasePublished (s.observe e t) = true ∧
      (s.observe e t).foldl TimebaseObs.next s.blk.timebasePublished = t.blk.timebasePublished := by
  cases h with
  | quiet hout hv =>
    obtain ⟨hf, -⟩ := Prod.mk.inj (hv.trans (s.armedView_eq e))
    simp only [observe, hout, List.drop_length, hf]
    cases s.armsIn e <;> exact ⟨rfl, rfl⟩
  | @returns b ret tags hv hm =>
    obtain ⟨hf, hn⟩ := Prod.mk.inj (hv.trans (s.armedView_eq e))
    obtain ⟨tags', hout, hmarks⟩ := s.finishWork_out b e.slots ret tags
    simp only [observe, hout, List.drop_left, hmarks, hm, List.nil_append, finishWork_flag, hf, hn]
    cases s.armsIn e <;> simp [TimebaseObs.lawful, TimebaseObs.ok, TimebaseObs.next]

/-! ### Each thread's steps -/

theorem timebaseView_disarmCall (ec : Option Errc) (b : Block) :
    (disarmCall ec b).1.timebaseView = b.timebaseView := by
  unfold disarmCall
  split
  · exact b.timebaseView_disarmBegin ‹_›
  · exact (Block.timebaseView_disarmEnd _ ec).trans (b.timebaseView_disarmBegin ‹_›)
  · rfl

theorem timebaseView_stopRest (b : Block) : (stopRest b).1.timebaseView = b.timebaseView := by
  unfold stopRest
  split <;> rename_i h <;> exact (congrArg (·.1.timebaseView) h).symm.trans
    b.timebaseView_stopAfterDisarm

theorem timebaseView_stopBegin (ec : Option Errc) (b : Block) :
    (stopBegin ec b).1.timebaseView = b.timebaseView := by
  have hn := b.timebaseView_notifyDataReady (some .stopped)
  unfold stopBegin
  split_ifs
  · rfl
  · split <;> rename_i h
    · exact (Block.timebaseView_disarmBegin _ h).trans hn
    · exact (timebaseView_stopRest _).trans
        ((Block.timebaseView_disarmEnd _ ec).trans ((Block.timebaseView_disarmBegin _ h).trans hn))
    · exact (timebaseView_stopRest _).trans hn
  · exact timebaseView_stopRest b

/-- A call of the control thread leaves the flag and the offset as its `arm()` does. -/
theorem timebaseView_controlCall {s : Sys} {e : Event} {r : Block × ControlPc}
    (h : controlCall s.blk e = some r) : r.1.timebaseView = s.armedView e := by
  cases e <;> simp only [controlCall, Option.some.injEq, reduceCtorEq] at h <;> subst h
  case setter x => exact s.blk.timebaseView_setter x
  case initialise ec => exact s.blk.timebaseView_initialise ec
  case configure ec actualRate => exact s.blk.timebaseView_configure ec actualRate
  case arm ec => exact s.blk.timebaseView_arm ec
  case disarm ec => exact timebaseView_disarmCall ec s.blk
  case close ec => exact s.blk.timebaseView_recordError ec
  case start ecInit ecConf actualRate spawnOk ecArm =>
    exact s.blk.timebaseView_start ecInit ecConf actualRate spawnOk ecArm
  case stop ec => exact timebaseView_stopBegin ec s.blk

/-- `work_stream` after its wait: the watchdog's `disarm()` ends no call, every other branch
ends the call, or throws. -/
theorem streamAfterWait_timebaseStep (s : Sys) (ec : Option Errc) (outputs : List OutputItem)
    (ecDisarm : Option Errc) :
    s.TimebaseStep (.appWake outputs ecDisarm) (s.streamAfterWait ec outputs ecDisarm) := by
  have hv : (s.blk.recordError ec).timebaseView = s.armedView (.appWake outputs ecDisarm) :=
    s.blk.timebaseView_recordError ec
  unfold streamAfterWait
  dsimp only
  split
  · exact .returns hv rfl
  · split <;> rename_i h
    · exact .quiet rfl ((Block.timebaseView_disarmBegin _ h).trans hv)
    · exact .quiet rfl
        ((Block.timebaseView_disarmEnd _ _).trans ((Block.timebaseView_disarmBegin _ h).trans hv))
    · exact .quiet rfl hv
  · exact .returns hv rfl
  · split <;> rename_i h
    · exact .quiet rfl hv
    · obtain ⟨h₁, h₂⟩ := Block.timebaseView_workStreamData _ h
      exact .returns (h₁.trans hv) h₂

/-- Every enabled step meets the law. -/
theorem step_timebaseStep {s t : Sys} {e : Event} (h : s.step e = some t) :
    s.TimebaseStep e t := by
  cases e <;> simp only [step] at h
  case controlIdle ec =>
    split at h
    · split_ifs at h
      split at h <;> cases h
      · exact .quiet rfl (Block.timebaseView_disarmEnd _ ec)
      · exact .quiet rfl ((timebaseView_stopRest _).trans (Block.timebaseView_disarmEnd _ ec))
    · cases h
  case controlExit | controlJoin | rdyWake =>
    split_ifs at h
    cases h
    exact .quiet rfl rfl
  case work env n size =>
    cases hm : s.blk.acquisitionMode <;> simp only [hm] at h
    case streaming =>
      split_ifs at h
      cases h
      exact .quiet rfl (by simp [armedView, armsIn, hm])
    case rapidBlock =>
      split_ifs at h with _ hb
      · have ha : s.armedView (.work env n size) =
            (s.blk.rapidBeforeWait env.ecDisarm env.ecArm).1.timebaseView := by
          rw [s.blk.timebaseView_rapidBeforeWait]
          simp [armedView, armsIn, hm, hb]
        split at h <;> rename_i hr <;> cases h <;> rw [hr] at ha
        · exact .returns ha.symm rfl
        · exact .quiet rfl ha.symm
      · cases h
        obtain ⟨h₁, h₂⟩ :=
          s.blk.timebaseView_rapidRead n size env.ecPrefetch env.ecData env.status
        exact .returns (h₁.trans (by simp [armedView, armsIn, hb])) h₂
  case appWake outputs ecDisarm =>
    split_ifs at h
    obtain ⟨ec, -, rfl⟩ := Option.map_eq_some'.1 h
    exact streamAfterWait_timebaseStep s ec outputs ecDisarm
  case workerIdle ec =>
    split_ifs at h
    cases h
    exact .quiet rfl (Block.timebaseView_disarmEnd _ ec)
  case workerArm size ec =>
    split_ifs at h
    split at h <;> rename_i hr <;> cases h
    · exact .quiet rfl (s.blk.timebaseView_of_arm hr)
    · exact .returns (s.blk.timebaseView_of_arm hr) rfl
  case rdyClear env n size =>
    split at h
    next _ ec _ =>
      have hv : (s.blk.rapidAfterWait ec).1.timebaseView = s.armedView (.rdyClear env n size) :=
        s.blk.timebaseView_rapidAfterWait ec
      split at h <;> rename_i hr <;> cases h <;> rw [hr] at hv
      · exact .returns hv rfl
      · obtain ⟨h₁, h₂⟩ :=
          Block.timebaseView_rapidRead _ n size env.ecPrefetch env.ecData env.status
        exact .returns (h₁.trans hv) h₂
    · cases h
  case poll pollErr watchdog =>
    split_ifs at h
    cases h
    exact .quiet rfl (s.blk.timebaseView_pollerStep pollErr watchdog)
  case push c =>
    cases h
    exact .quiet rfl rfl
  case blockReady ec =>
    cases h
    exact .quiet rfl (s.blk.timebaseView_notifyDataReady ec)
  all_goals
    split_ifs at h
    obtain ⟨r, hr, rfl⟩ := Option.map_eq_some'.1 h
    exact .quiet rfl (timebaseView_controlCall hr)

/-- A step adds at most the one result it shows to what the scheduler received. -/
theorem TimebaseStep.results {s t : Sys} {e : Event} (h : s.TimebaseStep e t) :
    ∃ d, t.out = s.out ++ d ∧
      (s.observe e t).filterMap TimebaseObs.result = d.map fun r => (r.1, timebaseMarks r.2) := by
  cases h with
  | quiet hout _ =>
    refine ⟨[], by rw [hout, List.append_nil], ?_⟩
    simp only [observe, hout, List.drop_length]
    split <;> rfl
  | @returns b ret tags _ _ =>
    obtain ⟨tags', hout, -⟩ := s.finishWork_out b e.slots ret tags
    refine ⟨[(ret, tags')], hout, ?_⟩
    simp only [observe, hout, List.drop_left]
    split <;> rfl

/-! ### Whole runs -/

/-- Every run from `s` obeys the law from the flag of `s`. -/
theorem observeRun_lawful :
    ∀ (es : List Event) (s : Sys),
      TimebaseObs.lawful s.blk.timebasePublished (s.observeRun es).1 = true
  | [], _ => rfl
  | e :: es, s => by
    unfold observeRun
    split
    next t h =>
      obtain ⟨h₁, h₂⟩ := (step_timebaseStep h).law
      rw [TimebaseObs.lawful_append, h₁, h₂, observeRun_lawful es t, Bool.and_self]
    next => rfl

/-- The returned calls a run shows are the results the scheduler received, in order. -/
theorem observeRun_results :
    ∀ (es : List Event) (s : Sys), ∃ d, (s.observeRun es).2.out = s.out ++ d ∧
      (s.observeRun es).1.filterMap TimebaseObs.result = d.map fun r => (r.1, timebaseMarks r.2)
  | [], s => ⟨[], (List.append_nil _).symm, rfl⟩
  | e :: es, s => by
    unfold observeRun
    split
    next t h =>
      obtain ⟨d₁, h₁, hobs⟩ := (step_timebaseStep h).results
      obtain ⟨d₂, h₂, hrest⟩ := observeRun_results es t
      refine ⟨d₁ ++ d₂, by rw [h₂, h₁, List.append_assoc], ?_⟩
      rw [List.filterMap_append, hobs, hrest, List.map_append]
    next => exact ⟨[], (List.append_nil _).symm, rfl⟩

/-- A run that `Sys.run` accepts reaches the state it ends in. -/
theorem observeRun_of_run {s t : Sys} {es : List Event} (h : s.run es = some t) :
    (s.observeRun es).2 = t := by
  induction es generalizing s with
  | nil => cases h; rfl
  | cons e es ih =>
    simp only [run, Option.bind_eq_some] at h
    obtain ⟨u, hu, hr⟩ := h
    simp only [observeRun, hu, ih hr]

end Sys

/-- Timebase tags follow `arm()`: on every run of the threads from a constructed block, in
either acquisition mode and with every re-arm, the results the scheduler receives are what the
run shows, and each carries timebase tags exactly on each of its output slots at its
`nitems_written(0)` when it is the first call returning a positive count since the last
successful `arm()` or since construction. -/
theorem timebase_tags_follow_arm (channels : List ChannelSetting) (ports : List PortSetting)
    (ai_channels di_ports : Nat) (auto_arm : Bool) (es : List Event) :
    let r :=
      (Sys.init (digitizerBlockImpl channels ports ai_channels di_ports auto_arm)).observeRun es
    TimebaseObs.lawful false r.1 = true ∧
      r.1.filterMap TimebaseObs.result = r.2.out.map fun c => (c.1, timebaseMarks c.2) := by
  intro r
  have hs := Sys.observeRun_lawful es
    (Sys.init (digitizerBlockImpl channels ports ai_channels di_ports auto_arm))
  obtain ⟨d, hd, hres⟩ := Sys.observeRun_results es
    (Sys.init (digitizerBlockImpl channels ports ai_channels di_ports auto_arm))
  exact ⟨hs, by rw [hres, hd]; rfl⟩

/-- Streaming with auto-arm: `start()` arms, and of two calls returning a chunk each only the
first carries timebase tags, one on each slot at offset `0`. -/
example :
    ((Sys.init (digitizerBlockImpl [⟨5, 0, true, true, 5⟩] [] 1 0 true)).observeRun
      [.start none none none true none, .push ⟨[[1]], [[0]], [], [0], 0⟩,
        .work ⟨none, none, none, none, none, []⟩ 1 2, .appWake [.floats [0], .floats [0]] none,
        .push ⟨[[1]], [[0]], [], [0], 0⟩, .work ⟨none, none, none, none, none, []⟩ 1 2,
        .appWake [.floats [0], .floats [0]] none]).1 =
      [.armed, .returned 8192 2 0 [(0, 0), (1, 0)], .returned 8192 2 8192 []] := by
  decide

end DigitizerBlock
