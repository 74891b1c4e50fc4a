import DigitizerBlock.Configuration
import Mathlib.Data.List.Nodup

/-!
# Streaming over the thread model

The data path of `work_stream` and its software trigger, call after call, as the scheduler and
the driver's streaming callback interleave.

`workStreamData_layout` is the data path of one call: with pointer vectors of the sizes `arm()`
gives them for the settings in force and a chunk with an entry for every enabled input, the call
takes the oldest queued chunk and leaves the scheduler's buffers as the output layout of the
spec says (`Block.layoutSlot`): channel `i`'s values and errors in slots `2 i` and `2 i + 1`, port
`j`'s bytes in slot `2 d_ai_channels + j`, and the slots of a disabled input as they were.

`StreamReady.run` follows a whole run of scheduler and driver steps (`work()` calls, the
driver's pushes and its block-complete callbacks, in any interleaving) from a state where the
scheduler is between calls or waiting on the application buffer. Each step is accounted for by a
`RunAccount`, and accounts of consecutive segments compose (`RunAccount.trans`): the chunks are
delivered in push order, none twice and none lost unless the ring overwrote it, every call
returns `d_buffer_size` items, and the trigger tags of all the calls are those that one detector
pass over the delivered stream would attach, at absolute stream offsets. For the analog trigger
this needs every channel up to the source enabled, since the trigger buffer index counts enabled
channels only, and the pass is one `find_analog_triggers` call (`analog_stream_triggers`); the
digital trigger buffer is the layout's port slot whatever the other inputs, and the pass is one
`find_digital_triggers` call (`digital_stream_triggers`). Both need `d_buffer_size` below `2^31`,
where the `int` that `work_stream` returns is `d_buffer_size` itself.

`arm()` does not restart the detector. What it reports after an `arm()` depends on the history
before it only through the trigger and channel settings and `d_trigger_state`
(`triggers_after_arm`), and an earlier armed period that left the state set hides the next edge
(`trigger_state_survives_rearm`).
-/

set_option autoImplicit false

namespace DigitizerBlock

/-! ## Writes at distinct slots -/

section Writes

variable {α : Type}

theorem foldl_set_length : ∀ (L : List (Nat × α)) (o : List α),
    (L.foldl (fun o p => o.set p.1 p.2) o).length = o.length
  | [], _ => rfl
  | _ :: L, _ => (foldl_set_length L _).trans (List.length_set ..)

/-- Writes at the slots of `L`, in order: a slot that no pair names keeps its value. -/
theorem foldl_set_of_not_mem {j : Nat} : ∀ (L : List (Nat × α)) (o : List α), j ∉ L.map Prod.fst →
    (L.foldl (fun o p => o.set p.1 p.2) o)[j]? = o[j]?
  | [], _, _ => rfl
  | p :: L, o, hj => by
    simp only [List.map_cons, List.mem_cons, not_or] at hj
    rw [List.foldl_cons, foldl_set_of_not_mem L _ hj.2, List.getElem?_set_ne (Ne.symm hj.1)]

/-- With distinct slots, a slot that a pair names ends with that pair's value. -/
theorem foldl_set_of_mem {j : Nat} {x : α} : ∀ (L : List (Nat × α)) (o : List α),
    (L.map Prod.fst).Nodup → (j, x) ∈ L → j < o.length →
    (L.foldl (fun o p => o.set p.1 p.2) o)[j]? = some x
  | [], _, _, hm, _ => absurd hm (List.not_mem_nil _)
  | p :: L, o, hnd, hm, hj => by
    rw [List.map_cons, List.nodup_cons] at hnd
    rw [List.foldl_cons]
    rcases List.mem_cons.mp hm with rfl | hm
    · rw [foldl_set_of_not_mem L _ hnd.1, List.getElem?_set_self hj]
    · exact foldl_set_of_mem L _ hnd.2 hm (by rwa [List.length_set])

/-- The `r`-th entry of the indices below `n` that satisfy `p` is the index `i` that has `r`
such indices below it. -/
theorem filter_range_getElem?_countP (p : Nat → Bool) {n i : Nat} (hi : i < n) (hp : p i = true) :
    ((List.range n).filter p)[(List.range i).countP p]? = some i := by
  have hsplit : List.range n = List.range i ++ i :: List.range' (i + 1) (n - i - 1) := by
    have h := List.range'_append 0 i (n - i) 1
    rw [Nat.zero_add, Nat.one_mul, Nat.sub_add_cancel hi.le] at h
    rw [List.range_eq_range', List.range_eq_range', ← List.range'_succ,
      show n - i - 1 + 1 = n - i by omega, h]
  rw [hsplit, List.filter_append, List.countP_eq_length_filter,
    List.getElem?_append_right (le_refl _), Nat.sub_self, List.filter_cons, if_pos hp,
    List.getElem?_cons_zero]

/-- The input with `r` enabled inputs below it, mapped to its slot by `g` and zipped with the
entries `D`, meets the `r`-th entry. -/
theorem zip_filter_range_getElem? {β : Type} (p : Nat → Bool) (g : Nat → Nat) {n i : Nat}
    (hi : i < n) (hp : p i = true) {D : List β} {d : β} (hd : D[(List.range i).countP p]? = some d) :
    ((((List.range n).filter p).map g).zip D)[(List.range i).countP p]? = some (g i, d) := by
  rw [List.getElem?_zip_eq_some, List.getElem?_map, filter_range_getElem?_countP p hi hp]
  exact ⟨rfl, hd⟩

/-- Among distinct writes that include the entries `D` zipped with the slots of the enabled
inputs, the slot of an enabled input ends with its entry, which exists when `D` has one entry per
enabled input. -/
theorem foldl_set_zip_filter_range {β : Type} {L : List (Nat × α)} (o : List α)
    (hL : (L.map Prod.fst).Nodup) (p : Nat → Bool) (g : Nat → Nat) (f : β → α) {n i : Nat}
    (hi : i < n) (hp : p i = true) {D : List β} (hD : ((List.range n).filter p).length ≤ D.length)
    (hsub : ∀ q ∈ (((List.range n).filter p).map g).zip (D.map f), q ∈ L) (hk : g i < o.length) :
    ∃ d, D[(List.range i).countP p]? = some d ∧
      (L.foldl (fun o p => o.set p.1 p.2) o)[g i]? = some (f d) := by
  obtain ⟨d, hd⟩ : ∃ d, D[(List.range i).countP p]? = some d :=
    ⟨_, List.getElem?_eq_getElem (Nat.lt_of_lt_of_le
      (List.getElem?_eq_some_iff.mp (filter_range_getElem?_countP p hi hp)).1 hD)⟩
  exact ⟨d, hd, foldl_set_of_mem L o hL (hsub _ (List.getElem?_mem
    (zip_filter_range_getElem? p g hi hp (by rw [List.getElem?_map, hd]; rfl)))) hk⟩

end Writes

namespace Block

/-- With a pointer vector as long as the recorded slots, the loop leaves exactly those slots in
it. -/
theorem writePtrs_eq {v : List (Option Nat)} {slots : List Nat} (h : v.length = slots.length) :
    writePtrs v slots = slots.map some := by
  have hw : writePtrs v slots = ((slots.zip (List.range slots.length)).map
      fun p => (p.2, some p.1)).foldl (fun o q => o.set q.1 q.2) v := by
    rw [List.foldl_map]; rfl
  have hnd : (((slots.zip (List.range slots.length)).map
      fun p => (p.2, some p.1)).map Prod.fst).Nodup := by
    rw [List.map_map, show (Prod.fst ∘ fun p : Nat × Nat => (p.2, some p.1)) = Prod.snd from rfl,
      List.map_snd_zip _ _ (by simp)]
    exact List.nodup_range _
  apply List.ext_getElem?
  intro k
  rw [hw, List.getElem?_map]
  cases hk : slots[k]? with
  | none =>
    have : slots.length ≤ k := List.getElem?_eq_none_iff.mp hk
    rw [List.getElem?_eq_none (by rw [foldl_set_length]; omega), Option.map_none']
  | some x =>
    have hlt := (List.getElem?_eq_some_iff.mp hk).1
    refine foldl_set_of_mem _ _ hnd (List.mem_map.mpr ⟨(x, k), List.getElem?_mem
      (List.getElem?_zip_eq_some.mpr ⟨hk, List.getElem?_range hlt⟩), rfl⟩) (by omega)


/-- Every pointer of the three vectors holds a slot: the copy is the writes of the chunk's
entries at those slots, values first, then errors, then ports. -/
theorem copyChunk_eq (c : AcqChunk) {b : Block} {S E P : List Nat}
    (hS : b.aiBuffers = S.map some) (hE : b.aiErrorBuffers = E.map some)
    (hP : b.portBuffers = P.map some) (outputs : List OutputItem) :
    b.copyChunk c outputs = (S.zip (c.values.map OutputItem.floats) ++
      E.zip (c.errors.map OutputItem.floats) ++ P.zip (c.ports.map OutputItem.bytes)).foldl
        (fun o p => o.set p.1 p.2) outputs := by
  simp only [copyChunk, hS, hE, hP, List.zip_map_left, List.foldl_map, List.foldl_append]
  rfl

/-- Modelled from the spec (§4.6): what slot `k` holds once chunk `c` is delivered into the
scheduler's buffer `x` of that slot. Channel `i` owns slots `2 i` (values) and `2 i + 1` (errors)
and port `j` slot `2 d_ai_channels + j`; an enabled input takes the chunk's entry at its
position among the enabled inputs, and the slots of a disabled input are not written. -/
def layoutSlot (b : Block) (c : AcqChunk) (k : Nat) (x : OutputItem) : OutputItem :=
  if k < 2 * b.aiChannels then
    if b.channelEnabled (k / 2) then
      let r := (List.range (k / 2)).countP b.channelEnabled
      if k % 2 = 0 then ((c.values[r]?).map .floats).getD x else ((c.errors[r]?).map .floats).getD x
    else x
  else
    let j := k - 2 * b.aiChannels
    if j < b.ports ∧ b.portEnabled j = true then
      ((c.ports[(List.range j).countP b.portEnabled]?).map .bytes).getD x
    else x

/-- The writes of the data path, with one chunk entry for each enabled input, are the layout. -/
theorem layout_writes (b : Block) (c : AcqChunk) (outputs : List OutputItem)
    (hv : ((List.range b.aiChannels).filter b.channelEnabled).length ≤ c.values.length)
    (he : ((List.range b.aiChannels).filter b.channelEnabled).length ≤ c.errors.length)
    (hp : ((List.range b.ports).filter b.portEnabled).length ≤ c.ports.length) (k : Nat) :
    (((((List.range b.aiChannels).filter b.channelEnabled).map (2 * ·)).zip
        (c.values.map OutputItem.floats) ++
      (((List.range b.aiChannels).filter b.channelEnabled).map (2 * · + 1)).zip
        (c.errors.map OutputItem.floats) ++
      (((List.range b.ports).filter b.portEnabled).map (2 * b.aiChannels + ·)).zip
        (c.ports.map OutputItem.bytes)).foldl
        (fun (o : List OutputItem) (p : Nat × OutputItem) => o.set p.1 p.2) outputs)[k]? =
      outputs[k]?.map (b.layoutSlot c k) := by
  set enC := (List.range b.aiChannels).filter b.channelEnabled
  set enP := (List.range b.ports).filter b.portEnabled
  have hmemC : ∀ i, i ∈ enC ↔ i < b.aiChannels ∧ b.channelEnabled i = true := by simp [enC]
  have hmemP : ∀ j, j ∈ enP ↔ j < b.ports ∧ b.portEnabled j = true := by simp [enP]
  have hnd : ((enC.map (2 * ·) ++ enC.map (2 * · + 1)) ++ enP.map (2 * b.aiChannels + ·)).Nodup := by
    have hC : enC.Nodup := (List.nodup_range _).filter _
    have hP : enP.Nodup := (List.nodup_range _).filter _
    refine List.nodup_append.mpr ⟨List.nodup_append.mpr ⟨hC.map fun _ _ h => by omega,
      hC.map fun _ _ h => by omega, fun a ha hb => ?_⟩, hP.map fun _ _ h => by omega,
      fun a ha hb => ?_⟩
    · obtain ⟨i, -, rfl⟩ := List.mem_map.mp ha
      obtain ⟨i', -, h⟩ := List.mem_map.mp hb
      omega
    · obtain ⟨j, -, rfl⟩ := List.mem_map.mp hb
      rcases List.mem_append.mp ha with ha | ha <;> obtain ⟨i, hi, h⟩ := List.mem_map.mp ha <;>
        have := ((hmemC i).mp hi).1 <;> omega
  set L := (enC.map (2 * ·)).zip (c.values.map OutputItem.floats) ++
    (enC.map (2 * · + 1)).zip (c.errors.map OutputItem.floats) ++
    (enP.map (2 * b.aiChannels + ·)).zip (c.ports.map OutputItem.bytes)
  have hfst : L.map Prod.fst =
      (enC.map (2 * ·) ++ enC.map (2 * · + 1)) ++ enP.map (2 * b.aiChannels + ·) := by
    rw [List.map_append, List.map_append,
      List.map_fst_zip (enC.map (2 * ·)) (c.values.map OutputItem.floats) (by simpa using hv),
      List.map_fst_zip (enC.map (2 * · + 1)) (c.errors.map OutputItem.floats) (by simpa using he),
      List.map_fst_zip (enP.map (2 * b.aiChannels + ·)) (c.ports.map OutputItem.bytes)
        (by simpa using hp)]
  have hL : (L.map Prod.fst).Nodup := hfst ▸ hnd
  have hnot : k ∉ L.map Prod.fst → (L.foldl (fun o p => o.set p.1 p.2) outputs)[k]? = outputs[k]? :=
    foldl_set_of_not_mem L outputs
  cases hx : outputs[k]? with
  | none =>
    exact List.getElem?_eq_none (by rw [foldl_set_length]; exact List.getElem?_eq_none_iff.mp hx)
  | some x =>
    have hk : k < outputs.length := (List.getElem?_eq_some_iff.mp hx).1
    rw [Option.map_some']
    unfold layoutSlot
    dsimp only
    split_ifs with h1 h2 h3 h4
    · -- the value slot of an enabled channel
      obtain ⟨d, hd, h⟩ := foldl_set_zip_filter_range outputs hL b.channelEnabled (2 * ·)
        OutputItem.floats (show k / 2 < b.aiChannels by omega) h2 hv
        (fun _ h => List.mem_append_left _ (List.mem_append_left _ h))
        (show 2 * (k / 2) < outputs.length by omega)
      rw [show 2 * (k / 2) = k by omega] at h
      rw [h, hd]
      rfl
    · -- the error slot of an enabled channel
      obtain ⟨d, hd, h⟩ := foldl_set_zip_filter_range outputs hL b.channelEnabled (2 * · + 1)
        OutputItem.floats (show k / 2 < b.aiChannels by omega) h2 he
        (fun _ h => List.mem_append_left _ (List.mem_append_right _ h))
        (show 2 * (k / 2) + 1 < outputs.length by omega)
      rw [show 2 * (k / 2) + 1 = k by omega] at h
      rw [h, hd]
      rfl
    · -- a disabled channel's slots
      rw [hnot, hx]
      rw [hfst]
      intro hm
      rcases List.mem_append.mp hm with hm | hm
      · rcases List.mem_append.mp hm with hm | hm <;> obtain ⟨i, hi, he⟩ := List.mem_map.mp hm <;>
          exact h2 (by rw [show k / 2 = i by omega]; exact ((hmemC i).mp hi).2)
      · obtain ⟨j, -, he⟩ := List.mem_map.mp hm
        omega
    · -- the slot of an enabled port
      obtain ⟨d, hd, h⟩ := foldl_set_zip_filter_range outputs hL b.portEnabled
        (2 * b.aiChannels + ·) OutputItem.bytes h4.1 h4.2 hp
        (fun _ h => List.mem_append_right _ h)
        (show 2 * b.aiChannels + (k - 2 * b.aiChannels) < outputs.length by omega)
      rw [show 2 * b.aiChannels + (k - 2 * b.aiChannels) = k by omega] at h
      rw [h, hd]
      rfl
    · -- a disabled port's slot, and the slots past the layout
      rw [hnot, hx]
      rw [hfst]
      intro hm
      rcases List.mem_append.mp hm with hm | hm
      · rcases List.mem_append.mp hm with hm | hm <;> obtain ⟨i, hi, he⟩ := List.mem_map.mp hm <;>
          have := ((hmemC i).mp hi).1 <;> omega
      · obtain ⟨j, hj, he⟩ := List.mem_map.mp hm
        exact h4 (by rw [show k - 2 * b.aiChannels = j by omega]; exact (hmemP j).mp hj)

/-- The software trigger changes only `d_trigger_state`. -/
theorem softwareTrigger_block {b b' : Block} {outputs : List OutputItem} {offsets : List Nat}
    (h : b.softwareTrigger outputs = .ok (b', offsets)) :
    ∃ st, b' = { b with triggerState := st } := by
  unfold softwareTrigger at h
  split_ifs at h
  · split at h
    · cases h
    · exact ⟨_, findAnalogTriggers_block h⟩
  · cases h
    exact ⟨_, rfl⟩
  · cases h
    exact ⟨b.triggerState, rfl⟩

/-- The block after the pointer loops of `work_stream` and its `get_data_chunk`, which took the
oldest chunk and left `cs` queued. -/
def afterCopy (b : Block) (cs : List AcqChunk) : Block :=
  { b with aiBuffers := writePtrs b.aiBuffers b.dataChannelSlots.1,
           aiErrorBuffers := writePtrs b.aiErrorBuffers (b.dataChannelSlots.1.map (· + 1)),
           portBuffers := writePtrs b.portBuffers b.dataPortSlots.1,
           appBuffer := { b.appBuffer with chunks := cs, lost := 0 } }

/-- The pointer vectors have the sizes `arm()` gives them for the settings in force. -/
def PtrsSized (b : Block) : Prop :=
  b.aiBuffers.length = b.dataChannelSlots.1.length ∧
    b.aiErrorBuffers.length = b.dataChannelSlots.1.length ∧
    b.portBuffers.length = b.dataPortSlots.1.length

/-- The pointer loops of `work_stream` keep the vectors at their armed sizes. -/
theorem PtrsSized.afterCopy {b : Block} (h : b.PtrsSized) (cs : List AcqChunk) :
    (b.afterCopy cs).PtrsSized := by
  have hl : ∀ (v : List (Option Nat)) (slots : List Nat), v.length = slots.length →
      (writePtrs v slots).length = slots.length := fun v slots hv => by
    rw [writePtrs_eq hv, List.length_map]
  exact ⟨hl _ _ h.1, (hl _ _ (by rw [List.length_map]; exact h.2.1)).trans (List.length_map _ _),
    hl _ _ h.2.2⟩

/-- The chunk has an entry for every enabled input and a status word for every enabled
channel. -/
def ChunkFits (b : Block) (c : AcqChunk) : Prop :=
  b.dataChannelSlots.1.length ≤ c.values.length ∧ b.dataChannelSlots.1.length ≤ c.errors.length ∧
    b.dataPortSlots.1.length ≤ c.ports.length ∧
    ∀ i < b.aiChannels, b.channelEnabled i = true → i < c.status.length

instance (b : Block) (c : AcqChunk) : Decidable (b.ChunkFits c) :=
  inferInstanceAs (Decidable (_ ∧ _ ∧ _ ∧ ∀ i, i < b.aiChannels → _))

/-- The value slot `2 i` of an enabled channel holds the chunk's entry at the channel's rank. -/
theorem layoutSlot_value {b : Block} {c : AcqChunk} {i : Nat} (hi : i < b.aiChannels)
    (he : b.channelEnabled i = true) {v : List ℚ}
    (hv : c.values[(List.range i).countP b.channelEnabled]? = some v) (x : OutputItem) :
    b.layoutSlot c (2 * i) x = .floats v := by
  simp [layoutSlot, hi, he, hv]

/-- The slot `2 d_ai_channels + j` of an enabled port holds the chunk's entry at its rank. -/
theorem layoutSlot_port {b : Block} {c : AcqChunk} {j : Nat} (hj : j < b.ports)
    (he : b.portEnabled j = true) {ys : List UInt8}
    (hy : c.ports[(List.range j).countP b.portEnabled]? = some ys) (x : OutputItem) :
    b.layoutSlot c (2 * b.aiChannels + j) x = .bytes ys := by
  simp [layoutSlot, hj, he, hy]

/-- After the pointer loops, the copy of a chunk that fits is the output layout. -/
theorem copyChunk_afterCopy {b : Block} (hptr : b.PtrsSized) {c : AcqChunk} (hc : b.ChunkFits c)
    (cs : List AcqChunk) (outputs : List OutputItem) :
    (b.afterCopy cs).copyChunk c outputs = outputs.mapIdx (b.layoutSlot c) := by
  rw [afterCopy, copyChunk_eq c (writePtrs_eq hptr.1)
    (writePtrs_eq (by rw [List.length_map]; exact hptr.2.1)) (writePtrs_eq hptr.2.2)]
  apply List.ext_getElem?
  intro k
  obtain ⟨hv, he, hp, -⟩ := hc
  rw [List.getElem?_mapIdx, dataChannelSlots_eq, dataPortSlots_eq, List.map_map]
  simp only [dataChannelSlots_eq, dataPortSlots_eq, List.length_map] at hv he hp
  exact layout_writes b c outputs hv he hp k

/-- `work_stream` after a wait that returned no error, with the oldest chunk `c` queued: the
copy, the acquisition-info tags and the software trigger, on the block `afterCopy` leaves. -/
theorem workStreamData_eq {b : Block} {c : AcqChunk} {cs : List AcqChunk}
    (hq : b.appBuffer.chunks = c :: cs) (outputs : List OutputItem) :
    b.workStreamData outputs =
      match (b.afterCopy cs).acqInfoTags c.status with
      | .error e => .error e
      | .ok info =>
        match (b.afterCopy cs).softwareTrigger ((b.afterCopy cs).copyChunk c outputs) with
        | .error e => .error e
        | .ok (b', offsets) =>
          .ok (b', (b.afterCopy cs).copyChunk c outputs, info ++ offsets.flatMap b'.triggerTags) := by
  simp only [workStreamData, AppBuffer.getDataChunk, hq]
  rfl

/-- `work_stream`'s data path with pointer vectors of the sizes `arm()` gives them for the
settings in force, on a chunk with an entry for every enabled input: the call takes the oldest
queued chunk and leaves the scheduler's buffers as the output layout says (`layoutSlot`), each
enabled input's data in its own slots and the slots of disabled inputs as they were. -/
theorem workStreamData_layout {b b' : Block} {outputs o : List OutputItem} {tags : List Tag}
    {c : AcqChunk} {cs : List AcqChunk} (hq : b.appBuffer.chunks = c :: cs) (hptr : b.PtrsSized)
    (hc : b.ChunkFits c) (h : b.workStreamData outputs = .ok (b', o, tags)) :
    o = outputs.mapIdx (b.layoutSlot c) ∧ b'.appBuffer.chunks = cs := by
  rw [workStreamData_eq hq] at h
  split at h
  · cases h
  split at h
  · cases h
  rename_i hst
  simp only [Except.ok.injEq, Prod.mk.injEq] at h
  obtain ⟨rfl, rfl, -⟩ := h
  obtain ⟨st, rfl⟩ := softwareTrigger_block hst
  exact ⟨copyChunk_afterCopy hptr hc cs outputs, rfl⟩

/-- One channel and one port, both enabled, after `start()` and one pushed chunk: the call
fills slots `0`, `1` and `2` from the chunk. -/
theorem workStreamData_layout_one_chunk :
    let b := (((Sys.init (digitizerBlockImpl [⟨5, 0, true, true, 5⟩] [⟨1, true⟩] 1 1 false)).run
      [.start none none none true none, .push ⟨[[1]], [[0]], [[7]], [0], 0⟩]).getD
        (Sys.init (digitizerBlockImpl [] [] 0 0 false))).blk
    let outputs := [.floats [0], .floats [0], .bytes [0]]
    ∃ b' o tags, b.workStreamData outputs = .ok (b', o, tags) ∧
      o = outputs.mapIdx (b.layoutSlot ⟨[[1]], [[0]], [[7]], [0], 0⟩) ∧ b'.appBuffer.chunks = [] := by
  intro b outputs
  exact ⟨_, _, _, rfl, workStreamData_layout (by decide) ⟨by decide, by decide, by decide⟩
    (by decide) rfl⟩

/-- With a status word for every enabled channel the acquisition-info tags are attached, and
none of them is a trigger tag. -/
theorem acqInfoTags_ok {b : Block} {status : List Nat}
    (hs : ∀ i < b.aiChannels, b.channelEnabled i = true → i < status.length) :
    ∃ info, b.acqInfoTags status = .ok info ∧ (info.filter fun g => g.kind = .trigger) = [] := by
  have hm : ∀ l : List Nat, (∀ i ∈ l, i < status.length) →
      ∃ sts, l.mapM (statusAt status) = .ok sts := by
    intro l hl
    induction l with
    | nil => exact ⟨[], rfl⟩
    | cons i l ih =>
      obtain ⟨sts, h⟩ := ih fun j hj => hl j (List.mem_cons_of_mem _ hj)
      have hi := hl i (List.mem_cons_self _ _)
      refine ⟨status.get ⟨i, hi⟩ :: sts, ?_⟩
      rw [List.mapM_cons, h]
      simp only [statusAt, List.getElem?_eq_getElem hi]
      rfl
  obtain ⟨sts, h⟩ := hm _ fun i hi => by
    rw [List.mem_filter, List.mem_range] at hi
    exact hs i hi.1 hi.2
  unfold acqInfoTags
  rw [h]
  refine ⟨_, rfl, ?_⟩
  simp only [List.filter_append, List.filter_map, Function.comp_def, decide_eq_true_eq,
    reduceCtorEq, decide_False, List.filter_false, List.map_nil, List.append_nil]

/-- The analog software trigger on a channel `a` whose lower channels are all enabled reads the
channel's value slot `2 a` and runs the loop on its first `d_buffer_size` samples, when that
count survives the conversion to `int`. -/
theorem softwareTrigger_analog {b : Block} {a : Nat} {outputs : List OutputItem} {xs : List ℚ}
    (hB : b.bufferSize < 2 ^ 31) (han : b.triggerSettings.isAnalog = true)
    (hconv : b.convertToAichanIdx b.triggerSettings.source = .ok a)
    (hlow : ∀ i < a, b.channelEnabled i = true) (hx : outputs[2 * a]? = some (.floats xs)) :
    b.softwareTrigger outputs =
      let rising := risingDirection b.triggerSettings.direction
      let r := detectEdges rising (analogUp rising b.triggerSettings.threshold b.triggerBand)
        (analogDown rising b.triggerSettings.threshold b.triggerBand) b.triggerState 0
        (xs.take b.bufferSize)
      .ok ({ b with triggerState := r.1 }, r.2) := by
  have hen : b.triggerSettings.isEnabled = true := ((Bool.and_eq_true _ _).mp han).1
  unfold softwareTrigger
  rw [if_pos han, hconv]
  simp only [(triggerBufferSlot_eq_layout_iff b a).mpr hlow, hx, Option.map_some', Option.getD_some,
    OutputItem.asFloats, uint32ToInt_of_lt hB, Int.toNat_ofNat]
  exact findAnalogTriggers_eq hen hconv _

/-- The digital software trigger reads slot `output_items.size() - d_ports + pin / 8` and runs
the loop on the masked bit of its first `d_buffer_size` bytes, when that count survives the
conversion to `int`. -/
theorem softwareTrigger_digital {b : Block} {outputs : List OutputItem} {ys : List UInt8}
    (hB : b.bufferSize < 2 ^ 31) (hdi : b.triggerSettings.isDigital = true)
    (hx : outputs[outputs.length - b.ports + b.triggerSettings.pinNumber / 8]? = some (.bytes ys)) :
    b.softwareTrigger outputs = .ok (b.findDigitalTriggers (ys.take b.bufferSize)
      (1 <<< (b.triggerSettings.pinNumber % 8)).toUInt8) := by
  have han : b.triggerSettings.isAnalog = false := by simp [TriggerSetting.isAnalog, hdi]
  unfold softwareTrigger
  rw [if_neg (by simp [han]), if_pos hdi]
  simp only [hx, Option.map_some', Option.getD_some, OutputItem.asBytes, uint32ToInt_of_lt hB,
    Int.toNat_ofNat]

/-- A data call whose software trigger, on the buffers the copy filled, returns `offsets` and
the detector state `st`: the call returns, and its trigger tags are a trigger tag at each offset
on every enabled input. -/
theorem workStreamData_of_trigger {b : Block} {outputs : List OutputItem} {c : AcqChunk}
    {cs : List AcqChunk} (hq : b.appBuffer.chunks = c :: cs) (hptr : b.PtrsSized)
    (hc : b.ChunkFits c) {st : Bool} {offsets : List Nat}
    (ht : (b.afterCopy cs).softwareTrigger (outputs.mapIdx (b.layoutSlot c)) =
      .ok ({ b.afterCopy cs with triggerState := st }, offsets)) :
    ∃ tags, b.workStreamData outputs =
        .ok ({ b.afterCopy cs with triggerState := st }, outputs.mapIdx (b.layoutSlot c), tags) ∧
      (tags.filter fun g => g.kind = .trigger) = offsets.flatMap b.triggerTags := by
  obtain ⟨info, hi, hf⟩ := acqInfoTags_ok (b := b.afterCopy cs) hc.2.2.2
  rw [workStreamData_eq hq, hi]
  dsimp only
  rw [copyChunk_afterCopy hptr hc, ht]
  refine ⟨_, rfl, ?_⟩
  rw [List.filter_append, hf, List.nil_append, List.filter_eq_self.mpr]
  · rfl
  · intro g hg
    obtain ⟨o, -, hg⟩ := List.mem_flatMap.mp hg
    obtain ⟨slot, -, rfl⟩ := List.mem_map.mp hg
    exact decide_eq_true rfl

/-- Two blocks with one configuration have the same inputs, trigger, buffer size and mode. -/
theorem settings_of_configuration {b b' : Block} (h : b.configuration = b'.configuration) :
    b.aiChannels = b'.aiChannels ∧ b.ports = b'.ports ∧ b.channelSettings = b'.channelSettings ∧
      b.portSettings = b'.portSettings ∧ b.triggerSettings = b'.triggerSettings ∧
      b.bufferSize = b'.bufferSize ∧ b.acquisitionMode = b'.acquisitionMode :=
  ⟨congrArg Configuration.aiChannels h, congrArg Configuration.ports h,
    congrArg Configuration.channelSettings h, congrArg Configuration.portSettings h,
    congrArg Configuration.triggerSettings h, congrArg Configuration.bufferSize h,
    congrArg Configuration.acquisitionMode h⟩

theorem channelEnabled_of_configuration {b b' : Block} (h : b.configuration = b'.configuration) :
    b.channelEnabled = b'.channelEnabled :=
  funext fun i => by simp only [channelEnabled, (settings_of_configuration h).2.2.1]

theorem portEnabled_of_configuration {b b' : Block} (h : b.configuration = b'.configuration) :
    b.portEnabled = b'.portEnabled :=
  funext fun j => by simp only [portEnabled, (settings_of_configuration h).2.2.2.1]

/-- The trigger source parses, and the band is taken, from the configuration only. -/
theorem triggerBand_of_configuration {b b' : Block} (h : b.configuration = b'.configuration) :
    b.convertToAichanIdx = b'.convertToAichanIdx ∧ b.triggerBand = b'.triggerBand := by
  obtain ⟨-, -, h3, -, h5, -⟩ := settings_of_configuration h
  have hc : b.convertToAichanIdx = b'.convertToAichanIdx :=
    funext fun id => by simp only [convertToAichanIdx, MAX_SUPPORTED_AI_CHANNELS, h3]
  exact ⟨hc, by simp only [triggerBand, actualRangeOf, hc, h3, h5]⟩

/-- Whether a chunk fits depends on the configuration only. -/
theorem chunkFits_of_configuration {b b' : Block} (h : b.configuration = b'.configuration)
    {c : AcqChunk} (hc : b'.ChunkFits c) : b.ChunkFits c := by
  obtain ⟨h1, h2, -⟩ := settings_of_configuration h
  simpa only [ChunkFits, dataChannelSlots, dataPortSlots, channelEnabled_of_configuration h,
    portEnabled_of_configuration h, h1, h2] using hc

/-- The trigger tags of a block whose stream has advanced by `d` items since `b`, with `b`'s
configuration, are `b`'s `d` items later. -/
theorem triggerTags_of_advance {b b' : Block} (h : b'.configuration = b.configuration) {d : Nat}
    (hn : b'.nitemsWritten = b.nitemsWritten + d) (o : Nat) :
    b'.triggerTags o = b.triggerTags (o + d) := by
  obtain ⟨h1, h2, -⟩ := settings_of_configuration h
  simp only [triggerTags, tagChannelSlots, tagPortSlots, channelEnabled_of_configuration h,
    portEnabled_of_configuration h, h1, h2, hn, Nat.add_assoc, Nat.add_comm d o]

/-! ### Where the tags go -/

/-- The tag loops put every tag on an output of the signature `2 d_ai_channels + d_ports`. -/
theorem tagSlots_lt (b : Block) :
    ∀ slot ∈ b.tagChannelSlots.1 ++ b.tagPortSlots.1, slot < 2 * b.aiChannels + b.ports := by
  have hc := List.countP_le_length (p := b.channelEnabled) (l := List.range b.aiChannels)
  have hp := List.countP_le_length (p := b.portEnabled) (l := List.range b.ports)
  rw [List.length_range] at hc hp
  intro slot hs
  simp only [tagPortSlots, tagChannelSlots, slotLoop_skip, List.mem_append, List.mem_map,
    List.mem_range] at hs
  rcases hs with ⟨k, hk, rfl⟩ | ⟨k, hk, rfl⟩ <;> omega

/-- The acquisition-info tags are on outputs of the signature, at `nitems_written(0)`. -/
theorem acqInfoTags_within {b : Block} {status : List Nat} {info : List Tag}
    (h : b.acqInfoTags status = .ok info) :
    ∀ g ∈ info, g.slot < 2 * b.aiChannels + b.ports ∧ g.offset = b.nitemsWritten := by
  unfold acqInfoTags at h
  split at h
  · cases h
  · cases h
    intro g hg
    rcases List.mem_append.mp hg with hg | hg
    · obtain ⟨p, hp, rfl⟩ := List.mem_map.mp hg
      exact ⟨b.tagSlots_lt _ (List.mem_append_left _ (List.of_mem_zip hp).1), rfl⟩
    · obtain ⟨slot, hs, rfl⟩ := List.mem_map.mp hg
      exact ⟨b.tagSlots_lt _ (List.mem_append_right _ hs), rfl⟩

theorem mem_triggerTags {b : Block} {o : Nat} {g : Tag} (hg : g ∈ b.triggerTags o) :
    g.slot < 2 * b.aiChannels + b.ports ∧ g.offset = b.nitemsWritten + o := by
  obtain ⟨slot, hs, rfl⟩ := List.mem_map.mp hg
  exact ⟨b.tagSlots_lt _ hs, rfl⟩

/-- The software trigger reads at most `d_buffer_size` samples, so its offsets are below it. -/
theorem softwareTrigger_offsets_lt {b b' : Block} {outputs : List OutputItem}
    {offsets : List Nat} (h : b.softwareTrigger outputs = .ok (b', offsets)) :
    ∀ o ∈ offsets, o < b.bufferSize := by
  intro o ho
  unfold softwareTrigger at h
  split_ifs at h
  · split at h
    · cases h
    · unfold findAnalogTriggers at h
      split_ifs at h
      · cases h
        cases ho
      · simp only [Except.map] at h
        split at h
        · cases h
        · simp only [Except.ok.injEq, Prod.mk.injEq] at h
          rw [← h.2] at ho
          have := detectEdges_bound _ _ _ _ ho
          rw [List.length_take] at this
          have := uint32ToInt_toNat_le b.bufferSize
          omega
  · cases h
    have := detectEdges_bound _ _ _ _ ho
    rw [List.length_take] at this
    have := uint32ToInt_toNat_le b.bufferSize
    omega
  · cases h
    cases ho

/-- The tags of a data call on a queued chunk are on outputs of the signature and within the
`d_buffer_size` items it produces from `nitems_written(0)`, when that size is positive. -/
theorem workStreamData_tags {b b' : Block} {outputs o : List OutputItem} {tags : List Tag}
    {c : AcqChunk} {cs : List AcqChunk} (hq : b.appBuffer.chunks = c :: cs)
    (hB : 0 < b.bufferSize) (h : b.workStreamData outputs = .ok (b', o, tags)) :
    b'.nitemsWritten = b.nitemsWritten ∧ ∀ g ∈ tags, g.slot < 2 * b.aiChannels + b.ports ∧
      b.nitemsWritten ≤ g.offset ∧ g.offset < b.nitemsWritten + b.bufferSize := by
  rw [workStreamData_eq hq] at h
  split at h
  · cases h
  rename_i info hi
  split at h
  · cases h
  rename_i b₂ offsets ht
  simp only [Except.ok.injEq, Prod.mk.injEq] at h
  obtain ⟨rfl, -, rfl⟩ := h
  obtain ⟨st, rfl⟩ := softwareTrigger_block ht
  have hinfo : ∀ g ∈ info, g.slot < 2 * b.aiChannels + b.ports ∧ g.offset = b.nitemsWritten :=
    acqInfoTags_within hi
  have hoff : ∀ o ∈ offsets, o < b.bufferSize := @softwareTrigger_offsets_lt (b.afterCopy cs) _ _ _ ht
  refine ⟨rfl, fun g hg => ?_⟩
  rcases List.mem_append.mp hg with hg | hg
  · obtain ⟨hs, ho⟩ := hinfo g hg
    exact ⟨hs, by omega, by omega⟩
  · obtain ⟨o', ho', hg⟩ := List.mem_flatMap.mp hg
    have ht : g.slot < 2 * b.aiChannels + b.ports ∧ g.offset = b.nitemsWritten + o' :=
      mem_triggerTags hg
    have := hoff o' ho'
    exact ⟨ht.1, by omega, by omega⟩

end Block

/-! ## Streaming calls and pushes over the thread model -/

/-- The chunk a step of the driver's streaming callback pushes. -/
def Event.pushed : Event → Option AcqChunk
  | .push c => some c
  | _ => none

/-- The scheduler's buffers that a step hands to a streaming call returning from its wait. -/
def Event.wakeOutputs : Event → Option (List OutputItem)
  | .appWake outputs _ => some outputs
  | _ => none

namespace Sys

/-- A returned call: the block with the scheduler's advance and perhaps the timebase flag set,
and one more result, whose extra tags are timebase tags. -/
theorem finishWork_eq (s : Sys) (b : Block) (size : Nat) (ret : Int) (tags : List Tag) :
    ∃ published extra, s.finishWork b size ret tags =
        { s with blk := { b with timebasePublished := published,
                                 nitemsWritten := b.nitemsWritten + ret.toNat },
                 worker := if ret < 0 then .done else .free,
                 out := s.out ++ [(ret, tags ++ extra)] } ∧
      (extra.filter fun g => g.kind = .trigger) = [] := by
  unfold finishWork
  by_cases h : 0 < ret ∧ b.timebasePublished = false
  · simp only [if_pos h]
    refine ⟨true, _, rfl, ?_⟩
    simp
  · simp only [if_neg h]
    exact ⟨b.timebasePublished, [], by simp only [List.append_nil]; rfl, rfl⟩

/-- A returned call's result holds the tags it was given and perhaps timebase tags, which come
with a positive return, on the output slots, at `nitems_written(0)`. -/
theorem finishWork_tags (s : Sys) (b : Block) (size : Nat) (ret : Int) (tags : List Tag) :
    ∃ extra, (s.finishWork b size ret tags).out = s.out ++ [(ret, tags ++ extra)] ∧
      ∀ g ∈ extra, 0 < ret ∧ g.slot < size ∧ g.offset = b.nitemsWritten := by
  unfold finishWork
  by_cases h : 0 < ret ∧ b.timebasePublished = false
  · simp only [if_pos h]
    refine ⟨_, rfl, fun g hg => ?_⟩
    obtain ⟨i, hi, rfl⟩ := List.mem_map.mp hg
    exact ⟨h.1, List.mem_range.mp hi, rfl⟩
  · simp only [if_neg h]
    exact ⟨[], by simp only [List.append_nil], fun g hg => absurd hg (List.not_mem_nil _)⟩

/-- A wait on the application buffer returns no error only with a chunk queued. -/
theorem appReady_chunk {a : AppBuffer} (h : appReady a = some none) :
    ∃ c cs, a.chunks = c :: cs := by
  unfold appReady at h
  split at h
  · cases h
  · split_ifs at h with hc
    exact List.exists_cons_of_ne_nil hc

/-- Every tag that a streaming `work()` call attaches when it returns from its wait lies on one
of the scheduler's outputs and within the items the call returns, provided `d_buffer_size` is
positive and below `2^31`, so that the `int` the call returns is `d_buffer_size`, and the outputs
are those of the signature: the acquisition-info and timebase tags at `nitems_written(0)`, the
trigger tags at `nitems_written(0)` plus an offset below `d_buffer_size`. -/
theorem appWake_tags_within {s t : Sys} {outputs : List OutputItem} {ecDisarm : Option Errc}
    (hB : 0 < s.blk.bufferSize) (hB31 : s.blk.bufferSize < 2 ^ 31) (hsig : outputs.length = 2 * s.blk.aiChannels + s.blk.ports)
    (h : s.step (.appWake outputs ecDisarm) = some t) :
    t.out = s.out ∨ ∃ r, t.out = s.out ++ [r] ∧ ∀ g ∈ r.2, g.slot < outputs.length ∧
      s.blk.nitemsWritten ≤ g.offset ∧ g.offset < s.blk.nitemsWritten + r.1.toNat := by
  have hfin : ∀ (b : Block) (ret : Int) (tags : List Tag), b.nitemsWritten = s.blk.nitemsWritten →
      (∀ g ∈ tags, g.slot < outputs.length ∧ s.blk.nitemsWritten ≤ g.offset ∧
        g.offset < s.blk.nitemsWritten + ret.toNat) →
      ∃ r, (s.finishWork b outputs.length ret tags).out = s.out ++ [r] ∧ ∀ g ∈ r.2,
        g.slot < outputs.length ∧ s.blk.nitemsWritten ≤ g.offset ∧
          g.offset < s.blk.nitemsWritten + r.1.toNat := by
    intro b ret tags hn ht
    obtain ⟨extra, hout, hx⟩ := finishWork_tags s b outputs.length ret tags
    refine ⟨_, hout, fun g hg => ?_⟩
    rcases List.mem_append.mp hg with hg | hg
    · exact ht g hg
    · obtain ⟨hr, hs, ho⟩ := hx g hg
      have : 0 < ret.toNat := Int.lt_toNat.mpr hr
      exact ⟨hs, by omega, by omega⟩
  have hfail : ∀ e : Errc, ∃ r, (s.finishWork (s.blk.recordError (some e)) outputs.length (-1)
      []).out = s.out ++ [r] ∧ ∀ g ∈ r.2, g.slot < outputs.length ∧
        s.blk.nitemsWritten ≤ g.offset ∧ g.offset < s.blk.nitemsWritten + r.1.toNat := fun e =>
    hfin _ _ _ (by rw [Block.recordError_eq]) fun g hg => absurd hg (List.not_mem_nil _)
  simp only [step] at h
  split_ifs at h
  obtain ⟨ec, hready, rfl⟩ := Option.map_eq_some'.mp h
  unfold streamAfterWait
  rcases ec with _ | _ | _ | _ | code
  · obtain ⟨c, cs, hq⟩ := appReady_chunk hready
    dsimp only [Block.recordError]
    split
    · exact .inl rfl
    · rename_i b' o tags hw
      obtain ⟨hn, ht⟩ := Block.workStreamData_tags hq hB hw
      exact .inr (hfin _ _ _ hn fun g hg => by
        have := ht g hg
        rw [uint32ToInt_of_lt hB31, Int.toNat_ofNat]
        omega)
  · exact .inr (hfail _)
  · exact .inr (hfail _)
  · dsimp only
    split <;> exact .inl rfl
  · exact .inr (hfail _)

/-- Channel `A` with an analog trigger and buffers of two samples, waiting with one chunk
queued: the call returns with the acquisition-info, trigger and timebase tags. -/
theorem appWake_tags_within_channelA :
    let s := ((Sys.init (digitizerBlockImpl [⟨5, 0, true, true, 5⟩] [] 1 0 false)).run
      [.setter (.setBufferSize 2), .setter (.setAichanTrigger "A" .rising 1),
        .start none none none true none, .push ⟨[[0, 2]], [[0, 0]], [], [0], 0⟩,
        .work ⟨none, none, none, none, none, []⟩ 2 2]).getD
          (Sys.init (digitizerBlockImpl [] [] 0 0 false))
    let outputs := [OutputItem.floats [0, 0], .floats [0, 0]]
    let t := (s.step (.appWake outputs none)).getD s
    t.out = s.out ∨ ∃ r, t.out = s.out ++ [r] ∧ ∀ g ∈ r.2, g.slot < outputs.length ∧
      s.blk.nitemsWritten ≤ g.offset ∧ g.offset < s.blk.nitemsWritten + r.1.toNat := by
  intro s outputs t
  exact appWake_tags_within (by decide) (by decide) (by decide)
    ((Option.eq_some_of_isSome (by decide)).trans (congrArg some (Option.get_eq_getD _)))

end Sys

/-- A push keeps the ring's shape and notification, and appends, dropping the oldest chunk of a
full ring. -/
theorem AppBuffer.push_spec (c : AcqChunk) (a : AppBuffer) :
    (a.push c).shape = a.shape ∧ (a.push c).errc = a.errc ∧
      ((a.push c).chunks = a.chunks ++ [c] ∨
        a.shape.2.2.2 ≤ a.chunks.length ∧ (a.push c).chunks = a.chunks.tail ++ [c]) := by
  unfold AppBuffer.push
  split_ifs with hl
  · exact ⟨rfl, rfl, .inl rfl⟩
  · exact ⟨rfl, rfl, .inr ⟨by omega, rfl⟩⟩

/-- A state from which the scheduler's streaming calls and the driver's callbacks run on the
settings of `b₀`: the scheduler is between calls or waiting on the application buffer, no
notification is pending there, and the settings, the buffer's shape and the sizes of the pointer
vectors are those of `b₀`. -/
structure StreamReady (b₀ : Block) (s : Sys) : Prop where
  /-- The scheduler is between `work()` calls or in `work_stream`'s wait. -/
  worker : s.worker = .free ∨ s.worker = .waitApp
  /-- `d_app_buffer` holds no notification. -/
  noError : s.blk.appBuffer.errc = none
  /-- The configuration is `b₀`'s. -/
  settings : s.blk.configuration = b₀.configuration
  /-- So is the application buffer's shape, which fixes its capacity. -/
  shape : s.blk.appBuffer.shape = b₀.appBuffer.shape
  /-- The pointer vectors have the sizes `arm()` gives them. -/
  ptrs : s.blk.PtrsSized

section Run

variable {α : Type} (rising : Bool) (up down : α → Bool) (input : AcqChunk → List α) (b₀ : Block)

/-- On every block with the settings of `b₀`, the software trigger of a call that copied a
fitting chunk into buffers of the output signature runs the loop `(rising, up, down)` on the
chunk's `input` from the carried state. -/
def Detects : Prop :=
  ∀ (b : Block) (c : AcqChunk) (outputs : List OutputItem), b.configuration = b₀.configuration →
    b₀.ChunkFits c → outputs.length = 2 * b₀.aiChannels + b₀.ports →
    b.softwareTrigger (outputs.mapIdx (b.layoutSlot c)) =
      .ok ({ b with triggerState := (detectEdges rising up down b.triggerState 0 (input c)).1 },
        (detectEdges rising up down b.triggerState 0 (input c)).2)

/-- What the steps from `s` to `t` did, with `pushed` the chunks the driver pushed, `consumed`
the chunks the `work()` calls took and `R` the results they returned. -/
structure RunAccount (s t : Sys) (pushed consumed : List AcqChunk) (R : List (Int × List Tag)) :
    Prop where
  /-- The returned calls' results are appended to the scheduler's record. -/
  out : t.out = s.out ++ R
  /-- One call per consumed chunk, each returning `d_buffer_size`. -/
  returns : R.map Prod.fst = List.replicate consumed.length (b₀.bufferSize : Int)
  /-- The consumed chunks and those still queued are, in order, among those queued at `s` and
  pushed since. -/
  order : (consumed ++ t.blk.appBuffer.chunks).Sublist (s.blk.appBuffer.chunks ++ pushed)
  /-- All of them when the ring never had to overwrite. -/
  noLoss : s.blk.appBuffer.chunks.length + pushed.length ≤ b₀.appBuffer.shape.2.2.2 →
    consumed ++ t.blk.appBuffer.chunks = s.blk.appBuffer.chunks ++ pushed
  /-- The trigger tags are those of one loop over the consumed chunks' inputs, at the stream
  offsets of `s`. -/
  triggers : (R.flatMap fun r => r.2.filter fun g => g.kind = .trigger) =
    (detectEdges rising up down s.blk.triggerState 0 (consumed.flatMap input)).2.flatMap
      s.blk.triggerTags
  /-- `d_trigger_state` is the state that loop leaves. -/
  state : t.blk.triggerState =
    (detectEdges rising up down s.blk.triggerState 0 (consumed.flatMap input)).1
  /-- The stream advanced by `d_buffer_size` items per call. -/
  items : t.blk.nitemsWritten = s.blk.nitemsWritten + consumed.length * b₀.bufferSize

variable {rising up down input b₀}

/-- A step that returns no call and pushes `p`, overwriting the oldest chunk of a full ring. -/
theorem RunAccount.quiet {s t : Sys} {p : List AcqChunk} (hout : t.out = s.out)
    (hst : t.blk.triggerState = s.blk.triggerState)
    (hnw : t.blk.nitemsWritten = s.blk.nitemsWritten)
    (hq : t.blk.appBuffer.chunks = s.blk.appBuffer.chunks ++ p ∨ ∃ c, p = [c] ∧
      b₀.appBuffer.shape.2.2.2 ≤ s.blk.appBuffer.chunks.length ∧
      t.blk.appBuffer.chunks = s.blk.appBuffer.chunks.tail ++ [c]) :
    RunAccount rising up down input b₀ s t p [] [] where
  out := by rw [hout, List.append_nil]
  returns := rfl
  order := by
    rw [List.nil_append]
    rcases hq with hq | ⟨c, rfl, -, hq⟩
    · exact hq ▸ List.Sublist.refl _
    · exact hq ▸ (List.tail_sublist _).append_right _
  noLoss := fun hl => by
    rw [List.nil_append]
    rcases hq with hq | ⟨c, rfl, hc, -⟩
    · exact hq
    · simp only [List.length_singleton] at hl
      omega
  triggers := rfl
  state := hst
  items := by rw [hnw, List.length_nil, Nat.zero_mul, Nat.add_zero]

/-- A returned call that took the oldest chunk `c`. -/
theorem RunAccount.call {s t : Sys} {c : AcqChunk} {tags : List Tag}
    (hq : s.blk.appBuffer.chunks = c :: t.blk.appBuffer.chunks)
    (hout : t.out = s.out ++ [((b₀.bufferSize : Int), tags)])
    (htags : (tags.filter fun g => g.kind = .trigger) =
      (detectEdges rising up down s.blk.triggerState 0 (input c)).2.flatMap s.blk.triggerTags)
    (hst : t.blk.triggerState = (detectEdges rising up down s.blk.triggerState 0 (input c)).1)
    (hnw : t.blk.nitemsWritten = s.blk.nitemsWritten + b₀.bufferSize) :
    RunAccount rising up down input b₀ s t [] [c] [((b₀.bufferSize : Int), tags)] where
  out := hout
  returns := rfl
  order := by rw [hq, List.append_nil]; exact List.Sublist.refl _
  noLoss := fun _ => by rw [hq, List.append_nil]; rfl
  triggers := by rw [List.flatMap_singleton, List.flatMap_singleton, htags]
  state := by rw [List.flatMap_singleton, hst]
  items := by rw [hnw, List.length_singleton, Nat.one_mul]

theorem length_flatMap_of_forall {f : AcqChunk → List α} {n : Nat} :
    ∀ {l : List AcqChunk}, (∀ c ∈ l, (f c).length = n) → (l.flatMap f).length = l.length * n
  | [], _ => (Nat.zero_mul n).symm
  | c :: l, h => by
    rw [List.flatMap_cons, List.length_append, h c (List.mem_cons_self _ _),
      length_flatMap_of_forall fun c hc => h c (List.mem_cons_of_mem _ hc), List.length_cons,
      Nat.succ_mul, Nat.add_comm]

/-- Accounts of consecutive segments, on blocks of one configuration, compose: the second
segment's loop starts from the state the first left, at the stream offset it reached. -/
theorem RunAccount.trans {s u t : Sys} {p₁ p₂ c₁ c₂ : List AcqChunk}
    {R₁ R₂ : List (Int × List Tag)} (hcfg : u.blk.configuration = s.blk.configuration)
    (hlen : ∀ c ∈ c₁, (input c).length = b₀.bufferSize)
    (h₁ : RunAccount rising up down input b₀ s u p₁ c₁ R₁)
    (h₂ : RunAccount rising up down input b₀ u t p₂ c₂ R₂) :
    RunAccount rising up down input b₀ s t (p₁ ++ p₂) (c₁ ++ c₂) (R₁ ++ R₂) := by
  have hx := length_flatMap_of_forall hlen
  have hsplit := @detectEdges_append α up down rising (c₂.flatMap input) s.blk.triggerState 0
    (c₁.flatMap input)
  have hshift := @detectEdges_shift α up down rising (c₁.flatMap input).length
    u.blk.triggerState 0 (c₂.flatMap input)
  have htt : u.blk.triggerTags = fun o => s.blk.triggerTags (o + c₁.length * b₀.bufferSize) :=
    funext (Block.triggerTags_of_advance hcfg h₁.items)
  rw [Nat.zero_add, ← h₁.state, hx] at hsplit
  rw [Nat.zero_add, hx] at hshift
  refine ⟨?_, ?_, ?_, fun hl => ?_, ?_, ?_, ?_⟩
  · rw [h₂.out, h₁.out, List.append_assoc]
  · rw [List.map_append, h₁.returns, h₂.returns, List.length_append,
      List.append_replicate_replicate]
  · have o₁ := h₁.order.append_right p₂
    have o₂ := h₂.order.append_left c₁
    simp only [List.append_assoc] at o₁ o₂ ⊢
    exact o₂.trans o₁
  · rw [List.length_append] at hl
    have e₁ := h₁.noLoss (by omega)
    have hu := congrArg List.length e₁
    rw [List.length_append, List.length_append] at hu
    rw [List.append_assoc, h₂.noLoss (by omega), ← List.append_assoc, e₁, List.append_assoc]
  · rw [List.flatMap_append, List.flatMap_append, h₁.triggers, h₂.triggers, hsplit, hshift,
      List.flatMap_append, List.flatMap_map, htt]
  · rw [h₂.state, List.flatMap_append, hsplit, hshift]
  · rw [h₂.items, h₁.items, List.length_append, Nat.add_mul, Nat.add_assoc]

/-- One step of the scheduler or the driver from a ready state keeps it ready, and accounts for
what it did: a step that returns no call pushes the chunk it names, if any, overwriting the
oldest one when the ring is full; the return of a wait takes the oldest chunk `c`, and `work()`
returns `d_buffer_size` items with the trigger tags of the loop on `input c`. -/
theorem StreamReady.step (hdet : Detects rising up down input b₀)
    (hmode : b₀.acquisitionMode = .streaming) (hB31 : b₀.bufferSize < 2 ^ 31) {s t : Sys} {e : Event} (hs : StreamReady b₀ s)
    (h : s.step e = some t) (he : e.thread = .scheduler ∨ e.thread = .driver)
    (hchunk : ∀ c ∈ s.blk.appBuffer.chunks, b₀.ChunkFits c)
    (hout : ∀ o ∈ e.wakeOutputs, o.length = 2 * b₀.aiChannels + b₀.ports) :
    StreamReady b₀ t ∧ ∃ consumed R, RunAccount rising up down input b₀ s t e.pushed.toList
      consumed R := by
  obtain ⟨hw, herr, hcfg, hshape, hptr⟩ := hs
  have hm : s.blk.acquisitionMode = .streaming :=
    (Block.settings_of_configuration hcfg).2.2.2.2.2.2.trans hmode
  cases e <;> simp only [Event.thread, reduceCtorEq, or_self, or_false, false_or] at he <;>
    simp only [Sys.step] at h
  case work env n size =>
    simp only [hm] at h
    split_ifs at h
    cases h
    exact ⟨⟨.inr rfl, herr, hcfg, hshape, hptr⟩, [], [],
      RunAccount.quiet rfl rfl rfl (.inl (List.append_nil _).symm)⟩
  case appWake outputs ecDisarm =>
    split_ifs at h
    cases hq : s.blk.appBuffer.chunks with
    | nil => simp [Sys.appReady, herr, hq] at h
    | cons c cs =>
      simp only [Sys.appReady, herr, hq, reduceCtorEq, if_false, Option.map_some',
        Option.some.injEq] at h
      subst h
      have hc := hchunk c (hq ▸ List.mem_cons_self _ _)
      obtain ⟨tags, hws, htags⟩ := Block.workStreamData_of_trigger hq hptr
        (Block.chunkFits_of_configuration hcfg hc) (hdet _ c outputs hcfg hc (hout outputs rfl))
      obtain ⟨pub, extra, hfw, hextra⟩ := Sys.finishWork_eq s
        { s.blk.afterCopy cs with
          triggerState := (detectEdges rising up down s.blk.triggerState 0 (input c)).1 }
        outputs.length b₀.bufferSize tags
      have hB : s.blk.bufferSize = b₀.bufferSize := (Block.settings_of_configuration hcfg).2.2.2.2.2.1
      have hsa : s.streamAfterWait none outputs ecDisarm = s.finishWork
          { s.blk.afterCopy cs with
            triggerState := (detectEdges rising up down s.blk.triggerState 0 (input c)).1 }
          outputs.length b₀.bufferSize tags := by
        simp only [Sys.streamAfterWait, Block.recordError, hws]
        rw [← uint32ToInt_of_lt hB31, ← hB]
        rfl
      rw [hsa, hfw]
      refine ⟨⟨.inl (by simp), herr, hcfg, hshape, ?_⟩, [c], [(_, tags ++ extra)],
        RunAccount.call hq rfl ?_ rfl ?_⟩
      · exact hptr.afterCopy cs
      · rw [List.filter_append, htags, hextra, List.append_nil]
        rfl
      · show s.blk.nitemsWritten + (b₀.bufferSize : Int).toNat = _
        rw [Int.toNat_ofNat]
  case push c =>
    cases h
    obtain ⟨hsh, he', hq⟩ := AppBuffer.push_spec c s.blk.appBuffer
    refine ⟨⟨hw, he'.trans herr, hcfg, hsh.trans hshape, hptr⟩, [], [],
      RunAccount.quiet rfl rfl rfl ?_⟩
    rcases hq with hq | ⟨hl, hq⟩
    · exact .inl hq
    · exact .inr ⟨c, rfl, hshape ▸ hl, hq⟩
  case blockReady ec =>
    cases h
    obtain ⟨errors, hn⟩ : ∃ errors, s.blk.notifyDataReady ec =
        { s.blk with errors, dataRdy := true, dataRdyErrc := ec } :=
      ⟨_, by rw [Block.notifyDataReady, Block.recordError_eq]⟩
    rw [hn]
    exact ⟨⟨hw, herr, hcfg, hshape, hptr⟩, [], [],
      RunAccount.quiet rfl rfl rfl (.inl (List.append_nil _).symm)⟩
  case workerIdle | rdyWake =>
    split_ifs at h with hc
    rcases hw with hw | hw <;> rw [hw] at hc <;> cases hc.1
  case workerArm size ec =>
    split_ifs at h with hc
    rcases hw with hw | hw <;> rw [hw] at hc <;> cases hc
  case rdyClear env n size =>
    split at h
    · rename_i hc
      rcases hw with hw | hw <;> rw [hw] at hc <;> cases hc
    · cases h

theorem filterMap_pushed_cons (e : Event) (es : List Event) :
    (e :: es).filterMap Event.pushed = e.pushed.toList ++ es.filterMap Event.pushed := by
  cases h : e.pushed <;> simp [List.filterMap_cons, h]

/-- Every run of the scheduler's streaming calls and the driver's callbacks, in any
interleaving, from a ready state, on chunks that fit and carry `d_buffer_size` samples of
`input`, and with output signatures of the block's inputs, stays ready and is accounted for by
`RunAccount`: the chunks are delivered in push order, none twice and none lost unless the ring
overwrote it, and the trigger tags of all the calls are those of one loop over the delivered
stream. -/
theorem StreamReady.run (hdet : Detects rising up down input b₀)
    (hmode : b₀.acquisitionMode = .streaming) (hB31 : b₀.bufferSize < 2 ^ 31) :
    ∀ (es : List Event) {s t : Sys}, StreamReady b₀ s → s.run es = some t →
      (∀ e ∈ es, e.thread = .scheduler ∨ e.thread = .driver) →
      (∀ c ∈ s.blk.appBuffer.chunks ++ es.filterMap Event.pushed,
        b₀.ChunkFits c ∧ (input c).length = b₀.bufferSize) →
      (∀ e ∈ es, ∀ o ∈ e.wakeOutputs, o.length = 2 * b₀.aiChannels + b₀.ports) →
      StreamReady b₀ t ∧ ∃ consumed R,
        RunAccount rising up down input b₀ s t (es.filterMap Event.pushed) consumed R
  | [], s, t, hs, h, _, _, _ => by
    cases h
    exact ⟨hs, [], [], RunAccount.quiet rfl rfl rfl (.inl (List.append_nil _).symm)⟩
  | e :: es, s, t, hs, h, he, hchunk, hout => by
    simp only [Sys.run, Option.bind_eq_some] at h
    obtain ⟨u, hu, hrun⟩ := h
    rw [filterMap_pushed_cons] at hchunk ⊢
    obtain ⟨hu', c₁, R₁, h₁⟩ := hs.step hdet hmode hB31 hu (he e (List.mem_cons_self _ _))
      (fun c hc => (hchunk c (List.mem_append_left _ hc)).1)
      (hout e (List.mem_cons_self _ _))
    have hsub : ∀ c ∈ c₁ ++ u.blk.appBuffer.chunks,
        c ∈ s.blk.appBuffer.chunks ++ (e.pushed.toList ++ es.filterMap Event.pushed) := fun c hc =>
      List.append_assoc _ _ _ ▸ List.mem_append_left _ (h₁.order.subset hc)
    obtain ⟨ht, c₂, R₂, h₂⟩ := StreamReady.run hdet hmode hB31 es hu' hrun
      (fun e' he' => he e' (List.mem_cons_of_mem _ he'))
      (fun c hc => by
        rcases List.mem_append.mp hc with hc | hc
        · exact hchunk c (hsub c (List.mem_append_right _ hc))
        · exact hchunk c (List.mem_append_right _ (List.mem_append_right _ hc)))
      (fun e' he' => hout e' (List.mem_cons_of_mem _ he'))
    exact ⟨ht, c₁ ++ c₂, R₁ ++ R₂, h₁.trans (hu'.settings.trans hs.settings.symm)
      (fun c hc => (hchunk c (hsub c (List.mem_append_left _ hc))).2) h₂⟩

end Run


/-! ## The analog and the digital trigger over a run -/

/-- The analog software trigger on channel `a`, with every channel up to `a` enabled, runs the
loop on the first `d_buffer_size` values of the chunk's entry `a`. -/
theorem detects_analog {b₀ : Block} {a : Nat} (hB31 : b₀.bufferSize < 2 ^ 31)
    (han : b₀.triggerSettings.isAnalog = true)
    (hconv : b₀.convertToAichanIdx b₀.triggerSettings.source = .ok a) (ha : a < b₀.aiChannels)
    (hlow : ∀ i ≤ a, b₀.channelEnabled i = true) :
    Detects (Block.risingDirection b₀.triggerSettings.direction)
      (Block.analogUp (Block.risingDirection b₀.triggerSettings.direction) b₀.triggerSettings.threshold
        b₀.triggerBand)
      (Block.analogDown (Block.risingDirection b₀.triggerSettings.direction) b₀.triggerSettings.threshold
        b₀.triggerBand)
      (fun c => (c.values.getD a []).take b₀.bufferSize) b₀ := by
  intro b c outputs hcfg hfit hlen
  obtain ⟨h1, -, -, -, h5, h6, -⟩ := Block.settings_of_configuration hcfg
  obtain ⟨hcv, hband⟩ := Block.triggerBand_of_configuration hcfg
  have hce := Block.channelEnabled_of_configuration hcfg
  have hrank : (List.range a).countP b.channelEnabled = a := by
    rw [hce, List.countP_eq_length.mpr fun i hi => hlow i (List.mem_range.mp hi).le,
      List.length_range]
  have hv : a < c.values.length := by
    have hr := (List.getElem?_eq_some_iff.mp
      (filter_range_getElem?_countP b₀.channelEnabled ha (hlow a le_rfl))).1
    have hf := hfit.1
    rw [Block.dataChannelSlots_eq, List.length_map] at hf
    rw [← hce, hrank, hce] at hr
    omega
  have hx : (outputs.mapIdx (b.layoutSlot c))[2 * a]? = some (.floats (c.values.getD a [])) := by
    rw [List.getElem?_mapIdx, List.getElem?_eq_getElem (by omega), Option.map_some',
      Block.layoutSlot_value (by omega) (by rw [hce]; exact hlow a le_rfl)
        (show c.values[_]? = some (c.values.getD a []) by
          rw [hrank, List.getD_eq_getElem?_getD, List.getElem?_eq_getElem hv]; rfl)]
  rw [Block.softwareTrigger_analog (by rw [h6]; exact hB31) (by rw [h5]; exact han)
    (by rw [hcv, h5]; exact hconv)
    (fun i hi => by rw [hce]; exact hlow i hi.le) hx]
  simp only [h5, hband, h6]

/-- The digital software trigger on pin `p` of an enabled port runs the loop on the masked bit
of the first `d_buffer_size` bytes of the port's entry of the chunk. -/
theorem detects_digital {b₀ : Block} (hB31 : b₀.bufferSize < 2 ^ 31)
    (hdi : b₀.triggerSettings.isDigital = true)
    (hp : b₀.triggerSettings.pinNumber / 8 < b₀.ports)
    (hpe : b₀.portEnabled (b₀.triggerSettings.pinNumber / 8) = true) :
    Detects (Block.risingDirection b₀.triggerSettings.direction)
      (Block.bitSet (1 <<< (b₀.triggerSettings.pinNumber % 8)).toUInt8)
      (Block.bitClear (1 <<< (b₀.triggerSettings.pinNumber % 8)).toUInt8)
      (fun c => (c.ports.getD ((List.range (b₀.triggerSettings.pinNumber / 8)).countP
        b₀.portEnabled) []).take b₀.bufferSize) b₀ := by
  intro b c outputs hcfg hfit hlen
  obtain ⟨h1, h2, -, -, h5, h6, -⟩ := Block.settings_of_configuration hcfg
  have hpe' := Block.portEnabled_of_configuration hcfg
  set p := b₀.triggerSettings.pinNumber / 8
  set m := (List.range p).countP b₀.portEnabled
  have hm : m < c.ports.length := by
    have hr := (List.getElem?_eq_some_iff.mp (filter_range_getElem?_countP b₀.portEnabled hp hpe)).1
    have hf := hfit.2.2.1
    rw [Block.dataPortSlots_eq, List.length_map] at hf
    omega
  have hx : (outputs.mapIdx (b.layoutSlot c))[(outputs.mapIdx (b.layoutSlot c)).length - b.ports +
      b.triggerSettings.pinNumber / 8]? = some (.bytes (c.ports.getD m [])) := by
    rw [List.length_mapIdx, hlen, h5, h2, Nat.add_sub_cancel, ← h1, List.getElem?_mapIdx,
      List.getElem?_eq_getElem (by rw [hlen, h1]; omega), Option.map_some',
      Block.layoutSlot_port (by rw [h2]; exact hp) (by rw [hpe']; exact hpe)
        (show c.ports[_]? = some (c.ports.getD m []) by
          rw [hpe', List.getD_eq_getElem?_getD, List.getElem?_eq_getElem hm]; rfl)]
  rw [Block.softwareTrigger_digital (by rw [h6]; exact hB31) (by rw [h5]; exact hdi) hx]
  simp only [Block.findDigitalTriggers, h5, h6]


/-- Over every run of streaming calls and driver callbacks, in any interleaving, from a ready
state whose analog trigger has source channel `a`, with every channel up to `a` enabled, chunks
that fit and carry `d_buffer_size` values on channel `a`, `d_buffer_size` below `2^31` (the call
returns it as an `int`), and buffers of the output signature: each call returns `d_buffer_size`
items; the chunks the calls took and those still queued are, in
order, among those queued and pushed, all of them while the ring never overwrote one; and the
trigger tags of all the calls, with the detector state the run leaves, are those of a single
`find_analog_triggers` call on the concatenated values of channel `a` of the chunks taken. -/
theorem analog_stream_triggers {b₀ : Block} {a : Nat} (hB31 : b₀.bufferSize < 2 ^ 31)
    (han : b₀.triggerSettings.isAnalog = true)
    (hconv : b₀.convertToAichanIdx b₀.triggerSettings.source = .ok a) (ha : a < b₀.aiChannels)
    (hlow : ∀ i ≤ a, b₀.channelEnabled i = true) (hmode : b₀.acquisitionMode = .streaming)
    {es : List Event} {s t : Sys} (hs : StreamReady b₀ s) (h : s.run es = some t)
    (he : ∀ e ∈ es, e.thread = .scheduler ∨ e.thread = .driver)
    (hchunk : ∀ c ∈ s.blk.appBuffer.chunks ++ es.filterMap Event.pushed,
      b₀.ChunkFits c ∧ (c.values.getD a []).length = b₀.bufferSize)
    (hout : ∀ e ∈ es, ∀ o ∈ e.wakeOutputs, o.length = 2 * b₀.aiChannels + b₀.ports) :
    ∃ consumed R offsets, t.out = s.out ++ R ∧
      R.map Prod.fst = List.replicate consumed.length (b₀.bufferSize : Int) ∧
      (consumed ++ t.blk.appBuffer.chunks).Sublist
        (s.blk.appBuffer.chunks ++ es.filterMap Event.pushed) ∧
      (s.blk.appBuffer.chunks.length + (es.filterMap Event.pushed).length ≤
          b₀.appBuffer.shape.2.2.2 →
        consumed ++ t.blk.appBuffer.chunks = s.blk.appBuffer.chunks ++ es.filterMap Event.pushed) ∧
      s.blk.findAnalogTriggers (consumed.flatMap fun c => c.values.getD a []) =
        .ok ({ s.blk with triggerState := t.blk.triggerState }, offsets) ∧
      (R.flatMap fun r => r.2.filter fun g => g.kind = .trigger) =
        offsets.flatMap s.blk.triggerTags := by
  obtain ⟨-, consumed, R, hacc⟩ :=
    StreamReady.run (detects_analog hB31 han hconv ha hlow) hmode hB31 es
    hs h he (fun c hc => ⟨(hchunk c hc).1, by rw [List.length_take, (hchunk c hc).2, min_self]⟩)
    hout
  have hstream : (consumed.flatMap fun c => (c.values.getD a []).take b₀.bufferSize) =
      consumed.flatMap fun c => c.values.getD a [] :=
    List.flatMap_congr fun c hc => List.take_of_length_le
      (hchunk c (hacc.order.subset (List.mem_append_left _ hc))).2.le
  obtain ⟨-, -, -, -, h5, -⟩ := Block.settings_of_configuration hs.settings
  obtain ⟨hcv, hband⟩ := Block.triggerBand_of_configuration hs.settings
  have hf := @Block.findAnalogTriggers_eq s.blk a
    (by rw [h5]; exact ((Bool.and_eq_true _ _).mp han).1) (by rw [hcv, h5]; exact hconv)
    (consumed.flatMap fun c => c.values.getD a [])
  have hst := hacc.state
  have htr := hacc.triggers
  rw [hstream, ← h5, ← hband] at hst htr
  simp only [← hst] at hf
  exact ⟨consumed, R, _, hacc.out, hacc.returns, hacc.order, hacc.noLoss, hf, htr⟩

/-- Channel `A` with threshold `1` and a band of `5 / 100`, buffers of two samples: two chunks
pushed and taken by two calls. -/
theorem analog_stream_triggers_two_chunks :
    let s := ((Sys.init (digitizerBlockImpl [⟨5, 0, true, true, 5⟩] [] 1 0 false)).run
      [.setter (.setBufferSize 2), .setter (.setAichanTrigger "A" .rising 1),
        .start none none none true none]).getD (Sys.init (digitizerBlockImpl [] [] 0 0 false))
    let es : List Event := [.push ⟨[[0, 2]], [[0, 0]], [], [0], 0⟩, .work ⟨none, none, none, none, none, []⟩ 2 2,
      .push ⟨[[0, 3]], [[0, 0]], [], [0], 0⟩, .appWake [.floats [0, 0], .floats [0, 0]] none,
      .work ⟨none, none, none, none, none, []⟩ 2 2, .appWake [.floats [0, 0], .floats [0, 0]] none]
    let t := (s.run es).getD s
    ∃ consumed R offsets, t.out = s.out ++ R ∧
      R.map Prod.fst = List.replicate consumed.length (s.blk.bufferSize : Int) ∧
      (consumed ++ t.blk.appBuffer.chunks).Sublist
        (s.blk.appBuffer.chunks ++ es.filterMap Event.pushed) ∧
      (s.blk.appBuffer.chunks.length + (es.filterMap Event.pushed).length ≤
          s.blk.appBuffer.shape.2.2.2 →
        consumed ++ t.blk.appBuffer.chunks = s.blk.appBuffer.chunks ++ es.filterMap Event.pushed) ∧
      s.blk.findAnalogTriggers (consumed.flatMap fun c => c.values.getD 0 []) =
        .ok ({ s.blk with triggerState := t.blk.triggerState }, offsets) ∧
      (R.flatMap fun r => r.2.filter fun g => g.kind = .trigger) =
        offsets.flatMap s.blk.triggerTags := by
  intro s es t
  exact @analog_stream_triggers s.blk 0 (by decide) (by decide) rfl (by decide) (by decide)
    (by decide) es s t
    ⟨by decide, by decide, rfl, rfl, by decide, by decide, by decide⟩
    ((Option.eq_some_of_isSome (by decide)).trans (congrArg some (Option.get_eq_getD _)))
    (by decide) (by decide) (by decide)

/-- Over every run of streaming calls and driver callbacks, in any interleaving, from a ready
state whose digital trigger is on pin `p` of an enabled port `p / 8`, with chunks that fit and
carry `d_buffer_size` bytes on that port, `d_buffer_size` below `2^31`, and buffers of the output
signature: each call returns
`d_buffer_size` items; the chunks the calls took and those still queued are, in order, among those
queued and pushed, all of them while the ring never overwrote one; and the trigger tags of all
the calls, with the detector state the run leaves, are those of a single
`find_digital_triggers` call on the concatenated bytes of the port of the chunks taken. -/
theorem digital_stream_triggers {b₀ : Block} (hB31 : b₀.bufferSize < 2 ^ 31)
    (hdi : b₀.triggerSettings.isDigital = true)
    (hp : b₀.triggerSettings.pinNumber / 8 < b₀.ports)
    (hpe : b₀.portEnabled (b₀.triggerSettings.pinNumber / 8) = true)
    (hmode : b₀.acquisitionMode = .streaming)
    {es : List Event} {s t : Sys} (hs : StreamReady b₀ s) (h : s.run es = some t)
    (he : ∀ e ∈ es, e.thread = .scheduler ∨ e.thread = .driver)
    (hchunk : ∀ c ∈ s.blk.appBuffer.chunks ++ es.filterMap Event.pushed,
      b₀.ChunkFits c ∧ (c.ports.getD ((List.range (b₀.triggerSettings.pinNumber / 8)).countP
        b₀.portEnabled) []).length = b₀.bufferSize)
    (hout : ∀ e ∈ es, ∀ o ∈ e.wakeOutputs, o.length = 2 * b₀.aiChannels + b₀.ports) :
    ∃ consumed R, t.out = s.out ++ R ∧
      R.map Prod.fst = List.replicate consumed.length (b₀.bufferSize : Int) ∧
      (consumed ++ t.blk.appBuffer.chunks).Sublist
        (s.blk.appBuffer.chunks ++ es.filterMap Event.pushed) ∧
      (s.blk.appBuffer.chunks.length + (es.filterMap Event.pushed).length ≤
          b₀.appBuffer.shape.2.2.2 →
        consumed ++ t.blk.appBuffer.chunks = s.blk.appBuffer.chunks ++ es.filterMap Event.pushed) ∧
      let r := s.blk.findDigitalTriggers (consumed.flatMap fun c => c.ports.getD
        ((List.range (b₀.triggerSettings.pinNumber / 8)).countP b₀.portEnabled) [])
        (1 <<< (b₀.triggerSettings.pinNumber % 8)).toUInt8
      r.1 = { s.blk with triggerState := t.blk.triggerState } ∧
        (R.flatMap fun r => r.2.filter fun g => g.kind = .trigger) = r.2.flatMap s.blk.triggerTags := by
  obtain ⟨-, consumed, R, hacc⟩ :=
    StreamReady.run (detects_digital hB31 hdi hp hpe) hmode hB31 es
    hs h he (fun c hc => ⟨(hchunk c hc).1, by rw [List.length_take, (hchunk c hc).2, min_self]⟩)
    hout
  have hstream : (consumed.flatMap fun c => (c.ports.getD ((List.range
      (b₀.triggerSettings.pinNumber / 8)).countP b₀.portEnabled) []).take b₀.bufferSize) =
      consumed.flatMap fun c => c.ports.getD ((List.range
        (b₀.triggerSettings.pinNumber / 8)).countP b₀.portEnabled) [] :=
    List.flatMap_congr fun c hc => List.take_of_length_le
      (hchunk c (hacc.order.subset (List.mem_append_left _ hc))).2.le
  obtain ⟨-, -, -, -, h5, -⟩ := Block.settings_of_configuration hs.settings
  have hst := hacc.state
  have htr := hacc.triggers
  rw [hstream] at hst htr
  refine ⟨consumed, R, hacc.out, hacc.returns, hacc.order, hacc.noLoss, ?_, ?_⟩
  · simp only [Block.findDigitalTriggers, h5, ← hst]
  · simp only [Block.findDigitalTriggers, h5, htr]

/-- Pin `0` of one enabled port, buffers of two bytes: two chunks pushed and taken by two
calls. -/
theorem digital_stream_triggers_two_chunks :
    let s := ((Sys.init (digitizerBlockImpl [] [⟨1, true⟩] 0 1 false)).run
      [.setter (.setBufferSize 2), .setter (.setDiTrigger 0 .rising),
        .start none none none true none]).getD (Sys.init (digitizerBlockImpl [] [] 0 0 false))
    let es : List Event := [.push ⟨[], [], [[0, 1]], [], 0⟩,
      .work ⟨none, none, none, none, none, []⟩ 2 2, .push ⟨[], [], [[0, 1]], [], 0⟩,
      .appWake [.bytes [0, 0]] none, .work ⟨none, none, none, none, none, []⟩ 2 2,
      .appWake [.bytes [0, 0]] none]
    let t := (s.run es).getD s
    ∃ consumed R, t.out = s.out ++ R ∧
      R.map Prod.fst = List.replicate consumed.length (s.blk.bufferSize : Int) ∧
      (consumed ++ t.blk.appBuffer.chunks).Sublist
        (s.blk.appBuffer.chunks ++ es.filterMap Event.pushed) ∧
      (s.blk.appBuffer.chunks.length + (es.filterMap Event.pushed).length ≤
          s.blk.appBuffer.shape.2.2.2 →
        consumed ++ t.blk.appBuffer.chunks = s.blk.appBuffer.chunks ++ es.filterMap Event.pushed) ∧
      let r := s.blk.findDigitalTriggers (consumed.flatMap fun c => c.ports.getD
        ((List.range (s.blk.triggerSettings.pinNumber / 8)).countP s.blk.portEnabled) [])
        (1 <<< (s.blk.triggerSettings.pinNumber % 8)).toUInt8
      r.1 = { s.blk with triggerState := t.blk.triggerState } ∧
        (R.flatMap fun r => r.2.filter fun g => g.kind = .trigger) = r.2.flatMap s.blk.triggerTags := by
  intro s es t
  exact @digital_stream_triggers s.blk (by decide) (by decide) (by decide) (by decide) (by decide)
    es s t
    ⟨by decide, by decide, rfl, rfl, by decide, by decide, by decide⟩
    ((Option.eq_some_of_isSome (by decide)).trans (congrArg some (Option.get_eq_getD _)))
    (by decide) (by decide) (by decide)

/-! ## Detection across `arm()` -/

/-- `arm()` leaves what the detectors read as it was. -/
theorem Block.triggerView_arm (ec : Option Errc) (b : Block) :
    (b.arm ec).1.triggerView = b.triggerView := by
  obtain ⟨_, _, _, _, _, _, _, _, h⟩ := arm_writes ec b
  rw [h]
  rfl

/-- `arm()` does not restart the software trigger: it keeps `d_trigger_state`
(`Block.arm_triggerState`). So what the detectors report after an `arm()`, over the chunks that
the `work_stream` calls hand them one by one (`analog_stream_triggers`,
`digital_stream_triggers`), depends on the history before it only through the trigger settings,
the channel settings and the `d_trigger_state` that `arm()` found: two blocks that agree on these
report the same offsets and are left in the same state, whatever else differs and however each
`arm()` ends. -/
theorem triggers_after_arm {b₁ b₂ : Block} (ec₁ ec₂ : Option Errc)
    (hts : b₁.triggerSettings = b₂.triggerSettings) (hcs : b₁.channelSettings = b₂.channelSettings)
    (hst : b₁.triggerState = b₂.triggerState) (n : Nat) (chunks : List (List ℚ)) (mask : UInt8)
    (bytes : List (List UInt8)) :
    ((b₁.arm ec₁).1.findAnalogTriggersChunks n chunks).map (fun r => (r.1.triggerState, r.2)) =
        ((b₂.arm ec₂).1.findAnalogTriggersChunks n chunks).map (fun r => (r.1.triggerState, r.2)) ∧
      ((b₁.arm ec₁).1.findDigitalTriggersChunks mask n bytes).1.triggerState =
          ((b₂.arm ec₂).1.findDigitalTriggersChunks mask n bytes).1.triggerState ∧
      ((b₁.arm ec₁).1.findDigitalTriggersChunks mask n bytes).2 =
          ((b₂.arm ec₂).1.findDigitalTriggersChunks mask n bytes).2 := by
  have h : (b₁.arm ec₁).1.triggerView = (b₂.arm ec₂).1.triggerView := by
    rw [Block.triggerView_arm, Block.triggerView_arm, Block.triggerView, hts, hcs, hst]
    rfl
  obtain ⟨hd₁, hd₂⟩ := Block.findDigitalTriggersChunks_congr h mask n bytes
  refine ⟨?_, congrArg (·.2.2) hd₁, hd₂⟩
  have ha := Block.findAnalogTriggersChunks_congr h n chunks
  revert ha
  cases (b₁.arm ec₁).1.findAnalogTriggersChunks n chunks <;>
    cases (b₂.arm ec₂).1.findAnalogTriggersChunks n chunks <;>
    simp only [Except.map, Except.error.injEq, Except.ok.injEq, Prod.mk.injEq, reduceCtorEq,
      imp_self, false_implies, Block.triggerView]
  exact fun ⟨⟨_, _, h₁⟩, h₂⟩ => ⟨h₁, h₂⟩

/-- A constructed block and one whose waveform and rate settings were changed before `arm()`,
the second `arm()` failing in the driver: both detectors report the same after it. -/
theorem triggers_after_arm_other_history :
    let b₁ := digitizerBlockImpl [⟨5, 0, true, true, 5⟩] [⟨1, true⟩] 1 1 false
    let b₂ := b₁.applySetters [.setSamples 20 2, .setSampRate 5]
    b₁.triggerSettings = b₂.triggerSettings ∧ b₁.channelSettings = b₂.channelSettings ∧
      b₁.triggerState = b₂.triggerState ∧
      ((b₁.arm none).1.findAnalogTriggersChunks 0 [[0, 1], [2]]).map
          (fun r => (r.1.triggerState, r.2)) =
        ((b₂.arm (some (.driver 1))).1.findAnalogTriggersChunks 0 [[0, 1], [2]]).map
          (fun r => (r.1.triggerState, r.2)) ∧
      ((b₁.arm none).1.findDigitalTriggersChunks 1 0 [[1], [0]]).1.triggerState =
          ((b₂.arm (some (.driver 1))).1.findDigitalTriggersChunks 1 0 [[1], [0]]).1.triggerState ∧
      ((b₁.arm none).1.findDigitalTriggersChunks 1 0 [[1], [0]]).2 =
          ((b₂.arm (some (.driver 1))).1.findDigitalTriggersChunks 1 0 [[1], [0]]).2 := by
  intro b₁ b₂
  exact ⟨rfl, rfl, rfl, triggers_after_arm none (some (.driver 1)) rfl rfl rfl 0 [[0, 1], [2]] 1
    [[1], [0]]⟩

/-- Two streaming runs with port `0` enabled and a rising trigger on its pin `0`, which agree
from an `arm()` on: the chunk whose bit is set is pushed, `work()` runs. In the first run an
earlier armed period saw the same chunk, left `d_trigger_state` set, and was disarmed;
`arm()` does not clear it (`Block.arm_triggerState`), so that run reports no trigger, while the
run from a fresh block reports one at offset `0`. -/
theorem trigger_state_survives_rearm :
    ((Sys.init (digitizerBlockImpl [] [⟨1, true⟩] 0 1 false)).run
      [.setter (.setDiTrigger 0 .rising), .start none none none true none, .arm none,
        .push ⟨[], [], [[1]], [], 0⟩, .work ⟨none, none, none, none, none, []⟩ 1 1,
        .appWake [.bytes [0]] none, .disarm none, .poll none false, .poll none false,
        .controlIdle none,
        .arm none, .push ⟨[], [], [[1]], [], 0⟩, .work ⟨none, none, none, none, none, []⟩ 1 1,
        .appWake [.bytes [0]] none]).map
      (fun s => s.out.getLast?.map fun r => r.2.filter fun t => t.kind == .trigger) =
      some (some []) ∧
    ((Sys.init (digitizerBlockImpl [] [⟨1, true⟩] 0 1 false)).run
      [.setter (.setDiTrigger 0 .rising), .start none none none true none,
        .arm none, .push ⟨[], [], [[1]], [], 0⟩, .work ⟨none, none, none, none, none, []⟩ 1 1,
        .appWake [.bytes [0]] none]).map
      (fun s => s.out.getLast?.map fun r => r.2.filter fun t => t.kind == .trigger) =
      some (some [⟨0, 0, .trigger⟩]) := by
  decide


end DigitizerBlock
