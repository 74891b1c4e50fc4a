import DigitizerBlock.Settings
import Mathlib.Data.List.Basic
import Mathlib.Data.Nat.Bitwise
import Mathlib.Tactic.Linarith

/-!
# Software trigger detection

`find_analog_triggers` and `find_digital_triggers` run the same loop over a chunk of samples:
in the `RISING`/`HIGH` branch a sample on the `up` side fires while `d_trigger_state` is clear
and sets it, and a sample on the `down` side clears it; the `FALLING`/`LOW` branch fires on a
`down` sample while the state is set. The analog detector takes `up` to be "at or above the
threshold" and `down` "at or below the threshold minus the band" for a rising edge, and the
mirror pair for a falling edge; the digital detector takes the masked bit. `detectEdges` is
that loop once, and the two methods are instances of it.

When `up` and `down` exclude each other the state after a sample only depends on the last
sample that was on either side (`next_eq_latch`). So the offsets of a run of calls that carry
the state from one chunk to the next are the positions whose nearest earlier decisive sample
was on the other side (`detectEdges_eq_filter`), whatever the chunking
(`runChunks_eq_filter`). For the analog trigger this is the hysteresis law, and two fires are
always separated by a sample beyond the far edge of the band (`edgeFires_separated`). For the
digital trigger every sample is decisive, so the offsets are the changes of the masked bit and
the state is the bit of the last sample (`findDigitalTriggers_bit_transitions`).

The falling loop is the rising loop seen through a map that swaps the two sides, from the
complemented state (`detectEdges_mirror`, `findTriggers_mirror`). Both directions start from the
same `d_trigger_state(0)`, which is not the complement of itself, so from a constructed block
the directions are not mirror images (`falling_not_mirror_from_construction`): they are when the
rising detector starts from `d_trigger_state = 1` (`falling_mirror_from_complemented_state`).

Both detectors read the block only through the trigger settings, the channel settings and
`d_trigger_state` (`findAnalogTriggersChunks_congr`, `findDigitalTriggersChunks_congr`).
-/

set_option autoImplicit false

namespace DigitizerBlock

/-! ## The detector loop -/

section Loop

variable {α : Type} (rising : Bool) (up down : α → Bool)

/-- Whether sample `x` fires from state `st`: the first branch of the loop body. -/
def fires (st : Bool) (x : α) : Bool :=
  if rising then !st && up x else st && down x

/-- `d_trigger_state` after sample `x` from state `st`: the loop body's two branches. -/
def next (st : Bool) (x : α) : Bool :=
  if rising then (if !st && up x then true else if st && down x then false else st)
  else (if st && down x then false else if !st && up x then true else st)

/-- The loop `for (i = 0; i < nsamples; i++)` from sample index `i` and state `st`: the state
after it, and the offsets pushed to `trigger_offsets`. -/
def detectEdges : Bool → Nat → List α → Bool × List Nat
  | st, _, [] => (st, [])
  | st, i, x :: xs =>
    let r := detectEdges (next rising up down st x) (i + 1) xs
    (r.1, if fires rising up down st x then i :: r.2 else r.2)

/-- The state as the last decisive sample leaves it: set by `up`, cleared by `down`. -/
def latch (st : Bool) (x : α) : Bool := if up x then true else if down x then false else st

/-- Successive calls on `chunks`, each from the state the previous one left and each with its
offsets shifted by the chunk's start `n` in the concatenated stream. -/
def runChunks : Bool → Nat → List (List α) → Bool × List Nat
  | st, _, [] => (st, [])
  | st, n, c :: cs =>
    let r := detectEdges rising up down st 0 c
    let r' := runChunks r.1 (n + c.length) cs
    (r'.1, r.2.map (· + n) ++ r'.2)

/-- The state after the samples `xs` from `s`, each latched in turn. -/
def stateAfter (s : Bool) (xs : List α) : Bool := xs.foldl (latch up down) s

/-- The nearest sample of `xs` that is on either side, the last one. -/
def nearestDecisive (xs : List α) : Option α :=
  (xs.filter fun y => up y || down y).getLast?

/-- The edge law at position `i` of the stream `xs` from initial state `s`, stated without the
loop: rising, the sample is `up` and the nearest earlier decisive sample was `down` (or there is
none and `s` is clear); falling, the mirror image. The loop fires exactly there, whatever the
chunking (`runChunks_eq_filter`). -/
def edgeFires (s : Bool) (xs : List α) (i : Nat) : Bool :=
  match xs[i]? with
  | none => false
  | some x =>
    if rising then
      up x && (match nearestDecisive up down (xs.take i) with
        | some y => down y
        | none => !s)
    else
      down x && (match nearestDecisive up down (xs.take i) with
        | some y => up y
        | none => s)

end Loop

/-! ## The hysteresis law -/

section Law

variable {α : Type} {up down : α → Bool} (rising s : Bool)

/-- With exclusive sides, both loop bodies update the state as `latch` does. -/
theorem next_eq_latch (hd : ∀ x, up x = true → down x = false) (st : Bool) (x : α) :
    next rising up down st x = latch up down st x := by
  have := hd x
  unfold next latch
  cases rising <;> cases st <;> cases hu : up x <;> cases hdn : down x <;> simp_all

/-- A sample not on the side that would change the state `v` leaves it. -/
theorem latch_hold {v : Bool} {x : α} (h : (if v then down x else up x) = false) :
    latch up down v x = v := by
  cases v <;> simp_all [latch]

/-- After a sample that fires, the state is the direction of the edge. -/
theorem latch_of_fires (hd : ∀ x, up x = true → down x = false) {st : Bool} {x : α}
    (h : fires rising up down st x = true) : latch up down st x = rising := by
  have := hd x
  cases rising <;> cases hu : up x <;> simp_all [fires, latch]

/-- No sample fires from the state that an edge of the same direction leaves. -/
theorem fires_self (x : α) : fires rising up down rising x = false := by
  cases rising <;> simp [fires]

theorem stateAfter_append_singleton (xs : List α) (x : α) :
    stateAfter up down s (xs ++ [x]) = latch up down (stateAfter up down s xs) x := by
  simp [stateAfter, List.foldl_append]

/-- The state after a prefix is the side of its nearest decisive sample, or the initial one. -/
theorem stateAfter_eq_nearest (xs : List α) :
    stateAfter up down s xs =
      match nearestDecisive up down xs with
      | some y => up y
      | none => s := by
  induction xs using List.reverseRecOn with
  | nil => rfl
  | append_singleton xs x ih =>
    rw [stateAfter_append_singleton, ih]
    unfold nearestDecisive latch
    cases hu : up x <;> cases hdn : down x <;> simp [List.filter_append, hu, hdn]

theorem nearestDecisive_sides {xs : List α} {y : α} (h : nearestDecisive up down xs = some y) :
    (up y || down y) = true := by
  obtain ⟨ys, hys⟩ := List.getLast?_eq_some_iff.mp h
  have hy : y ∈ xs.filter fun y => up y || down y := by simp [hys]
  exact (List.mem_filter.mp hy).2

/-- The edge law at position `pre.length` is the loop's firing test from the state the prefix
`pre` leaves. -/
theorem edgeFires_append (hd : ∀ x, up x = true → down x = false) (pre : List α) (x : α)
    (rest : List α) :
    edgeFires rising up down s (pre ++ x :: rest) pre.length =
      fires rising up down (stateAfter up down s pre) x := by
  have hx : (pre ++ x :: rest)[pre.length]? = some x := by
    rw [List.getElem?_append_right (le_refl _), Nat.sub_self]; simp
  simp only [edgeFires, hx, List.take_left', stateAfter_eq_nearest, fires]
  cases h : nearestDecisive up down pre with
  | none => cases rising <;> simp [Bool.and_comm]
  | some y =>
    have hy := nearestDecisive_sides h
    have := hd y
    cases rising <;> cases hu : up y <;> cases hdn : down y <;> simp_all [Bool.and_comm]

theorem edgeFires_append_of_lt {xs : List α} {i : Nat} (ys : List α) (h : i < xs.length) :
    edgeFires rising up down s (xs ++ ys) i = edgeFires rising up down s xs i := by
  simp [edgeFires, List.getElem?_append_left h, List.take_append_of_le_length h.le]

/-- One call from the state its prefix left: the state after the chunk, and exactly the
positions of the chunk where the law fires. -/
theorem detectEdges_eq_filter (hd : ∀ x, up x = true → down x = false) :
    ∀ (pre xs : List α), detectEdges rising up down (stateAfter up down s pre) pre.length xs =
      (stateAfter up down s (pre ++ xs),
        (List.range' pre.length xs.length).filter (edgeFires rising up down s (pre ++ xs)))
  | pre, [] => by simp [detectEdges]
  | pre, x :: xs => by
    have ih := detectEdges_eq_filter hd (pre ++ [x]) xs
    rw [List.length_append, List.length_singleton] at ih
    simp only [detectEdges, next_eq_latch rising hd, ← stateAfter_append_singleton, ih, List.length_cons,
      List.range'_succ, List.filter_cons, List.append_assoc, List.singleton_append,
      edgeFires_append rising s hd]

/-- Offsets pushed from start index `i + j` are those from `i`, shifted by `j`. -/
theorem detectEdges_shift (j : Nat) :
    ∀ (st : Bool) (i : Nat) (xs : List α), detectEdges rising up down st (i + j) xs =
      ((detectEdges rising up down st i xs).1, (detectEdges rising up down st i xs).2.map (· + j))
  | st, i, [] => by simp [detectEdges]
  | st, i, x :: xs => by
    have ih := detectEdges_shift j (next rising up down st x) (i + 1) xs
    rw [show i + 1 + j = i + j + 1 by omega] at ih
    simp only [detectEdges, ih]
    cases fires rising up down st x <;> simp

/-- Every offset the loop pushes is the index of one of its samples. -/
theorem detectEdges_bound : ∀ (st : Bool) (i : Nat) (xs : List α) {o : Nat},
    o ∈ (detectEdges rising up down st i xs).2 → i ≤ o ∧ o < i + xs.length
  | _, _, [], _, h => absurd h (List.not_mem_nil _)
  | st, i, x :: xs, o, h => by
    have ih := @detectEdges_bound (next rising up down st x) (i + 1) xs o
    simp only [detectEdges] at h
    rw [List.length_cons]
    split_ifs at h
    · rcases List.mem_cons.mp h with rfl | h
      · omega
      · have := ih h
        omega
    · have := ih h
      omega

/-- The loop over a concatenation runs on over the second part from the state and index the
first part leaves. -/
theorem detectEdges_append (ys : List α) :
    ∀ (st : Bool) (i : Nat) (xs : List α), detectEdges rising up down st i (xs ++ ys) =
      ((detectEdges rising up down (detectEdges rising up down st i xs).1 (i + xs.length) ys).1,
        (detectEdges rising up down st i xs).2 ++
          (detectEdges rising up down (detectEdges rising up down st i xs).1 (i + xs.length) ys).2)
  | st, i, [] => by simp [detectEdges]
  | st, i, x :: xs => by
    have ih := detectEdges_append ys (next rising up down st x) (i + 1) xs
    rw [show i + 1 + xs.length = i + (xs.length + 1) by omega] at ih
    rw [List.cons_append, detectEdges, ih]
    simp only [detectEdges, List.length_cons]
    cases fires rising up down st x <;> simp

/-- A run over any chunking from the state the prefix left fires at exactly the positions of
the concatenated stream where the law fires. -/
theorem runChunks_eq_filter (hd : ∀ x, up x = true → down x = false) :
    ∀ (cs : List (List α)) (pre : List α),
      runChunks rising up down (stateAfter up down s pre) pre.length cs =
        (stateAfter up down s (pre ++ cs.flatten),
          (List.range' pre.length cs.flatten.length).filter
            (edgeFires rising up down s (pre ++ cs.flatten)))
  | [], pre => by simp [runChunks]
  | c :: cs, pre => by
    have h0 := detectEdges_eq_filter rising s hd pre c
    rw [← Nat.zero_add pre.length, detectEdges_shift, Nat.zero_add] at h0
    have ih := runChunks_eq_filter hd cs (pre ++ c)
    rw [List.length_append] at ih
    obtain ⟨h1, h2⟩ := Prod.mk.inj h0
    simp only [runChunks, h1, h2, ih, List.flatten_cons, ← List.append_assoc, List.length_append,
      ← List.range'_append_1, List.filter_append, Nat.add_comm c.length]
    congr 2
    exact List.filter_congr fun i hi =>
      (edgeFires_append_of_lt rising s cs.flatten (by
        have := List.mem_range'_1.mp hi
        rw [List.length_append]; omega)).symm

theorem stateAfter_take_succ {xs : List α} {m : Nat} {x : α} (h : xs[m]? = some x) :
    stateAfter up down s (xs.take (m + 1)) = latch up down (stateAfter up down s (xs.take m)) x := by
  rw [List.take_succ, h, Option.toList_some, stateAfter_append_singleton]

/-- The state keeps the value `v` over samples that are not on the side that would change it. -/
theorem stateAfter_hold {xs : List α} {m m' : Nat} (v : Bool) (hm : m ≤ m')
    (hv : stateAfter up down s (xs.take m) = v)
    (hno : ∀ k x, m ≤ k → k < m' → xs[k]? = some x → (if v then down x else up x) = false) :
    stateAfter up down s (xs.take m') = v := by
  induction m', hm using Nat.le_induction with
  | base => exact hv
  | succ m' hmm ih =>
    rw [List.take_succ]
    cases hx : xs[m']? with
    | none => simpa using ih fun k x h1 h2 => hno k x h1 (by omega)
    | some x =>
      rw [Option.toList_some, stateAfter_append_singleton, ih fun k x h1 h2 => hno k x h1 (by omega)]
      exact latch_hold (hno m' x hmm (by omega) hx)

/-- Between two fires lies a sample on the side that re-arms the detector: `down` for a
rising edge, `up` for a falling one. -/
theorem edgeFires_separated (hd : ∀ x, up x = true → down x = false) {xs : List α} {i j : Nat}
    (hi : edgeFires rising up down s xs i = true) (hj : edgeFires rising up down s xs j = true)
    (hij : i < j) :
    ∃ k x, i < k ∧ k < j ∧ xs[k]? = some x ∧ (if rising then down x else up x) = true := by
  by_contra hne
  push_neg at hne
  obtain ⟨xi, hxi⟩ : ∃ x, xs[i]? = some x := Option.ne_none_iff_exists'.mp fun h => by
    simp [edgeFires, h] at hi
  obtain ⟨xj, hxj⟩ : ∃ x, xs[j]? = some x := Option.ne_none_iff_exists'.mp fun h => by
    simp [edgeFires, h] at hj
  have fire_at : ∀ k x, xs[k]? = some x →
      edgeFires rising up down s xs k = fires rising up down (stateAfter up down s (xs.take k)) x := by
    intro k x hk
    obtain ⟨hlt, rfl⟩ := List.getElem?_eq_some_iff.mp hk
    have hlen : (xs.take k).length = k := by simp [hlt.le]
    have := edgeFires_append rising s hd (xs.take k) xs[k] (xs.drop (k + 1))
    rwa [hlen, ← List.drop_eq_getElem_cons hlt, List.take_append_drop] at this
  rw [fire_at i xi hxi] at hi
  rw [fire_at j xj hxj] at hj
  have hafter : stateAfter up down s (xs.take (i + 1)) = rising := by
    rw [stateAfter_take_succ s hxi]
    exact latch_of_fires rising hd hi
  have hbefore := stateAfter_hold s rising hij hafter fun k x h1 h2 hk =>
    Bool.eq_false_iff.mpr (hne k x (by omega) h2 hk)
  rw [hbefore, fires_self] at hj
  exact Bool.false_ne_true hj

end Law

/-! ## The two directions -/

section Mirror

variable {α β : Type} {upF downF : α → Bool} {upR downR : β → Bool} (f : α → β)

/-- Seen through `f`, a rising detector whose `up` side is the falling detector's `down` side,
and whose `down` side is its `up` side, takes the falling detector's step from the complemented
state: it fires with it, and its state stays the complement. -/
theorem fires_next_mirror (hu : ∀ x, upR (f x) = downF x) (hd : ∀ x, downR (f x) = upF x)
    (st : Bool) (x : α) :
    fires true upR downR (!st) (f x) = fires false upF downF st x ∧
      next true upR downR (!st) (f x) = !next false upF downF st x := by
  simp only [fires, next, hu, hd]
  cases st <;> cases upF x <;> cases downF x <;> exact ⟨rfl, rfl⟩

/-- Over a chunk, that rising detector on the transformed samples reports the falling
detector's offsets and ends in the complemented state. -/
theorem detectEdges_mirror (hu : ∀ x, upR (f x) = downF x) (hd : ∀ x, downR (f x) = upF x) :
    ∀ (st : Bool) (i : Nat) (xs : List α), detectEdges true upR downR (!st) i (xs.map f) =
      (!(detectEdges false upF downF st i xs).1, (detectEdges false upF downF st i xs).2)
  | _, _, [] => rfl
  | st, i, x :: xs => by
    obtain ⟨h1, h2⟩ := fires_next_mirror f hu hd st x
    simp only [List.map_cons, detectEdges, h1, h2, detectEdges_mirror hu hd _ (i + 1) xs]

end Mirror

/-! ## The two methods -/

namespace Block

/-- `d_channel_settings[i].actual_range`; past the array the source reads out of bounds, `0`
here. -/
def actualRangeOf (b : Block) (i : Nat) : ℚ :=
  ((b.channelSettings[i]?).map (·.actualRange)).getD 0

/-- Whether the configured direction is `RISING` or `HIGH`; otherwise it is `FALLING` or
`LOW`. -/
def risingDirection (d : TriggerDirection) : Bool :=
  match d with
  | .rising | .high => true
  | .falling | .low => false

/-- The `up` and `down` sides of the analog detector for threshold `t` and band `band`:
rising, `x ≥ t` and `x ≤ t - band`; falling, `x ≥ t + band` and `x ≤ t`. The code computes the
band `actual_range / 100.0` as a `float` and rounds `threshold - band` (`lo`) and
`threshold + band` (`hi`) to `float`; the model compares exact rationals, so a sample within a
rounding step of `lo` or `hi` may lie on the other side in the code. -/
def analogUp (rising : Bool) (t band x : ℚ) : Bool := if rising then decide (t ≤ x) else decide (t + band ≤ x)

/-- See `analogUp`, also for the rounding the model leaves out. -/
def analogDown (rising : Bool) (t band x : ℚ) : Bool := if rising then decide (x ≤ t - band) else decide (x ≤ t)

/-- `find_analog_triggers(samples, nsamples)`: nothing for a disabled trigger or an empty chunk;
otherwise the channel is parsed from the trigger source, the band is `actual_range / 100`, and
the loop runs on the configured edge. The `is_analog()` assertion is not modelled. -/
def findAnalogTriggers (b : Block) (samples : List ℚ) : Except Exception (Block × List Nat) :=
  if !b.triggerSettings.isEnabled || samples.length == 0 then .ok (b, [])
  else
    (b.convertToAichanIdx b.triggerSettings.source).map fun aichan =>
      let rising := risingDirection b.triggerSettings.direction
      let t := b.triggerSettings.threshold
      let band := b.actualRangeOf aichan / 100
      let r := detectEdges rising (analogUp rising t band) (analogDown rising t band)
        b.triggerState 0 samples
      ({ b with triggerState := r.1 }, r.2)

/-- The masked bit is set. -/
def bitSet (mask x : UInt8) : Bool := x &&& mask != 0

/-- The masked bit is clear. -/
def bitClear (mask x : UInt8) : Bool := x &&& mask == 0

/-- `find_digital_triggers(samples, nsamples, mask)`: the loop on the masked bit. -/
def findDigitalTriggers (b : Block) (samples : List UInt8) (mask : UInt8) : Block × List Nat :=
  let rising := risingDirection b.triggerSettings.direction
  let r := detectEdges rising (bitSet mask) (bitClear mask) b.triggerState 0 samples
  ({ b with triggerState := r.1 }, r.2)

/-- Successive `find_analog_triggers` calls on `chunks`, each on the block the previous call
left, with each call's offsets shifted by its chunk's start `n`. -/
def findAnalogTriggersChunks : Block → Nat → List (List ℚ) → Except Exception (Block × List Nat)
  | b, _, [] => .ok (b, [])
  | b, n, c :: cs =>
    match b.findAnalogTriggers c with
    | .error e => .error e
    | .ok (b', offs) =>
      (findAnalogTriggersChunks b' (n + c.length) cs).map fun r => (r.1, offs.map (· + n) ++ r.2)

/-- The band `actual_range / 100` of the channel the trigger source names. -/
def triggerBand (b : Block) : ℚ :=
  match b.convertToAichanIdx b.triggerSettings.source with
  | .ok aichan => b.actualRangeOf aichan / 100
  | .error _ => 0

/-! ## The analog detector over a chunked stream -/

/-- With a positive band the two sides of the analog detector exclude each other. -/
theorem analog_sides_exclusive (rising : Bool) (t : ℚ) {band : ℚ} (hband : 0 < band) (x : ℚ)
    (hup : analogUp rising t band x = true) : analogDown rising t band x = false := by
  cases rising <;> simp only [analogUp, analogDown, decide_eq_true_eq, decide_eq_false_iff_not,
    Bool.false_eq_true, if_false, if_true, not_le] at hup ⊢ <;> linarith

/-- An accepted channel id has one byte, so it is not `TRIGGER_NONE_SOURCE`. -/
theorem isEnabled_of_convert {b : Block} {id : String} {i : Nat} (t : ℚ) (d : TriggerDirection)
    (p : Nat) (h : b.convertToAichanIdx id = .ok i) : (TriggerSetting.mk id t d p).isEnabled := by
  have hlen : id.utf8ByteSize = 1 := by
    by_contra hne
    simp [convertToAichanIdx, hne] at h
  have hne : id ≠ TRIGGER_NONE_SOURCE := fun he => by
    rw [he] at hlen
    exact absurd hlen (by decide)
  simpa [TriggerSetting.isEnabled] using hne

/-- One call on an enabled analog trigger whose source parses: the loop from the carried
state, written back to `d_trigger_state`. -/
theorem findAnalogTriggers_eq {b : Block} {aichan : Nat} (hen : b.triggerSettings.isEnabled)
    (hconv : b.convertToAichanIdx b.triggerSettings.source = .ok aichan) (c : List ℚ) :
    b.findAnalogTriggers c =
      let rising := risingDirection b.triggerSettings.direction
      let t := b.triggerSettings.threshold
      let r := detectEdges rising (analogUp rising t b.triggerBand) (analogDown rising t b.triggerBand)
        b.triggerState 0 c
      .ok ({ b with triggerState := r.1 }, r.2) := by
  cases c with
  | nil => simp [findAnalogTriggers, detectEdges]
  | cons x xs => simp [findAnalogTriggers, hen, hconv, triggerBand, Except.map]

/-- Successive calls carry only `d_trigger_state`: they are `runChunks` of the loop. -/
theorem findAnalogTriggersChunks_eq {b : Block} {aichan : Nat} (hen : b.triggerSettings.isEnabled)
    (hconv : b.convertToAichanIdx b.triggerSettings.source = .ok aichan) :
    ∀ (st : Bool) (n : Nat) (cs : List (List ℚ)),
      let rising := risingDirection b.triggerSettings.direction
      let t := b.triggerSettings.threshold
      let r := runChunks rising (analogUp rising t b.triggerBand) (analogDown rising t b.triggerBand)
        st n cs
      findAnalogTriggersChunks { b with triggerState := st } n cs =
        .ok ({ b with triggerState := r.1 }, r.2)
  | st, n, [] => by simp [findAnalogTriggersChunks, runChunks]
  | st, n, c :: cs => by
    have hen' : ({ b with triggerState := st }).triggerSettings.isEnabled := hen
    have hconv' : ({ b with triggerState := st }).convertToAichanIdx
        ({ b with triggerState := st }).triggerSettings.source = .ok aichan := hconv
    have hband : ({ b with triggerState := st }).triggerBand = b.triggerBand := rfl
    rw [findAnalogTriggersChunks, findAnalogTriggers_eq hen' hconv', hband]
    simp only [runChunks]
    rw [findAnalogTriggersChunks_eq hen hconv]
    rfl

/-- The analog software trigger set by `set_aichan_trigger(id, dir, t)`, with a positive band
`band = actual_range / 100`, run by successive `find_analog_triggers` calls over any chunking of
a sample stream from any carried state `s`: rising, the offsets shifted by their chunk's start
are exactly the positions `i` with `x i ≥ t` whose nearest earlier sample with `x j ≥ t` or
`x j ≤ t - band` has `x j ≤ t - band` (or there is none and `s` is clear); falling, the mirror
image. So they do not depend on the chunking, and between two fires lies a sample beyond the
far edge of the band. -/
theorem findAnalogTriggers_hysteresis (b₀ b : Block) (id : String) (dir : TriggerDirection)
    (t : ℚ) (chunks : List (List ℚ)) (hset : b₀.setAichanTrigger id dir t = .ok b)
    (hband : 0 < b.triggerBand) :
    (∃ b', b.findAnalogTriggersChunks 0 chunks =
      .ok (b', (List.range chunks.flatten.length).filter
        (edgeFires (risingDirection dir) (analogUp (risingDirection dir) t b.triggerBand)
          (analogDown (risingDirection dir) t b.triggerBand) b.triggerState chunks.flatten))) ∧
    ∀ i j, edgeFires (risingDirection dir) (analogUp (risingDirection dir) t b.triggerBand)
        (analogDown (risingDirection dir) t b.triggerBand) b.triggerState chunks.flatten i = true →
      edgeFires (risingDirection dir) (analogUp (risingDirection dir) t b.triggerBand)
        (analogDown (risingDirection dir) t b.triggerBand) b.triggerState chunks.flatten j = true →
      i < j → ∃ k x, i < k ∧ k < j ∧ chunks.flatten[k]? = some x ∧
        (if risingDirection dir then x ≤ t - b.triggerBand else t + b.triggerBand ≤ x) := by
  unfold setAichanTrigger at hset
  cases hc : b₀.convertToAichanIdx id with
  | error e => simp [hc, Except.map] at hset
  | ok aichan =>
    simp only [hc, Except.map, Except.ok.injEq] at hset
    have hts : b.triggerSettings = ⟨id, t, dir, 0⟩ := by rw [← hset]
    have hconv : b.convertToAichanIdx b.triggerSettings.source = .ok aichan := by
      rw [← hset]; exact hc
    have hen : b.triggerSettings.isEnabled := by rw [hts]; exact isEnabled_of_convert t dir 0 hc
    have hd := analog_sides_exclusive (risingDirection dir) t hband
    refine ⟨?_, fun i j hi hj hij => ?_⟩
    · have h : b.findAnalogTriggersChunks 0 chunks = _ :=
        findAnalogTriggersChunks_eq hen hconv b.triggerState 0 chunks
      have hrun := runChunks_eq_filter (risingDirection dir) b.triggerState hd chunks []
      simp only [List.length_nil, List.nil_append, stateAfter, List.foldl_nil] at hrun
      simp only [hts] at h
      rw [hrun] at h
      exact ⟨_, by simpa [List.range_eq_range'] using h⟩
    · obtain ⟨k, x, hik, hkj, hk, hx⟩ :=
        edgeFires_separated (risingDirection dir) b.triggerState hd hi hj hij
      refine ⟨k, x, hik, hkj, hk, ?_⟩
      revert hx
      cases risingDirection dir <;> simp [analogUp, analogDown]

/-- `findAnalogTriggers_hysteresis` at a one-channel block whose channel `A` has range `5 V`
(band `0.05 V`), threshold `0.5 V`, rising, on a stream cut into two chunks. -/
theorem findAnalogTriggers_hysteresis_channelA :
    ((digitizerBlockImpl [⟨5, 0, true, true, 5⟩] [] 1 0 true).setAichanTrigger "A" .rising (1 / 2) =
        .ok { digitizerBlockImpl [⟨5, 0, true, true, 5⟩] [] 1 0 true with
              triggerSettings := ⟨"A", 1 / 2, .rising, 0⟩ } ∧
      0 < ({ digitizerBlockImpl [⟨5, 0, true, true, 5⟩] [] 1 0 true with
              triggerSettings := ⟨"A", 1 / 2, .rising, 0⟩ } : Block).triggerBand) ∧
    ((∃ b', ({ digitizerBlockImpl [⟨5, 0, true, true, 5⟩] [] 1 0 true with
              triggerSettings := ⟨"A", 1 / 2, .rising, 0⟩ } : Block).findAnalogTriggersChunks 0
          [[0, 1], [1, 0, 1]] =
        .ok (b', (List.range [[(0 : ℚ), 1], [1, 0, 1]].flatten.length).filter
          (edgeFires true (analogUp true (1 / 2) (5 / 100)) (analogDown true (1 / 2) (5 / 100))
            false [[(0 : ℚ), 1], [1, 0, 1]].flatten))) ∧
      ∀ i j, edgeFires true (analogUp true (1 / 2) (5 / 100)) (analogDown true (1 / 2) (5 / 100))
          false [[(0 : ℚ), 1], [1, 0, 1]].flatten i = true →
        edgeFires true (analogUp true (1 / 2) (5 / 100)) (analogDown true (1 / 2) (5 / 100))
          false [[(0 : ℚ), 1], [1, 0, 1]].flatten j = true →
        i < j → ∃ k x, i < k ∧ k < j ∧ [[(0 : ℚ), 1], [1, 0, 1]].flatten[k]? = some x ∧
          (if true = true then x ≤ 1 / 2 - 5 / 100 else 1 / 2 + 5 / 100 ≤ x)) := by
  have hset : (digitizerBlockImpl [⟨5, 0, true, true, 5⟩] [] 1 0 true).setAichanTrigger "A"
      .rising (1 / 2) = .ok { digitizerBlockImpl [⟨5, 0, true, true, 5⟩] [] 1 0 true with
        triggerSettings := ⟨"A", 1 / 2, .rising, 0⟩ } := rfl
  have hband : ({ digitizerBlockImpl [⟨5, 0, true, true, 5⟩] [] 1 0 true with
      triggerSettings := ⟨"A", 1 / 2, .rising, 0⟩ } : Block).triggerBand = 5 / 100 := by
    rfl
  have hpos : (0 : ℚ) < 5 / 100 := by norm_num
  refine ⟨⟨hset, hband ▸ hpos⟩, ?_⟩
  have h := findAnalogTriggers_hysteresis _ _ "A" .rising (1 / 2) [[0, 1], [1, 0, 1]] hset
    (hband ▸ hpos)
  rw [hband] at h
  exact h

/-! ## The digital detector over a chunked stream -/

/-- Successive `find_digital_triggers` calls with one mask on `chunks`, each on the block the
previous call left, with each call's offsets shifted by its chunk's start `n`: `work_stream`
makes one such call per chunk. -/
def findDigitalTriggersChunks (mask : UInt8) : Block → Nat → List (List UInt8) → Block × List Nat
  | b, _, [] => (b, [])
  | b, n, c :: cs =>
    let r := b.findDigitalTriggers c mask
    let r' := findDigitalTriggersChunks mask r.1 (n + c.length) cs
    (r'.1, r.2.map (· + n) ++ r'.2)

/-- The masked bit of the sample before position `i` of `xs`, the last of the first `i`; `s` when
there is none. -/
def bitBefore (mask : UInt8) (s : Bool) (xs : List UInt8) (i : Nat) : Bool :=
  ((xs.take i).getLast?.map (bitSet mask)).getD s

/-- The digital detector's edge at position `i` of `xs`: the masked bit goes `0 → 1` (rising) or
`1 → 0` (falling) from the sample before it. -/
def bitEdge (mask : UInt8) (rising s : Bool) (xs : List UInt8) (i : Nat) : Bool :=
  match xs[i]? with
  | none => false
  | some x =>
    if rising then !bitBefore mask s xs i && bitSet mask x
    else bitBefore mask s xs i && !bitSet mask x

theorem bitClear_eq (mask x : UInt8) : bitClear mask x = !bitSet mask x := by
  simp only [bitClear, bitSet, bne, Bool.not_not]

/-- Every sample is on one side of the digital detector: there is no band. -/
theorem nearestDecisive_bits (mask : UInt8) (xs : List UInt8) :
    nearestDecisive (bitSet mask) (bitClear mask) xs = xs.getLast? := by
  unfold nearestDecisive
  rw [List.filter_eq_self.mpr fun x _ => by rw [bitClear_eq]; cases bitSet mask x <;> rfl]

theorem stateAfter_bits (mask : UInt8) (s : Bool) (xs : List UInt8) :
    stateAfter (bitSet mask) (bitClear mask) s xs = (xs.getLast?.map (bitSet mask)).getD s := by
  rw [stateAfter_eq_nearest, nearestDecisive_bits]
  cases xs.getLast? <;> rfl

theorem edgeFires_bits (mask : UInt8) (rising s : Bool) (xs : List UInt8) (i : Nat) :
    edgeFires rising (bitSet mask) (bitClear mask) s xs i = bitEdge mask rising s xs i := by
  unfold edgeFires bitEdge bitBefore
  rw [nearestDecisive_bits]
  cases xs[i]? <;> cases (xs.take i).getLast? <;> cases rising <;> simp [bitClear_eq, Bool.and_comm]

/-- Successive calls carry only `d_trigger_state`: they are `runChunks` of the loop on the masked
bit. -/
theorem findDigitalTriggersChunks_eq (mask : UInt8) :
    ∀ (b : Block) (n : Nat) (cs : List (List UInt8)),
      b.findDigitalTriggersChunks mask n cs =
        let r := runChunks (risingDirection b.triggerSettings.direction) (bitSet mask) (bitClear mask)
          b.triggerState n cs
        ({ b with triggerState := r.1 }, r.2)
  | b, n, [] => rfl
  | b, n, c :: cs => by
    simp only [findDigitalTriggersChunks, runChunks, findDigitalTriggers]
    rw [findDigitalTriggersChunks_eq mask _ (n + c.length) cs]

/-- Successive `find_digital_triggers` calls with one mask over any chunking of a byte stream,
carrying `d_trigger_state` from the block's state `s`: afterwards the state is the masked bit of
the last sample (`s` if there is none), and the offsets, shifted by their chunk's start, are
exactly the positions where the masked bit changes in the configured direction, the bit before
the first sample being `s`. -/
theorem findDigitalTriggers_bit_transitions (b : Block) (mask : UInt8)
    (chunks : List (List UInt8)) :
    b.findDigitalTriggersChunks mask 0 chunks =
      ({ b with triggerState := (chunks.flatten.getLast?.map (bitSet mask)).getD b.triggerState },
        (List.range chunks.flatten.length).filter
          (bitEdge mask (risingDirection b.triggerSettings.direction) b.triggerState
            chunks.flatten)) := by
  have hd : ∀ x, bitSet mask x = true → bitClear mask x = false := fun x h => by
    rw [bitClear_eq, h]; rfl
  have hrun : runChunks (risingDirection b.triggerSettings.direction) (bitSet mask) (bitClear mask)
      b.triggerState 0 chunks = _ :=
    runChunks_eq_filter (risingDirection b.triggerSettings.direction) b.triggerState hd chunks []
  rw [findDigitalTriggersChunks_eq]
  simp only [hrun, List.nil_append, stateAfter_bits, List.range_eq_range']
  congr 2
  funext i
  exact edgeFires_bits mask _ _ _ i

/-- The spec's scenario: pin `3` rising on `0x00, 0x00, 0x08, 0x08, 0x00, 0x08`. -/
example : ((digitizerBlockImpl [] [⟨1, true⟩] 0 1 false).findDigitalTriggersChunks
    (1 <<< (3 % 8)).toUInt8 0 [[0x00, 0x00, 0x08], [0x08, 0x00, 0x08]]).2 = [2, 5] := by
  decide

/-! ## What the detectors read -/

/-- What both detectors read of the block: the trigger settings, the channel settings (for the
channel index and its band) and `d_trigger_state`. -/
def triggerView (b : Block) : TriggerSetting × List ChannelSetting × Bool :=
  (b.triggerSettings, b.channelSettings, b.triggerState)

/-- `find_analog_triggers` writes `d_trigger_state` only. -/
theorem findAnalogTriggers_block {b b' : Block} {c : List ℚ} {offs : List Nat}
    (h : b.findAnalogTriggers c = .ok (b', offs)) : b' = { b with triggerState := b'.triggerState } := by
  unfold findAnalogTriggers at h
  split at h
  · cases h
    rfl
  · simp only [Except.map] at h
    split at h <;> cases h
    rfl

/-- One `find_analog_triggers` call depends on the block only through `triggerView`, and so does
what it leaves of it. -/
theorem findAnalogTriggers_congr {b₁ b₂ : Block} (h : b₁.triggerView = b₂.triggerView)
    (c : List ℚ) :
    (b₁.findAnalogTriggers c).map (fun r => (r.1.triggerView, r.2)) =
      (b₂.findAnalogTriggers c).map (fun r => (r.1.triggerView, r.2)) := by
  simp only [triggerView, Prod.mk.injEq] at h
  obtain ⟨hts, hcs, hst⟩ := h
  have hconv : b₁.convertToAichanIdx = b₂.convertToAichanIdx := by
    funext id
    simp only [convertToAichanIdx, MAX_SUPPORTED_AI_CHANNELS, hcs]
  unfold findAnalogTriggers
  rw [hts, hconv]
  split
  · simp only [Except.map, triggerView, hts, hcs, hst]
  · cases b₂.convertToAichanIdx b₂.triggerSettings.source <;>
      simp only [Except.map, triggerView, actualRangeOf, hcs, hst]

/-- And so do successive calls over chunks. -/
theorem findAnalogTriggersChunks_congr :
    ∀ {b₁ b₂ : Block}, b₁.triggerView = b₂.triggerView → ∀ (n : Nat) (cs : List (List ℚ)),
      (b₁.findAnalogTriggersChunks n cs).map (fun r => (r.1.triggerView, r.2)) =
        (b₂.findAnalogTriggersChunks n cs).map (fun r => (r.1.triggerView, r.2))
  | _, _, h, _, [] => by simp only [findAnalogTriggersChunks, Except.map, h]
  | b₁, b₂, h, n, c :: cs => by
    have h1 := findAnalogTriggers_congr h c
    simp only [findAnalogTriggersChunks]
    rcases e₁ : b₁.findAnalogTriggers c with _ | ⟨b₁', o₁⟩ <;>
      rcases e₂ : b₂.findAnalogTriggers c with _ | ⟨b₂', o₂⟩ <;>
      simp only [e₁, e₂, Except.map, Except.error.injEq, Except.ok.injEq, Prod.mk.injEq,
        reduceCtorEq] at h1 ⊢
    · exact h1
    · obtain ⟨hv, rfl⟩ := h1
      have ih := findAnalogTriggersChunks_congr hv (n + c.length) cs
      revert ih
      cases findAnalogTriggersChunks b₁' (n + c.length) cs <;>
        cases findAnalogTriggersChunks b₂' (n + c.length) cs <;>
        simp only [Except.map, Except.error.injEq, Except.ok.injEq, Prod.mk.injEq, reduceCtorEq,
          imp_self, false_implies]
      exact fun ⟨h₁, h₂⟩ => ⟨h₁, by rw [h₂]⟩

/-- Successive `find_digital_triggers` calls depend on the block only through `triggerView`. -/
theorem findDigitalTriggersChunks_congr {b₁ b₂ : Block} (h : b₁.triggerView = b₂.triggerView)
    (mask : UInt8) (n : Nat) (cs : List (List UInt8)) :
    (b₁.findDigitalTriggersChunks mask n cs).1.triggerView =
        (b₂.findDigitalTriggersChunks mask n cs).1.triggerView ∧
      (b₁.findDigitalTriggersChunks mask n cs).2 = (b₂.findDigitalTriggersChunks mask n cs).2 := by
  simp only [triggerView, Prod.mk.injEq] at h
  simp only [findDigitalTriggersChunks_eq, triggerView, h, and_self]

/-! ## Falling against rising -/

/-- Negating the samples and the threshold turns the rising detector's `up` side into the
falling detector's `down` side. -/
theorem analogUp_neg (t band x : ℚ) : analogUp true (-t) band (-x) = analogDown false t band x := by
  simp [analogUp, analogDown]

/-- And its `down` side into the falling detector's `up` side. -/
theorem analogDown_neg (t band x : ℚ) :
    analogDown true (-t) band (-x) = analogUp false t band x := by
  simp only [analogUp, analogDown, if_true, Bool.false_eq_true, if_false, decide_eq_decide]
  constructor <;> intro h <;> linarith

/-- `1 << (pin % 8)` as a byte is `2 ^ (pin % 8)`. -/
theorem pinMask_toNat (pin : Nat) : ((1 <<< (pin % 8)).toUInt8).toNat = 2 ^ (pin % 8) := by
  have hk : 2 ^ (pin % 8) < 2 ^ 8 := Nat.pow_lt_pow_right (by norm_num) (Nat.mod_lt _ (by norm_num))
  rw [Nat.one_shiftLeft]
  exact Nat.mod_eq_of_lt hk

/-- The mask of a pin tests bit `pin % 8`. -/
theorem bitSet_pinMask (pin : Nat) (x : UInt8) :
    bitSet (1 <<< (pin % 8)).toUInt8 x = x.toNat.testBit (pin % 8) := by
  have h : x &&& (1 <<< (pin % 8)).toUInt8 = 0 ↔ x.toNat.testBit (pin % 8) = false := by
    rw [show x &&& (1 <<< (pin % 8)).toUInt8 = 0 ↔ (x &&& (1 <<< (pin % 8)).toUInt8).toNat = 0 from
      ⟨fun h => h ▸ rfl, fun h => UInt8.toNat.inj h⟩, UInt8.and_toNat, pinMask_toNat,
      Nat.and_two_pow]
    cases x.toNat.testBit (pin % 8) <;> simp
  unfold bitSet
  cases hb : x.toNat.testBit (pin % 8) <;> simp_all

/-- Complementing the pin's bit swaps the two sides of the digital detector. -/
theorem bitSet_xor_pinMask (pin : Nat) (x : UInt8) :
    bitSet (1 <<< (pin % 8)).toUInt8 (x ^^^ (1 <<< (pin % 8)).toUInt8) =
      bitClear (1 <<< (pin % 8)).toUInt8 x := by
  have hx : (x ^^^ (1 <<< (pin % 8)).toUInt8).toNat = x.toNat ^^^ 2 ^ (pin % 8) := by
    rw [← pinMask_toNat]
    exact BitVec.toNat_xor _ _
  rw [bitClear_eq, bitSet_pinMask, bitSet_pinMask, hx, Nat.testBit_xor, Nat.testBit_two_pow_self,
    Bool.xor_true]

/-- And the other side into the other. -/
theorem bitClear_xor_pinMask (pin : Nat) (x : UInt8) :
    bitClear (1 <<< (pin % 8)).toUInt8 (x ^^^ (1 <<< (pin % 8)).toUInt8) =
      bitSet (1 <<< (pin % 8)).toUInt8 x := by
  rw [bitClear_eq, bitSet_xor_pinMask, bitClear_eq, Bool.not_not]

/-- The analog detector's falling direction is the mirror image of its rising one once the state
is complemented: on the negated samples with the negated threshold, the rising detector started
from `!s` reports the offsets the falling one reports from `s`, and ends in the complemented
state. -/
theorem findAnalogTriggers_mirror (b : Block) (dF dR : TriggerDirection)
    (hF : risingDirection dF = false) (hR : risingDirection dR = true) (s : Bool) (id : String)
    (t : ℚ) (p : Nat) (xs : List ℚ) :
    (({ b with triggerSettings := ⟨id, t, dF, p⟩, triggerState := s } : Block).findAnalogTriggers
        xs).map (fun r => (!r.1.triggerState, r.2)) =
      (({ b with triggerSettings := ⟨id, -t, dR, p⟩, triggerState := !s } : Block).findAnalogTriggers
        (xs.map Neg.neg)).map (fun r => (r.1.triggerState, r.2)) := by
  have hconv : ∀ (ts : TriggerSetting) (st : Bool),
      ({ b with triggerSettings := ts, triggerState := st } : Block).convertToAichanIdx id =
        b.convertToAichanIdx id := fun _ _ => rfl
  unfold findAnalogTriggers
  simp only [TriggerSetting.isEnabled, List.length_map, hF, hR, hconv]
  split
  · rfl
  · cases b.convertToAichanIdx id with
    | error e => rfl
    | ok aichan =>
      have hm := detectEdges_mirror Neg.neg (analogUp_neg t (b.actualRangeOf aichan / 100))
        (analogDown_neg t (b.actualRangeOf aichan / 100)) s 0 xs
      have hr : ∀ (ts : TriggerSetting) (st : Bool),
          ({ b with triggerSettings := ts, triggerState := st } : Block).actualRangeOf aichan =
            b.actualRangeOf aichan := fun _ _ => rfl
      simp only [Except.map, hr, hm]

/-- The digital detector's low direction is the mirror image of its high one once the state is
complemented: on the bytes with the pin's bit complemented. -/
theorem findDigitalTriggers_mirror (b : Block) (dF dR : TriggerDirection)
    (hF : risingDirection dF = false) (hR : risingDirection dR = true) (s : Bool) (pin : Nat)
    (xs : List UInt8) :
    let mask := (1 <<< (pin % 8)).toUInt8
    let rF := ({ b with triggerSettings.direction := dF, triggerState := s } : Block).findDigitalTriggers
      xs mask
    let rR := ({ b with triggerSettings.direction := dR, triggerState := !s } : Block).findDigitalTriggers
      (xs.map (· ^^^ mask)) mask
    rR.1.triggerState = !rF.1.triggerState ∧ rR.2 = rF.2 := by
  have hm := detectEdges_mirror (· ^^^ (1 <<< (pin % 8)).toUInt8) (bitSet_xor_pinMask pin)
    (bitClear_xor_pinMask pin) s 0 xs
  simp only [findDigitalTriggers, hF, hR, hm, and_self]

/-- Each detector's falling (or low) direction is the mirror image of its rising (or high) one
once the state is complemented: on the negated samples with the negated threshold, or on the
bytes with the pin's bit complemented, the rising detector started from `!s` reports the offsets
the falling one reports from `s`, and ends in the complemented state. -/
theorem findTriggers_mirror (b : Block) (dF dR : TriggerDirection)
    (hF : risingDirection dF = false) (hR : risingDirection dR = true) (s : Bool) :
    (∀ (id : String) (t : ℚ) (p : Nat) (xs : List ℚ),
      (({ b with triggerSettings := ⟨id, t, dF, p⟩, triggerState := s } : Block).findAnalogTriggers
          xs).map (fun r => (!r.1.triggerState, r.2)) =
        (({ b with triggerSettings := ⟨id, -t, dR, p⟩, triggerState := !s } : Block).findAnalogTriggers
          (xs.map Neg.neg)).map (fun r => (r.1.triggerState, r.2))) ∧
    ∀ (pin : Nat) (xs : List UInt8),
      let mask := (1 <<< (pin % 8)).toUInt8
      let rF := ({ b with triggerSettings.direction := dF, triggerState := s } : Block).findDigitalTriggers
        xs mask
      let rR := ({ b with triggerSettings.direction := dR, triggerState := !s } : Block).findDigitalTriggers
        (xs.map (· ^^^ mask)) mask
      rR.1.triggerState = !rF.1.triggerState ∧ rR.2 = rF.2 :=
  ⟨findAnalogTriggers_mirror b dF dR hF hR s, findDigitalTriggers_mirror b dF dR hF hR s⟩

/-- `findTriggers_mirror` on a constructed block with one channel and one port, falling against
rising, from the clear state. -/
theorem findTriggers_mirror_fresh :
    risingDirection .falling = false ∧ risingDirection .rising = true ∧
    (∀ (id : String) (t : ℚ) (p : Nat) (xs : List ℚ),
      (({ digitizerBlockImpl [⟨5, 0, true, true, 5⟩] [⟨1, true⟩] 1 1 false with
          triggerSettings := ⟨id, t, .falling, p⟩, triggerState := false } : Block).findAnalogTriggers
          xs).map (fun r => (!r.1.triggerState, r.2)) =
        (({ digitizerBlockImpl [⟨5, 0, true, true, 5⟩] [⟨1, true⟩] 1 1 false with
          triggerSettings := ⟨id, -t, .rising, p⟩, triggerState := !false } : Block).findAnalogTriggers
          (xs.map Neg.neg)).map (fun r => (r.1.triggerState, r.2))) ∧
    ∀ (pin : Nat) (xs : List UInt8),
      let mask := (1 <<< (pin % 8)).toUInt8
      let rF := ({ digitizerBlockImpl [⟨5, 0, true, true, 5⟩] [⟨1, true⟩] 1 1 false with
        triggerSettings.direction := .falling, triggerState := false } : Block).findDigitalTriggers
        xs mask
      let rR := ({ digitizerBlockImpl [⟨5, 0, true, true, 5⟩] [⟨1, true⟩] 1 1 false with
        triggerSettings.direction := .rising, triggerState := !false } : Block).findDigitalTriggers
        (xs.map (· ^^^ mask)) mask
      rR.1.triggerState = !rF.1.triggerState ∧ rR.2 = rF.2 :=
  ⟨rfl, rfl, findTriggers_mirror _ .falling .rising rfl rfl false⟩

/-- On the block the constructor builds, with the trigger set by `set_aichan_trigger` or
`set_di_trigger`, the falling (or low) direction is the mirror image of the rising (or high) one
when the rising detector starts from the complemented state, `d_trigger_state = 1` rather than
the `0` the constructor leaves. Then for every channel id, threshold `t` and samples `x`, falling
at `t` on `x` reports the offsets that rising at `-t` reports on `-x`; for every pin and bytes,
falling reports the offsets that rising reports on the bytes with the pin's bit complemented; and
each ends in the complemented state. -/
theorem falling_mirror_from_complemented_state (channels : List ChannelSetting)
    (ports : List PortSetting) (ai_channels di_ports : Nat) (auto_arm : Bool) :
    let b := digitizerBlockImpl channels ports ai_channels di_ports auto_arm
    (∀ (id : String) (t : ℚ) (xs : List ℚ),
      (b.setAichanTrigger id .falling t >>= fun bF => bF.findAnalogTriggers xs).map
          (fun r => (!r.1.triggerState, r.2)) =
        (b.setAichanTrigger id .rising (-t) >>= fun bR =>
          ({ bR with triggerState := true } : Block).findAnalogTriggers (xs.map Neg.neg)).map
          (fun r => (r.1.triggerState, r.2))) ∧
    ∀ (pin : Nat) (xs : List UInt8),
      let mask := (1 <<< (pin % 8)).toUInt8
      (b.setDiTrigger pin .falling).map (fun bF =>
          let r := bF.findDigitalTriggers xs mask
          (!r.1.triggerState, r.2)) =
        (b.setDiTrigger pin .rising).map (fun bR =>
          let r := ({ bR with triggerState := true } : Block).findDigitalTriggers
            (xs.map (· ^^^ mask)) mask
          (r.1.triggerState, r.2)) := by
  intro b
  refine ⟨fun id t xs => ?_, fun pin xs => ?_⟩
  · simp only [setAichanTrigger]
    cases b.convertToAichanIdx id with
    | error e => rfl
    | ok _ => exact findAnalogTriggers_mirror b .falling .rising rfl rfl false id t 0 xs
  · have h := findDigitalTriggers_mirror
      { b with triggerSettings := ⟨TRIGGER_DIGITAL_SOURCE, 0, .falling, pin⟩ } .falling .rising rfl
      rfl false pin xs
    exact congrArg Except.ok (Prod.ext h.1.symm h.2.symm)

/-- From the state the constructor leaves (`d_trigger_state(0)`) the two directions are not
mirror images. Channel `A` at range `5 V`: falling at `1 V` reports nothing on the one sample `0`,
while rising at `-1 V` on the negated sample reports offset `0`. Port `0`, pin `0`: falling
reports nothing on the byte `0`, while rising on the byte with the bit complemented reports
offset `0`. -/
theorem falling_not_mirror_from_construction :
    ((digitizerBlockImpl [⟨5, 0, true, true, 5⟩] [] 1 0 false).setAichanTrigger "A" .falling 1 >>=
        fun b => b.findAnalogTriggers [0]).map (·.2) = .ok [] ∧
      ((digitizerBlockImpl [⟨5, 0, true, true, 5⟩] [] 1 0 false).setAichanTrigger "A" .rising (-1) >>=
        fun b => b.findAnalogTriggers (([0] : List ℚ).map Neg.neg)).map (·.2) = .ok [0] ∧
      ((digitizerBlockImpl [] [⟨1, true⟩] 0 1 false).setDiTrigger 0 .falling).map
        (fun b => (b.findDigitalTriggers [0] (1 <<< (0 % 8)).toUInt8).2) = .ok [] ∧
      ((digitizerBlockImpl [] [⟨1, true⟩] 0 1 false).setDiTrigger 0 .rising).map
        (fun b => (b.findDigitalTriggers (([0] : List UInt8).map (· ^^^ (1 <<< (0 % 8)).toUInt8))
          (1 <<< (0 % 8)).toUInt8).2) = .ok [0] :=
  ⟨rfl, rfl, rfl, rfl⟩

end Block

end DigitizerBlock
