import SpaDevice.Window
import SpaDevice.Xdp

/-!
# SpaDevice.Limiter

The knock limiter (`rate_ok`) over whole runs.

Every source has its own entry in `RATE`, and a call reads and writes the
entry of its source alone; so the answers a source gets are those of a machine
that is given its own call times and nothing else (`results_eq`).  On times
that do not decrease that machine is a fixed-window counter
(`entry_refines`), and the limits follow from the counter's.
-/

namespace SpaDevice

/-! ## One source's entry -/

/-- `rate_ok` as it acts on the entry of its source. -/
def rateEntry (entry : Option RateState) (now : UInt64) : Bool × Option RateState :=
  match entry with
  | some s =>
      if now - s.windowNs < rateWindowNs then
        if s.count ≥ rateLimit then (false, some s)
        else (true, some { windowNs := s.windowNs, count := s.count + 1 })
      else (true, some { windowNs := now, count := 1 })
  | none => (true, some { windowNs := now, count := 1 })

theorem rateOk_fst (rate : Dict Addr RateState) (saddr : Addr) (now : UInt64) :
    (rateOk rate saddr now).1 = (rateEntry (rate.lookup saddr) now).1 := by
  unfold rateOk rateEntry
  cases rate.lookup saddr with
  | none => rfl
  | some s => dsimp only; split_ifs <;> rfl

/-- A call writes the entry of its source and no other. -/
theorem lookup_rateOk (rate : Dict Addr RateState) (saddr k : Addr) (now : UInt64) :
    (rateOk rate saddr now).2.lookup k =
      if k = saddr then (rateEntry (rate.lookup saddr) now).2 else rate.lookup k := by
  unfold rateOk rateEntry
  cases hl : rate.lookup saddr with
  | none => exact Dict.lookup_insert_eq _ _ _ _
  | some s =>
      dsimp only
      split
      · split
        · by_cases hk : k = saddr
          · rw [if_pos hk, hk, hl]
          · rw [if_neg hk]
        · exact Dict.lookup_insert_eq _ _ _ _
      · exact Dict.lookup_insert_eq _ _ _ _

/-! ## Runs of the limiter -/

/-- A call: its source and the time it reads. -/
abbrev RateCall := Addr × UInt64

def rateStep (rate : Dict Addr RateState) (c : RateCall) : Dict Addr RateState :=
  (rateOk rate c.1 c.2).2

/-- The time and the answer of a call, if it is for `src`. -/
def rateAnswer (src : Addr) (rate : Dict Addr RateState) (c : RateCall) : Option (UInt64 × Bool) :=
  if c.1 = src then some (c.2, (rateOk rate c.1 c.2).1) else none

/-- The times and answers of the calls for `src` in a run from an empty
map. -/
def rateResults (src : Addr) (calls : List RateCall) : List (UInt64 × Bool) :=
  record rateStep (rateAnswer src) ∅ calls

/-- The times of the calls that were answered with `true`. -/
def acceptedTimes (results : List (UInt64 × Bool)) : List UInt64 :=
  (results.filter Prod.snd).map Prod.fst

/-- The times of the calls for `src`. -/
def ownTimes (src : Addr) (calls : List RateCall) : List UInt64 :=
  (calls.filter fun c => c.1 = src).map Prod.snd

def entryStep (entry : Option RateState) (now : UInt64) : Option RateState := (rateEntry entry now).2

def entryAnswer (entry : Option RateState) (now : UInt64) : UInt64 × Bool :=
  (now, (rateEntry entry now).1)

theorem ownTimes_cons (src : Addr) (c : RateCall) (calls : List RateCall) :
    ownTimes src (c :: calls) = if c.1 = src then c.2 :: ownTimes src calls else ownTimes src calls := by
  unfold ownTimes
  by_cases hc : c.1 = src
  · rw [List.filter_cons_of_pos (by simp [hc]), if_pos hc, List.map_cons]
  · rw [List.filter_cons_of_neg (by simp [hc]), if_neg hc]

/-- The entry of a source follows the calls of that source. -/
theorem lookup_run_rateStep (src : Addr) (rate : Dict Addr RateState) (calls : List RateCall) :
    (run rateStep rate calls).lookup src =
      run entryStep (rate.lookup src) (ownTimes src calls) := by
  induction calls generalizing rate with
  | nil => rfl
  | cons c calls ih =>
      rw [run_cons, ih, ownTimes_cons, rateStep, lookup_rateOk]
      by_cases hc : c.1 = src
      · rw [if_pos hc, if_pos hc.symm, run_cons, hc]
        rfl
      · rw [if_neg hc, if_neg fun h => hc h.symm]

/-- **Independence**: what a source is answered is decided by the times of its
own calls. -/
theorem rateResults_eq (src : Addr) (calls : List RateCall) :
    rateResults src calls = outputs entryStep entryAnswer none (ownTimes src calls) := by
  have h : ∀ (calls : List RateCall) (rate : Dict Addr RateState),
      record rateStep (rateAnswer src) rate calls =
        outputs entryStep entryAnswer (rate.lookup src) (ownTimes src calls) := by
    intro calls
    induction calls with
    | nil => intro rate; rfl
    | cons c calls ih =>
        intro rate
        rw [record_cons, ih, ownTimes_cons, rateStep, lookup_rateOk, rateAnswer]
        by_cases hc : c.1 = src
        · rw [if_pos hc, if_pos hc, if_pos hc.symm, outputs_cons, rateOk_fst, hc]
          rfl
        · rw [if_neg hc, if_neg hc, if_neg fun h => hc h.symm]
          rfl
  exact h calls ∅

/-! ## The entry is a fixed-window counter -/

/-- What an entry says in natural numbers. -/
def RateState.window (s : RateState) : FixedWindow.State := ⟨s.windowNs.toNat, s.count.toNat⟩

/-- On a time not before its window an entry does what the counter does. -/
theorem rateEntry_hit {entry : Option RateState} {now : UInt64}
    (hle : ∀ s, entry = some s → s.windowNs ≤ now) :
    (rateEntry entry now).1 =
        (FixedWindow.hit rateWindowNs.toNat rateLimit.toNat (entry.map RateState.window) now.toNat).1 ∧
      (rateEntry entry now).2.map RateState.window =
        (FixedWindow.hit rateWindowNs.toNat rateLimit.toNat (entry.map RateState.window) now.toNat).2 := by
  cases entry with
  | none => exact ⟨rfl, rfl⟩
  | some s =>
      have hsub : (now - s.windowNs < rateWindowNs) ↔
          now.toNat - s.windowNs.toNat < rateWindowNs.toNat := by
        rw [UInt64.lt_iff_toNat_lt, UInt64.toNat_sub_of_le _ _ (hle s rfl)]
      have hfull : s.count ≥ rateLimit ↔ rateLimit.toNat ≤ s.count.toNat := UInt32.le_iff_toNat_le
      simp only [rateEntry, FixedWindow.hit, Option.map_some, RateState.window, ← hsub, ← hfull]
      split
      · split
        · exact ⟨rfl, rfl⟩
        · next hroom =>
            -- below the limit the count cannot wrap
            have hlt : s.count.toNat < 10 := by
              rw [hfull] at hroom
              exact Nat.not_le.mp hroom
            have hsucc : (s.count + 1).toNat = s.count.toNat + 1 := by
              rw [UInt32.toNat_add, UInt32.toNat_one]
              omega
            simp [RateState.window, hsucc]
      · exact ⟨rfl, rfl⟩

/-- An entry that agrees with the counter opened its window with one of the
calls. -/
theorem windowNs_mem {ts : List UInt64} (hts : ts.Pairwise (· ≤ ·)) {s : RateState}
    (h : some s.window =
      run (FixedWindow.step rateWindowNs.toNat rateLimit.toNat) none (ts.map UInt64.toNat)) :
    s.windowNs ∈ ts := by
  have hsorted : (ts.map UInt64.toNat).Pairwise (· ≤ ·) :=
    List.pairwise_map.mpr (hts.imp UInt64.le_iff_toNat_le.mp)
  obtain ⟨u, hu, heq⟩ := List.mem_map.mp ((FixedWindow.laid_run _ hsorted).2 s.window h.symm)
  rw [← UInt64.toNat_inj.mp heq]
  exact hu

/-- **Refinement**: over non-decreasing times the entry is the counter, and it
accepts the hits the counter takes. -/
theorem entry_refines (ts : List UInt64) :
    ts.Pairwise (· ≤ ·) →
      (run entryStep none ts).map RateState.window =
        run (FixedWindow.step rateWindowNs.toNat rateLimit.toNat) none (ts.map UInt64.toNat) ∧
      (acceptedTimes (outputs entryStep entryAnswer none ts)).map UInt64.toNat =
        FixedWindow.taken rateWindowNs.toNat rateLimit.toNat (ts.map UInt64.toNat) := by
  refine run_history entryStep (I := fun ts entry => ts.Pairwise (· ≤ ·) →
    entry.map RateState.window =
        run (FixedWindow.step rateWindowNs.toNat rateLimit.toNat) none (ts.map UInt64.toNat) ∧
      (acceptedTimes (outputs entryStep entryAnswer none ts)).map UInt64.toNat =
        FixedWindow.taken rateWindowNs.toNat rateLimit.toNat (ts.map UInt64.toNat))
    (fun _ => ⟨rfl, rfl⟩) ?_ ts
  intro ts t ih hsorted
  obtain ⟨hts, -, hlast⟩ := List.pairwise_append.mp hsorted
  obtain ⟨hstate, htaken⟩ := ih hts
  have hle : ∀ s, run entryStep none ts = some s → s.windowNs ≤ t := by
    intro s hs
    rw [hs] at hstate
    exact hlast _ (windowNs_mem hts hstate) t List.mem_cons_self
  obtain ⟨hanswer, hnext⟩ := rateEntry_hit hle
  rw [hstate] at hanswer hnext
  refine ⟨?_, ?_⟩
  · rw [List.map_append, run_append, entryStep, hnext]
    rfl
  · rw [outputs_append, acceptedTimes, List.filter_append, List.map_append, List.map_append,
      List.map_append, ← acceptedTimes, htaken, FixedWindow.taken, FixedWindow.taken, List.map_singleton,
      record_concat]
    congr 1
    rw [FixedWindow.took, ← hanswer]
    cases hok : (rateEntry (run entryStep none ts) t).1 with
    | false => simp [entryAnswer, hok]
    | true => simp [entryAnswer, hok]

theorem acceptedTimes_subset (ts : List UInt64) :
    ∀ u ∈ acceptedTimes (outputs entryStep entryAnswer none ts), u ∈ ts := by
  have hfst : ∀ (ts : List UInt64) (entry : Option RateState),
      (outputs entryStep entryAnswer entry ts).map Prod.fst = ts := by
    intro ts
    induction ts with
    | nil => intro entry; rfl
    | cons t ts ih => intro entry; rw [outputs_cons, List.map_cons, ih, entryAnswer]
  intro u hu
  obtain ⟨r, hr, rfl⟩ := List.mem_map.mp hu
  have hmem := List.mem_map_of_mem (f := Prod.fst) (List.mem_of_mem_filter hr)
  rw [hfst] at hmem
  exact hmem

/-! ## The limits -/

/-- The times of a run of calls do not decrease. -/
def CallsInOrder (calls : List RateCall) : Prop := calls.Pairwise fun c c' => c.2 ≤ c'.2

theorem ownTimes_sorted {calls : List RateCall} (h : CallsInOrder calls) (src : Addr) :
    (ownTimes src calls).Pairwise (· ≤ ·) :=
  List.pairwise_map.mpr (h.filter _)

/-- The accepted times of a source lie in windows. -/
theorem laid_acceptedTimes {calls : List RateCall} (h : CallsInOrder calls) (src : Addr) :
    FixedWindow.Laid rateWindowNs.toNat rateLimit.toNat
      ((acceptedTimes (rateResults src calls)).map UInt64.toNat)
      (((run rateStep ∅ calls).lookup src).map RateState.window) := by
  obtain ⟨hstate, htaken⟩ := entry_refines _ (ownTimes_sorted h src)
  have hsorted : ((ownTimes src calls).map UInt64.toNat).Pairwise (· ≤ ·) :=
    List.pairwise_map.mpr ((ownTimes_sorted h src).imp UInt64.le_iff_toNat_le.mp)
  rw [rateResults_eq, htaken, lookup_run_rateStep, Finmap.lookup_empty, hstate]
  exact (FixedWindow.laid_run _ hsorted).1

/-- The entry of a source names the accepted call that opened its window and
counts the accepted calls since. -/
theorem acceptedTimes_of_entry {calls : List RateCall} (h : CallsInOrder calls) {src : Addr}
    {s : RateState} (hlookup : (run rateStep ∅ calls).lookup src = some s) :
    s.windowNs ∈ acceptedTimes (rateResults src calls) ∧
      ((acceptedTimes (rateResults src calls)).filter fun u => s.windowNs ≤ u).length =
        s.count.toNat := by
  have hlaid := laid_acceptedTimes h src
  rw [hlookup] at hlaid
  obtain ⟨hcount, hmem, -⟩ := hlaid.count_eq (by decide)
  refine ⟨?_, ?_⟩
  · obtain ⟨u, hu, heq⟩ := List.mem_map.mp hmem
    have hopened : u = s.windowNs := UInt64.toNat_inj.mp heq
    rw [← hopened]
    exact hu
  · rw [List.filter_map, List.length_map] at hcount
    have hfilter : (acceptedTimes (rateResults src calls)).filter (fun u => s.windowNs ≤ u) =
        (acceptedTimes (rateResults src calls)).filter
          ((fun u => decide (s.windowNs.toNat ≤ u)) ∘ UInt64.toNat) := by
      refine List.filter_congr fun u _ => ?_
      simp only [Function.comp_apply, UInt64.le_iff_toNat_le]
    rw [hfilter]
    exact hcount

/-- A refused call finds the window of its source open and full. -/
theorem refused_full {before : List RateCall} {src : Addr} {t : UInt64}
    (h : CallsInOrder (before ++ [(src, t)])) (hno : (rateOk (run rateStep ∅ before) src t).1 = false) :
    ∃ opened, (run rateStep ∅ before).lookup src = some ⟨opened, rateLimit⟩ ∧ opened ≤ t ∧
      t.toNat < opened.toNat + rateWindowNs.toNat := by
  obtain ⟨hbefore, -, hlast⟩ := List.pairwise_append.mp h
  have hlaid := laid_acceptedTimes hbefore src
  obtain ⟨hstate, -⟩ := entry_refines _ (ownTimes_sorted hbefore src)
  have hlookup := lookup_run_rateStep src ∅ before
  rw [Finmap.lookup_empty] at hlookup
  have hle : ∀ s, (run rateStep ∅ before).lookup src = some s → s.windowNs ≤ t := by
    intro s hs
    rw [← hlookup, hs] at hstate
    obtain ⟨c, hc, hu⟩ := List.mem_map.mp (windowNs_mem (ownTimes_sorted hbefore src) hstate)
    rw [← hu]
    exact hlast c (List.mem_of_mem_filter hc) (src, t) List.mem_cons_self
  rw [rateOk_fst, (rateEntry_hit hle).1] at hno
  obtain ⟨w, hw, hin, hfull⟩ := FixedWindow.hit_eq_false_iff.mp hno
  obtain ⟨s, hs, rfl⟩ := Option.map_eq_some_iff.mp hw
  rw [hw] at hlaid
  have hmax := hlaid.count_le (by decide)
  have hcount : s.count = rateLimit := UInt32.toNat_inj.mp (Nat.le_antisymm hmax hfull)
  have hopened := hle s hs
  refine ⟨s.windowNs, by rw [hs, ← hcount], hopened, ?_⟩
  have hnat := UInt64.le_iff_toNat_le.mp hopened
  simp only [RateState.window] at hin
  omega

/-- **The limiter**: in every interval of one window's length a source is let
through at most `2 * RATE_LIMIT - 1` times; it is refused only when the window
that is open has let it through exactly `RATE_LIMIT` times, all of them less
than a window ago; and other sources make no difference to it. -/
theorem rateOk_limits (src : Addr) (calls : List RateCall) (horder : CallsInOrder calls) :
    (∀ x : Nat, ((acceptedTimes (rateResults src calls)).countP fun t =>
      x ≤ t.toNat ∧ t.toNat < x + rateWindowNs.toNat) ≤ 2 * rateLimit.toNat - 1) ∧
    (∀ before t after, calls = before ++ (src, t) :: after →
      (rateOk (run rateStep ∅ before) src t).1 = false →
      ∃ opened, (run rateStep ∅ before).lookup src = some ⟨opened, rateLimit⟩ ∧
        opened ∈ acceptedTimes (rateResults src before) ∧
        ((acceptedTimes (rateResults src before)).filter fun u => opened ≤ u).length =
          rateLimit.toNat ∧
        ∀ u ∈ acceptedTimes (rateResults src before), opened ≤ u →
          t.toNat < u.toNat + rateWindowNs.toNat ∧ u ≤ t) ∧
    (∀ calls', ownTimes src calls' = ownTimes src calls →
      rateResults src calls' = rateResults src calls) := by
  refine ⟨?_, ?_, ?_⟩
  · intro x
    have hbound := ((laid_acceptedTimes horder src).countFrom_le (by decide) (by decide) x).1
    rw [FixedWindow.countFrom, List.countP_map] at hbound
    exact hbound
  · intro before t after hcalls hno
    have hinit : CallsInOrder (before ++ [(src, t)]) := by
      rw [hcalls] at horder
      exact horder.sublist (by simp)
    obtain ⟨hbefore, -, hlast⟩ := List.pairwise_append.mp hinit
    obtain ⟨opened, hlookup, hle, hlt⟩ := refused_full hinit hno
    obtain ⟨hmem, hcount⟩ := acceptedTimes_of_entry hbefore hlookup
    refine ⟨opened, hlookup, hmem, hcount, ?_⟩
    intro u hu hou
    rw [rateResults_eq] at hu
    obtain ⟨c, hc, hcu⟩ := List.mem_map.mp (acceptedTimes_subset _ u hu)
    have hnat := UInt64.le_iff_toNat_le.mp hou
    refine ⟨by omega, ?_⟩
    rw [← hcu]
    exact hlast c (List.mem_of_mem_filter hc) (src, t) List.mem_cons_self
  · intro calls' hown
    rw [rateResults_eq, rateResults_eq, hown]

/-- One knock, nine more just before its window runs out, ten just after. -/
def straddle : List RateCall :=
  (beArr 16 1, 0) :: (List.replicate 9 (beArr 16 1, 999999999) ++
    List.replicate 10 (beArr 16 1, 1000000000))

/-- The sliding bound is reached: all but the first of the straddling knocks
are let through within one window's length of each other. -/
theorem rateOk_limits_straddle :
    CallsInOrder straddle ∧
      ((acceptedTimes (rateResults (beArr 16 1) straddle)).countP fun t =>
        1 ≤ t.toNat ∧ t.toNat < 1 + rateWindowNs.toNat) = 2 * rateLimit.toNat - 1 := by
  have horder : CallsInOrder straddle := by
    simp [CallsInOrder, straddle]
  have hbound := (rateOk_limits (beArr 16 1) straddle horder).1 1
  refine ⟨horder, Nat.le_antisymm hbound ?_⟩
  rw [rateResults_eq]
  decide

end SpaDevice
