import SpaDevice.Trace

/-!
# SpaDevice.Window

Fixed-window counters: a window opens with the first hit after the last one
has run out, and takes at most `limit` hits.

`hit` is the counter, over natural-number times.  `Laid` says how the times of
the hits it took lie in its windows; what a counter that is given
non-decreasing times guarantees is derived from that relation alone: at most
`2 * limit - 1` hits in any interval of the window's width, and a refusal only
when the open window is full.
-/

namespace SpaDevice

namespace FixedWindow

/-- The open window and the hits it has taken. -/
structure State where
  opened : Nat
  count : Nat
deriving DecidableEq

variable (width limit : Nat)

/-- One hit at time `t`. -/
def hit (s : Option State) (t : Nat) : Bool × Option State :=
  match s with
  | some w =>
      if t - w.opened < width then
        if limit ≤ w.count then (false, some w) else (true, some ⟨w.opened, w.count + 1⟩)
      else (true, some ⟨t, 1⟩)
  | none => (true, some ⟨t, 1⟩)

/-- The times of the hits taken so far, in order, and the open window: a hit
opens a window once the last one has run out, or it is counted in the open
one. -/
inductive Laid : List Nat → Option State → Prop
  | empty : Laid [] none
  | opens {taken : List Nat} {s : Option State} {t : Nat} (h : Laid taken s)
      (hout : ∀ w, s = some w → w.opened + width ≤ t) : Laid (taken ++ [t]) (some ⟨t, 1⟩)
  | counts {taken : List Nat} {w : State} {t : Nat} (h : Laid taken (some w))
      (hroom : w.count < limit) (hle : w.opened ≤ t) (hin : t < w.opened + width) :
      Laid (taken ++ [t]) (some ⟨w.opened, w.count + 1⟩)

/-- How many of the times lie in the interval of one width from `x`. -/
def countFrom (x : Nat) (ts : List Nat) : Nat := ts.countP fun t => x ≤ t ∧ t < x + width

variable {width limit}

theorem countFrom_concat (x : Nat) (ts : List Nat) (t : Nat) :
    countFrom width x (ts ++ [t]) =
      countFrom width x ts + if x ≤ t ∧ t < x + width then 1 else 0 := by
  simp [countFrom, List.countP_append, List.countP_cons]

/-! ## The windows of the hits taken -/

/-- Before the first hit there is no window. -/
theorem Laid.eq_nil {taken : List Nat} (h : Laid width limit taken none) : taken = [] := by
  cases h
  rfl

/-- No hit lies past the end of the open window. -/
theorem Laid.lt {taken : List Nat} {w : State} (h : Laid width limit taken (some w))
    (hwidth : 0 < width) : ∀ t ∈ taken, t < w.opened + width := by
  generalize hs : some w = s at h
  induction h generalizing w with
  | empty => contradiction
  | @opens taken s t h hout ih =>
      obtain rfl := Option.some.inj hs
      intro u hu
      rcases List.mem_append.mp hu with hu | hu
      · cases s with
        | none => rw [h.eq_nil] at hu; contradiction
        | some w' =>
            have hlt := ih rfl u hu
            have hend := hout w' rfl
            dsimp only
            omega
      · rw [List.mem_singleton.mp hu]
        dsimp only
        omega
  | @counts taken w' t h hroom hle hin ih =>
      obtain rfl := Option.some.inj hs
      intro u hu
      rcases List.mem_append.mp hu with hu | hu
      · exact ih rfl u hu
      · rw [List.mem_singleton.mp hu]
        exact hin

/-- The open window's count is the number of hits since it opened, and a hit
opened it. -/
theorem Laid.count_eq {taken : List Nat} {w : State} (h : Laid width limit taken (some w))
    (hwidth : 0 < width) :
    (taken.filter fun t => w.opened ≤ t).length = w.count ∧ w.opened ∈ taken ∧ 0 < w.count := by
  generalize hs : some w = s at h
  induction h generalizing w with
  | empty => contradiction
  | @opens taken s t h hout ih =>
      obtain rfl := Option.some.inj hs
      have hold : taken.filter (fun u => t ≤ u) = [] := by
        refine List.filter_eq_nil_iff.mpr fun u hu => ?_
        cases s with
        | none => rw [h.eq_nil] at hu; contradiction
        | some w' =>
            have hlt := h.lt hwidth u hu
            have hend := hout w' rfl
            simp only [decide_eq_true_eq]
            omega
      refine ⟨?_, by simp, Nat.one_pos⟩
      rw [List.filter_append, hold]
      simp
  | @counts taken w' t h hroom hle hin ih =>
      obtain rfl := Option.some.inj hs
      obtain ⟨hcount, hmem, -⟩ := ih rfl
      refine ⟨?_, List.mem_append_left _ hmem, Nat.succ_pos _⟩
      rw [List.filter_append, List.length_append, hcount]
      simp [hle]

theorem Laid.count_le {taken : List Nat} {w : State} (h : Laid width limit taken (some w))
    (hlimit : 0 < limit) : w.count ≤ limit := by
  cases h with
  | opens => exact hlimit
  | counts _ hroom => exact hroom

/-- **Sliding bound**, with what the induction needs: when the open window
started before `x` only its later hits count, and when it started inside the
interval at most `limit - 1` hits of the window before it do. -/
theorem Laid.countFrom_le {taken : List Nat} {s : Option State} (h : Laid width limit taken s)
    (hwidth : 0 < width) (hlimit : 0 < limit) (x : Nat) :
    countFrom width x taken ≤ 2 * limit - 1 ∧
      ∀ w, s = some w → (w.opened < x → countFrom width x taken < w.count) ∧
        (w.opened < x + width → countFrom width x taken + 1 ≤ limit + w.count) := by
  induction h with
  | empty => simp [countFrom]
  | @opens taken s t h hout ih =>
      rw [countFrom_concat]
      obtain ⟨hbound, hwin⟩ := ih
      have hnone : t < x → countFrom width x taken = 0 := by
        intro htx
        refine List.countP_eq_zero.mpr fun u hu => ?_
        cases s with
        | none => rw [h.eq_nil] at hu; contradiction
        | some w =>
            have hlt := h.lt hwidth u hu
            have hend := hout w rfl
            simp only [decide_eq_true_eq]
            omega
      have hfew : t < x + width → countFrom width x taken < limit := by
        intro htx
        cases s with
        | none =>
            rw [h.eq_nil]
            exact hlimit
        | some w =>
            have hend := hout w rfl
            have hcount := (hwin w rfl).1 (by omega)
            have hmax := h.count_le hlimit
            omega
      refine ⟨?_, ?_⟩
      · split <;> omega
      · intro w hw
        rw [← Option.some.inj hw]
        dsimp only
        split <;> omega
  | @counts taken w t h hroom hle hin ih =>
      rw [countFrom_concat]
      obtain ⟨hbound, hwin⟩ := ih
      obtain ⟨hbefore, hinside⟩ := hwin w rfl
      refine ⟨?_, ?_⟩
      · split <;> omega
      · intro w' hw'
        rw [← Option.some.inj hw']
        dsimp only
        split <;> omega

/-! ## Runs of the counter -/

variable (width limit)

def step (s : Option State) (t : Nat) : Option State := (hit width limit s t).2

/-- The time of a hit, if it was taken. -/
def took (s : Option State) (t : Nat) : Option Nat :=
  if (hit width limit s t).1 = true then some t else none

/-- The times of the hits taken in a run. -/
def taken (ts : List Nat) : List Nat := record (step width limit) (took width limit) none ts

variable {width limit}

/-- A hit is refused exactly when the open window is full. -/
theorem hit_eq_false_iff {s : Option State} {t : Nat} :
    (hit width limit s t).1 = false ↔
      ∃ w, s = some w ∧ t - w.opened < width ∧ limit ≤ w.count := by
  cases s with
  | none => simp [hit]
  | some w =>
      simp only [hit, Option.some.injEq, exists_eq_left']
      split
      · next hin =>
          split
          · next hfull => simp [hin, hfull]
          · next hroom => simp [hroom]
      · next hout => simp [hout]

/-- A hit at a time not before the open window keeps the layout. -/
theorem Laid.hit {ts : List Nat} {s : Option State} (h : Laid width limit ts s) {t : Nat}
    (hle : ∀ w, s = some w → w.opened ≤ t) :
    Laid width limit (ts ++ (took width limit s t).toList) (step width limit s t) := by
  cases s with
  | none => exact h.opens (by simp)
  | some w =>
      have hopened := hle w rfl
      by_cases hin : t - w.opened < width
      · by_cases hfull : limit ≤ w.count
        · simp only [took, step, FixedWindow.hit, if_pos hin, if_pos hfull]
          rw [if_neg (by simp), Option.toList_none, List.append_nil]
          exact h
        · simp only [took, step, FixedWindow.hit, if_pos hin, if_neg hfull, if_true]
          exact h.counts (by omega) hopened (by omega)
      · simp only [took, step, FixedWindow.hit, if_neg hin, if_true]
        refine h.opens ?_
        intro w' hw'
        rw [← Option.some.inj hw']
        omega

/-- The window that is open after a hit was open before, or opened with it. -/
theorem opened_step {s : Option State} {t : Nat} {w : State} (h : step width limit s t = some w) :
    w.opened = t ∨ ∃ w', s = some w' ∧ w.opened = w'.opened := by
  unfold step hit at h
  split at h
  · next w' =>
      split at h
      · split at h
        · exact .inr ⟨w', rfl, by rw [← Option.some.inj h]⟩
        · exact .inr ⟨w', rfl, by rw [← Option.some.inj h]⟩
      · exact .inl (by rw [← Option.some.inj h])
  · exact .inl (by rw [← Option.some.inj h])

/-- **Runs**: over non-decreasing times the hits taken lie in windows, and the
open one started at some hit. -/
theorem laid_run (ts : List Nat) :
    ts.Pairwise (· ≤ ·) → Laid width limit (taken width limit ts) (run (step width limit) none ts) ∧
      ∀ w, run (step width limit) none ts = some w → w.opened ∈ ts := by
  refine run_history (step width limit) (I := fun ts s => ts.Pairwise (· ≤ ·) →
    Laid width limit (taken width limit ts) s ∧ ∀ w, s = some w → w.opened ∈ ts) ?_ ?_ ts
  · intro _
    exact ⟨.empty, by simp⟩
  · intro es e ih hsorted
    obtain ⟨hes, -, hlast⟩ := List.pairwise_append.mp hsorted
    obtain ⟨hlaid, hmem⟩ := ih hes
    refine ⟨?_, ?_⟩
    · rw [taken, record_concat]
      exact hlaid.hit fun w hw => hlast _ (hmem w hw) e List.mem_cons_self
    · intro w hw
      rcases opened_step hw with heq | ⟨w', hw', heq⟩
      · rw [heq]
        simp
      · rw [heq]
        exact List.mem_append_left _ (hmem w' hw')

end FixedWindow

end SpaDevice
