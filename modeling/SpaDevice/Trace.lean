import Mathlib.Data.List.Induction
import Mathlib.Data.List.ReduceOption

/-!
# SpaDevice.Trace

Runs of a deterministic machine over a list of events: the state a run ends
in (`run`), what the machine answers on the way (`outputs`, `record`), and what
can be said about the past of a run (`Occurs`).

The two rules the safety proofs use are `run_invariant`, for an invariant of
the state alone, and `run_history`, for an invariant that ties the state to
the events that led to it.  Everything is stated for an arbitrary `step`.
-/

namespace SpaDevice

variable {σ ε ω : Type*} (step : σ → ε → σ)

/-- The state after a list of events. -/
def run (s : σ) (es : List ε) : σ := es.foldl step s

@[simp] theorem run_nil (s : σ) : run step s [] = s := rfl

@[simp] theorem run_cons (s : σ) (e : ε) (es : List ε) :
    run step s (e :: es) = run step (step s e) es := rfl

@[simp] theorem run_append (s : σ) (es es' : List ε) :
    run step s (es ++ es') = run step (run step s es) es' := by
  simp [run]

/-! ## Invariants -/

/-- What every event of a run preserves holds at its end. -/
theorem run_invariant {I : σ → Prop} {s : σ} {es : List ε}
    (hstep : ∀ s, ∀ e ∈ es, I s → I (step s e)) (hs : I s) : I (run step s es) := by
  induction es generalizing s with
  | nil => exact hs
  | cons e es ih =>
      have htail : ∀ s, ∀ e' ∈ es, I s → I (step s e') :=
        fun s e' he' => hstep s e' (List.mem_cons_of_mem e he')
      exact ih htail (hstep s e List.mem_cons_self hs)

/-- An invariant that relates the state to the events so far: it holds of
every run once it holds of the empty one and survives one more event. -/
theorem run_history {I : List ε → σ → Prop} {s : σ} (h0 : I [] s)
    (hstep : ∀ es e, I es (run step s es) → I (es ++ [e]) (step (run step s es) e))
    (es : List ε) : I es (run step s es) := by
  induction es using List.reverseRecOn with
  | nil => exact h0
  | append_singleton es e ih =>
      rw [run_append]
      exact hstep es e ih

/-! ## Answers along a run -/

/-- The answers `out` gives along a run, one for each event. -/
def outputs (out : σ → ε → ω) : σ → List ε → List ω
  | _, [] => []
  | s, e :: es => out s e :: outputs out (step s e) es

@[simp] theorem outputs_nil (out : σ → ε → ω) (s : σ) : outputs step out s [] = [] := rfl

@[simp] theorem outputs_cons (out : σ → ε → ω) (s : σ) (e : ε) (es : List ε) :
    outputs step out s (e :: es) = out s e :: outputs step out (step s e) es := rfl

@[simp] theorem outputs_append (out : σ → ε → ω) (s : σ) (es es' : List ε) :
    outputs step out s (es ++ es') =
      outputs step out s es ++ outputs step out (run step s es) es' := by
  induction es generalizing s with
  | nil => rfl
  | cons e es ih => simp [ih]

/-- The answers that an observation `obs` records along a run; it may skip
events. -/
def record (obs : σ → ε → Option ω) (s : σ) (es : List ε) : List ω :=
  (outputs step obs s es).reduceOption

@[simp] theorem record_nil (obs : σ → ε → Option ω) (s : σ) : record step obs s [] = [] := rfl

theorem record_cons (obs : σ → ε → Option ω) (s : σ) (e : ε) (es : List ε) :
    record step obs s (e :: es) = (obs s e).toList ++ record step obs (step s e) es := by
  unfold record
  rw [outputs_cons]
  cases obs s e with
  | none => rw [List.reduceOption_cons_of_none]; rfl
  | some x => rw [List.reduceOption_cons_of_some]; rfl

theorem record_append (obs : σ → ε → Option ω) (s : σ) (es es' : List ε) :
    record step obs s (es ++ es') =
      record step obs s es ++ record step obs (run step s es) es' := by
  unfold record
  rw [outputs_append, List.reduceOption_append]

theorem record_concat (obs : σ → ε → Option ω) (s : σ) (es : List ε) (e : ε) :
    record step obs s (es ++ [e]) = record step obs s es ++ (obs (run step s es) e).toList := by
  rw [record_append, record_cons, record_nil, List.append_nil]

/-! ## Deleting events -/

/-- The events of a run that are kept: those with the mark `true`. -/
def keptEvents (es : List (ε × Bool)) : List ε := (es.filter Prod.snd).map Prod.fst

/-- The answers to the events of a run that are kept, given by the whole
run. -/
def keptOutputs (out : σ → ε → ω) (s : σ) (es : List (ε × Bool)) : List ω :=
  (((outputs step out s (es.map Prod.fst)).zip (es.map Prod.snd)).filter Prod.snd).map Prod.fst

/-- Every deleted event was answered with `P` in the whole run. -/
def DeletesOnly (P : ω → Prop) (out : σ → ε → ω) (s : σ) (es : List (ε × Bool)) : Prop :=
  ∀ p ∈ (outputs step out s (es.map Prod.fst)).zip (es.map Prod.snd), p.2 = false → P p.1

/-- Events that are always answered with `P` may be deleted. -/
theorem deletesOnly_of_forall {P : ω → Prop} {out : σ → ε → ω} {es : List (ε × Bool)}
    (h : ∀ e, (e, false) ∈ es → ∀ s, P (out s e)) (s : σ) : DeletesOnly step P out s es := by
  induction es generalizing s with
  | nil => exact fun p hp => by contradiction
  | cons q es ih =>
      obtain ⟨e, kept⟩ := q
      intro p hp hfalse
      rcases List.mem_cons.mp hp with rfl | hp
      · obtain rfl : kept = false := hfalse
        exact h e List.mem_cons_self s
      · exact ih (fun e' he' => h e' (List.mem_cons_of_mem _ he')) (step s e) p hp hfalse

/-- The rule for comparing a run with the run that some of its events were
deleted from.  `Rel rest s s'` says that the two states cannot be told apart by
the events `rest` still to come. -/
theorem keptOutputs_eq {P : ω → Prop} {out : σ → ε → ω} (Rel : List ε → σ → σ → Prop)
    (hkeep : ∀ e rest s s', Rel (e :: rest) s s' →
      out s e = out s' e ∧ Rel rest (step s e) (step s' e))
    (hdelete : ∀ e rest s s', Rel (e :: rest) s s' → P (out s e) → Rel rest (step s e) s')
    {es : List (ε × Bool)} {s s' : σ} (h : Rel (es.map Prod.fst) s s')
    (hes : DeletesOnly step P out s es) :
    keptOutputs step out s es = outputs step out s' (keptEvents es) ∧
      Rel [] (run step s (es.map Prod.fst)) (run step s' (keptEvents es)) := by
  induction es generalizing s s' with
  | nil => exact ⟨rfl, h⟩
  | cons p es ih =>
      obtain ⟨e, kept⟩ := p
      have htail : DeletesOnly step P out (step s e) es :=
        fun q hq => hes q (List.mem_cons_of_mem _ hq)
      cases kept with
      | true =>
          obtain ⟨hout, hrel⟩ := hkeep e _ s s' h
          obtain ⟨hio, hend⟩ := ih hrel htail
          refine ⟨?_, hend⟩
          change out s e :: keptOutputs step out (step s e) es =
            out s' e :: outputs step out (step s' e) (keptEvents es)
          rw [hout, hio]
      | false =>
          have hP : P (out s e) := hes (out s e, false) List.mem_cons_self rfl
          exact ih (hdelete e _ s s' h hP) htail

/-! ## The past of a run -/

/-- Some event of the run happened in a state such that `P`. -/
def Occurs (P : σ → ε → Prop) (s : σ) (es : List ε) : Prop :=
  ∃ before e after, es = before ++ e :: after ∧ P (run step s before) e

/-- A property of the positions of a run extended by one event. -/
theorem forall_split_concat {P : List ε → ε → Prop} {es : List ε} {e : ε} :
    (∀ before x after, es ++ [e] = before ++ x :: after → P before x) ↔
      (∀ before x after, es = before ++ x :: after → P before x) ∧ P es e := by
  constructor
  · intro h
    refine ⟨fun before x after heq => ?_, h es e [] rfl⟩
    exact h before x (after ++ [e]) (by rw [heq]; simp)
  · rintro ⟨hes, he⟩ before x after heq
    rcases List.eq_nil_or_concat after with rfl | ⟨after', y, rfl⟩
    · obtain ⟨rfl, hx⟩ := List.append_inj' heq rfl
      rw [← (List.cons.inj hx).1]
      exact he
    · rw [List.concat_eq_append, ← List.cons_append, ← List.append_assoc] at heq
      obtain ⟨rfl, -⟩ := List.append_inj' heq rfl
      exact hes before x after' rfl

/-- Every event of the run happens in a state such that `P`. -/
def Always (P : σ → ε → Prop) (s : σ) (es : List ε) : Prop :=
  ∀ before e after, es = before ++ e :: after → P (run step s before) e

variable {step}

theorem always_nil (P : σ → ε → Prop) (s : σ) : Always step P s [] := by
  intro before e after h
  simp at h

/-- A run always satisfies `P` when its first event does and the rest does. -/
theorem always_cons {P : σ → ε → Prop} {s : σ} {e : ε} {es : List ε} :
    Always step P s (e :: es) ↔ P s e ∧ Always step P (step s e) es := by
  constructor
  · intro h
    refine ⟨h [] e es rfl, ?_⟩
    intro before e' after heq
    exact h (e :: before) e' after (by rw [heq]; rfl)
  · rintro ⟨hP, htail⟩ before e' after heq
    cases before with
    | nil =>
        obtain ⟨rfl, rfl⟩ := List.cons.inj heq
        exact hP
    | cons b before =>
        obtain ⟨rfl, rfl⟩ := List.cons.inj heq
        exact htail before e' after rfl

theorem Always.append_left {P : σ → ε → Prop} {s : σ} {es es' : List ε}
    (h : Always step P s (es ++ es')) : Always step P s es := by
  intro before e after heq
  exact h before e (after ++ es') (by rw [heq]; simp)

theorem Always.append {P : σ → ε → Prop} {s : σ} {es es' : List ε} (h : Always step P s es)
    (h' : Always step P (run step s es) es') : Always step P s (es ++ es') := by
  induction es generalizing s with
  | nil => exact h'
  | cons e es ih =>
      obtain ⟨he, htail⟩ := always_cons.mp h
      exact always_cons.mpr ⟨he, ih htail h'⟩

theorem Always.and {P Q : σ → ε → Prop} {s : σ} {es : List ε} (hP : Always step P s es)
    (hQ : Always step Q s es) : Always step (fun s e => P s e ∧ Q s e) s es :=
  fun before e after heq => ⟨hP before e after heq, hQ before e after heq⟩

/-- An invariant that survives every event that satisfies `P` holds at the end
of a run that always does. -/
theorem Always.invariant {P : σ → ε → Prop} {I : σ → Prop} {s : σ} {es : List ε}
    (h : Always step P s es) (hstep : ∀ s e, I s → P s e → I (step s e)) (hs : I s) :
    I (run step s es) := by
  induction es generalizing s with
  | nil => exact hs
  | cons e es ih =>
      obtain ⟨hP, htail⟩ := always_cons.mp h
      exact ih htail (hstep s e hs hP)

/-- The past of a run stays in its past. -/
theorem Occurs.append {P : σ → ε → Prop} {s : σ} {es : List ε} (h : Occurs step P s es)
    (es' : List ε) : Occurs step P s (es ++ es') := by
  obtain ⟨before, e, after, rfl, hP⟩ := h
  exact ⟨before, e, after ++ es', by simp, hP⟩

/-- What happens last occurs in the run. -/
theorem Occurs.last {P : σ → ε → Prop} {s : σ} {es : List ε} {e : ε}
    (h : P (run step s es) e) : Occurs step P s (es ++ [e]) :=
  ⟨es, e, [], rfl, h⟩

/-- What is recorded was observed at some event. -/
theorem mem_record_iff {obs : σ → ε → Option ω} {s : σ} {es : List ε} {x : ω} :
    x ∈ record step obs s es ↔ Occurs step (fun s e => obs s e = some x) s es := by
  induction es generalizing s with
  | nil =>
      constructor
      · intro h; contradiction
      · rintro ⟨before, e, after, h, -⟩; simp at h
  | cons e es ih =>
      rw [record_cons, List.mem_append, Option.mem_toList, ih]
      constructor
      · rintro (h | ⟨before, e', after, rfl, h⟩)
        · exact ⟨[], e, es, rfl, h⟩
        · exact ⟨e :: before, e', after, rfl, h⟩
      · rintro ⟨before, e', after, heq, h⟩
        cases before with
        | nil =>
            obtain ⟨rfl, rfl⟩ := List.cons.inj heq
            exact .inl h
        | cons b before =>
            obtain ⟨rfl, rfl⟩ := List.cons.inj heq
            exact .inr ⟨before, e', after, rfl, h⟩

/-- A relation between any two observations of a run, the earlier one first. -/
theorem record_pairwise {obs : σ → ε → Option ω} {Rel : ω → ω → Prop} {s : σ} {es : List ε}
    (h : ∀ before e mid e' after x y, es = before ++ e :: (mid ++ e' :: after) →
      obs (run step s before) e = some x →
      obs (run step (step (run step s before) e) mid) e' = some y → Rel x y) :
    (record step obs s es).Pairwise Rel := by
  induction es generalizing s with
  | nil => exact List.Pairwise.nil
  | cons e es ih =>
      rw [record_cons, List.pairwise_append]
      refine ⟨?_, ih ?_, ?_⟩
      · cases obs s e with
        | none => exact List.Pairwise.nil
        | some x => exact List.pairwise_singleton _ _
      · intro before e₁ mid e₂ after x y heq
        exact h (e :: before) e₁ mid e₂ after x y (by rw [heq]; rfl)
      · intro x hx y hy
        obtain ⟨mid, e', after, heq, hy'⟩ := mem_record_iff.mp hy
        exact h [] e mid e' after x y (by rw [heq]; rfl) (Option.mem_toList.mp hx) hy'

/-- What every event that satisfies `P` answers with `Q` is all that a run which
always satisfies `P` records. -/
theorem Always.forall_record {P : σ → ε → Prop} {Q : ω → Prop} {obs : σ → ε → Option ω} {s : σ}
    {es : List ε} (h : Always step P s es) (hQ : ∀ s e x, P s e → obs s e = some x → Q x) :
    ∀ x ∈ record step obs s es, Q x := by
  intro x hx
  obtain ⟨before, e, after, heq, hobs⟩ := mem_record_iff.mp hx
  exact hQ _ e x (h before e after heq) hobs

/-! ## The point at which a property sets in -/

/-- An invariant holds at every event of a run. -/
theorem always_of_invariant {I : σ → Prop} (hstep : ∀ s e, I s → I (step s e)) {s : σ} (hs : I s)
    (es : List ε) : Always step (fun s _ => I s) s es := by
  intro before e after _
  exact run_invariant step (fun s e _ => hstep s e) hs

/-- A property that no event undoes divides every run into a part without it and
a part with it. -/
theorem exists_switch {D : σ → Prop} (hstable : ∀ s e, D s → D (step s e)) (s : σ) (es : List ε) :
    ∃ before after, es = before ++ after ∧ Always step (fun s _ => ¬ D s) s before ∧
      Always step (fun s _ => D s) (run step s before) after := by
  induction es generalizing s with
  | nil => exact ⟨[], [], rfl, always_nil _ _, always_nil _ _⟩
  | cons e es ih =>
      by_cases hD : D s
      · exact ⟨[], e :: es, rfl, always_nil _ _, always_of_invariant hstable hD (e :: es)⟩
      · obtain ⟨before, after, rfl, hbefore, hafter⟩ := ih (step s e)
        exact ⟨e :: before, after, rfl, always_cons.mpr ⟨hD, hbefore⟩, hafter⟩

/-! ## A component that follows the observations -/

section

variable {τ : Type*} (proj : σ → τ) {act : τ → ω → τ} {obs : σ → ε → Option ω}

/-- A component of the state that every event changes as its observation says
runs through the observations of the run. -/
theorem run_record (h : ∀ s e, proj (step s e) = (obs s e).elim (proj s) (act (proj s))) (s : σ)
    (es : List ε) : proj (run step s es) = run act (proj s) (record step obs s es) := by
  induction es generalizing s with
  | nil => rfl
  | cons e es ih =>
      rw [run_cons, ih, record_cons, h]
      cases obs s e with
      | none => rfl
      | some x => rfl

/-- What holds at every observation of the run holds along the component's own
run. -/
theorem Always.of_record {P : τ → ω → Prop}
    (h : ∀ s e, proj (step s e) = (obs s e).elim (proj s) (act (proj s))) {s : σ} {es : List ε}
    (hes : Always step (fun s e => ∀ x, obs s e = some x → P (proj s) x) s es) :
    Always act P (proj s) (record step obs s es) := by
  induction es generalizing s with
  | nil => exact always_nil P (proj s)
  | cons e es ih =>
      obtain ⟨hP, htail⟩ := always_cons.mp hes
      have hrest := ih htail
      rw [h] at hrest
      rw [record_cons]
      cases hx : obs s e with
      | none =>
          rw [hx] at hrest
          exact hrest
      | some x =>
          rw [hx] at hrest
          exact always_cons.mpr ⟨hP x hx, hrest⟩

/-- A component of the state that every event takes through a run of its own goes
through all of them. -/
theorem run_flatten {expand : σ → ε → List ω}
    (h : ∀ s e, proj (step s e) = run act (proj s) (expand s e)) (s : σ) (es : List ε) :
    proj (run step s es) = run act (proj s) (outputs step expand s es).flatten := by
  induction es generalizing s with
  | nil => rfl
  | cons e es ih => simp [ih, h]

end

/-- The rule for a budget: if every event that pays (an observation with `P`) takes
it from the budget, and only events that earn (an observation with `Q`) add to
it, then a run pays at most what it had at first and has earned. -/
theorem countP_record_le {τ : Type*} {obs : σ → ε → Option ω} {earn : σ → ε → Option τ} {P : ω → Bool}
    {Q : τ → Bool} (budget : σ → Nat)
    (h : ∀ s e, (obs s e).toList.countP P + budget (step s e) ≤
      budget s + (earn s e).toList.countP Q) (s : σ) (es : List ε) :
    (record step obs s es).countP P + budget (run step s es) ≤
      budget s + (record step earn s es).countP Q := by
  induction es generalizing s with
  | nil => simp
  | cons e es ih =>
      have hstep := h s e
      have hrest := ih (step s e)
      rw [record_cons, record_cons, List.countP_append, List.countP_append, run_cons]
      omega

/-- What no two observations of a run share occurs at most once among them. -/
theorem count_le_one_of_pairwise {α : Type*} [BEq α] [LawfulBEq α] {a : α} {l : List α}
    (h : l.Pairwise fun x y => ¬ (x = a ∧ y = a)) : l.count a ≤ 1 := by
  induction l with
  | nil => simp
  | cons x l ih =>
      obtain ⟨hx, hl⟩ := List.pairwise_cons.mp h
      by_cases hxa : x = a
      · have hnot : a ∉ l := fun ha => hx a ha ⟨hxa, rfl⟩
        have hzero := List.count_eq_zero.mpr hnot
        rw [hxa, List.count_cons_self]
        omega
      · rw [List.count_cons_of_ne hxa]
        exact ih hl

end SpaDevice
