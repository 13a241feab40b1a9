import SpaDevice.Daemon

/-!
# SpaDevice.Swap

One application of a bundle against the lookups of the knock loop.  The client
map and the token map sit behind two locks; `watch_bundle` writes one after the
other, and a lookup reads one after the other, so a lookup may see the clients
of one policy and the tokens of the other.

Every lock-guarded section is one atomic step.  The knock loop handles one knock
at a time, so at most one lookup is between its two sections.  An application
looks like a single swap, whatever the interleaving, exactly when it leaves the
client map as it was, or leaves the token of every thumbprint as it was that is
not a client under both policies (`single_swap_iff`).
-/

namespace SpaDevice

/-! ## The sections of a lookup -/

namespace SharedTrust

/-- The first section of `lookup`: the clients. -/
def readClients (t : SharedTrust) (thumbprint : Thumbprint) : Option ClientPolicy :=
  (t.clients.lookup thumbprint).map fun e =>
    { publicKey := e.1, suite := t.suite, allowedPorts := e.2, auth := .signature,
      singleUse := false }

/-- The second section of `lookup`: the tokens. -/
def readTokens (t : SharedTrust) (thumbprint : Thumbprint) : Option ClientPolicy :=
  (t.tokens.lookup thumbprint).map fun e =>
    { publicKey := e.1, suite := t.suite, allowedPorts := e.2, auth := .psk, singleUse := true }

/-- `lookup` is its two sections, on one state of the store. -/
theorem lookup_eq_or (t : SharedTrust) (x : Thumbprint) :
    t.lookup x = (t.readClients x).or (t.readTokens x) := by
  unfold lookup readClients readTokens
  cases t.clients.lookup x with
  | some e => rfl
  | none =>
      cases t.tokens.lookup x with
      | some e => rfl
      | none => rfl

/-- A client that is found is the answer. -/
theorem lookup_of_readClients {t : SharedTrust} {x : Thumbprint} {r : Option ClientPolicy}
    (h : r = t.readClients x) (hr : r ≠ none) : r = t.lookup x := by
  obtain ⟨policy, hpolicy⟩ := Option.ne_none_iff_exists'.mp hr
  rw [lookup_eq_or, ← h, hpolicy]
  rfl

/-- Where no client is found, the token is the answer. -/
theorem lookup_of_readTokens {t : SharedTrust} {x : Thumbprint} {r : Option ClientPolicy}
    (h : r = t.readTokens x) (hc : t.readClients x = none) : r = t.lookup x := by
  rw [lookup_eq_or, hc, h]
  rfl

/-- The clients section tells different entries apart. -/
theorem readClients_eq_iff {t t' : SharedTrust} (hsuite : t.suite = t'.suite) {x : Thumbprint} :
    t.readClients x = t'.readClients x ↔ t.clients.lookup x = t'.clients.lookup x := by
  unfold readClients
  rw [hsuite]
  refine (Option.map_injective ?_).eq_iff
  intro e e' h
  simpa [Prod.ext_iff] using h

/-- The tokens section tells different entries apart. -/
theorem readTokens_eq_iff {t t' : SharedTrust} (hsuite : t.suite = t'.suite) {x : Thumbprint} :
    t.readTokens x = t'.readTokens x ↔ t.tokens.lookup x = t'.tokens.lookup x := by
  unfold readTokens
  rw [hsuite]
  refine (Option.map_injective ?_).eq_iff
  intro e e' h
  simpa [Prod.ext_iff] using h

/-- No token is taken for a client. -/
theorem readClients_ne_readTokens {t t' : SharedTrust} {x : Thumbprint}
    (h : t.readClients x ≠ none) : t.readClients x ≠ t'.readTokens x := by
  intro heq
  unfold readClients readTokens at heq
  unfold readClients at h
  cases hc : t.clients.lookup x <;> cases hc' : t'.tokens.lookup x <;> simp_all

/-- Stores whose clients answer differently answer differently. -/
theorem lookup_ne_of_readClients_ne {t t' : SharedTrust} {x : Thumbprint}
    (h : t.readClients x ≠ t'.readClients x) : t.lookup x ≠ t'.lookup x := by
  rw [lookup_eq_or, lookup_eq_or]
  cases hc : t.readClients x with
  | none =>
      have hc' : t'.readClients x ≠ none := by
        rw [hc] at h
        exact h.symm
      obtain ⟨policy, hpolicy⟩ := Option.ne_none_iff_exists'.mp hc'
      rw [hpolicy, Option.none_or, Option.some_or, ← hpolicy]
      exact (readClients_ne_readTokens hc').symm
  | some policy =>
      rw [Option.some_or, ← hc]
      cases hc' : t'.readClients x with
      | none => exact readClients_ne_readTokens (hc ▸ Option.some_ne_none policy)
      | some policy' =>
          rw [Option.some_or, ← hc']
          exact h

end SharedTrust

/-! ## The interleaving -/

/-- How far the application has come. -/
inductive SwapPhase where
  | before
  | clientsWritten
  | done
deriving DecidableEq

/-- The store, the progress of the application, and the thumbprint of the lookup
that has read the clients without finding it. -/
structure SwapState where
  trust : SharedTrust
  phase : SwapPhase
  pending : Option Thumbprint

/-- The next lock-guarded section: of the application, or of the knock loop. -/
inductive SwapEvent where
  | write
  | readClients (thumbprint : Thumbprint)
  | readTokens
deriving DecidableEq

/-- The store in each phase of the application of `b` to `old`. -/
def trustAt (old : SharedTrust) (b : Bundle) : SwapPhase → SharedTrust
  | .before => old
  | .clientsWritten => old.set b.clients
  | .done => (old.set b.clients).setTokens b.tokens

namespace SwapState

def start (old : SharedTrust) : SwapState := ⟨old, .before, none⟩

/-- One section.  A lookup that finds its client ends with the first section; a
section whose turn it is not is no step. -/
def step (b : Bundle) (s : SwapState) : SwapEvent → SwapState
  | .write =>
      match s.phase with
      | .before => { s with trust := s.trust.set b.clients, phase := .clientsWritten }
      | .clientsWritten => { s with trust := s.trust.setTokens b.tokens, phase := .done }
      | .done => s
  | .readClients x =>
      match s.pending, s.trust.readClients x with
      | none, none => { s with pending := some x }
      | _, _ => s
  | .readTokens => { s with pending := none }

/-- What a section other than a write can do: nothing, leave a lookup between its
sections, or end one. -/
theorem step_cases (b : Bundle) (s : SwapState) (e : SwapEvent) :
    e = .write ∨ s.step b e = s ∨
      (∃ x, s.trust.readClients x = none ∧ s.step b e = { s with pending := some x }) ∨
      s.step b e = { s with pending := none } := by
  cases e with
  | write => exact .inl rfl
  | readClients x =>
      refine .inr ?_
      simp only [step]
      split
      · next hc => exact .inr (.inl ⟨x, hc, rfl⟩)
      · exact .inl rfl
  | readTokens => exact .inr (.inr (.inr rfl))

/-- A write goes on to the next phase and touches no lookup. -/
theorem step_write (b : Bundle) (s : SwapState) :
    (s.step b .write).phase ≠ .before ∧ (s.step b .write).pending = s.pending := by
  obtain ⟨trust, phase, pending⟩ := s
  cases phase with
  | before => exact ⟨by simp [step], rfl⟩
  | clientsWritten => exact ⟨by simp [step], rfl⟩
  | done => exact ⟨by simp [step], rfl⟩

/-- The answer of a lookup that finishes with the section. -/
def answer (s : SwapState) : SwapEvent → Option (Thumbprint × Option ClientPolicy)
  | .write => none
  | .readClients x =>
      match s.pending, s.trust.readClients x with
      | none, some policy => some (x, some policy)
      | _, _ => none
  | .readTokens => s.pending.map fun x => (x, s.trust.readTokens x)

/-- The answers along a run. -/
def answers (b : Bundle) (s : SwapState) (es : List SwapEvent) :
    List (Thumbprint × Option ClientPolicy) :=
  record (step b) answer s es

/-- A lookup that nothing interrupts answers as `lookup`. -/
theorem lookup_alone (b : Bundle) {s : SwapState} (h : s.pending = none) (x : Thumbprint) :
    answers b s [.readClients x, .readTokens] = [(x, s.trust.lookup x)] ∧
      run (step b) s [.readClients x, .readTokens] = s := by
  obtain ⟨trust, phase, pending⟩ := s
  obtain rfl : pending = none := h
  rw [SharedTrust.lookup_eq_or, answers, record_cons, record_cons, record_nil, run_cons, run_cons,
    run_nil]
  cases hc : trust.readClients x with
  | some policy => simp [answer, step, hc]
  | none => simp [answer, step, hc]

end SwapState

/-- The application of `b` to `old` looks like a single swap along the run:
every lookup that finishes before some point answers as `old`, every one that
finishes after it answers as the complete new policy. -/
def SingleSwap (old : SharedTrust) (b : Bundle) (es : List SwapEvent) : Prop :=
  ∃ earlier later, es = earlier ++ later ∧
    (∀ a ∈ SwapState.answers b (.start old) earlier, a.2 = old.lookup a.1) ∧
    ∀ a ∈ SwapState.answers b (run (SwapState.step b) (.start old) earlier) later,
      a.2 = (trustAt old b .done).lookup a.1

/-- What the application leaves is what `reload` leaves. -/
theorem trust_reload {Cr : Type} (d : Daemon Cr) (order : IterOrder UInt16) (b : Bundle) :
    (d.reload order b).gate.keeper.trust = trustAt d.gate.keeper.trust b .done := by
  rw [Daemon.reload_gate]
  rfl

/-! ## What a run can answer -/

/-- The store follows the phase, and a lookup between its sections missed the
clients of the old policy, or those of the new one since they were written. -/
structure Coherent (old : SharedTrust) (b : Bundle) (s : SwapState) : Prop where
  trust : s.trust = trustAt old b s.phase
  pending : ∀ x, s.pending = some x → old.readClients x = none ∨
    s.phase ≠ .before ∧ (trustAt old b .done).readClients x = none

theorem readClients_trustAt (old : SharedTrust) (b : Bundle) {phase : SwapPhase}
    (h : phase ≠ .before) (x : Thumbprint) :
    (trustAt old b phase).readClients x = (trustAt old b .done).readClients x := by
  cases phase with
  | before => contradiction
  | clientsWritten => rfl
  | done => rfl

theorem readTokens_trustAt (old : SharedTrust) (b : Bundle) {phase : SwapPhase}
    (h : phase ≠ .done) (x : Thumbprint) :
    (trustAt old b phase).readTokens x = old.readTokens x := by
  cases phase with
  | before => rfl
  | clientsWritten => rfl
  | done => contradiction

/-- A lookup that has just missed the clients missed those of the phase. -/
theorem missed_of_readClients (old : SharedTrust) (b : Bundle) {phase : SwapPhase} {x : Thumbprint}
    (h : (trustAt old b phase).readClients x = none) :
    old.readClients x = none ∨ phase ≠ .before ∧ (trustAt old b .done).readClients x = none := by
  by_cases hphase : phase = .before
  · rw [hphase] at h
    exact .inl h
  · rw [readClients_trustAt old b hphase] at h
    exact .inr ⟨hphase, h⟩

theorem trust_write {old : SharedTrust} {b : Bundle} {s : SwapState}
    (h : s.trust = trustAt old b s.phase) :
    (s.step b .write).trust = trustAt old b (s.step b .write).phase := by
  obtain ⟨trust, phase, pending⟩ := s
  obtain rfl : trust = trustAt old b phase := h
  cases phase with
  | before => rfl
  | clientsWritten => rfl
  | done => rfl

theorem Coherent.step {old : SharedTrust} {b : Bundle} {s : SwapState} (h : Coherent old b s)
    (e : SwapEvent) : Coherent old b (s.step b e) := by
  rcases SwapState.step_cases b s e with rfl | heq | ⟨x, hc, heq⟩ | heq
  · obtain ⟨hphase, hpending⟩ := SwapState.step_write b s
    refine ⟨trust_write h.trust, fun x hx => ?_⟩
    rw [hpending] at hx
    exact (h.pending x hx).imp_right fun hnew => ⟨hphase, hnew.2⟩
  · rw [heq]
    exact h
  · rw [heq]
    refine ⟨h.trust, fun y hy => ?_⟩
    obtain rfl : x = y := Option.some.inj hy
    rw [h.trust] at hc
    exact missed_of_readClients old b hc
  · rw [heq]
    exact ⟨h.trust, fun x hx => by simp at hx⟩

/-- **What a lookup can answer**: with its first section, the entry of its client
in the phase it is in; with its second, the token of a thumbprint whose client
it missed. -/
theorem answer_cases {old : SharedTrust} {b : Bundle} {s : SwapState} (h : Coherent old b s)
    {e : SwapEvent} {a : Thumbprint × Option ClientPolicy} (ha : s.answer e = some a) :
    (s.pending = none ∧ a.2 ≠ none ∧ a.2 = (trustAt old b s.phase).readClients a.1) ∨
      (s.pending = some a.1 ∧ a.2 = (trustAt old b s.phase).readTokens a.1) := by
  rw [← h.trust]
  cases e with
  | write => contradiction
  | readClients x =>
      unfold SwapState.answer at ha
      dsimp only at ha
      split at ha
      · next hp hc =>
          obtain rfl := Option.some.inj ha
          exact .inl ⟨hp, by simp, hc.symm⟩
      · contradiction
  | readTokens =>
      obtain ⟨x, hx, rfl⟩ := Option.map_eq_some_iff.mp ha
      exact .inr ⟨hx, rfl⟩

/-! ## Where the application is a single swap -/

/-- The rule for a single swap: a property of the state that no section undoes,
such that lookups answer as the old policy until it sets in and as the new one
from then on. -/
theorem singleSwap_of_switch {old : SharedTrust} {b : Bundle} (D : SwapState → Prop)
    (hstable : ∀ s e, Coherent old b s → D s → D (s.step b e))
    (hold : ∀ s e a, Coherent old b s → ¬ D s → s.answer e = some a → a.2 = old.lookup a.1)
    (hnew : ∀ s e a, Coherent old b s → D s → s.answer e = some a →
      a.2 = (trustAt old b .done).lookup a.1) (es : List SwapEvent) : SingleSwap old b es := by
  have hstart : Coherent old b (.start old) := ⟨rfl, fun x hx => by contradiction⟩
  have hcoherent : ∀ s e, Coherent old b s → Coherent old b (s.step b e) := fun s e h => h.step e
  have hstays : ∀ s e, Coherent old b s ∧ D s → Coherent old b (s.step b e) ∧ D (s.step b e) :=
    fun s e h => ⟨h.1.step e, hstable s e h.1 h.2⟩
  obtain ⟨earlier, later, rfl, hearlier, hlater⟩ :=
    exists_switch hstays (.start old) es
  refine ⟨earlier, later, rfl, ?_, ?_⟩
  · refine (hearlier.and (always_of_invariant hcoherent hstart earlier)).forall_record ?_
    rintro s e a ⟨hD, hs⟩ ha
    exact hold s e a hs (fun h => hD ⟨hs, h⟩) ha
  · refine hlater.forall_record ?_
    intro s e a hs ha
    exact hnew s e a hs.1 hs.2 ha

/-- Applications that leave the client map alone swap at the second write. -/
theorem singleSwap_of_clients_eq {old : SharedTrust} {b : Bundle}
    (h : ∀ x, old.readClients x = (trustAt old b .done).readClients x) (es : List SwapEvent) :
    SingleSwap old b es := by
  have hclients : ∀ phase x, (trustAt old b phase).readClients x = old.readClients x := by
    intro phase x
    cases phase with
    | before => rfl
    | clientsWritten => exact (h x).symm
    | done => exact (h x).symm
  have hmissed : ∀ s, Coherent old b s → ∀ x, s.pending = some x → old.readClients x = none := by
    intro s hs x hx
    rcases hs.pending x hx with hold | ⟨-, hnew⟩
    · exact hold
    · rw [h x]
      exact hnew
  refine singleSwap_of_switch (fun s => s.phase = .done) ?_ ?_ ?_ es
  · intro s e _ hs
    cases e with
    | write => simp [SwapState.step, hs]
    | readClients x =>
        simp only [SwapState.step]
        split <;> exact hs
    | readTokens => exact hs
  · intro s e a hs hphase ha
    rcases answer_cases hs ha with ⟨-, hne, heq⟩ | ⟨hp, heq⟩
    · exact SharedTrust.lookup_of_readClients (heq.trans (hclients _ _)) hne
    · exact SharedTrust.lookup_of_readTokens (heq.trans (readTokens_trustAt old b hphase _))
        (hmissed s hs _ hp)
  · intro s e a hs hphase ha
    rcases answer_cases hs ha with ⟨-, hne, heq⟩ | ⟨hp, heq⟩
    · exact SharedTrust.lookup_of_readClients (heq.trans ((hclients _ _).trans (h _))) hne
    · rw [hphase] at heq
      exact SharedTrust.lookup_of_readTokens heq ((h _).symm.trans (hmissed s hs _ hp))

/-- The new clients are written, and the lookup between its sections, if there is
one, has missed them. -/
def Switched (old : SharedTrust) (b : Bundle) (s : SwapState) : Prop :=
  s.phase ≠ .before ∧ ∀ x, s.pending = some x → (trustAt old b .done).readClients x = none

theorem Switched.step {old : SharedTrust} {b : Bundle} {s : SwapState} (hs : Coherent old b s)
    (h : Switched old b s) (e : SwapEvent) : Switched old b (s.step b e) := by
  obtain ⟨hphase, hmissed⟩ := h
  rcases SwapState.step_cases b s e with rfl | heq | ⟨x, hc, heq⟩ | heq
  · obtain ⟨hphase', hpending⟩ := SwapState.step_write b s
    exact ⟨hphase', fun x hx => hmissed x (hpending ▸ hx)⟩
  · rw [heq]
    exact ⟨hphase, hmissed⟩
  · rw [heq]
    refine ⟨hphase, fun y hy => ?_⟩
    obtain rfl : x = y := Option.some.inj hy
    rw [hs.trust, readClients_trustAt old b hphase] at hc
    exact hc
  · rw [heq]
    exact ⟨hphase, fun x hx => by simp at hx⟩

/-- Before that point a lookup between its sections has missed the old clients. -/
theorem missed_of_not_switched {old : SharedTrust} {b : Bundle} {s : SwapState}
    (hs : Coherent old b s) (h : ¬ Switched old b s) {x : Thumbprint} (hx : s.pending = some x) :
    old.readClients x = none := by
  rcases hs.pending x hx with hold | ⟨hphase, hnew⟩
  · exact hold
  · refine absurd ⟨hphase, fun y hy => ?_⟩ h
    obtain rfl : x = y := Option.some.inj (hx.symm.trans hy)
    exact hnew

/-- Applications that leave the token of everyone alone who is not a client under
both policies swap when the lookup that the first write may have interrupted has
finished. -/
theorem singleSwap_of_tokens_eq {old : SharedTrust} {b : Bundle}
    (h : ∀ x, old.readClients x = none ∨ (trustAt old b .done).readClients x = none →
      old.readTokens x = (trustAt old b .done).readTokens x) (es : List SwapEvent) :
    SingleSwap old b es := by
  have htokens : ∀ phase x, old.readClients x = none ∨ (trustAt old b .done).readClients x = none →
      (trustAt old b phase).readTokens x = old.readTokens x := by
    intro phase x hx
    by_cases hphase : phase = .done
    · rw [hphase]
      exact (h x hx).symm
    · exact readTokens_trustAt old b hphase x
  refine singleSwap_of_switch (Switched old b) (fun s e hs h => h.step hs e) ?_ ?_ es
  · intro s e a hs hnot ha
    rcases answer_cases hs ha with ⟨hp, hne, heq⟩ | ⟨hp, heq⟩
    · have hphase : s.phase = .before := by
        by_contra hphase
        exact hnot ⟨hphase, fun x hx => by simp [hp] at hx⟩
      rw [hphase] at heq
      exact SharedTrust.lookup_of_readClients heq hne
    · have hc := missed_of_not_switched hs hnot hp
      exact SharedTrust.lookup_of_readTokens (heq.trans (htokens _ _ (.inl hc))) hc
  · rintro s e a hs ⟨hphase, hmissed⟩ ha
    rcases answer_cases hs ha with ⟨-, hne, heq⟩ | ⟨hp, heq⟩
    · exact SharedTrust.lookup_of_readClients (heq.trans (readClients_trustAt old b hphase _)) hne
    · have hc := hmissed a.1 hp
      exact SharedTrust.lookup_of_readTokens
        (heq.trans ((htokens _ _ (.inr hc)).trans (h _ (.inr hc)))) hc

/-! ## Where it is not -/

/-- A run is no single swap when its first answer is not the old policy's and
some answer is not the new one's. -/
theorem not_singleSwap {old : SharedTrust} {b : Bundle} {es : List SwapEvent}
    {a a' : Thumbprint × Option ClientPolicy} {rest : List (Thumbprint × Option ClientPolicy)}
    (h : SwapState.answers b (.start old) es = a :: rest) (ha : a.2 ≠ old.lookup a.1)
    (hmem : a' ∈ a :: rest) (ha' : a'.2 ≠ (trustAt old b .done).lookup a'.1) :
    ¬ SingleSwap old b es := by
  rintro ⟨earlier, later, rfl, hearlier, hlater⟩
  rw [SwapState.answers, record_append] at h
  change SwapState.answers b _ earlier ++ SwapState.answers b _ later = _ at h
  cases hfirst : SwapState.answers b (.start old) earlier with
  | nil =>
      rw [hfirst, List.nil_append] at h
      exact ha' (hlater a' (h ▸ hmem))
  | cons c cs =>
      rw [hfirst] at h
      obtain ⟨rfl, -⟩ := List.cons.inj h
      exact ha (hearlier c (hfirst ▸ List.mem_cons_self))

/-- The lookups of `j` and `x` between the two writes. -/
def lookupsBetween (j x : Thumbprint) : List SwapEvent :=
  [.write] ++ ([.readClients j, .readTokens] ++ ([.readClients x, .readTokens] ++ [.write]))

theorem answers_lookupsBetween (old : SharedTrust) (b : Bundle) (j x : Thumbprint) :
    SwapState.answers b (.start old) (lookupsBetween j x) =
      [(j, (old.set b.clients).lookup j), (x, (old.set b.clients).lookup x)] := by
  let mid : SwapState := ⟨old.set b.clients, .clientsWritten, none⟩
  obtain ⟨hj, hrunj⟩ := SwapState.lookup_alone b (s := mid) rfl j
  obtain ⟨hx, hrunx⟩ := SwapState.lookup_alone b (s := mid) rfl x
  have hwrite : run (SwapState.step b) (.start old) [.write] = mid := rfl
  unfold SwapState.answers at hj hx ⊢
  rw [lookupsBetween, record_append, record_append, record_append, hwrite, hrunj, hrunx, hj, hx]
  rfl

/-- The lookup of `x` around both writes. -/
def lookupAround (x : Thumbprint) : List SwapEvent := [.readClients x, .write, .write, .readTokens]

theorem answers_lookupAround {old : SharedTrust} {x : Thumbprint} (h : old.readClients x = none)
    (b : Bundle) : SwapState.answers b (.start old) (lookupAround x) =
      [(x, (trustAt old b .done).readTokens x)] := by
  simp [SwapState.answers, lookupAround, record_cons, SwapState.start, SwapState.answer,
    SwapState.step, h, trustAt]

/-- Two lookups between the writes tell the mixed policy from both. -/
theorem not_singleSwap_lookupsBetween {old : SharedTrust} {b : Bundle} {j x : Thumbprint}
    (hj : old.readClients j ≠ (trustAt old b .done).readClients j)
    (hx : (trustAt old b .done).readClients x = none)
    (htokens : old.readTokens x ≠ (trustAt old b .done).readTokens x) :
    ¬ SingleSwap old b (lookupsBetween j x) := by
  refine not_singleSwap (answers_lookupsBetween old b j x) ?_
    (List.mem_cons_of_mem _ List.mem_cons_self) ?_
  · exact SharedTrust.lookup_ne_of_readClients_ne fun h => hj h.symm
  · rw [SharedTrust.lookup_eq_or, SharedTrust.lookup_eq_or, hx]
    change ((trustAt old b .done).readClients x).or _ ≠ _
    rw [hx]
    exact htokens

/-- A lookup around both writes answers with a token of the new policy for a
client of it. -/
theorem not_singleSwap_lookupAround {old : SharedTrust} {b : Bundle} {x : Thumbprint}
    (hold : old.readClients x = none) (hnew : (trustAt old b .done).readClients x ≠ none)
    (htokens : old.readTokens x ≠ (trustAt old b .done).readTokens x) :
    ¬ SingleSwap old b (lookupAround x) := by
  refine not_singleSwap (answers_lookupAround hold b) ?_ List.mem_cons_self ?_
  · rw [SharedTrust.lookup_eq_or, hold]
    exact htokens.symm
  · obtain ⟨policy, hpolicy⟩ := Option.ne_none_iff_exists'.mp hnew
    rw [SharedTrust.lookup_eq_or, hpolicy]
    change _ ≠ some policy
    rw [← hpolicy]
    exact (SharedTrust.readClients_ne_readTokens hnew).symm

theorem clients_eq_iff (old : SharedTrust) (b : Bundle) (x : Thumbprint) :
    old.readClients x = (trustAt old b .done).readClients x ↔
      old.clients.lookup x = (clientMap b.clients).lookup x := by
  have hsuite : old.suite = (trustAt old b .done).suite := rfl
  exact SharedTrust.readClients_eq_iff hsuite

theorem tokens_eq_iff (old : SharedTrust) (b : Bundle) (x : Thumbprint) :
    old.readTokens x = (trustAt old b .done).readTokens x ↔
      old.tokens.lookup x = (tokenMap b.tokens).lookup x := by
  have hsuite : old.suite = (trustAt old b .done).suite := rfl
  exact SharedTrust.readTokens_eq_iff hsuite

/-- **When an application is a single swap**: for every interleaving with the
knock loop's lookups, exactly when it keeps the client map, or keeps the token of
every thumbprint that is not a client under both policies. -/
theorem single_swap_iff (old : SharedTrust) (b : Bundle) :
    (∀ es : List SwapEvent, es.count .write = 2 → SingleSwap old b es) ↔
      (∀ x, old.clients.lookup x = (clientMap b.clients).lookup x) ∨
        ∀ x, old.clients.lookup x = none ∨ (clientMap b.clients).lookup x = none →
          old.tokens.lookup x = (tokenMap b.tokens).lookup x := by
  let new := trustAt old b .done
  have hold : ∀ x, old.readClients x = none ↔ old.clients.lookup x = none :=
    fun x => Option.map_eq_none_iff
  have hnew : ∀ x, new.readClients x = none ↔ (clientMap b.clients).lookup x = none :=
    fun x => Option.map_eq_none_iff
  simp only [← clients_eq_iff, ← tokens_eq_iff, ← hold, ← hnew]
  constructor
  · intro h
    by_contra hnot
    obtain ⟨⟨j, hj⟩, x, hx, hxt⟩ : (∃ j, old.readClients j ≠ new.readClients j) ∧
        ∃ x, (old.readClients x = none ∨ new.readClients x = none) ∧
          old.readTokens x ≠ new.readTokens x := by
      simpa only [not_or, not_forall, exists_prop] using hnot
    by_cases hxnew : new.readClients x = none
    · exact not_singleSwap_lookupsBetween hj hxnew hxt (h _ rfl)
    · have hxold : old.readClients x = none := hx.resolve_right hxnew
      exact not_singleSwap_lookupAround hxold hxnew hxt (h _ rfl)
  · rintro (hc | ht) es -
    · exact singleSwap_of_clients_eq hc es
    · exact singleSwap_of_tokens_eq ht es

/-- A bundle that registers a client and withdraws the token it enrolled with:
between the writes a lookup finds the client, and one after it the token. -/
theorem enrollment_mixes :
    let old := (SharedTrust.new .modern).setTokens [sampleToken]
    let b : Bundle := ⟨2, [], sampleClients, []⟩
    let es : List SwapEvent := [.write, .readClients (sampleClient 5).thumbprint, .readTokens,
      .readClients sampleToken.tokenId, .readTokens, .write]
    es.count .write = 2 ∧ ¬ SingleSwap old b es := by
  intro old b es
  have hes : es = lookupsBetween (sampleClient 5).thumbprint sampleToken.tokenId := rfl
  rw [hes]
  refine ⟨rfl, ?_⟩
  apply not_singleSwap_lookupsBetween
  · intro h
    have hlookup := (clients_eq_iff old b _).mp h
    change none = (clientMap sampleClients).lookup _ at hlookup
    rw [lookup_sampleClients] at hlookup
    contradiction
  · exact Option.map_eq_none_iff.mpr lookup_sampleToken_clients
  · intro h
    have hlookup := (tokens_eq_iff old b _).mp h
    change (tokenMap [sampleToken]).lookup _ = none at hlookup
    rw [lookup_sampleToken] at hlookup
    contradiction

end SpaDevice
