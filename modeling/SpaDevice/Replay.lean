import SpaDevice.Trace
import SpaDevice.Transparent

/-!
# SpaDevice.Replay

Runs of the decision core with the in-memory replay cache: calls of `admitPacket`
interleaved with any changes of the trust store.

* No two accepted knocks carry the same signing bytes, as long as the monotonic
  clock gains little enough on the wall clock (`opened_signingBytes_nodup`).
* Rejected knocks leave no trace: deleting them from a run changes no other
  decision, no grant and no token (`keptOutputs_of_rejected`).

Both rest on what the cache remembers.  An entry survives every call up to the
end of its window (`lookup_run_of_live`), and an entry that is there was put
there by an accepted knock (`seen_provenance`).
-/

namespace SpaDevice

/-- A call of `admitPacket`, or any change of the trust store between two calls. -/
inductive KeeperEvent (T : Type) where
  | call (clk : Clocks) (packet : List UInt8) (source : IpAddr)
  | retrust (f : T → T)

/-- The instant at which a call reads the replay cache. -/
def KeeperEvent.instant {T : Type} : KeeperEvent T → Option Nat
  | .call clk _ _ => some clk.instant
  | .retrust _ => none

/-- The instants of the calls never decrease. -/
def InstantsMonotone {T : Type} (es : List (KeeperEvent T)) : Prop :=
  (es.filterMap KeeperEvent.instant).Pairwise (· ≤ ·)

namespace Gatekeeper

section

variable {Cr T R G : Type} [Crypto Cr] [TrustStore T] [ReplayGuard R] [GateWriter G]

def step (gk : Gatekeeper Cr T R G) : KeeperEvent T → Gatekeeper Cr T R G
  | .call clk packet source => (gk.admitPacket clk packet source).2
  | .retrust f => { gk with trust := f gk.trust }

/-- What a call answers. -/
def answer (gk : Gatekeeper Cr T R G) : KeeperEvent T → Option Decision
  | .call clk packet source => some (gk.admitPacket clk packet source).1
  | .retrust _ => none

theorem config_crypto_step (gk : Gatekeeper Cr T R G) (e : KeeperEvent T) :
    (gk.step e).config = gk.config ∧ (gk.step e).crypto = gk.crypto := by
  cases e with
  | call clk packet source => exact admitPacket_config_crypto gk clk packet source
  | retrust f => exact ⟨rfl, rfl⟩

theorem config_crypto_run (gk : Gatekeeper Cr T R G) (es : List (KeeperEvent T)) :
    (run step gk es).config = gk.config ∧ (run step gk es).crypto = gk.crypto := by
  refine run_invariant step
    (I := fun gk' => gk'.config = gk.config ∧ gk'.crypto = gk.crypto) ?_ ⟨rfl, rfl⟩
  intro gk' e _ h
  obtain ⟨hc, hcr⟩ := config_crypto_step gk' e
  exact ⟨hc.trans h.1, hcr.trans h.2⟩

/-- An accepted call, with the knock it carried. -/
structure OpenedCall where
  clk : Clocks
  packet : List UInt8
  source : IpAddr
  opened : Opened

/-- The accepted call of an event, if it is one. -/
def openedCall (gk : Gatekeeper Cr T R G) : KeeperEvent T → Option OpenedCall
  | .call clk packet source =>
      (gk.accepted clk packet source).map fun r => ⟨clk, packet, source, r.1⟩
  | .retrust _ => none

/-- An accepted call passed the checks with a fresh nonce. -/
theorem openedCall_eq_some {gk : Gatekeeper Cr T R G} {e : KeeperEvent T} {c : OpenedCall}
    (h : gk.openedCall e = some c) :
    e = .call c.clk c.packet c.source ∧ ∃ policy, gk.Accepts c.clk c.packet c.opened policy ∧
      gk.fresh c.clk c.opened = true ∧ gk.step e = gk.afterOpen c.clk c.source c.opened policy := by
  match e with
  | .call clk packet source =>
      obtain ⟨⟨opened, policy⟩, hr, rfl⟩ := Option.map_eq_some_iff.mp h
      obtain ⟨hacc, hfresh, hcall⟩ := accepted_eq_some hr
      exact ⟨rfl, policy, hacc, hfresh, by rw [step, hcall]⟩

/-- The record misses no call that answers `opened`. -/
theorem openedCall_of_opened {gk : Gatekeeper Cr T R G} {clk : Clocks} {packet : List UInt8}
    {source : IpAddr} {ports : List UInt16} (h : (gk.admitPacket clk packet source).1 = .opened ports) :
    ∃ opened, gk.openedCall (.call clk packet source) = some ⟨clk, packet, source, opened⟩ := by
  obtain ⟨opened, policy, hacc, -⟩ := accepted_of_opened h
  exact ⟨opened, by rw [openedCall, hacc]; rfl⟩

end

/-! ## What the cache remembers -/

section

variable {Cr T G : Type} [Crypto Cr] [TrustStore T] [GateWriter G]

/-- The cache after an event: the nonce of an accepted call, and of the rest
either everything or what is inside the window at the time of the call. -/
theorem seen_step (gk : Gatekeeper Cr T MemReplay G) (e : KeeperEvent T) (k : Nonce) :
    (gk.step e).replay.window = gk.replay.window ∧
      ((∃ c, gk.openedCall e = some c ∧ c.opened.auth.nonce = k ∧
          (gk.step e).replay.seen.lookup k = some c.clk.instant) ∨
        (gk.step e).replay.seen.lookup k = gk.replay.seen.lookup k ∨
        ∃ now, e.instant = some now ∧ (gk.step e).replay.seen.lookup k =
          (gk.replay.seen.lookup k).filter fun t => now - t < gk.replay.window) := by
  cases e with
  | retrust f => exact ⟨rfl, .inr (.inl rfl)⟩
  | call clk packet source =>
      rcases admitPacket_cases gk clk packet source with ⟨reason, -, hr⟩ | ⟨opened, policy, hacc⟩
      · have hsame : gk.step (.call clk packet source) = gk := by rw [step, hr]
        rw [hsame]
        exact ⟨rfl, .inr (.inl rfl)⟩
      · have hcall := admitPacket_of_accepts hacc source
        have hreplay : (gk.step (.call clk packet source)).replay =
            (gk.replay.admitNonce clk.instant opened.auth.nonce).2 := by
          rw [step, hcall]
          split <;> rfl
        rw [hreplay, MemReplay.lookup_admitNonce]
        refine ⟨MemReplay.window_admitNonce _ _ _, ?_⟩
        split
        · next hk =>
            have hfresh : gk.fresh clk opened = true := hk.2
            refine .inl ⟨⟨clk, packet, source, opened⟩, ?_, hk.1.symm, rfl⟩
            rw [openedCall, accepted_of_accepts hacc hfresh]
            rfl
        · exact .inr (.inr ⟨clk.instant, rfl, rfl⟩)

theorem window_run (gk : Gatekeeper Cr T MemReplay G) (es : List (KeeperEvent T)) :
    (run step gk es).replay.window = gk.replay.window := by
  refine run_invariant step (I := fun gk' : Gatekeeper Cr T MemReplay G =>
    gk'.replay.window = gk.replay.window) ?_ rfl
  intro gk' e _ h
  exact (seen_step gk' e (ByteArr.fill nonceLen 0)).1.trans h

/-- Every entry of the cache was put there by an accepted call. -/
theorem seen_provenance {gk : Gatekeeper Cr T MemReplay G} (hg : gk.replay.seen = ∅)
    (es : List (KeeperEvent T)) :
    ∀ k u, (run step gk es).replay.seen.lookup k = some u →
      ∃ c ∈ record step openedCall gk es, c.opened.auth.nonce = k ∧ c.clk.instant = u := by
  refine run_history step (I := fun es (gk' : Gatekeeper Cr T MemReplay G) =>
    ∀ k u, gk'.replay.seen.lookup k = some u →
      ∃ c ∈ record step openedCall gk es, c.opened.auth.nonce = k ∧ c.clk.instant = u) ?_ ?_ es
  · intro k u h
    rw [hg] at h
    contradiction
  · intro es e ih k u h
    rw [record_concat]
    rcases (seen_step (run step gk es) e k).2 with ⟨c, hc, hk, hl⟩ | hl | ⟨now, -, hl⟩
    · refine ⟨c, ?_, hk, Option.some.inj (hl.symm.trans h)⟩
      rw [hc]
      simp
    · rw [hl] at h
      obtain ⟨c, hc, hcc⟩ := ih k u h
      exact ⟨c, List.mem_append_left _ hc, hcc⟩
    · rw [hl] at h
      obtain ⟨c, hc, hcc⟩ := ih k u (Option.mem_filter_iff.mp h).1
      exact ⟨c, List.mem_append_left _ hc, hcc⟩

/-- While an entry is inside the window, no call removes or replaces it. -/
theorem lookup_step_of_live {gk : Gatekeeper Cr T MemReplay G} {e : KeeperEvent T} {k : Nonce}
    {u : Nat} (h : gk.replay.seen.lookup k = some u)
    (hlive : ∀ now, e.instant = some now → now - u < gk.replay.window) :
    (gk.step e).replay.seen.lookup k = some u := by
  rcases (seen_step gk e k).2 with ⟨c, hc, rfl, hl⟩ | hl | ⟨now, hnow, hl⟩
  · -- An accepted call with this nonce would have found the entry.
    obtain ⟨rfl, policy, -, hfresh, -⟩ := openedCall_eq_some hc
    have hnot : ¬ gk.replay.Live c.clk.instant c.opened.auth.nonce :=
      (MemReplay.admitNonce_fst_iff _ _ _).mp hfresh
    exact absurd ⟨u, h, hlive _ rfl⟩ hnot
  · rw [hl, h]
  · rw [hl, h, Option.filter_some, if_pos]
    simpa using hlive now hnow

/-- An entry survives every call up to the end of its window. -/
theorem lookup_run_of_live {gk : Gatekeeper Cr T MemReplay G} {es : List (KeeperEvent T)} {k : Nonce}
    {u : Nat} (h : gk.replay.seen.lookup k = some u)
    (hlive : ∀ now ∈ es.filterMap KeeperEvent.instant, now - u < gk.replay.window) :
    (run step gk es).replay.seen.lookup k = some u := by
  refine (run_invariant step (I := fun gk' : Gatekeeper Cr T MemReplay G =>
    gk'.replay.window = gk.replay.window ∧ gk'.replay.seen.lookup k = some u) ?_ ⟨rfl, h⟩).2
  rintro gk' e he ⟨hw, hl⟩
  refine ⟨(seen_step gk' e k).1.trans hw, lookup_step_of_live hl ?_⟩
  intro now hnow
  rw [hw]
  exact hlive now (List.mem_filterMap.mpr ⟨e, he, hnow⟩)

end

/-! ## No knock is accepted twice -/

section

variable {lib : AwsLc} {T G : Type} [TrustStore T] [GateWriter G]

/-- An accepted call puts its nonce into the cache. -/
theorem lookup_of_openedCall {Cr : Type} [Crypto Cr] {gk : Gatekeeper Cr T MemReplay G}
    {e : KeeperEvent T} {c : OpenedCall} (h : gk.openedCall e = some c) :
    (gk.step e).replay.seen.lookup c.opened.auth.nonce = some c.clk.instant := by
  obtain ⟨-, policy, -, hfresh, hafter⟩ := openedCall_eq_some h
  have hadm : (gk.replay.admitNonce c.clk.instant c.opened.auth.nonce).1 = true := hfresh
  rw [hafter]
  change (gk.replay.admitNonce c.clk.instant c.opened.auth.nonce).2.seen.lookup _ = _
  rw [MemReplay.lookup_admitNonce, if_pos ⟨rfl, hadm⟩]

/-- Two timestamps inside the freshness window of one knock put the two wall
clocks at most twice the skew apart. -/
theorem wall_sub_le {w w' ts skew : UInt64} (h : absDiff w ts ≤ skew) (h' : absDiff w' ts ≤ skew) :
    (w'.toNat : Int) - w.toNat ≤ 2 * skew.toNat := by
  have h1 := toNat_absDiff w ts
  have h2 := toNat_absDiff w' ts
  have hle := UInt64.le_iff_toNat_le.mp h
  have hle' := UInt64.le_iff_toNat_le.mp h'
  split at h1 <;> split at h2 <;> omega

/-- Two calls of a run read the clocks so that the monotonic clock gains less
than the slack `W - 2 * S` on the wall clock from the first to the second. -/
def SlackBetween (window : Nat) (skew : UInt64) (clk clk' : Clocks) : Prop :=
  ((clk'.instant : Int) - clk.instant) - ((clk'.wall.toNat : Int) - clk.wall.toNat) <
    window - 2 * skew.toNat

/-- The clock readings of the calls of a run, in order. -/
def callClocks (es : List (KeeperEvent T)) : List Clocks :=
  es.filterMap fun
    | .call clk _ _ => some clk
    | .retrust _ => none

/-- A nonce accepted earlier in the run is not accepted again inside the
freshness window of one and the same timestamp. -/
theorem openedCall_ne_of_slack {gk : Gatekeeper (GateKeypair lib) T MemReplay G}
    {e e' : KeeperEvent T} {es : List (KeeperEvent T)} {c c' : OpenedCall}
    (hc : gk.openedCall e = some c) (hc' : (run step (gk.step e) es).openedCall e' = some c')
    (hmono : InstantsMonotone (e :: (es ++ [e'])))
    (hslack : SlackBetween gk.replay.window gk.config.skewNanos c.clk c'.clk) :
    c.opened.signingBytes ≠ c'.opened.signingBytes := by
  intro heq
  have hlookup := lookup_of_openedCall hc
  obtain ⟨he, policy, hacc, -, -⟩ := openedCall_eq_some hc
  obtain ⟨he', policy', hacc', hfresh', -⟩ := openedCall_eq_some hc'
  obtain ⟨hcfg, -⟩ := config_crypto_run (gk.step e) es
  obtain ⟨hcfg₀, -⟩ := config_crypto_step gk e
  have hwin₀ : (gk.step e).replay.window = gk.replay.window :=
    (seen_step gk e c.opened.auth.nonce).1
  have hwin := window_run (gk.step e) es
  -- Equal signing bytes mean the same nonce and timestamp.
  have hregion : c.opened.auth.signingRegion = c'.opened.auth.signingRegion := by
    rw [← (GateKeypair.openPacket_signingBytes hacc.openPacket).1,
      ← (GateKeypair.openPacket_signingBytes hacc'.openPacket).1]
    exact heq
  obtain ⟨hnonce, hts, -⟩ := Authorization.signingRegion_inj hregion
  have htime := hacc.timestamp
  have htime' := hacc'.timestamp
  rw [hcfg, hcfg₀, ← hts] at htime'
  have hwall := wall_sub_le htime htime'
  rw [InstantsMonotone, List.filterMap_cons, List.filterMap_append, he, he'] at hmono
  have hle : c.clk.instant ≤ c'.clk.instant :=
    (List.pairwise_cons.mp hmono).1 _ (List.mem_append_right _ (List.mem_singleton_self _))
  have hin : c'.clk.instant - c.clk.instant < gk.replay.window := by
    unfold SlackBetween at hslack
    omega
  -- So the first call's entry is still in the cache when the second one asks.
  have hbetween : ∀ now ∈ es.filterMap KeeperEvent.instant,
      now - c.clk.instant < (gk.step e).replay.window := by
    intro now hnow
    have hle : now ≤ c'.clk.instant :=
      (List.pairwise_append.mp (List.pairwise_cons.mp hmono).2).2.2 now hnow _
        (List.mem_singleton_self _)
    rw [hwin₀]
    omega
  have hstill := lookup_run_of_live hlookup hbetween
  have hnot : ¬ (run step (gk.step e) es).replay.Live c'.clk.instant c'.opened.auth.nonce :=
    (MemReplay.admitNonce_fst_iff _ _ _).mp hfresh'
  refine hnot ⟨c.clk.instant, ?_, ?_⟩
  · rw [← hnonce]
    exact hstill
  · rw [hwin, hwin₀]
    exact hin

/-- **Anti-replay**: in every run of calls on any packets from any sources,
interleaved with any changes of the trust store, the accepted calls carry
pairwise different signing bytes and hence pairwise different packets.  The
instants must not decrease, and between any two calls the monotonic clock must
gain less than `W - 2 * S` on the wall clock. -/
theorem opened_signingBytes_nodup (gk : Gatekeeper (GateKeypair lib) T MemReplay G)
    (es : List (KeeperEvent T)) (hmono : InstantsMonotone es)
    (hslack : (callClocks es).Pairwise
      (SlackBetween gk.replay.window gk.config.skewNanos)) :
    ((record step openedCall gk es).map fun c => c.opened.signingBytes).Nodup ∧
      ((record step openedCall gk es).map OpenedCall.packet).Nodup := by
  have hpair : (record step openedCall gk es).Pairwise
      fun c c' => c.opened.signingBytes ≠ c'.opened.signingBytes := by
    refine record_pairwise ?_
    rintro before e mid e' after c c' rfl hc hc'
    obtain ⟨he, -⟩ := openedCall_eq_some hc
    obtain ⟨he', -⟩ := openedCall_eq_some hc'
    refine openedCall_ne_of_slack hc hc' ?_ ?_
    · refine hmono.sublist (List.Sublist.filterMap _ ?_)
      refine List.Sublist.trans ?_ (List.sublist_append_right before _)
      refine List.Sublist.cons_cons e (List.Sublist.append_left ?_ mid)
      exact List.Sublist.cons_cons e' (List.nil_sublist after)
    · rw [window_run, (config_crypto_run gk before).1]
      rw [callClocks, List.filterMap_append, List.filterMap_cons, List.filterMap_append,
        List.filterMap_cons, he, he'] at hslack
      exact (List.pairwise_cons.mp (List.pairwise_append.mp hslack).2.1).1 _
        (List.mem_append_right _ List.mem_cons_self)
  refine ⟨List.pairwise_map.mpr hpair, List.pairwise_map.mpr (hpair.imp_of_mem ?_)⟩
  -- One packet always opens to the same signing bytes.
  intro c c' hc hc' hne heq
  refine hne ?_
  obtain ⟨before, e, after, -, he⟩ := mem_record_iff.mp hc
  obtain ⟨before', e', after', -, he'⟩ := mem_record_iff.mp hc'
  obtain ⟨-, policy, hacc, -, -⟩ := openedCall_eq_some he
  obtain ⟨-, policy', hacc', -, -⟩ := openedCall_eq_some he'
  have hopen := hacc.openPacket
  have hopen' := hacc'.openPacket
  rw [(config_crypto_run gk before).2, heq] at hopen
  rw [(config_crypto_run gk before').2, hopen] at hopen'
  rw [Except.ok.inj hopen']

/-- The sample client's knock is opened, and neither its replay from another
address at the last instant of its timestamp window nor the next knock repeats
its signing bytes. -/
theorem opened_signingBytes_nodup_sample :
    let last : Clocks := ⟨sampleWall + 2000000000, 2000000000, 2000000000⟩
    let es : List (KeeperEvent SharedTrust) :=
      [.call (sampleClocks 0) (sampleKnock 0) sampleAddr,
        .call last (sampleKnock 0) (.v4 ⟨[198, 51, 100, 7], rfl⟩),
        .call last (sampleKnock 1) sampleAddr]
    (sample.admitPacket (sampleClocks 0) (sampleKnock 0) sampleAddr).1 = .opened [22] ∧
      ((record step openedCall sample es).map fun c => c.opened.signingBytes).Nodup ∧
      ((record step openedCall sample es).map OpenedCall.packet).Nodup := by
  refine ⟨?_, opened_signingBytes_nodup sample _ ?_ ?_⟩
  · obtain ⟨opened, policy, hacc, hports, -⟩ :=
      admitPacket_sampleKnock sample (sampleClocks 0) 0 rfl rfl rfl rfl rfl rfl sampleAddr
    rw [(accepted_eq_some hacc).2.2, hports]
  · simp [InstantsMonotone, KeeperEvent.instant, sampleClocks]
  · simp [callClocks, SlackBetween, sampleClocks, sampleWall, sample, sampleConfig, MemReplay.new]

end

end Gatekeeper

/-! ## Keeping records of the ports' calls -/

/-- The arguments of a call of `GateWriter::open`. -/
structure OpenCall where
  source : IpAddr
  ports : List UInt16
  ttlNanos : UInt64
deriving DecidableEq

/-- A gate writer together with the calls it received. -/
structure RecordedWriter (G : Type) where
  inner : G
  calls : List OpenCall

instance {G : Type} [GateWriter G] : GateWriter (RecordedWriter G) where
  openPorts w now source ports ttlNanos :=
    { inner := GateWriter.openPorts w.inner now source ports ttlNanos
      calls := w.calls ++ [⟨source, ports, ttlNanos⟩] }

/-- A trust store together with the ids it was asked to burn. -/
structure RecordedTrust (T : Type) where
  inner : T
  consumed : List Thumbprint

instance {T : Type} [TrustStore T] : TrustStore (RecordedTrust T) where
  lookup t thumb := TrustStore.lookup t.inner thumb
  consume t thumb :=
    { inner := TrustStore.consume t.inner thumb, consumed := t.consumed ++ [thumb] }

/-- The event on a recorded store: a change of the store leaves the record
alone. -/
def KeeperEvent.recorded {T : Type} : KeeperEvent T → KeeperEvent (RecordedTrust T)
  | .call clk packet source => .call clk packet source
  | .retrust f => .retrust fun t => { t with inner := f t.inner }

@[simp] theorem KeeperEvent.instant_recorded {T : Type} (e : KeeperEvent T) :
    e.recorded.instant = e.instant := by
  cases e <;> rfl

namespace Gatekeeper

section

variable {Cr T R G : Type} [Crypto Cr] [TrustStore T] [ReplayGuard R] [GateWriter G]

/-- The same core on recorded ports, with nothing recorded yet. -/
def recorded (gk : Gatekeeper Cr T R G) : Gatekeeper Cr (RecordedTrust T) R (RecordedWriter G) where
  config := gk.config
  crypto := gk.crypto
  trust := ⟨gk.trust, []⟩
  replay := gk.replay
  gate := ⟨gk.gate, []⟩

/-- The core below the records. -/
def forget (gk : Gatekeeper Cr (RecordedTrust T) R (RecordedWriter G)) : Gatekeeper Cr T R G where
  config := gk.config
  crypto := gk.crypto
  trust := gk.trust.inner
  replay := gk.replay
  gate := gk.gate.inner

/-- Keeping records changes no decision and nothing below the records. -/
theorem forget_step (gk : Gatekeeper Cr (RecordedTrust T) R (RecordedWriter G)) (e : KeeperEvent T) :
    gk.answer e.recorded = gk.forget.answer e ∧
      (gk.step e.recorded).forget = gk.forget.step e := by
  cases e with
  | retrust f => exact ⟨rfl, rfl⟩
  | call clk packet source =>
      simp only [answer, step, KeeperEvent.recorded, Option.some.injEq]
      have hcheck : gk.check clk packet = gk.forget.check clk packet := rfl
      rcases admitPacket_cases_of_check_eq hcheck with ⟨reason, hr⟩ | ⟨opened, policy, hacc, hacc'⟩
      · rw [(hr source).1, (hr source).2]
        exact ⟨rfl, rfl⟩
      · have hfresh : gk.forget.fresh clk opened = gk.fresh clk opened := rfl
        rw [admitPacket_of_accepts hacc, admitPacket_of_accepts hacc', hfresh]
        cases gk.fresh clk opened with
        | false => exact ⟨rfl, rfl⟩
        | true =>
            refine ⟨rfl, ?_⟩
            simp only [if_true, afterOpen, forget]
            split <;> rfl

theorem forget_run (gk : Gatekeeper Cr (RecordedTrust T) R (RecordedWriter G))
    (es : List (KeeperEvent T)) :
    outputs step answer gk (es.map KeeperEvent.recorded) = outputs step answer gk.forget es := by
  induction es generalizing gk with
  | nil => rfl
  | cons e es ih =>
      obtain ⟨hans, hstep⟩ := forget_step gk e
      rw [List.map_cons, outputs_cons, outputs_cons, ih, hans, hstep]

end

/-! ## Rejected knocks leave no trace -/

section

variable {Cr T G : Type}

/-- The two cores differ at most in cache entries that no event of `rest` can
see. -/
structure Agree (rest : List (KeeperEvent T)) (a b : Gatekeeper Cr T MemReplay G) : Prop where
  config : a.config = b.config
  crypto : a.crypto = b.crypto
  trust : a.trust = b.trust
  gate : a.gate = b.gate
  window : a.replay.window = b.replay.window
  live : ∀ now ∈ rest.filterMap KeeperEvent.instant, ∀ nonce,
    a.replay.Live now nonce ↔ b.replay.Live now nonce
  monotone : InstantsMonotone rest

theorem Agree.refl {rest : List (KeeperEvent T)} (h : InstantsMonotone rest)
    (gk : Gatekeeper Cr T MemReplay G) : Agree rest gk gk :=
  ⟨rfl, rfl, rfl, rfl, rfl, fun _ _ _ => Iff.rfl, h⟩

/-- The remaining events see no more than all of them did. -/
theorem Agree.tail {e : KeeperEvent T} {rest : List (KeeperEvent T)}
    {a b : Gatekeeper Cr T MemReplay G} (h : Agree (e :: rest) a b) : Agree rest a b :=
  { h with
    live := fun now hnow => h.live now
      ((List.sublist_cons_self e rest).filterMap KeeperEvent.instant |>.subset hnow)
    monotone := h.monotone.sublist ((List.sublist_cons_self e rest).filterMap _) }

/-- Instants of later calls are not before this one. -/
theorem Agree.instant_le {clk : Clocks} {packet : List UInt8} {source : IpAddr}
    {rest : List (KeeperEvent T)} {a b : Gatekeeper Cr T MemReplay G}
    (h : Agree (.call clk packet source :: rest) a b) {now : Nat}
    (hnow : now ∈ rest.filterMap KeeperEvent.instant) : clk.instant ≤ now :=
  (List.pairwise_cons.mp h.monotone).1 now hnow

theorem Agree.fresh_eq {clk : Clocks} {packet : List UInt8} {source : IpAddr}
    {rest : List (KeeperEvent T)} {a b : Gatekeeper Cr T MemReplay G}
    (h : Agree (.call clk packet source :: rest) a b) (opened : Opened) :
    a.fresh clk opened = b.fresh clk opened := by
  rw [Bool.eq_iff_iff]
  have hlive := h.live clk.instant List.mem_cons_self opened.auth.nonce
  exact (MemReplay.admitNonce_fst_iff _ _ _).trans
    ((not_congr hlive).trans (MemReplay.admitNonce_fst_iff _ _ _).symm)

variable [Crypto Cr] [TrustStore T]

theorem Agree.check_eq {rest : List (KeeperEvent T)} {a b : Gatekeeper Cr T MemReplay G}
    (h : Agree rest a b) (clk : Clocks) (packet : List UInt8) :
    a.check clk packet = b.check clk packet := by
  rw [check, check, h.config, h.crypto, h.trust]

variable [GateWriter G]

/-- A kept event answers the same on both sides, and they still agree. -/
theorem Agree.keep {e : KeeperEvent T} {rest : List (KeeperEvent T)}
    {a b : Gatekeeper Cr T MemReplay G} (h : Agree (e :: rest) a b) :
    a.answer e = b.answer e ∧ Agree rest (a.step e) (b.step e) := by
  cases e with
  | retrust f => exact ⟨rfl, { h.tail with trust := congrArg f h.trust }⟩
  | call clk packet source =>
      simp only [answer, step]
      rcases admitPacket_cases_of_check_eq (h.check_eq clk packet) with
        ⟨reason, hr⟩ | ⟨opened, policy, ha, hb⟩
      · rw [(hr source).1, (hr source).2]
        exact ⟨rfl, h.tail⟩
      · have hfresh := h.fresh_eq opened
        have hlive : ∀ now ∈ rest.filterMap KeeperEvent.instant, ∀ nonce,
            (a.replay.admitNonce clk.instant opened.auth.nonce).2.Live now nonce ↔
              (b.replay.admitNonce clk.instant opened.auth.nonce).2.Live now nonce := by
          intro now hnow nonce
          have hle := h.instant_le hnow
          have hadm : (a.replay.admitNonce clk.instant opened.auth.nonce).1 =
              (b.replay.admitNonce clk.instant opened.auth.nonce).1 := hfresh
          rw [MemReplay.live_admitNonce _ hle, MemReplay.live_admitNonce _ hle, hadm, h.window,
            h.tail.live now hnow nonce]
        have hwindow : (a.replay.admitNonce clk.instant opened.auth.nonce).2.window =
            (b.replay.admitNonce clk.instant opened.auth.nonce).2.window := by
          rw [MemReplay.window_admitNonce, MemReplay.window_admitNonce, h.window]
        rw [admitPacket_of_accepts ha, admitPacket_of_accepts hb, hfresh]
        cases b.fresh clk opened with
        | false => exact ⟨rfl, { h.tail with window := hwindow, live := hlive }⟩
        | true =>
            refine ⟨rfl, { h.tail with window := hwindow, live := hlive, trust := ?_, gate := ?_ }⟩
            · simp only [if_true, afterOpen, h.trust]
            · simp only [if_true, afterOpen, h.gate, h.config]

/-- A rejected call may be left out. -/
theorem Agree.delete {e : KeeperEvent T} {rest : List (KeeperEvent T)}
    {a b : Gatekeeper Cr T MemReplay G} (h : Agree (e :: rest) a b) {reason : Reject}
    (hrej : a.answer e = some (.rejected reason)) : Agree rest (a.step e) b := by
  cases e with
  | retrust f => contradiction
  | call clk packet source =>
      rw [step]
      rcases admitPacket_of_rejected (Option.some.inj hrej) with
        hsame | ⟨opened, policy, -, hstale, hafter⟩
      · rw [hsame]
        exact h.tail
      · rw [hafter]
        have hnot : (a.replay.admitNonce clk.instant opened.auth.nonce).1 = false := hstale
        refine { h.tail with window := ?_, live := fun now hnow nonce => ?_ }
        · exact (MemReplay.window_admitNonce _ _ _).trans h.window
        · rw [← h.tail.live now hnow nonce]
          refine (MemReplay.live_admitNonce a.replay (h.instant_le hnow) opened.auth.nonce
            nonce).trans ?_
          simp [hnot]

/-- Deleting rejected calls changes no other answer, and the trust store and
the gate end up the same. -/
theorem keptOutputs_of_rejected (gk : Gatekeeper Cr T MemReplay G)
    (es : List (KeeperEvent T × Bool)) (hmono : InstantsMonotone (es.map Prod.fst))
    (hdel : DeletesOnly step (fun o => ∃ reason, o = some (.rejected reason)) answer gk es) :
    keptOutputs step answer gk es = outputs step answer gk (keptEvents es) ∧
      Agree [] (run step gk (es.map Prod.fst)) (run step gk (keptEvents es)) := by
  refine keptOutputs_eq step Agree (fun e rest a b h => h.keep) ?_ (Agree.refl hmono gk) hdel
  rintro e rest a b h ⟨reason, hrej⟩
  exact h.delete hrej

end

/-- **Rejected knocks leave no trace**: take any run of calls on a core with
`SharedTrust`, `MemReplay` and any gate writer, interleaved with any changes of
the trust store, and delete any calls that were rejected.  Every remaining call
is answered as before, and the calls of the gate writer and the tokens burned
are the same sequences. -/
theorem rejected_leave_no_trace {Cr G : Type} [Crypto Cr] [GateWriter G]
    (gk : Gatekeeper Cr SharedTrust MemReplay G) (es : List (KeeperEvent SharedTrust × Bool))
    (hmono : InstantsMonotone (es.map Prod.fst))
    (hdel : DeletesOnly step (fun o => ∃ reason, o = some (.rejected reason)) answer gk es) :
    let whole := run step gk.recorded ((es.map Prod.fst).map KeeperEvent.recorded)
    let kept := run step gk.recorded ((keptEvents es).map KeeperEvent.recorded)
    keptOutputs step answer gk es = outputs step answer gk (keptEvents es) ∧
      whole.gate.calls = kept.gate.calls ∧ whole.trust.consumed = kept.trust.consumed := by
  intro whole kept
  refine ⟨(keptOutputs_of_rejected gk es hmono hdel).1, ?_⟩
  -- The same run on recorded ports gets the same answers, so the same calls may go.
  let es' : List (KeeperEvent (RecordedTrust SharedTrust) × Bool) :=
    es.map (Prod.map KeeperEvent.recorded id)
  have hfst : es'.map Prod.fst = (es.map Prod.fst).map KeeperEvent.recorded := by
    simp [es', Function.comp_def]
  have hsnd : es'.map Prod.snd = es.map Prod.snd := by
    simp [es', Function.comp_def]
  have hkept : keptEvents es' = (keptEvents es).map KeeperEvent.recorded := by
    simp [es', keptEvents, List.filter_map, Function.comp_def]
  have hmono' : InstantsMonotone (es'.map Prod.fst) := by
    rw [hfst, InstantsMonotone, List.filterMap_map]
    exact (List.filterMap_congr fun e _ => KeeperEvent.instant_recorded e) ▸ hmono
  have hdel' : DeletesOnly step (fun o => ∃ reason, o = some (.rejected reason)) answer
      gk.recorded es' := by
    rw [DeletesOnly, hfst, hsnd, forget_run]
    exact hdel
  have hagree := (keptOutputs_of_rejected gk.recorded es' hmono' hdel').2
  rw [hfst, hkept] at hagree
  exact ⟨congrArg RecordedWriter.calls hagree.gate, congrArg RecordedTrust.consumed hagree.trust⟩

/-- Deleting a datagram that does not decrypt before a knock of the sample
client. -/
theorem rejected_leave_no_trace_sample :
    let es : List (KeeperEvent SharedTrust × Bool) :=
      [(.call (sampleClocks 0) [] sampleAddr, false),
        (.call (sampleClocks 1) (sampleKnock 0) sampleAddr, true)]
    let whole := run step sample.recorded ((es.map Prod.fst).map KeeperEvent.recorded)
    let kept := run step sample.recorded ((keptEvents es).map KeeperEvent.recorded)
    keptOutputs step answer sample es = outputs step answer sample (keptEvents es) ∧
      whole.gate.calls = kept.gate.calls ∧ whole.trust.consumed = kept.trust.consumed := by
  refine rejected_leave_no_trace sample _ ?_ ?_
  · simp [InstantsMonotone, KeeperEvent.instant, sampleClocks]
  · intro o ho hdel
    rcases List.mem_cons.mp ho with rfl | ho
    · exact ⟨.undecryptable, rfl⟩
    · rw [List.mem_singleton.mp ho] at hdel
      contradiction

end Gatekeeper

end SpaDevice
