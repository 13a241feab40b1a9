import SpaDevice.Verdict

/-!
# SpaDevice.Flows

The life of a tracked flow, from the `SYN` that starts it to its last frame.

The kernel program is run on its own here: whatever the daemon does shows only
as a write to `ALLOW`, `PROTECTED` or `CONFIG`, and any such write may come
between any two frames.  Nothing evicts from `ESTABLISHED`.  Every run of the
gate without such evictions is a run of this machine (`Gate.maps_run`).

A frame of a flow that finds its port protected is a `Hit`; the entry of the
flow changes at hits only, and `entry_cases` says how.  From there:

* a flow whose hits follow each other without an idle gap, `FIN` or `RST` stays
  tracked, whatever becomes of its grant (`flow_outlives_pinhole`);
* the first `FIN` that finds the port protected ends it, so that the frames
  after it pass only where the port is open or a new `SYN` was admitted
  (`close_passes_iff`).
-/

namespace SpaDevice

/-! ## The kernel program on its own -/

/-- A frame, a write to one of the maps by the daemon, or an eviction from
`RATE`. -/
inductive KernelEvent where
  | frame (now : UInt64) (bytes : List UInt8)
  | writeAllow (allow : AllowMap)
  | writeProtected (ports : ProtectedMap)
  | writeConfig (knockPort : UInt16)
  | evictRate (addr : Addr)

/-- The reading of the clock an event carries. -/
def KernelEvent.time : KernelEvent → Option UInt64
  | .frame now _ => some now
  | _ => none

/-- The clock never goes backwards along the events. -/
def KernelClock (es : List KernelEvent) : Prop := (es.filterMap KernelEvent.time).Pairwise (· ≤ ·)

theorem KernelClock.sublist {es es' : List KernelEvent} (h : KernelClock es') (hsub : es.Sublist es') :
    KernelClock es :=
  List.Pairwise.sublist (hsub.filterMap _) h

/-- Every earlier reading is at most a later one. -/
theorem KernelClock.le {es es' : List KernelEvent} {e e' : KernelEvent} {t t' : UInt64}
    (h : KernelClock (es ++ es')) (he : e ∈ es) (he' : e' ∈ es') (ht : e.time = some t)
    (ht' : e'.time = some t') : t ≤ t' := by
  rw [KernelClock, List.filterMap_append, List.pairwise_append] at h
  exact h.2.2 t (List.mem_filterMap.mpr ⟨e, he, ht⟩) t' (List.mem_filterMap.mpr ⟨e', he', ht'⟩)

/-- No later event is before the first one. -/
theorem KernelClock.head_le {es : List KernelEvent} {e e' : KernelEvent} {t t' : UInt64}
    (h : KernelClock (e :: es)) (he' : e' ∈ es) (ht : e.time = some t)
    (ht' : e'.time = some t') : t ≤ t' := by
  have happ : KernelClock ([e] ++ es) := h
  exact happ.le List.mem_cons_self he' ht ht'

namespace Maps

def step (m : Maps) : KernelEvent → Maps
  | .frame now bytes => (spaGate m now bytes).2
  | .writeAllow allow => { m with allow }
  | .writeProtected ports => { m with protectedPorts := ports }
  | .writeConfig knockPort => { m with config := knockPort }
  | .evictRate addr => { m with rate := m.rate.erase addr }

end Maps

namespace Gate

variable {Cr : Type} [Crypto Cr]

/-- What the kernel sees of an event of the gate. -/
def kernelEvent (g : Gate Cr) : GateEvent → KernelEvent
  | .traffic (.frame now bytes) => .frame now bytes
  | .traffic (.evictRate addr) => .evictRate addr
  | .update (.protect port) => .writeProtected (g.update (.protect port)).protectedPorts
  | .update (.unprotect port) => .writeProtected (g.update (.unprotect port)).protectedPorts
  | e => .writeAllow (g.step e).allow

/-- **The kernel's part of a gate**: along a run without evictions from
`ESTABLISHED` the maps run through what the kernel sees of the events. -/
theorem maps_run (g : Gate Cr) (es : List GateEvent)
    (h : ∀ flow, GateEvent.traffic (.evictFlow flow) ∉ es) :
    (run step g es).maps = run Maps.step g.maps (outputs step kernelEvent g es) := by
  induction es generalizing g with
  | nil => rfl
  | cons e es ih =>
      have hstep : (g.step e).maps = g.maps.step (kernelEvent g e) := by
        match e with
        | .traffic (.frame now bytes) => rfl
        | .traffic (.knock clk packet source) => rfl
        | .traffic (.evictRate addr) => rfl
        | .traffic (.evictFlow flow) => exact absurd List.mem_cons_self (h flow)
        | .update (.setClients clients) => rfl
        | .update (.setTokens tokens) => rfl
        | .update (.protect port) => rfl
        | .update (.unprotect port) => rfl
      rw [run_cons, outputs_cons, run_cons, ← hstep]
      exact ih (g.step e) fun flow hmem => h flow (List.mem_cons_of_mem e hmem)

end Gate

/-! ## The frames of a flow -/

/-- The time and flags of a frame of the flow. -/
def frameOf (flow : FlowKey) : KernelEvent → Option (UInt64 × UInt8)
  | .frame now bytes =>
      match tcpHeader bytes with
      | some (f, flags) => if f = flow then some (now, flags) else none
      | none => none
  | _ => none

/-- The frames of a flow along a run, whether or not its port is protected. -/
def frames (flow : FlowKey) (es : List KernelEvent) : List (UInt64 × UInt8) :=
  es.filterMap (frameOf flow)

/-- A frame of a flow that finds the flow's port protected: its time, its flags,
and whether its source may open a connection to the port. -/
structure Hit where
  now : UInt64
  flags : UInt8
  allowed : Bool

def hit (flow : FlowKey) (m : Maps) (e : KernelEvent) : Option Hit :=
  match frameOf flow e with
  | some (now, flags) =>
      if isProtected m flow.dport then
        some ⟨now, flags, sourceAllowed m.allow flow.saddr flow.dport now⟩
      else none
  | none => none

/-- The hits of a flow along a run. -/
def hits (flow : FlowKey) (m : Maps) (es : List KernelEvent) : List Hit :=
  record Maps.step (hit flow) m es

theorem frameOf_eq_some_iff {flow : FlowKey} {e : KernelEvent} {now : UInt64} {flags : UInt8} :
    frameOf flow e = some (now, flags) ↔
      ∃ bytes, e = .frame now bytes ∧ tcpHeader bytes = some (flow, flags) := by
  cases e with
  | frame now' bytes =>
      cases hh : tcpHeader bytes with
      | none => simp [frameOf, hh]
      | some p =>
          by_cases hf : p.1 = flow
          · simp only [frameOf, hh, hf, if_true, Option.some.injEq, Prod.mk.injEq,
              KernelEvent.frame.injEq]
            constructor
            · rintro ⟨rfl, rfl⟩
              exact ⟨bytes, ⟨rfl, rfl⟩, by rw [hh, ← hf]⟩
            · rintro ⟨bytes', ⟨rfl, rfl⟩, hh'⟩
              rw [hh] at hh'
              exact ⟨rfl, congrArg Prod.snd (Option.some.inj hh')⟩
          · simp only [frameOf, hh, hf, if_false, reduceCtorEq, false_iff]
            rintro ⟨bytes', he, hh'⟩
            rw [← (KernelEvent.frame.inj he).2, hh] at hh'
            exact hf (congrArg Prod.fst (Option.some.inj hh'))
  | writeAllow allow => simp [frameOf]
  | writeProtected ports => simp [frameOf]
  | writeConfig knockPort => simp [frameOf]
  | evictRate addr => simp [frameOf]

/-- What a hit is, spelled out. -/
theorem hit_eq_some_iff {flow : FlowKey} {m : Maps} {e : KernelEvent} {h : Hit} :
    hit flow m e = some h ↔
      ∃ bytes, e = .frame h.now bytes ∧ tcpHeader bytes = some (flow, h.flags) ∧
        isProtected m flow.dport = true ∧
        h.allowed = sourceAllowed m.allow flow.saddr flow.dport h.now := by
  unfold hit
  cases hf : frameOf flow e with
  | none =>
      simp only [reduceCtorEq, false_iff]
      rintro ⟨bytes, he, hh, -⟩
      rw [frameOf_eq_some_iff.mpr ⟨bytes, he, hh⟩] at hf
      contradiction
  | some p =>
      obtain ⟨bytes, rfl, hh⟩ := frameOf_eq_some_iff.mp hf
      obtain ⟨now, flags⟩ := p
      cases hprot : isProtected m flow.dport with
      | false => simp
      | true =>
          simp only [if_true, Option.some.injEq]
          constructor
          · rintro rfl
            exact ⟨bytes, rfl, hh, trivial, rfl⟩
          · rintro ⟨bytes', he, hh', -, hallowed⟩
            obtain ⟨hnow, rfl⟩ := KernelEvent.frame.inj he
            rw [hh] at hh'
            obtain ⟨now', flags', allowed'⟩ := h
            obtain rfl : now = now' := hnow
            obtain rfl : flags = flags' := congrArg Prod.snd (Option.some.inj hh')
            rw [← show allowed' = _ from hallowed]

/-- A frame of the flow that finds its port protected is a hit. -/
theorem hit_of_protected {flow : FlowKey} {m : Maps} {t : UInt64} {bytes : List UInt8}
    {flags : UInt8} (hh : tcpHeader bytes = some (flow, flags))
    (hprot : isProtected m flow.dport = true) :
    ∃ h, hit flow m (.frame t bytes) = some h ∧ h.now = t ∧ h.flags = flags :=
  ⟨⟨t, flags, sourceAllowed m.allow flow.saddr flow.dport t⟩,
    hit_eq_some_iff.mpr ⟨bytes, rfl, hh, hprot, rfl⟩, rfl, rfl⟩

/-- A frame to a port that is not protected passes and changes nothing. -/
theorem spaGate_unprotected {flow : FlowKey} {m : Maps} {bytes : List UInt8} {flags : UInt8}
    (hh : tcpHeader bytes = some (flow, flags)) (hprot : isProtected m flow.dport = false)
    (t : UInt64) : spaGate m t bytes = (.pass, m) := by
  rw [spaGate, tryGate_of_tcpHeader hh, if_neg (by simp [hprot])]

/-! ## What one event does to a flow -/

/-- An event that is no hit of the flow leaves its entry alone. -/
theorem lookup_of_no_hit {flow : FlowKey} {m : Maps} {e : KernelEvent} (h : hit flow m e = none) :
    (m.step e).established.lookup flow = m.established.lookup flow := by
  match e with
  | .frame now bytes =>
      change (spaGate m now bytes).2.established.lookup flow = _
      rcases spaGate_cases m now bytes with ⟨f, flags, hh, hprot, htrack⟩ | ⟨-, rate, hrate⟩
      · rw [htrack]
        refine established_trackFlow_of_ne m now flags ?_
        rintro rfl
        obtain ⟨x, hsome, -⟩ := hit_of_protected (t := now) hh hprot
        rw [h] at hsome
        contradiction
      · rw [hrate]
  | .writeAllow allow => rfl
  | .writeProtected ports => rfl
  | .writeConfig knockPort => rfl
  | .evictRate addr => rfl

/-- The hit finds the flow untracked, is a pure `SYN`, and its source may open a
connection: it is admitted. -/
structure Admitted (flow : FlowKey) (m : Maps) (h : Hit) : Prop where
  untracked : ¬ Tracked m h.now flow
  syn : isSyn h.flags = true
  allowed : h.allowed = true

/-- **What a hit does**: a tracked flow passes, and is refreshed or ended; an
admitted `SYN` passes and starts the flow; anything else is dropped and leaves
no entry. -/
theorem entry_cases {flow : FlowKey} {m : Maps} {e : KernelEvent} {h : Hit} {bytes : List UInt8}
    (he : e = .frame h.now bytes) (hhit : hit flow m e = some h) :
    (Tracked m h.now flow ∧ (spaGate m h.now bytes).1 = .pass ∧
      (m.step e).established.lookup flow = if isFinRst h.flags then none else some h.now) ∨
    (Admitted flow m h ∧ (spaGate m h.now bytes).1 = .pass ∧
      (m.step e).established.lookup flow = some h.now) ∨
    (¬ Tracked m h.now flow ∧ ¬ Admitted flow m h ∧ (spaGate m h.now bytes).1 = .drop ∧
      (m.step e).established.lookup flow = none) := by
  obtain ⟨bytes', he', hh, hprot, hallowed⟩ := hit_eq_some_iff.mp hhit
  obtain rfl : bytes = bytes' := (KernelEvent.frame.inj (he.symm.trans he')).2
  have hspa : spaGate m h.now bytes = trackFlow m h.now flow h.flags := by
    rw [spaGate, tryGate_of_tcpHeader hh, if_pos hprot]
  have hstep : m.step e = (spaGate m h.now bytes).2 := by rw [he]; rfl
  rw [hstep, hspa]
  by_cases ht : Tracked m h.now flow
  · refine .inl ⟨ht, ?_⟩
    rw [trackFlow_of_tracked ht]
    refine ⟨rfl, ?_⟩
    dsimp only
    split
    · rw [Dict.lookup_erase_eq, if_pos rfl]
    · rw [Dict.lookup_insert_eq, if_pos rfl]
  · rcases trackFlow_of_not_tracked ht h.flags with ⟨hsyn, hallow, heq⟩ | ⟨est, heq, hest⟩
    · refine .inr (.inl ⟨⟨ht, hsyn, hallowed.trans hallow⟩, ?_⟩)
      rw [heq]
      exact ⟨rfl, (Dict.lookup_insert_eq _ _ _ _).trans (if_pos rfl)⟩
    · have hnot : ¬ Admitted flow m h := by
        intro ha
        obtain ⟨m', hpass⟩ := tryGate_of_allowed_syn hh hprot ha.syn (hallowed.symm.trans ha.allowed)
        rw [tryGate_of_tcpHeader hh, if_pos hprot, heq] at hpass
        simp at hpass
      refine .inr (.inr ⟨ht, hnot, ?_⟩)
      rw [heq]
      exact ⟨rfl, (hest flow).trans (if_pos rfl)⟩

/-- At a protected port a frame that is no `SYN` passes exactly when its flow is
tracked. -/
theorem pass_iff_tracked {flow : FlowKey} {m : Maps} {bytes : List UInt8} {flags : UInt8}
    (hh : tcpHeader bytes = some (flow, flags)) (hprot : isProtected m flow.dport = true)
    (hsyn : isSyn flags = false) (t : UInt64) :
    (spaGate m t bytes).1 = .pass ↔ Tracked m t flow := by
  obtain ⟨h, hhit, rfl, rfl⟩ := hit_of_protected (t := t) hh hprot
  rcases entry_cases rfl hhit with ⟨ht, hpass, -⟩ | ⟨hadm, -⟩ | ⟨hnot, -, hdrop, -⟩
  · exact iff_of_true hpass ht
  · exact absurd hadm.syn (by simp [hsyn])
  · exact iff_of_false (by simp [hdrop]) hnot

theorem drop_of_not_tracked {flow : FlowKey} {m : Maps} {bytes : List UInt8} {flags : UInt8}
    (hh : tcpHeader bytes = some (flow, flags)) (hprot : isProtected m flow.dport = true)
    (hsyn : isSyn flags = false) {t : UInt64} (hnot : ¬ Tracked m t flow) :
    (spaGate m t bytes).1 = .drop := by
  have hiff := pass_iff_tracked hh hprot hsyn t
  cases hv : (spaGate m t bytes).1 with
  | drop => rfl
  | pass => exact absurd (hiff.mp hv) hnot

/-! ## A flow that goes on -/

/-- The second time is less than the idle limit after the first. -/
def Soon (a b : UInt64) : Prop := b.toNat < a.toNat + flowIdleNs.toNat

theorem idle_iff_soon {a b : UInt64} (h : a ≤ b) : b - a < flowIdleNs ↔ Soon a b := by
  have hle := UInt64.le_iff_toNat_le.mp h
  rw [UInt64.lt_iff_toNat_lt, UInt64.toNat_sub_of_le _ _ h, Soon]
  omega

/-- The times of the hits of a flow along a run, after a first one. -/
abbrev hitTimes (flow : FlowKey) (first : UInt64) (m : Maps) (es : List KernelEvent) : List UInt64 :=
  first :: (hits flow m es).map Hit.now

@[simp] theorem hits_nil (flow : FlowKey) (m : Maps) : hits flow m [] = [] := rfl

theorem hits_cons (flow : FlowKey) (m : Maps) (e : KernelEvent) (es : List KernelEvent) :
    hits flow m (e :: es) = (hit flow m e).toList ++ hits flow (m.step e) es :=
  record_cons Maps.step (hit flow) m e es

theorem hits_concat (flow : FlowKey) (m : Maps) (es : List KernelEvent) (e : KernelEvent) :
    hits flow m (es ++ [e]) = hits flow m es ++ (hit flow (run Maps.step m es) e).toList :=
  record_concat Maps.step (hit flow) m es e

/-- A hit is one of the events of the run. -/
theorem time_of_mem_hits {flow : FlowKey} {m : Maps} {es : List KernelEvent} {h : Hit}
    (hmem : h ∈ hits flow m es) : ∃ e ∈ es, e.time = some h.now := by
  obtain ⟨before, e, after, rfl, hhit⟩ := mem_record_iff.mp hmem
  obtain ⟨bytes, rfl, -⟩ := hit_eq_some_iff.mp hhit
  exact ⟨.frame h.now bytes, by simp, rfl⟩

/-- The last of the hit times is the first or the time of an event. -/
theorem time_of_getLast {flow : FlowKey} {m : Maps} {es : List KernelEvent} {first last : UInt64}
    (hlast : (hitTimes flow first m es).getLast? = some last) :
    last = first ∨ ∃ e ∈ es, e.time = some last := by
  rcases List.mem_cons.mp (List.mem_of_getLast? hlast) with rfl | hmem
  · exact .inl rfl
  · obtain ⟨h, hh, rfl⟩ := List.mem_map.mp hmem
    exact .inr (time_of_mem_hits hh)

/-- A tracked flow whose hits follow each other without an idle gap, `FIN` or
`RST` keeps its entry, which holds the time of the last hit. -/
theorem lookup_run_of_soon {flow : FlowKey} {m : Maps} {es : List KernelEvent} {last : UInt64}
    (hentry : m.established.lookup flow = some last) (hclock : KernelClock es)
    (hlast : ∀ e ∈ es, ∀ t, e.time = some t → last ≤ t)
    (hgaps : (hitTimes flow last m es).IsChain Soon)
    (hquiet : ∀ h ∈ hits flow m es, isFinRst h.flags = false) :
    (run Maps.step m es).established.lookup flow = (hitTimes flow last m es).getLast? := by
  induction es generalizing m last with
  | nil => exact hentry
  | cons e es ih =>
      have hclock' := hclock.sublist (List.sublist_cons_self e es)
      rw [hitTimes, hits_cons] at hgaps ⊢
      rw [hits_cons] at hquiet
      cases hhit : hit flow m e with
      | none =>
          rw [hhit] at hgaps hquiet
          exact ih ((lookup_of_no_hit hhit).trans hentry) hclock'
            (fun e' he' => hlast e' (List.mem_cons_of_mem e he')) hgaps hquiet
      | some h =>
          rw [hhit] at hgaps hquiet
          obtain ⟨bytes, he, -⟩ := hit_eq_some_iff.mp hhit
          obtain ⟨hsoon, hgaps'⟩ := List.isChain_cons_cons.mp hgaps
          have htime : e.time = some h.now := by rw [he]; rfl
          have hle : last ≤ h.now := hlast e List.mem_cons_self h.now htime
          have htracked : Tracked m h.now flow := ⟨last, hentry, (idle_iff_soon hle).mpr hsoon⟩
          have hfin : isFinRst h.flags = false := hquiet h (by simp)
          rcases entry_cases he hhit with ⟨-, -, hnext⟩ | ⟨hadm, -⟩ | ⟨hnot, -⟩
          · rw [hfin] at hnext
            refine (ih hnext hclock' ?_ hgaps' fun x hx => hquiet x (by simp [hx])).trans ?_
            · intro e' he' t ht
              exact hclock.head_le he' htime ht
            · exact List.getLast?_cons_cons.symm
          · exact absurd htracked hadm.untracked
          · exact absurd htracked hnot

/-- After an admitted `SYN` the entry holds the time of the last hit, as long as
the flow goes on. -/
theorem lookup_run_of_admitted {flow : FlowKey} {m : Maps} {e₀ : KernelEvent} {s : Hit}
    (hhit : hit flow m e₀ = some s) (hadm : Admitted flow m s) {es : List KernelEvent}
    (hclock : KernelClock (e₀ :: es)) (hgaps : (hitTimes flow s.now (m.step e₀) es).IsChain Soon)
    (hquiet : ∀ h ∈ hits flow (m.step e₀) es, isFinRst h.flags = false) :
    (run Maps.step m (e₀ :: es)).established.lookup flow =
      (hitTimes flow s.now (m.step e₀) es).getLast? := by
  obtain ⟨syn, he₀, -⟩ := hit_eq_some_iff.mp hhit
  have htime : e₀.time = some s.now := by rw [he₀]; rfl
  have hentry : (m.step e₀).established.lookup flow = some s.now := by
    rcases entry_cases he₀ hhit with ⟨htracked, -⟩ | ⟨-, -, hnext⟩ | ⟨-, hnot, -⟩
    · exact absurd htracked hadm.untracked
    · exact hnext
    · exact absurd hadm hnot
  refine lookup_run_of_soon hentry (hclock.sublist (List.sublist_cons_self e₀ es)) ?_ hgaps hquiet
  intro e he u hu
  exact hclock.head_le he htime hu

/-- A flow is tracked at a time soon after its last hit, and at no later one. -/
theorem tracked_iff_soon {m : Maps} {flow : FlowKey} {last t : UInt64}
    (hentry : m.established.lookup flow = some last) (hle : last ≤ t) :
    Tracked m t flow ↔ Soon last t := by
  rw [← idle_iff_soon hle]
  constructor
  · rintro ⟨last', hlast', hidle⟩
    rw [Option.some.inj (hentry.symm.trans hlast')]
    exact hidle
  · intro hidle
    exact ⟨last, hentry, hidle⟩

/-- **Established flows outlive the pinhole**: once a `SYN` of the flow was
admitted, a later frame of the flow that finds the port protected passes,
whatever was written to `ALLOW`, `PROTECTED` and `CONFIG` and whatever other
frames came in between, as long as the hits of the flow follow each other
within the idle limit and none before this frame carries `FIN` or `RST`. -/
theorem flow_outlives_pinhole (m : Maps) (flow : FlowKey) (e₀ : KernelEvent) (s : Hit)
    (hhit : hit flow m e₀ = some s) (hadm : Admitted flow m s) (es : List KernelEvent) (t : UInt64)
    (bytes : List UInt8) (flags : UInt8) (hh : tcpHeader bytes = some (flow, flags))
    (hclock : KernelClock (e₀ :: (es ++ [.frame t bytes])))
    (hgaps : (hitTimes flow s.now (m.step e₀) (es ++ [.frame t bytes])).IsChain Soon)
    (hquiet : ∀ h ∈ hits flow (m.step e₀) es, isFinRst h.flags = false)
    (hprot : isProtected (run Maps.step m (e₀ :: es)) flow.dport = true) :
    (spaGate (run Maps.step m (e₀ :: es)) t bytes).1 = .pass := by
  obtain ⟨syn, he₀, -⟩ := hit_eq_some_iff.mp hhit
  obtain ⟨h, hframe, rfl, -⟩ := hit_of_protected (t := t) hh hprot
  have htimes : hitTimes flow s.now (m.step e₀) (es ++ [.frame h.now bytes]) =
      hitTimes flow s.now (m.step e₀) es ++ [h.now] := by
    rw [hitTimes, hits_concat, ← run_cons, hframe, List.map_append]
    rfl
  rw [htimes] at hgaps
  obtain ⟨hbefore, -, hsoon⟩ := List.isChain_append.mp hgaps
  have hlookup := lookup_run_of_admitted hhit hadm
    (hclock.sublist ((List.sublist_append_left es _).cons_cons e₀)) hbefore hquiet
  obtain ⟨last, hlast⟩ : ∃ last, (hitTimes flow s.now (m.step e₀) es).getLast? = some last :=
    ⟨_, List.getLast?_cons⟩
  have hle : last ≤ h.now := by
    rcases time_of_getLast hlast with rfl | ⟨e, he, ht⟩
    · exact hclock.head_le (List.mem_append_right es List.mem_cons_self) (by rw [he₀]; rfl) rfl
    · exact (hclock.sublist (List.sublist_cons_self e₀ _)).le he List.mem_cons_self ht rfl
  have htracked := (tracked_iff_soon (hlookup.trans hlast) hle).mpr (hsoon last hlast h.now rfl)
  rcases entry_cases rfl hframe with ⟨-, hpass, -⟩ | ⟨-, hpass, -⟩ | ⟨hnot, -⟩
  · exact hpass
  · exact hpass
  · exact absurd htracked hnot

/-! ### A sample flow -/

/-- The sample `SYN` with other flags. -/
def sampleTcp (flags : UInt8) : List UInt8 :=
  List.replicate 12 0 ++ [0x08, 0x00] ++
    [0x45, 0, 0, 40, 0, 0, 0, 0, 64, 6, 0, 0, 192, 0, 2, 1, 198, 51, 100, 1] ++
    [0x9c, 0x40, 0, 22, 0, 0, 0, 1, 0, 0, 0, 0, 0x50, flags, 0xff, 0xff, 0, 0, 0, 0]

/-- The maps of the sample gate while the sample client holds a grant for port
22, for 30 seconds. -/
def openMaps : Maps :=
  { Gate.sampleInit.maps with
    allow := BoundedDict.empty.insertOrKeep (addrKey sampleAddr) (Grant.make 30000000000 [22]) }

/-- The `SYN` of the sample client, at time 0. -/
def openingSyn : KernelEvent := .frame 0 (sampleTcp tcpSyn)

theorem tcpHeader_sampleTcp :
    tcpHeader (sampleTcp tcpSyn) = some (Gate.sampleFlow, tcpSyn) ∧
      tcpHeader (sampleTcp tcpAck) = some (Gate.sampleFlow, tcpAck) ∧
      tcpHeader (sampleTcp tcpFin) = some (Gate.sampleFlow, tcpFin) :=
  ⟨rfl, rfl, rfl⟩

theorem isProtected_openMaps : isProtected openMaps Gate.sampleFlow.dport = true :=
  isProtected_sampleInit

theorem openingSyn_admitted :
    ∃ s, hit Gate.sampleFlow openMaps openingSyn = some s ∧ s.now = 0 ∧
      Admitted Gate.sampleFlow openMaps s := by
  obtain ⟨s, hs, hnow, hflags⟩ := hit_of_protected (t := 0) tcpHeader_sampleTcp.1
    isProtected_openMaps
  refine ⟨s, hs, hnow, ?_, by rw [hflags]; decide, ?_⟩
  · rintro ⟨last, hlast, -⟩
    contradiction
  · obtain ⟨bytes, -, -, -, hallowed⟩ := hit_eq_some_iff.mp hs
    rw [hallowed, hnow, sourceAllowed_iff]
    refine ⟨Grant.make 30000000000 [22], ?_, ?_, ?_⟩
    · exact (BoundedDict.get_insertOrKeep _ _ _ _).trans (if_pos ⟨.inr (by decide), rfl⟩)
    · rw [Grant.expiryNs_make]; decide
    · rw [Grant.allowsPort_make]; decide

/-- The entry of the sample flow after its `SYN`. -/
theorem lookup_openingSyn :
    (openMaps.step openingSyn).established.lookup Gate.sampleFlow = some 0 := by
  obtain ⟨s, hs, hnow, hadm⟩ := openingSyn_admitted
  have hclock : KernelClock [openingSyn] := by simp [KernelClock, openingSyn, KernelEvent.time]
  have hlookup := lookup_run_of_admitted hs hadm hclock (List.IsChain.singleton _) (by simp)
  rw [hnow] at hlookup
  exact hlookup

theorem protectedPorts_openingSyn :
    (openMaps.step openingSyn).protectedPorts = openMaps.protectedPorts := by
  obtain ⟨established, rate, hmaps⟩ := spaGate_maps openMaps 0 (sampleTcp tcpSyn)
  rw [openingSyn, Maps.step, hmaps]

theorem isProtected_openingSyn :
    isProtected (openMaps.step openingSyn) Gate.sampleFlow.dport = true := by
  rw [isProtected, protectedPorts_openingSyn]
  exact isProtected_openMaps

/-- The sample flow passes at 100 seconds, after its grant was taken out of
`ALLOW`. -/
theorem flow_outlives_pinhole_sample :
    (run Maps.step openMaps [openingSyn, .writeAllow BoundedDict.empty]).allow = BoundedDict.empty ∧
      (spaGate (run Maps.step openMaps [openingSyn, .writeAllow BoundedDict.empty]) 100000000000
        (sampleTcp tcpAck)).1 = .pass := by
  obtain ⟨s, hs, hnow, hadm⟩ := openingSyn_admitted
  have hprot : isProtected (run Maps.step openMaps [openingSyn, .writeAllow BoundedDict.empty])
      Gate.sampleFlow.dport = true := isProtected_openingSyn
  obtain ⟨h, hh, hlate, -⟩ := hit_of_protected (t := 100000000000) tcpHeader_sampleTcp.2.1 hprot
  refine ⟨rfl, flow_outlives_pinhole openMaps Gate.sampleFlow openingSyn s hs hadm
    [.writeAllow BoundedDict.empty] 100000000000 (sampleTcp tcpAck) tcpAck tcpHeader_sampleTcp.2.1
    ?_ ?_ ?_ hprot⟩
  · simp [KernelClock, List.filterMap_cons, openingSyn, KernelEvent.time]
  · rw [hitTimes, hits_concat, ← run_cons, hh, hits_cons, hnow]
    simp [hit, frameOf, hlate, Soon, flowIdleNs]
  · simp [hits_cons, hit, frameOf]

/-- The sample flow with its port open to all in between: two frames come then,
100 seconds apart. -/
def openedInBetween : List KernelEvent :=
  [.writeProtected BoundedDict.empty, .frame 100000000000 (sampleTcp tcpAck),
    .frame 200000000000 (sampleTcp tcpAck), .writeProtected openMaps.protectedPorts]

/-- What the maps are after the port was open in between: the frames that came
then left no trace. -/
theorem run_openedInBetween :
    run Maps.step openMaps (openingSyn :: openedInBetween) = openMaps.step openingSyn := by
  have hports := protectedPorts_openingSyn
  rw [run_cons]
  generalize openMaps.step openingSyn = m at hports
  have hframe : ∀ t, Maps.step { m with protectedPorts := BoundedDict.empty }
      (.frame t (sampleTcp tcpAck)) = { m with protectedPorts := BoundedDict.empty } := by
    intro t
    rw [Maps.step, spaGate_unprotected tcpHeader_sampleTcp.2.1 rfl]
  simp only [openedInBetween, run_cons, run_nil, ← hports]
  change Maps.step (Maps.step (Maps.step { m with protectedPorts := BoundedDict.empty }
    (.frame 100000000000 (sampleTcp tcpAck))) (.frame 200000000000 (sampleTcp tcpAck)))
    (.writeProtected m.protectedPorts) = m
  rw [hframe, hframe]
  rfl

/-- **Frames to an open port do not keep a flow**: the sample flow sends a frame
at least every 100 seconds and no `FIN` or `RST`, but while its port is not
protected its frames are not tracked; back under protection it is dropped. -/
theorem open_port_ends_flow :
    let es := openedInBetween
    let e := KernelEvent.frame 210000000000 (sampleTcp tcpAck)
    (∃ s, hit Gate.sampleFlow openMaps openingSyn = some s ∧ Admitted Gate.sampleFlow openMaps s) ∧
      KernelClock (openingSyn :: (es ++ [e])) ∧
      ((frames Gate.sampleFlow (openingSyn :: (es ++ [e]))).map Prod.fst).IsChain Soon ∧
      (∀ x ∈ frames Gate.sampleFlow es, isFinRst x.2 = false) ∧
      isProtected (run Maps.step openMaps (openingSyn :: es)) Gate.sampleFlow.dport = true ∧
      (spaGate (run Maps.step openMaps (openingSyn :: es)) 210000000000 (sampleTcp tcpAck)).1 =
        .drop := by
  intro es e
  obtain ⟨s, hs, -, hadm⟩ := openingSyn_admitted
  have hframes : frames Gate.sampleFlow (openingSyn :: (es ++ [e])) =
      [(0, tcpSyn), (100000000000, tcpAck), (200000000000, tcpAck), (210000000000, tcpAck)] := rfl
  have hbetween : frames Gate.sampleFlow es =
      [(100000000000, tcpAck), (200000000000, tcpAck)] := rfl
  refine ⟨⟨s, hs, hadm⟩, ?_, ?_, ?_, ?_, ?_⟩
  · simp [es, e, openedInBetween, KernelClock, List.filterMap_cons, openingSyn, KernelEvent.time]
  · rw [hframes]
    simp [Soon, flowIdleNs]
  · have hack : isFinRst tcpAck = false := rfl
    rw [hbetween]
    simp [hack]
  · rw [run_openedInBetween]
    exact isProtected_openingSyn
  · rw [run_openedInBetween]
    refine drop_of_not_tracked tcpHeader_sampleTcp.2.1 isProtected_openingSyn rfl ?_
    rw [tracked_iff_soon lookup_openingSyn (by decide)]
    simp [Soon, flowIdleNs]

/-! ## A flow that closes -/

/-- From its entry at `first` the flow goes on through the run to its last hit at
`last`: its hits follow each other within the idle limit and carry neither `FIN`
nor `RST`. -/
structure GoesOn (flow : FlowKey) (m : Maps) (first : UInt64) (es : List KernelEvent)
    (last : UInt64) : Prop where
  gaps : (hitTimes flow first m es).IsChain Soon
  quiet : ∀ h ∈ hits flow m es, isFinRst h.flags = false
  last_eq : (hitTimes flow first m es).getLast? = some last

namespace GoesOn

variable {flow : FlowKey} {m : Maps} {es : List KernelEvent} {first last : UInt64}

theorem nil (flow : FlowKey) (m : Maps) (first : UInt64) : GoesOn flow m first [] first :=
  ⟨List.IsChain.singleton _, by simp, rfl⟩

/-- An event that is no hit leaves the flow as it is. -/
theorem concat_other (h : GoesOn flow m first es last) {e : KernelEvent}
    (hhit : hit flow (run Maps.step m es) e = none) : GoesOn flow m first (es ++ [e]) last := by
  have hsame : hits flow m (es ++ [e]) = hits flow m es := by
    rw [hits_concat, hhit]
    simp
  refine ⟨?_, ?_, ?_⟩
  · rw [hitTimes, hsame]; exact h.gaps
  · rw [hsame]; exact h.quiet
  · rw [hitTimes, hsame]; exact h.last_eq

/-- A hit soon after the last one that carries neither `FIN` nor `RST` takes the
flow on. -/
theorem concat (h : GoesOn flow m first es last) {e : KernelEvent} {x : Hit}
    (hhit : hit flow (run Maps.step m es) e = some x) (hsoon : Soon last x.now)
    (hfin : isFinRst x.flags = false) : GoesOn flow m first (es ++ [e]) x.now := by
  have hmore : hits flow m (es ++ [e]) = hits flow m es ++ [x] := by
    rw [hits_concat, hhit]
    rfl
  have htimes : hitTimes flow first m (es ++ [e]) = hitTimes flow first m es ++ [x.now] := by
    rw [hitTimes, hmore]
    simp
  refine ⟨?_, ?_, ?_⟩
  · rw [htimes]
    refine h.gaps.append (List.IsChain.singleton _) ?_
    intro a ha b hb
    rw [Option.some.inj (ha.symm.trans h.last_eq), ← Option.some.inj hb]
    exact hsoon
  · rw [hmore]
    intro y hy
    rcases List.mem_append.mp hy with hy | hy
    · exact h.quiet y hy
    · rw [List.mem_singleton.mp hy]
      exact hfin
  · rw [htimes, List.getLast?_concat]

/-- The last hit is the first or an event of the run. -/
theorem time (h : GoesOn flow m first es last) :
    last = first ∨ ∃ e ∈ es, e.time = some last :=
  time_of_getLast h.last_eq

end GoesOn

/-- A `SYN` of the flow was admitted in the run, and the flow went on since to
its last hit at `last`. -/
def Carried (flow : FlowKey) (m : Maps) (es : List KernelEvent) (last : UInt64) : Prop :=
  ∃ before e after s, es = before ++ e :: after ∧ hit flow (run Maps.step m before) e = some s ∧
    Admitted flow (run Maps.step m before) s ∧
    GoesOn flow ((run Maps.step m before).step e) s.now after last

namespace Carried

variable {flow : FlowKey} {m : Maps} {es : List KernelEvent} {last : UInt64}

/-- The last hit is an event of the run. -/
theorem time (h : Carried flow m es last) : ∃ e ∈ es, e.time = some last := by
  obtain ⟨before, e, after, s, rfl, hhit, -, hgoes⟩ := h
  obtain ⟨bytes, rfl, -⟩ := hit_eq_some_iff.mp hhit
  rcases hgoes.time with rfl | ⟨e', he', ht⟩
  · exact ⟨.frame s.now bytes, by simp, rfl⟩
  · exact ⟨e', by simp [he'], ht⟩

/-- What is carried through the run is in the map. -/
theorem lookup (h : Carried flow m es last) (hclock : KernelClock es) :
    (run Maps.step m es).established.lookup flow = some last := by
  obtain ⟨before, e, after, s, rfl, hhit, hadm, hgoes⟩ := h
  rw [run_append, ← hgoes.last_eq]
  exact lookup_run_of_admitted hhit hadm
    (hclock.sublist (List.sublist_append_right before _)) hgoes.gaps hgoes.quiet

theorem concat_other (h : Carried flow m es last) {e : KernelEvent}
    (hhit : hit flow (run Maps.step m es) e = none) : Carried flow m (es ++ [e]) last := by
  obtain ⟨before, e₀, after, s, rfl, hhit₀, hadm, hgoes⟩ := h
  rw [run_append, run_cons] at hhit
  exact ⟨before, e₀, after ++ [e], s, by simp, hhit₀, hadm, hgoes.concat_other hhit⟩

theorem concat (h : Carried flow m es last) {e : KernelEvent} {x : Hit}
    (hhit : hit flow (run Maps.step m es) e = some x) (hsoon : Soon last x.now)
    (hfin : isFinRst x.flags = false) : Carried flow m (es ++ [e]) x.now := by
  obtain ⟨before, e₀, after, s, rfl, hhit₀, hadm, hgoes⟩ := h
  rw [run_append, run_cons] at hhit
  exact ⟨before, e₀, after ++ [e], s, by simp, hhit₀, hadm, hgoes.concat hhit hsoon hfin⟩

end Carried

/-- **Every entry has its history**: it goes back to an admitted `SYN` of the
run, or to the entry the flow had at its start. -/
theorem history_of_lookup {flow : FlowKey} {m : Maps} (es : List KernelEvent) :
    KernelClock es →
    (∀ first, m.established.lookup flow = some first →
      ∀ e ∈ es, ∀ t, e.time = some t → first ≤ t) →
    ∀ last, (run Maps.step m es).established.lookup flow = some last →
      Carried flow m es last ∨
        ∃ first, m.established.lookup flow = some first ∧ GoesOn flow m first es last := by
  refine run_history Maps.step (I := fun es m' => KernelClock es →
    (∀ first, m.established.lookup flow = some first →
      ∀ e ∈ es, ∀ t, e.time = some t → first ≤ t) →
    ∀ last, m'.established.lookup flow = some last → Carried flow m es last ∨
      ∃ first, m.established.lookup flow = some first ∧ GoesOn flow m first es last) ?_ ?_ es
  · intro _ _ last h
    exact .inr ⟨last, h, GoesOn.nil flow m last⟩
  · intro es e ih hclock hstart last h
    have hbefore := ih (hclock.sublist (List.sublist_append_left es [e]))
      fun first hfirst e' he' => hstart first hfirst e' (List.mem_append_left [e] he')
    cases hhit : hit flow (run Maps.step m es) e with
    | none =>
        rw [lookup_of_no_hit hhit] at h
        rcases hbefore last h with hcarried | ⟨first, hfirst, hgoes⟩
        · exact .inl (hcarried.concat_other hhit)
        · exact .inr ⟨first, hfirst, hgoes.concat_other hhit⟩
    | some x =>
        obtain ⟨bytes, he, -⟩ := hit_eq_some_iff.mp hhit
        have htime : e.time = some x.now := by rw [he]; rfl
        rcases entry_cases he hhit with ⟨⟨prev, hprev, hidle⟩, -, hnext⟩ | ⟨hadm, -, hnext⟩ | hdrop
        · rw [hnext] at h
          split at h
          · contradiction
          · next hfin =>
              have hquiet : isFinRst x.flags = false := by simpa using hfin
              have hearlier : (∃ e' ∈ es, e'.time = some prev) → Soon prev x.now := by
                rintro ⟨e', he', ht⟩
                exact (idle_iff_soon (hclock.le he' List.mem_cons_self ht htime)).mp hidle
              rw [← Option.some.inj h]
              rcases hbefore prev hprev with hcarried | ⟨first, hfirst, hgoes⟩
              · exact .inl (hcarried.concat hhit (hearlier hcarried.time) hquiet)
              · refine .inr ⟨first, hfirst, hgoes.concat hhit ?_ hquiet⟩
                rcases hgoes.time with rfl | hevent
                · exact (idle_iff_soon (hstart prev hfirst e (by simp) x.now htime)).mp hidle
                · exact hearlier hevent
        · rw [hnext] at h
          rw [← Option.some.inj h]
          exact .inl ⟨es, e, [], x, rfl, hhit, hadm, GoesOn.nil _ _ _⟩
        · rw [hdrop.2.2.2] at h
          contradiction

/-- In a run that starts without the flow, every entry goes back to an admitted
`SYN`. -/
theorem carried_of_lookup {flow : FlowKey} {m : Maps} (hm : m.established.lookup flow = none)
    {es : List KernelEvent} (hclock : KernelClock es) {last : UInt64}
    (h : (run Maps.step m es).established.lookup flow = some last) : Carried flow m es last := by
  rcases history_of_lookup es hclock (by simp [hm]) last h with hcarried | ⟨first, hfirst, -⟩
  · exact hcarried
  · rw [hm] at hfirst
    contradiction

/-- The event is a frame of the tracked flow that carries `FIN` and not `RST`. -/
structure Closing (flow : FlowKey) (m : Maps) (e : KernelEvent) (x : UInt64 × UInt8) : Prop where
  frame_eq : frameOf flow e = some x
  tracked : Tracked m x.1 flow
  fin : x.2 &&& tcpFin ≠ 0
  no_rst : x.2 &&& tcpRst = 0

/-- A frame with these flags at `t`, after the frame `e` that closed the flow and
the events `mid`, belongs to the closing of the connection: it carries neither
`SYN` nor `RST`, comes within the idle limit of the frame of the flow before it,
and no frame since the `FIN` carried `RST`. -/
structure ClosingFrame (flow : FlowKey) (e : KernelEvent) (mid : List KernelEvent) (t : UInt64)
    (flags : UInt8) : Prop where
  no_syn : flags &&& tcpSyn = 0
  no_rst : flags &&& tcpRst = 0
  soon : ∃ prev, (frames flow (e :: mid)).getLast? = some prev ∧ Soon prev.1 t
  no_rst_before : ∀ x ∈ frames flow mid, x.2 &&& tcpRst = 0

/-- What the closing of a connection needs: every frame that belongs to it
passes. -/
def ClosePasses (flow : FlowKey) (m : Maps) (e : KernelEvent) (es : List KernelEvent) : Prop :=
  ∀ mid t bytes rest flags, es = mid ++ .frame t bytes :: rest →
    tcpHeader bytes = some (flow, flags) → ClosingFrame flow e mid t flags →
    (spaGate (run Maps.step m (e :: mid)) t bytes).1 = .pass

/-- Since the `FIN` a `SYN` of the flow was admitted, and the flow went on to
time `t`. -/
def Readmitted (flow : FlowKey) (m : Maps) (e : KernelEvent) (mid : List KernelEvent)
    (t : UInt64) : Prop :=
  ∃ last, Carried flow (m.step e) mid last ∧ Soon last t

/-- The `FIN` found the port unprotected and so left the entry of the flow, which
went on from it to time `t`. -/
def Unnoticed (flow : FlowKey) (m : Maps) (e : KernelEvent) (mid : List KernelEvent)
    (t : UInt64) : Prop :=
  isProtected m flow.dport = false ∧ ∃ first last, m.established.lookup flow = some first ∧
    GoesOn flow (m.step e) first mid last ∧ Soon last t

/-- Every frame that belongs to the closing finds the port unprotected, or the
flow readmitted since the `FIN`, or comes after a `FIN` nobody noticed. -/
def CloseExcused (flow : FlowKey) (m : Maps) (e : KernelEvent) (es : List KernelEvent) : Prop :=
  ∀ mid t bytes rest flags, es = mid ++ .frame t bytes :: rest →
    tcpHeader bytes = some (flow, flags) → ClosingFrame flow e mid t flags →
    isProtected (run Maps.step m (e :: mid)) flow.dport = false ∨ Readmitted flow m e mid t ∨
      Unnoticed flow m e mid t

theorem isFinRst_of_fin {flags : UInt8} (h : flags &&& tcpFin ≠ 0) : isFinRst flags = true := by
  simp only [isFinRst, decide_eq_true_eq]
  intro hzero
  refine h ?_
  have hpart : flags &&& tcpFin = flags &&& (tcpFin ||| tcpRst) &&& tcpFin := by
    rw [UInt8.and_assoc]
    rfl
  rw [hpart, hzero]
  rfl

/-- A `FIN` that finds the port protected takes the entry of its flow away. -/
theorem Closing.lookup {flow : FlowKey} {m : Maps} {e : KernelEvent} {x : UInt64 × UInt8}
    (hc : Closing flow m e x) :
    (m.step e).established.lookup flow =
      if isProtected m flow.dport then none else m.established.lookup flow := by
  obtain ⟨bytes, rfl, hh⟩ := frameOf_eq_some_iff.mp hc.frame_eq
  cases hprot : isProtected m flow.dport with
  | false =>
      rw [Maps.step, spaGate_unprotected hh hprot]
      rfl
  | true =>
      obtain ⟨h, hhit, hnow, hflags⟩ := hit_of_protected (t := x.1) hh hprot
      have htracked : Tracked m h.now flow := by
        rw [hnow]
        exact hc.tracked
      rw [← hnow] at hhit ⊢
      rcases entry_cases rfl hhit with ⟨-, -, hnext⟩ | ⟨hadm, -⟩ | ⟨hnot, -⟩
      · rw [hnext, hflags, isFinRst_of_fin hc.fin]
        rfl
      · exact absurd htracked hadm.untracked
      · exact absurd htracked hnot

/-- What keeps a flow tracked after its `FIN`. -/
theorem Closing.tracked_iff {flow : FlowKey} {m : Maps} {e : KernelEvent} {x : UInt64 × UInt8}
    (hc : Closing flow m e x) {mid : List KernelEvent} {t : UInt64} {bytes : List UInt8}
    (hclock : KernelClock (mid ++ [.frame t bytes]))
    (hpast : ∀ first, m.established.lookup flow = some first →
      ∀ e' ∈ mid ++ [.frame t bytes], ∀ u, e'.time = some u → first ≤ u) :
    Tracked (run Maps.step m (e :: mid)) t flow ↔
      Readmitted flow m e mid t ∨ Unnoticed flow m e mid t := by
  have hmid := hclock.sublist (List.sublist_append_left mid _)
  have hentry : ∀ first, (m.step e).established.lookup flow = some first →
      isProtected m flow.dport = false ∧ m.established.lookup flow = some first := by
    intro first hfirst
    rw [hc.lookup] at hfirst
    simpa using hfirst
  have hmidpast : ∀ first, m.established.lookup flow = some first →
      ∀ e' ∈ mid, ∀ u, e'.time = some u → first ≤ u := fun first hfirst e' he' =>
    hpast first hfirst e' (List.mem_append_left _ he')
  have hevent : ∀ last, (∃ e' ∈ mid, e'.time = some last) → last ≤ t := by
    rintro last ⟨e', he', ht⟩
    exact hclock.le he' List.mem_cons_self ht rfl
  have hkept : ∀ first last, m.established.lookup flow = some first →
      GoesOn flow (m.step e) first mid last → last ≤ t := by
    intro first last hfirst hgoes
    rcases hgoes.time with rfl | hmem
    · exact hpast last hfirst (.frame t bytes) (by simp) t rfl
    · exact hevent last hmem
  constructor
  · rintro ⟨last, hlast, hidle⟩
    rcases history_of_lookup mid hmid (fun first hfirst => hmidpast first (hentry first hfirst).2)
      last hlast with hcarried | ⟨first, hfirst, hgoes⟩
    · exact .inl ⟨last, hcarried, (idle_iff_soon (hevent last hcarried.time)).mp hidle⟩
    · obtain ⟨hprot, hfirst⟩ := hentry first hfirst
      exact .inr ⟨hprot, first, last, hfirst, hgoes,
        (idle_iff_soon (hkept first last hfirst hgoes)).mp hidle⟩
  · rintro (⟨last, hcarried, hsoon⟩ | ⟨hprot, first, last, hfirst, hgoes, hsoon⟩)
    · exact (tracked_iff_soon (hcarried.lookup hmid) (hevent last hcarried.time)).mpr hsoon
    · have hstill : (m.step e).established.lookup flow = some first := by
        rw [hc.lookup, hprot]
        exact hfirst
      have hlookup := lookup_run_of_soon hstill hmid (hmidpast first hfirst) hgoes.gaps hgoes.quiet
      rw [hgoes.last_eq] at hlookup
      exact (tracked_iff_soon hlookup (hkept first last hfirst hgoes)).mpr hsoon

/-- **Closing a connection**: after a frame of a tracked flow with `FIN`, the
frames of the flow that belong to the closing all pass exactly when each of them
finds the port unprotected, or the flow readmitted since, or comes after a `FIN`
that found the port unprotected itself. -/
theorem close_passes_iff (m : Maps) (flow : FlowKey) (before : List KernelEvent) (e : KernelEvent)
    (x : UInt64 × UInt8) (es : List KernelEvent) (hstart : m.established.lookup flow = none)
    (hclosing : Closing flow (run Maps.step m before) e x)
    (hclock : KernelClock (before ++ e :: es)) :
    ClosePasses flow (run Maps.step m before) e es ↔
      CloseExcused flow (run Maps.step m before) e es := by
  have hbefore := hclock.sublist (List.sublist_append_left before _)
  unfold ClosePasses CloseExcused
  refine forall_congr' fun mid => forall_congr' fun t => forall_congr' fun bytes =>
    forall_congr' fun rest => forall_congr' fun flags => forall_congr' fun hes =>
      forall_congr' fun hh => forall_congr' fun hframe => ?_
  cases hprot : isProtected (run Maps.step (run Maps.step m before) (e :: mid)) flow.dport with
  | false =>
      rw [spaGate_unprotected hh hprot t]
      simp
  | true =>
      have hmid : KernelClock (before ++ (mid ++ [.frame t bytes])) := by
        rw [hes] at hclock
        exact hclock.sublist (by simp)
      rw [pass_iff_tracked hh hprot (by simp [isSyn, hframe.no_syn]),
        hclosing.tracked_iff (hmid.sublist (List.sublist_append_right before _)) ?_]
      · simp
      · -- The entry the `FIN` finds was written by a frame before it.
        intro first hfirst e' he' u hu
        obtain ⟨e₀, he₀, ht⟩ := (carried_of_lookup hstart hbefore hfirst).time
        exact hmid.le he₀ he' ht hu

/-- The `FIN` of the sample client, one second after its `SYN`. -/
def closingFin : KernelEvent := .frame 1000000000 (sampleTcp tcpFin)

theorem closingFin_closing :
    Closing Gate.sampleFlow (run Maps.step openMaps [openingSyn]) closingFin
      (1000000000, tcpFin) := by
  refine ⟨frameOf_eq_some_iff.mpr ⟨_, rfl, tcpHeader_sampleTcp.2.2⟩, ?_, by decide, by decide⟩
  refine (tracked_iff_soon lookup_openingSyn (by decide)).mpr ?_
  simp [Soon, flowIdleNs]

/-- Once the port is open to all, the frames after the `FIN` pass. -/
theorem close_passes_open_port :
    ClosePasses Gate.sampleFlow (run Maps.step openMaps [openingSyn]) closingFin
      [.writeProtected BoundedDict.empty, .frame 2000000000 (sampleTcp tcpAck)] := by
  refine (close_passes_iff openMaps Gate.sampleFlow [openingSyn] closingFin _ _ rfl
    closingFin_closing ?_).mpr ?_
  · simp [KernelClock, List.filterMap_cons, openingSyn, closingFin, KernelEvent.time]
  · intro mid t bytes rest flags hes hh hframe
    cases mid with
    | nil => simp at hes
    | cons x mid =>
        cases mid with
        | nil =>
            obtain ⟨rfl, -⟩ := List.cons.inj hes
            exact .inl rfl
        | cons y mid => simp at hes

/-- **A `FIN` cuts the closing off**: one second after the `FIN` of the sample
flow passed, the `ACK` of the server's own `FIN` is dropped. -/
theorem fin_cuts_off_close :
    let m := run Maps.step openMaps [openingSyn]
    let ack := KernelEvent.frame 2000000000 (sampleTcp tcpAck)
    Closing Gate.sampleFlow m closingFin (1000000000, tcpFin) ∧
      (spaGate m 1000000000 (sampleTcp tcpFin)).1 = .pass ∧
      KernelClock [openingSyn, closingFin, ack] ∧
      ClosingFrame Gate.sampleFlow closingFin [] 2000000000 tcpAck ∧
      (spaGate (run Maps.step m [closingFin]) 2000000000 (sampleTcp tcpAck)).1 = .drop ∧
      ¬ ClosePasses Gate.sampleFlow m closingFin [ack] := by
  intro m ack
  have hprot : isProtected m Gate.sampleFlow.dport = true := isProtected_openingSyn
  have hframe : ClosingFrame Gate.sampleFlow closingFin [] 2000000000 tcpAck := by
    refine ⟨rfl, rfl, ⟨(1000000000, tcpFin), rfl, ?_⟩, by simp [frames]⟩
    simp [Soon, flowIdleNs]
  have hpass : (spaGate m 1000000000 (sampleTcp tcpFin)).1 = .pass :=
    (pass_iff_tracked tcpHeader_sampleTcp.2.2 hprot rfl 1000000000).mpr closingFin_closing.tracked
  have hdrop : (spaGate (run Maps.step m [closingFin]) 2000000000 (sampleTcp tcpAck)).1 = .drop := by
    have hports : (run Maps.step m [closingFin]).protectedPorts = m.protectedPorts := by
      obtain ⟨established, rate, hmaps⟩ := spaGate_maps m 1000000000 (sampleTcp tcpFin)
      rw [run_cons, run_nil, closingFin, Maps.step, hmaps]
    have hprot' : isProtected (run Maps.step m [closingFin]) Gate.sampleFlow.dport = true := by
      rw [isProtected, hports]
      exact hprot
    refine drop_of_not_tracked tcpHeader_sampleTcp.2.1 hprot' rfl ?_
    rintro ⟨last, hlast, -⟩
    rw [run_cons, run_nil, closingFin_closing.lookup, if_pos hprot] at hlast
    contradiction
  refine ⟨closingFin_closing, hpass, ?_, hframe, hdrop, ?_⟩
  · simp [ack, KernelClock, openingSyn, closingFin, KernelEvent.time]
  · intro hpasses
    rw [hpasses [] 2000000000 (sampleTcp tcpAck) [] tcpAck rfl tcpHeader_sampleTcp.2.1 hframe] at hdrop
    contradiction

end SpaDevice
