import SpaDevice.Gate
import SpaDevice.Transparent
import Mathlib.Data.List.Chain

/-!
# SpaDevice.Cloak

Why a frame may pass to a protected port.  Every `ALLOW` entry goes back to an
accepted knock (`allow_provenance`), and every `ESTABLISHED` entry goes back to
an admitted `SYN` and an unbroken chain of frames since
(`established_provenance`).  Both are invariants that relate the state to the
run so far, and both survive grants that are overwritten, evictions, reloads of
ports and clients, and any combination of TCP flags.

The frames of a flow are those recorded by `flowHit`: frames with the flow's
4-tuple, processed while its destination port is protected.
-/

namespace SpaDevice

/-- The reading of the monotonic clock an event carries. -/
def GateEvent.time : GateEvent → Option UInt64
  | .traffic (.knock clk _ _) => some clk.mono
  | .traffic (.frame now _) => some now
  | _ => none

/-- The monotonic clock never goes backwards along the events. -/
def ClockMonotone (es : List GateEvent) : Prop := (es.filterMap GateEvent.time).Pairwise (· ≤ ·)

theorem ClockMonotone.of_append {es es' : List GateEvent} (h : ClockMonotone (es ++ es')) :
    ClockMonotone es := by
  rw [ClockMonotone, List.filterMap_append, List.pairwise_append] at h
  exact h.1

/-- Every earlier reading is at most a later one. -/
theorem ClockMonotone.le {es : List GateEvent} {e₀ e : GateEvent} {t₀ t : UInt64}
    (h : ClockMonotone (es ++ [e])) (h₀ : e₀ ∈ es) (ht₀ : e₀.time = some t₀)
    (ht : e.time = some t) : t₀ ≤ t := by
  rw [ClockMonotone, List.filterMap_append, List.pairwise_append] at h
  exact h.2.2 t₀ (List.mem_filterMap.mpr ⟨e₀, h₀, ht₀⟩) t
    (List.mem_filterMap.mpr ⟨e, List.mem_singleton_self e, ht⟩)

namespace Gate

variable {Cr : Type} [Crypto Cr]

/-! ## Grants come from accepted knocks -/

/-- The event is an accepted knock that wrote `grant` for `addr`. -/
def WritesGrant (addr : Addr) (grant : Grant) (g : Gate Cr) (e : GateEvent) : Prop :=
  ∃ clk packet source ports, e = .traffic (.knock clk packet source) ∧
    (g.keeper.admitPacket clk packet source).1 = .opened ports ∧ addrKey source = addr ∧
    grant = Grant.make (satAdd clk.mono g.keeper.config.pinholeNanos) ports

/-- Every grant in `ALLOW` was written by an accepted knock of the run. -/
theorem allow_provenance {g : Gate Cr} (hg : g.allow = BoundedDict.empty) (es : List GateEvent) :
    ∀ addr grant, (run step g es).allow.get addr = some grant →
      Occurs step (WritesGrant addr grant) g es := by
  refine run_history step (I := fun es g' => ∀ addr grant, g'.allow.get addr = some grant →
    Occurs step (WritesGrant addr grant) g es) ?_ ?_ es
  · intro addr grant h
    rw [hg, BoundedDict.get_empty] at h
    contradiction
  · intro es e ih addr grant h
    rcases allow_step (run step g es) e with hsame | ⟨clk, packet, source, ports, rfl, hd, hins⟩
    · rw [hsame] at h
      exact (ih addr grant h).append [e]
    · rw [hins, BoundedDict.get_insertOrKeep] at h
      split at h
      · next hkey =>
          exact Occurs.last ⟨clk, packet, source, ports, rfl, hd, hkey.2.symm,
            (Option.some.inj h).symm⟩
      · exact (ih addr grant h).append _

/-- The event is an accepted knock from `addr` for `port` whose pinhole covers
the time `t`. -/
def Opens (addr : Addr) (port : UInt16) (t : UInt64) (g : Gate Cr) (e : GateEvent) : Prop :=
  ∃ clk packet source ports, e = .traffic (.knock clk packet source) ∧
    (g.keeper.admitPacket clk packet source).1 = .opened ports ∧ addrKey source = addr ∧ port ∈ ports ∧
    clk.mono ≤ t ∧ t.toNat < clk.mono.toNat + g.keeper.config.pinholeNanos.toNat

/-- A source that is allowed at the time of the next event was opened by an
earlier knock. -/
theorem opens_of_sourceAllowed {g : Gate Cr} (hg : g.allow = BoundedDict.empty)
    {es : List GateEvent} {e : GateEvent} {addr : Addr} {port : UInt16} {now : UInt64}
    (hclock : ClockMonotone (es ++ [e])) (hnow : e.time = some now)
    (h : sourceAllowed (run step g es).allow addr port now = true) :
    Occurs step (Opens addr port now) g es := by
  obtain ⟨grant, hget, hexp, hport⟩ := (sourceAllowed_iff _ _ _ _).mp h
  obtain ⟨before, e', after, rfl, clk, packet, source, ports, rfl, hd, hkey, rfl⟩ :=
    allow_provenance hg es addr grant hget
  have hlt := UInt64.lt_iff_toNat_lt.mp hexp
  rw [Grant.expiryNs_make, toNat_satAdd] at hlt
  have hmem : port ∈ ports := List.mem_of_mem_take ((Grant.allowsPort_make _ _ _).mp hport)
  have hin : GateEvent.traffic (.knock clk packet source) ∈
      before ++ GateEvent.traffic (.knock clk packet source) :: after := by simp
  have hle : clk.mono ≤ now := hclock.le hin rfl hnow
  exact ⟨before, _, after, rfl, clk, packet, source, ports, rfl, hd, hkey, hmem, hle, by omega⟩

/-! ## Flows -/

/-- The time and flags of a frame of the flow that is processed while the
flow's destination port is protected. -/
def flowHit (flow : FlowKey) (g : Gate Cr) : GateEvent → Option (UInt64 × UInt8)
  | .traffic (.frame now bytes) =>
      match tcpHeader bytes with
      | some (f, flags) =>
          if f = flow ∧ isProtected g.maps flow.dport then some (now, flags) else none
      | none => none
  | _ => none

/-- The frames of the flow along a run. -/
def flowLog (flow : FlowKey) (g : Gate Cr) (es : List GateEvent) : List (UInt64 × UInt8) :=
  record step (flowHit flow) g es

omit [Crypto Cr] in
theorem flowHit_eq_some {flow : FlowKey} {g : Gate Cr} {e : GateEvent} {now : UInt64}
    {flags : UInt8} (h : flowHit flow g e = some (now, flags)) :
    ∃ bytes, e = .traffic (.frame now bytes) ∧ tcpHeader bytes = some (flow, flags) ∧
      isProtected g.maps flow.dport = true := by
  match e with
  | .traffic (.frame now' bytes) =>
      unfold flowHit at h
      dsimp only at h
      split at h
      · next f flags' hh =>
          split at h
          · next hf =>
              obtain ⟨rfl, rfl⟩ := Prod.mk.inj (Option.some.inj h)
              exact ⟨bytes, rfl, by rw [hh, hf.1], hf.2⟩
          · contradiction
      · contradiction

omit [Crypto Cr] in
/-- A frame without the header of a protected flow hits no flow. -/
theorem flowHit_eq_none {g : Gate Cr} {bytes : List UInt8}
    (h : ∀ f flags, tcpHeader bytes = some (f, flags) → isProtected g.maps f.dport = false)
    {flow : FlowKey} {now : UInt64} : flowHit flow g (.traffic (.frame now bytes)) = none := by
  unfold flowHit
  dsimp only
  split
  · next f flags hh =>
      rw [if_neg]
      rintro ⟨rfl, hprot⟩
      rw [h f flags hh] at hprot
      contradiction
  · rfl

/-- **Why a flow has an entry after an event**: it had it already and the
event is not one of its frames; or the event is a frame of the flow, which was
tracked and not idle and goes on, or which starts the flow as an allowed
`SYN`. -/
theorem established_step {g : Gate Cr} {e : GateEvent} {flow : FlowKey} {last : UInt64}
    (h : (g.step e).established.lookup flow = some last) :
    (g.established.lookup flow = some last ∧ flowHit flow g e = none) ∨
    ∃ flags, flowHit flow g e = some (last, flags) ∧
      ((∃ prev, g.established.lookup flow = some prev ∧ last - prev < flowIdleNs ∧
          isFinRst flags = false) ∨
        (isSyn flags = true ∧ sourceAllowed g.allow flow.saddr flow.dport last = true)) := by
  match e with
  | .traffic (.frame now bytes) =>
      change (spaGate g.maps now bytes).2.established.lookup flow = some last at h
      rcases spaGate_cases g.maps now bytes with ⟨f, flags, hh, hprot, htrack⟩ | ⟨hn, rate, hrate⟩
      · rw [htrack] at h
        by_cases hf : flow = f
        · subst hf
          obtain ⟨rfl, hcase⟩ := established_trackFlow_self h
          exact .inr ⟨flags, by simp [flowHit, hh, hprot], hcase⟩
        · have hf' : ¬ f = flow := fun he => hf he.symm
          rw [established_trackFlow_of_ne g.maps now flags hf] at h
          exact .inl ⟨h, by simp [flowHit, hh, hf']⟩
      · rw [hrate] at h
        exact .inl ⟨h, flowHit_eq_none hn⟩
  | .traffic (.knock clk packet source) => exact .inl ⟨h, rfl⟩
  | .traffic (.evictFlow f) =>
      change (g.established.erase f).lookup flow = some last at h
      rw [Dict.lookup_erase_eq] at h
      split at h
      · contradiction
      · exact .inl ⟨h, rfl⟩
  | .traffic (.evictRate addr) => exact .inl ⟨h, rfl⟩
  | .update (.setClients clients) => exact .inl ⟨h, rfl⟩
  | .update (.setTokens tokens) => exact .inl ⟨h, rfl⟩
  | .update (.protect port) => exact .inl ⟨h, rfl⟩
  | .update (.unprotect port) => exact .inl ⟨h, rfl⟩

omit [Crypto Cr] in
/-- Why a frame to a protected port passes: its flow is tracked and not idle,
or it is an allowed `SYN`. -/
theorem pass_cases {g : Gate Cr} {now : UInt64} {bytes : List UInt8} {flow : FlowKey}
    {flags : UInt8} (hh : tcpHeader bytes = some (flow, flags))
    (hprot : isProtected g.maps flow.dport = true)
    (h : (spaGate g.maps now bytes).1 = .pass) :
    (∃ prev, g.established.lookup flow = some prev ∧ now - prev < flowIdleNs) ∨
      (isSyn flags = true ∧ sourceAllowed g.allow flow.saddr flow.dport now = true) := by
  rw [spaGate, tryGate_of_tcpHeader hh, if_pos hprot] at h
  by_cases ht : Tracked g.maps now flow
  · exact .inl ht
  · rcases trackFlow_of_not_tracked ht flags with ⟨hsyn, hallow, -⟩ | ⟨est, heq, -⟩
    · exact .inr ⟨hsyn, hallow⟩
    · rw [heq] at h
      contradiction

/-! ## Chains of frames -/

/-- The next frame came less than the idle limit after the previous one. -/
def Follows (a b : UInt64 × UInt8) : Prop := b.1.toNat < a.1.toNat + flowIdleNs.toNat

/-- The flow was started by `first`, an allowed `SYN` at `t₀` in the run's
state after `before`, and its frames from there to the end of the run follow
each other without an idle gap. -/
structure Chain (flow : FlowKey) (g : Gate Cr) (before : List GateEvent) (first : GateEvent)
    (after : List GateEvent) (t₀ : UInt64) : Prop where
  syn : ∃ flags, flowHit flow (run step g before) first = some (t₀, flags) ∧ isSyn flags = true
  opened : Occurs step (Opens flow.saddr flow.dport t₀) g before
  gaps : (flowLog flow (run step g before) (first :: after)).IsChain Follows

/-- The frames of the chain. -/
abbrev chainLog (flow : FlowKey) (g : Gate Cr) (before : List GateEvent) (first : GateEvent)
    (after : List GateEvent) : List (UInt64 × UInt8) :=
  flowLog flow (run step g before) (first :: after)

/-- The run so far justifies an entry `last` of the flow: a chain that ends at
`last` and in which no frame after the first carries `FIN` or `RST`. -/
def Justified (flow : FlowKey) (last : UInt64) (g : Gate Cr) (es : List GateEvent) : Prop :=
  ∃ before first after t₀ flags, es = before ++ first :: after ∧
    Chain flow g before first after t₀ ∧
    (chainLog flow g before first after).getLast? = some (last, flags) ∧
    ∀ x ∈ (chainLog flow g before first after).tail, isFinRst x.2 = false

theorem chainLog_concat (flow : FlowKey) (g : Gate Cr) (before : List GateEvent)
    (first : GateEvent) (after : List GateEvent) (e : GateEvent) :
    chainLog flow g before first (after ++ [e]) =
      chainLog flow g before first after ++
        (flowHit flow (run step g (before ++ first :: after)) e).toList := by
  rw [chainLog, flowLog, ← List.cons_append, record_concat, ← run_append]
  rfl

/-- A chain starts with its first frame. -/
theorem Chain.log_ne_nil {flow : FlowKey} {g : Gate Cr} {before after : List GateEvent}
    {first : GateEvent} {t₀ : UInt64} (h : Chain flow g before first after t₀) :
    chainLog flow g before first after ≠ [] := by
  obtain ⟨flags, hhit, -⟩ := h.syn
  rw [chainLog, flowLog, record_cons, hhit]
  simp

/-- A chain of one frame. -/
theorem Chain.singleton {flow : FlowKey} {g : Gate Cr} {es : List GateEvent} {e : GateEvent}
    {t₀ : UInt64} {flags : UInt8} (hhit : flowHit flow (run step g es) e = some (t₀, flags))
    (hsyn : isSyn flags = true) (hopen : Occurs step (Opens flow.saddr flow.dport t₀) g es) :
    Chain flow g es e [] t₀ ∧ chainLog flow g es e [] = [(t₀, flags)] := by
  have hlog : chainLog flow g es e [] = [(t₀, flags)] := by
    rw [chainLog, flowLog, record_cons, hhit]
    rfl
  refine ⟨⟨⟨flags, hhit, hsyn⟩, hopen, ?_⟩, hlog⟩
  change (chainLog flow g es e []).IsChain Follows
  rw [hlog]
  exact List.IsChain.singleton _

/-- A frame of the flow that is not idle prolongs its chain. -/
theorem Chain.concat {flow : FlowKey} {g : Gate Cr} {before after : List GateEvent}
    {first e : GateEvent} {t₀ prev now : UInt64} {pflags flags : UInt8}
    (h : Chain flow g before first after t₀)
    (hlast : (chainLog flow g before first after).getLast? = some (prev, pflags))
    (hhit : flowHit flow (run step g (before ++ first :: after)) e = some (now, flags))
    (hfollows : Follows (prev, pflags) (now, flags)) :
    Chain flow g before first (after ++ [e]) t₀ ∧
      chainLog flow g before first (after ++ [e]) =
        chainLog flow g before first after ++ [(now, flags)] := by
  have hlog := chainLog_concat flow g before first after e
  rw [hhit] at hlog
  refine ⟨⟨h.syn, h.opened, ?_⟩, hlog⟩
  change (chainLog flow g before first (after ++ [e])).IsChain Follows
  rw [hlog]
  refine h.gaps.append (List.IsChain.singleton _) ?_
  intro x hx y hy
  have hx' : x = (prev, pflags) := Option.some.inj (hx.symm.trans hlast)
  have hy' : y = (now, flags) := (Option.some.inj hy).symm
  rw [hx', hy']
  exact hfollows

/-- An event that is no frame of the flow leaves its chain as it is. -/
theorem Chain.concat_other {flow : FlowKey} {g : Gate Cr} {before after : List GateEvent}
    {first e : GateEvent} {t₀ : UInt64} (h : Chain flow g before first after t₀)
    (hhit : flowHit flow (run step g (before ++ first :: after)) e = none) :
    Chain flow g before first (after ++ [e]) t₀ ∧
      chainLog flow g before first (after ++ [e]) = chainLog flow g before first after := by
  have hlog := chainLog_concat flow g before first after e
  rw [hhit] at hlog
  have hlog' : chainLog flow g before first (after ++ [e]) = chainLog flow g before first after := by
    rw [hlog]
    exact List.append_nil _
  refine ⟨⟨h.syn, h.opened, ?_⟩, hlog'⟩
  change (chainLog flow g before first (after ++ [e])).IsChain Follows
  rw [hlog']
  exact h.gaps

/-- The end of a chain is the time of one of the run's frames. -/
theorem mem_of_chainLog {flow : FlowKey} {g : Gate Cr} {before after : List GateEvent}
    {first : GateEvent} {last : UInt64} {flags : UInt8}
    (hlast : (chainLog flow g before first after).getLast? = some (last, flags)) :
    ∃ bytes, GateEvent.traffic (.frame last bytes) ∈ before ++ first :: after := by
  have hmem : (last, flags) ∈ chainLog flow g before first after := List.mem_of_getLast? hlast
  obtain ⟨b, f, a, heq, hf⟩ := mem_record_iff.mp hmem
  obtain ⟨bytes, rfl, -, -⟩ := flowHit_eq_some hf
  refine ⟨bytes, ?_⟩
  rw [heq]
  simp

/-- A frame within the idle limit of the end of a chain follows it. -/
theorem follows_of_idle {flow : FlowKey} {g : Gate Cr} {before after : List GateEvent}
    {first e : GateEvent} {prev now : UInt64} {pflags flags : UInt8}
    (hclock : ClockMonotone ((before ++ first :: after) ++ [e])) (hnow : e.time = some now)
    (hlast : (chainLog flow g before first after).getLast? = some (prev, pflags))
    (hidle : now - prev < flowIdleNs) : Follows (prev, pflags) (now, flags) := by
  obtain ⟨bytes, hin⟩ := mem_of_chainLog hlast
  have hle : prev ≤ now := hclock.le hin rfl hnow
  have hlt := UInt64.lt_iff_toNat_lt.mp hidle
  rw [UInt64.toNat_sub_of_le _ _ hle] at hlt
  have hle' := UInt64.le_iff_toNat_le.mp hle
  change now.toNat < prev.toNat + flowIdleNs.toNat
  omega

/-- **Every tracked flow is justified** by the run so far. -/
theorem established_provenance {g : Gate Cr} (hallow : g.allow = BoundedDict.empty)
    (hest : g.established = ∅) (es : List GateEvent) :
    ClockMonotone es → ∀ flow last, (run step g es).established.lookup flow = some last →
      Justified flow last g es := by
  refine run_history step (I := fun es g' => ClockMonotone es → ∀ flow last,
    g'.established.lookup flow = some last → Justified flow last g es) ?_ ?_ es
  · intro _ flow last h
    rw [hest] at h
    contradiction
  · intro es e ih hclock flow last h
    rcases established_step h with ⟨hprev, hnone⟩ | ⟨flags, hhit, hcase⟩
    · obtain ⟨before, first, after, t₀, flags, rfl, hchain, hlast, hquiet⟩ :=
        ih hclock.of_append flow last hprev
      obtain ⟨hchain', hlog⟩ := hchain.concat_other hnone
      refine ⟨before, first, after ++ [e], t₀, flags, by simp, hchain', ?_, ?_⟩
      · rw [hlog]; exact hlast
      · rw [hlog]; exact hquiet
    · obtain ⟨bytes, hframe, -, -⟩ := flowHit_eq_some hhit
      have hnow : e.time = some last := by rw [hframe]; rfl
      rcases hcase with ⟨prev, hprev, hidle, hfin⟩ | ⟨hsyn, hallowed⟩
      · obtain ⟨before, first, after, t₀, pflags, rfl, hchain, hlast, hquiet⟩ :=
          ih hclock.of_append flow prev hprev
        obtain ⟨hchain', hlog⟩ :=
          hchain.concat hlast hhit (follows_of_idle hclock hnow hlast hidle)
        refine ⟨before, first, after ++ [e], t₀, flags, by simp, hchain', ?_, ?_⟩
        · rw [hlog, List.getLast?_concat]
        · rw [hlog, List.tail_append_of_ne_nil hchain.log_ne_nil]
          intro x hx
          rcases List.mem_append.mp hx with hx | hx
          · exact hquiet x hx
          · rw [List.mem_singleton.mp hx]
            exact hfin
      · obtain ⟨hchain, hlog⟩ := Chain.singleton hhit hsyn
          (opens_of_sourceAllowed hallow hclock hnow hallowed)
        refine ⟨es, e, [], last, flags, rfl, hchain, ?_, ?_⟩
        · rw [hlog]; rfl
        · rw [hlog]; simp

/-- A frame that passes to a protected port ends a chain: its own flow was
justified and not idle, or it is an allowed `SYN` itself. -/
theorem chain_of_pass {g : Gate Cr} (hallow : g.allow = BoundedDict.empty) (hest : g.established = ∅)
    {es : List GateEvent} {t : UInt64} {bytes : List UInt8} {flow : FlowKey} {flags : UInt8}
    (hclock : ClockMonotone (es ++ [.traffic (.frame t bytes)]))
    (hh : tcpHeader bytes = some (flow, flags))
    (hprot : isProtected (run step g es).maps flow.dport = true)
    (hpass : (spaGate (run step g es).maps t bytes).1 = .pass) :
    ∃ before first after t₀, es ++ [.traffic (.frame t bytes)] = before ++ first :: after ∧
      Chain flow g before first after t₀ ∧
      (chainLog flow g before first after).getLast? = some (t, flags) ∧
      ∀ x ∈ (chainLog flow g before first after).tail.dropLast, isFinRst x.2 = false := by
  have hhit : flowHit flow (run step g es) (.traffic (.frame t bytes)) = some (t, flags) := by
    simp [flowHit, hh, hprot]
  rcases pass_cases hh hprot hpass with ⟨prev, hprev, hidle⟩ | ⟨hsyn, hallowed⟩
  · obtain ⟨before, first, after, t₀, pflags, rfl, hchain, hlast, hquiet⟩ :=
      established_provenance hallow hest es hclock.of_append flow prev hprev
    obtain ⟨hchain', hlog⟩ := hchain.concat hlast hhit (follows_of_idle hclock rfl hlast hidle)
    refine ⟨before, first, after ++ [.traffic (.frame t bytes)], t₀, by simp, hchain', ?_, ?_⟩
    · rw [hlog, List.getLast?_concat]
    · rw [hlog, List.tail_append_of_ne_nil hchain.log_ne_nil, List.dropLast_concat]
      exact hquiet
  · obtain ⟨hchain, hlog⟩ := Chain.singleton hhit hsyn
      (opens_of_sourceAllowed hallow hclock rfl hallowed)
    refine ⟨es, .traffic (.frame t bytes), [], t, rfl, hchain, ?_, ?_⟩
    · rw [hlog]; rfl
    · rw [hlog]; simp

/-- **Cloak soundness**: in every run of a fresh gate whose monotonic clock
never goes backwards, a complete TCP frame that `try_gate` passes to a
protected port ends a chain of frames of its flow, each less than the idle
limit after the one before and none strictly inside it with `FIN` or `RST`.
The chain starts with a pure `SYN` at some `t₀`, and an accepted knock from the
same address and for the same port came before it, its pinhole covering
`t₀`. -/
theorem tryGate_pass_sound (config : Config) (crypto : Cr) (trust : SharedTrust) (window : Nat)
    (nftFloor : Bool) (protectedPorts : ProtectedMap) (knockPort : UInt16)
    (es : List GateEvent) (t : UInt64) (bytes : List UInt8) (pkt : Packet) (d : UInt16) (m : Maps)
    (hclock : ClockMonotone (es ++ [.traffic (.frame t bytes)]))
    (hparse : parse bytes = .ok (some pkt)) (htcp : pkt.proto = ipprotoTcp)
    (hlen : pkt.l4Off + tcpFlagsOff < bytes.length)
    (hport : loadU16 bytes (pkt.l4Off + tcpDportOff) = .ok d) :
    let g := init config crypto trust window nftFloor protectedPorts knockPort
    d ∈ (run step g es).protectedPorts.keys →
    tryGate (run step g es).maps t bytes = .ok (.pass, m) →
    ∃ flow flags, tcpHeader bytes = some (flow, flags) ∧
      flow.saddr = pkt.saddr ∧ flow.daddr = pkt.daddr ∧ flow.dport = d ∧
      ∃ before first after t₀ flags₀,
        es ++ [.traffic (.frame t bytes)] = before ++ first :: after ∧
        flowHit flow (run step g before) first = some (t₀, flags₀) ∧ isSyn flags₀ = true ∧
        (flowLog flow (run step g before) (first :: after)).IsChain Follows ∧
        (flowLog flow (run step g before) (first :: after)).getLast? = some (t, flags) ∧
        (∀ x ∈ (flowLog flow (run step g before) (first :: after)).tail.dropLast,
          isFinRst x.2 = false) ∧
        ∃ clk packet source ports earlier later,
          before = earlier ++ .traffic (.knock clk packet source) :: later ∧
          ((run step g earlier).keeper.admitPacket clk packet source).1 = .opened ports ∧
          addrKey source = flow.saddr ∧ d ∈ ports ∧
          clk.mono ≤ t₀ ∧ t₀.toNat < clk.mono.toNat + config.pinholeNanos.toNat := by
  intro g hprot hpass
  obtain ⟨flow, flags, hh⟩ := (tcpHeader_isSome_iff hparse htcp).mpr hlen
  obtain ⟨pkt', hparse', -, hd, -, -, hsaddr, hdaddr⟩ := (tcpHeader_eq_some_iff bytes flow flags).mp hh
  obtain rfl : pkt = pkt' := Option.some.inj (Except.ok.inj (hparse.symm.trans hparse'))
  obtain rfl : d = flow.dport := Except.ok.inj (hport.symm.trans hd)
  have hprot' := (isProtected_maps_iff (run step g es) flow.dport).mpr hprot
  have hpass' : (spaGate (run step g es).maps t bytes).1 = .pass := by
    rw [spaGate, hpass]
  obtain ⟨before, first, after, t₀, heq, hchain, hlast, hquiet⟩ :=
    chain_of_pass rfl rfl hclock hh hprot' hpass'
  obtain ⟨flags₀, hhit, hsyn⟩ := hchain.syn
  obtain ⟨earlier, e, later, hbefore, clk, packet, source, ports, rfl, hd, hkey, hmem, hle, hlt⟩ :=
    hchain.opened
  rw [(config_run g earlier).1] at hlt
  exact ⟨flow, flags, hh, hsaddr, hdaddr, rfl, before, first, after, t₀, flags₀, heq, hhit, hsyn,
    hchain.gaps, hlast, hquiet, clk, packet, source, ports, earlier, later, hbefore, hd, hkey, hmem,
    hle, hlt⟩

/-- A `SYN` from the sample address, port 40000, to port 22. -/
def sampleSyn : List UInt8 :=
  List.replicate 12 0 ++ [0x08, 0x00] ++
    [0x45, 0, 0, 40, 0, 0, 0, 0, 64, 6, 0, 0, 192, 0, 2, 1, 198, 51, 100, 1] ++
    [0x9c, 0x40, 0, 22, 0, 0, 0, 1, 0, 0, 0, 0, 0x50, 0x02, 0xff, 0xff, 0, 0, 0, 0]

/-- The sample gate with port 22 cloaked. -/
def sampleInit : Gate (GateKeypair transparent) :=
  init sampleConfig sampleGate sampleTrust 5000000000 false (BoundedDict.empty.insertOrKeep 22 1)
    62201

/-- The sample client's knock at 1 second writes its grant. -/
theorem allow_sampleInit :
    (sampleInit.step (.traffic (.knock (sampleClocks 1) (sampleKnock 0) sampleAddr))).allow =
      sampleInit.allow.insertOrKeep (addrKey sampleAddr) (Grant.make 31000000000 [22]) := by
  obtain ⟨opened, policy, hacc, hports, -⟩ :=
    Gatekeeper.admitPacket_sampleKnock sampleInit.keeper (sampleClocks 1) 0
      rfl rfl rfl rfl rfl rfl sampleAddr
  rw [step, traffic, allow, (Gatekeeper.accepted_eq_some hacc).2.2, ← hports]
  rfl

/-- After the knock the client's address is allowed on port 22, and only until
31 seconds. -/
theorem sampleInit_allowed_iff (now : UInt64) :
    sourceAllowed
      (sampleInit.step (.traffic (.knock (sampleClocks 1) (sampleKnock 0) sampleAddr))).allow
      (addrKey sampleAddr) 22 now = true ↔ now < 31000000000 := by
  have hfits : sampleInit.allow.Fits (addrKey sampleAddr) := .inr (by decide)
  have hport : (Grant.make 31000000000 [22]).allowsPort 22 = true :=
    (Grant.allowsPort_make _ _ _).mpr (by decide)
  rw [sourceAllowed, allow_sampleInit, BoundedDict.get_insertOrKeep, if_pos ⟨hfits, rfl⟩]
  simp only [hport, Grant.expiryNs_make, Bool.and_true, decide_eq_true_eq]

/-- The sample client knocks, and a second later its `SYN` to the cloaked port
passes. -/
theorem tryGate_pass_sound_sample :
    let knock := GateEvent.traffic (.knock (sampleClocks 1) (sampleKnock 0) sampleAddr)
    (∃ m, tryGate (run step sampleInit [knock]).maps 2000000000 sampleSyn = .ok (.pass, m)) ∧
    ∃ clk packet source, ∃ ports : List UInt16, ∃ t₀ : UInt64,
      .traffic (.knock clk packet source) ∈ [knock, .traffic (.frame 2000000000 sampleSyn)] ∧
      addrKey source = addrKey sampleAddr ∧ 22 ∈ ports ∧ clk.mono ≤ t₀ ∧
      t₀.toNat < clk.mono.toNat + sampleConfig.pinholeNanos.toNat := by
  intro knock
  have hheader : tcpHeader sampleSyn =
      some (⟨addrKey sampleAddr, mappedV4 ⟨[198, 51, 100, 1], rfl⟩, 40000, 22⟩, 2) := rfl
  have hprot : (22 : UInt16) ∈ (run step sampleInit [knock]).protectedPorts.keys := by
    change 22 ∈ (BoundedDict.empty.insertOrKeep 22 1 : ProtectedMap).keys
    rw [BoundedDict.keys_insertOrKeep, if_pos (.inr (by decide))]
    exact Finset.mem_insert_self _ _
  have hallow : sourceAllowed (run step sampleInit [knock]).maps.allow (addrKey sampleAddr) 22
      2000000000 = true := by
    rw [maps_allow, run_cons, run_nil]
    exact (sampleInit_allowed_iff _).mpr (by decide)
  have hpass : ∃ m, tryGate (run step sampleInit [knock]).maps 2000000000 sampleSyn =
      .ok (.pass, m) :=
    tryGate_of_allowed_syn hheader ((isProtected_maps_iff _ _).mpr hprot) (by decide) hallow
  refine ⟨hpass, ?_⟩
  obtain ⟨m, hpass⟩ := hpass
  obtain ⟨flow, flags, hh, -, -, -, before, first, after, t₀, -, heq, -, -, -, -, -,
    clk, packet, source, ports, earlier, later, hbefore, -, hkey, hport, hle, hlt⟩ :=
    tryGate_pass_sound sampleConfig sampleGate sampleTrust 5000000000 false
      (BoundedDict.empty.insertOrKeep 22 1) 62201 [knock] 2000000000 sampleSyn
      ⟨addrKey sampleAddr, mappedV4 ⟨[198, 51, 100, 1], rfl⟩, 6, 34⟩ 22 m
      (by simp [ClockMonotone, GateEvent.time, knock, sampleClocks]) rfl rfl (by decide) rfl
      hprot hpass
  refine ⟨clk, packet, source, ports, t₀, ?_, ?_, hport, hle, hlt⟩
  · change _ ∈ [knock] ++ [.traffic (.frame 2000000000 sampleSyn)]
    rw [heq, hbefore]
    simp
  · rw [hkey, ← (Prod.mk.inj (Option.some.inj (hheader.symm.trans hh))).1]

end Gate

end SpaDevice
