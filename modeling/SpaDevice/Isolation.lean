import SpaDevice.Flows
import SpaDevice.Limiter

/-!
# SpaDevice.Isolation

What one party at the gate can do to another.

The kernel keeps its flows under the 4-tuple and its knock budgets under the
source address, so the frames of one source leave no mark on what another one
gets to see: deleting them from a run of the gate changes no verdict on the
other's frames, and nothing that the daemon decides
(`frames_of_others_do_not_matter`).  The daemon keeps its policy under the
credential and its replay cache under the nonce, so the knocks of one credential
leave no mark on the decisions about another one's, as long as nobody uses the
other one's nonces (`knocks_of_others_do_not_matter`).
-/

namespace SpaDevice

/-- The source address of a frame that `parse` understands. -/
def frameSource (bytes : List UInt8) : Option Addr :=
  match parse bytes with
  | .ok (some pkt) => some pkt.saddr
  | _ => none

/-! ## The kernel maps as one source sees them -/

/-- The maps agree on everything that a frame from `src` may depend on. -/
structure Maps.AgreeOn (src : Addr) (m m' : Maps) : Prop where
  allow : m.allow = m'.allow
  protectedPorts : m.protectedPorts = m'.protectedPorts
  config : m.config = m'.config
  established : ∀ flow, flow.saddr = src →
    m.established.lookup flow = m'.established.lookup flow
  rate : m.rate.lookup src = m'.rate.lookup src

namespace Maps

variable {src : Addr} {m m' : Maps}

theorem AgreeOn.refl (src : Addr) (m : Maps) : AgreeOn src m m :=
  ⟨rfl, rfl, rfl, fun _ _ => rfl, rfl⟩

theorem AgreeOn.symm (h : AgreeOn src m m') : AgreeOn src m' m :=
  ⟨h.allow.symm, h.protectedPorts.symm, h.config.symm, fun k hk => (h.established k hk).symm,
    h.rate.symm⟩

theorem AgreeOn.trans {m'' : Maps} (h : AgreeOn src m m') (h' : AgreeOn src m' m'') :
    AgreeOn src m m'' :=
  ⟨h.allow.trans h'.allow, h.protectedPorts.trans h'.protectedPorts, h.config.trans h'.config,
    fun k hk => (h.established k hk).trans (h'.established k hk), h.rate.trans h'.rate⟩

/-- The same write to the same flow keeps the agreement. -/
theorem AgreeOn.insert (h : AgreeOn src m m') (flow : FlowKey) (now : UInt64) :
    AgreeOn src { m with established := m.established.insert flow now }
      { m' with established := m'.established.insert flow now } :=
  { h with
    established := fun k hk => by
      rw [Dict.lookup_insert_eq, Dict.lookup_insert_eq, h.established k hk] }

theorem AgreeOn.erase (h : AgreeOn src m m') (flow : FlowKey) :
    AgreeOn src { m with established := m.established.erase flow }
      { m' with established := m'.established.erase flow } :=
  { h with
    established := fun k hk => by
      rw [Dict.lookup_erase_eq, Dict.lookup_erase_eq, h.established k hk] }

theorem AgreeOn.admitSyn (h : AgreeOn src m m') (now : UInt64) (flow : FlowKey) (flags : UInt8) :
    (SpaDevice.admitSyn m now flow flags).1 = (SpaDevice.admitSyn m' now flow flags).1 ∧
      AgreeOn src (SpaDevice.admitSyn m now flow flags).2
        (SpaDevice.admitSyn m' now flow flags).2 := by
  have hallowed : sourceAllowed m'.allow flow.saddr flow.dport now =
      sourceAllowed m.allow flow.saddr flow.dport now := by rw [h.allow]
  unfold SpaDevice.admitSyn
  rw [hallowed]
  split
  · exact ⟨rfl, h.insert flow now⟩
  · exact ⟨rfl, h⟩

/-- A frame of one of the source's own flows. -/
theorem AgreeOn.trackFlow (h : AgreeOn src m m') (now : UInt64) {flow : FlowKey}
    (hflow : flow.saddr = src) (flags : UInt8) :
    (SpaDevice.trackFlow m now flow flags).1 = (SpaDevice.trackFlow m' now flow flags).1 ∧
      AgreeOn src (SpaDevice.trackFlow m now flow flags).2
        (SpaDevice.trackFlow m' now flow flags).2 := by
  unfold SpaDevice.trackFlow
  rw [← h.established flow hflow]
  split
  · split
    · split
      · exact ⟨rfl, h.erase flow⟩
      · exact ⟨rfl, h.insert flow now⟩
    · exact (h.erase flow).admitSyn now flow flags
  · exact h.admitSyn now flow flags

/-- A frame of somebody else's flow. -/
theorem AgreeOn.trackOther (h : AgreeOn src m m') (now : UInt64) {flow : FlowKey}
    (hflow : flow.saddr ≠ src) (flags : UInt8) :
    AgreeOn src (SpaDevice.trackFlow m now flow flags).2 m' := by
  obtain ⟨est, heq⟩ : ∃ est, (SpaDevice.trackFlow m now flow flags).2 =
      { m with established := est } := by
    by_cases ht : Tracked m now flow
    · rw [trackFlow_of_tracked ht]
      exact ⟨_, rfl⟩
    · rcases trackFlow_of_not_tracked ht flags with ⟨-, -, heq⟩ | ⟨est, heq, -⟩
      · rw [heq]
        exact ⟨_, rfl⟩
      · rw [heq]
        exact ⟨est, rfl⟩
  have hest : ∀ k, k.saddr = src → est.lookup k = m.established.lookup k := by
    intro k hk
    have hne : k ≠ flow := by
      rintro rfl
      exact hflow hk
    have hkept := established_trackFlow_of_ne m now flags hne
    rw [heq] at hkept
    exact hkept
  rw [heq]
  exact { h with established := fun k hk => (hest k hk).trans (h.established k hk) }

/-- A knock datagram of the source itself. -/
theorem AgreeOn.rateOwn (h : AgreeOn src m m') (now : UInt64) :
    (rateOk m.rate src now).1 = (rateOk m'.rate src now).1 ∧
      AgreeOn src { m with rate := (rateOk m.rate src now).2 }
        { m' with rate := (rateOk m'.rate src now).2 } := by
  refine ⟨?_, { h with rate := ?_ }⟩
  · rw [rateOk_fst, rateOk_fst, h.rate]
  · rw [lookup_rateOk, lookup_rateOk, h.rate]

/-- A knock datagram of somebody else. -/
theorem AgreeOn.rateOther (h : AgreeOn src m m') {saddr : Addr} (hsaddr : saddr ≠ src)
    (now : UInt64) : AgreeOn src { m with rate := (rateOk m.rate saddr now).2 } m' := by
  refine { h with rate := ?_ }
  rw [lookup_rateOk, if_neg (Ne.symm hsaddr)]
  exact h.rate

theorem AgreeOn.isProtected (h : AgreeOn src m m') (port : UInt16) :
    SpaDevice.isProtected m port = SpaDevice.isProtected m' port := by
  rw [SpaDevice.isProtected, SpaDevice.isProtected, h.protectedPorts]

/-- Two results of the program: the same verdict, and maps that agree. -/
def SameFor (src : Addr) (r r' : Except Unit (XdpAction × Maps)) : Prop :=
  match r, r' with
  | .ok (v, m), .ok (v', m') => v = v' ∧ AgreeOn src m m'
  | .error (), .error () => True
  | _, _ => False

theorem AgreeOn.tcpGate (h : AgreeOn src m m') (now : UInt64) (bytes : List UInt8) {pkt : Packet}
    (hpkt : pkt.saddr = src) :
    SameFor src (SpaDevice.tcpGate m now bytes pkt) (SpaDevice.tcpGate m' now bytes pkt) := by
  unfold SpaDevice.tcpGate
  cases loadU16 bytes (pkt.l4Off + tcpDportOff) with
  | error e => trivial
  | ok dport =>
      simp only [except_ok_bind, ← h.isProtected dport]
      split
      · exact ⟨rfl, h⟩
      · cases loadU16 bytes (pkt.l4Off + tcpSportOff) with
        | error e => trivial
        | ok sport =>
            cases loadU8 bytes (pkt.l4Off + tcpFlagsOff) with
            | error e => trivial
            | ok flags => exact h.trackFlow now hpkt flags

theorem AgreeOn.udpGate (h : AgreeOn src m m') (now : UInt64) (bytes : List UInt8) {pkt : Packet}
    (hpkt : pkt.saddr = src) :
    SameFor src (SpaDevice.udpGate m now bytes pkt) (SpaDevice.udpGate m' now bytes pkt) := by
  unfold SpaDevice.udpGate
  cases loadU16 bytes (pkt.l4Off + udpDportOff) with
  | error e => trivial
  | ok dport =>
      simp only [except_ok_bind, ← h.config]
      split
      · exact ⟨rfl, h⟩
      · split
        · exact ⟨rfl, h⟩
        · obtain ⟨hok, hagree⟩ := h.rateOwn now
          rw [← h.config] at hagree
          rw [hpkt]
          refine ⟨?_, hagree⟩
          rw [hok]

theorem AgreeOn.tcpGateOther (h : AgreeOn src m m') {now : UInt64} {bytes : List UInt8} {pkt : Packet}
    {r : XdpAction × Maps} (hpkt : pkt.saddr ≠ src) (hr : SpaDevice.tcpGate m now bytes pkt = .ok r) :
    AgreeOn src r.2 m' := by
  obtain ⟨dport, -, hr⟩ := except_bind_eq_ok.mp hr
  split at hr
  · rw [← Except.ok.inj hr]
    exact h
  · obtain ⟨sport, -, hr⟩ := except_bind_eq_ok.mp hr
    obtain ⟨flags, -, hr⟩ := except_bind_eq_ok.mp hr
    rw [← Except.ok.inj hr]
    exact h.trackOther now hpkt flags

theorem AgreeOn.udpGateOther (h : AgreeOn src m m') {now : UInt64} {bytes : List UInt8} {pkt : Packet}
    {r : XdpAction × Maps} (hpkt : pkt.saddr ≠ src) (hr : SpaDevice.udpGate m now bytes pkt = .ok r) :
    AgreeOn src r.2 m' := by
  obtain ⟨dport, -, hr⟩ := except_bind_eq_ok.mp hr
  dsimp only at hr
  split at hr
  · rw [← Except.ok.inj hr]
    exact h
  · split at hr
    · rw [← Except.ok.inj hr]
      exact h
    · rw [← Except.ok.inj hr]
      exact h.rateOther hpkt now

/-- **A source's own frames** are judged alike on maps that agree for it. -/
theorem AgreeOn.spaGate (h : AgreeOn src m m') (now : UInt64) {bytes : List UInt8}
    (hsrc : frameSource bytes = some src) :
    (SpaDevice.spaGate m now bytes).1 = (SpaDevice.spaGate m' now bytes).1 ∧
      AgreeOn src (SpaDevice.spaGate m now bytes).2 (SpaDevice.spaGate m' now bytes).2 := by
  have hsame : SameFor src (tryGate m now bytes) (tryGate m' now bytes) := by
    unfold frameSource at hsrc
    split at hsrc
    · next pkt hp =>
        unfold tryGate
        rw [hp]
        simp only [except_ok_bind]
        split
        · exact h.tcpGate now bytes (Option.some.inj hsrc)
        · split
          · exact h.udpGate now bytes (Option.some.inj hsrc)
          · exact ⟨rfl, h⟩
    · contradiction
  unfold SpaDevice.spaGate
  cases hr : tryGate m now bytes with
  | error e =>
      cases hr' : tryGate m' now bytes with
      | error e' => exact ⟨rfl, h⟩
      | ok r' =>
          rw [hr, hr'] at hsame
          exact hsame.elim
  | ok r =>
      cases hr' : tryGate m' now bytes with
      | error e' =>
          rw [hr, hr'] at hsame
          exact hsame.elim
      | ok r' =>
          rw [hr, hr'] at hsame
          exact hsame

/-- **Somebody else's frames** change nothing that the source depends on. -/
theorem AgreeOn.spaGateOther (h : AgreeOn src m m') (now : UInt64) {bytes : List UInt8}
    (hsrc : frameSource bytes ≠ some src) : AgreeOn src (SpaDevice.spaGate m now bytes).2 m' := by
  unfold SpaDevice.spaGate
  cases htry : tryGate m now bytes with
  | error e => exact h
  | ok r =>
      obtain ⟨opkt, hp, hr⟩ := except_bind_eq_ok.mp htry
      cases opkt with
      | none =>
          rw [← Except.ok.inj hr]
          exact h
      | some pkt =>
          have hother : pkt.saddr ≠ src := by
            intro heq
            refine hsrc ?_
            rw [frameSource, hp, ← heq]
          dsimp only at hr
          split at hr
          · exact h.tcpGateOther hother hr
          · split at hr
            · exact h.udpGateOther hother hr
            · rw [← Except.ok.inj hr]
              exact h

end Maps

/-! ## The gate as one source sees it -/

/-- What a source gets to see at an event: the verdict on one of its frames, what
the daemon decides, or that something of its own was written or evicted. -/
inductive Seen where
  | verdict (action : XdpAction)
  | decision (d : Decision)
  | write

namespace Gate

variable {Cr : Type} [Crypto Cr]

/-- What the source sees of an event, if anything. -/
def seen (src : Addr) (g : Gate Cr) : GateEvent → Option Seen
  | .traffic (.knock clk packet source) =>
      some (.decision (g.keeper.admitPacket clk packet source).1)
  | .traffic (.frame now bytes) =>
      if frameSource bytes = some src then some (.verdict (spaGate g.maps now bytes).1) else none
  | .traffic (.evictFlow flow) => if flow.saddr = src then some .write else none
  | .traffic (.evictRate addr) => if addr = src then some .write else none
  | .update _ => some .write

/-- The event is a frame of another source, or an eviction of what another source
has in the maps. -/
def Foreign (src : Addr) : GateEvent → Prop
  | .traffic (.frame _ bytes) => frameSource bytes ≠ some src
  | .traffic (.evictFlow flow) => flow.saddr ≠ src
  | .traffic (.evictRate addr) => addr ≠ src
  | _ => False

theorem seen_eq_none_iff {src : Addr} {g : Gate Cr} {e : GateEvent} :
    g.seen src e = none ↔ Foreign src e := by
  match e with
  | .traffic (.knock clk packet source) => simp [seen, Foreign]
  | .traffic (.frame now bytes) => simp [seen, Foreign]
  | .traffic (.evictFlow flow) => simp [seen, Foreign]
  | .traffic (.evictRate addr) => simp [seen, Foreign]
  | .update u => simp [seen, Foreign]

/-- The daemon's part is the same, and the maps agree for the source. -/
structure AgreeFor (src : Addr) (g g' : Gate Cr) : Prop where
  keeper : g.keeper = g'.keeper
  maps : Maps.AgreeOn src g.maps g'.maps

omit [Crypto Cr] in
theorem AgreeFor.setMaps {src : Addr} {g g' : Gate Cr} (h : AgreeFor src g g') {m m' : Maps}
    (hm : Maps.AgreeOn src m m') : AgreeFor src (g.setMaps m) (g'.setMaps m') := by
  refine ⟨?_, hm⟩
  simp only [Gate.setMaps, h.keeper, hm.allow]

/-- What the source sees of an event, and what agrees for it afterwards. -/
theorem AgreeFor.step {src : Addr} {g g' : Gate Cr} (h : AgreeFor src g g') (e : GateEvent) :
    g.seen src e = g'.seen src e ∧ AgreeFor src (g.step e) (g'.step e) := by
  have hmaps := h.maps
  match e with
  | .traffic (.knock clk packet source) =>
      have hcall : g.keeper.admitPacket clk packet source =
          g'.keeper.admitPacket clk packet source := by
        rw [h.keeper]
      refine ⟨by rw [seen, seen, hcall], congrArg Prod.snd hcall, ?_⟩
      refine { hmaps with allow := ?_ }
      exact congrArg (fun r => r.2.gate.allow) hcall
  | .traffic (.frame now bytes) =>
      by_cases hsrc : frameSource bytes = some src
      · obtain ⟨hverdict, hagree⟩ := hmaps.spaGate now hsrc
        exact ⟨by rw [seen, seen, hverdict], h.setMaps hagree⟩
      · have hquiet := (Maps.AgreeOn.refl src g'.maps).spaGateOther now hsrc
        exact ⟨by simp [seen, hsrc], h.setMaps ((hmaps.spaGateOther now hsrc).trans hquiet.symm)⟩
  | .traffic (.evictFlow flow) => exact ⟨rfl, h.keeper, hmaps.erase flow⟩
  | .traffic (.evictRate addr) =>
      refine ⟨rfl, h.keeper, { hmaps with rate := ?_ }⟩
      change (g.rate.erase addr).lookup src = (g'.rate.erase addr).lookup src
      rw [Dict.lookup_erase_eq, Dict.lookup_erase_eq]
      exact congrArg _ hmaps.rate
  | .update (.setClients clients) =>
      refine ⟨rfl, ?_, hmaps⟩
      simp only [Gate.step, Gate.update, h.keeper]
  | .update (.setTokens tokens) =>
      refine ⟨rfl, ?_, hmaps⟩
      simp only [Gate.step, Gate.update, h.keeper]
  | .update (.protect port) =>
      refine ⟨rfl, h.keeper, { hmaps with protectedPorts := ?_ }⟩
      exact congrArg (fun ports => BoundedDict.insertOrKeep ports port 1) hmaps.protectedPorts
  | .update (.unprotect port) =>
      refine ⟨rfl, h.keeper, { hmaps with protectedPorts := ?_ }⟩
      exact congrArg (fun ports => BoundedDict.erase ports port) hmaps.protectedPorts

theorem keeper_frame (g : Gate Cr) (now : UInt64) (bytes : List UInt8) :
    (g.step (.traffic (.frame now bytes))).keeper = g.keeper := by
  obtain ⟨established, rate, hs⟩ := setMaps_spaGate g now bytes
  rw [step, traffic, hs]

/-- A foreign event leaves no mark. -/
theorem AgreeFor.foreign {src : Addr} {g g' : Gate Cr} (h : AgreeFor src g g') {e : GateEvent}
    (he : Foreign src e) : AgreeFor src (g.step e) g' := by
  have hmaps := h.maps
  match e with
  | .traffic (.frame now bytes) =>
      exact ⟨(keeper_frame g now bytes).trans h.keeper, hmaps.spaGateOther now he⟩
  | .traffic (.evictFlow flow) =>
      refine ⟨h.keeper, { hmaps with established := fun k hk => ?_ }⟩
      have hne : k ≠ flow := by
        rintro rfl
        exact he hk
      change (g.established.erase flow).lookup k = _
      rw [Dict.lookup_erase_eq, if_neg hne]
      exact hmaps.established k hk
  | .traffic (.evictRate addr) =>
      refine ⟨h.keeper, { hmaps with rate := ?_ }⟩
      change (g.rate.erase addr).lookup src = _
      rw [Dict.lookup_erase_eq, if_neg (Ne.symm he)]
      exact hmaps.rate

/-- **The frames of others do not matter**: take any run of the gate, with knocks,
reloads, evictions and frames from everywhere in any order, and delete any set of
frames that do not come from `src` and of evictions of what others have in the
maps.  The verdicts on the frames of `src`, the decisions on all knocks and the
daemon's state stay what they were. -/
theorem frames_of_others_do_not_matter (src : Addr) (g : Gate Cr) (es : List (GateEvent × Bool))
    (hdel : ∀ e, (e, false) ∈ es → Foreign src e) :
    keptOutputs step (seen src) g es = outputs step (seen src) g (keptEvents es) ∧
      (run step g (es.map Prod.fst)).keeper = (run step g (keptEvents es)).keeper := by
  have hunseen : DeletesOnly step (fun o => o = none) (seen src) g es := by
    refine deletesOnly_of_forall step ?_ g
    intro e he g'
    exact seen_eq_none_iff.mpr (hdel e he)
  obtain ⟨hout, hagree⟩ := keptOutputs_eq step (fun _ g g' => AgreeFor src g g')
    (fun e _ _ _ h => h.step e) (fun e _ _ _ h hnone => h.foreign (seen_eq_none_iff.mp hnone))
    (⟨rfl, Maps.AgreeOn.refl src g.maps⟩ : AgreeFor src g g) hunseen
  exact ⟨hout, hagree.keeper⟩

/-- The sample `SYN` with the address of another host. -/
def neighbourSyn : List UInt8 :=
  List.replicate 12 0 ++ [0x08, 0x00] ++
    [0x45, 0, 0, 40, 0, 0, 0, 0, 64, 6, 0, 0, 192, 0, 2, 7, 198, 51, 100, 1] ++
    [0x9c, 0x40, 0, 22, 0, 0, 0, 1, 0, 0, 0, 0, 0x50, 0x02, 0xff, 0xff, 0, 0, 0, 0]

/-- A neighbour's `SYN` to the cloaked port goes; the knock of the sample client
still opens, and its `SYN` still passes. -/
theorem frames_of_others_do_not_matter_sample :
    let es : List (GateEvent × Bool) :=
      [(.traffic (.frame 0 neighbourSyn), false),
        (.traffic (.knock (sampleClocks 1) (sampleKnock 0) sampleAddr), true),
        (.traffic (.frame 2000000000 sampleSyn), true)]
    keptOutputs step (seen (addrKey sampleAddr)) sampleInit es =
        outputs step (seen (addrKey sampleAddr)) sampleInit (keptEvents es) ∧
      (run step sampleInit (es.map Prod.fst)).keeper =
        (run step sampleInit (keptEvents es)).keeper ∧
      outputs step (seen (addrKey sampleAddr)) sampleInit (keptEvents es) =
        [some (.decision (.opened [22])), some (.verdict .pass)] := by
  intro es
  have hdel : ∀ e, (e, false) ∈ es → Foreign (addrKey sampleAddr) e := by
    intro e he
    simp only [es, List.mem_cons, Prod.mk.injEq, List.not_mem_nil, Bool.false_eq_true, and_true,
      and_false, or_false] at he
    subst he
    change frameSource neighbourSyn ≠ some (addrKey sampleAddr)
    decide
  obtain ⟨hout, hkeeper⟩ := frames_of_others_do_not_matter (addrKey sampleAddr) sampleInit es hdel
  refine ⟨hout, hkeeper, ?_⟩
  obtain ⟨opened, policy, hacc, hports, -⟩ :=
    Gatekeeper.admitPacket_sampleKnock sampleInit.keeper (sampleClocks 1) 0
      rfl rfl rfl rfl rfl rfl sampleAddr
  have hopened : (sampleInit.keeper.admitPacket (sampleClocks 1) (sampleKnock 0) sampleAddr).1 =
      .opened [22] := by
    rw [(Gatekeeper.accepted_eq_some hacc).2.2, hports]
  have hprot : isProtected
      (sampleInit.step (.traffic (.knock (sampleClocks 1) (sampleKnock 0) sampleAddr))).maps 22 =
      true := by
    have hkept (packet : List UInt8) :
        (sampleInit.step (.traffic (.knock (sampleClocks 1) packet sampleAddr))).protectedPorts =
          sampleInit.protectedPorts := rfl
    rw [isProtected_maps_iff, hkept]
    exact (isProtected_maps_iff _ _).mp isProtected_sampleInit
  have hallow : sourceAllowed
      (sampleInit.step (.traffic (.knock (sampleClocks 1) (sampleKnock 0) sampleAddr))).maps.allow
      (addrKey sampleAddr) 22 2000000000 = true := by
    rw [maps_allow]
    exact (sampleInit_allowed_iff _).mpr (by decide)
  have hpass : (spaGate
      (sampleInit.step (.traffic (.knock (sampleClocks 1) (sampleKnock 0) sampleAddr))).maps
      2000000000 sampleSyn).1 = .pass := by
    obtain ⟨m, hm⟩ := tryGate_of_allowed_syn tcpHeader_sampleSyn hprot (by decide) hallow
    rw [spaGate, hm]
  have hsource : frameSource sampleSyn = some (addrKey sampleAddr) := rfl
  simp only [es, keptEvents, List.filter_cons, List.filter_nil, if_true, Bool.false_eq_true,
    if_false, List.map_cons, List.map_nil, outputs_cons, outputs_nil, seen, hopened, hsource, hpass]

/-! ## The gate as some of the credentials see it -/

section

variable (mine : Thumbprint → Prop) [DecidablePred mine]

/-- The knock that a packet carries, if it is one of the credentials in
question. -/
def mineOf (crypto : Cr) (packet : List UInt8) : Option Opened :=
  match Crypto.openPacket crypto packet with
  | .ok opened => if mine opened.auth.keyThumbprint then some opened else none
  | .error _ => none

/-- What the credentials in question get to see: the decisions on their own
knocks, and that the policy was written. -/
def decided (g : Gate Cr) : GateEvent → Option (Option Decision)
  | .traffic (.knock clk packet source) =>
      (mineOf mine g.keeper.crypto packet).map fun _ =>
        some (g.keeper.admitPacket clk packet source).1
  | .update (.setClients _) => some none
  | .update (.setTokens _) => some none
  | _ => none

/-- The nonces of the credentials' own knocks. -/
def myNonces (crypto : Cr) (es : List GateEvent) : List Nonce :=
  es.filterMap fun
    | .traffic (.knock _ packet _) => (mineOf mine crypto packet).map fun o => o.auth.nonce
    | _ => none

/-- No knock of another credential uses a nonce of one of these. -/
def NoncesApart (crypto : Cr) (es : List GateEvent) : Prop :=
  ∀ clk packet source opened, .traffic (.knock clk packet source) ∈ es →
    Crypto.openPacket crypto packet = .ok opened → ¬ mine opened.auth.keyThumbprint →
    opened.auth.nonce ∉ myNonces mine crypto es

/-- The instants of the knocks. -/
def knockInstants (es : List GateEvent) : List Nat :=
  es.filterMap fun
    | .traffic (.knock clk _ _) => some clk.instant
    | _ => none

/-- The cores agree on everything that the credentials' own knocks among `rest`
depend on, and what is to come keeps the cache apart. -/
structure AgreeMine (rest : List GateEvent)
    (k k' : Gatekeeper Cr SharedTrust MemReplay BpfGateWriter) : Prop where
  config : k.config = k'.config
  crypto : k.crypto = k'.crypto
  suite : k.trust.suite = k'.trust.suite
  clients : k.trust.clients = k'.trust.clients
  tokens : ∀ id, mine id → k.trust.tokens.lookup id = k'.trust.tokens.lookup id
  window : k.replay.window = k'.replay.window
  live : ∀ now ∈ knockInstants rest, ∀ n ∈ myNonces mine k.crypto rest,
    (k.replay.Live now n ↔ k'.replay.Live now n)
  monotone : (knockInstants rest).Pairwise (· ≤ ·)
  apart : NoncesApart mine k.crypto rest

variable {mine} {rest : List GateEvent} {k k' : Gatekeeper Cr SharedTrust MemReplay BpfGateWriter}

theorem AgreeMine.symm (h : AgreeMine mine rest k k') : AgreeMine mine rest k' k where
  config := h.config.symm
  crypto := h.crypto.symm
  suite := h.suite.symm
  clients := h.clients.symm
  tokens := fun id hid => (h.tokens id hid).symm
  window := h.window.symm
  live := fun now hnow n hn => (h.live now hnow n (h.crypto ▸ hn)).symm
  monotone := h.monotone
  apart := h.crypto ▸ h.apart

theorem AgreeMine.trans {k'' : Gatekeeper Cr SharedTrust MemReplay BpfGateWriter}
    (h : AgreeMine mine rest k k') (h' : AgreeMine mine rest k' k'') : AgreeMine mine rest k k'' where
  config := h.config.trans h'.config
  crypto := h.crypto.trans h'.crypto
  suite := h.suite.trans h'.suite
  clients := h.clients.trans h'.clients
  tokens := fun id hid => (h.tokens id hid).trans (h'.tokens id hid)
  window := h.window.trans h'.window
  live := fun now hnow n hn => (h.live now hnow n hn).trans (h'.live now hnow n (h.crypto ▸ hn))
  monotone := h.monotone
  apart := h.apart

theorem AgreeMine.tail {e : GateEvent} (h : AgreeMine mine (e :: rest) k k') :
    AgreeMine mine rest k k' := by
  have hsub := List.sublist_cons_self e rest
  refine { h with live := ?_, monotone := ?_, apart := ?_ }
  · intro now hnow n hn
    exact h.live now ((hsub.filterMap _).subset hnow) n ((hsub.filterMap _).subset hn)
  · exact h.monotone.sublist (hsub.filterMap _)
  · intro clk packet source opened hmem hopen hmine hn
    exact h.apart clk packet source opened (List.mem_cons_of_mem _ hmem) hopen hmine
      ((hsub.filterMap _).subset hn)

theorem mineOf_eq_some {crypto : Cr} {packet : List UInt8} {opened : Opened}
    (h : mineOf mine crypto packet = some opened) :
    Crypto.openPacket crypto packet = .ok opened ∧ mine opened.auth.keyThumbprint := by
  unfold mineOf at h
  split at h
  · next opened' ho =>
      split at h
      · next hm =>
          obtain rfl := Option.some.inj h
          exact ⟨ho, hm⟩
      · contradiction
  · contradiction

/-- The other credentials' knocks. -/
theorem not_mine_of_mineOf {crypto : Cr} {packet : List UInt8} {opened : Opened}
    (h : mineOf mine crypto packet = none) (ho : Crypto.openPacket crypto packet = .ok opened) :
    ¬ mine opened.auth.keyThumbprint := by
  intro hm
  simp [mineOf, ho, hm] at h

/-- A knock of another credential changes nothing that matters. -/
theorem AgreeMine.foreign {clk : Clocks} {packet : List UInt8} {source : IpAddr}
    (h : AgreeMine mine (.traffic (.knock clk packet source) :: rest) k k')
    (hmine : mineOf mine k.crypto packet = none) :
    AgreeMine mine rest (k.admitPacket clk packet source).2 k' := by
  rcases Gatekeeper.admitPacket_cases k clk packet source with ⟨reason, -, hr⟩ | ⟨opened, policy, hacc⟩
  · rw [hr]
    exact h.tail
  · have hnot := not_mine_of_mineOf hmine hacc.openPacket
    have hnonce : ∀ n ∈ myNonces mine k.crypto rest, n ≠ opened.auth.nonce := by
      rintro n hn rfl
      exact h.apart clk packet source opened List.mem_cons_self hacc.openPacket hnot
        (((List.sublist_cons_self _ rest).filterMap _).subset hn)
    have hwindow : (k.replay.admitNonce clk.instant opened.auth.nonce).2.window = k'.replay.window :=
      (MemReplay.window_admitNonce _ _ _).trans h.window
    have hlive : ∀ now ∈ knockInstants rest, ∀ n ∈ myNonces mine k.crypto rest,
        ((k.replay.admitNonce clk.instant opened.auth.nonce).2.Live now n ↔
          k'.replay.Live now n) := by
      intro now hnow n hn
      have hle : clk.instant ≤ now := (List.pairwise_cons.mp h.monotone).1 now hnow
      rw [MemReplay.live_admitNonce _ hle, if_neg fun hc => hnonce n hn hc.1]
      exact h.tail.live now hnow n hn
    rw [Gatekeeper.admitPacket_of_accepts hacc]
    split
    · refine { h.tail with suite := ?_, clients := ?_, tokens := ?_, window := hwindow, live := hlive }
      · rw [← h.suite]
        simp only [Gatekeeper.afterOpen]
        split <;> rfl
      · rw [← h.clients]
        simp only [Gatekeeper.afterOpen]
        split <;> rfl
      · intro id hid
        rw [← h.tokens id hid]
        simp only [Gatekeeper.afterOpen]
        split
        · -- The token that is burned is another one.
          have hne : id ≠ opened.auth.keyThumbprint := by
            rintro rfl
            exact hnot hid
          exact (Dict.lookup_erase_eq _ _ _).trans (if_neg hne)
        · rfl
    · exact { h.tail with window := hwindow, live := hlive }

/-- The checks on a knock of one's own come out the same. -/
theorem AgreeMine.check_eq (h : AgreeMine mine rest k k') {packet : List UInt8} {opened : Opened}
    (hmine : mineOf mine k.crypto packet = some opened) (clk : Clocks) :
    k.check clk packet = k'.check clk packet := by
  obtain ⟨hopen, hm⟩ := mineOf_eq_some hmine
  have hlookup : TrustStore.lookup k.trust opened.auth.keyThumbprint =
      TrustStore.lookup k'.trust opened.auth.keyThumbprint := by
    change k.trust.lookup _ = k'.trust.lookup _
    unfold SharedTrust.lookup
    rw [h.clients, h.tokens _ hm, h.suite]
  have hopen' : Crypto.openPacket k'.crypto packet = .ok opened := h.crypto ▸ hopen
  simp only [Gatekeeper.check, Gatekeeper.precheck, hopen', hlookup, h.config, h.crypto]

/-- A knock of one's own is decided alike, and the cores still agree. -/
theorem AgreeMine.own {clk : Clocks} {packet : List UInt8} {source : IpAddr} {opened : Opened}
    (h : AgreeMine mine (.traffic (.knock clk packet source) :: rest) k k')
    (hmine : mineOf mine k.crypto packet = some opened) :
    (k.admitPacket clk packet source).1 = (k'.admitPacket clk packet source).1 ∧
      AgreeMine mine rest (k.admitPacket clk packet source).2 (k'.admitPacket clk packet source).2 := by
  rcases Gatekeeper.admitPacket_cases_of_check_eq (h.check_eq hmine clk) with
    ⟨reason, hr⟩ | ⟨opened', policy, hacc, hacc'⟩
  · rw [(hr source).1, (hr source).2]
    exact ⟨rfl, h.tail⟩
  · obtain ⟨hopen, hm⟩ := mineOf_eq_some hmine
    obtain rfl : opened = opened' := Except.ok.inj (hopen.symm.trans hacc.openPacket)
    have hnow : clk.instant ∈ knockInstants (.traffic (.knock clk packet source) :: rest) :=
      List.mem_cons_self
    have hn : opened.auth.nonce ∈
        myNonces mine k.crypto (.traffic (.knock clk packet source) :: rest) := by
      simp [myNonces, hmine]
    have hfresh : (k.replay.admitNonce clk.instant opened.auth.nonce).1 =
        (k'.replay.admitNonce clk.instant opened.auth.nonce).1 := by
      rw [Bool.eq_iff_iff, MemReplay.admitNonce_fst_iff, MemReplay.admitNonce_fst_iff]
      exact not_congr (h.live _ hnow _ hn)
    have hwindow : (k.replay.admitNonce clk.instant opened.auth.nonce).2.window =
        (k'.replay.admitNonce clk.instant opened.auth.nonce).2.window := by
      rw [MemReplay.window_admitNonce, MemReplay.window_admitNonce, h.window]
    have hlive : ∀ now ∈ knockInstants rest, ∀ n ∈ myNonces mine k.crypto rest,
        ((k.replay.admitNonce clk.instant opened.auth.nonce).2.Live now n ↔
          (k'.replay.admitNonce clk.instant opened.auth.nonce).2.Live now n) := by
      intro now hnow' n hn'
      have hle : clk.instant ≤ now := (List.pairwise_cons.mp h.monotone).1 now hnow'
      rw [MemReplay.live_admitNonce _ hle, MemReplay.live_admitNonce _ hle, hfresh, h.window,
        h.tail.live now hnow' n hn']
    have hfresh' : k.fresh clk opened = k'.fresh clk opened := hfresh
    rw [Gatekeeper.admitPacket_of_accepts hacc, Gatekeeper.admitPacket_of_accepts hacc', hfresh']
    split
    · refine ⟨rfl, ?_⟩
      refine { h.tail with suite := ?_, clients := ?_, tokens := ?_, window := hwindow, live := hlive }
      · simp only [Gatekeeper.afterOpen]
        split
        · exact h.suite
        · exact h.suite
      · simp only [Gatekeeper.afterOpen]
        split
        · exact h.clients
        · exact h.clients
      · intro id hid
        simp only [Gatekeeper.afterOpen]
        split
        · change (k.trust.tokens.erase _).lookup id = (k'.trust.tokens.erase _).lookup id
          rw [Dict.lookup_erase_eq, Dict.lookup_erase_eq, h.tokens id hid]
        · exact h.tokens id hid
    · exact ⟨rfl, { h.tail with window := hwindow, live := hlive }⟩

/-- An event that is kept is seen alike, and the cores still agree. -/
theorem AgreeMine.step {e : GateEvent} {g g' : Gate Cr}
    (h : AgreeMine mine (e :: rest) g.keeper g'.keeper) :
    g.decided mine e = g'.decided mine e ∧
      AgreeMine mine rest (g.step e).keeper (g'.step e).keeper := by
  match e with
  | .traffic (.knock clk packet source) =>
      cases hmine : mineOf mine g.keeper.crypto packet with
      | none =>
          have hmine' : mineOf mine g'.keeper.crypto packet = none := h.crypto ▸ hmine
          refine ⟨by simp only [decided, hmine, hmine', Option.map_none], ?_⟩
          exact (h.foreign hmine).trans ((h.symm.trans h).foreign hmine').symm
      | some opened =>
          have hmine' : mineOf mine g'.keeper.crypto packet = some opened := h.crypto ▸ hmine
          obtain ⟨hout, hagree⟩ := h.own hmine
          exact ⟨by simp only [decided, hmine, hmine', Option.map_some, hout], hagree⟩
  | .traffic (.frame now bytes) =>
      rw [keeper_frame, keeper_frame]
      exact ⟨rfl, h.tail⟩
  | .traffic (.evictFlow flow) => exact ⟨rfl, h.tail⟩
  | .traffic (.evictRate addr) => exact ⟨rfl, h.tail⟩
  | .update (.setClients clients) => exact ⟨rfl, { h.tail with clients := rfl }⟩
  | .update (.setTokens tokens) => exact ⟨rfl, { h.tail with tokens := fun _ _ => rfl }⟩
  | .update (.protect port) => exact ⟨rfl, h.tail⟩
  | .update (.unprotect port) => exact ⟨rfl, h.tail⟩

/-- An event that the credentials do not see may be left out. -/
theorem AgreeMine.delete {e : GateEvent} {g g' : Gate Cr}
    (h : AgreeMine mine (e :: rest) g.keeper g'.keeper) (hnone : g.decided mine e = none) :
    AgreeMine mine rest (g.step e).keeper g'.keeper := by
  match e with
  | .traffic (.knock clk packet source) => exact h.foreign (Option.map_eq_none_iff.mp hnone)
  | .traffic (.frame now bytes) =>
      rw [keeper_frame]
      exact h.tail
  | .traffic (.evictFlow flow) => exact h.tail
  | .traffic (.evictRate addr) => exact h.tail
  | .update (.protect port) => exact h.tail
  | .update (.unprotect port) => exact h.tail

variable (mine)

/-- **The knocks of others do not matter**: take any run of the gate, and any set
of credentials whose nonces nobody else uses.  Deleting knocks of other
credentials, datagrams that do not decrypt, frames, evictions and writes of
`PROTECTED` changes no decision on the credentials' own knocks, and none of their
tokens.  The instants of the knocks must not decrease. -/
theorem knocks_of_others_do_not_matter (g : Gate Cr) (es : List (GateEvent × Bool))
    (hmono : (knockInstants (es.map Prod.fst)).Pairwise (· ≤ ·))
    (hapart : NoncesApart mine g.keeper.crypto (es.map Prod.fst))
    (hdel : DeletesOnly step (fun o => o = none) (decided mine) g es) :
    keptOutputs step (decided mine) g es = outputs step (decided mine) g (keptEvents es) ∧
      ∀ id, mine id → (run step g (es.map Prod.fst)).keeper.trust.tokens.lookup id =
        (run step g (keptEvents es)).keeper.trust.tokens.lookup id := by
  have hstart : AgreeMine mine (es.map Prod.fst) g.keeper g.keeper :=
    ⟨rfl, rfl, rfl, rfl, fun _ _ => rfl, rfl, fun _ _ _ _ => Iff.rfl, hmono, hapart⟩
  obtain ⟨hout, hagree⟩ := keptOutputs_eq step
    (fun rest (g g' : Gate Cr) => AgreeMine mine rest g.keeper g'.keeper)
    (fun _ _ _ _ h => h.step) (fun _ _ _ _ h hnone => h.delete hnone) hstart hdel
  exact ⟨hout, hagree.tokens⟩

end

/-- Deleting a knock of the sample client before one of the sample token. -/
theorem knocks_of_others_do_not_matter_sample :
    let g := init sampleConfig sampleGate sampleTrust 5 false BoundedDict.empty 0
    let mine := fun id => id = sampleToken.tokenId
    let es : List (GateEvent × Bool) :=
      [(.traffic (.knock (sampleClocks 0) (sampleKnock 1) sampleAddr), false),
        (.traffic (.knock (sampleClocks 1) (samplePsk 0) sampleAddr), true)]
    keptOutputs step (decided mine) g es = outputs step (decided mine) g (keptEvents es) ∧
      ∀ id, mine id → (run step g (es.map Prod.fst)).keeper.trust.tokens.lookup id =
        (run step g (keptEvents es)).keeper.trust.tokens.lookup id := by
  obtain ⟨client, _, hclient, -, hcn, -, hct⟩ := Gatekeeper.accepts_sampleKnock
    (rfl : Gatekeeper.sample.config = sampleConfig) rfl rfl rfl
    (rfl : (sampleClocks 0).wall = sampleWall) 1
  obtain ⟨token, _, htoken, htt, htn, -⟩ := Gatekeeper.accepts_samplePsk
    (rfl : Gatekeeper.sample.config = sampleConfig) rfl lookup_sampleToken_clients
    lookup_sampleToken (rfl : (sampleClocks 0).wall = sampleWall) 0
  have hne : ¬ (sampleClient 5).thumbprint = sampleToken.tokenId := by decide
  intro g mine
  have hopenClient : Crypto.openPacket g.keeper.crypto (sampleKnock 1) = .ok client :=
    hclient.openPacket
  have hopenToken : Crypto.openPacket g.keeper.crypto (samplePsk 0) = .ok token := htoken.openPacket
  -- What the packets look like does not matter any more.
  clear hclient htoken
  generalize sampleKnock 1 = packet₁ at *
  generalize samplePsk 0 = packet₂ at *
  intro es
  have hclientMine : mineOf mine g.keeper.crypto packet₁ = none := by
    simp [mineOf, hopenClient, mine, hct, hne]
  have htokenMine : mineOf mine g.keeper.crypto packet₂ = some token := by
    simp [mineOf, hopenToken, mine, htt]
  have hnonces : myNonces mine g.keeper.crypto (es.map Prod.fst) = [beArr 16 0] := by
    simp [myNonces, es, hclientMine, htokenMine, htn]
  refine knocks_of_others_do_not_matter mine g es ?_ ?_ ?_
  · simp [knockInstants, es, sampleClocks]
  · intro clk packet source opened hmem hopen hmine
    rw [hnonces]
    simp only [es, List.map_cons, List.map_nil, List.mem_cons, GateEvent.traffic.injEq,
      Traffic.knock.injEq, List.not_mem_nil, or_false] at hmem
    rcases hmem with ⟨-, rfl, -⟩ | ⟨-, rfl, -⟩
    · obtain rfl := Except.ok.inj (hopen.symm.trans hopenClient)
      rw [hcn, List.mem_singleton]
      exact beArr_ne (by decide) (by decide) (by decide)
    · obtain rfl := Except.ok.inj (hopen.symm.trans hopenToken)
      exact absurd htt hmine
  · intro o ho hfalse
    rcases List.mem_cons.mp ho with rfl | ho
    · change (mineOf mine g.keeper.crypto packet₁).map _ = none
      rw [hclientMine]
      rfl
    · rw [List.mem_singleton.mp ho] at hfalse
      contradiction

end Gate

end SpaDevice
