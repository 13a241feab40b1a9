import SpaDevice.Adapters
import SpaDevice.Result

/-!
# SpaDevice.Xdp

The XDP data plane (`spa-ebpf`): the kernel maps, the bounds-checked parser
and the verdict on one frame.

TCP to a protected port passes when its flow is tracked and not idle, or when
it is a pure `SYN` from a source with a live grant; everything else to that
port is dropped.  UDP to the knock port is size-filtered and rate-limited.
All other traffic passes.

A frame is the byte list between `data` and `data_end`; `now` is the reading
of `bpf_ktime_get_ns`.  `tcpHeader` names the frames the cloak looks at, and
`spaGate_cases` says once what any frame can do to the maps.
-/

namespace SpaDevice

inductive XdpAction where
  | drop
  | pass
deriving DecidableEq, Repr

/-- Inbound 4-tuple of a tracked flow. -/
structure FlowKey where
  saddr : Addr
  daddr : Addr
  sport : UInt16
  dport : UInt16
deriving DecidableEq

/-- Fixed-window state of one source's knocks. -/
structure RateState where
  windowNs : UInt64
  count : UInt32
deriving DecidableEq

/-- Parsed locator: addresses, L4 protocol and the L4 offset. -/
structure Packet where
  saddr : Addr
  daddr : Addr
  proto : UInt8
  l4Off : Nat
deriving DecidableEq

/-! ## Offsets and constants -/

def ethHdrLen : Nat := 14
def ethTypeOff : Nat := 12
def ethertypeIpv4 : UInt16 := 0x0800
def ethertypeIpv6 : UInt16 := 0x86DD
def ipIhlOff : Nat := 0
def ipProtoOff : Nat := 9
def ipSrcOff : Nat := 12
def ipDstOff : Nat := 16
def ip6HdrLen : Nat := 40
def ip6NexthdrOff : Nat := 6
def ip6SrcOff : Nat := 8
def ip6DstOff : Nat := 24
def ipprotoTcp : UInt8 := 6
def ipprotoUdp : UInt8 := 17
def tcpSportOff : Nat := 0
def tcpDportOff : Nat := 2
def tcpFlagsOff : Nat := 13
def tcpSyn : UInt8 := 0x02
def tcpAck : UInt8 := 0x10
def tcpFin : UInt8 := 0x01
def tcpRst : UInt8 := 0x04
def udpHdrLen : Nat := 8
def udpDportOff : Nat := 2

/-- A tracked flow idle this long is treated as gone. -/
def flowIdleNs : UInt64 := 120000000000

/-- Valid knock payload size window. -/
def knockMin : Nat := 180
def knockMax : Nat := 260

/-- Per-source knock budget per window. -/
def rateLimit : UInt32 := 10
def rateWindowNs : UInt64 := 1000000000

/-- Capacity of the `PROTECTED` map. -/
def protectedMaxEntries : Nat := 64

abbrev ProtectedMap := BoundedDict UInt16 UInt8 protectedMaxEntries

/-- The kernel maps.  `ESTABLISHED` and `RATE` are LRU maps: an insert always
succeeds, and what the kernel evicts is a separate event. -/
structure Maps where
  allow : AllowMap
  protectedPorts : ProtectedMap
  established : Dict FlowKey UInt64
  /-- The knock port in `CONFIG`, an array of one element: 0 until the daemon has
  set it. -/
  config : UInt16
  rate : Dict Addr RateState

/-! ## The parser -/

/-- Bounds-checked read of `n` bytes at `offset`. -/
def load (frame : List UInt8) (offset n : Nat) : Except Unit (ByteArr n) :=
  if h : offset + n > frame.length then .error ()
  else .ok ⟨(frame.drop offset).take n, by rw [List.length_take, List.length_drop]; omega⟩

def loadU8 (frame : List UInt8) (offset : Nat) : Except Unit UInt8 := do
  let b ← load frame offset 1
  return b.val.headD 0

/-- `u16::from_be(load::<u16>(..))`. -/
def loadU16 (frame : List UInt8) (offset : Nat) : Except Unit UInt16 := do
  let b ← load frame offset 2
  return u16OfBe b.val

/-- IPv4 octets as an IPv4-mapped IPv6 address. -/
def mappedV4 (o : ByteArr 4) : Addr :=
  ⟨List.replicate 10 0 ++ [0xff, 0xff] ++ o.val, length_mapped o⟩

/-- Parse to L4 for IPv4 and IPv6 with direct L4; `none` is not our
concern. -/
def parse (frame : List UInt8) : Except Unit (Option Packet) := do
  let ethertype ← loadU16 frame ethTypeOff
  if ethertype = ethertypeIpv4 then do
    let b ← loadU8 frame (ethHdrLen + ipIhlOff)
    let ihl := (b &&& 0x0f).toNat * 4
    if ihl < 20 then return none else do
    let saddr ← load frame (ethHdrLen + ipSrcOff) 4
    let daddr ← load frame (ethHdrLen + ipDstOff) 4
    let proto ← loadU8 frame (ethHdrLen + ipProtoOff)
    return some { saddr := mappedV4 saddr, daddr := mappedV4 daddr, proto,
                  l4Off := ethHdrLen + ihl }
  else if ethertype = ethertypeIpv6 then do
    let proto ← loadU8 frame (ethHdrLen + ip6NexthdrOff)
    -- Extension headers are left to the nftables floor.
    if proto ≠ ipprotoTcp ∧ proto ≠ ipprotoUdp then return none else do
    let saddr ← load frame (ethHdrLen + ip6SrcOff) 16
    let daddr ← load frame (ethHdrLen + ip6DstOff) 16
    return some { saddr, daddr, proto, l4Off := ethHdrLen + ip6HdrLen }
  else
    return none

/-! ## The verdict -/

def isProtected (m : Maps) (dport : UInt16) : Bool := (m.protectedPorts.get dport).isSome

def sourceAllowed (allow : AllowMap) (src : Addr) (dport : UInt16) (now : UInt64) : Bool :=
  match allow.get src with
  | some grant => now < grant.expiryNs && grant.allowsPort dport
  | none => false

/-- Pure `SYN`: `SYN` set and `ACK` clear. -/
def isSyn (flags : UInt8) : Bool := flags &&& tcpSyn ≠ 0 ∧ flags &&& tcpAck = 0

/-- `FIN` or `RST` set. -/
def isFinRst (flags : UInt8) : Bool := flags &&& (tcpFin ||| tcpRst) ≠ 0

/-- The last branch of `tcp_gate`: a pure `SYN` from a source with a live
grant starts a flow, everything else is dropped. -/
def admitSyn (m : Maps) (now : UInt64) (flow : FlowKey) (flags : UInt8) : XdpAction × Maps :=
  if isSyn flags ∧ sourceAllowed m.allow flow.saddr flow.dport now then
    (.pass, { m with established := m.established.insert flow now })
  else
    (.drop, m)

/-- `tcp_gate` past its loads, for a protected port. -/
def trackFlow (m : Maps) (now : UInt64) (flow : FlowKey) (flags : UInt8) : XdpAction × Maps :=
  match m.established.lookup flow with
  | some last =>
      if now - last < flowIdleNs then
        if isFinRst flags then (.pass, { m with established := m.established.erase flow })
        else (.pass, { m with established := m.established.insert flow now })
      else
        admitSyn { m with established := m.established.erase flow } now flow flags
  | none => admitSyn m now flow flags

def tcpGate (m : Maps) (now : UInt64) (frame : List UInt8) (pkt : Packet) :
    Except Unit (XdpAction × Maps) := do
  let dport ← loadU16 frame (pkt.l4Off + tcpDportOff)
  if !isProtected m dport then return (.pass, m) else do
  let sport ← loadU16 frame (pkt.l4Off + tcpSportOff)
  let flags ← loadU8 frame (pkt.l4Off + tcpFlagsOff)
  return trackFlow m now { saddr := pkt.saddr, daddr := pkt.daddr, sport, dport } flags

/-- Per-source fixed-window limiter. -/
def rateOk (rate : Dict Addr RateState) (saddr : Addr) (now : UInt64) : Bool × Dict Addr RateState :=
  match rate.lookup saddr with
  | some s =>
      if now - s.windowNs < rateWindowNs then
        if s.count ≥ rateLimit then (false, rate)
        else (true, rate.insert saddr { windowNs := s.windowNs, count := s.count + 1 })
      else
        (true, rate.insert saddr { windowNs := now, count := 1 })
  | none => (true, rate.insert saddr { windowNs := now, count := 1 })

def udpGate (m : Maps) (now : UInt64) (frame : List UInt8) (pkt : Packet) :
    Except Unit (XdpAction × Maps) := do
  let dport ← loadU16 frame (pkt.l4Off + udpDportOff)
  -- The one element of an array map is always there.
  let knockPort := m.config
  if dport ≠ knockPort then return (.pass, m) else
  let base := pkt.l4Off + udpHdrLen
  if base + knockMin > frame.length ∨ base + knockMax < frame.length then return (.drop, m) else
  let (ok, rate) := rateOk m.rate pkt.saddr now
  return (if ok then .pass else .drop, { m with rate })

def tryGate (m : Maps) (now : UInt64) (frame : List UInt8) : Except Unit (XdpAction × Maps) := do
  match ← parse frame with
  | none => return (.pass, m)
  | some pkt =>
    if pkt.proto = ipprotoTcp then tcpGate m now frame pkt
    else if pkt.proto = ipprotoUdp then udpGate m now frame pkt
    else return (.pass, m)

/-- The program entry: an out-of-bounds read passes the frame. -/
def spaGate (m : Maps) (now : UInt64) (frame : List UInt8) : XdpAction × Maps :=
  match tryGate m now frame with
  | .ok r => r
  | .error () => (.pass, m)

/-! ## What a frame can do -/

/-- The flow and flags of a frame that `parse` classifies as TCP and that
contains its L4 bytes through the flags byte. -/
def tcpHeader (frame : List UInt8) : Option (FlowKey × UInt8) :=
  match parse frame with
  | .ok (some pkt) =>
      if pkt.proto = ipprotoTcp then
        Except.toOption do
          let dport ← loadU16 frame (pkt.l4Off + tcpDportOff)
          let sport ← loadU16 frame (pkt.l4Off + tcpSportOff)
          let flags ← loadU8 frame (pkt.l4Off + tcpFlagsOff)
          return ({ saddr := pkt.saddr, daddr := pkt.daddr, sport, dport }, flags)
      else none
  | _ => none

theorem load_eq_ok_iff (frame : List UInt8) (offset n : Nat) :
    (∃ b, load frame offset n = .ok b) ↔ offset + n ≤ frame.length := by
  unfold load
  split
  · next h =>
      constructor
      · rintro ⟨b, hb⟩; contradiction
      · intro hle; omega
  · next h => exact ⟨fun _ => by omega, fun _ => ⟨_, rfl⟩⟩

theorem loadU8_eq_ok_iff (frame : List UInt8) (offset : Nat) :
    (∃ v, loadU8 frame offset = .ok v) ↔ offset < frame.length := by
  rw [← Nat.succ_le_iff, ← load_eq_ok_iff frame offset 1]
  constructor
  · rintro ⟨v, hv⟩
    obtain ⟨b, hb, -⟩ := except_bind_eq_ok.mp hv
    exact ⟨b, hb⟩
  · rintro ⟨b, hb⟩
    exact ⟨_, except_bind_eq_ok.mpr ⟨b, hb, rfl⟩⟩

theorem loadU16_eq_ok_iff (frame : List UInt8) (offset : Nat) :
    (∃ v, loadU16 frame offset = .ok v) ↔ offset + 2 ≤ frame.length := by
  rw [← load_eq_ok_iff frame offset 2]
  constructor
  · rintro ⟨v, hv⟩
    obtain ⟨b, hb, -⟩ := except_bind_eq_ok.mp hv
    exact ⟨b, hb⟩
  · rintro ⟨b, hb⟩
    exact ⟨_, except_bind_eq_ok.mpr ⟨b, hb, rfl⟩⟩

/-- A source is allowed exactly when it holds a grant that is live and lists the
port. -/
theorem sourceAllowed_iff (allow : AllowMap) (src : Addr) (dport : UInt16) (now : UInt64) :
    sourceAllowed allow src dport now = true ↔
      ∃ grant, allow.get src = some grant ∧ now < grant.expiryNs ∧ grant.allowsPort dport = true := by
  unfold sourceAllowed
  cases allow.get src with
  | none => simp
  | some grant => simp

/-- `tcpHeader` spelled out. -/
theorem tcpHeader_eq_some_iff (frame : List UInt8) (flow : FlowKey) (flags : UInt8) :
    tcpHeader frame = some (flow, flags) ↔
      ∃ pkt, parse frame = .ok (some pkt) ∧ pkt.proto = ipprotoTcp ∧
        loadU16 frame (pkt.l4Off + tcpDportOff) = .ok flow.dport ∧
        loadU16 frame (pkt.l4Off + tcpSportOff) = .ok flow.sport ∧
        loadU8 frame (pkt.l4Off + tcpFlagsOff) = .ok flags ∧
        flow.saddr = pkt.saddr ∧ flow.daddr = pkt.daddr := by
  unfold tcpHeader
  constructor
  · intro h
    split at h
    · next pkt hp =>
        split at h
        · next htcp =>
            obtain ⟨dport, hd, h⟩ := except_bind_eq_ok.mp (toOption_eq_some.mp h)
            obtain ⟨sport, hs, h⟩ := except_bind_eq_ok.mp h
            obtain ⟨fl, hf, h⟩ := except_bind_eq_ok.mp h
            obtain ⟨rfl, rfl⟩ := Prod.mk.inj (Except.ok.inj h)
            exact ⟨pkt, hp, htcp, hd, hs, hf, rfl, rfl⟩
        · contradiction
    · contradiction
  · rintro ⟨pkt, hp, htcp, hd, hs, hf, hsaddr, hdaddr⟩
    rw [hp]
    simp only [htcp, if_true, hd, hs, hf, except_ok_bind, ← hsaddr, ← hdaddr]
    rfl

/-- A frame that `parse` classifies as TCP has a header exactly when its
flags byte lies inside the frame. -/
theorem tcpHeader_isSome_iff {frame : List UInt8} {pkt : Packet} (hp : parse frame = .ok (some pkt))
    (htcp : pkt.proto = ipprotoTcp) :
    (∃ flow flags, tcpHeader frame = some (flow, flags)) ↔
      pkt.l4Off + tcpFlagsOff < frame.length := by
  constructor
  · rintro ⟨flow, flags, h⟩
    obtain ⟨pkt', hp', -, -, -, hf, -, -⟩ := (tcpHeader_eq_some_iff frame flow flags).mp h
    have hpkt : pkt' = pkt := by
      rw [hp] at hp'
      exact (Option.some.inj (Except.ok.inj hp')).symm
    rw [hpkt] at hf
    exact (loadU8_eq_ok_iff frame _).mp ⟨flags, hf⟩
  · intro hlt
    simp only [tcpFlagsOff] at hlt
    obtain ⟨dport, hd⟩ := (loadU16_eq_ok_iff frame (pkt.l4Off + tcpDportOff)).mpr
      (by simp only [tcpDportOff]; omega)
    obtain ⟨sport, hs⟩ := (loadU16_eq_ok_iff frame (pkt.l4Off + tcpSportOff)).mpr
      (by simp only [tcpSportOff]; omega)
    obtain ⟨flags, hf⟩ := (loadU8_eq_ok_iff frame (pkt.l4Off + tcpFlagsOff)).mpr hlt
    exact ⟨⟨pkt.saddr, pkt.daddr, sport, dport⟩, flags,
      (tcpHeader_eq_some_iff frame _ _).mpr ⟨pkt, hp, htcp, hd, hs, hf, rfl, rfl⟩⟩

/-- The verdict on a frame with a TCP header. -/
theorem tryGate_of_tcpHeader {frame : List UInt8} {flow : FlowKey} {flags : UInt8}
    (h : tcpHeader frame = some (flow, flags)) (m : Maps) (now : UInt64) :
    tryGate m now frame =
      .ok (if isProtected m flow.dport then trackFlow m now flow flags else (.pass, m)) := by
  obtain ⟨pkt, hp, htcp, hd, hs, hf, hsaddr, hdaddr⟩ := (tcpHeader_eq_some_iff frame flow flags).mp h
  simp only [tryGate, hp, except_ok_bind, htcp, if_true, tcpGate, hd, hs, hf, ← hsaddr, ← hdaddr]
  cases hprot : isProtected m flow.dport <;> simp <;> rfl

/-- UDP touches at most the rate map. -/
theorem udpGate_maps {m : Maps} {now : UInt64} {frame : List UInt8} {pkt : Packet}
    {r : XdpAction × Maps} (h : udpGate m now frame pkt = .ok r) : ∃ rate, r.2 = { m with rate } := by
  obtain ⟨dport, -, h⟩ := except_bind_eq_ok.mp h
  dsimp only at h
  split at h
  · rw [← Except.ok.inj h]; exact ⟨m.rate, rfl⟩
  · split at h
    · rw [← Except.ok.inj h]; exact ⟨m.rate, rfl⟩
    · rw [← Except.ok.inj h]; exact ⟨_, rfl⟩

/-- TCP without a complete header changes no map. -/
theorem tcpGate_maps_of_no_header {m : Maps} {now : UInt64} {frame : List UInt8} {pkt : Packet}
    {r : XdpAction × Maps} (hp : parse frame = .ok (some pkt)) (htcp : pkt.proto = ipprotoTcp)
    (hn : tcpHeader frame = none) (h : tcpGate m now frame pkt = .ok r) : r.2 = m := by
  obtain ⟨dport, hd, h⟩ := except_bind_eq_ok.mp h
  split at h
  · rw [← Except.ok.inj h]
  · obtain ⟨sport, hs, h⟩ := except_bind_eq_ok.mp h
    obtain ⟨flags, hf, h⟩ := except_bind_eq_ok.mp h
    have hsome := (tcpHeader_eq_some_iff frame ⟨pkt.saddr, pkt.daddr, sport, dport⟩ flags).mpr
      ⟨pkt, hp, htcp, hd, hs, hf, rfl, rfl⟩
    rw [hn] at hsome
    contradiction

theorem spaGate_maps_of_no_header {frame : List UInt8} (hn : tcpHeader frame = none) (m : Maps)
    (now : UInt64) : ∃ rate, (spaGate m now frame).2 = { m with rate } := by
  unfold spaGate
  cases htry : tryGate m now frame with
  | error e => exact ⟨m.rate, rfl⟩
  | ok r =>
      obtain ⟨opkt, hp, h⟩ := except_bind_eq_ok.mp htry
      cases opkt with
      | none =>
          have hr : (XdpAction.pass, m) = r := Except.ok.inj h
          exact ⟨m.rate, by rw [← hr]⟩
      | some pkt =>
          dsimp only at h
          split at h
          · next htcp => exact ⟨m.rate, tcpGate_maps_of_no_header hp htcp hn h⟩
          · split at h
            · exact udpGate_maps h
            · have hr : (XdpAction.pass, m) = r := Except.ok.inj h
              exact ⟨m.rate, by rw [← hr]⟩

/-- **Everything a frame can do to the maps**: a TCP header to a protected
port goes through `trackFlow`; any other frame touches at most `RATE`. -/
theorem spaGate_cases (m : Maps) (now : UInt64) (frame : List UInt8) :
    (∃ flow flags, tcpHeader frame = some (flow, flags) ∧ isProtected m flow.dport = true ∧
      spaGate m now frame = trackFlow m now flow flags) ∨
    ((∀ flow flags, tcpHeader frame = some (flow, flags) → isProtected m flow.dport = false) ∧
      ∃ rate, (spaGate m now frame).2 = { m with rate }) := by
  cases hh : tcpHeader frame with
  | none => exact .inr ⟨by simp, spaGate_maps_of_no_header hh m now⟩
  | some p =>
      obtain ⟨flow, flags⟩ := p
      have htry := tryGate_of_tcpHeader hh m now
      cases hprot : isProtected m flow.dport with
      | true =>
          rw [hprot, if_pos rfl] at htry
          exact .inl ⟨flow, flags, rfl, hprot, by rw [spaGate, htry]⟩
      | false =>
          rw [hprot, if_neg (by simp)] at htry
          refine .inr ⟨?_, m.rate, by rw [spaGate, htry]⟩
          intro flow' flags' he
          obtain ⟨rfl, rfl⟩ := Prod.mk.inj (Option.some.inj he)
          exact hprot

/-! ## What the flow table does -/

theorem admitSyn_cases (m : Maps) (now : UInt64) (flow : FlowKey) (flags : UInt8) :
    (isSyn flags = true ∧ sourceAllowed m.allow flow.saddr flow.dport now = true ∧
      admitSyn m now flow flags = (.pass, { m with established := m.established.insert flow now })) ∨
    admitSyn m now flow flags = (.drop, m) := by
  unfold admitSyn
  split
  · next h => exact .inl ⟨h.1, h.2, rfl⟩
  · exact .inr rfl

/-- The flow has an entry that is not idle at `now`. -/
def Tracked (m : Maps) (now : UInt64) (flow : FlowKey) : Prop :=
  ∃ last, m.established.lookup flow = some last ∧ now - last < flowIdleNs

/-- A tracked flow passes; `FIN` and `RST` end it, anything else refreshes
it. -/
theorem trackFlow_of_tracked {m : Maps} {now : UInt64} {flow : FlowKey} (h : Tracked m now flow)
    (flags : UInt8) :
    trackFlow m now flow flags =
      (.pass, { m with
        established :=
          if isFinRst flags then m.established.erase flow else m.established.insert flow now }) := by
  obtain ⟨last, hl, hidle⟩ := h
  unfold trackFlow
  rw [hl]
  simp only [hidle, if_true]
  split <;> rfl

/-- A flow that is not tracked passes only as an admitted `SYN`; otherwise it
is dropped and has no entry. -/
theorem trackFlow_of_not_tracked {m : Maps} {now : UInt64} {flow : FlowKey}
    (h : ¬ Tracked m now flow) (flags : UInt8) :
    (isSyn flags = true ∧ sourceAllowed m.allow flow.saddr flow.dport now = true ∧
      trackFlow m now flow flags = (.pass, { m with established := m.established.insert flow now })) ∨
    ∃ est, trackFlow m now flow flags = (.drop, { m with established := est }) ∧
      ∀ k, est.lookup k = if k = flow then none else m.established.lookup k := by
  unfold trackFlow
  cases hl : m.established.lookup flow with
  | none =>
      rcases admitSyn_cases m now flow flags with hs | hd
      · exact .inl hs
      · refine .inr ⟨m.established, hd, fun k => ?_⟩
        by_cases hk : k = flow
        · rw [if_pos hk, hk, hl]
        · rw [if_neg hk]
  | some last =>
      have hidle : ¬ now - last < flowIdleNs := fun hlt => h ⟨last, hl, hlt⟩
      simp only [hidle, if_false]
      rcases admitSyn_cases { m with established := m.established.erase flow } now flow flags with
        ⟨hsyn, hallow, hs⟩ | hd
      · refine .inl ⟨hsyn, hallow, ?_⟩
        have hins : (m.established.erase flow).insert flow now = m.established.insert flow now := by
          apply Finmap.ext_lookup
          intro k
          rw [Dict.lookup_insert_eq, Dict.lookup_insert_eq, Dict.lookup_erase_eq]
          split <;> rfl
        rw [hs, hins]
      · exact .inr ⟨_, hd, fun k => Dict.lookup_erase_eq m.established flow k⟩

/-- A frame writes at most `ESTABLISHED` and `RATE`. -/
theorem spaGate_maps (m : Maps) (now : UInt64) (frame : List UInt8) :
    ∃ established rate, (spaGate m now frame).2 = { m with established, rate } := by
  rcases spaGate_cases m now frame with ⟨flow, flags, -, -, htrack⟩ | ⟨-, rate, hrate⟩
  · rw [htrack]
    by_cases h : Tracked m now flow
    · rw [trackFlow_of_tracked h]
      exact ⟨_, m.rate, rfl⟩
    · rcases trackFlow_of_not_tracked h flags with ⟨-, -, heq⟩ | ⟨est, heq, -⟩
      · rw [heq]
        exact ⟨_, m.rate, rfl⟩
      · rw [heq]
        exact ⟨est, m.rate, rfl⟩
  · exact ⟨m.established, rate, hrate⟩

/-- A frame leaves the entries of other flows alone. -/
theorem established_trackFlow_of_ne (m : Maps) (now : UInt64) {flow k : FlowKey} (flags : UInt8)
    (h : k ≠ flow) :
    (trackFlow m now flow flags).2.established.lookup k = m.established.lookup k := by
  by_cases ht : Tracked m now flow
  · rw [trackFlow_of_tracked ht]
    dsimp only
    split
    · rw [Dict.lookup_erase_eq, if_neg h]
    · rw [Dict.lookup_insert_eq, if_neg h]
  · rcases trackFlow_of_not_tracked ht flags with ⟨-, -, heq⟩ | ⟨est, heq, hest⟩
    · rw [heq]
      exact (Dict.lookup_insert_eq _ _ _ _).trans (if_neg h)
    · rw [heq]
      exact (hest k).trans (if_neg h)

/-- Why a flow has an entry after one of its own frames: it was tracked and
goes on, or the frame is an allowed `SYN`. -/
theorem established_trackFlow_self {m : Maps} {now last : UInt64} {flow : FlowKey} {flags : UInt8}
    (h : (trackFlow m now flow flags).2.established.lookup flow = some last) :
    last = now ∧
      ((∃ prev, m.established.lookup flow = some prev ∧ now - prev < flowIdleNs ∧
          isFinRst flags = false) ∨
        (isSyn flags = true ∧ sourceAllowed m.allow flow.saddr flow.dport now = true)) := by
  by_cases ht : Tracked m now flow
  · rw [trackFlow_of_tracked ht] at h
    dsimp only at h
    split at h
    · rw [Dict.lookup_erase_eq, if_pos rfl] at h
      contradiction
    · next hfin =>
        rw [Dict.lookup_insert_eq, if_pos rfl] at h
        obtain ⟨prev, hprev, hidle⟩ := ht
        exact ⟨(Option.some.inj h).symm, .inl ⟨prev, hprev, hidle, by simpa using hfin⟩⟩
  · rcases trackFlow_of_not_tracked ht flags with ⟨hsyn, hallow, heq⟩ | ⟨est, heq, hest⟩
    · rw [heq] at h
      dsimp only at h
      rw [Dict.lookup_insert_eq, if_pos rfl] at h
      exact ⟨(Option.some.inj h).symm, .inr ⟨hsyn, hallow⟩⟩
    · rw [heq] at h
      dsimp only at h
      rw [hest, if_pos rfl] at h
      contradiction

/-- An allowed `SYN` to a protected port passes. -/
theorem tryGate_of_allowed_syn {frame : List UInt8} {flow : FlowKey} {flags : UInt8} {m : Maps}
    {now : UInt64} (hh : tcpHeader frame = some (flow, flags))
    (hprot : isProtected m flow.dport = true) (hsyn : isSyn flags = true)
    (hallow : sourceAllowed m.allow flow.saddr flow.dport now = true) :
    ∃ m', tryGate m now frame = .ok (.pass, m') := by
  rw [tryGate_of_tcpHeader hh, if_pos hprot]
  by_cases ht : Tracked m now flow
  · rw [trackFlow_of_tracked ht]
    exact ⟨_, rfl⟩
  · unfold trackFlow
    cases hl : m.established.lookup flow with
    | none =>
        simp only [admitSyn, hsyn, hallow, and_self, if_true]
        exact ⟨_, rfl⟩
    | some last =>
        have hidle : ¬ now - last < flowIdleNs := fun hlt => ht ⟨last, hl, hlt⟩
        simp only [hidle, if_false, admitSyn, hsyn, hallow, and_self, if_true]
        exact ⟨_, rfl⟩

/-! ## The size of PROTECTED -/

/-- Consecutive ports are distinct. -/
theorem card_ports_range {n k : Nat} (h : n + k ≤ 65536) :
    ((List.range' n k).map UInt16.ofNat).toFinset.card = k := by
  have hnodup : ((List.range' n k).map UInt16.ofNat).Nodup := by
    refine List.Nodup.map_on ?_ List.nodup_range'
    intro i hi j hj heq
    rw [List.mem_range'_1] at hi hj
    have hnat := congrArg UInt16.toNat heq
    rw [UInt16.toNat_ofNat_of_lt' (show i < UInt16.size by simp only [UInt16.size]; omega),
      UInt16.toNat_ofNat_of_lt' (show j < UInt16.size by simp only [UInt16.size]; omega)] at hnat
    exact hnat
  rw [List.toFinset_card_of_nodup hnodup, List.length_map, List.length_range']

/-- `PROTECTED` is too small to hold every port. -/
theorem exists_unprotected (m : Maps) : ∃ p, isProtected m p = false := by
  obtain ⟨p, -, hp⟩ := Finset.exists_mem_notMem_of_card_lt_card
    (s := m.protectedPorts.keys) (t := ((List.range' 0 65).map UInt16.ofNat).toFinset)
    (by rw [card_ports_range (by omega)]; exact Nat.lt_succ_of_le m.protectedPorts.card_le)
  refine ⟨p, ?_⟩
  rw [isProtected, Option.isSome_eq_false_iff, Option.isNone_iff_eq_none]
  by_contra hsome
  exact hp ((BoundedDict.mem_keys_iff _ _).mpr (Option.ne_none_iff_exists'.mp hsome))

end SpaDevice
