import SpaDevice.Limiter
import SpaDevice.Verdict

/-!
# SpaDevice.Fragments

What the payload of an IPv4 fragment can do to the verdict.

A frame with a non-zero fragment offset carries no TCP or UDP header, but
`parse` never looks at the offset: it takes the L4 header to start right after
the IPv4 header, and the gates read ports and flags out of whatever is there.
`payload_blind_iff` says for which headers, payload lengths and maps this
makes a difference; everywhere else the frame passes and no map changes.
-/

namespace SpaDevice

/-! ## Headers -/

/-- The header length the frame claims, in bytes. -/
def ihlOf (frame : List UInt8) : Nat := (frame.getD 14 0 &&& 0x0f).toNat * 4

def protoOf (frame : List UInt8) : UInt8 := frame.getD 23 0

/-- The bytes are an Ethernet header and the IPv4 header that follows it, which
is never shorter than 20 bytes. -/
structure HeadersOnly (hdr : List UInt8) : Prop where
  ethertype : loadU16 hdr ethTypeOff = .ok ethertypeIpv4
  length_eq : hdr.length = ethHdrLen + max 20 (ihlOf hdr)

/-- Headers with a non-zero fragment offset. -/
structure FragmentHeaders (hdr : List UInt8) : Prop extends HeadersOnly hdr where
  offset : ∃ w, loadU16 hdr (ethHdrLen + 6) = .ok w ∧ w &&& 0x1fff ≠ 0

theorem loadU8_of_lt {frame : List UInt8} {offset : Nat} (h : offset < frame.length) :
    loadU8 frame offset = .ok (frame.getD offset 0) := by
  obtain ⟨v, hv⟩ := (loadU8_eq_ok_iff frame offset).mpr h
  obtain ⟨b, hb, hval⟩ := except_bind_eq_ok.mp hv
  have hload : b.val = (frame.drop offset).take 1 := by
    rw [load, dif_neg (by omega)] at hb
    rw [← Except.ok.inj hb]
  rw [hv, ← Except.ok.inj hval, hload]
  simp [List.headD_eq_head?_getD, List.head?_take, List.head?_drop]

/-- How the headers alone are classified. -/
theorem parse_headers {hdr : List UInt8} (h : HeadersOnly hdr) :
    (ihlOf hdr < 20 ∧ parse hdr = .ok none) ∨
      (20 ≤ ihlOf hdr ∧ ∃ pkt, parse hdr = .ok (some pkt) ∧ pkt.proto = protoOf hdr ∧
        pkt.l4Off = hdr.length) := by
  obtain ⟨htype, hlen⟩ := h
  have h34 : 34 ≤ hdr.length := by rw [hlen, ethHdrLen]; omega
  have hihl : loadU8 hdr (ethHdrLen + ipIhlOff) = .ok (hdr.getD 14 0) :=
    loadU8_of_lt (by rw [ethHdrLen, ipIhlOff]; omega)
  obtain ⟨saddr, hs⟩ := (load_eq_ok_iff hdr (ethHdrLen + ipSrcOff) 4).mpr
    (by rw [ethHdrLen, ipSrcOff]; omega)
  obtain ⟨daddr, hd⟩ := (load_eq_ok_iff hdr (ethHdrLen + ipDstOff) 4).mpr
    (by rw [ethHdrLen, ipDstOff]; omega)
  have hproto : loadU8 hdr (ethHdrLen + ipProtoOff) = .ok (hdr.getD 23 0) :=
    loadU8_of_lt (by rw [ethHdrLen, ipProtoOff]; omega)
  have hparse : parse hdr = if ihlOf hdr < 20 then .ok none else .ok (some
      { saddr := mappedV4 saddr, daddr := mappedV4 daddr, proto := protoOf hdr,
        l4Off := ethHdrLen + ihlOf hdr }) := by
    simp only [parse, htype, except_ok_bind, if_true, hihl, hs, hd, hproto]
    rfl
  rw [hparse]
  by_cases hshort : ihlOf hdr < 20
  · rw [if_pos hshort]
    exact .inl ⟨hshort, rfl⟩
  · rw [if_neg hshort]
    refine .inr ⟨Nat.not_lt.mp hshort, _, rfl, rfl, ?_⟩
    rw [hlen, Nat.max_eq_right (by omega)]

/-- Reading back bytes in the middle of a frame. -/
theorem load_mid (before : List UInt8) (b : ByteArr n) (after : List UInt8) :
    load (before ++ (b.val ++ after)) before.length n = .ok b := by
  have hlen : ¬ before.length + n > (before ++ (b.val ++ after)).length := by
    rw [List.length_append, List.length_append, b.property]
    omega
  rw [load, dif_neg hlen]
  refine congrArg Except.ok (Subtype.ext ?_)
  dsimp only
  rw [List.drop_left, List.take_left' b.property]

theorem loadU16_mid (before : List UInt8) (p : UInt16) (after : List UInt8) :
    loadU16 (before ++ (u16Bytes p ++ after)) before.length = .ok p := by
  have hload := load_mid before ⟨u16Bytes p, length_u16Bytes p⟩ after
  rw [loadU16, hload, except_ok_bind, u16OfBe_u16Bytes]
  rfl

/-! ## Payloads that are not read -/

/-- Payload bytes are read as an L4 header, and what is read makes a
difference: as a TCP header through its flags byte while some port is
protected, or as a UDP destination port, also while the knock port is not set
yet and counts as 0. -/
def PayloadRead (m : Maps) (hdr : List UInt8) (n : Nat) : Prop :=
  20 ≤ ihlOf hdr ∧
    ((protoOf hdr = ipprotoTcp ∧ 14 ≤ n ∧ m.protectedPorts.keys.Nonempty) ∨
      (protoOf hdr = ipprotoUdp ∧ 4 ≤ n))

theorem spaGate_of_error {m : Maps} {now : UInt64} {frame : List UInt8}
    (h : tryGate m now frame = .error ()) : spaGate m now frame = (.pass, m) := by
  rw [spaGate, h]

theorem spaGate_of_ok {m : Maps} {now : UInt64} {frame : List UInt8} {r : XdpAction × Maps}
    (h : tryGate m now frame = .ok r) : spaGate m now frame = r := by
  rw [spaGate, h]

section

variable {m : Maps} {now : UInt64} {frame : List UInt8} {pkt : Packet}

/-- TCP that shows no protected port, or too little of its header, passes. -/
theorem spaGate_pass_of_tcp (hp : parse frame = .ok (some pkt)) (htcp : pkt.proto = ipprotoTcp)
    (h : frame.length ≤ pkt.l4Off + tcpFlagsOff ∨ m.protectedPorts.keys = ∅) :
    spaGate m now frame = (.pass, m) := by
  cases hd : loadU16 frame (pkt.l4Off + tcpDportOff) with
  | error e =>
      apply spaGate_of_error
      simp only [tryGate, hp, except_ok_bind, htcp, if_true, tcpGate, hd]
      rfl
  | ok dport =>
      cases hprot : isProtected m dport with
      | false =>
          apply spaGate_of_ok
          simp only [tryGate, hp, except_ok_bind, htcp, if_true, tcpGate, hd, hprot]
          rfl
      | true =>
          rcases h with hshort | hempty
          · exact spaGate_pass_of_short hp htcp hd hprot hshort now
          · obtain ⟨v, hv⟩ := Option.isSome_iff_exists.mp hprot
            have hmem := (BoundedDict.mem_keys_iff m.protectedPorts dport).mpr ⟨v, hv⟩
            rw [hempty] at hmem
            simp at hmem

/-- UDP without a destination port passes. -/
theorem spaGate_pass_of_udp (hp : parse frame = .ok (some pkt)) (hudp : pkt.proto = ipprotoUdp)
    (hshort : frame.length < pkt.l4Off + 4) : spaGate m now frame = (.pass, m) := by
  have hnot : ¬ ipprotoUdp = ipprotoTcp := by decide
  cases hd : loadU16 frame (pkt.l4Off + udpDportOff) with
  | error e =>
      apply spaGate_of_error
      simp only [tryGate, hp, except_ok_bind, hudp, if_neg hnot, if_true, udpGate, hd]
      rfl
  | ok dport =>
      have hlen := (loadU16_eq_ok_iff frame _).mp ⟨dport, hd⟩
      rw [udpDportOff] at hlen
      omega

end

/-- Where the payload is not read the frame passes and no map changes. -/
theorem spaGate_of_not_read {m : Maps} {hdr payload : List UInt8} (h : HeadersOnly hdr)
    (hn : ¬ PayloadRead m hdr payload.length) (now : UInt64) :
    spaGate m now (hdr ++ payload) = (.pass, m) := by
  rcases parse_headers h with ⟨-, hnone⟩ | ⟨hihl, pkt, hsome, hproto, hoff⟩
  · apply spaGate_of_ok
    simp only [tryGate, parse_append hnone payload, except_ok_bind]
    rfl
  · have hp := parse_append hsome payload
    have hlen : (hdr ++ payload).length = pkt.l4Off + payload.length := by
      rw [List.length_append, hoff]
    by_cases htcp : pkt.proto = ipprotoTcp
    · refine spaGate_pass_of_tcp hp htcp ?_
      by_contra hc
      obtain ⟨hlong, hports⟩ := not_or.mp hc
      rw [tcpFlagsOff] at hlong
      exact hn ⟨hihl, .inl ⟨hproto ▸ htcp, by omega, Finset.nonempty_iff_ne_empty.mpr hports⟩⟩
    · by_cases hudp : pkt.proto = ipprotoUdp
      · refine spaGate_pass_of_udp hp hudp ?_
        by_contra hlong
        exact hn ⟨hihl, .inr ⟨hproto ▸ hudp, by omega⟩⟩
      · apply spaGate_of_ok
        simp only [tryGate, hp, except_ok_bind, if_neg htcp, if_neg hudp]
        rfl

/-! ## Payloads that are read -/

/-- A payload that reads as a TCP header from port 0 with `FIN` set. -/
def finPayload (dport : UInt16) (n : Nat) : List UInt8 :=
  u16Bytes 0 ++ (u16Bytes dport ++ (List.replicate 9 0 ++ [tcpFin] ++ List.replicate (n - 14) 0))

/-- A payload that reads as a UDP header from port 0. -/
def udpPayload (dport : UInt16) (n : Nat) : List UInt8 :=
  u16Bytes 0 ++ (u16Bytes dport ++ List.replicate (n - 4) 0)

theorem length_finPayload {n : Nat} (h : 14 ≤ n) (dport : UInt16) : (finPayload dport n).length = n := by
  simp only [finPayload, List.length_append, length_u16Bytes, List.length_replicate,
    List.length_singleton]
  omega

theorem length_udpPayload {n : Nat} (h : 4 ≤ n) (dport : UInt16) : (udpPayload dport n).length = n := by
  simp only [udpPayload, List.length_append, length_u16Bytes, List.length_replicate]
  omega

section

variable {m : Maps} {now : UInt64} {hdr : List UInt8} {pkt : Packet}

/-- The header that is read out of a `FIN` payload. -/
theorem tcpHeader_finPayload (hp : parse hdr = .ok (some pkt)) (htcp : pkt.proto = ipprotoTcp)
    (hoff : pkt.l4Off = hdr.length) (dport : UInt16) (n : Nat) :
    tcpHeader (hdr ++ finPayload dport n) = some (⟨pkt.saddr, pkt.daddr, 0, dport⟩, tcpFin) := by
  refine (tcpHeader_eq_some_iff _ _ _).mpr
    ⟨pkt, parse_append hp _, htcp, ?_, ?_, ?_, rfl, rfl⟩
  · have hmid := loadU16_mid (hdr ++ u16Bytes 0) dport
      (List.replicate 9 0 ++ [tcpFin] ++ List.replicate (n - 14) 0)
    rw [List.length_append, length_u16Bytes, List.append_assoc] at hmid
    rw [hoff]
    exact hmid
  · rw [hoff]
    exact loadU16_mid hdr 0 _
  · rw [hoff, tcpFlagsOff, loadU8_of_lt]
    · simp [finPayload, List.getD_eq_getElem?_getD, u16Bytes, toBe]
    · simp only [finPayload, List.length_append, length_u16Bytes, List.length_replicate,
        List.length_singleton]
      omega

/-- A `FIN` to a protected port is dropped or ends its flow. -/
theorem trackFlow_fin_ne (m : Maps) (now : UInt64) (flow : FlowKey) :
    trackFlow m now flow tcpFin ≠ (.pass, m) := by
  intro heq
  by_cases ht : Tracked m now flow
  · rw [trackFlow_of_tracked ht, if_pos (by decide)] at heq
    obtain ⟨last, hlast, -⟩ := ht
    have hsame := congrArg Maps.established (Prod.mk.inj heq).2
    have hlookup := congrArg (fun est => est.lookup flow) hsame
    simp only [Dict.lookup_erase_eq, if_true, hlast] at hlookup
    contradiction
  · rcases trackFlow_of_not_tracked ht tcpFin with ⟨hsyn, -, -⟩ | ⟨est, hdrop, -⟩
    · exact absurd hsyn (by decide)
    · rw [hdrop] at heq
      simp at heq

variable (m now) in
/-- **TCP payloads make a difference**: an unprotected port passes, a protected
one does not. -/
theorem tcp_payload_read (hp : parse hdr = .ok (some pkt)) (htcp : pkt.proto = ipprotoTcp)
    (hoff : pkt.l4Off = hdr.length) (hports : m.protectedPorts.keys.Nonempty) (n : Nat) :
    ∃ dport dport', spaGate m now (hdr ++ finPayload dport n) ≠
      spaGate m now (hdr ++ finPayload dport' n) := by
  obtain ⟨cloaked, hmem⟩ := hports
  obtain ⟨v, hv⟩ := (BoundedDict.mem_keys_iff _ _).mp hmem
  have hprot : isProtected m cloaked = true := Option.isSome_iff_exists.mpr ⟨v, hv⟩
  obtain ⟨free, hfree⟩ := exists_unprotected m
  refine ⟨cloaked, free, ?_⟩
  rw [spaGate_of_ok (tryGate_of_tcpHeader (tcpHeader_finPayload hp htcp hoff cloaked n) m now),
    spaGate_of_ok (tryGate_of_tcpHeader (tcpHeader_finPayload hp htcp hoff free n) m now),
    if_pos hprot, if_neg (by simp [hfree])]
  exact trackFlow_fin_ne m now _

/-- An accepted knock changes the entry of its source. -/
theorem rateEntry_ne {entry : Option RateState} (h : (rateEntry entry now).1 = true) :
    (rateEntry entry now).2 ≠ entry := by
  cases entry with
  | none => simp [rateEntry]
  | some s =>
      simp only [rateEntry] at h ⊢
      split at h
      · next hin =>
          split at h
          · contradiction
          · next hroom =>
              rw [if_pos hin, if_neg hroom]
              intro heq
              have hcount := congrArg RateState.count (Option.some.inj heq)
              simp at hcount
      · next hout =>
          rw [if_neg hout]
          intro heq
          have hwindow : now = s.windowNs := congrArg RateState.windowNs (Option.some.inj heq)
          rw [hwindow] at hout
          simp [rateWindowNs] at hout

theorem loadU16_udpPayload (hoff : pkt.l4Off = hdr.length) (dport : UInt16) (n : Nat) :
    loadU16 (hdr ++ udpPayload dport n) (pkt.l4Off + udpDportOff) = .ok dport := by
  have hmid := loadU16_mid (hdr ++ u16Bytes 0) dport (List.replicate (n - 4) 0)
  rw [List.length_append, length_u16Bytes, List.append_assoc] at hmid
  rw [hoff]
  exact hmid

theorem tryGate_eq_udpGate {frame : List UInt8} (hp : parse frame = .ok (some pkt))
    (hudp : pkt.proto = ipprotoUdp) : tryGate m now frame = udpGate m now frame pkt := by
  have hnot : ¬ ipprotoUdp = ipprotoTcp := by decide
  simp only [tryGate, hp, except_ok_bind, hudp, if_neg hnot, if_true]

/-- A payload that shows the knock port is dropped or counted. -/
theorem spaGate_knockPort_ne {frame : List UInt8} (hp : parse frame = .ok (some pkt))
    (hudp : pkt.proto = ipprotoUdp)
    (hd : loadU16 frame (pkt.l4Off + udpDportOff) = .ok m.config) :
    spaGate m now frame ≠ (.pass, m) := by
  intro heq
  rw [spaGate, tryGate_eq_udpGate hp hudp] at heq
  simp only [udpGate, hd, except_ok_bind, ne_eq, not_true_eq_false, if_false] at heq
  split at heq
  · next r hr =>
      split at hr
      · rw [← Except.ok.inj hr] at heq
        simp at heq
      · rw [← Except.ok.inj hr] at heq
        obtain ⟨hverdict, hmaps⟩ := Prod.mk.inj heq
        cases hok : (rateOk m.rate pkt.saddr now).1 with
        | false => simp [hok] at hverdict
        | true =>
            have hrate : (rateOk m.rate pkt.saddr now).2 = m.rate := congrArg Maps.rate hmaps
            have hlookup := lookup_rateOk m.rate pkt.saddr pkt.saddr now
            rw [hrate, if_pos rfl] at hlookup
            rw [rateOk_fst] at hok
            exact rateEntry_ne hok hlookup.symm
  · next hr =>
      split at hr
      · contradiction
      · contradiction

variable (m now) in
/-- **UDP payloads make a difference**: the knock port is counted or dropped,
any other port passes. -/
theorem udp_payload_read (hp : parse hdr = .ok (some pkt)) (hudp : pkt.proto = ipprotoUdp)
    (hoff : pkt.l4Off = hdr.length) (n : Nat) :
    ∃ dport dport', spaGate m now (hdr ++ udpPayload dport n) ≠
      spaGate m now (hdr ++ udpPayload dport' n) := by
  have hother : m.config + 1 ≠ m.config := by simp
  refine ⟨m.config, m.config + 1, ?_⟩
  have hpass : spaGate m now (hdr ++ udpPayload (m.config + 1) n) = (.pass, m) := by
    apply spaGate_of_ok
    rw [tryGate_eq_udpGate (parse_append hp _) hudp]
    simp only [udpGate, loadU16_udpPayload hoff, except_ok_bind, if_pos hother]
    rfl
  rw [hpass]
  exact spaGate_knockPort_ne (parse_append hp _) hudp (loadU16_udpPayload hoff _ n)

end

/-! ## The verdict on a fragment -/

/-- Any two payloads of `n` bytes behind the same headers get the same verdict
and leave the same maps. -/
def PayloadBlind (m : Maps) (now : UInt64) (hdr : List UInt8) (n : Nat) : Prop :=
  ∀ payload payload' : List UInt8, payload.length = n → payload'.length = n →
    spaGate m now (hdr ++ payload) = spaGate m now (hdr ++ payload')

/-- **Fragments**: the payload of a fragment makes no difference exactly when it
is not read as an L4 header. -/
theorem payload_blind_iff (m : Maps) (now : UInt64) (hdr : List UInt8) (n : Nat)
    (hfrag : FragmentHeaders hdr) : PayloadBlind m now hdr n ↔ ¬ PayloadRead m hdr n := by
  have hhdr := hfrag.toHeadersOnly
  constructor
  · rintro hblind ⟨hihl, hread⟩
    rcases parse_headers hhdr with ⟨hlt, -⟩ | ⟨-, pkt, hp, hproto, hoff⟩
    · omega
    · rcases hread with ⟨htcp, hn, hports⟩ | ⟨hudp, hn⟩
      · obtain ⟨dport, dport', hne⟩ := tcp_payload_read m now hp (hproto.trans htcp) hoff hports n
        exact hne (hblind _ _ (length_finPayload hn dport) (length_finPayload hn dport'))
      · obtain ⟨dport, dport', hne⟩ := udp_payload_read m now hp (hproto.trans hudp) hoff n
        exact hne (hblind _ _ (length_udpPayload hn dport) (length_udpPayload hn dport'))
  · intro hn payload payload' hlen hlen'
    rw [spaGate_of_not_read hhdr (by rw [hlen]; exact hn) now,
      spaGate_of_not_read hhdr (by rw [hlen']; exact hn) now]

/-- Headers of a fragment at offset 1480 with the given L4 protocol. -/
def sampleFragment (proto : UInt8) : List UInt8 :=
  List.replicate 12 0 ++ [0x08, 0x00] ++
    [0x45, 0, 0, 0, 0, 0, 0x00, 0xb9, 64, proto, 0, 0, 192, 0, 2, 1, 198, 51, 100, 1]

theorem sampleFragment_headers (proto : UInt8) : FragmentHeaders (sampleFragment proto) := by
  have hihl : ihlOf (sampleFragment proto) = 20 := by
    simp [ihlOf, sampleFragment]
  refine ⟨⟨rfl, ?_⟩, 185, rfl, by decide⟩
  rw [hihl]
  rfl

/-- The payload of an ICMP fragment makes no difference. -/
theorem payload_blind_icmp :
    FragmentHeaders (sampleFragment 1) ∧ PayloadBlind Gate.sampleInit.maps 0 (sampleFragment 1) 20 := by
  refine ⟨sampleFragment_headers 1, (payload_blind_iff _ 0 _ 20 (sampleFragment_headers 1)).mpr ?_⟩
  rintro ⟨-, ⟨htcp, -⟩ | ⟨hudp, -⟩⟩
  · exact absurd htcp (by decide)
  · exact absurd hudp (by decide)

/-- **A payload that looks like a protected port is dropped**: two fragments of
one TCP segment with port 22 protected, one with payload bytes that read as
port 22 and one with bytes that read as port 23. -/
theorem fragment_payload_decides :
    FragmentHeaders (sampleFragment ipprotoTcp) ∧
      (spaGate Gate.sampleInit.maps 0 (sampleFragment ipprotoTcp ++ finPayload 22 20)).1 = .drop ∧
      (spaGate Gate.sampleInit.maps 0 (sampleFragment ipprotoTcp ++ finPayload 23 20)).1 = .pass ∧
      ¬ PayloadBlind Gate.sampleInit.maps 0 (sampleFragment ipprotoTcp) 20 := by
  have hp : parse (sampleFragment ipprotoTcp) = .ok (some samplePkt) := rfl
  have hdrop : (spaGate Gate.sampleInit.maps 0
      (sampleFragment ipprotoTcp ++ finPayload 22 20)).1 = .drop := by
    rw [spaGate_of_ok (tryGate_of_tcpHeader (tcpHeader_finPayload hp rfl rfl 22 20) _ 0),
      if_pos isProtected_sampleInit]
    rfl
  have hpass : (spaGate Gate.sampleInit.maps 0
      (sampleFragment ipprotoTcp ++ finPayload 23 20)).1 = .pass := by
    have hfree : isProtected Gate.sampleInit.maps 23 = false := rfl
    rw [spaGate_of_ok (tryGate_of_tcpHeader (tcpHeader_finPayload hp rfl rfl 23 20) _ 0),
      if_neg (by simp [hfree])]
  refine ⟨sampleFragment_headers ipprotoTcp, hdrop, hpass, ?_⟩
  intro hblind
  rw [hblind _ _ (length_finPayload (by decide) 22) (length_finPayload (by decide) 23), hpass] at hdrop
  contradiction

end SpaDevice
