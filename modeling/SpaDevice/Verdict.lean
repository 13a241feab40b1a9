import SpaDevice.Agreement
import SpaDevice.Cloak

/-!
# SpaDevice.Verdict

What the verdict on one frame says about the state it was given in.

* A TCP frame to a protected port that ends before its flags byte takes the
  error exit of the entry point, which passes it: the cloak holds exactly for
  the frames that reach their flags byte (`spaGate_pass_excused_iff`).
* A `SYN` that passes had a live grant, or it belongs to a flow that is tracked
  and not idle; such a flow goes back to a `SYN` of the same 4-tuple that a
  knock had opened the port for (`syn_pass_sound`).
* The kernel's size filter and the daemon's parser fix the size of a knock
  independently, and the filter lets every knock through that the daemon would
  open (`udpGate_of_openPacket`).
-/

namespace SpaDevice

/-! ## Frames with a tail -/

/-- A read inside a frame does not see what comes after the frame. -/
theorem load_append {hdr : List UInt8} {offset n : Nat} {b : ByteArr n}
    (h : load hdr offset n = .ok b) (tail : List UInt8) : load (hdr ++ tail) offset n = .ok b := by
  have hle := (load_eq_ok_iff hdr offset n).mp ⟨b, h⟩
  have hlen : ¬ offset + n > hdr.length := by omega
  have hlen' : ¬ offset + n > (hdr ++ tail).length := by rw [List.length_append]; omega
  have hsame : ((hdr ++ tail).drop offset).take n = (hdr.drop offset).take n := by
    rw [List.drop_append_of_le_length (by omega), List.take_append_of_le_length]
    rw [List.length_drop]
    omega
  rw [load, dif_neg hlen] at h
  rw [load, dif_neg hlen', ← h]
  exact congrArg Except.ok (Subtype.ext hsame)

theorem loadU8_append {hdr : List UInt8} {offset : Nat} {v : UInt8}
    (h : loadU8 hdr offset = .ok v) (tail : List UInt8) : loadU8 (hdr ++ tail) offset = .ok v := by
  obtain ⟨b, hb, h⟩ := except_bind_eq_ok.mp h
  exact except_bind_eq_ok.mpr ⟨b, load_append hb tail, h⟩

theorem loadU16_append {hdr : List UInt8} {offset : Nat} {v : UInt16}
    (h : loadU16 hdr offset = .ok v) (tail : List UInt8) : loadU16 (hdr ++ tail) offset = .ok v := by
  obtain ⟨b, hb, h⟩ := except_bind_eq_ok.mp h
  exact except_bind_eq_ok.mpr ⟨b, load_append hb tail, h⟩

/-- The headers alone decide how a frame is classified. -/
theorem parse_append {hdr : List UInt8} {r : Option Packet} (h : parse hdr = .ok r)
    (tail : List UInt8) : parse (hdr ++ tail) = .ok r := by
  obtain ⟨ethertype, hty, h⟩ := except_bind_eq_ok.mp h
  refine except_bind_eq_ok.mpr ⟨ethertype, loadU16_append hty tail, ?_⟩
  split at h
  · next h4 =>
      obtain ⟨b, hb, h⟩ := except_bind_eq_ok.mp h
      rw [if_pos h4]
      refine except_bind_eq_ok.mpr ⟨b, loadU8_append hb tail, ?_⟩
      dsimp only at h ⊢
      split at h
      · next hihl => rw [if_pos hihl]; exact h
      · next hihl =>
          obtain ⟨saddr, hs, h⟩ := except_bind_eq_ok.mp h
          obtain ⟨daddr, hd, h⟩ := except_bind_eq_ok.mp h
          obtain ⟨proto, hp, h⟩ := except_bind_eq_ok.mp h
          rw [if_neg hihl, load_append hs tail, except_ok_bind, load_append hd tail, except_ok_bind,
            loadU8_append hp tail, except_ok_bind]
          exact h
  · next h4 =>
      rw [if_neg h4]
      split at h
      · next h6 =>
          obtain ⟨proto, hp, h⟩ := except_bind_eq_ok.mp h
          rw [if_pos h6, loadU8_append hp tail, except_ok_bind]
          split at h
          · next hext => rw [if_pos hext]; exact h
          · next hext =>
              obtain ⟨saddr, hs, h⟩ := except_bind_eq_ok.mp h
              obtain ⟨daddr, hd, h⟩ := except_bind_eq_ok.mp h
              rw [if_neg hext, load_append hs tail, except_ok_bind, load_append hd tail,
                except_ok_bind]
              exact h
      · next h6 => rw [if_neg h6]; exact h

/-! ## Short frames -/

/-- The frame's flow, addressed to `dport`, is tracked and not idle. -/
def FlowTracked (m : Maps) (now : UInt64) (frame : List UInt8) (pkt : Packet) (dport : UInt16) :
    Prop :=
  ∃ sport, loadU16 frame (pkt.l4Off + tcpSportOff) = .ok sport ∧
    Tracked m now { saddr := pkt.saddr, daddr := pkt.daddr, sport, dport }

/-- The frame's flags byte lies inside it and makes it a pure `SYN`, and its
source holds a live grant for `dport`. -/
def AllowedSyn (m : Maps) (now : UInt64) (frame : List UInt8) (pkt : Packet) (dport : UInt16) :
    Prop :=
  ∃ flags, loadU8 frame (pkt.l4Off + tcpFlagsOff) = .ok flags ∧ isSyn flags = true ∧
    sourceAllowed m.allow pkt.saddr dport now = true

/-- What the cloak promises for a frame to the protected port `dport`. -/
def PassExcused (m : Maps) (now : UInt64) (frame : List UInt8) (pkt : Packet) (dport : UInt16) :
    Prop :=
  (spaGate m now frame).1 = .pass →
    FlowTracked m now frame pkt dport ∨ AllowedSyn m now frame pkt dport

section

variable {m : Maps} {now : UInt64} {frame : List UInt8} {pkt : Packet} {dport : UInt16}

/-- A frame that reaches its flags byte passes only when it may. -/
theorem passExcused_of_header (hp : parse frame = .ok (some pkt)) (htcp : pkt.proto = ipprotoTcp)
    (hd : loadU16 frame (pkt.l4Off + tcpDportOff) = .ok dport)
    (hprot : isProtected m dport = true) (hlen : pkt.l4Off + tcpFlagsOff < frame.length) :
    PassExcused m now frame pkt dport := by
  intro hpass
  obtain ⟨flow, flags, hh⟩ := (tcpHeader_isSome_iff hp htcp).mpr hlen
  obtain ⟨pkt', hp', -, hd', hs, hf, hsaddr, hdaddr⟩ := (tcpHeader_eq_some_iff frame flow flags).mp hh
  obtain rfl : pkt = pkt' := Option.some.inj (Except.ok.inj (hp.symm.trans hp'))
  obtain rfl : dport = flow.dport := Except.ok.inj (hd.symm.trans hd')
  rw [spaGate, tryGate_of_tcpHeader hh, if_pos hprot] at hpass
  by_cases ht : Tracked m now flow
  · refine .inl ⟨flow.sport, hs, ?_⟩
    rw [← hsaddr, ← hdaddr]
    exact ht
  · rcases trackFlow_of_not_tracked ht flags with ⟨hsyn, hallow, -⟩ | ⟨est, heq, -⟩
    · exact .inr ⟨flags, hf, hsyn, by rw [← hsaddr]; exact hallow⟩
    · rw [heq] at hpass
      contradiction

/-- A frame to a protected port that ends before its flags byte passes. -/
theorem spaGate_pass_of_short (hp : parse frame = .ok (some pkt)) (htcp : pkt.proto = ipprotoTcp)
    (hd : loadU16 frame (pkt.l4Off + tcpDportOff) = .ok dport)
    (hprot : isProtected m dport = true) (hlen : frame.length ≤ pkt.l4Off + tcpFlagsOff)
    (now : UInt64) : spaGate m now frame = (.pass, m) := by
  have hflags : loadU8 frame (pkt.l4Off + tcpFlagsOff) = .error () := by
    cases hf : loadU8 frame (pkt.l4Off + tcpFlagsOff) with
    | error e => rfl
    | ok flags =>
        have hlt := (loadU8_eq_ok_iff frame _).mp ⟨flags, hf⟩
        omega
  have htry : tryGate m now frame = .error () := by
    simp only [tryGate, hp, except_ok_bind, htcp, if_true, tcpGate, hd, hprot, hflags]
    -- Whether or not the source port could be read, the flags cannot.
    cases loadU16 frame (pkt.l4Off + tcpSportOff) with
    | error e => rfl
    | ok sport => rfl
  rw [spaGate, htry]

/-- **Short frames**: a TCP frame whose destination port lies inside it and is
protected is treated as the cloak promises exactly when its flags byte lies
inside it too, or its flow is tracked anyway. -/
theorem spaGate_pass_excused_iff (hp : parse frame = .ok (some pkt)) (htcp : pkt.proto = ipprotoTcp)
    (hd : loadU16 frame (pkt.l4Off + tcpDportOff) = .ok dport)
    (hprot : isProtected m dport = true) :
    PassExcused m now frame pkt dport ↔
      pkt.l4Off + tcpFlagsOff < frame.length ∨ FlowTracked m now frame pkt dport := by
  constructor
  · intro h
    by_cases hlen : pkt.l4Off + tcpFlagsOff < frame.length
    · exact .inl hlen
    · have hpass := spaGate_pass_of_short hp htcp hd hprot (Nat.not_lt.mp hlen) now
      rcases h (by rw [hpass]) with ht | ⟨flags, hf, -, -⟩
      · exact .inr ht
      · exact absurd ((loadU8_eq_ok_iff frame _).mp ⟨flags, hf⟩) hlen
  · rintro (hlen | ht)
    · exact passExcused_of_header hp htcp hd hprot hlen
    · exact fun _ => .inl ht

end

/-- How `parse` classifies the sample `SYN`. -/
def samplePkt : Packet := ⟨addrKey sampleAddr, mappedV4 ⟨[198, 51, 100, 1], rfl⟩, ipprotoTcp, 34⟩

theorem isProtected_sampleInit : isProtected Gate.sampleInit.maps 22 = true := by
  rw [Gate.isProtected_maps_iff]
  change 22 ∈ (BoundedDict.empty.insertOrKeep 22 1 : ProtectedMap).keys
  rw [BoundedDict.keys_insertOrKeep, if_pos (.inr (by decide))]
  exact Finset.mem_insert_self _ _

/-- The sample `SYN` as a whole is kept out. -/
theorem spaGate_pass_excused_iff_sample :
    parse Gate.sampleSyn = .ok (some samplePkt) ∧
      PassExcused Gate.sampleInit.maps 0 Gate.sampleSyn samplePkt 22 := by
  have hp : parse Gate.sampleSyn = .ok (some samplePkt) := rfl
  exact ⟨hp, (spaGate_pass_excused_iff hp rfl rfl isProtected_sampleInit).mpr (.inl (by decide))⟩

/-- The first eight bytes of the sample `SYN`'s TCP header, as in a tiny first
fragment. -/
def shortSyn : List UInt8 := Gate.sampleSyn.take 42

/-- **A short frame bypasses the cloak**: it passes to the protected port
without a flow, a flags byte or a grant. -/
theorem short_frame_passes :
    parse shortSyn = .ok (some samplePkt) ∧ samplePkt.proto = ipprotoTcp ∧
      loadU16 shortSyn (samplePkt.l4Off + tcpDportOff) = .ok 22 ∧
      isProtected Gate.sampleInit.maps 22 = true ∧
      ¬ PassExcused Gate.sampleInit.maps 0 shortSyn samplePkt 22 := by
  have hp : parse shortSyn = .ok (some samplePkt) := by rfl
  have hd : loadU16 shortSyn (samplePkt.l4Off + tcpDportOff) = .ok 22 := by rfl
  refine ⟨hp, rfl, hd, isProtected_sampleInit, ?_⟩
  intro h
  have hpass := spaGate_pass_of_short hp rfl hd isProtected_sampleInit (by decide) 0
  rcases h (by rw [hpass]) with ⟨sport, -, last, hlast, -⟩ | ⟨flags, hf, -, -⟩
  · contradiction
  · contradiction

/-! ## New connections -/

theorem tryGate_eq_tcpGate {frame : List UInt8} {pkt : Packet} (hp : parse frame = .ok (some pkt))
    (htcp : pkt.proto = ipprotoTcp) (m : Maps) (now : UInt64) :
    tryGate m now frame = tcpGate m now frame pkt := by
  simp only [tryGate, hp, except_ok_bind, htcp, if_true]

namespace Gate

variable {Cr : Type} [Crypto Cr]

/-- **A live grant or a tracked flow**: in every run of a fresh gate whose
monotonic clock never goes backwards, a frame that `tcp_gate` passes to a
protected port is a pure `SYN` whose source holds a live grant for the port, or
its own 4-tuple is in `ESTABLISHED`, last seen less than the idle limit ago;
such an entry goes back to a `SYN` that a knock had opened the port for. -/
theorem live_grant_or_tracked (config : Config) (crypto : Cr) (trust : SharedTrust) (window : Nat)
    (nftFloor : Bool) (protectedPorts : ProtectedMap) (knockPort : UInt16)
    (es : List GateEvent) (t : UInt64) (bytes : List UInt8) (pkt : Packet) (flow : FlowKey)
    (flags : UInt8) (m : Maps) (hclock : ClockMonotone (es ++ [.traffic (.frame t bytes)]))
    (hparse : parse bytes = .ok (some pkt)) (hh : tcpHeader bytes = some (flow, flags)) :
    let g := init config crypto trust window nftFloor protectedPorts knockPort
    isProtected (run step g es).maps flow.dport = true →
    tcpGate (run step g es).maps t bytes pkt = .ok (.pass, m) →
    (isSyn flags = true ∧ ∃ grant, (run step g es).allow.get flow.saddr = some grant ∧
      t < grant.expiryNs ∧ grant.allowsPort flow.dport = true) ∨
    ∃ last, (run step g es).established.lookup flow = some last ∧ last ≤ t ∧
      t.toNat < last.toNat + flowIdleNs.toNat ∧ Justified flow last g es := by
  intro g hprot hpass
  obtain ⟨pkt', hparse', htcp, -⟩ := (tcpHeader_eq_some_iff bytes flow flags).mp hh
  obtain rfl : pkt = pkt' := Option.some.inj (Except.ok.inj (hparse.symm.trans hparse'))
  have hpass' : (spaGate (run step g es).maps t bytes).1 = .pass := by
    rw [spaGate, tryGate_eq_tcpGate hparse htcp, hpass]
  rcases pass_cases hh hprot hpass' with ⟨last, hlast, hidle⟩ | ⟨hsyn, hallow⟩
  · have hjust := established_provenance rfl rfl es hclock.of_append flow last hlast
    have hchain := hjust
    obtain ⟨before, first, after, t₀, lflags, rfl, -, hend, -⟩ := hchain
    have hfollows : Follows (last, lflags) (t, flags) := follows_of_idle hclock rfl hend hidle
    obtain ⟨frame, hin⟩ := mem_of_chainLog hend
    exact .inr ⟨last, hlast, hclock.le hin rfl rfl, hfollows, hjust⟩
  · exact .inl ⟨hsyn, (sourceAllowed_iff _ _ _ _).mp hallow⟩

/-! ### A session that outlives its pinhole -/

/-- The sample client knocks at 1 second and connects at 2 seconds. -/
def sampleSession : List GateEvent :=
  [.traffic (.knock (sampleClocks 1) (sampleKnock 0) sampleAddr),
    .traffic (.frame 2000000000 sampleSyn)]

/-- The flow of the sample `SYN`. -/
def sampleFlow : FlowKey := ⟨addrKey sampleAddr, mappedV4 ⟨[198, 51, 100, 1], rfl⟩, 40000, 22⟩

theorem tcpHeader_sampleSyn : tcpHeader sampleSyn = some (sampleFlow, 2) := rfl

/-- The session leaves its flow tracked, last seen at 2 seconds, and its grant
expires at 31 seconds. -/
theorem sampleSession_state :
    (run step sampleInit sampleSession).established.lookup sampleFlow = some 2000000000 ∧
      isProtected (run step sampleInit sampleSession).maps sampleFlow.dport = true ∧
      ∀ now, sourceAllowed (run step sampleInit sampleSession).allow sampleFlow.saddr
        sampleFlow.dport now = true ↔ now < 31000000000 := by
  have hallowed : ∀ now, sourceAllowed
      (sampleInit.step (.traffic (.knock (sampleClocks 1) (sampleKnock 0) sampleAddr))).allow
      sampleFlow.saddr sampleFlow.dport now = true ↔ now < 31000000000 := sampleInit_allowed_iff
  have hports : (sampleInit.step
      (.traffic (.knock (sampleClocks 1) (sampleKnock 0) sampleAddr))).protectedPorts =
        sampleInit.protectedPorts := rfl
  have hest : (sampleInit.step
      (.traffic (.knock (sampleClocks 1) (sampleKnock 0) sampleAddr))).established = ∅ := rfl
  rw [sampleSession, run_cons]
  generalize sampleInit.step (.traffic (.knock (sampleClocks 1) (sampleKnock 0) sampleAddr)) = g
    at hallowed hports hest
  have hprot : isProtected g.maps sampleFlow.dport = true := by
    rw [isProtected_maps_iff, hports, ← isProtected_maps_iff]
    exact isProtected_sampleInit
  have hnot : ¬ Tracked g.maps 2000000000 sampleFlow := by
    rintro ⟨last, hlast, -⟩
    change g.established.lookup sampleFlow = some last at hlast
    rw [hest] at hlast
    contradiction
  have hspa : (spaGate g.maps 2000000000 sampleSyn).2 =
      { g.maps with established := g.established.insert sampleFlow 2000000000 } := by
    obtain ⟨m, hpass⟩ := tryGate_of_allowed_syn tcpHeader_sampleSyn hprot (by decide)
      ((hallowed 2000000000).mpr (by decide))
    have htry := tryGate_of_tcpHeader tcpHeader_sampleSyn g.maps 2000000000
    rw [if_pos hprot] at htry
    rw [spaGate, htry]
    rcases trackFlow_of_not_tracked hnot 2 with ⟨-, -, heq⟩ | ⟨est, heq, -⟩
    · rw [heq]
      rfl
    · rw [htry, heq] at hpass
      simp at hpass
  rw [run_cons, run_nil, step, traffic, hspa]
  exact ⟨(Dict.lookup_insert_eq _ _ _ _).trans (if_pos rfl), hprot, hallowed⟩

/-- At 40 seconds the session's `SYN` sent again passes. -/
theorem sampleSession_pass :
    ∃ m, tcpGate (run step sampleInit sampleSession).maps 40000000000 sampleSyn samplePkt =
      .ok (.pass, m) := by
  obtain ⟨hest, hprot, -⟩ := sampleSession_state
  generalize run step sampleInit sampleSession = g at hest hprot
  have hparse : parse sampleSyn = .ok (some samplePkt) := rfl
  have htracked : Tracked g.maps 40000000000 sampleFlow := ⟨2000000000, hest, by decide⟩
  rw [← tryGate_eq_tcpGate hparse rfl, tryGate_of_tcpHeader tcpHeader_sampleSyn, if_pos hprot,
    trackFlow_of_tracked htracked]
  exact ⟨_, rfl⟩

theorem sampleSession_clock :
    ClockMonotone (sampleSession ++ [.traffic (.frame 40000000000 sampleSyn)]) := by
  simp [ClockMonotone, sampleSession, GateEvent.time, sampleClocks]

/-- At 40 seconds the `SYN` of the session passes as part of a tracked flow. -/
theorem live_grant_or_tracked_sample :
    ∃ last, (run step sampleInit sampleSession).established.lookup sampleFlow = some last ∧
      last ≤ 40000000000 ∧ Justified sampleFlow last sampleInit sampleSession := by
  obtain ⟨hest, hprot, hallowed⟩ := sampleSession_state
  obtain ⟨m, hpass⟩ := sampleSession_pass
  rcases live_grant_or_tracked sampleConfig sampleGate sampleTrust 5000000000 false
      (BoundedDict.empty.insertOrKeep 22 1) 62201 sampleSession 40000000000 sampleSyn
      samplePkt sampleFlow 2 m sampleSession_clock rfl tcpHeader_sampleSyn
      hprot hpass with ⟨-, hlive⟩ | ⟨last, hlast, hle, -, hjust⟩
  · have hlt := (hallowed 40000000000).mp ((sourceAllowed_iff _ _ _ _).mpr hlive)
    exact absurd hlt (by decide)
  · exact ⟨last, hlast, hle, hjust⟩

/-- **A `SYN` after the pinhole has closed**: at 40 seconds the grant of the
sample session has expired, but its `SYN` sent again passes, because the
4-tuple is still tracked. -/
theorem syn_passes_after_pinhole :
    ClockMonotone (sampleSession ++ [.traffic (.frame 40000000000 sampleSyn)]) ∧
      parse sampleSyn = .ok (some samplePkt) ∧ tcpHeader sampleSyn = some (sampleFlow, 2) ∧
      isSyn 2 = true ∧ isProtected (run step sampleInit sampleSession).maps sampleFlow.dport = true ∧
      (∃ m, tcpGate (run step sampleInit sampleSession).maps 40000000000 sampleSyn samplePkt =
        .ok (.pass, m)) ∧
      ¬ ∃ grant, (run step sampleInit sampleSession).allow.get sampleFlow.saddr = some grant ∧
        40000000000 < grant.expiryNs ∧ grant.allowsPort sampleFlow.dport = true := by
  obtain ⟨-, hprot, hallowed⟩ := sampleSession_state
  refine ⟨sampleSession_clock, rfl, tcpHeader_sampleSyn, by decide, hprot, sampleSession_pass, ?_⟩
  intro h
  have hlive := (hallowed 40000000000).mp ((sourceAllowed_iff _ _ _ _).mpr h)
  exact absurd hlive (by decide)

end Gate

/-! ## The size of a knock -/

/-- AEAD opening takes the 16-byte tag off the ciphertext. -/
def AwsLc.TakesTag (lib : AwsLc) : Prop :=
  ∀ suite key nonce aad ct pt, lib.aeadOpen suite key nonce aad ct = some pt →
    ct.length = pt.length + aeadTagLen

theorem transparent_takesTag : transparent.TakesTag := by
  intro suite key nonce aad ct pt h
  simp only [transparent] at h
  split at h
  · next hct =>
      have hlen := congrArg List.length hct
      rw [← Option.some.inj h]
      simpa only [List.length_append, checksum, length_toBe] using hlen
  · contradiction

/-- The size of an accepted packet: version, suite, ephemeral key, the 74 bytes
before the ports, the ports, the signature and the tag. -/
theorem length_of_openPacket {lib : AwsLc} (htag : lib.TakesTag) {kp : GateKeypair lib}
    {packet : List UInt8} {opened : Opened} (h : kp.openPacket packet = .ok opened) :
    packet.length = 2 + ephPubLen kp.suite + (74 + 2 * opened.auth.ports.length + 64) + 16 := by
  obtain ⟨ephPub, ciphertext, plaintext, ho⟩ := GateKeypair.opens_of_openPacket h
  obtain ⟨key, nonce, haead⟩ := ho.aead
  have hct := htag _ _ _ _ _ _ haead
  obtain ⟨-, hpt⟩ := (Authorization.encode_eq_ok_iff _ _).mp (Authorization.decode_sound ho.decode)
  have hplain : plaintext.length = 74 + 2 * opened.auth.ports.length + 64 := by
    rw [hpt, List.length_append, Authorization.length_signingRegion, opened.auth.signature.property]
  rw [ho.packet_eq]
  simp only [List.length_append, List.length_cons, List.length_nil, ho.length_ephPub, hct, hplain,
    aeadTagLen]
  omega

/-- Every accepted packet, of either suite, lies in the kernel's size window. -/
theorem knock_size_of_openPacket {lib : AwsLc} (htag : lib.TakesTag) {kp : GateKeypair lib}
    {packet : List UInt8} {opened : Opened} (h : kp.openPacket packet = .ok opened) :
    knockMin ≤ packet.length ∧ packet.length ≤ knockMax := by
  obtain ⟨-, hone, hmax⟩ := GateKeypair.openPacket_signingBytes h
  have hlen := length_of_openPacket htag h
  simp only [maxPorts, knockMin, knockMax] at hmax ⊢
  cases hs : kp.suite with
  | fips =>
      simp only [hs, ephPubLen] at hlen
      omega
  | modern =>
      simp only [hs, ephPubLen] at hlen
      omega

/-- **The size filter drops no knock the daemon would open**: a frame whose UDP
payload, to the knock port and up to the end of the frame, is a packet that
`open` accepts passes the size check, so that only the rate limit decides. -/
theorem udpGate_of_openPacket {lib : AwsLc} (htag : lib.TakesTag) (kp : GateKeypair lib)
    (packet : List UInt8) (opened : Opened) (hopen : kp.openPacket packet = .ok opened) (m : Maps)
    (now : UInt64) (hdr : List UInt8) (pkt : Packet) (knockPort : UInt16)
    (hparse : parse (hdr ++ packet) = .ok (some pkt)) (hudp : pkt.proto = ipprotoUdp)
    (hhdr : hdr.length = pkt.l4Off + udpHdrLen)
    (hd : loadU16 (hdr ++ packet) (pkt.l4Off + udpDportOff) = .ok knockPort)
    (hconfig : m.config = knockPort) :
    let base := pkt.l4Off + udpHdrLen
    let verdict := if (rateOk m.rate pkt.saddr now).1 then XdpAction.pass else XdpAction.drop
    let m' := { m with rate := (rateOk m.rate pkt.saddr now).2 }
    ¬ (base + knockMin > (hdr ++ packet).length ∨ base + knockMax < (hdr ++ packet).length) ∧
      udpGate m now (hdr ++ packet) pkt = .ok (verdict, m') ∧
      spaGate m now (hdr ++ packet) = (verdict, m') := by
  intro base verdict m'
  have hsize : ¬ (base + knockMin > (hdr ++ packet).length ∨
      base + knockMax < (hdr ++ packet).length) := by
    obtain ⟨hmin, hmax⟩ := knock_size_of_openPacket htag hopen
    rw [List.length_append, hhdr]
    omega
  have hgate : udpGate m now (hdr ++ packet) pkt = .ok (verdict, m') := by
    simp only [udpGate, hd, except_ok_bind, hconfig, ne_eq, not_true_eq_false, if_false]
    rw [if_neg hsize, ← hconfig]
    rfl
  have hnot : ¬ ipprotoUdp = ipprotoTcp := by decide
  refine ⟨hsize, hgate, ?_⟩
  simp only [spaGate, tryGate, hparse, except_ok_bind, hudp, if_neg hnot, if_true, hgate]

/-- Ethernet, IPv4 and UDP headers from the sample address to port 62201. -/
def sampleUdpHdr : List UInt8 :=
  List.replicate 12 0 ++ [0x08, 0x00] ++
    [0x45, 0, 0, 0, 0, 0, 0, 0, 64, 17, 0, 0, 192, 0, 2, 1, 198, 51, 100, 1] ++
    [0x9c, 0x40, 0xf2, 0xf9, 0, 0, 0, 0]

theorem udpGate_of_openPacket_sample :
    ∃ opened, sampleGate.openPacket (sampleKnock 0) = .ok opened ∧
      (spaGate Gate.sampleInit.maps 0 (sampleUdpHdr ++ sampleKnock 0)).1 = .pass := by
  obtain ⟨opened, hopen, -⟩ := GateKeypair.openPacket_sampleKnock 0
  generalize sampleKnock 0 = packet at hopen
  have hp : parse sampleUdpHdr = .ok (some
      ⟨addrKey sampleAddr, mappedV4 ⟨[198, 51, 100, 1], rfl⟩, ipprotoUdp, 34⟩) := by rfl
  have hd : loadU16 sampleUdpHdr 36 = .ok 62201 := by rfl
  obtain ⟨-, -, hpass⟩ := udpGate_of_openPacket transparent_takesTag sampleGate packet opened hopen
    Gate.sampleInit.maps 0 sampleUdpHdr _ 62201 (parse_append hp packet) rfl rfl
    (loadU16_append hd packet) rfl
  refine ⟨opened, hopen, ?_⟩
  rw [hpass]
  rfl

end SpaDevice
