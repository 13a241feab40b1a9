import SpaDevice.Fragments
import SpaDevice.Isolation
import SpaDevice.Opening

/-!
# SpaDevice.Delivery

A knock on its way through a flood.

The kernel program asks its limiter about every frame to the knock port that has
the size of a knock (`knockSource`), and the limiter keeps one window for each
source.  Along a run of the gate the entry of a source never counts more than the
frames of that source that were let through since its window opened
(`budgeted_run`); evictions only make it count less.  So a frame is refused only
when its own source had `RATE_LIMIT` frames let through in the last second
(`refused_spent`), and the knock of a known client gets through to the daemon and
is opened, whatever all the others send (`knock_gets_through`).
-/

namespace SpaDevice

/-! ## The frames the limiter is asked about -/

/-- The source of a datagram to the knock port of a size that a knock can have. -/
def knockSource (m : Maps) (frame : List UInt8) : Option Addr :=
  match parse frame with
  | .ok (some pkt) =>
      let base := pkt.l4Off + udpHdrLen
      if pkt.proto = ipprotoUdp ∧
          (loadU16 frame (pkt.l4Off + udpDportOff)).toOption = some m.config ∧
          ¬ (base + knockMin > frame.length ∨ base + knockMax < frame.length) then
        some pkt.saddr
      else none
  | _ => none

theorem knockSource_of_parse {m : Maps} {frame : List UInt8} {pkt : Packet}
    (hp : parse frame = .ok (some pkt)) (hudp : pkt.proto = ipprotoUdp)
    (hd : loadU16 frame (pkt.l4Off + udpDportOff) = .ok m.config)
    (hsize : ¬ (pkt.l4Off + udpHdrLen + knockMin > frame.length ∨
      pkt.l4Off + udpHdrLen + knockMax < frame.length)) :
    knockSource m frame = some pkt.saddr := by
  unfold knockSource
  rw [hp]
  exact if_pos ⟨hudp, by rw [hd, Except.toOption], hsize⟩

theorem knockSource_eq_some {m : Maps} {frame : List UInt8} {src : Addr}
    (h : knockSource m frame = some src) :
    ∃ pkt, parse frame = .ok (some pkt) ∧ pkt.proto = ipprotoUdp ∧
      loadU16 frame (pkt.l4Off + udpDportOff) = .ok m.config ∧
      ¬ (pkt.l4Off + udpHdrLen + knockMin > frame.length ∨
        pkt.l4Off + udpHdrLen + knockMax < frame.length) ∧ pkt.saddr = src := by
  unfold knockSource at h
  split at h
  · next pkt hp =>
      dsimp only at h
      split at h
      · next hknock =>
          obtain ⟨hudp, hport, hsize⟩ := hknock
          refine ⟨pkt, hp, hudp, ?_, hsize, Option.some.inj h⟩
          cases hd : loadU16 frame (pkt.l4Off + udpDportOff) with
          | error e =>
              rw [hd] at hport
              contradiction
          | ok dport =>
              rw [hd] at hport
              rw [Option.some.inj hport]
      · contradiction
  · contradiction

/-- A knock frame is a frame of its source. -/
theorem frameSource_of_knockSource {m : Maps} {frame : List UInt8} {src : Addr}
    (h : knockSource m frame = some src) : frameSource frame = some src := by
  obtain ⟨pkt, hp, -, -, -, rfl⟩ := knockSource_eq_some h
  rw [frameSource, hp]

/-- The limiter decides on a knock frame, and its answer is all that is written. -/
theorem spaGate_of_knockSource {m : Maps} {frame : List UInt8} {src : Addr}
    (h : knockSource m frame = some src) (now : UInt64) :
    spaGate m now frame = (if (rateOk m.rate src now).1 then .pass else .drop,
      { m with rate := (rateOk m.rate src now).2 }) := by
  obtain ⟨pkt, hp, hudp, hd, hsize, rfl⟩ := knockSource_eq_some h
  have hgate : udpGate m now frame pkt = .ok
      (if (rateOk m.rate pkt.saddr now).1 then .pass else .drop,
        { m with rate := (rateOk m.rate pkt.saddr now).2 }) := by
    simp only [udpGate, hd, except_ok_bind, ne_eq, not_true_eq_false, if_false]
    rw [if_neg hsize]
    rfl
  rw [spaGate, tryGate_eq_udpGate hp hudp, hgate]

theorem rate_trackFlow (m : Maps) (now : UInt64) (flow : FlowKey) (flags : UInt8) :
    (trackFlow m now flow flags).2.rate = m.rate := by
  by_cases h : Tracked m now flow
  · rw [trackFlow_of_tracked h]
  · rcases trackFlow_of_not_tracked h flags with ⟨-, -, heq⟩ | ⟨est, heq, -⟩
    · rw [heq]
    · rw [heq]

theorem rate_tcpGate {m : Maps} {now : UInt64} {frame : List UInt8} {pkt : Packet}
    {r : XdpAction × Maps} (h : tcpGate m now frame pkt = .ok r) : r.2.rate = m.rate := by
  obtain ⟨dport, -, h⟩ := except_bind_eq_ok.mp h
  split at h
  · rw [← Except.ok.inj h]
  · obtain ⟨sport, -, h⟩ := except_bind_eq_ok.mp h
    obtain ⟨flags, -, h⟩ := except_bind_eq_ok.mp h
    rw [← Except.ok.inj h]
    exact rate_trackFlow _ _ _ _

theorem rate_udpGate {m : Maps} {now : UInt64} {frame : List UInt8} {pkt : Packet}
    {r : XdpAction × Maps} (hp : parse frame = .ok (some pkt)) (hudp : pkt.proto = ipprotoUdp)
    (hnone : knockSource m frame = none) (h : udpGate m now frame pkt = .ok r) :
    r.2.rate = m.rate := by
  obtain ⟨dport, hd, h⟩ := except_bind_eq_ok.mp h
  dsimp only at h
  split at h
  · rw [← Except.ok.inj h]
  · next hport =>
      split at h
      · rw [← Except.ok.inj h]
      · next hsize =>
          -- the branch that asks the limiter
          rw [not_not.mp hport] at hd
          have hsome := knockSource_of_parse hp hudp hd hsize
          rw [hnone] at hsome
          contradiction

/-- No other frame writes `RATE`. -/
theorem rate_of_knockSource_none {m : Maps} {frame : List UInt8} (h : knockSource m frame = none)
    (now : UInt64) : (spaGate m now frame).2.rate = m.rate := by
  unfold spaGate
  cases htry : tryGate m now frame with
  | error e => rfl
  | ok r =>
      obtain ⟨opkt, hp, hr⟩ := except_bind_eq_ok.mp htry
      cases opkt with
      | none => rw [← Except.ok.inj hr]
      | some pkt =>
          dsimp only at hr
          split at hr
          · exact rate_tcpGate hr
          · split at hr
            · next hudp => exact rate_udpGate hp hudp h hr
            · rw [← Except.ok.inj hr]

/-! ## The budget of a source -/

/-- The times of a source's frames that were let through account for its entry: one
of them opened the window, and the entry counts at most those since. -/
def Budgeted (times : List UInt64) (entry : Option RateState) : Prop :=
  ∀ s, entry = some s → s.windowNs ∈ times ∧
    s.count.toNat ≤ times.countP fun t => s.windowNs ≤ t

theorem Budgeted.none (times : List UInt64) : Budgeted times none := by
  intro s h
  contradiction

/-- A refused call writes nothing. -/
theorem rateEntry_of_false {entry : Option RateState} {now : UInt64}
    (h : (rateEntry entry now).1 = false) : (rateEntry entry now).2 = entry := by
  unfold rateEntry at h ⊢
  split
  · split
    · split
      · rfl
      · next hin hroom => simp [hin, hroom] at h
    · next hout => simp [hout] at h
  · simp at h

/-- An accepted call is one more frame that was let through. -/
theorem Budgeted.accepted {times : List UInt64} {entry : Option RateState} {now : UInt64}
    (h : Budgeted times entry) (hle : ∀ t ∈ times, t ≤ now) (hok : (rateEntry entry now).1 = true) :
    Budgeted (times ++ [now]) (rateEntry entry now).2 := by
  have hopens : Budgeted (times ++ [now]) (some ⟨now, 1⟩) := by
    intro s hs
    obtain rfl := Option.some.inj hs
    refine ⟨by simp, ?_⟩
    rw [List.countP_append]
    simp
  unfold rateEntry at hok ⊢
  split
  · next s₀ =>
      split
      · split
        · next hin hfull => simp [hin, hfull] at hok
        · intro s hs
          obtain rfl := Option.some.inj hs
          obtain ⟨hmem, hcount⟩ := h s₀ rfl
          refine ⟨List.mem_append_left _ hmem, ?_⟩
          have hsucc : (s₀.count + 1).toNat ≤ s₀.count.toNat + 1 := by
            rw [UInt32.toNat_add, UInt32.toNat_one]
            exact Nat.mod_le _ _
          rw [List.countP_append]
          simp only [List.countP_singleton, hle _ hmem, decide_true, if_true]
          omega
      · exact hopens
  · exact hopens

/-- A refused source had `RATE_LIMIT` frames let through in the last second. -/
theorem refused_spent {times : List UInt64} {entry : Option RateState} {now : UInt64}
    (h : Budgeted times entry) (hle : ∀ t ∈ times, t ≤ now)
    (hno : (rateEntry entry now).1 = false) :
    rateLimit.toNat ≤ times.countP fun t => now.toNat < t.toNat + rateWindowNs.toNat := by
  unfold rateEntry at hno
  split at hno
  · next s =>
      split at hno
      · next hin =>
          split at hno
          · next hfull =>
              obtain ⟨hmem, hcount⟩ := h s rfl
              have hopened := hle _ hmem
              rw [UInt64.lt_iff_toNat_lt, UInt64.toNat_sub_of_le _ _ hopened] at hin
              have hlimit : rateLimit.toNat ≤ s.count.toNat := UInt32.le_iff_toNat_le.mp hfull
              refine hlimit.trans (hcount.trans (List.countP_mono_left fun t _ ht => ?_))
              have hsince := UInt64.le_iff_toNat_le.mp (of_decide_eq_true ht)
              have hnow := UInt64.le_iff_toNat_le.mp hopened
              refine decide_eq_true ?_
              omega
          · contradiction
      · contradiction
  · contradiction

namespace Gate

variable {Cr : Type} [Crypto Cr]

/-- The time of a knock frame of `src` that was let through. -/
def letThrough (src : Addr) (g : Gate Cr) : GateEvent → Option UInt64
  | .traffic (.frame now frame) =>
      if knockSource g.maps frame = some src ∧ (spaGate g.maps now frame).1 = .pass then some now
      else none
  | _ => none

omit [Crypto Cr] in
theorem time_of_letThrough {src : Addr} {g : Gate Cr} {e : GateEvent} {t : UInt64}
    (h : letThrough src g e = some t) : e.time = some t := by
  unfold letThrough at h
  split at h
  · split at h
    · exact h
    · contradiction
  · contradiction

omit [Crypto Cr] in
/-- The frames of others use nothing up. -/
theorem letThrough_of_ne {src : Addr} {frame : List UInt8} (h : frameSource frame ≠ some src)
    (g : Gate Cr) (now : UInt64) : letThrough src g (.traffic (.frame now frame)) = none :=
  if_neg fun hlet => h (frameSource_of_knockSource hlet.1)

/-- What an event does to the entry of a source: nothing, or it removes the entry, or
it is one of the source's knock frames that is let through. -/
theorem rate_step (src : Addr) (g : Gate Cr) (e : GateEvent) :
    (letThrough src g e = none ∧
        ((g.step e).rate.lookup src = g.rate.lookup src ∨ (g.step e).rate.lookup src = none)) ∨
      ∃ now, e.time = some now ∧ letThrough src g e = some now ∧
        (rateEntry (g.rate.lookup src) now).1 = true ∧
        (g.step e).rate.lookup src = (rateEntry (g.rate.lookup src) now).2 := by
  match e with
  | .update (.setClients clients) => exact .inl ⟨rfl, .inl rfl⟩
  | .update (.setTokens tokens) => exact .inl ⟨rfl, .inl rfl⟩
  | .update (.protect port) => exact .inl ⟨rfl, .inl rfl⟩
  | .update (.unprotect port) => exact .inl ⟨rfl, .inl rfl⟩
  | .traffic (.knock clk packet source) => exact .inl ⟨rfl, .inl rfl⟩
  | .traffic (.evictFlow flow) => exact .inl ⟨rfl, .inl rfl⟩
  | .traffic (.evictRate addr) =>
      refine .inl ⟨rfl, ?_⟩
      change (g.rate.erase addr).lookup src = _ ∨ (g.rate.erase addr).lookup src = _
      rw [Dict.lookup_erase_eq]
      split
      · exact .inr rfl
      · exact .inl rfl
  | .traffic (.frame now frame) =>
      change (_ ∧ ((spaGate g.maps now frame).2.rate.lookup src = _ ∨
        (spaGate g.maps now frame).2.rate.lookup src = none)) ∨
          ∃ t, _ ∧ _ ∧ _ ∧ (spaGate g.maps now frame).2.rate.lookup src = _
      cases hsrc : knockSource g.maps frame with
      | none =>
          refine .inl ⟨by simp [letThrough, hsrc], .inl ?_⟩
          rw [rate_of_knockSource_none hsrc]
          rfl
      | some saddr =>
          have hspa := spaGate_of_knockSource hsrc now
          have hlookup := lookup_rateOk g.rate saddr src now
          by_cases hown : src = saddr
          · subst hown
            rw [if_pos rfl] at hlookup
            cases hok : (rateEntry (g.rate.lookup src) now).1 with
            | false =>
                have hno : (rateOk g.maps.rate src now).1 = false := (rateOk_fst _ _ _).trans hok
                refine .inl ⟨by simp [letThrough, hsrc, hspa, hno], .inl ?_⟩
                rw [hspa]
                exact hlookup.trans (rateEntry_of_false hok)
            | true =>
                have hyes : (rateOk g.maps.rate src now).1 = true := (rateOk_fst _ _ _).trans hok
                refine .inr ⟨now, rfl, by simp [letThrough, hsrc, hspa, hyes], hok, ?_⟩
                rw [hspa]
                exact hlookup
          · rw [if_neg hown] at hlookup
            refine .inl ⟨by simp [letThrough, hsrc, Ne.symm hown], .inl ?_⟩
            rw [hspa]
            exact hlookup

/-- The times recorded are readings of the run. -/
theorem letThrough_le {src : Addr} {g : Gate Cr} {es : List GateEvent} {e : GateEvent}
    {now : UInt64} (hclock : ClockMonotone (es ++ [e])) (hnow : e.time = some now) :
    ∀ t ∈ record step (letThrough src) g es, t ≤ now := by
  intro t ht
  obtain ⟨before, e₀, after, rfl, hlet⟩ := mem_record_iff.mp ht
  exact hclock.le (by simp) (time_of_letThrough hlet) hnow

/-- **The budget along a run**: the frames of a source that were let through account
for its entry, whatever else reaches the gate and whatever the kernel evicts. -/
theorem budgeted_run (src : Addr) {g : Gate Cr} (hg : g.rate = ∅) (es : List GateEvent) :
    ClockMonotone es →
      Budgeted (record step (letThrough src) g es) ((run step g es).rate.lookup src) := by
  refine run_history step (I := fun es g' => ClockMonotone es →
    Budgeted (record step (letThrough src) g es) (g'.rate.lookup src)) ?_ ?_ es
  · intro _
    rw [hg, Finmap.lookup_empty]
    exact Budgeted.none _
  · intro es e ih hclock
    have hbudget := ih hclock.of_append
    rw [record_concat]
    rcases rate_step src (run step g es) e with ⟨hnone, hkept⟩ | ⟨now, htime, hlet, hok, hentry⟩
    · rw [hnone, Option.toList_none, List.append_nil]
      rcases hkept with hsame | hgone
      · rw [hsame]
        exact hbudget
      · rw [hgone]
        exact Budgeted.none _
    · rw [hlet, hentry, Option.toList_some]
      exact hbudget.accepted (letThrough_le hclock htime) hok

/-! ## The nonces that are spent -/

/-- The event is an accepted knock with the nonce. -/
def Spends (nonce : Nonce) (g : Gate Cr) (e : GateEvent) : Prop :=
  ∃ clk packet source opened policy, e = .traffic (.knock clk packet source) ∧
    g.keeper.accepted clk packet source = some (opened, policy) ∧ opened.auth.nonce = nonce

/-- A nonce that the cache remembers was spent in the run. -/
theorem spent_of_live {g : Gate Cr} (hg : g.keeper.replay.seen = ∅) {es : List GateEvent}
    {now : Nat} {nonce : Nonce} (hlive : (run step g es).keeper.replay.Live now nonce) :
    Occurs step (Spends nonce) g es := by
  have hhistory : ∀ es, ∀ u, (run step g es).keeper.replay.seen.lookup nonce = some u →
      Occurs step (Spends nonce) g es := by
    refine run_history step (I := fun es g' => ∀ u, g'.keeper.replay.seen.lookup nonce = some u →
      Occurs step (Spends nonce) g es) ?_ ?_
    · intro u h
      rw [hg] at h
      contradiction
    · intro es e ih u h
      cases e with
      | update up =>
          refine (ih u ?_).append _
          cases up <;> exact h
      | traffic t =>
          rcases (traffic_cases (run step g es) t).2 with ⟨clk, packet, source, rfl, hk⟩ | ⟨-, hk⟩
          · rw [step, hk] at h
            rcases (Gatekeeper.seen_step (run step g es).keeper (.call clk packet source) nonce).2 with
              ⟨c, hc, hnonce, -⟩ | hsame | ⟨at', -, hpruned⟩
            · obtain ⟨⟨opened, policy⟩, hacc, rfl⟩ := Option.map_eq_some_iff.mp hc
              exact .last ⟨clk, packet, source, opened, policy, rfl, hacc, hnonce⟩
            · exact (ih u (hsame.symm.trans h)).append _
            · have hbefore := Option.mem_filter_iff.mp (hpruned.symm.trans h)
              exact (ih u hbefore.1).append _
          · rw [step, hk] at h
            exact (ih u h).append _
  obtain ⟨u, hu, -⟩ := hlive
  exact hhistory es u hu

end Gate

/-! ## A knock on its way -/

/-- A frame that carries `packet` to the knock port: headers up to the end of a UDP
header, and the packet to the end of the frame. -/
def Carries (knockPort : UInt16) (source : IpAddr) (packet frame : List UInt8) : Prop :=
  ∃ hdr pkt, frame = hdr ++ packet ∧ parse frame = .ok (some pkt) ∧ pkt.proto = ipprotoUdp ∧
    pkt.saddr = addrKey source ∧ hdr.length = pkt.l4Off + udpHdrLen ∧
    loadU16 frame (pkt.l4Off + udpDportOff) = .ok knockPort

/-- What `seal` gives: 1 to 8 ports, and a packet of a size that the kernel lets
through, whatever the gate's key is. -/
theorem knock_size_of_sealPorts {lib : AwsLc} (hl : lib.Lawful) {k : Knocker lib} {ports : List UInt16}
    {draws : KnockDraws lib} {packet : List UInt8} (h : k.sealPorts ports draws = .ok packet) :
    (1 ≤ ports.length ∧ ports.length ≤ maxPorts) ∧
      knockMin ≤ packet.length ∧ packet.length ≤ knockMax := by
  obtain ⟨req, hreq, h⟩ := except_bind_eq_ok.mp h
  obtain ⟨nonce, -, hreq⟩ := except_bind_eq_ok.mp hreq
  obtain ⟨timestampNanos, -, hreq⟩ := except_bind_eq_ok.mp hreq
  obtain rfl := Except.ok.inj hreq
  obtain ⟨signing, -, h⟩ := except_bind_eq_ok.mp (mapError_eq_ok.mp h)
  obtain ⟨sig, -, h⟩ := except_bind_eq_ok.mp h
  obtain ⟨plaintext, hplain, h⟩ := except_bind_eq_ok.mp h
  obtain ⟨hports, hplain⟩ :=
    (Authorization.encode_eq_ok_iff _ _).mp (toOption_eq_some.mp (okOr_eq_ok.mp hplain))
  have hlen : plaintext.length = 74 + 2 * ports.length + 64 := by
    rw [hplain, List.length_append, Authorization.length_signingRegion, sig.property]
    rfl
  have hmax : ports.length ≤ 8 := hports.2
  obtain ⟨e, he, h⟩ := except_bind_eq_ok.mp h
  obtain ⟨ephPub, hpub, h⟩ := except_bind_eq_ok.mp h
  obtain ⟨secret, -, h⟩ := except_bind_eq_ok.mp h
  obtain ⟨⟨key, aeadNonce⟩, -, h⟩ := except_bind_eq_ok.mp h
  obtain ⟨ct, hct, h⟩ := except_bind_eq_ok.mp h
  obtain rfl := Except.ok.inj h
  obtain ⟨ephPub', hpub', hephlen⟩ := hl.ephemeralPublicKey _ _ _ (okOr_eq_ok.mp he)
  obtain rfl := Option.some.inj (hpub'.symm.trans (okOr_eq_ok.mp hpub))
  obtain ⟨ct', hct', hctlen⟩ := hl.aeadSeal k.client.suite key aeadNonce
    ([version, k.client.suite.toByte] ++ ephPub') plaintext (by omega)
  obtain rfl := Option.some.inj (hct'.symm.trans (okOr_eq_ok.mp hct))
  refine ⟨hports, ?_⟩
  have hone : 1 ≤ ports.length := hports.1
  simp only [List.length_append, List.length_cons, List.length_nil, hephlen, hctlen, hlen, aeadTagLen,
    knockMin, knockMax]
  cases k.client.suite with
  | fips =>
      simp only [ephPubLen]
      omega
  | modern =>
      simp only [ephPubLen]
      omega

/-- A sealed knock comes in a knock frame. -/
theorem Carries.knockSource {lib : AwsLc} (hl : lib.Lawful) {k : Knocker lib} {ports : List UInt16}
    {draws : KnockDraws lib} {packet : List UInt8} (hseal : k.sealPorts ports draws = .ok packet)
    {source : IpAddr} {frame : List UInt8} {m : Maps} (h : Carries m.config source packet frame) :
    knockSource m frame = some (addrKey source) := by
  obtain ⟨hdr, pkt, rfl, hp, hudp, hsource, hhdr, hd⟩ := h
  obtain ⟨-, hmin, hmax⟩ := knock_size_of_sealPorts hl hseal
  have hsize : ¬ (pkt.l4Off + udpHdrLen + knockMin > (hdr ++ packet).length ∨
      pkt.l4Off + udpHdrLen + knockMax < (hdr ++ packet).length) := by
    rw [List.length_append, hhdr]
    omega
  rw [← hsource]
  exact knockSource_of_parse hp hudp hd hsize

namespace Gate

variable {Cr : Type} [Crypto Cr]

theorem knockPort_step (g : Gate Cr) (e : GateEvent) : (g.step e).knockPort = g.knockPort := by
  match e with
  | .update (.setClients clients) => rfl
  | .update (.setTokens tokens) => rfl
  | .update (.protect port) => rfl
  | .update (.unprotect port) => rfl
  | .traffic (.knock clk packet source) => rfl
  | .traffic (.evictFlow flow) => rfl
  | .traffic (.evictRate addr) => rfl
  | .traffic (.frame now frame) =>
      obtain ⟨established, rate, hs⟩ := setMaps_spaGate g now frame
      rw [step, traffic, hs]

theorem knockPort_run (g : Gate Cr) (es : List GateEvent) :
    (run step g es).knockPort = g.knockPort :=
  run_invariant step (I := fun g' => g'.knockPort = g.knockPort)
    (fun g' e _ h => (knockPort_step g' e).trans h) rfl

/-- **A knock gets through a flood.**  Let anything reach the gate, in any order, and
let a sealed knock arrive in a frame of its own address, of which fewer than
`RATE_LIMIT` knock frames were let through in the last second.  The frame passes.  And
whenever the daemon handles the packet of a known client, within the skew and as long
as nobody has spent its nonce, it opens the ports the client asks for. -/
theorem knock_gets_through {lib : AwsLc} (hl : lib.Lawful) {g₀ : Gate (GateKeypair lib)}
    (hrate : g₀.rate = ∅) (hseen : g₀.keeper.replay.seen = ∅) {k : Knocker lib} {ports : List UInt16}
    {draws : KnockDraws lib} {packet frame : List UInt8} (hseal : k.sealPorts ports draws = .ok packet)
    {source : IpAddr} (hcarries : Carries g₀.knockPort source packet frame) (before : List GateEvent)
    (now : UInt64) (hclock : ClockMonotone (before ++ [.traffic (.frame now frame)]))
    (hbudget : ((record step (letThrough (addrKey source)) g₀ before).countP
      fun t => now.toNat < t.toNat + rateWindowNs.toNat) < rateLimit.toNat) :
    (spaGate (run step g₀ before).maps now frame).1 = .pass ∧
      ∀ (after : List GateEvent) (clk : Clocks) (nonce : Nonce) (timestampNanos : UInt64)
        (allowed : List UInt16),
        let es := before ++ .traffic (.frame now frame) :: after
        let gk := (run step g₀ es).keeper
        draws.Gives nonce timestampNanos → k.Known gk allowed → (∀ p ∈ ports, p ∈ allowed) →
        WithinSkew clk.wall timestampNanos gk.config.skewNanos → ¬ Occurs step (Spends nonce) g₀ es →
        (gk.admitPacket clk packet source).1 = .opened ports := by
  constructor
  · have hsrc : knockSource (run step g₀ before).maps frame = some (addrKey source) := by
      rw [← knockPort_run g₀ before] at hcarries
      exact Carries.knockSource (m := (run step g₀ before).maps) hl hseal hcarries
    cases hok : (rateEntry ((run step g₀ before).rate.lookup (addrKey source)) now).1 with
    | false =>
        -- a refusal needs the budget of the last second
        have hspent := refused_spent (budgeted_run (addrKey source) hrate before hclock.of_append)
          (letThrough_le hclock rfl) hok
        omega
    | true =>
        have hyes : (rateOk (run step g₀ before).maps.rate (addrKey source) now).1 = true :=
          (rateOk_fst _ _ _).trans hok
        rw [spaGate_of_knockSource hsrc, if_pos hyes]
  · intro after clk nonce timestampNanos allowed es gk hgives hknown hreach hskew hunspent
    obtain ⟨hcount, -⟩ := knock_size_of_sealPorts hl hseal
    obtain ⟨packet', opened, policy, hseal', -, hadmit⟩ := hknown.opened hl hcount hreach hgives
      hskew (fun hlive => hunspent (spent_of_live hseen hlive)) source
    obtain rfl := Except.ok.inj (hseal'.symm.trans hseal)
    exact congrArg Prod.fst hadmit

/-- Headers from another address to port 62201, and 180 zero bytes. -/
def floodFrame : List UInt8 :=
  List.replicate 12 0 ++ [0x08, 0x00] ++
    [0x45, 0, 0, 0, 0, 0, 0, 0, 64, 17, 0, 0, 203, 0, 113, 9, 198, 51, 100, 1] ++
    [0x9c, 0x40, 0xf2, 0xf9, 0, 0, 0, 0] ++ List.replicate 180 0

def flood : List GateEvent := List.replicate 1000 (.traffic (.frame 0 floodFrame))

theorem frameSource_floodFrame : frameSource floodFrame ≠ some (addrKey sampleAddr) := by
  have hp : parse floodFrame = .ok (some ⟨mappedV4 ⟨[203, 0, 113, 9], rfl⟩,
      mappedV4 ⟨[198, 51, 100, 1], rfl⟩, ipprotoUdp, 34⟩) :=
    parse_append (by rfl) _
  rw [frameSource, hp]
  decide

/-- The sample client's knock gets through a thousand such frames. -/
theorem knock_gets_through_sample :
    ∃ packet, sampleKnocker.sealPorts [22] devDraws = .ok packet ∧
      (spaGate (run step sampleInit flood).maps 0 (sampleUdpHdr ++ packet)).1 = .pass ∧
      ((run step sampleInit (flood ++ [.traffic (.frame 0 (sampleUdpHdr ++ packet))])).keeper.admitPacket
        (sampleClocks 1) packet sampleAddr).1 = .opened [22] := by
  obtain ⟨packet, hseal, -⟩ := sampleAttempt_arrives.opened transparent_lawful
  have hframes : ∀ e ∈ flood ++ [.traffic (.frame 0 (sampleUdpHdr ++ packet))],
      ∃ frame, e = .traffic (.frame 0 frame) := by
    intro e he
    rcases List.mem_append.mp he with he | he
    · exact ⟨_, List.eq_of_mem_replicate he⟩
    · exact ⟨_, List.mem_singleton.mp he⟩
  have hkeeper : (run step sampleInit
      (flood ++ [.traffic (.frame 0 (sampleUdpHdr ++ packet))])).keeper = sampleInit.keeper := by
    refine run_invariant step (I := fun g => g.keeper = sampleInit.keeper) ?_ rfl
    intro g e he h
    obtain ⟨frame, rfl⟩ := hframes e he
    rw [keeper_frame, h]
  have hcarries : Carries 62201 sampleAddr packet (sampleUdpHdr ++ packet) :=
    ⟨sampleUdpHdr, ⟨addrKey sampleAddr, mappedV4 ⟨[198, 51, 100, 1], rfl⟩, ipprotoUdp, 34⟩, rfl,
      parse_append (by rfl) packet, rfl, rfl, rfl, loadU16_append (by rfl) packet⟩
  have hclock : ClockMonotone (flood ++ [.traffic (.frame 0 (sampleUdpHdr ++ packet))]) := by
    have hzero : ∀ t ∈ (flood ++ [GateEvent.traffic (.frame 0 (sampleUdpHdr ++ packet))]).filterMap
        GateEvent.time, t = 0 := by
      intro t ht
      obtain ⟨e, he, htime⟩ := List.mem_filterMap.mp ht
      obtain ⟨frame, rfl⟩ := hframes e he
      exact (Option.some.inj htime).symm
    refine List.pairwise_of_forall_mem_list fun t ht t' ht' => ?_
    rw [hzero t ht, hzero t' ht']
    exact UInt64.le_refl 0
  have hunused : record step (letThrough (addrKey sampleAddr)) sampleInit flood = [] := by
    refine List.eq_nil_iff_forall_not_mem.mpr fun t ht => ?_
    obtain ⟨before, e, after, hsplit, hlet⟩ := mem_record_iff.mp ht
    have he : e ∈ flood := by
      rw [hsplit]
      simp
    rw [List.eq_of_mem_replicate he, letThrough_of_ne frameSource_floodFrame] at hlet
    simp at hlet
  obtain ⟨hpass, hopens⟩ := knock_gets_through transparent_lawful rfl rfl hseal
    hcarries flood 0 hclock (by rw [hunused, List.countP_nil]; decide)
  refine ⟨packet, hseal, hpass, hopens [] (sampleClocks 1) (beArr 16 0) sampleWall [22]
    devDraws_gives ?_ (fun p hp => hp) ?_ ?_⟩
  · rw [hkeeper]
    exact ⟨rfl, rfl, rfl, rfl, lookup_sampleClients⟩
  · rw [hkeeper]
    exact withinSkew_sample
  · rintro ⟨before, e, after, hsplit, clk, packet', source, opened, policy, rfl, -, -⟩
    obtain ⟨frame, he⟩ := hframes (.traffic (.knock clk packet' source)) (by rw [hsplit]; simp)
    simp at he

end Gate

end SpaDevice
