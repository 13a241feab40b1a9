import SpaDevice.Daemon

/-!
# SpaDevice.Grants

Whether an accepted knock really opens the gate.  The writer ignores the result
of the map insert and nothing ever removes an expired grant, so a knock opens
the gate exactly when its source has an entry already or the map holds fewer
than 1024 keys, the expired ones included (`knock_opens_iff`).

A grant that was written means in the kernel what it meant to the daemon: both
sides build the same key from their own form of the address, and the scan over
the packed ports answers for the list (`openPorts_means_same`).
-/

namespace SpaDevice

/-! ## What a grant means in the kernel -/

/-- What the kernel answers for a source whose grant was just written: the
packed ports until the expiry, which saturates. -/
theorem sourceAllowed_insertOrKeep_iff {allow : AllowMap} {key : Addr} (hfits : allow.Fits key)
    (t ttl : UInt64) (ports : List UInt16) (port : UInt16) (now : UInt64) :
    sourceAllowed (allow.insertOrKeep key (Grant.make (satAdd t ttl) ports)) key port now = true ↔
      port ∈ ports.take maxGrantPorts ∧ now.toNat < min (t.toNat + ttl.toNat) (2 ^ 64 - 1) := by
  rw [sourceAllowed_iff, BoundedDict.get_insertOrKeep, if_pos ⟨hfits, rfl⟩, ← toNat_satAdd,
    ← UInt64.lt_iff_toNat_lt, ← Grant.allowsPort_make (satAdd t ttl)]
  simp [and_comm]

/-- After the write of a grant for 1 to 8 ports, its source is allowed on all of
them until the pinhole closes, exactly when the map had room and the expiry did
not saturate. -/
theorem sourceAllowed_openPorts_iff (allow : AllowMap) (key : Addr) (t ttl : UInt64)
    {ports : List UInt16} (hports : 1 ≤ ports.length ∧ ports.length ≤ maxGrantPorts)
    (hpos : 0 < t.toNat + ttl.toNat) :
    (∀ port ∈ ports, ∀ now : UInt64, now.toNat < t.toNat + ttl.toNat →
      sourceAllowed (allow.insertOrKeep key (Grant.make (satAdd t ttl) ports)) key port now = true) ↔
    allow.Fits key ∧ t.toNat + ttl.toNat < 2 ^ 64 := by
  have htake : ports.take maxGrantPorts = ports := List.take_of_length_le hports.2
  obtain ⟨port₀, hport₀⟩ := List.exists_mem_of_length_pos hports.1
  constructor
  · intro h
    have hfits : allow.Fits key := by
      by_contra hn
      have hnone : allow.get key = none := by
        by_contra hsome
        obtain ⟨v, hv⟩ := Option.ne_none_iff_exists'.mp hsome
        exact hn (.inl ((BoundedDict.mem_keys_iff _ _).mpr ⟨v, hv⟩))
      have hfalse := h port₀ hport₀ 0 hpos
      rw [sourceAllowed, BoundedDict.get_insertOrKeep, if_neg (fun hc => hn hc.1), hnone] at hfalse
      contradiction
    refine ⟨hfits, ?_⟩
    -- Where the expiry saturates, the last instant of the clock is lost.
    by_contra hsat
    have hmax : (0xFFFFFFFFFFFFFFFF : UInt64).toNat = 2 ^ 64 - 1 := rfl
    have hlast := h port₀ hport₀ 0xFFFFFFFFFFFFFFFF (by omega)
    have hlt := ((sourceAllowed_insertOrKeep_iff hfits t ttl ports port₀ _).mp hlast).2
    omega
  · rintro ⟨hfits, hsat⟩ port hport now hnow
    refine (sourceAllowed_insertOrKeep_iff hfits t ttl ports port now).mpr ⟨?_, by omega⟩
    rw [htake]
    exact hport

/-- A host that knocks and sends frames. -/
inductive Host where
  | v4 (octets : ByteArr 4)
  | v6 (octets : ByteArr 16)

namespace Host

/-- The addresses a socket may report for the host: an IPv4 host shows in its
mapped form on a dual-stack socket. -/
def SeenAs : Host → IpAddr → Prop
  | .v4 o, source => source = .v4 o ∨ source = .v6 (mappedV4 o)
  | .v6 o, source => source = .v6 o

/-- The frame carries the host's address in the source field of its IP header. -/
def Sends : Host → List UInt8 → Prop
  | .v4 o, frame => (frame.drop 12).take 2 = [0x08, 0x00] ∧ (frame.drop 26).take 4 = o.val
  | .v6 o, frame => (frame.drop 12).take 2 = [0x86, 0xDD] ∧ (frame.drop 22).take 16 = o.val

end Host

theorem val_of_load {frame : List UInt8} {offset n : Nat} {b : ByteArr n}
    (h : load frame offset n = .ok b) : b.val = (frame.drop offset).take n := by
  unfold load at h
  split at h
  · contradiction
  · rw [← Except.ok.inj h]

/-- Where the source address of a parsed frame comes from. -/
theorem saddr_of_parse {frame : List UInt8} {pkt : Packet} (h : parse frame = .ok (some pkt)) :
    (u16OfBe ((frame.drop 12).take 2) = ethertypeIpv4 ∧
      ∃ o : ByteArr 4, o.val = (frame.drop 26).take 4 ∧ pkt.saddr = mappedV4 o) ∨
    (u16OfBe ((frame.drop 12).take 2) = ethertypeIpv6 ∧
      pkt.saddr.val = (frame.drop 22).take 16) := by
  obtain ⟨ethertype, hty, h⟩ := except_bind_eq_ok.mp h
  obtain ⟨b, hb, hbe⟩ := except_bind_eq_ok.mp hty
  have htype : u16OfBe ((frame.drop 12).take 2) = ethertype := by
    rw [← Except.ok.inj hbe, val_of_load hb]
    rfl
  split at h
  · next h4 =>
      obtain ⟨ihl, -, h⟩ := except_bind_eq_ok.mp h
      dsimp only at h
      split at h
      · have hnone := Except.ok.inj h
        contradiction
      · obtain ⟨saddr, hs, h⟩ := except_bind_eq_ok.mp h
        obtain ⟨daddr, -, h⟩ := except_bind_eq_ok.mp h
        obtain ⟨proto, -, h⟩ := except_bind_eq_ok.mp h
        rw [← Option.some.inj (Except.ok.inj h)]
        exact .inl ⟨htype.trans h4, saddr, val_of_load hs, rfl⟩
  · split at h
    · next h6 =>
        obtain ⟨proto, -, h⟩ := except_bind_eq_ok.mp h
        split at h
        · have hnone := Except.ok.inj h
          contradiction
        · obtain ⟨saddr, hs, h⟩ := except_bind_eq_ok.mp h
          obtain ⟨daddr, -, h⟩ := except_bind_eq_ok.mp h
          rw [← Option.some.inj (Except.ok.inj h)]
          exact .inr ⟨htype.trans h6, val_of_load hs⟩
    · have hnone := Except.ok.inj h
      contradiction

/-- The key the daemon derives from the reported address is the one the kernel
derives from the host's frames. -/
theorem saddr_eq_addrKey {host : Host} {source : IpAddr} (hseen : host.SeenAs source)
    {frame : List UInt8} (hsends : host.Sends frame) {pkt : Packet}
    (hparse : parse frame = .ok (some pkt)) : pkt.saddr = addrKey source := by
  cases host with
  | v4 o =>
      obtain ⟨htype, haddr⟩ := hsends
      have hkey : addrKey source = mappedV4 o := by
        rcases hseen with rfl | rfl <;> rfl
      rcases saddr_of_parse hparse with ⟨-, o', ho', hsaddr⟩ | ⟨h6, -⟩
      · have hsame : o' = o := Subtype.ext (ho'.trans haddr)
        rw [hsaddr, hkey, hsame]
      · rw [htype] at h6
        contradiction
  | v6 o =>
      obtain ⟨htype, haddr⟩ := hsends
      rcases saddr_of_parse hparse with ⟨h4, -⟩ | ⟨-, hsaddr⟩
      · rw [htype] at h4
        contradiction
      · rw [show source = .v6 o from hseen]
        exact Subtype.ext (hsaddr.trans haddr)

/-- **Agreement on a grant**: when the write has room, every frame of the host
that the kernel parses is looked up under the key that was written, it is
answered with exactly the ports and the time of the grant, and no other key is
answered differently. -/
theorem openPorts_means_same (w : BpfGateWriter) (host : Host) (source : IpAddr)
    (hseen : host.SeenAs source) (ports : List UInt16) (hports : ports.length ≤ maxGrantPorts)
    (t ttl : UInt64) (hfits : w.allow.Fits (addrKey source)) :
    let w' := w.openPorts t source ports ttl
    (∀ frame pkt, host.Sends frame → parse frame = .ok (some pkt) → pkt.saddr = addrKey source) ∧
    (∀ (p : UInt16) (now : UInt64), sourceAllowed w'.allow (addrKey source) p now = true ↔
      p ∈ ports ∧ now.toNat < min (t.toNat + ttl.toNat) (2 ^ 64 - 1)) ∧
    (∀ k, k ≠ addrKey source → ∀ (p : UInt16) (now : UInt64),
      sourceAllowed w'.allow k p now = sourceAllowed w.allow k p now) := by
  intro w'
  refine ⟨fun frame pkt hsends hparse => saddr_eq_addrKey hseen hsends hparse, ?_, ?_⟩
  · intro p now
    have hiff := sourceAllowed_insertOrKeep_iff hfits t ttl ports p now
    rw [List.take_of_length_le hports] at hiff
    exact hiff
  · intro k hk p now
    have hget : w'.allow.get k = w.allow.get k :=
      (BoundedDict.get_insertOrKeep _ _ _ _).trans (if_neg fun hc => hk hc.2)
    rw [sourceAllowed, sourceAllowed, hget]

/-- An Ethernet and an IPv4 header with options, from 192.0.2.1. -/
def optionsFrame : List UInt8 :=
  List.replicate 12 0 ++ [0x08, 0x00] ++
    [0x46, 0, 0, 0, 0, 0, 0, 0, 64, 6, 0, 0, 192, 0, 2, 1, 198, 51, 100, 1, 0, 0, 0, 0]

/-- An IPv4 client reported in its mapped form: its frames, header options
included, are looked up under the key written, and port 0 was really asked
for. -/
theorem openPorts_means_same_mapped :
    let w : BpfGateWriter := ⟨BoundedDict.empty, false, []⟩
    let source : IpAddr := .v6 (mappedV4 ⟨[192, 0, 2, 1], rfl⟩)
    (∃ pkt, parse optionsFrame = .ok (some pkt) ∧ pkt.saddr = addrKey source) ∧
      sourceAllowed (w.openPorts 5 source [22, 22, 0] 7).allow (addrKey source) 0 11 = true := by
  intro w source
  obtain ⟨hkey, hallowed, -⟩ := openPorts_means_same w (.v4 ⟨[192, 0, 2, 1], rfl⟩) source (.inr rfl)
    [22, 22, 0] (by decide) 5 7 (.inr (by decide))
  exact ⟨⟨_, rfl, hkey optionsFrame _ ⟨rfl, rfl⟩ rfl⟩, (hallowed 0 11).mpr (by decide)⟩

/-! ## When a knock opens the gate -/

/-- The sources that hold a grant which has not expired at `t`. -/
def liveKeys (allow : AllowMap) (t : UInt64) : Finset Addr :=
  allow.keys.filter fun a => (allow.get a).any fun grant => t < grant.expiryNs

namespace Gate

variable {Cr : Type} [Crypto Cr]

/-- If the event is an accepted knock while fewer than 1024 sources hold an
unexpired grant, then right after it the source is allowed on every requested
port at every time before the pinhole closes. -/
def KnockOpens (g : Gate Cr) (e : GateEvent) : Prop :=
  ∀ clk packet source ports, e = .traffic (.knock clk packet source) →
    (g.keeper.admitPacket clk packet source).1 = .opened ports →
    (liveKeys g.allow clk.mono).card < allowMaxEntries →
    ∀ port ∈ ports, ∀ now : UInt64,
      now.toNat < clk.mono.toNat + g.keeper.config.pinholeNanos.toNat →
      sourceAllowed (g.step e).allow (addrKey source) port now = true

/-- If the event is an accepted knock while fewer than 1024 sources hold an
unexpired grant, then its source has an entry in `ALLOW` or `ALLOW` holds fewer
than 1024 keys, expired ones included, and the end of the pinhole fits into 64
bits. -/
def HasRoom (g : Gate Cr) (e : GateEvent) : Prop :=
  ∀ clk packet source ports, e = .traffic (.knock clk packet source) →
    (g.keeper.admitPacket clk packet source).1 = .opened ports →
    (liveKeys g.allow clk.mono).card < allowMaxEntries →
    (addrKey source ∈ g.allow.keys ∨ g.allow.keys.card < allowMaxEntries) ∧
      clk.mono.toNat + g.keeper.config.pinholeNanos.toNat < 2 ^ 64

/-- One event of a gate with the daemon's pinhole. -/
theorem knockOpens_iff_hasRoom {lib : AwsLc} {g : Gate (GateKeypair lib)}
    (hpin : g.keeper.config.pinholeNanos = pinholeNanos) (e : GateEvent) :
    KnockOpens g e ↔ HasRoom g e := by
  have hpos : 0 < pinholeNanos.toNat := by decide
  unfold KnockOpens HasRoom
  refine forall_congr' fun clk => forall_congr' fun packet => forall_congr' fun source =>
    forall_congr' fun ports => forall_congr' fun he => forall_congr' fun hd =>
      forall_congr' fun _ => ?_
  obtain ⟨opened, policy, hacc, -, rfl, hafter⟩ := Gatekeeper.admitPacket_of_opened hd
  have hports := (GateKeypair.openPacket_signingBytes hacc.openPacket).2
  have hallow : (g.step e).allow = g.allow.insertOrKeep (addrKey source)
      (Grant.make (satAdd clk.mono g.keeper.config.pinholeNanos) opened.auth.ports) := by
    rw [he, step, traffic, allow, hafter]
    rfl
  rw [hallow]
  exact sourceAllowed_openPorts_iff g.allow (addrKey source) clk.mono _ hports (by rw [hpin]; omega)

/-- **When accepted knocks open the gate**: along a run of the daemon's gate
every accepted knock opens the gate for its source, ports and time exactly when
at every such knock the allow-list has room for it. -/
theorem knock_opens_iff {lib : AwsLc} (p : GateParams) (kp : GateKeypair lib) (trust : SharedTrust)
    (window : Nat) (nftFloor : Bool) (protectedPorts : ProtectedMap) (knockPort : UInt16)
    (es : List GateEvent) :
    let g := init p.config kp trust window nftFloor protectedPorts knockPort
    Always step KnockOpens g es ↔ Always step HasRoom g es := by
  intro g
  refine forall_congr' fun before => forall_congr' fun e => forall_congr' fun after =>
    forall_congr' fun _ => knockOpens_iff_hasRoom ?_ e
  rw [(config_run g before).1]
  rfl

/-! ## A full allow-list -/

/-- The sample gate, started with nothing cloaked. -/
def crowdGate : Gate (GateKeypair transparent) :=
  init GateParams.sample.config sampleGate sampleTrust GateParams.sample.replayWindow false
    BoundedDict.empty 0

/-- The knock with the `n`-th nonce from the `n`-th address. -/
def crowdKnock (secs n : Nat) : GateEvent :=
  .traffic (.knock (sampleClocks secs) (sampleKnock n) (.v6 (beArr 16 n)))

/-- Knocks from the first `n` addresses, all at time 0. -/
def crowd (n : Nat) : List GateEvent := (List.range n).map (crowdKnock 0)

/-- What the gate looks like after `n` knocks of the crowd. -/
structure Crowded (n : Nat) (g : Gate (GateKeypair transparent)) : Prop where
  config : g.keeper.config = sampleConfig
  crypto : g.keeper.crypto = sampleGate
  trust : g.keeper.trust = sampleTrust
  unseen : ∀ k, n ≤ k → k ≤ 1024 → g.keeper.replay.seen.lookup (beArr 16 k) = none
  keys : g.allow.keys = (Finset.range n).image (beArr 16)
  expiry : ∀ a grant, g.allow.get a = some grant → grant.expiryNs = 30000000000

theorem Crowded.card {n : Nat} {g : Gate (GateKeypair transparent)} (h : Crowded n g)
    (hn : n ≤ 1024) : g.allow.keys.card = n := by
  rw [h.keys, Finset.card_image_of_injOn, Finset.card_range]
  intro i hi j hj heq
  rw [Finset.mem_coe, Finset.mem_range] at hi hj
  by_contra hne
  exact beArr_ne (by omega) (by omega) hne heq

/-- The next address of the crowd is opened. -/
theorem Crowded.accepted {n : Nat} {g : Gate (GateKeypair transparent)} (h : Crowded n g)
    (hn : n ≤ 1024) (secs : Nat) (source : IpAddr) :
    ∃ opened policy, g.keeper.accepted (sampleClocks secs) (sampleKnock n) source =
        some (opened, policy) ∧
      opened.auth.ports = [22] ∧ opened.auth.nonce = beArr 16 n ∧ policy.singleUse = false :=
  Gatekeeper.admitPacket_sampleKnock _ _ _ h.config h.crypto (by rw [h.trust]; rfl)
    (by rw [h.trust]; rfl) rfl
    (h.unseen n (Nat.le_refl n) hn) source

theorem Crowded.step {n : Nat} {g : Gate (GateKeypair transparent)} (h : Crowded n g)
    (hn : n < 1024) : Crowded (n + 1) (g.step (crowdKnock 0 n)) := by
  obtain ⟨opened, policy, hacc, hports, hnonce, hsingle⟩ := h.accepted (by omega) 0 (.v6 (beArr 16 n))
  have hstep : g.step (crowdKnock 0 n) =
      { g with
        keeper := g.keeper.afterOpen (sampleClocks 0) (.v6 (beArr 16 n)) opened policy } := by
    rw [crowdKnock, Gate.step, traffic, (Gatekeeper.accepted_eq_some hacc).2.2]
  have hallow : (g.step (crowdKnock 0 n)).allow =
      g.allow.insertOrKeep (beArr 16 n) (Grant.make 30000000000 [22]) := by
    rw [hstep, ← hports]
    change g.allow.insertOrKeep _ (Grant.make (satAdd _ g.keeper.config.pinholeNanos) _) = _
    rw [h.config]
    rfl
  have hfits : g.allow.Fits (beArr 16 n) := .inr (by rw [h.card (by omega)]; exact hn)
  refine ⟨?_, ?_, ?_, ?_, ?_, ?_⟩
  · rw [hstep]; exact h.config
  · rw [hstep]; exact h.crypto
  · rw [hstep]
    change (if policy.singleUse then _ else _) = _
    rw [hsingle]
    exact h.trust
  · intro k hk hk'
    have hne : (beArr 16 k : Nonce) ≠ opened.auth.nonce := by
      rw [hnonce]
      exact beArr_ne hk' (by omega) (by omega)
    rw [hstep, Gatekeeper.lookup_afterOpen_of_ne _ _ _ _ hne, h.unseen k (by omega) hk']
    rfl
  · rw [hallow, BoundedDict.keys_insertOrKeep, if_pos hfits, h.keys, Finset.range_add_one,
      Finset.image_insert]
  · intro a grant hget
    rw [hallow, BoundedDict.get_insertOrKeep] at hget
    split at hget
    · rw [← Option.some.inj hget, Grant.expiryNs_make]
    · exact h.expiry a grant hget

theorem crowded_run {n : Nat} (hn : n ≤ 1024) : Crowded n (run Gate.step crowdGate (crowd n)) := by
  induction n with
  | zero =>
      refine ⟨rfl, rfl, rfl, fun _ _ _ => rfl, rfl, fun a grant hget => ?_⟩
      contradiction
  | succ n ih =>
      rw [crowd, List.range_succ, List.map_append, run_append]
      exact (ih (by omega)).step hn

theorem Crowded.not_mem {n : Nat} {g : Gate (GateKeypair transparent)} (h : Crowded n g)
    (hn : n ≤ 1024) : (beArr 16 n : Addr) ∉ g.allow.keys := by
  rw [h.keys, Finset.mem_image]
  rintro ⟨i, hi, heq⟩
  rw [Finset.mem_range] at hi
  exact beArr_ne (by omega) hn (by omega) heq

/-- A crowd of 1024 fills the allow-list. -/
theorem Crowded.full {n : Nat} {g : Gate (GateKeypair transparent)} (h : Crowded n g)
    (hn : n = allowMaxEntries) : ¬ g.allow.Fits (beArr 16 n) := by
  have hn' : n ≤ 1024 := Nat.le_of_eq hn
  rintro (hmem | hcard)
  · exact h.not_mem hn' hmem
  · rw [h.card hn', hn] at hcard
    exact Nat.lt_irrefl _ hcard

/-- Once the crowd fills the allow-list, the next knock is answered `opened`
but opens nothing, even when every grant has expired. -/
theorem crowd_opens_nothing {n : Nat} (hn : n = allowMaxEntries) :
    ¬ Always Gate.step KnockOpens crowdGate (crowd n ++ [crowdKnock 40 n]) := by
  intro h
  have hn' : n ≤ 1024 := Nat.le_of_eq hn
  have hcrowd := crowded_run hn'
  generalize hg : run Gate.step crowdGate (crowd n) = g at hcrowd
  obtain ⟨opened, policy, hacc, hports, -⟩ := hcrowd.accepted hn' 40 (.v6 (beArr 16 n))
  have hcall := (Gatekeeper.accepted_eq_some hacc).2.2
  have hlive : liveKeys g.allow (sampleClocks 40).mono = ∅ := by
    rw [liveKeys, Finset.filter_eq_empty_iff]
    intro a _ hany
    obtain ⟨grant, hget, hlt⟩ := (Option.any_eq_true _ _).mp hany
    rw [hcrowd.expiry a grant hget] at hlt
    exact absurd (of_decide_eq_true hlt) (by decide)
  have hallow : (g.step (crowdKnock 40 n)).allow = g.allow := by
    rw [crowdKnock, Gate.step, traffic, hcall]
    exact BoundedDict.insertOrKeep_of_not_fits (hcrowd.full hn) _
  have hpin : (0 : UInt64).toNat <
      (sampleClocks 40).mono.toNat + g.keeper.config.pinholeNanos.toNat := by
    rw [UInt64.toNat_zero, hcrowd.config]
    exact Nat.add_pos_right _ (by decide)
  have hknock := h (crowd n) (crowdKnock 40 n) [] rfl
  rw [hg] at hknock
  have hallowed := hknock (sampleClocks 40) (sampleKnock n) (.v6 (beArr 16 n)) [22] rfl
    (by rw [hcall, hports]) (by rw [hlive]; decide) 22 List.mem_cons_self 0 hpin
  rw [sourceAllowed, hallow] at hallowed
  split at hallowed
  · next grant hget =>
      exact hcrowd.not_mem hn' ((BoundedDict.mem_keys_iff _ _).mpr ⟨grant, hget⟩)
  · exact Bool.false_ne_true hallowed

/-- **An accepted knock that opens nothing**: after 1024 knocks from different
addresses at time 0, all of whose grants have expired 40 seconds later, the
next address is answered `opened` but is not allowed. -/
theorem knock_opens_nothing :
    ¬ Always Gate.step KnockOpens crowdGate (crowd 1024 ++ [crowdKnock 40 1024]) :=
  crowd_opens_nothing rfl

end Gate

end SpaDevice
