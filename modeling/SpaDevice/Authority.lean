import SpaDevice.Layers

/-!
# SpaDevice.Authority

Who let a packet in.  A frame that the kernel program passes to a cloaked port goes
back, link by link, to the key that signs the bundles: its flow was started by a `SYN`
in the pinhole of an accepted knock, the knock was signed with a credential that the
bundle in force at that moment lists for the port, and that bundle came in a file
signed under the pinned anchor (`pass_is_authorized`).

The links between the flow and the knock are those of the gate's run
(`SpaDevice.Cloak`); `gateTrace_split` finds the knock in the daemon's run, where the
bundle in force is known.
-/

namespace SpaDevice

/-- Every credential has the gate's suite. -/
theorem SharedTrust.suite_of_lookup {t : SharedTrust} {thumb : Thumbprint} {policy : ClientPolicy}
    (h : t.lookup thumb = some policy) : policy.suite = t.suite := by
  unfold lookup at h
  split at h
  · rw [← Option.some.inj h]
  · split at h
    · rw [← Option.some.inj h]
    · contradiction

namespace Gate

variable {Cr : Type} [Crypto Cr]

/-- The flow was started by a `SYN` at `t₀`, and its frames since then follow each other
without an idle gap up to one at `t`. -/
def FlowRuns (flow : FlowKey) (g : Gate Cr) (es : List GateEvent) (t₀ t : UInt64) : Prop :=
  ∃ before first after, es = before ++ first :: after ∧
    (∃ flags, flowHit flow (run step g before) first = some (t₀, flags) ∧ isSyn flags = true) ∧
    (flowLog flow (run step g before) (first :: after)).IsChain Follows ∧
    ∃ flags, (flowLog flow (run step g before) (first :: after)).getLast? = some (t, flags)

end Gate

namespace Daemon

section

variable {Cr : Type} [Crypto Cr] {src : BundleSource}

/-- Traffic in the gate's run is traffic in the daemon's. -/
theorem gateTrace_split {d : Daemon Cr} {es : List DaemonEvent} {earlier later : List GateEvent}
    {t : Traffic} (h : d.gateTrace src es = earlier ++ .traffic t :: later) :
    ∃ before after, es = before ++ .traffic t :: after ∧ d.gateTrace src before = earlier := by
  induction es generalizing d earlier with
  | nil =>
      have hnil : [] = earlier ++ GateEvent.traffic t :: later := h
      simp at hnil
  | cons e es ih =>
      rw [gateTrace_cons] at h
      cases e with
      | traffic t' =>
          cases earlier with
          | nil =>
              obtain ⟨rfl, -⟩ := GateEvent.traffic.injEq _ _ ▸ List.cons.inj h
              exact ⟨[], es, rfl, rfl⟩
          | cons e' earlier =>
              obtain ⟨rfl, htail⟩ := List.cons.inj h
              obtain ⟨before, after, rfl, hbefore⟩ := ih htail
              exact ⟨.traffic t' :: before, after, rfl, by rw [gateTrace_cons, hbefore]; rfl⟩
      | poll order file =>
          -- The writes of a reload are no traffic, so the split lies behind them.
          have hwrites : GateEvent.traffic t ∉ d.gateEvents src (.poll order file) := by
            rw [gateEvents]
            cases d.accepts src file with
            | none => simp
            | some b => simp
          obtain ⟨rest, rfl, htail⟩ : ∃ rest, earlier = d.gateEvents src (.poll order file) ++ rest ∧
              (d.step src (.poll order file)).gateTrace src es = rest ++ .traffic t :: later := by
            obtain ⟨rest, hearlier, htail⟩ | ⟨rest, hwritten, htail⟩ := List.append_eq_append_iff.mp h
            · exact ⟨rest, hearlier, htail⟩
            · cases rest with
              | nil => exact ⟨[], by simpa using hwritten.symm, htail.symm⟩
              | cons x rest =>
                  obtain ⟨rfl, -⟩ := List.cons.inj htail
                  exact absurd (by simp [hwritten]) hwrites
          obtain ⟨before, after, rfl, hbefore⟩ := ih htail
          exact ⟨.poll order file :: before, after, rfl, by rw [gateTrace_cons, hbefore]⟩

/-- The bundle in force came in a file that verified. -/
theorem load_inForce {file₀ : Except String (List UInt8)} {policy : Bundle}
    (hload : src.load file₀ = .ok policy) (d₀ : Daemon Cr) (es : List DaemonEvent) :
    ∃ file, src.load file = .ok (inForce src policy d₀ es) := by
  rw [inForce]
  cases hlast : (record (step src) (applied src) d₀ es).getLast? with
  | none => exact ⟨file₀, hload⟩
  | some b =>
      obtain ⟨before, e, after, -, happlied⟩ := mem_record_iff.mp (List.mem_of_getLast? hlast)
      cases e with
      | traffic t => contradiction
      | poll order file => exact ⟨file, (accepts_eq_some_iff.mp happlied).1⟩

end

variable {lib : AwsLc} {src : BundleSource}

/-- The bundle authorises the knock for a port: the packet is sealed to the gate's key,
meant for this gate and this time, and asks for the port; and it is signed, or
authenticated, with a credential that the bundle lists for the port. -/
structure Authorizes (p : GateParams) (kp : GateKeypair lib) (b : Bundle) (wall : UInt64)
    (packet : List UInt8) (port : UInt16) (opened : Opened) : Prop where
  sealed : kp.openPacket packet = .ok opened
  gateId : opened.auth.gateId = p.gateId
  skew : absDiff wall opened.auth.timestampNanos ≤ p.config.skewNanos
  requested : port ∈ opened.auth.ports
  credential : ∃ key allowed, port ∈ allowed ∧
    ((clientMap b.clients).lookup opened.auth.keyThumbprint = some (key, allowed) ∧
        lib.verifySignature p.suite key opened.signingBytes opened.auth.signature.val = true ∨
      (tokenMap b.tokens).lookup opened.auth.keyThumbprint = some (key, allowed) ∧
        lib.hmacVerify key opened.signingBytes opened.auth.signature.val = true)

/-- **An accepted knock is authorised by the bundle in force.** -/
theorem authorizes_of_opened {p : GateParams} {kp : GateKeypair lib} {policy : Bundle}
    {d₀ : Daemon (GateKeypair lib)} (hboot : boot p kp policy = .ok d₀) (es : List DaemonEvent)
    {clk : Clocks} {packet : List UInt8} {source : IpAddr} {ports : List UInt16}
    (h : ((run (step src) d₀ es).gate.keeper.admitPacket clk packet source).1 = .opened ports)
    {port : UInt16} (hport : port ∈ ports) :
    ∃ opened, opened.auth.ports = ports ∧
      Authorizes p kp (inForce src policy d₀ es) clk.wall packet port opened := by
  obtain ⟨hconfig, hcrypto, hsuite⟩ := identity_run src hboot es
  obtain ⟨gone, hholds⟩ := holds_inForce src (holds_boot hboot) es
  obtain ⟨opened, credential, hacc, -, rfl, -⟩ := Gatekeeper.admitPacket_of_opened h
  have hallowed : port ∈ credential.allowedPorts :=
    (portsPermitted_iff _ _).mp hacc.ports port hport
  refine ⟨opened, rfl, ?_, ?_, ?_, hport, credential.publicKey, credential.allowedPorts, hallowed, ?_⟩
  · rw [← hcrypto]
    exact hacc.openPacket
  · rw [hacc.gateId, hconfig]
    rfl
  · rw [← hconfig]
    exact hacc.timestamp
  · have hauth := hacc.authentic
    rcases SharedTrust.lookup_cases hacc.lookup with ⟨hclient, hsig, -⟩ | ⟨-, htoken, hpsk, -⟩
    · refine .inl ⟨by rw [← hholds.clients]; exact hclient, ?_⟩
      rw [authentic, hsig, SharedTrust.suite_of_lookup hacc.lookup, hsuite] at hauth
      exact hauth
    · rw [hholds.tokens] at htoken
      split at htoken
      · contradiction
      · rw [authentic, hpsk] at hauth
        exact .inr ⟨htoken, hauth⟩

/-- A frame that passes to a cloaked port was let in by a knock of the run. -/
theorem knock_of_pass {Cr : Type} [Crypto Cr] {p : GateParams} {crypto : Cr} {policy : Bundle}
    {d₀ : Daemon Cr} (hboot : boot p crypto policy = .ok d₀) {es : List DaemonEvent} {t : UInt64}
    {bytes : List UInt8}
    (hclock : ((es ++ [DaemonEvent.traffic (.frame t bytes)]).filterMap
      DaemonEvent.time).Pairwise (· ≤ ·))
    {flow : FlowKey} {flags : UInt8} (hh : tcpHeader bytes = some (flow, flags))
    (hprot : flow.dport ∈ (run (step src) d₀ es).gate.protectedPorts.keys)
    (hpass : (spaGate (run (step src) d₀ es).gate.maps t bytes).1 = .pass) :
    ∃ (earlier later : List DaemonEvent) (clk : Clocks) (packet : List UInt8) (source : IpAddr)
      (ports : List UInt16) (t₀ : UInt64),
      es = earlier ++ .traffic (.knock clk packet source) :: later ∧
      ((run (step src) d₀ earlier).gate.keeper.admitPacket clk packet source).1 = .opened ports ∧
      addrKey source = flow.saddr ∧ flow.dport ∈ ports ∧ clk.mono ≤ t₀ ∧
      t₀.toNat < clk.mono.toNat + pinholeNanos.toNat ∧
      d₀.gate.FlowRuns flow (d₀.gateTrace src es ++ [.traffic (.frame t bytes)]) t₀ t := by
  obtain ⟨protectedPorts, -, hgate, -, -⟩ := boot_eq_ok hboot
  have hallow : d₀.gate.allow = BoundedDict.empty := by rw [hgate]; rfl
  have hest : d₀.gate.established = ∅ := by rw [hgate]; rfl
  have hclock' : ClockMonotone (d₀.gateTrace src es ++ [.traffic (.frame t bytes)]) := by
    rw [ClockMonotone, List.filterMap_append, time_gateTrace]
    rw [List.filterMap_append] at hclock
    exact hclock
  rw [gate_run] at hprot hpass
  obtain ⟨before, first, after, t₀, heq, hchain, hlast, -⟩ := Gate.chain_of_pass hallow hest hclock' hh
    ((Gate.isProtected_maps_iff _ _).mpr hprot) hpass
  obtain ⟨earlier', e, later', rfl, clk, packet, source, ports, rfl, hopened, hkey, hmem, hle, hlt⟩ :=
    hchain.opened
  -- The knock comes before the flow's first frame, so it lies in the run itself.
  obtain ⟨later, hsplit⟩ : ∃ later, d₀.gateTrace src es =
      earlier' ++ .traffic (.knock clk packet source) :: later := by
    have hbefore : earlier' ++ GateEvent.traffic (.knock clk packet source) :: later' <+:
        d₀.gateTrace src es ++ [.traffic (.frame t bytes)] := ⟨first :: after, heq.symm⟩
    rcases List.prefix_concat_iff.mp hbefore with hall | ⟨rest, hrest⟩
    · rw [hall] at heq
      simp at heq
    · exact ⟨later' ++ rest, by simp [← hrest]⟩
  obtain ⟨earlier, later, rfl, rfl⟩ := gateTrace_split hsplit
  rw [(Gate.config_run d₀.gate _).1, hgate] at hlt
  rw [← gate_run] at hopened
  exact ⟨earlier, later, clk, packet, source, ports, t₀, rfl, hopened, hkey, hmem, hle, hlt, _, first,
    after, heq, hchain.syn, hchain.gaps, flags, hlast⟩

/-- **Every passing frame goes back to the anchor**: in every run of a daemon in bundle
mode whose monotonic clock never goes backwards, a TCP frame with its L4 bytes through
the flags byte that passes to a cloaked port belongs to a flow that was started in the
pinhole of an accepted knock from its address; the bundle in force at that knock lists a
credential for the port under which the knock verifies; and this bundle was in a file
signed under the anchor. -/
theorem pass_is_authorized (src : BundleSource) (p : GateParams) (kp : GateKeypair lib)
    (file₀ : Except String (List UInt8)) (policy : Bundle) (hload : src.load file₀ = .ok policy)
    (d₀ : Daemon (GateKeypair lib)) (hboot : boot p kp policy = .ok d₀) (es : List DaemonEvent)
    (t : UInt64) (bytes : List UInt8)
    (hclock : ((es ++ [DaemonEvent.traffic (.frame t bytes)]).filterMap
      DaemonEvent.time).Pairwise (· ≤ ·))
    (flow : FlowKey) (flags : UInt8) (hh : tcpHeader bytes = some (flow, flags))
    (hprot : flow.dport ∈ (run (step src) d₀ es).gate.protectedPorts.keys)
    (hpass : (spaGate (run (step src) d₀ es).gate.maps t bytes).1 = .pass) :
    ∃ (earlier later : List DaemonEvent) (clk : Clocks) (packet : List UInt8) (source : IpAddr)
      (opened : Opened) (data : List UInt8) (text : String) (raw : RawBundle) (t₀ : UInt64),
      es = earlier ++ .traffic (.knock clk packet source) :: later ∧ addrKey source = flow.saddr ∧
      ((run (step src) d₀ earlier).gate.keeper.admitPacket clk packet source).1 =
        .opened opened.auth.ports ∧
      Authorizes p kp (inForce src policy d₀ earlier) clk.wall packet flow.dport opened ∧
      Authentic src.lib src.dec src.anchor data (inForce src policy d₀ earlier) text raw ∧
      clk.mono ≤ t₀ ∧ t₀.toNat < clk.mono.toNat + pinholeNanos.toNat ∧
      d₀.gate.FlowRuns flow (d₀.gateTrace src es ++ [.traffic (.frame t bytes)]) t₀ t := by
  obtain ⟨earlier, later, clk, packet, source, ports, t₀, hes, hopened, hkey, hport, hle, hlt, hruns⟩ :=
    knock_of_pass hboot hclock hh hprot hpass
  obtain ⟨opened, rfl, hauthorizes⟩ := authorizes_of_opened hboot earlier hopened hport
  obtain ⟨file, hfile⟩ := load_inForce hload d₀ earlier
  obtain ⟨data, text, raw, -, hauthentic⟩ := (loadVerify_eq_ok_iff _ _ _ _ _ _).mp hfile
  exact ⟨earlier, later, clk, packet, source, opened, data, text, raw, t₀, hes, hkey, hopened,
    hauthorizes, hauthentic, hle, hlt, hruns⟩

end Daemon

/-! ## A sample gate -/

/-- A bundle of generation 1 that lists the sample client. -/
def listedText : String :=
  "generation = 1\nprotected_ports = [22]\n\n[[client]]\nthumbprint_hex = \"" ++
    hexEncode (sampleClient 5).thumbprint.val ++ "\"\npublic_key_hex = \"" ++
    hexEncode (sampleClient 5).pub ++ "\"\nports = [22]\n"

def listedDoc : RawBundle where
  generation := 1
  protectedPorts := [22]
  client := [⟨hexEncode (sampleClient 5).thumbprint.val, hexEncode (sampleClient 5).pub, [22]⟩]

theorem load_listed :
    (sampleSource [(listedText, listedDoc)]).load (.ok (signedFile listedText)) =
      .ok ⟨1, [22], sampleClients, []⟩ := by
  refine load_signedFile _ listedDoc (List.find?_cons_of_pos (by simp)) ?_ rfl
  refine (Decoders.parseClients_eq_ok_iff _ _).mpr (List.Forall₂.cons ?_ List.Forall₂.nil)
  exact ⟨tableDecoders_hexDecode _ _, tableDecoders_hexDecode _ _, rfl⟩

namespace Daemon

/-- The sample client knocks at 0 seconds, and its `SYN` passes at 2 seconds. -/
theorem pass_is_authorized_sample :
    let src := sampleSource [(listedText, listedDoc)]
    ∃ d₀, boot GateParams.sample sampleGate ⟨1, [22], sampleClients, []⟩ = .ok d₀ ∧
      ∃ (earlier : List DaemonEvent) (clk : Clocks) (packet : List UInt8) (source : IpAddr)
        (opened : Opened) (data : List UInt8) (text : String) (raw : RawBundle),
        ((run (step src) d₀ earlier).gate.keeper.admitPacket clk packet source).1 =
            .opened opened.auth.ports ∧
          Authorizes GateParams.sample sampleGate
            (inForce src ⟨1, [22], sampleClients, []⟩ d₀ earlier) clk.wall packet 22 opened ∧
          Authentic transparent src.dec sampleAnchor.pub data
            (inForce src ⟨1, [22], sampleClients, []⟩ d₀ earlier) text raw := by
  intro src
  obtain ⟨d₀, hboot⟩ := boot_of_card_le GateParams.sample sampleGate ⟨1, [22], sampleClients, []⟩
    (by decide)
  refine ⟨d₀, hboot, ?_⟩
  obtain ⟨protectedPorts, hkeys, hgate, -, -⟩ := boot_eq_ok hboot
  have hallowed : ∀ p ∈ ([22] : List UInt16), p ∈ ([22] : List UInt16) := fun p hp => hp
  have hcall := ((serves_boot rfl rfl hboot).knock (by decide) Gate.asks_ssh.length hallowed 0
    sampleAddr).1
  have hfits : d₀.gate.keeper.gate.Fits (Gate.clientCall 0 [22] sampleAddr) := by
    rw [hgate]
    show BoundedDict.empty.Fits _
    exact .inr (by decide)
  have hsource : sourceAllowed (d₀.gate.step (Gate.clientKnock 0 [22] 0 sampleAddr)).allow
      (addrKey sampleAddr) 22 2000000000 = true :=
    (@Gate.sourceAllowed_of_openCall transparent d₀.gate [] _ _ hcall hfits 22 2000000000).mpr
      ⟨by decide, by decide⟩
  have hheader : tcpHeader Gate.sampleSyn =
      some (⟨addrKey sampleAddr, mappedV4 ⟨[198, 51, 100, 1], rfl⟩, 40000, 22⟩, 2) := rfl
  have hprot : (22 : UInt16) ∈
      (d₀.gate.step (Gate.clientKnock 0 [22] 0 sampleAddr)).protectedPorts.keys := by
    have hsame := (Gate.traffic_cases d₀.gate
      (.knock (sampleClocks 0) (knockFor [22] 0) sampleAddr)).1
    show _ ∈ (d₀.gate.traffic _).protectedPorts.keys
    rw [hsame, hgate]
    show _ ∈ protectedPorts.keys
    rw [hkeys]
    decide
  obtain ⟨m, hpass⟩ := tryGate_of_allowed_syn hheader ((Gate.isProtected_maps_iff _ _).mpr hprot)
    (by decide) hsource
  obtain ⟨earlier, -, clk, packet, source, opened, data, text, raw, -, -, -, hopened, hauthorizes,
      hauthentic, -⟩ :=
    pass_is_authorized src GateParams.sample sampleGate (.ok (signedFile listedText))
      ⟨1, [22], sampleClients, []⟩ load_listed d₀ hboot
      [.traffic (.knock (sampleClocks 0) (knockFor [22] 0) sampleAddr)] 2000000000 Gate.sampleSyn
      (by simp [DaemonEvent.time, GateEvent.time, sampleClocks]) _ _ hheader hprot
      (by rw [spaGate]; exact hpass ▸ rfl)
  exact ⟨earlier, clk, packet, source, opened, data, text, raw, hopened, hauthorizes, hauthentic⟩

end Daemon

end SpaDevice
