import SpaDevice.Replay

/-!
# SpaDevice.Agreement

The client and the gate agree: a knock that was sealed to the gate's public key
for ports its sender may reach is opened, whatever the gate has seen before.
The two sides are written independently (the client builds the header, signs
and seals; the gate slices, derives, decodes and checks), and the statement
ranges over every reachable state of the gate, both suites and both
authenticators.

They also agree on what is signed: the signer signs the serialised request, the
verifier checks a slice of the decrypted plaintext, and for every accepted
packet the slice is the serialisation of exactly what the gate decides on.
-/

namespace SpaDevice

/-! ## What a signature covers -/

namespace GateKeypair

variable {lib : AwsLc}

/-- The plaintext of a received packet: `open` up to its call of
`aead_open`. -/
def decrypt (kp : GateKeypair lib) (packet : List UInt8) : Except OpenError (List UInt8) := do
  let v ← okOr {} packet[0]?
  if v ≠ version then throw {} else do
  let suiteByte ← okOr {} packet[1]?
  let suite ← okOr {} (Suite.fromByte suiteByte).toOption
  if suite ≠ kp.suite then throw {} else do
  let ephEnd := 2 + ephPubLen suite
  if packet.length < ephEnd then throw {} else do
  let ephPub := (packet.drop 2).take (ephPubLen suite)
  let ciphertext := packet.drop ephEnd
  if ciphertext.length < aeadTagLen then throw {} else do
  let header := packet.take ephEnd
  let secret ← okOr {} (lib.agree suite kp.priv ephPub)
  let (key, nonce) ← okOr {} (derive lib suite secret ephPub)
  okOr {} (lib.aeadOpen suite key nonce header ciphertext)

/-- The rest of `open`: the authorization in a plaintext, and the bytes before
its signature. -/
def readPlaintext (plaintext : List UInt8) : Except OpenError Opened := do
  let auth ← okOr {} (Authorization.decode plaintext).toOption
  if plaintext.length < sigLen then throw {} else
  return { auth, signingBytes := plaintext.take (plaintext.length - sigLen) }

theorem openPacket_eq_decrypt (kp : GateKeypair lib) (packet : List UInt8) :
    kp.openPacket packet = kp.decrypt packet >>= readPlaintext := by
  simp only [openPacket, decrypt, except_guard_bind, bind_assoc]
  rfl

/-- A plaintext that reads as an authorization is its signing bytes and its
signature. -/
theorem readPlaintext_eq_ok {plaintext : List UInt8} {opened : Opened}
    (h : readPlaintext plaintext = .ok opened) :
    opened.auth.signingBytes = .ok opened.signingBytes ∧
      opened.signingBytes ++ opened.auth.signature.val = plaintext := by
  obtain ⟨auth, hauth, h⟩ := except_bind_eq_ok.mp h
  obtain ⟨-, h⟩ := except_guard_eq_ok.mp h
  obtain rfl := Except.ok.inj h
  have hdec := toOption_eq_some.mp (okOr_eq_ok.mp hauth)
  obtain ⟨hports, hpt⟩ := (Authorization.encode_eq_ok_iff _ _).mp (Authorization.decode_sound hdec)
  have htake : plaintext.take (plaintext.length - sigLen) = auth.signingRegion := by
    rw [hpt, List.length_append, auth.signature.property, Nat.add_sub_cancel]
    exact List.take_left' rfl
  simp only [htake]
  exact ⟨(Authorization.signingBytes_eq_ok_iff _ _).mpr ⟨hports, rfl⟩, hpt.symm⟩

/-- **The signature covers everything the decision uses.**  The signing bytes
of an accepted packet are those of its authorization, with the signature they
are the whole plaintext, and no packet that any gate accepts has the same
signing bytes for another request. -/
theorem openPacket_signature_covers (kp : GateKeypair lib) (packet : List UInt8) (opened : Opened)
    (h : kp.openPacket packet = .ok opened) :
    opened.auth.signingBytes = .ok opened.signingBytes ∧
      kp.decrypt packet = .ok (opened.signingBytes ++ opened.auth.signature.val) ∧
      ∀ (kp' : GateKeypair lib) (packet' : List UInt8) (opened' : Opened),
        kp'.openPacket packet' = .ok opened' → opened'.signingBytes = opened.signingBytes →
        opened'.auth.nonce = opened.auth.nonce ∧
          opened'.auth.timestampNanos = opened.auth.timestampNanos ∧
          opened'.auth.gateId = opened.auth.gateId ∧
          opened'.auth.keyThumbprint = opened.auth.keyThumbprint ∧
          opened'.auth.ports = opened.auth.ports := by
  have hopen := h
  rw [openPacket_eq_decrypt] at h
  obtain ⟨plaintext, hdec, hread⟩ := except_bind_eq_ok.mp h
  obtain ⟨hsigning, hpt⟩ := readPlaintext_eq_ok hread
  refine ⟨hsigning, by rw [hdec, hpt], ?_⟩
  intro kp' packet' opened' hopen' hsame
  apply Authorization.signingRegion_inj
  rw [← (openPacket_signingBytes hopen').1, hsame, (openPacket_signingBytes hopen).1]

/-- The sample gate opens the sample knocks. -/
theorem openPacket_sampleKnock (n : Nat) :
    ∃ opened, sampleGate.openPacket (sampleKnock n) = .ok opened ∧ opened.auth.ports = [22] := by
  obtain ⟨packet, sig, hseal, hopen, -⟩ := openPacket_sealKnock transparent_lawful sampleGate
    (sampleClient 5) rfl (0 : Nat) (0 : Nat) (sampleRequest n) (sampleRequest_ports n)
  have hknock : sampleKnock n = packet := by
    rw [sampleKnock, hseal]
    rfl
  rw [hknock]
  exact ⟨_, hopen, rfl⟩

theorem openPacket_signature_covers_sample :
    ∃ opened, sampleGate.openPacket (sampleKnock 0) = .ok opened ∧
      opened.auth.signingBytes = .ok opened.signingBytes ∧
      sampleGate.decrypt (sampleKnock 0) =
        .ok (opened.signingBytes ++ opened.auth.signature.val) := by
  obtain ⟨opened, hopen, -⟩ := openPacket_sampleKnock 0
  obtain ⟨hsigning, hdec, -⟩ := openPacket_signature_covers sampleGate (sampleKnock 0) opened hopen
  exact ⟨opened, hopen, hsigning, hdec⟩

end GateKeypair

/-! ## Calls of the core -/

/-- A call of `admitPacket`, or one of the two ways the daemon replaces policy. -/
inductive PolicyEvent where
  | call (clk : Clocks) (packet : List UInt8) (source : IpAddr)
  | set (clients : List ClientEntry)
  | setTokens (tokens : List TokenEntry)

def PolicyEvent.toKeeper : PolicyEvent → KeeperEvent SharedTrust
  | .call clk packet source => .call clk packet source
  | .set clients => .retrust fun t => t.set clients
  | .setTokens tokens => .retrust fun t => t.setTokens tokens

namespace Gatekeeper

variable {lib : AwsLc} {G : Type} [GateWriter G]

/-! ## Reachable states -/

/-- A core as the daemon builds it, with an empty trust store. -/
def start (config : Config) (kp : GateKeypair lib) (window : Nat) (gate : G) :
    Gatekeeper (GateKeypair lib) SharedTrust MemReplay G where
  config := config
  crypto := kp
  trust := SharedTrust.new kp.suite
  replay := MemReplay.new window
  gate := gate

/-- The trust store keeps the gate's suite. -/
theorem suite_run (config : Config) (kp : GateKeypair lib) (window : Nat) (gate : G)
    (es : List PolicyEvent) :
    (run step (start config kp window gate) (es.map PolicyEvent.toKeeper)).trust.suite = kp.suite := by
  refine run_invariant step (I := fun gk : Gatekeeper (GateKeypair lib) SharedTrust MemReplay G =>
    gk.trust.suite = kp.suite) ?_ rfl
  intro gk e he h
  obtain ⟨pe, -, rfl⟩ := List.mem_map.mp he
  cases pe with
  | set clients => exact h
  | setTokens tokens => exact h
  | call clk packet source =>
      simp only [PolicyEvent.toKeeper, step]
      rcases admitPacket_cases gk clk packet source with ⟨reason, -, hr⟩ | ⟨opened, policy, hacc⟩
      · rw [hr]
        exact h
      · rw [admitPacket_of_accepts hacc]
        split
        · simp only [afterOpen]
          split <;> exact h
        · exact h

/-- A nonce with no accepted call inside the window is fresh. -/
theorem fresh_of_not_opened (config : Config) (kp : GateKeypair lib) (window : Nat) (gate : G)
    (es : List PolicyEvent) {clk : Clocks} {opened : Opened}
    (h : ∀ c ∈ record step openedCall (start config kp window gate) (es.map PolicyEvent.toKeeper),
      c.opened.auth.nonce = opened.auth.nonce → ¬ clk.instant - c.clk.instant < window) :
    (run step (start config kp window gate) (es.map PolicyEvent.toKeeper)).fresh clk opened = true := by
  refine (MemReplay.admitNonce_fst_iff _ _ _).mpr ?_
  rintro ⟨u, hu, hlt⟩
  rw [window_run] at hlt
  obtain ⟨c, hc, hnonce, rfl⟩ := seen_provenance rfl _ _ _ hu
  exact h c hc hnonce hlt

/-- An accepted knock with a fresh nonce is opened with one call of the
writer. -/
theorem admitPacket_recorded
    {gk : Gatekeeper (GateKeypair lib) SharedTrust MemReplay (RecordedWriter G)}
    {clk : Clocks} {packet : List UInt8} {opened : Opened} {policy : ClientPolicy}
    (hacc : gk.Accepts clk packet opened policy) (hfresh : gk.fresh clk opened = true)
    (source : IpAddr) :
    (gk.admitPacket clk packet source).1 = .opened opened.auth.ports ∧
      (gk.admitPacket clk packet source).2.gate.calls =
        gk.gate.calls ++ [⟨source, opened.auth.ports, gk.config.pinholeNanos⟩] := by
  rw [admitPacket_of_accepts hacc, if_pos hfresh]
  exact ⟨rfl, rfl⟩

/-- **Client and gate agree end to end**: in every reachable state of a gate of
either suite, a knock sealed by a registered client of the gate's suite, or
with a token that is not burned and whose id is no client's thumbprint, for 1
to 8 permitted ports, with a timestamp inside the skew and a nonce that was not
accepted within the window, is sealed successfully, opened with exactly the
requested ports, and the gate writer is called exactly once.  Sealing fails to
encode exactly when there is no port or more than 8. -/
theorem sealed_knock_is_opened (hl : lib.Lawful) (config : Config) (kp : GateKeypair lib)
    (window : Nat) (writer : G) (es : List PolicyEvent) :
    let gk₀ := start config kp window (⟨writer, []⟩ : RecordedWriter G)
    let gk := run step gk₀ (es.map PolicyEvent.toKeeper)
    let Unused := fun (clk : Clocks) (nonce : Nonce) =>
      ∀ c ∈ record step openedCall gk₀ (es.map PolicyEvent.toKeeper),
        c.opened.auth.nonce = nonce → ¬ clk.instant - c.clk.instant < window
    let OpenedBy := fun (clk : Clocks) (source : IpAddr) (req : KnockRequest)
        (sealed : Except CryptoError (List UInt8)) =>
      ∃ packet, sealed = .ok packet ∧
        (gk.admitPacket clk packet source).1 = .opened req.ports ∧
        (gk.admitPacket clk packet source).2.gate.calls =
          gk.gate.calls ++ [⟨source, req.ports, config.pinholeNanos⟩]
    (∀ (key : ClientKey lib) (rngSign rngSeal : lib.Rng) (req : KnockRequest) (clk : Clocks)
        (source : IpAddr) (allowed : List UInt16),
      key.suite = kp.suite → req.gateId = config.gateId →
      WithinSkew clk.wall req.timestampNanos config.skewNanos → Unused clk req.nonce →
      gk.trust.clients.lookup key.thumbprint = some (key.pub, allowed) →
      1 ≤ req.ports.length ∧ req.ports.length ≤ 8 → (∀ p ∈ req.ports, p ∈ allowed) →
      OpenedBy clk source req (key.sealKnock rngSign rngSeal kp.pub req)) ∧
    (∀ (rng : lib.Rng) (secret : List UInt8) (tokenId : Thumbprint) (req : KnockRequest)
        (clk : Clocks) (source : IpAddr) (allowed : List UInt16),
      req.gateId = config.gateId →
      WithinSkew clk.wall req.timestampNanos config.skewNanos → Unused clk req.nonce →
      gk.trust.clients.lookup tokenId = none →
      gk.trust.tokens.lookup tokenId = some (secret, allowed) →
      1 ≤ req.ports.length ∧ req.ports.length ≤ 8 → (∀ p ∈ req.ports, p ∈ allowed) →
      OpenedBy clk source req (sealPsk lib rng kp.pub kp.suite secret tokenId req)) ∧
    (∀ (key : ClientKey lib) (rngSign rngSeal : lib.Rng) (req : KnockRequest),
      key.sealKnock rngSign rngSeal kp.pub req = .error .encode ↔
        req.ports.length = 0 ∨ req.ports.length > 8) ∧
    (∀ (rng : lib.Rng) (secret : List UInt8) (tokenId : Thumbprint) (req : KnockRequest),
      sealPsk lib rng kp.pub kp.suite secret tokenId req = .error .encode ↔
        req.ports.length = 0 ∨ req.ports.length > 8) := by
  intro gk₀ gk Unused OpenedBy
  obtain ⟨hconfig, hcrypto⟩ := config_crypto_run gk₀ (es.map PolicyEvent.toKeeper)
  have hconfig' : gk.config = config := hconfig
  have hcrypto' : gk.crypto = kp := hcrypto
  have htrust : gk.trust.suite = gk.crypto.suite := by
    rw [hcrypto']
    exact suite_run config kp window _ es
  refine ⟨?_, ?_, ?_, ?_⟩
  · intro key rngSign rngSeal req clk source allowed hsuite hgate htime hunused hclient hports hallowed
    obtain ⟨packet, sig, policy, hseal, -, hacc⟩ := accepts_sealKnock hl gk htrust key
      (hsuite.trans (congrArg GateKeypair.suite hcrypto'.symm)) rngSign rngSeal req clk
      (hgate.trans (congrArg Config.gateId hconfig'.symm)) (hconfig' ▸ htime) hclient hports hallowed
    obtain ⟨hopened, hcalls⟩ :=
      admitPacket_recorded hacc (fresh_of_not_opened config kp window _ es hunused) source
    rw [hcrypto'] at hseal
    rw [hconfig'] at hcalls
    exact ⟨packet, hseal, hopened, hcalls⟩
  · intro rng secret tokenId req clk source allowed hgate htime hunused hclient htoken hports hallowed
    obtain ⟨packet, sig, policy, hseal, -, -, hacc⟩ := accepts_sealPsk hl gk rng req clk
      (hgate.trans (congrArg Config.gateId hconfig'.symm)) (hconfig' ▸ htime) hclient htoken hports
      hallowed
    obtain ⟨hopened, hcalls⟩ :=
      admitPacket_recorded hacc (fresh_of_not_opened config kp window _ es hunused) source
    rw [hcrypto'] at hseal
    rw [hconfig'] at hcalls
    exact ⟨packet, hseal, hopened, hcalls⟩
  · intro key rngSign rngSeal req
    exact key.sealKnock_eq_encode_iff rngSign rngSeal kp.pub req
  · intro rng secret tokenId req
    exact sealPsk_eq_encode_iff rng kp.pub kp.suite secret tokenId req

/-- The sample client and the sample token knock at a gate that was just given
its policy. -/
theorem sealed_knock_is_opened_sample :
    let writer : RecordedWriter BpfGateWriter := ⟨sample.gate, []⟩
    let policy : List PolicyEvent := [.set sampleClients, .setTokens [sampleToken]]
    let gk := run step (start sampleConfig sampleGate 5000000000 writer)
      (policy.map PolicyEvent.toKeeper)
    (∃ packet, (sampleClient 5).sealKnock (0 : Nat) (0 : Nat) sampleGate.pub (sampleRequest 0) =
        .ok packet ∧
      (gk.admitPacket (sampleClocks 0) packet sampleAddr).1 = .opened [22] ∧
      (gk.admitPacket (sampleClocks 0) packet sampleAddr).2.gate.calls =
        [⟨sampleAddr, [22], 30000000000⟩]) ∧
    (∃ packet, sealPsk transparent (0 : Nat) sampleGate.pub sampleGate.suite sampleToken.secret
        sampleToken.tokenId (sampleRequest 0) = .ok packet ∧
      (gk.admitPacket (sampleClocks 0) packet sampleAddr).1 = .opened [22] ∧
      (gk.admitPacket (sampleClocks 0) packet sampleAddr).2.gate.calls =
        [⟨sampleAddr, [22], 30000000000⟩]) := by
  intro writer policy gk
  obtain ⟨hclient, hpsk, -, -⟩ := sealed_knock_is_opened transparent_lawful sampleConfig sampleGate
    5000000000 sample.gate policy
  have hunused : ∀ c ∈ record step openedCall (start sampleConfig sampleGate 5000000000 writer)
      (policy.map PolicyEvent.toKeeper), c.opened.auth.nonce = (sampleRequest 0).nonce →
        ¬ (sampleClocks 0).instant - c.clk.instant < 5000000000 := by
    intro c hc
    contradiction
  refine ⟨hclient (sampleClient 5) _ _ (sampleRequest 0) (sampleClocks 0) sampleAddr [22] rfl rfl
      withinSkew_sample hunused lookup_sampleClients (by decide) (by simp [sampleRequest]),
    hpsk _ sampleToken.secret sampleToken.tokenId (sampleRequest 0) (sampleClocks 0) sampleAddr [22]
      rfl withinSkew_sample hunused lookup_sampleToken_clients lookup_sampleToken (by decide)
      (by simp [sampleRequest])⟩

end Gatekeeper

end SpaDevice
