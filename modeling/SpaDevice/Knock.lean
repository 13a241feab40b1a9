import SpaDevice.Adapters
import SpaDevice.Envelope

/-!
# SpaDevice.Knock

Sealed knocks pass the gate's checks: what a registered client signs, or what is
authenticated with a token's secret, meets every condition of
`Gatekeeper.Accepts`.  The replay cache and the gate writer play no part here.
-/

namespace SpaDevice

/-- The timestamp is at most the skew away from the wall clock, on either
side. -/
def WithinSkew (wall timestamp skew : UInt64) : Prop :=
  wall.toNat ≤ timestamp.toNat + skew.toNat ∧ timestamp.toNat ≤ wall.toNat + skew.toNat

theorem absDiff_le_of_withinSkew {wall timestamp skew : UInt64} (h : WithinSkew wall timestamp skew) :
    absDiff wall timestamp ≤ skew := by
  rw [UInt64.le_iff_toNat_le, toNat_absDiff]
  obtain ⟨h1, h2⟩ := h
  split <;> omega

theorem portsPermitted_iff (requested allowed : List UInt16) :
    portsPermitted requested allowed = true ↔ ∀ p ∈ requested, p ∈ allowed := by
  simp [portsPermitted]

namespace Gatekeeper

variable {lib : AwsLc} {R G : Type}

/-- A client's knock passes every check before the replay cache. -/
theorem accepts_sealKnock (hl : lib.Lawful) (gk : Gatekeeper (GateKeypair lib) SharedTrust R G)
    (htrust : gk.trust.suite = gk.crypto.suite) (key : ClientKey lib)
    (hsuite : key.suite = gk.crypto.suite) (rngSign rngSeal : lib.Rng) (req : KnockRequest)
    (clk : Clocks) {allowed : List UInt16} (hgate : req.gateId = gk.config.gateId)
    (htime : WithinSkew clk.wall req.timestampNanos gk.config.skewNanos)
    (hclient : gk.trust.clients.lookup key.thumbprint = some (key.pub, allowed))
    (hports : 1 ≤ req.ports.length ∧ req.ports.length ≤ maxPorts)
    (hallowed : ∀ p ∈ req.ports, p ∈ allowed) :
    ∃ packet sig policy, key.sealKnock rngSign rngSeal gk.crypto.pub req = .ok packet ∧
      policy.singleUse = false ∧
      gk.Accepts clk packet
        ⟨req.signed key.thumbprint sig, (req.authorization key.thumbprint).signingRegion⟩ policy := by
  obtain ⟨packet, sig, hseal, hopen, hver⟩ :=
    openPacket_sealKnock hl gk.crypto key hsuite rngSign rngSeal req hports
  refine ⟨packet, sig, _, hseal, ?_, hopen, hgate, absDiff_le_of_withinSkew htime,
    SharedTrust.lookup_of_client hclient, ?_, (portsPermitted_iff _ _).mpr hallowed⟩
  · rfl
  · change lib.verifySignature gk.trust.suite key.pub _ _ = true
    rw [htrust]
    exact hver

/-- A token's knock passes every check before the replay cache. -/
theorem accepts_sealPsk (hl : lib.Lawful) (gk : Gatekeeper (GateKeypair lib) SharedTrust R G)
    (rng : lib.Rng) {secret : List UInt8} {tokenId : Thumbprint} (req : KnockRequest) (clk : Clocks)
    {allowed : List UInt16} (hgate : req.gateId = gk.config.gateId)
    (htime : WithinSkew clk.wall req.timestampNanos gk.config.skewNanos)
    (hclient : gk.trust.clients.lookup tokenId = none)
    (htoken : gk.trust.tokens.lookup tokenId = some (secret, allowed))
    (hports : 1 ≤ req.ports.length ∧ req.ports.length ≤ maxPorts)
    (hallowed : ∀ p ∈ req.ports, p ∈ allowed) :
    ∃ packet sig policy,
      sealPsk lib rng gk.crypto.pub gk.crypto.suite secret tokenId req = .ok packet ∧
      policy.auth = .psk ∧ policy.publicKey = secret ∧
      gk.Accepts clk packet
        ⟨req.signed tokenId sig, (req.authorization tokenId).signingRegion⟩ policy := by
  obtain ⟨packet, sig, hseal, hopen, hver⟩ :=
    openPacket_sealPsk hl gk.crypto rng secret tokenId req hports
  refine ⟨packet, sig, _, hseal, ?_, ?_, hopen, hgate, absDiff_le_of_withinSkew htime,
    SharedTrust.lookup_of_token hclient htoken, hver, (portsPermitted_iff _ _).mpr hallowed⟩
  · rfl
  · rfl

end Gatekeeper

end SpaDevice
