import SpaDevice.Wire

/-!
# SpaDevice.Core

The decision core of `spa-core`: `Gatekeeper.admitPacket`, the source's `admit`,
is the whole security policy.  It reaches the outside world only through
injected ports, which are type classes here as they are traits in the source.

A port that reads a clock gets the reading as an argument, so a call of
`admitPacket` is a pure function of the state, the packet, the source and one
`Clocks` value.

`Accepts` names what the checks before the replay cache establish, and
`admitPacket_cases` says once everything a call can do; the results over whole
runs use only these and never unfold `admitPacket` again.
-/

namespace SpaDevice

/-- An observed source address (`std::net::IpAddr`). -/
inductive IpAddr where
  | v4 (octets : ByteArr 4)
  | v6 (octets : ByteArr 16)
deriving DecidableEq

/-- Static policy for the gate. -/
structure Config where
  gateId : GateId
  skewNanos : UInt64
  pinholeNanos : UInt64

/-- A decrypted, decoded knock plus the exact bytes its signature covers. -/
structure Opened where
  auth : Authorization
  signingBytes : List UInt8

/-- How a client's knock is authenticated. -/
inductive Auth where
  | signature
  | psk
deriving DecidableEq, Repr

/-- What the trust store knows about an authorized client. -/
structure ClientPolicy where
  publicKey : List UInt8
  suite : Suite
  allowedPorts : List UInt16
  auth : Auth
  singleUse : Bool
deriving DecidableEq

/-- Opaque crypto failure. -/
structure OpenError where
deriving DecidableEq

/-- Why a knock was rejected, ordered as the checks run. -/
inductive Reject where
  | undecryptable
  | wrongGate
  | expired
  | unknownClient
  | badSignature
  | portNotAllowed
  | replay
deriving DecidableEq, Repr

/-- Outcome of `admitPacket`. -/
inductive Decision where
  | opened (ports : List UInt16)
  | rejected (reason : Reject)
deriving DecidableEq, Repr

/-! ## Ports -/

/-- The clock readings of one call: the wall clock of the freshness check,
the `Instant` of the replay cache and the `CLOCK_MONOTONIC` nanoseconds of
the gate writer. -/
structure Clocks where
  wall : UInt64
  instant : Nat
  mono : UInt64

/-- Crypto adapter: decrypt and decode the envelope, verify client
authenticators. -/
class Crypto (Cr : Type) where
  openPacket : Cr → List UInt8 → Except OpenError Opened
  verify : Cr → Suite → List UInt8 → List UInt8 → List UInt8 → Bool
  verifyMac : Cr → List UInt8 → List UInt8 → List UInt8 → Bool

/-- Maps a client key thumbprint (or token id) to its policy. -/
class TrustStore (T : Type) where
  lookup : T → Thumbprint → Option ClientPolicy
  /-- Burn a one-time credential; by default nothing is single-use. -/
  consume : T → Thumbprint → T := fun t _ => t

/-- Anti-replay state: is the nonce fresh, and the state that remembers it. -/
class ReplayGuard (R : Type) where
  admitNonce : R → (now : Nat) → Nonce → Bool × R

/-- Programs the data-plane allow-list. -/
class GateWriter (G : Type) where
  openPorts : G → (now : UInt64) → IpAddr → List UInt16 → (ttlNanos : UInt64) → G

/-! ## The decision -/

/-- `u64::abs_diff`. -/
def absDiff (a b : UInt64) : UInt64 := if a < b then b - a else a - b

theorem toNat_absDiff (a b : UInt64) :
    (absDiff a b).toNat = if a.toNat < b.toNat then b.toNat - a.toNat else a.toNat - b.toNat := by
  unfold absDiff
  by_cases h : a < b
  · rw [if_pos h, if_pos (UInt64.lt_iff_toNat_lt.mp h)]
    exact UInt64.toNat_sub_of_le _ _ (UInt64.le_of_lt h)
  · rw [if_neg h, if_neg (fun hlt => h (UInt64.lt_iff_toNat_lt.mpr hlt))]
    exact UInt64.toNat_sub_of_le _ _ (UInt64.not_lt.mp h)

/-- True iff every requested port is in the allowed set. -/
def portsPermitted (requested allowed : List UInt16) : Bool :=
  requested.all fun p => allowed.contains p

/-- The decision core: the config and the injected ports. -/
structure Gatekeeper (Cr T R G : Type) where
  config : Config
  crypto : Cr
  trust : T
  replay : R
  gate : G

variable {Cr T R G : Type} [Crypto Cr] [TrustStore T] [ReplayGuard R] [GateWriter G]

/-- The authenticator check a policy asks for. -/
def authentic (crypto : Cr) (policy : ClientPolicy) (opened : Opened) : Bool :=
  match policy.auth with
  | .signature => Crypto.verify crypto policy.suite policy.publicKey opened.signingBytes
      opened.auth.signature.val
  | .psk => Crypto.verifyMac crypto policy.publicKey opened.signingBytes
      opened.auth.signature.val

namespace Gatekeeper

/-- Evaluate one received packet from `source` and program the gate if it is
valid. -/
def admitPacket (gk : Gatekeeper Cr T R G) (clk : Clocks) (packet : List UInt8) (source : IpAddr) :
    Decision × Gatekeeper Cr T R G :=
  match Crypto.openPacket gk.crypto packet with
  | .error _ => (.rejected .undecryptable, gk)
  | .ok opened =>
    let auth := opened.auth
    if auth.gateId ≠ gk.config.gateId then (.rejected .wrongGate, gk)
    else if absDiff clk.wall auth.timestampNanos > gk.config.skewNanos then (.rejected .expired, gk)
    else
      match TrustStore.lookup gk.trust auth.keyThumbprint with
      | none => (.rejected .unknownClient, gk)
      | some policy =>
        if !authentic gk.crypto policy opened then (.rejected .badSignature, gk)
        else if !portsPermitted auth.ports policy.allowedPorts then (.rejected .portNotAllowed, gk)
        else
          let (fresh, replay) := ReplayGuard.admitNonce gk.replay clk.instant auth.nonce
          if !fresh then (.rejected .replay, { gk with replay })
          else
            -- A one-time credential is burned only now that the knock is fully valid.
            let trust :=
              if policy.singleUse then TrustStore.consume gk.trust auth.keyThumbprint else gk.trust
            let gate := GateWriter.openPorts gk.gate clk.mono source auth.ports gk.config.pinholeNanos
            (.opened auth.ports, { gk with trust, replay, gate })

/-- The checks that run before the replay cache is asked, all passed. -/
structure Accepts (gk : Gatekeeper Cr T R G) (clk : Clocks) (packet : List UInt8)
    (opened : Opened) (policy : ClientPolicy) : Prop where
  openPacket : Crypto.openPacket gk.crypto packet = .ok opened
  gateId : opened.auth.gateId = gk.config.gateId
  timestamp : absDiff clk.wall opened.auth.timestampNanos ≤ gk.config.skewNanos
  lookup : TrustStore.lookup gk.trust opened.auth.keyThumbprint = some policy
  authentic : authentic gk.crypto policy opened = true
  ports : portsPermitted opened.auth.ports policy.allowedPorts = true

/-- Whether the replay cache takes the nonce of `opened`. -/
def fresh (gk : Gatekeeper Cr T R G) (clk : Clocks) (opened : Opened) : Bool :=
  (ReplayGuard.admitNonce gk.replay clk.instant opened.auth.nonce).1

/-- The state a replayed knock leaves: only the cache was touched. -/
def afterReplay (gk : Gatekeeper Cr T R G) (clk : Clocks) (opened : Opened) :
    Gatekeeper Cr T R G :=
  { gk with replay := (ReplayGuard.admitNonce gk.replay clk.instant opened.auth.nonce).2 }

/-- The state an accepted knock leaves. -/
def afterOpen (gk : Gatekeeper Cr T R G) (clk : Clocks) (source : IpAddr) (opened : Opened)
    (policy : ClientPolicy) : Gatekeeper Cr T R G :=
  { gk with
    trust := if policy.singleUse then TrustStore.consume gk.trust opened.auth.keyThumbprint
      else gk.trust
    replay := (ReplayGuard.admitNonce gk.replay clk.instant opened.auth.nonce).2
    gate := GateWriter.openPorts gk.gate clk.mono source opened.auth.ports gk.config.pinholeNanos }

/-- A knock that passes the checks is decided by the replay cache. -/
theorem admitPacket_of_accepts {gk : Gatekeeper Cr T R G} {clk : Clocks} {packet : List UInt8}
    {opened : Opened} {policy : ClientPolicy} (h : gk.Accepts clk packet opened policy)
    (source : IpAddr) :
    gk.admitPacket clk packet source =
      if gk.fresh clk opened then (.opened opened.auth.ports, gk.afterOpen clk source opened policy)
      else (.rejected .replay, gk.afterReplay clk opened) := by
  have hts : ¬ absDiff clk.wall opened.auth.timestampNanos > gk.config.skewNanos :=
    UInt64.not_lt.mpr h.timestamp
  simp only [admitPacket, h.openPacket, h.lookup, h.gateId, ne_eq, not_true_eq_false, if_false, hts,
    h.authentic, h.ports, Bool.not_true, Bool.false_eq_true]
  cases hf : gk.fresh clk opened <;> unfold fresh at hf <;> simp [hf, afterOpen, afterReplay]

/-- The checks of `admitPacket` before it asks the replay cache, as a function of
what they read. -/
def precheck (config : Config) (crypto : Cr) (lookup : Thumbprint → Option ClientPolicy)
    (clk : Clocks) (packet : List UInt8) : Except Reject (Opened × ClientPolicy) :=
  match Crypto.openPacket crypto packet with
  | .error _ => .error .undecryptable
  | .ok opened =>
    if opened.auth.gateId ≠ config.gateId then .error .wrongGate
    else if absDiff clk.wall opened.auth.timestampNanos > config.skewNanos then .error .expired
    else
      match lookup opened.auth.keyThumbprint with
      | none => .error .unknownClient
      | some policy =>
        if !SpaDevice.authentic crypto policy opened then .error .badSignature
        else if !portsPermitted opened.auth.ports policy.allowedPorts then .error .portNotAllowed
        else .ok (opened, policy)

/-- The checks that `gk` makes on a packet. -/
abbrev check (gk : Gatekeeper Cr T R G) (clk : Clocks) (packet : List UInt8) :
    Except Reject (Opened × ClientPolicy) :=
  precheck gk.config gk.crypto (TrustStore.lookup gk.trust) clk packet

/-- The checks succeed exactly when `Accepts` holds; they never reject as a
replay. -/
theorem check_spec (gk : Gatekeeper Cr T R G) (clk : Clocks) (packet : List UInt8) :
    (∃ reason, reason ≠ .replay ∧ gk.check clk packet = .error reason ∧
      ∀ source, gk.admitPacket clk packet source = (.rejected reason, gk)) ∨
    ∃ opened policy, gk.check clk packet = .ok (opened, policy) ∧
      gk.Accepts clk packet opened policy := by
  cases ho : Crypto.openPacket gk.crypto packet with
  | error e =>
      exact .inl ⟨.undecryptable, by decide, by simp [check, precheck, ho], by simp [admitPacket, ho]⟩
  | ok opened =>
      by_cases hgate : opened.auth.gateId = gk.config.gateId
      · by_cases hts : absDiff clk.wall opened.auth.timestampNanos > gk.config.skewNanos
        · exact .inl ⟨.expired, by decide, by simp [check, precheck, ho, hgate, hts],
            by simp [admitPacket, ho, hgate, hts]⟩
        · cases hl : TrustStore.lookup gk.trust opened.auth.keyThumbprint with
          | none =>
              exact .inl ⟨.unknownClient, by decide, by simp [check, precheck, ho, hgate, hts, hl],
                by simp [admitPacket, ho, hgate, hts, hl]⟩
          | some policy =>
              cases hau : SpaDevice.authentic gk.crypto policy opened with
              | false =>
                  exact .inl ⟨.badSignature, by decide,
                    by simp [check, precheck, ho, hgate, hts, hl, hau],
                    by simp [admitPacket, ho, hgate, hts, hl, hau]⟩
              | true =>
                  cases hp : portsPermitted opened.auth.ports policy.allowedPorts with
                  | false =>
                      exact .inl ⟨.portNotAllowed, by decide,
                        by simp [check, precheck, ho, hgate, hts, hl, hau, hp],
                        by simp [admitPacket, ho, hgate, hts, hl, hau, hp]⟩
                  | true =>
                      exact .inr ⟨opened, policy,
                        by simp [check, precheck, ho, hgate, hts, hl, hau, hp],
                        ho, hgate, UInt64.not_lt.mp hts, hl, hau, hp⟩
      · exact .inl ⟨.wrongGate, by decide, by simp [check, precheck, ho, hgate],
          by simp [admitPacket, ho, hgate]⟩

/-- **Everything a call of `admitPacket` can do**: an early rejection, which never
has reason `replay`, changes nothing; past the checks the replay cache
decides (`admitPacket_of_accepts`). -/
theorem admitPacket_cases (gk : Gatekeeper Cr T R G) (clk : Clocks) (packet : List UInt8)
    (source : IpAddr) :
    (∃ reason, reason ≠ .replay ∧ gk.admitPacket clk packet source = (.rejected reason, gk)) ∨
    ∃ opened policy, gk.Accepts clk packet opened policy := by
  rcases check_spec gk clk packet with ⟨reason, hne, -, hr⟩ | ⟨opened, policy, -, hacc⟩
  · exact .inl ⟨reason, hne, hr source⟩
  · exact .inr ⟨opened, policy, hacc⟩

/-- Two cores that make the same checks on a packet treat it alike, up to the
replay cache. -/
theorem admitPacket_cases_of_check_eq {T' R' G' : Type} [TrustStore T'] [ReplayGuard R'] [GateWriter G']
    {gk : Gatekeeper Cr T R G} {gk' : Gatekeeper Cr T' R' G'} {clk : Clocks} {packet : List UInt8}
    (h : gk.check clk packet = gk'.check clk packet) :
    (∃ reason, ∀ source, gk.admitPacket clk packet source = (.rejected reason, gk) ∧
      gk'.admitPacket clk packet source = (.rejected reason, gk')) ∨
    ∃ opened policy, gk.Accepts clk packet opened policy ∧
      gk'.Accepts clk packet opened policy := by
  rcases check_spec gk clk packet with ⟨reason, -, hc, hr⟩ | ⟨opened, policy, hc, hacc⟩ <;>
    rcases check_spec gk' clk packet with ⟨reason', -, hc', hr'⟩ | ⟨opened', policy', hc', hacc'⟩
  · obtain rfl : reason = reason' := Except.error.inj (hc.symm.trans (h.trans hc'))
    exact .inl ⟨reason, fun source => ⟨hr source, hr' source⟩⟩
  · have hne := hc.symm.trans (h.trans hc')
    contradiction
  · have hne := hc.symm.trans (h.trans hc')
    contradiction
  · obtain ⟨rfl, rfl⟩ := Prod.mk.inj (Except.ok.inj (hc.symm.trans (h.trans hc')))
    exact .inr ⟨opened, policy, hacc, hacc'⟩

/-- An accepted knock passed every check with a fresh nonce, and left
`afterOpen`. -/
theorem admitPacket_of_opened {gk : Gatekeeper Cr T R G} {clk : Clocks} {packet : List UInt8}
    {source : IpAddr} {ports : List UInt16} (h : (gk.admitPacket clk packet source).1 = .opened ports) :
    ∃ opened policy, gk.Accepts clk packet opened policy ∧ gk.fresh clk opened = true ∧
      ports = opened.auth.ports ∧
      (gk.admitPacket clk packet source).2 = gk.afterOpen clk source opened policy := by
  rcases admitPacket_cases gk clk packet source with ⟨reason, -, hr⟩ | ⟨opened, policy, ha⟩
  · rw [hr] at h; contradiction
  · rw [admitPacket_of_accepts ha] at h ⊢
    by_cases hf : gk.fresh clk opened = true
    · rw [if_pos hf] at h ⊢
      exact ⟨opened, policy, ha, hf, (Decision.opened.inj h).symm, rfl⟩
    · rw [if_neg hf] at h; contradiction

/-- A rejected knock changed nothing, or only had the replay cache look at
its nonce. -/
theorem admitPacket_of_rejected {gk : Gatekeeper Cr T R G} {clk : Clocks} {packet : List UInt8}
    {source : IpAddr} {reason : Reject} (h : (gk.admitPacket clk packet source).1 = .rejected reason) :
    (gk.admitPacket clk packet source).2 = gk ∨
    ∃ opened policy, gk.Accepts clk packet opened policy ∧ gk.fresh clk opened = false ∧
      (gk.admitPacket clk packet source).2 = gk.afterReplay clk opened := by
  rcases admitPacket_cases gk clk packet source with ⟨reason, -, hr⟩ | ⟨opened, policy, ha⟩
  · exact .inl (by rw [hr])
  · rw [admitPacket_of_accepts ha] at h ⊢
    by_cases hf : gk.fresh clk opened = true
    · rw [if_pos hf] at h; contradiction
    · rw [if_neg hf]
      exact .inr ⟨opened, policy, ha, by simpa using hf, rfl⟩

/-- The knock an accepted call carried, and the policy it was accepted on. -/
def accepted (gk : Gatekeeper Cr T R G) (clk : Clocks) (packet : List UInt8) (source : IpAddr) :
    Option (Opened × ClientPolicy) :=
  match (gk.admitPacket clk packet source).1, gk.check clk packet with
  | .opened _, .ok r => some r
  | _, _ => none

theorem accepted_eq_some {gk : Gatekeeper Cr T R G} {clk : Clocks} {packet : List UInt8}
    {source : IpAddr} {opened : Opened} {policy : ClientPolicy}
    (h : gk.accepted clk packet source = some (opened, policy)) :
    gk.Accepts clk packet opened policy ∧ gk.fresh clk opened = true ∧
      gk.admitPacket clk packet source =
        (.opened opened.auth.ports, gk.afterOpen clk source opened policy) := by
  unfold accepted at h
  split at h
  · next ports r hd hc =>
      obtain rfl := Option.some.inj h
      rcases check_spec gk clk packet with ⟨reason, -, hc', -⟩ | ⟨opened', policy', hc', hacc⟩
      · rw [hc] at hc'; contradiction
      · obtain ⟨rfl, rfl⟩ := Prod.mk.inj (Except.ok.inj (hc.symm.trans hc'))
        have hcall := admitPacket_of_accepts hacc source
        by_cases hf : gk.fresh clk opened = true
        · rw [if_pos hf] at hcall
          exact ⟨hacc, hf, hcall⟩
        · rw [hcall, if_neg hf] at hd; contradiction
  · contradiction

/-- A knock that passes the checks with a fresh nonce is accepted. -/
theorem accepted_of_accepts {gk : Gatekeeper Cr T R G} {clk : Clocks} {packet : List UInt8}
    {opened : Opened} {policy : ClientPolicy} (hacc : gk.Accepts clk packet opened policy)
    (hfresh : gk.fresh clk opened = true) (source : IpAddr) :
    gk.accepted clk packet source = some (opened, policy) := by
  have hcheck : gk.check clk packet = .ok (opened, policy) := by
    rcases check_spec gk clk packet with ⟨reason, -, -, hr⟩ | ⟨opened', policy', hc', hacc'⟩
    · have hcall := admitPacket_of_accepts hacc source
      rw [hr source, if_pos hfresh] at hcall
      have hd := congrArg Prod.fst hcall
      contradiction
    · obtain rfl : opened = opened' := Except.ok.inj (hacc.openPacket.symm.trans hacc'.openPacket)
      obtain rfl : policy = policy' := Option.some.inj (hacc.lookup.symm.trans hacc'.lookup)
      exact hc'
  rw [accepted, admitPacket_of_accepts hacc, if_pos hfresh, hcheck]

/-- A call that answers `opened` is accepted, with the ports it carried. -/
theorem accepted_of_opened {gk : Gatekeeper Cr T R G} {clk : Clocks} {packet : List UInt8}
    {source : IpAddr} {ports : List UInt16} (h : (gk.admitPacket clk packet source).1 = .opened ports) :
    ∃ opened policy, gk.accepted clk packet source = some (opened, policy) ∧
      ports = opened.auth.ports := by
  obtain ⟨opened, policy, hacc, hfresh, hports, -⟩ := admitPacket_of_opened h
  exact ⟨opened, policy, accepted_of_accepts hacc hfresh source, hports⟩

/-- A call that is not accepted leaves the trust store and the gate alone. -/
theorem admitPacket_of_accepted_eq_none {gk : Gatekeeper Cr T R G} {clk : Clocks} {packet : List UInt8}
    {source : IpAddr} (h : gk.accepted clk packet source = none) :
    ∃ reason, (gk.admitPacket clk packet source).1 = .rejected reason ∧
      (gk.admitPacket clk packet source).2.trust = gk.trust ∧
      (gk.admitPacket clk packet source).2.gate = gk.gate := by
  cases hd : (gk.admitPacket clk packet source).1 with
  | opened ports =>
      obtain ⟨opened, policy, hacc, -⟩ := accepted_of_opened hd
      rw [h] at hacc
      contradiction
  | rejected reason =>
      refine ⟨reason, rfl, ?_⟩
      rcases admitPacket_of_rejected hd with hsame | ⟨opened, policy, -, -, hafter⟩
      · rw [hsame]; exact ⟨rfl, rfl⟩
      · rw [hafter]; exact ⟨rfl, rfl⟩

/-- A call never changes the config or the crypto adapter. -/
theorem admitPacket_config_crypto (gk : Gatekeeper Cr T R G) (clk : Clocks) (packet : List UInt8)
    (source : IpAddr) :
    (gk.admitPacket clk packet source).2.config = gk.config ∧
      (gk.admitPacket clk packet source).2.crypto = gk.crypto := by
  rcases admitPacket_cases gk clk packet source with ⟨reason, -, hr⟩ | ⟨opened, policy, ha⟩
  · rw [hr]; exact ⟨rfl, rfl⟩
  · rw [admitPacket_of_accepts ha]
    split <;> exact ⟨rfl, rfl⟩

end Gatekeeper

end SpaDevice
