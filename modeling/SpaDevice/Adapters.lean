import SpaDevice.Core
import SpaDevice.Dict
import SpaDevice.Grant

/-!
# SpaDevice.Adapters

The daemon's implementations of the core's ports (`spa-gated/src/adapters.rs`):
the in-memory replay cache, the hot-swappable trust store, and the writer that
programs the kernel allow-list and mirrors each grant into the nftables floor.

Every adapter comes with the lemmas that say what its operations do to
lookups; the results over runs use those.
-/

namespace SpaDevice

/-! ## MemReplay -/

/-- In-memory replay cache: a nonce is admitted once within `window`
nanoseconds. -/
structure MemReplay where
  seen : Dict Nonce Nat
  window : Nat

namespace MemReplay

def new (window : Nat) : MemReplay := ⟨∅, window⟩

/-- Prune what is older than the window, then take the nonce if it is not
there. `duration_since` saturates at zero, as subtraction does here. -/
def admitNonce (m : MemReplay) (now : Nat) (nonce : Nonce) : Bool × MemReplay :=
  let seen := m.seen.retain fun _ t => now - t < m.window
  if nonce ∈ seen then (false, { m with seen })
  else (true, { m with seen := seen.insert nonce now })

instance : ReplayGuard MemReplay where
  admitNonce := admitNonce

/-- The cache still remembers the nonce at `now`. -/
def Live (m : MemReplay) (now : Nat) (nonce : Nonce) : Prop :=
  ∃ t, m.seen.lookup nonce = some t ∧ now - t < m.window

theorem mem_retain_iff (m : MemReplay) (now : Nat) (nonce : Nonce) :
    nonce ∈ m.seen.retain (fun _ t => now - t < m.window) ↔ m.Live now nonce := by
  rw [Finmap.mem_iff]
  simp [Live, Option.filter_eq_some_iff]

/-- A nonce is fresh exactly when the cache does not remember it. -/
theorem admitNonce_fst_iff (m : MemReplay) (now : Nat) (nonce : Nonce) :
    (m.admitNonce now nonce).1 = true ↔ ¬ m.Live now nonce := by
  unfold admitNonce
  dsimp only
  split
  · next h => simpa using (mem_retain_iff m now nonce).mp h
  · next h => simpa using fun hl => h ((mem_retain_iff m now nonce).mpr hl)

@[simp] theorem window_admitNonce (m : MemReplay) (now : Nat) (nonce : Nonce) :
    (m.admitNonce now nonce).2.window = m.window := by
  unfold admitNonce
  dsimp only
  split <;> rfl

/-- What the cache holds after a call: the nonce if it was taken, and of the
rest what is still inside the window. -/
theorem lookup_admitNonce (m : MemReplay) (now : Nat) (nonce k : Nonce) :
    (m.admitNonce now nonce).2.seen.lookup k =
      if k = nonce ∧ (m.admitNonce now nonce).1 = true then some now
      else (m.seen.lookup k).filter fun t => now - t < m.window := by
  unfold admitNonce
  dsimp only
  split
  · simp
  · rw [Dict.lookup_insert_eq]
    simp

/-- What the cache remembers after a call, at that time or later: pruning
takes nothing that a later call could still see. -/
theorem live_admitNonce (m : MemReplay) {now now' : Nat} (h : now ≤ now') (nonce k : Nonce) :
    (m.admitNonce now nonce).2.Live now' k ↔
      if k = nonce ∧ (m.admitNonce now nonce).1 = true then now' - now < m.window
      else m.Live now' k := by
  unfold Live
  rw [window_admitNonce, lookup_admitNonce]
  split
  · simp
  · constructor
    · rintro ⟨t, ht, hlt⟩
      exact ⟨t, (Option.mem_filter_iff.mp ht).1, hlt⟩
    · rintro ⟨t, ht, hlt⟩
      exact ⟨t, Option.mem_filter_iff.mpr ⟨ht, decide_eq_true (by omega)⟩, hlt⟩

end MemReplay

/-- An accepted knock leaves of the other nonces what is inside the window. -/
theorem Gatekeeper.lookup_afterOpen_of_ne {Cr T G : Type} [TrustStore T] [GateWriter G]
    (gk : Gatekeeper Cr T MemReplay G) (clk : Clocks) (source : IpAddr) {opened : Opened}
    (policy : ClientPolicy) {k : Nonce} (hk : k ≠ opened.auth.nonce) :
    (gk.afterOpen clk source opened policy).replay.seen.lookup k =
      (gk.replay.seen.lookup k).filter fun t => clk.instant - t < gk.replay.window :=
  (MemReplay.lookup_admitNonce _ _ _ _).trans (if_neg fun hc => hk hc.1)

/-! ## SharedTrust -/

/-- An authorized client: its key thumbprint, public key and permitted ports. -/
structure ClientEntry where
  thumbprint : Thumbprint
  publicKey : List UInt8
  ports : List UInt16
deriving DecidableEq

/-- A one-time enrollment token: its id, shared secret and permitted ports. -/
structure TokenEntry where
  tokenId : Thumbprint
  secret : List UInt8
  ports : List UInt16
deriving DecidableEq

/-- Key material and ports. -/
abbrev Entry := List UInt8 × List UInt16

/-- Hot-swappable trust store: thumbprint to public key and ports, token id
to secret and ports.  All clients share the gate's suite. -/
structure SharedTrust where
  clients : Dict Thumbprint Entry
  tokens : Dict Thumbprint Entry
  suite : Suite

/-- The client map of a list of entries; the last entry of a thumbprint wins. -/
def clientMap (clients : List ClientEntry) : Dict Thumbprint Entry :=
  Dict.ofEntries (clients.map fun c => (c.thumbprint, (c.publicKey, c.ports)))

/-- The token map of a list of entries; the last entry of an id wins. -/
def tokenMap (tokens : List TokenEntry) : Dict Thumbprint Entry :=
  Dict.ofEntries (tokens.map fun t => (t.tokenId, (t.secret, t.ports)))

namespace SharedTrust

def new (suite : Suite) : SharedTrust := ⟨∅, ∅, suite⟩

/-- Replace the entire client set. -/
def set (t : SharedTrust) (clients : List ClientEntry) : SharedTrust :=
  { t with clients := clientMap clients }

/-- Replace the one-time enrollment tokens. -/
def setTokens (t : SharedTrust) (tokens : List TokenEntry) : SharedTrust :=
  { t with tokens := tokenMap tokens }

/-- Clients first, then tokens. -/
def lookup (t : SharedTrust) (thumbprint : Thumbprint) : Option ClientPolicy :=
  match t.clients.lookup thumbprint with
  | some (pk, ports) =>
      some { publicKey := pk, suite := t.suite, allowedPorts := ports, auth := .signature,
             singleUse := false }
  | none =>
    match t.tokens.lookup thumbprint with
    | some (secret, ports) =>
        some { publicKey := secret, suite := t.suite, allowedPorts := ports, auth := .psk,
               singleUse := true }
    | none => none

/-- Burn a token. -/
def consume (t : SharedTrust) (thumbprint : Thumbprint) : SharedTrust :=
  { t with tokens := t.tokens.erase thumbprint }

instance : TrustStore SharedTrust where
  lookup := lookup
  consume := consume

/-- What a policy that came from `lookup` says about the store. -/
theorem lookup_cases {t : SharedTrust} {thumb : Thumbprint} {policy : ClientPolicy}
    (h : t.lookup thumb = some policy) :
    (t.clients.lookup thumb = some (policy.publicKey, policy.allowedPorts) ∧
      policy.auth = .signature ∧ policy.singleUse = false) ∨
    (t.clients.lookup thumb = none ∧
      t.tokens.lookup thumb = some (policy.publicKey, policy.allowedPorts) ∧
      policy.auth = .psk ∧ policy.singleUse = true) := by
  unfold lookup at h
  split at h
  · next pk ports hc =>
      rw [← Option.some.inj h]
      exact .inl ⟨hc, rfl, rfl⟩
  · next hc =>
      split at h
      · next secret ports ht =>
          rw [← Option.some.inj h]
          exact .inr ⟨hc, ht, rfl, rfl⟩
      · contradiction

/-- A registered client is found with its key and ports. -/
theorem lookup_of_client {t : SharedTrust} {thumb : Thumbprint} {e : Entry}
    (h : t.clients.lookup thumb = some e) :
    t.lookup thumb = some { publicKey := e.1, suite := t.suite, allowedPorts := e.2,
                            auth := .signature, singleUse := false } := by
  unfold lookup
  rw [h]

/-- A token is found unless a client has its id. -/
theorem lookup_of_token {t : SharedTrust} {id : Thumbprint} {e : Entry}
    (hc : t.clients.lookup id = none) (h : t.tokens.lookup id = some e) :
    t.lookup id = some { publicKey := e.1, suite := t.suite, allowedPorts := e.2,
                         auth := .psk, singleUse := true } := by
  unfold lookup
  rw [hc, h]

end SharedTrust

/-! ## BpfGateWriter -/

/-- A 16-byte address key: IPv6, or IPv4 in its mapped form. -/
abbrev Addr := ByteArr 16

/-- `u64::saturating_add`. -/
def satAdd (a b : UInt64) : UInt64 :=
  if a.toNat + b.toNat < 2 ^ 64 then a + b else 0xFFFFFFFFFFFFFFFF

theorem toNat_satAdd (a b : UInt64) : (satAdd a b).toNat = min (a.toNat + b.toNat) (2 ^ 64 - 1) := by
  unfold satAdd
  split
  · next h =>
      rw [UInt64.toNat_add]
      omega
  · next h =>
      have hmax : (0xFFFFFFFFFFFFFFFF : UInt64).toNat = 2 ^ 64 - 1 := rfl
      omega

/-- An IPv4-mapped address has 16 bytes. -/
theorem length_mapped (o : ByteArr 4) :
    (List.replicate 10 0 ++ [0xff, 0xff] ++ o.val).length = 16 := by
  simp [o.property]

/-- The allow-list key of a source: IPv6 verbatim, IPv4 as `::ffff:a.b.c.d`. -/
def addrKey : IpAddr → Addr
  | .v4 o => ⟨List.replicate 10 0 ++ [0xff, 0xff] ++ o.val, length_mapped o⟩
  | .v6 o => o

/-- Capacity of the `ALLOW` map. -/
def allowMaxEntries : Nat := 1024

abbrev AllowMap := BoundedDict Addr Grant allowMaxEntries

/-- An element the daemon asked `nft` to add to one of the floor's allow
sets, with the time of the command: the set is the one of its family. -/
structure FloorElement where
  added : UInt64
  addr : IpAddr
  timeoutSecs : UInt64
deriving DecidableEq

/-- An IPv4-mapped IPv6 source is really IPv4. -/
def normalize : IpAddr → IpAddr
  | .v4 o => .v4 o
  | .v6 o =>
      if o.val.take 12 = List.replicate 10 0 ++ [0xff, 0xff] then
        .v4 ⟨o.val.drop 12, by rw [List.length_drop, o.property]⟩
      else
        .v6 o

/-- `nft::allow`: the command that mirrors a grant into the floor. -/
def nftAllow (now : UInt64) (source : IpAddr) (timeoutSecs : UInt64) : FloorElement :=
  ⟨now, normalize source, max timeoutSecs 1⟩

/-- `u64::div_ceil(1_000_000_000)`. -/
def divCeilSecs (nanos : UInt64) : UInt64 :=
  if nanos % 1000000000 = 0 then nanos / 1000000000 else nanos / 1000000000 + 1

/-- Gate writer that programs the `ALLOW` map and, when enabled, mirrors the
grant into the nftables floor. -/
structure BpfGateWriter where
  allow : AllowMap
  nftFloor : Bool
  floor : List FloorElement

namespace BpfGateWriter

/-- Write the grant; a failed map write is ignored. -/
def openPorts (w : BpfGateWriter) (now : UInt64) (source : IpAddr) (ports : List UInt16)
    (ttlNanos : UInt64) : BpfGateWriter :=
  { w with
    allow := w.allow.insertOrKeep (addrKey source) (Grant.make (satAdd now ttlNanos) ports)
    floor := if w.nftFloor then w.floor ++ [nftAllow now source (divCeilSecs ttlNanos)] else w.floor }

instance : GateWriter BpfGateWriter where
  openPorts := openPorts

end BpfGateWriter

end SpaDevice
