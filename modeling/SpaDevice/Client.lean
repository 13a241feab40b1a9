import SpaDevice.Provision
import SpaDevice.Text

/-!
# SpaDevice.Client

The knock client library (`spa-client/src/lib.rs`): a `Knocker` that knocks with
a registered key, an `Enroller` that knocks with a one-time token, the text files
they are loaded from, and `with_open`, which knocks and connects until the
connection is made.

The hex codec is third-party code and therefore a parameter (`ClientDecoders`);
what the files rely on is `ClientDecoders.Lawful`.  Every draw of randomness and
every reading of the clock is an argument.

`fromKnockFile_renderEntries` and `fromFiles_renderEntries` are the round trips of
the two files, and `Connecting.loop_succ` says once everything a round of
`with_open` can do.
-/

namespace SpaDevice

/-- Errors from building or sending a knock. -/
inductive ClientError where
  | crypto (e : CryptoError)
  | io (text : String)
  | format (text : String)
  | unreachable (last : String)
deriving DecidableEq, Repr

/-- What the user gets to read. -/
def ClientError.text : ClientError → String
  | .crypto e => "crypto: " ++ e.text
  | .io e => "io: " ++ e
  | .format s => s
  | .unreachable s => "unreachable after knocking: " ++ s

/-- Code outside the repository: the crate `hex`, and the `{:?}` form of a
string. -/
structure ClientDecoders where
  hexEncode : List UInt8 → String
  hexDecode : String → Except String (List UInt8)
  strDebug : String → String

/-- What the files rely on: hex is written in lower-case digits, and decoding undoes
encoding. -/
structure ClientDecoders.Lawful (dec : ClientDecoders) : Prop where
  hexDecode_hexEncode : ∀ bs, dec.hexDecode (dec.hexEncode bs) = .ok bs
  hexEncode_digits : ∀ bs, ∀ c ∈ (dec.hexEncode bs).toList, c ∈ "0123456789abcdef".toList

/-! ## Reading the files -/

/-- `read_kv` on what reading the file gave. -/
def readKv (file : Except String String) : Except ClientError (Dict String String) := do
  let text ← file.mapError ClientError.io
  return Dict.ofEntries (readEntries text)

/-- `get`. -/
def getKey (kv : Dict String String) (k : String) : Except ClientError String :=
  okOr (.format ("missing " ++ k)) (kv.lookup k)

/-- `port`. -/
def portKey (kv : Dict String String) : Except ClientError UInt16 := do
  let s ← getKey kv "port"
  okOr (.format "invalid port") ((parseUnsigned 16 s.toList).map UInt16.ofNat)

namespace ClientDecoders

variable (dec : ClientDecoders)

/-- `spa_client::parse_suite`. -/
def parseSuite (name : String) : Except ClientError Suite :=
  if name = "fips" then .ok .fips
  else if name = "modern" then .ok .modern
  else .error (.format ("unknown suite " ++ dec.strDebug name ++ " (use fips|modern)"))

def hexd (s : String) : Except ClientError (List UInt8) :=
  (dec.hexDecode s).mapError fun e => .format ("bad hex: " ++ e)

def arr (n : Nat) (s : String) : Except ClientError (ByteArr n) := do
  let v ← dec.hexd s
  if h : v.length = n then return ⟨v, h⟩
  else throw (.format ("expected " ++ toString n ++ " bytes, got " ++ toString v.length))

end ClientDecoders

/-! ## The clients -/

/-- A configured client: which gate to knock, and the identity to knock with. -/
structure Knocker (lib : AwsLc) where
  gatePubkey : List UInt8
  gateId : GateId
  client : ClientKey lib

/-- A one-time-token enrollment client. -/
structure Enroller where
  suite : Suite
  gatePubkey : List UInt8
  gateId : GateId
  tokenId : Thumbprint
  secret : List UInt8

/-- What one knock takes from outside: a nonce if the generator works, the wall
clock in nanoseconds since the epoch, and the draws of the signature and the
envelope. -/
structure KnockDraws (lib : AwsLc) where
  nonce : Option Nonce
  wallNanos : Int
  rngSign : lib.Rng
  rngSeal : lib.Rng

/-- `random` at the type of a nonce. -/
def randomNonce (draw : Option Nonce) : Except ClientError Nonce := okOr (.format "rng failed") draw

/-- `now_nanos`: the nanoseconds since the epoch, cut to 64 bits. -/
def nowNanos (wallNanos : Int) : Except ClientError UInt64 :=
  if wallNanos < 0 then .error (.format "system clock before epoch")
  else .ok (UInt64.ofNat wallNanos.toNat)

/-- The request that a knock seals. -/
def knockRequest {lib : AwsLc} (gateId : GateId) (ports : List UInt16) (draws : KnockDraws lib) :
    Except ClientError KnockRequest := do
  let nonce ← randomNonce draws.nonce
  let timestampNanos ← nowNanos draws.wallNanos
  return { gateId, ports, nonce, timestampNanos }

namespace Knocker

variable {lib : AwsLc}

def new (suite : Suite) (gatePubkey : List UInt8) (gateId : GateId) (clientPkcs8 : List UInt8) :
    Except ClientError (Knocker lib) := do
  let client ← (ClientKey.fromPkcs8 suite clientPkcs8).mapError ClientError.crypto
  return { gatePubkey, gateId, client }

/-- Load from a `.knock` file: the knocker, and the ports that the file
requests. -/
def fromKnockFile (dec : ClientDecoders) (file : Except String String) :
    Except ClientError (Knocker lib × List UInt16) := do
  let kv ← readKv file
  let suite ← dec.parseSuite (← getKey kv "suite")
  let gatePubkey ← dec.hexd (← getKey kv "gate_pubkey_hex")
  let gateId ← dec.arr gateIdLen (← getKey kv "gate_id_hex")
  let pkcs8 ← dec.hexd (← getKey kv "client_pkcs8_hex")
  let knocker ← new suite gatePubkey gateId pkcs8
  let port ← portKey kv
  return (knocker, [port])

/-- `seal`: a knock requesting `ports`, with a fresh nonce and the current time. -/
def sealPorts (k : Knocker lib) (ports : List UInt16) (draws : KnockDraws lib) :
    Except ClientError (List UInt8) := do
  let req ← knockRequest k.gateId ports draws
  (k.client.sealKnock draws.rngSign draws.rngSeal k.gatePubkey req).mapError ClientError.crypto

end Knocker

namespace Enroller

/-- Gate info from a `.knock` file, the one-time token from an `.enroll` file. -/
def fromFiles (dec : ClientDecoders) (knockFile enrollFile : Except String String) :
    Except ClientError (Enroller × List UInt16) := do
  let g ← readKv knockFile
  let e ← readKv enrollFile
  let suite ← dec.parseSuite (← getKey g "suite")
  let gatePubkey ← dec.hexd (← getKey g "gate_pubkey_hex")
  let gateId ← dec.arr gateIdLen (← getKey g "gate_id_hex")
  let tokenId ← dec.arr thumbprintLen (← getKey e "token_id_hex")
  let secret ← dec.hexd (← getKey e "secret_hex")
  let port ← portKey g
  return ({ suite, gatePubkey, gateId, tokenId, secret }, [port])

/-- The packet of one enrollment knock. -/
def sealPorts {lib : AwsLc} (e : Enroller) (ports : List UInt16) (draws : KnockDraws lib) :
    Except ClientError (List UInt8) := do
  let req ← knockRequest e.gateId ports draws
  (sealPsk lib draws.rngSeal e.gatePubkey e.suite e.secret e.tokenId req).mapError ClientError.crypto

end Enroller

/-! ## Sending -/

/-- What the network does with a datagram: the addresses of a target, whether they
are IPv6, and what binding a socket and sending on it give. -/
structure UdpSockets (SocketAddr : Type) where
  toSocketAddrs : String → Except String (List SocketAddr)
  isIpv6 : SocketAddr → Bool
  bind : String → Except String Unit
  sendTo : List UInt8 → SocketAddr → Except String Unit

/-- `send_udp`: one datagram to the first address of the target. -/
def UdpSockets.sendUdp {SocketAddr : Type} (net : UdpSockets SocketAddr) (packet : List UInt8)
    (target : String) : Except ClientError SocketAddr := do
  let addrs ← (net.toSocketAddrs target).mapError ClientError.io
  let addr ← okOr (.format "could not resolve target") addrs.head?
  (net.bind (if net.isIpv6 addr then "[::]:0" else "0.0.0.0:0")).mapError ClientError.io
  (net.sendTo packet addr).mapError ClientError.io
  return addr

/-- `Knocker::knock`: the packet and where it went. -/
def Knocker.knock {lib : AwsLc} {SocketAddr : Type} (k : Knocker lib) (net : UdpSockets SocketAddr)
    (target : String) (ports : List UInt16) (draws : KnockDraws lib) :
    Except ClientError (List UInt8 × SocketAddr) := do
  let packet ← k.sealPorts ports draws
  let addr ← net.sendUdp packet target
  return (packet, addr)

/-- `Enroller::knock`. -/
def Enroller.knock {lib : AwsLc} {SocketAddr : Type} (e : Enroller) (net : UdpSockets SocketAddr)
    (target : String) (ports : List UInt16) (draws : KnockDraws lib) :
    Except ClientError (List UInt8 × SocketAddr) := do
  let packet ← e.sealPorts ports draws
  let addr ← net.sendUdp packet target
  return (packet, addr)

/-! ## The files -/

/-- The entries of a `.knock` file. -/
def knockEntries (dec : ClientDecoders) (suiteName : String) (gatePubkey : List UInt8) (gateId : GateId)
    (pkcs8 : List UInt8) (port : UInt16) : List (String × String) :=
  [("suite", suiteName), ("gate_pubkey_hex", dec.hexEncode gatePubkey),
    ("gate_id_hex", dec.hexEncode gateId.val), ("client_pkcs8_hex", dec.hexEncode pkcs8),
    ("port", toString port.toNat)]

/-- The entries of an `.enroll` file. -/
def enrollEntries (dec : ClientDecoders) (tokenId : Thumbprint) (secret : List UInt8) :
    List (String × String) :=
  [("token_id_hex", dec.hexEncode tokenId.val), ("secret_hex", dec.hexEncode secret)]

namespace ClientDecoders

variable {dec : ClientDecoders}

theorem parseSuite_suiteName (suite : Suite) :
    dec.parseSuite (ConfigDecoders.suiteName suite) = .ok suite := by
  cases suite with
  | fips => rfl
  | modern => rfl

theorem parseSuite_eq_ok_iff {name : String} {suite : Suite} :
    dec.parseSuite name = .ok suite ↔ name = ConfigDecoders.suiteName suite := by
  constructor
  · intro h
    unfold parseSuite at h
    split at h
    · next hname => rw [← Except.ok.inj h, hname]; rfl
    · split at h
      · next hname => rw [← Except.ok.inj h, hname]; rfl
      · contradiction
  · rintro rfl
    exact parseSuite_suiteName suite

namespace Lawful

variable (h : dec.Lawful)

include h

theorem noSpace (bs : List UInt8) : NoSpace (dec.hexEncode bs).toList := by
  intro c hc
  have hall : ∀ c ∈ "0123456789abcdef".toList, isWhitespace c = false := by simp [isWhitespace]
  exact hall c (h.hexEncode_digits bs c hc)

theorem hexd_hexEncode (bs : List UInt8) : dec.hexd (dec.hexEncode bs) = .ok bs := by
  simp [hexd, h.hexDecode_hexEncode, Except.mapError]

theorem arr_hexEncode {n : Nat} (a : ByteArr n) : dec.arr n (dec.hexEncode a.val) = .ok a := by
  simp only [arr, h.hexd_hexEncode, except_ok_bind, a.property, dif_pos]
  rfl

end Lawful

end ClientDecoders

/-- A key of the files: no separator and no white space. -/
theorem clean_of_key {k v : String} (hk : ∀ c ∈ k.toList, c ≠ '=' ∧ isWhitespace c = false)
    (hv : NoSpace v.toList) : Clean (k, v) where
  separator := fun h => (hk _ h).1 rfl
  key := fun c hc => (hk c hc).2
  value := hv

theorem noSpace_suiteName (suite : Suite) : NoSpace (ConfigDecoders.suiteName suite).toList := by
  intro c hc
  cases suite with
  | fips =>
      have hall : ∀ c ∈ "fips".toList, isWhitespace c = false := by simp [isWhitespace]
      exact hall c hc
  | modern =>
      have hall : ∀ c ∈ "modern".toList, isWhitespace c = false := by simp [isWhitespace]
      exact hall c hc

theorem noSpace_toString (n : Nat) : NoSpace (toString n).toList := by
  rw [Nat.toString_eq_ofList_toDigits, String.toList_ofList]
  exact noSpace_toDigits n

section

variable {dec : ClientDecoders} (hd : dec.Lawful)

include hd

theorem clean_knockEntries (suite : Suite) (gatePubkey : List UInt8) (gateId : GateId)
    (pkcs8 : List UInt8) (port : UInt16) :
    ∀ e ∈ knockEntries dec (ConfigDecoders.suiteName suite) gatePubkey gateId pkcs8 port, Clean e := by
  intro e he
  simp only [knockEntries, List.mem_cons, List.not_mem_nil, or_false] at he
  rcases he with rfl | rfl | rfl | rfl | rfl
  · exact clean_of_key (by simp [isWhitespace]) (noSpace_suiteName suite)
  · exact clean_of_key (by simp [isWhitespace]) (hd.noSpace _)
  · exact clean_of_key (by simp [isWhitespace]) (hd.noSpace _)
  · exact clean_of_key (by simp [isWhitespace]) (hd.noSpace _)
  · exact clean_of_key (by simp [isWhitespace]) (noSpace_toString _)

theorem clean_enrollEntries (tokenId : Thumbprint) (secret : List UInt8) :
    ∀ e ∈ enrollEntries dec tokenId secret, Clean e := by
  intro e he
  simp only [enrollEntries, List.mem_cons, List.not_mem_nil, or_false] at he
  rcases he with rfl | rfl
  · exact clean_of_key (by simp [isWhitespace]) (hd.noSpace _)
  · exact clean_of_key (by simp [isWhitespace]) (hd.noSpace _)

/-- What a `.knock` file says under each of its keys. -/
theorem readKv_knockEntries (suite : Suite) (gatePubkey : List UInt8) (gateId : GateId)
    (pkcs8 : List UInt8) (port : UInt16) :
    ∃ kv, readKv (.ok (renderEntries (knockEntries dec (ConfigDecoders.suiteName suite) gatePubkey
        gateId pkcs8 port))) = .ok kv ∧
      getKey kv "suite" = .ok (ConfigDecoders.suiteName suite) ∧
      getKey kv "gate_pubkey_hex" = .ok (dec.hexEncode gatePubkey) ∧
      getKey kv "gate_id_hex" = .ok (dec.hexEncode gateId.val) ∧
      getKey kv "client_pkcs8_hex" = .ok (dec.hexEncode pkcs8) ∧ portKey kv = .ok port := by
  have hport : parseUnsigned 16 (Nat.toDigits 10 port.toNat) = some port.toNat :=
    parseUnsigned_toDigits port.toNat_lt
  refine ⟨_, rfl, ?_⟩
  rw [readEntries_renderEntries (clean_knockEntries hd suite gatePubkey gateId pkcs8 port)]
  simp [getKey, portKey, Dict.lookup_ofEntries, knockEntries, hport]

theorem readKv_enrollEntries (tokenId : Thumbprint) (secret : List UInt8) :
    ∃ kv, readKv (.ok (renderEntries (enrollEntries dec tokenId secret))) = .ok kv ∧
      getKey kv "token_id_hex" = .ok (dec.hexEncode tokenId.val) ∧
      getKey kv "secret_hex" = .ok (dec.hexEncode secret) := by
  refine ⟨_, rfl, ?_⟩
  rw [readEntries_renderEntries (clean_enrollEntries hd tokenId secret)]
  simp [getKey, Dict.lookup_ofEntries, enrollEntries]

/-- **Round trip of the `.knock` file.** -/
theorem fromKnockFile_renderEntries {lib : AwsLc} (suite : Suite) (gatePubkey : List UInt8)
    (gateId : GateId) (pkcs8 : List UInt8) (port : UInt16) :
    (Knocker.fromKnockFile dec (.ok (renderEntries (knockEntries dec (ConfigDecoders.suiteName suite)
        gatePubkey gateId pkcs8 port))) : Except ClientError (Knocker lib × List UInt16)) =
      (Knocker.new suite gatePubkey gateId pkcs8).map fun k => (k, [port]) := by
  obtain ⟨kv, hkv, hsuite, hpub, hid, hkey, hport⟩ :=
    readKv_knockEntries hd suite gatePubkey gateId pkcs8 port
  simp only [Knocker.fromKnockFile, hkv, hsuite, hpub, hid, hkey, hport, except_ok_bind,
    dec.parseSuite_suiteName, hd.hexd_hexEncode, hd.arr_hexEncode]
  cases (Knocker.new suite gatePubkey gateId pkcs8 : Except ClientError (Knocker lib)) with
  | error e => rfl
  | ok k => rfl

/-- **Round trip of the `.enroll` file**, with the gate info of a `.knock` file. -/
theorem fromFiles_renderEntries (suite : Suite) (gatePubkey : List UInt8) (gateId : GateId)
    (pkcs8 : List UInt8) (port : UInt16) (tokenId : Thumbprint) (secret : List UInt8) :
    Enroller.fromFiles dec
        (.ok (renderEntries (knockEntries dec (ConfigDecoders.suiteName suite) gatePubkey gateId pkcs8
          port)))
        (.ok (renderEntries (enrollEntries dec tokenId secret))) =
      .ok (⟨suite, gatePubkey, gateId, tokenId, secret⟩, [port]) := by
  obtain ⟨kv, hkv, hsuite, hpub, hid, hkey, hport⟩ :=
    readKv_knockEntries hd suite gatePubkey gateId pkcs8 port
  obtain ⟨ev, hev, htoken, hsecret⟩ := readKv_enrollEntries hd tokenId secret
  simp only [Enroller.fromFiles, hkv, hev, hsuite, hpub, hid, hport, htoken, hsecret, except_ok_bind,
    dec.parseSuite_suiteName, hd.hexd_hexEncode, hd.arr_hexEncode]
  rfl

end

/-! ## Knocking and connecting -/

/-- What `with_open` works with, on a state `W` of the world: a knock, the grace
after it, and the caller's `connect`, of whose error it keeps the text. -/
structure Connecting (W V : Type) where
  knock : W → Except ClientError Unit × W
  grace : W → W
  connect : W → Except String V × W

namespace Connecting

variable {W V : Type} (c : Connecting W V)

/-- The loop of `with_open` with `n` attempts left, `last` being the last error of
`connect`. -/
def loop : Nat → String → W → Except ClientError V × W
  | 0, last, w => (.error (.unreachable last), w)
  | n + 1, _, w =>
    match c.knock w with
    | (.error e, w) => (.error e, w)
    | (.ok (), w) =>
      match c.connect (c.grace w) with
      | (.ok value, w) => (.ok value, w)
      | (.error e, w) => loop n e w

/-- `Knocker::with_open`. -/
def withOpen (attempts : UInt32) (w : W) : Except ClientError V × W :=
  c.loop (max attempts.toNat 1) "" w

/-- One attempt: the knock fails, or `connect` answers. -/
def attempt (w : W) : Except ClientError (Except String V) × W :=
  match c.knock w with
  | (.error e, w) => (.error e, w)
  | (.ok (), w) => ((.ok (c.connect (c.grace w)).1), (c.connect (c.grace w)).2)

/-- The state of the world after `n` attempts. -/
def after (w : W) : Nat → W
  | 0 => w
  | n + 1 => (c.attempt (after w n)).2

theorem after_succ (w : W) (n : Nat) : c.after w (n + 1) = c.after (c.attempt w).2 n := by
  induction n with
  | zero => rfl
  | succ n ih =>
      change (c.attempt (c.after w (n + 1))).2 = (c.attempt (c.after (c.attempt w).2 n)).2
      rw [ih]

/-- **Everything one round of the loop can do.** -/
theorem loop_succ (n : Nat) (last : String) (w : W) :
    c.loop (n + 1) last w =
      match (c.attempt w).1 with
      | .error e => (.error e, (c.attempt w).2)
      | .ok (.ok value) => (.ok value, (c.attempt w).2)
      | .ok (.error e) => c.loop n e (c.attempt w).2 := by
  rw [loop, attempt]
  cases hk : c.knock w with
  | mk r w' =>
      cases r with
      | error e => rfl
      | ok u =>
          dsimp only
          cases hc : c.connect (c.grace w') with
          | mk r' w'' =>
              cases r' with
              | error e => rfl
              | ok value => rfl

/-- The loop ends with the first attempt that connects, when no knock fails before
it. -/
theorem loop_of_connects {n i : Nat} (hi : i < n) (last : String) {w : W}
    (hknocks : ∀ j < i, ∃ r, (c.attempt (c.after w j)).1 = .ok r) {value : V}
    (hconnects : (c.attempt (c.after w i)).1 = .ok (.ok value)) :
    ∃ j ≤ i, ∃ value', (c.attempt (c.after w j)).1 = .ok (.ok value') ∧
      c.loop n last w = (.ok value', c.after w (j + 1)) := by
  induction i generalizing n last w with
  | zero =>
      obtain ⟨m, rfl⟩ := Nat.exists_eq_succ_of_ne_zero (Nat.ne_of_gt hi)
      refine ⟨0, Nat.le_refl 0, value, hconnects, ?_⟩
      have hfirst : (c.attempt w).1 = .ok (.ok value) := hconnects
      rw [loop_succ, hfirst]
      rfl
  | succ i ih =>
      obtain ⟨m, rfl⟩ := Nat.exists_eq_succ_of_ne_zero (Nat.ne_of_gt (Nat.zero_lt_of_lt hi))
      obtain ⟨r, hr⟩ := hknocks 0 (Nat.zero_lt_succ i)
      have hfirst : (c.attempt w).1 = .ok r := hr
      cases r with
      | ok v =>
          refine ⟨0, Nat.zero_le _, v, hfirst, ?_⟩
          rw [loop_succ, hfirst]
          rfl
      | error e =>
          obtain ⟨j, hj, v, hv, hloop⟩ := ih (Nat.lt_of_succ_lt_succ hi) e
            (w := (c.attempt w).2)
            (fun j hj => by rw [← after_succ]; exact hknocks (j + 1) (Nat.succ_lt_succ hj))
            (by rw [← after_succ]; exact hconnects)
          rw [← after_succ] at hv hloop
          refine ⟨j + 1, Nat.succ_le_succ hj, v, hv, ?_⟩
          rw [loop_succ, hfirst]
          exact hloop

end Connecting

end SpaDevice
