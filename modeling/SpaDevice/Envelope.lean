import SpaDevice.Core
import SpaDevice.Result

/-!
# SpaDevice.Envelope

The signcryption envelope of `spa-crypto`:

```
version(1) | suite(1) | ephemeral_pubkey(N) | AEAD ciphertext+tag
```

The primitives of `aws-lc-rs` are a parameter (`AwsLc`): opaque key types and
functions.  What the code relies on is the separate `AwsLc.Lawful`, and only
the agreement of the two sides needs it; everything the gate concludes from a
packet it opened holds for any primitives whatever.

Randomness is explicit: each draw from `SystemRandom` is an argument.
-/

namespace SpaDevice

/-! ## The primitives -/

/-- The operations of `aws-lc-rs` that the envelope uses.  `none` is the
library's error; `Suite` stands for the algorithm `agreement_alg`, `aead_alg`
and `verify_alg` select. -/
structure AwsLc where
  /-- One draw from `SystemRandom`. -/
  Rng : Type
  PrivateKey : Type
  EphemeralKey : Type
  EcdsaKeyPair : Type
  Ed25519KeyPair : Type
  fromPrivateKey : Suite → List UInt8 → Option PrivateKey
  computePublicKey : Suite → PrivateKey → Option (List UInt8)
  agree : Suite → PrivateKey → (peer : List UInt8) → Option (List UInt8)
  generateEphemeral : Suite → Rng → Option EphemeralKey
  ephemeralPublicKey : Suite → EphemeralKey → Option (List UInt8)
  agreeEphemeral : Suite → EphemeralKey → (peer : List UInt8) → Option (List UInt8)
  hkdfSha256 : (salt ikm : List UInt8) → (info : List (List UInt8)) → (len : Nat) →
    Option (List UInt8)
  aeadSeal : Suite → ByteArr 32 → ByteArr 12 → (aad plaintext : List UInt8) → Option (List UInt8)
  aeadOpen : Suite → ByteArr 32 → ByteArr 12 → (aad ciphertext : List UInt8) → Option (List UInt8)
  ecdsaFromPkcs8 : List UInt8 → Option EcdsaKeyPair
  ecdsaPublicKey : EcdsaKeyPair → List UInt8
  ecdsaSign : EcdsaKeyPair → Rng → List UInt8 → Option (List UInt8)
  ed25519FromPkcs8 : List UInt8 → Option Ed25519KeyPair
  ed25519PublicKey : Ed25519KeyPair → List UInt8
  ed25519Sign : Ed25519KeyPair → List UInt8 → List UInt8
  verifySignature : Suite → (publicKey message sig : List UInt8) → Bool
  hmacSha512 : (key message : List UInt8) → Sig
  hmacVerify : (key message mac : List UInt8) → Bool
  sha256 : List UInt8 → Thumbprint

/-- Errors from the client (sealing) side. -/
inductive CryptoError where
  | key
  | sign
  | encode
  | crypto
deriving DecidableEq, Repr

abbrev aeadNonceLen : Nat := 12
abbrev aeadKeyLen : Nat := 32
def aeadTagLen : Nat := 16

/-- Domain-separation label bound into the HKDF derivation. -/
def hkdfLabel : List UInt8 := "spa-v1-envelope".toUTF8.data.toList

/-- Length of the ephemeral public key on the wire. -/
def ephPubLen : Suite → Nat
  | .fips => 65
  | .modern => 32

section

variable (lib : AwsLc)

/-- Derive the AEAD key and nonce from the shared secret, binding the suite
and the ephemeral public key into the context. -/
def derive (suite : Suite) (shared ephPub : List UInt8) :
    Option (ByteArr aeadKeyLen × ByteArr aeadNonceLen) := do
  let out ← lib.hkdfSha256 [] shared [hkdfLabel, [suite.toByte], ephPub] (aeadKeyLen + aeadNonceLen)
  -- `okm.fill` fails when the output is not as long as the buffer.
  if h : out.length = aeadKeyLen + aeadNonceLen then
    some (⟨out.take aeadKeyLen, by rw [List.length_take]; omega⟩,
      ⟨out.drop aeadKeyLen, by rw [List.length_drop]; omega⟩)
  else
    none

/-! ## The gate side -/

/-- The gate's static identity key for one suite; the public key is the one
computed from the private key. -/
structure GateKeypair where
  suite : Suite
  priv : lib.PrivateKey
  pub : List UInt8
  pub_eq : lib.computePublicKey suite priv = some pub

namespace GateKeypair

variable {lib}

/-- Load a gate key from its raw private key. -/
def fromRawPrivate (suite : Suite) (raw : List UInt8) : Except CryptoError (GateKeypair lib) :=
  match lib.fromPrivateKey suite raw with
  | none => .error .key
  | some priv =>
    match h : lib.computePublicKey suite priv with
    | none => .error .key
    | some pub => .ok { suite, priv, pub, pub_eq := h }

/-- Decrypt and decode a received packet. -/
def openPacket (kp : GateKeypair lib) (packet : List UInt8) : Except OpenError Opened := do
  let v ← okOr {} packet[0]?
  if v ≠ version then throw {} else do
  let suiteByte ← okOr {} packet[1]?
  let suite ← okOr {} (Suite.fromByte suiteByte).toOption
  if suite ≠ kp.suite then throw {} else do
  let ephEnd := 2 + ephPubLen suite
  if packet.length < ephEnd then throw {} else do
  let ephPub := (packet.drop 2).take (ephPubLen suite)
  let ciphertext := packet.drop ephEnd
  if ciphertext.length < aeadTagLen then throw {} else do
  let header := packet.take ephEnd
  let secret ← okOr {} (lib.agree suite kp.priv ephPub)
  let (key, nonce) ← okOr {} (derive lib suite secret ephPub)
  let plaintext ← okOr {} (lib.aeadOpen suite key nonce header ciphertext)
  let auth ← okOr {} (Authorization.decode plaintext).toOption
  if plaintext.length < sigLen then throw {} else
  return { auth, signingBytes := plaintext.take (plaintext.length - sigLen) }

instance : Crypto (GateKeypair lib) where
  openPacket := openPacket
  verify := fun _ suite publicKey message sig => lib.verifySignature suite publicKey message sig
  verifyMac := fun _ key message mac => lib.hmacVerify key message mac

end GateKeypair

/-! ## The client side -/

/-- A client's signing key. -/
inductive Signer where
  | ecdsa (kp : lib.EcdsaKeyPair)
  | ed25519 (kp : lib.Ed25519KeyPair)

namespace Signer

variable {lib}

def suite : Signer lib → Suite
  | .ecdsa _ => .fips
  | .ed25519 _ => .modern

def publicKey : Signer lib → List UInt8
  | .ecdsa kp => lib.ecdsaPublicKey kp
  | .ed25519 kp => lib.ed25519PublicKey kp

end Signer

/-- A client's identity key plus its public key and thumbprint.  The fields
agree with each other however the key was made. -/
structure ClientKey where
  suite : Suite
  signer : Signer lib
  pub : List UInt8
  thumbprint : Thumbprint
  suite_eq : signer.suite = suite
  pub_eq : signer.publicKey = pub
  thumbprint_eq : lib.sha256 pub = thumbprint

/-- The per-knock inputs shared by both seal paths. -/
structure KnockRequest where
  gateId : GateId
  ports : List UInt16
  nonce : Nonce
  timestampNanos : UInt64

/-- The authorization of a request, not signed yet. -/
def KnockRequest.authorization (req : KnockRequest) (keyThumbprint : Thumbprint) : Authorization where
  nonce := req.nonce
  timestampNanos := req.timestampNanos
  gateId := req.gateId
  keyThumbprint := keyThumbprint
  ports := req.ports
  signature := ByteArr.fill sigLen 0

/-- Ephemeral ECDH, HKDF and AEAD seal of `plaintext` to the gate's public
key. -/
def sealEnvelope (rng : lib.Rng) (gatePublic : List UInt8) (suite : Suite)
    (plaintext : List UInt8) : Except CryptoError (List UInt8) := do
  let ephemeral ← okOr .crypto (lib.generateEphemeral suite rng)
  let ephPub ← okOr .crypto (lib.ephemeralPublicKey suite ephemeral)
  let header := [version, suite.toByte] ++ ephPub
  let secret ← okOr .crypto (lib.agreeEphemeral suite ephemeral gatePublic)
  let (key, nonce) ← okOr .crypto (derive lib suite secret ephPub)
  let ciphertext ← okOr .crypto (lib.aeadSeal suite key nonce header plaintext)
  return header ++ ciphertext

namespace ClientKey

variable {lib}

/-- The key of a signer. -/
def ofSigner (signer : Signer lib) : ClientKey lib where
  suite := signer.suite
  signer := signer
  pub := signer.publicKey
  thumbprint := lib.sha256 signer.publicKey
  suite_eq := rfl
  pub_eq := rfl
  thumbprint_eq := rfl

/-- Load a client key from PKCS#8. -/
def fromPkcs8 (suite : Suite) (pkcs8 : List UInt8) : Except CryptoError (ClientKey lib) :=
  match suite with
  | .fips => do
      let kp ← okOr .key (lib.ecdsaFromPkcs8 pkcs8)
      return ofSigner (.ecdsa kp)
  | .modern => do
      let kp ← okOr .key (lib.ed25519FromPkcs8 pkcs8)
      return ofSigner (.ed25519 kp)

/-- The 64-byte raw signature of a message. -/
def sign (key : ClientKey lib) (rng : lib.Rng) (message : List UInt8) : Except CryptoError Sig := do
  let sig ←
    match key.signer with
    | .ecdsa kp => okOr .sign (lib.ecdsaSign kp rng message)
    | .ed25519 kp => .ok (lib.ed25519Sign kp message)
  if h : sig.length = sigLen then return ⟨sig, h⟩ else throw .sign

/-- Build, sign and seal a knock for `gatePublic`. -/
def sealKnock (key : ClientKey lib) (rngSign rngSeal : lib.Rng) (gatePublic : List UInt8)
    (req : KnockRequest) : Except CryptoError (List UInt8) := do
  let auth := req.authorization key.thumbprint
  let signing ← okOr .encode auth.signingBytes.toOption
  let signature ← key.sign rngSign signing
  let plaintext ← okOr .encode { auth with signature }.encode.toOption
  sealEnvelope lib rngSeal gatePublic key.suite plaintext

end ClientKey

/-- Build and seal a pre-shared-key knock: the authenticator field carries
the HMAC of the signing bytes under the token's secret. -/
def sealPsk (rng : lib.Rng) (gatePublic : List UInt8) (suite : Suite) (token : List UInt8)
    (tokenId : Thumbprint) (req : KnockRequest) : Except CryptoError (List UInt8) := do
  let auth := req.authorization tokenId
  let signing ← okOr .encode auth.signingBytes.toOption
  let plaintext ←
    okOr .encode { auth with signature := lib.hmacSha512 token signing }.encode.toOption
  sealEnvelope lib rng gatePublic suite plaintext

end

/-! ## What an opened packet is -/

namespace GateKeypair

variable {lib : AwsLc}

/-- A packet that `open` accepts, taken apart: the header, the ciphertext,
and the plaintext the AEAD gave for them. -/
structure Opens (kp : GateKeypair lib) (packet : List UInt8) (opened : Opened)
    (ephPub ciphertext plaintext : List UInt8) : Prop where
  packet_eq : packet = [version, kp.suite.toByte] ++ ephPub ++ ciphertext
  length_ephPub : ephPub.length = ephPubLen kp.suite
  tag_le : aeadTagLen ≤ ciphertext.length
  aead : ∃ key nonce, lib.aeadOpen kp.suite key nonce ([version, kp.suite.toByte] ++ ephPub)
    ciphertext = some plaintext
  decode : Authorization.decode plaintext = .ok opened.auth
  signing : opened.signingBytes = plaintext.take (plaintext.length - sigLen)

/-- A list with known first two elements, split at a later position. -/
private theorem eq_header_append {packet : List UInt8} {v b : UInt8} {n : Nat}
    (hv : packet[0]? = some v) (hb : packet[1]? = some b) :
    packet.take (2 + n) = [v, b] ++ (packet.drop 2).take n ∧
      packet = [v, b] ++ (packet.drop 2).take n ++ packet.drop (2 + n) := by
  match packet, hv, hb with
  | v' :: b' :: tl, hv, hb =>
      have hv' : v' = v := Option.some.inj hv
      have hb' : b' = b := Option.some.inj hb
      subst hv' hb'
      have htake : (v' :: b' :: tl).take (2 + n) = [v', b'] ++ tl.take n := by
        rw [Nat.add_comm]; rfl
      have hdrop : (v' :: b' :: tl).drop (2 + n) = tl.drop n := by
        rw [Nat.add_comm]; rfl
      refine ⟨htake, ?_⟩
      rw [hdrop, List.append_assoc]
      simp

/-- Every accepted packet opens in the sense of `Opens`. -/
theorem opens_of_openPacket {kp : GateKeypair lib} {packet : List UInt8} {opened : Opened}
    (h : kp.openPacket packet = .ok opened) :
    ∃ ephPub ciphertext plaintext, kp.Opens packet opened ephPub ciphertext plaintext := by
  obtain ⟨v, hv, h⟩ := except_bind_eq_ok.mp h
  obtain ⟨hver, h⟩ := except_guard_eq_ok.mp h
  obtain ⟨b, hb, h⟩ := except_bind_eq_ok.mp h
  obtain ⟨suite, hs, h⟩ := except_bind_eq_ok.mp h
  obtain ⟨hsuite, h⟩ := except_guard_eq_ok.mp h
  obtain ⟨hlen, h⟩ := except_guard_eq_ok.mp h
  obtain ⟨htag, h⟩ := except_guard_eq_ok.mp h
  obtain ⟨secret, hsecret, h⟩ := except_bind_eq_ok.mp h
  obtain ⟨⟨key, nonce⟩, hkey, h⟩ := except_bind_eq_ok.mp h
  obtain ⟨plaintext, hpt, h⟩ := except_bind_eq_ok.mp h
  obtain ⟨auth, hauth, h⟩ := except_bind_eq_ok.mp h
  obtain ⟨hsig, h⟩ := except_guard_eq_ok.mp h
  have hopened := (Except.ok.inj h).symm
  have hver' : v = version := not_not.mp hver
  have hsuite' : suite = kp.suite := not_not.mp hsuite
  have hbyte : b = kp.suite.toByte := by
    rw [← hsuite']
    exact Suite.toByte_of_fromByte (toOption_eq_some.mp (okOr_eq_ok.mp hs))
  subst hver' hsuite' hbyte
  obtain ⟨hhead, hpacket⟩ := eq_header_append (n := ephPubLen kp.suite) (okOr_eq_ok.mp hv)
    (okOr_eq_ok.mp hb)
  refine ⟨(packet.drop 2).take (ephPubLen kp.suite), packet.drop (2 + ephPubLen kp.suite), plaintext,
    hpacket, ?_, Nat.not_lt.mp htag, ⟨key, nonce, ?_⟩, ?_, ?_⟩
  · rw [List.length_take, List.length_drop]
    omega
  · rw [← hhead]
    exact okOr_eq_ok.mp hpt
  · rw [hopened]
    exact toOption_eq_some.mp (okOr_eq_ok.mp hauth)
  · rw [hopened]

/-- The signing bytes of an opened packet are the signing region of its
authorization, which has 1 to 8 ports. -/
theorem openPacket_signingBytes {kp : GateKeypair lib} {packet : List UInt8} {opened : Opened}
    (h : kp.openPacket packet = .ok opened) :
    opened.signingBytes = opened.auth.signingRegion ∧
      1 ≤ opened.auth.ports.length ∧ opened.auth.ports.length ≤ maxPorts := by
  obtain ⟨ephPub, ciphertext, plaintext, ho⟩ := opens_of_openPacket h
  obtain ⟨hports, hpt⟩ :=
    (Authorization.encode_eq_ok_iff _ _).mp (Authorization.decode_sound ho.decode)
  refine ⟨?_, hports⟩
  rw [ho.signing, hpt, List.length_append, opened.auth.signature.property, Nat.add_sub_cancel]
  exact List.take_left' rfl

end GateKeypair

/-! ## The two sides agree -/

/-- What the envelope relies on: the documented behaviour of the primitives.
The plaintext bound is that of AES-GCM, the smaller of the two suites' limits. -/
structure AwsLc.Lawful (lib : AwsLc) : Prop where
  generateEphemeral : ∀ suite rng, ∃ e, lib.generateEphemeral suite rng = some e
  ephemeralPublicKey : ∀ suite rng e, lib.generateEphemeral suite rng = some e →
    ∃ pk, lib.ephemeralPublicKey suite e = some pk ∧ pk.length = ephPubLen suite
  /-- ECDH agreement is symmetric. -/
  agree_symm : ∀ suite priv pub e ephPub, lib.computePublicKey suite priv = some pub →
    lib.ephemeralPublicKey suite e = some ephPub →
    ∃ secret, lib.agreeEphemeral suite e pub = some secret ∧ lib.agree suite priv ephPub = some secret
  /-- HKDF-SHA256 expands to any length up to 255 hash blocks. -/
  hkdf : ∀ salt ikm info len, len ≤ 255 * 32 →
    ∃ okm, lib.hkdfSha256 salt ikm info len = some okm ∧ okm.length = len
  /-- AEAD sealing appends a 16-byte tag. -/
  aeadSeal : ∀ suite key nonce aad pt, pt.length ≤ 2 ^ 36 - 32 →
    ∃ ct, lib.aeadSeal suite key nonce aad pt = some ct ∧ ct.length = pt.length + aeadTagLen
  /-- AEAD opening inverts sealing under the same key, nonce and AAD. -/
  aeadOpen_aeadSeal : ∀ suite key nonce aad pt ct, lib.aeadSeal suite key nonce aad pt = some ct →
    lib.aeadOpen suite key nonce aad ct = some pt
  ecdsaSign : ∀ kp rng msg, ∃ sig, lib.ecdsaSign kp rng msg = some sig ∧ sig.length = sigLen ∧
    lib.verifySignature .fips (lib.ecdsaPublicKey kp) msg sig = true
  ed25519Sign : ∀ kp msg, (lib.ed25519Sign kp msg).length = sigLen ∧
    lib.verifySignature .modern (lib.ed25519PublicKey kp) msg (lib.ed25519Sign kp msg) = true
  hmac : ∀ key msg, lib.hmacVerify key msg (lib.hmacSha512 key msg).val = true

section

variable {lib : AwsLc}

theorem derive_eq_some (hl : lib.Lawful) (suite : Suite) (shared ephPub : List UInt8) :
    ∃ kn, derive lib suite shared ephPub = some kn := by
  obtain ⟨okm, hokm, hlen⟩ := hl.hkdf [] shared [hkdfLabel, [suite.toByte], ephPub]
    (aeadKeyLen + aeadNonceLen) (by decide)
  unfold derive
  rw [hokm, Option.bind_eq_bind, Option.bind_some, dif_pos hlen]
  exact ⟨_, rfl⟩

/-- **Envelope roundtrip**: what is sealed to the gate's public key opens
with its private key, and carries the authorization that was encoded. -/
theorem openPacket_sealEnvelope (hl : lib.Lawful) (kp : GateKeypair lib) (rng : lib.Rng)
    {a : Authorization} {plaintext : List UInt8} (henc : a.encode = .ok plaintext) :
    ∃ packet, sealEnvelope lib rng kp.pub kp.suite plaintext = .ok packet ∧
      kp.openPacket packet = .ok ⟨a, a.signingRegion⟩ := by
  obtain ⟨hports, hpt⟩ := (Authorization.encode_eq_ok_iff _ _).mp henc
  have hlen : plaintext.length = 74 + 2 * a.ports.length + 64 := by
    rw [hpt, List.length_append, Authorization.length_signingRegion, a.signature.property]
  have hmax : a.ports.length ≤ 8 := hports.2
  obtain ⟨e, he⟩ := hl.generateEphemeral kp.suite rng
  obtain ⟨ephPub, hpub, hplen⟩ := hl.ephemeralPublicKey kp.suite rng e he
  obtain ⟨secret, hsec, hsec'⟩ := hl.agree_symm kp.suite kp.priv kp.pub e ephPub kp.pub_eq hpub
  obtain ⟨⟨key, nonce⟩, hkey⟩ := derive_eq_some hl kp.suite secret ephPub
  obtain ⟨ct, hct, hctlen⟩ := hl.aeadSeal kp.suite key nonce ([version, kp.suite.toByte] ++ ephPub)
    plaintext (by omega)
  have hopen := hl.aeadOpen_aeadSeal _ _ _ _ _ _ hct
  have hsigning : plaintext.take (plaintext.length - sigLen) = a.signingRegion := by
    rw [hpt, List.length_append, a.signature.property, Nat.add_sub_cancel]
    exact List.take_left' rfl
  refine ⟨[version, kp.suite.toByte] ++ ephPub ++ ct, ?_, ?_⟩
  · simp only [sealEnvelope, he, hpub, hsec, hkey, hct, okOr_some, except_ok_bind]
    rfl
  · have hhead : ([version, kp.suite.toByte] ++ ephPub ++ ct).take (2 + ephPubLen kp.suite) =
        [version, kp.suite.toByte] ++ ephPub := List.take_left' (by simp [hplen]; omega)
    have htail : ([version, kp.suite.toByte] ++ ephPub ++ ct).drop (2 + ephPubLen kp.suite) = ct :=
      List.drop_left' (by simp [hplen]; omega)
    have heph : (([version, kp.suite.toByte] ++ ephPub ++ ct).drop 2).take (ephPubLen kp.suite) =
        ephPub := List.take_left' hplen
    have hlong : ¬ ([version, kp.suite.toByte] ++ ephPub ++ ct).length < 2 + ephPubLen kp.suite := by
      simp [hplen]; omega
    have htag : ¬ ct.length < aeadTagLen := by omega
    have hsig : ¬ plaintext.length < sigLen := by rw [hlen]; simp only [sigLen]; omega
    have h0 : ([version, kp.suite.toByte] ++ ephPub ++ ct)[0]? = some version := rfl
    have h1 : ([version, kp.suite.toByte] ++ ephPub ++ ct)[1]? = some kp.suite.toByte := rfl
    have hsuite : (Suite.fromByte kp.suite.toByte).toOption = some kp.suite := by
      rw [Suite.fromByte_toByte]; rfl
    have hdec : (Authorization.decode plaintext).toOption = some a :=
      toOption_eq_some.mpr (Authorization.decode_encode henc)
    simp only [GateKeypair.openPacket, h0, h1, hsuite, hlong, hhead, htail, heph, htag, hsec', hkey,
      hopen, hdec, hsig, hsigning, okOr_some, except_ok_bind, ne_eq, not_true_eq_false, if_false]
    rfl

/-- Signing succeeds, and the signature verifies under the client's public
key in the client's suite. -/
theorem ClientKey.sign_eq_ok (hl : lib.Lawful) (key : ClientKey lib) (rng : lib.Rng)
    (message : List UInt8) :
    ∃ sig, key.sign rng message = .ok sig ∧
      lib.verifySignature key.suite key.pub message sig.val = true := by
  cases hk : key.signer with
  | ecdsa kp =>
      have hsuite : Suite.fips = key.suite := by rw [← key.suite_eq, hk]; rfl
      have hpub : lib.ecdsaPublicKey kp = key.pub := by rw [← key.pub_eq, hk]; rfl
      obtain ⟨sig, hsig, hlen, hver⟩ := hl.ecdsaSign kp rng message
      refine ⟨⟨sig, hlen⟩, ?_, ?_⟩
      · simp only [sign, hk, hsig, okOr_some, except_ok_bind, hlen, dif_pos]
        rfl
      · rw [← hsuite, ← hpub]
        exact hver
  | ed25519 kp =>
      have hsuite : Suite.modern = key.suite := by rw [← key.suite_eq, hk]; rfl
      have hpub : lib.ed25519PublicKey kp = key.pub := by rw [← key.pub_eq, hk]; rfl
      obtain ⟨hlen, hver⟩ := hl.ed25519Sign kp message
      refine ⟨⟨lib.ed25519Sign kp message, hlen⟩, ?_, ?_⟩
      · simp only [sign, hk, except_ok_bind, hlen, dif_pos]
        rfl
      · rw [← hsuite, ← hpub]
        exact hver

/-- The signing bytes and the encoding of a request with 1 to 8 ports,
whatever ends up in the signature field. -/
theorem KnockRequest.encode_eq_ok (req : KnockRequest) (thumb : Thumbprint) (sig : Sig)
    (hports : 1 ≤ req.ports.length ∧ req.ports.length ≤ maxPorts) :
    (req.authorization thumb).signingBytes = .ok (req.authorization thumb).signingRegion ∧
      { req.authorization thumb with signature := sig }.encode =
        .ok ((req.authorization thumb).signingRegion ++ sig.val) :=
  ⟨(Authorization.signingBytes_eq_ok_iff _ _).mpr ⟨hports, rfl⟩,
    (Authorization.encode_eq_ok_iff _ _).mpr ⟨hports, rfl⟩⟩

/-- A request without 1 to 8 ports has no signing bytes. -/
theorem KnockRequest.signingBytes_toOption_eq_none (req : KnockRequest) (thumb : Thumbprint) :
    (req.authorization thumb).signingBytes.toOption = none ↔
      req.ports.length = 0 ∨ req.ports.length > maxPorts := by
  have hiff := Authorization.signingBytes_eq_ok_iff (req.authorization thumb)
  have hports : (req.authorization thumb).ports = req.ports := rfl
  cases hs : (req.authorization thumb).signingBytes with
  | error e =>
      simp only [Except.toOption, true_iff]
      by_contra hn
      have hok := (hiff _).mpr ⟨by rw [hports]; omega, rfl⟩
      rw [hs] at hok
      contradiction
  | ok bs =>
      obtain ⟨hb, -⟩ := (hiff bs).mp hs
      rw [hports] at hb
      simp only [Except.toOption, reduceCtorEq, false_iff]
      omega

/-- Sealing the envelope can only fail in the primitives. -/
theorem sealEnvelope_ne_encode (rng : lib.Rng) (gatePublic : List UInt8) (suite : Suite)
    (plaintext : List UInt8) : sealEnvelope lib rng gatePublic suite plaintext ≠ .error .encode := by
  refine except_bind_ne_error (okOr_ne_error (by decide)) fun e => ?_
  refine except_bind_ne_error (okOr_ne_error (by decide)) fun ephPub => ?_
  refine except_bind_ne_error (okOr_ne_error (by decide)) fun secret => ?_
  refine except_bind_ne_error (okOr_ne_error (by decide)) fun ⟨key, nonce⟩ => ?_
  refine except_bind_ne_error (okOr_ne_error (by decide)) fun ciphertext => ?_
  simp [pure, Except.pure]

theorem ClientKey.sign_ne_encode (key : ClientKey lib) (rng : lib.Rng) (message : List UInt8) :
    key.sign rng message ≠ .error .encode := by
  unfold sign
  cases key.signer with
  | ecdsa kp =>
      refine except_bind_ne_error (okOr_ne_error (by decide)) fun sig => ?_
      dsimp only
      split <;> simp [pure, Except.pure, throw, throwThe, MonadExceptOf.throw]
  | ed25519 kp =>
      refine except_bind_ne_error (by simp) fun sig => ?_
      dsimp only
      split <;> simp [pure, Except.pure, throw, throwThe, MonadExceptOf.throw]

/-- What `seal` does with a request that encodes: sign, then seal. -/
theorem ClientKey.sealKnock_eq (key : ClientKey lib) (rngSign rngSeal : lib.Rng)
    (gatePublic : List UInt8) (req : KnockRequest)
    (hports : 1 ≤ req.ports.length ∧ req.ports.length ≤ maxPorts) :
    key.sealKnock rngSign rngSeal gatePublic req =
      (key.sign rngSign (req.authorization key.thumbprint).signingRegion >>= fun sig =>
        sealEnvelope lib rngSeal gatePublic key.suite
          ((req.authorization key.thumbprint).signingRegion ++ sig.val)) := by
  have hsign := (req.encode_eq_ok key.thumbprint (ByteArr.fill sigLen 0) hports).1
  simp only [sealKnock, toOption_eq_some.mpr hsign, okOr_some, except_ok_bind]
  congr 1
  funext sig
  have henc := (req.encode_eq_ok key.thumbprint sig hports).2
  rw [toOption_eq_some.mpr henc, okOr_some, except_ok_bind]

/-- What `seal_psk` does with a request that encodes. -/
theorem sealPsk_eq (rng : lib.Rng) (gatePublic : List UInt8) (suite : Suite) (token : List UInt8)
    (tokenId : Thumbprint) (req : KnockRequest)
    (hports : 1 ≤ req.ports.length ∧ req.ports.length ≤ maxPorts) :
    sealPsk lib rng gatePublic suite token tokenId req =
      sealEnvelope lib rng gatePublic suite
        ((req.authorization tokenId).signingRegion ++
          (lib.hmacSha512 token (req.authorization tokenId).signingRegion).val) := by
  obtain ⟨hsign, henc⟩ := req.encode_eq_ok tokenId
    (lib.hmacSha512 token (req.authorization tokenId).signingRegion) hports
  simp only [sealPsk, toOption_eq_some.mpr hsign, toOption_eq_some.mpr henc, okOr_some,
    except_ok_bind]

/-- A knock fails to encode exactly when it has no port or more than 8. -/
theorem ClientKey.sealKnock_eq_encode_iff (key : ClientKey lib) (rngSign rngSeal : lib.Rng)
    (gatePublic : List UInt8) (req : KnockRequest) :
    key.sealKnock rngSign rngSeal gatePublic req = .error .encode ↔
      req.ports.length = 0 ∨ req.ports.length > maxPorts := by
  constructor
  · intro h
    by_contra hn
    rw [key.sealKnock_eq rngSign rngSeal gatePublic req (by omega)] at h
    exact except_bind_ne_error (key.sign_ne_encode rngSign _)
      (fun sig => sealEnvelope_ne_encode rngSeal gatePublic key.suite _) h
  · intro h
    have hnone := (req.signingBytes_toOption_eq_none key.thumbprint).mpr h
    simp only [sealKnock, hnone, okOr_none]
    rfl

/-- The same for a pre-shared-key knock. -/
theorem sealPsk_eq_encode_iff (rng : lib.Rng) (gatePublic : List UInt8) (suite : Suite)
    (token : List UInt8) (tokenId : Thumbprint) (req : KnockRequest) :
    sealPsk lib rng gatePublic suite token tokenId req = .error .encode ↔
      req.ports.length = 0 ∨ req.ports.length > maxPorts := by
  constructor
  · intro h
    by_contra hn
    rw [sealPsk_eq rng gatePublic suite token tokenId req (by omega)] at h
    exact sealEnvelope_ne_encode rng gatePublic suite _ h
  · intro h
    have hnone := (req.signingBytes_toOption_eq_none tokenId).mpr h
    simp only [sealPsk, hnone, okOr_none]
    rfl

/-- The authorization a request becomes once its authenticator is in. -/
def KnockRequest.signed (req : KnockRequest) (thumb : Thumbprint) (sig : Sig) : Authorization :=
  { req.authorization thumb with signature := sig }

/-- **Signed knock roundtrip**: the gate recovers the request, and the
signature verifies over the recovered signing bytes. -/
theorem openPacket_sealKnock (hl : lib.Lawful) (kp : GateKeypair lib) (key : ClientKey lib)
    (hsuite : key.suite = kp.suite) (rngSign rngSeal : lib.Rng) (req : KnockRequest)
    (hports : 1 ≤ req.ports.length ∧ req.ports.length ≤ maxPorts) :
    ∃ packet sig, key.sealKnock rngSign rngSeal kp.pub req = .ok packet ∧
      kp.openPacket packet =
        .ok ⟨req.signed key.thumbprint sig, (req.authorization key.thumbprint).signingRegion⟩ ∧
      lib.verifySignature kp.suite key.pub (req.authorization key.thumbprint).signingRegion
        sig.val = true := by
  obtain ⟨sig, hsig, hver⟩ := key.sign_eq_ok hl rngSign (req.authorization key.thumbprint).signingRegion
  have henc := (req.encode_eq_ok key.thumbprint sig hports).2
  obtain ⟨packet, hseal, hopen⟩ := openPacket_sealEnvelope hl kp rngSeal henc
  refine ⟨packet, sig, ?_, hopen, ?_⟩
  · rw [key.sealKnock_eq rngSign rngSeal kp.pub req hports, hsig, except_ok_bind, hsuite]
    exact hseal
  · rw [← hsuite]
    exact hver

/-- **Pre-shared-key knock roundtrip**. -/
theorem openPacket_sealPsk (hl : lib.Lawful) (kp : GateKeypair lib) (rng : lib.Rng)
    (token : List UInt8) (tokenId : Thumbprint) (req : KnockRequest)
    (hports : 1 ≤ req.ports.length ∧ req.ports.length ≤ maxPorts) :
    ∃ packet sig, sealPsk lib rng kp.pub kp.suite token tokenId req = .ok packet ∧
      kp.openPacket packet =
        .ok ⟨req.signed tokenId sig, (req.authorization tokenId).signingRegion⟩ ∧
      lib.hmacVerify token (req.authorization tokenId).signingRegion sig.val = true := by
  have henc := (req.encode_eq_ok tokenId
    (lib.hmacSha512 token (req.authorization tokenId).signingRegion) hports).2
  obtain ⟨packet, hseal, hopen⟩ := openPacket_sealEnvelope hl kp rng henc
  refine ⟨packet, _, ?_, hopen, hl.hmac token _⟩
  rw [sealPsk_eq rng kp.pub kp.suite token tokenId req hports]
  exact hseal

end

end SpaDevice
