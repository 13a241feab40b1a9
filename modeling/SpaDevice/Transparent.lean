import SpaDevice.Bundle
import SpaDevice.Knock

/-!
# SpaDevice.Transparent

Primitives without secrets: a public key shows its private key, a signature
shows its message, and a ciphertext is the plaintext with a checksum.  They
satisfy every law the development asks of the real library
(`transparent_lawful`), so those laws are consistent, and concrete runs of the
gate can be carried out with them.

The module also has a hex codec with its roundtrip, a TOML decoder for a given
table of documents, and the keys, knocks and bundle files that the concrete
runs of the other modules share.
-/

namespace SpaDevice

/-! ## The primitives -/

/-- A 32-byte value behind the prefix that its suite's public keys have. -/
def publicOf (suite : Suite) (k : ByteArr 32) : List UInt8 :=
  match suite with
  | .fips => 4 :: (List.replicate 32 0 ++ k.val)
  | .modern => k.val

/-- The number in the last 32 bytes of a public key. -/
def publicNat (suite : Suite) (pk : List UInt8) : Nat :=
  match suite with
  | .fips => ofBe (pk.drop 33)
  | .modern => ofBe pk

/-- Key agreement by multiplication. -/
def agreeBy (suite : Suite) (k : ByteArr 32) (peer : List UInt8) : Option (List UInt8) :=
  if peer.length = ephPubLen suite then some (toBe 32 (ofBe k.val * publicNat suite peer)) else none

/-- The checksum that stands for an authentication tag. -/
def checksum (key : ByteArr 32) (nonce : ByteArr 12) (aad text : List UInt8) : List UInt8 :=
  toBe aeadTagLen (ofBe key.val + ofBe nonce.val + ofBe aad + ofBe text)

/-- A signature: the signer's key, then a digest of the message. -/
def signBy (k : ByteArr 32) (message : List UInt8) : List UInt8 := k.val ++ toBe 32 (ofBe message)

def key32 (raw : List UInt8) : Option (ByteArr 32) :=
  if h : raw.length = 32 then some ⟨raw, h⟩ else none

def transparent : AwsLc where
  Rng := Nat
  PrivateKey := ByteArr 32
  EphemeralKey := ByteArr 32
  EcdsaKeyPair := ByteArr 32
  Ed25519KeyPair := ByteArr 32
  fromPrivateKey _ raw := key32 raw
  computePublicKey suite k := some (publicOf suite k)
  agree := agreeBy
  generateEphemeral _ rng := some (beArr 32 rng)
  ephemeralPublicKey suite k := some (publicOf suite k)
  agreeEphemeral := agreeBy
  hkdfSha256 _ ikm _ len := if len ≤ 255 * 32 then some (toBe len (ofBe ikm)) else none
  aeadSeal _ key nonce aad text :=
    if text.length ≤ 2 ^ 36 - 32 then some (text ++ checksum key nonce aad text) else none
  aeadOpen _ key nonce aad ct :=
    let text := ct.take (ct.length - aeadTagLen)
    if ct = text ++ checksum key nonce aad text then some text else none
  ecdsaFromPkcs8 := key32
  ecdsaPublicKey k := publicOf .fips k
  ecdsaSign k _ message := some (signBy k message)
  ed25519FromPkcs8 := key32
  ed25519PublicKey k := publicOf .modern k
  ed25519Sign := signBy
  verifySignature suite pk message sig :=
    match key32 (sig.take 32) with
    | some k => pk = publicOf suite k ∧ sig = signBy k message
    | none => false
  hmacSha512 key message := beArr 64 (ofBe key + ofBe message)
  hmacVerify key message mac := mac = toBe 64 (ofBe key + ofBe message)
  sha256 bs := beArr 32 (ofBe bs)

theorem length_publicOf (suite : Suite) (k : ByteArr 32) :
    (publicOf suite k).length = ephPubLen suite := by
  cases suite with
  | fips => simp [publicOf, ephPubLen, k.property]
  | modern => exact k.property

theorem publicNat_publicOf (suite : Suite) (k : ByteArr 32) :
    publicNat suite (publicOf suite k) = ofBe k.val := by
  cases suite with
  | fips => simp [publicNat, publicOf]
  | modern => rfl

theorem agreeBy_publicOf (suite : Suite) (k k' : ByteArr 32) :
    agreeBy suite k (publicOf suite k') = some (toBe 32 (ofBe k.val * ofBe k'.val)) := by
  rw [agreeBy, if_pos (length_publicOf suite k'), publicNat_publicOf]

theorem key32_val (k : ByteArr 32) : key32 k.val = some k := by
  rw [key32, dif_pos k.property]

theorem verify_signBy (suite : Suite) (k : ByteArr 32) (message : List UInt8) :
    transparent.verifySignature suite (publicOf suite k) message (signBy k message) = true := by
  have htake : (signBy k message).take 32 = k.val := List.take_left' k.property
  simp [transparent, htake, key32_val]

/-- **The laws are satisfiable.** -/
theorem transparent_lawful : transparent.Lawful where
  generateEphemeral suite rng := ⟨_, rfl⟩
  ephemeralPublicKey suite rng e _ := ⟨_, rfl, length_publicOf suite e⟩
  agree_symm := by
    intro suite priv pub e ephPub hpub heph
    have hpub' : publicOf suite priv = pub := Option.some.inj hpub
    have heph' : publicOf suite e = ephPub := Option.some.inj heph
    rw [← hpub', ← heph']
    refine ⟨_, agreeBy_publicOf suite e priv, ?_⟩
    rw [Nat.mul_comm]
    exact agreeBy_publicOf suite priv e
  hkdf := by
    intro salt ikm info len hlen
    exact ⟨toBe len (ofBe ikm), by simp only [transparent, hlen, if_true], length_toBe _ _⟩
  aeadSeal := by
    intro suite key nonce aad pt hlen
    refine ⟨pt ++ checksum key nonce aad pt, by simp only [transparent, hlen, if_true], ?_⟩
    rw [List.length_append, checksum, length_toBe]
  aeadOpen_aeadSeal := by
    intro suite key nonce aad pt ct h
    simp only [transparent] at h
    split at h
    · obtain rfl := Option.some.inj h
      have htake : (pt ++ checksum key nonce aad pt).take
          ((pt ++ checksum key nonce aad pt).length - aeadTagLen) = pt := by
        rw [List.length_append, checksum, length_toBe, Nat.add_sub_cancel]
        exact List.take_left' rfl
      simp only [transparent, htake, if_true]
    · contradiction
  ecdsaSign kp rng msg := by
    refine ⟨signBy kp msg, rfl, ?_, verify_signBy .fips kp msg⟩
    simp [signBy, kp.property]
  ed25519Sign kp msg := by
    refine ⟨?_, verify_signBy .modern kp msg⟩
    simp [transparent, signBy, kp.property]
  hmac key msg := by
    simp [transparent, beArr]

/-! ## Decoders -/

def hexDigits : List Char :=
  ['0', '1', '2', '3', '4', '5', '6', '7', '8', '9', 'a', 'b', 'c', 'd', 'e', 'f']

def hexDigit (n : Nat) : Char := hexDigits.getD n '0'

/-- The value of a digit of either case. -/
def hexVal (c : Char) : Option Nat := hexDigits.idxOf? c.toLower

/-- Two digits for each byte, the high one first; `i` is the position of the
first one. -/
def hexPairs (i : Nat) : List Char → Except String (List UInt8)
  | a :: b :: rest => do
      let hi ← okOr ("Invalid character '" ++ a.toString ++ "' at position " ++ toString i) (hexVal a)
      let lo ← okOr ("Invalid character '" ++ b.toString ++ "' at position " ++ toString (i + 1))
        (hexVal b)
      let tail ← hexPairs (i + 2) rest
      return UInt8.ofNat (16 * hi + lo) :: tail
  | _ => .ok []

def hexDecode (s : String) : Except String (List UInt8) :=
  if s.toList.length % 2 = 1 then .error "Odd number of digits" else hexPairs 0 s.toList

def hexChars (bs : List UInt8) : List Char :=
  bs.flatMap fun b => [hexDigit (b.toNat / 16), hexDigit (b.toNat % 16)]

def hexEncode (bs : List UInt8) : String := String.ofList (hexChars bs)

theorem hexVal_hexDigit {n : Nat} (h : n < 16) : hexVal (hexDigit n) = some n := by
  have hall : ∀ m : Fin 16, hexVal (hexDigit m) = some m.val := by decide
  exact hall ⟨n, h⟩

theorem hexPairs_hexChars (i : Nat) (bs : List UInt8) : hexPairs i (hexChars bs) = .ok bs := by
  induction bs generalizing i with
  | nil => rfl
  | cons b bs ih =>
      have hb := b.toNat_lt
      have hchars : hexChars (b :: bs) =
          hexDigit (b.toNat / 16) :: hexDigit (b.toNat % 16) :: hexChars bs := rfl
      have hbyte : UInt8.ofNat (16 * (b.toNat / 16) + b.toNat % 16) = b := by
        rw [Nat.div_add_mod, UInt8.ofNat_toNat]
      have hhi := hexVal_hexDigit (show b.toNat / 16 < 16 by omega)
      have hlo := hexVal_hexDigit (show b.toNat % 16 < 16 by omega)
      rw [hchars, hexPairs, hhi, hlo, ih, okOr_some, okOr_some]
      simp only [except_ok_bind, hbyte]
      rfl

/-- Decoding undoes encoding. -/
theorem hexDecode_hexEncode (bs : List UInt8) : hexDecode (hexEncode bs) = .ok bs := by
  have hlen : (hexChars bs).length = 2 * bs.length := by
    induction bs with
    | nil => rfl
    | cons b bs ih =>
        have hchars : hexChars (b :: bs) =
            hexDigit (b.toNat / 16) :: hexDigit (b.toNat % 16) :: hexChars bs := rfl
        rw [hchars, List.length_cons, List.length_cons, ih, List.length_cons]
        omega
  rw [hexDecode, hexEncode, String.toList_ofList, hlen, if_neg (by omega), hexPairs_hexChars]

/-- Decoders that know the TOML documents of a table. -/
def tableDecoders (docs : List (String × RawBundle)) : Decoders where
  tomlFromStr text :=
    match docs.find? fun doc => doc.1 = text with
    | some doc => .ok doc.2
    | none => .error "TOML parse error"
  hexDecode := SpaDevice.hexDecode
  utf8Error _ := "invalid utf-8 sequence"

@[simp] theorem tableDecoders_hexDecode (docs : List (String × RawBundle)) (bs : List UInt8) :
    (tableDecoders docs).hexDecode (hexEncode bs) = .ok bs := hexDecode_hexEncode bs

/-! ## A sample gate and its knocks -/

def sampleGate : GateKeypair transparent where
  suite := .modern
  priv := beArr 32 7
  pub := publicOf .modern (beArr 32 7)
  pub_eq := rfl

/-- The client with the `k`-th key. -/
def sampleClient (k : Nat) : ClientKey transparent := ClientKey.ofSigner (.ed25519 (beArr 32 k))

def sampleConfig : Config where
  gateId := beArr 16 1
  skewNanos := 2000000000
  pinholeNanos := 30000000000

/-- The time of every sample knock. -/
def sampleWall : UInt64 := 1700000000000000000

/-- A request for port 22 with the `n`-th nonce. -/
def sampleRequest (n : Nat) : KnockRequest where
  gateId := beArr 16 1
  ports := [22]
  nonce := beArr 16 n
  timestampNanos := sampleWall

/-- The trust store with the client and token of the samples. -/
def sampleClients : List ClientEntry := [⟨(sampleClient 5).thumbprint, (sampleClient 5).pub, [22]⟩]

def sampleToken : TokenEntry := ⟨beArr 32 9, [1, 2, 3], [22]⟩

def sampleTrust : SharedTrust :=
  ((SharedTrust.new .modern).set sampleClients).setTokens [sampleToken]

/-- The client's knock with the `n`-th nonce. -/
def sampleKnock (n : Nat) : List UInt8 :=
  ((sampleClient 5).sealKnock (0 : Nat) (0 : Nat) sampleGate.pub (sampleRequest n)).toOption.getD []

/-- The client's knock for the given ports with the `n`-th nonce. -/
def knockFor (ports : List UInt16) (n : Nat) : List UInt8 :=
  ((sampleClient 5).sealKnock (0 : Nat) (0 : Nat) sampleGate.pub
    { sampleRequest n with ports }).toOption.getD []

/-- The token's knock with the `n`-th nonce. -/
def samplePsk (n : Nat) : List UInt8 :=
  (sealPsk transparent (0 : Nat) sampleGate.pub sampleGate.suite sampleToken.secret sampleToken.tokenId
    (sampleRequest n)).toOption.getD []

/-- The sample nonces and addresses are different ones. -/
theorem beArr_ne {i j : Nat} (hi : i ≤ 1024) (hj : j ≤ 1024) (h : i ≠ j) :
    beArr 16 i ≠ beArr 16 j := by
  have hpow : 1024 < 256 ^ 16 := by decide
  exact fun heq => h (beArr_inj (by omega) (by omega) heq)

theorem lookup_sampleClients :
    (clientMap sampleClients).lookup (sampleClient 5).thumbprint =
      some ((sampleClient 5).pub, [22]) := by
  rw [clientMap, Dict.lookup_ofEntries]
  simp [sampleClients]

theorem lookup_sampleToken :
    (tokenMap [sampleToken]).lookup sampleToken.tokenId = some (sampleToken.secret, [22]) := by
  rw [tokenMap, Dict.lookup_ofEntries]
  simp [sampleToken]

theorem lookup_sampleToken_clients :
    (clientMap sampleClients).lookup sampleToken.tokenId = none := by
  have hne : ¬ (sampleClient 5).thumbprint = sampleToken.tokenId := by decide
  rw [clientMap, Dict.lookup_ofEntries]
  simp [sampleClients, hne]

theorem sampleRequest_ports (n : Nat) :
    1 ≤ (sampleRequest n).ports.length ∧ (sampleRequest n).ports.length ≤ maxPorts := by
  change 1 ≤ 1 ∧ 1 ≤ 8
  decide

theorem withinSkew_sample : WithinSkew sampleWall sampleWall sampleConfig.skewNanos := by
  unfold WithinSkew
  omega

namespace Gatekeeper

/-- A gate that knows the sample client accepts its knocks for ports it may
reach. -/
theorem accepts_knockFor {R G : Type}
    {gk : Gatekeeper (GateKeypair transparent) SharedTrust R G} (hconfig : gk.config = sampleConfig)
    (hcrypto : gk.crypto = sampleGate) (hsuite : gk.trust.suite = .modern) {allowed : List UInt16}
    (hclient : gk.trust.clients.lookup (sampleClient 5).thumbprint =
      some ((sampleClient 5).pub, allowed))
    {clk : Clocks} (hwall : clk.wall = sampleWall) {ports : List UInt16}
    (hports : 1 ≤ ports.length ∧ ports.length ≤ maxPorts) (hallowed : ∀ p ∈ ports, p ∈ allowed)
    (n : Nat) :
    ∃ opened policy, gk.Accepts clk (knockFor ports n) opened policy ∧
      opened.auth.ports = ports ∧ opened.auth.nonce = beArr 16 n ∧ policy.singleUse = false ∧
      opened.auth.keyThumbprint = (sampleClient 5).thumbprint := by
  obtain ⟨packet, sig, policy, hseal, hsingle, hacc⟩ :=
    accepts_sealKnock transparent_lawful gk (by rw [hsuite, hcrypto]; rfl) (sampleClient 5)
      (by rw [hcrypto]; rfl) (0 : Nat) (0 : Nat) { sampleRequest n with ports } clk
      (by rw [hconfig]; rfl) (by rw [hconfig, hwall]; exact withinSkew_sample) hclient hports hallowed
  have hknock : knockFor ports n = packet := by
    rw [hcrypto] at hseal
    rw [knockFor, hseal]
    rfl
  rw [hknock]
  exact ⟨_, policy, hacc, rfl, rfl, hsingle, rfl⟩

/-- A gate that knows the sample client accepts its knocks. -/
theorem accepts_sampleKnock {R G : Type}
    {gk : Gatekeeper (GateKeypair transparent) SharedTrust R G} (hconfig : gk.config = sampleConfig)
    (hcrypto : gk.crypto = sampleGate) (hsuite : gk.trust.suite = .modern)
    (hclients : gk.trust.clients = clientMap sampleClients) {clk : Clocks}
    (hwall : clk.wall = sampleWall) (n : Nat) :
    ∃ opened policy, gk.Accepts clk (sampleKnock n) opened policy ∧
      opened.auth.ports = [22] ∧ opened.auth.nonce = beArr 16 n ∧ policy.singleUse = false ∧
      opened.auth.keyThumbprint = (sampleClient 5).thumbprint :=
  accepts_knockFor hconfig hcrypto hsuite (by rw [hclients]; exact lookup_sampleClients) hwall
    (sampleRequest_ports n) (by simp [sampleRequest]) n

/-- A gate that holds the sample token accepts its knocks. -/
theorem accepts_samplePsk {R G : Type}
    {gk : Gatekeeper (GateKeypair transparent) SharedTrust R G} (hconfig : gk.config = sampleConfig)
    (hcrypto : gk.crypto = sampleGate) (hclient : gk.trust.clients.lookup sampleToken.tokenId = none)
    (htoken : gk.trust.tokens.lookup sampleToken.tokenId = some (sampleToken.secret, [22]))
    {clk : Clocks} (hwall : clk.wall = sampleWall) (n : Nat) :
    ∃ opened policy, gk.Accepts clk (samplePsk n) opened policy ∧
      opened.auth.keyThumbprint = sampleToken.tokenId ∧ opened.auth.nonce = beArr 16 n ∧
      policy.publicKey = sampleToken.secret ∧ policy.auth = .psk ∧ opened.auth.ports = [22] := by
  obtain ⟨packet, sig, policy, hseal, hpsk, hsecret, hacc⟩ :=
    accepts_sealPsk transparent_lawful gk (0 : Nat) (sampleRequest n) clk (by rw [hconfig]; rfl)
      (by rw [hconfig, hwall]; exact withinSkew_sample)
      hclient htoken (sampleRequest_ports n) (by simp [sampleRequest])
  have hpacket : samplePsk n = packet := by
    rw [hcrypto] at hseal
    rw [samplePsk, hseal]
    rfl
  rw [hpacket]
  exact ⟨_, policy, hacc, rfl, rfl, hsecret, hpsk, rfl⟩

/-- The sample gate's core before any traffic, with a window of 5 seconds. -/
def sample : Gatekeeper (GateKeypair transparent) SharedTrust MemReplay BpfGateWriter where
  config := sampleConfig
  crypto := sampleGate
  trust := sampleTrust
  replay := MemReplay.new 5000000000
  gate := { allow := BoundedDict.empty, nftFloor := false, floor := [] }

/-- A new nonce is fresh. -/
theorem fresh_of_lookup_eq_none {Cr T G : Type} {gk : Gatekeeper Cr T MemReplay G} {clk : Clocks}
    {opened : Opened} (hnew : gk.replay.seen.lookup opened.auth.nonce = none) :
    gk.fresh clk opened = true := by
  refine (MemReplay.admitNonce_fst_iff _ _ _).mpr ?_
  rintro ⟨t, ht, -⟩
  rw [hnew] at ht
  contradiction

/-- The sample gate opens for the client's knock when its nonce is new. -/
theorem admitPacket_sampleKnock {G : Type} [GateWriter G]
    (gk : Gatekeeper (GateKeypair transparent) SharedTrust MemReplay G) (clk : Clocks) (n : Nat)
    (hconfig : gk.config = sampleConfig) (hcrypto : gk.crypto = sampleGate)
    (hsuite : gk.trust.suite = .modern) (hclients : gk.trust.clients = clientMap sampleClients)
    (hwall : clk.wall = sampleWall)
    (hnew : gk.replay.seen.lookup (beArr 16 n) = none) (source : IpAddr) :
    ∃ opened policy, gk.accepted clk (sampleKnock n) source = some (opened, policy) ∧
      opened.auth.ports = [22] ∧ opened.auth.nonce = beArr 16 n ∧ policy.singleUse = false := by
  obtain ⟨opened, policy, hacc, hports, hnonce, hsingle, -⟩ :=
    accepts_sampleKnock hconfig hcrypto hsuite hclients hwall n
  have hfresh : gk.fresh clk opened = true := fresh_of_lookup_eq_none (by rw [hnonce]; exact hnew)
  exact ⟨opened, policy, accepted_of_accepts hacc hfresh source, hports, hnonce, hsingle⟩

end Gatekeeper

/-- The clocks of a sample knock at a time given in seconds of both monotonic
clocks. -/
def sampleClocks (secs : Nat) : Clocks where
  wall := sampleWall
  instant := secs * 1000000000
  mono := UInt64.ofNat (secs * 1000000000)

def sampleAddr : IpAddr := .v4 ⟨[192, 0, 2, 1], rfl⟩

/-! ## Sample bundle files -/

/-- The key that signs the sample bundles. -/
def sampleAnchor : ClientKey transparent := sampleClient 11

def sampleSource (docs : List (String × RawBundle)) : BundleSource where
  lib := transparent
  dec := tableDecoders docs
  path := "/etc/spa/bundle.spa"
  anchor := sampleAnchor.pub

/-- The file that signing a document gives. -/
def signedFile (text : String) : List UInt8 :=
  (signBundle sampleAnchor (0 : Nat) text.toUTF8.data.toList).toOption.getD []

/-- A signed document of the table loads as the bundle it describes. -/
theorem load_signedFile (docs : List (String × RawBundle)) {text : String} (raw : RawBundle)
    {clients : List ClientEntry} {tokens : List TokenEntry}
    (hdoc : docs.find? (fun doc => doc.1 = text) = some (text, raw))
    (hclients : (tableDecoders docs).parseClients raw.client = .ok clients)
    (htokens : (tableDecoders docs).parseTokens raw.token = .ok tokens) :
    (sampleSource docs).load (.ok (signedFile text)) =
      .ok ⟨raw.generation, raw.protectedPorts, clients, tokens⟩ := by
  have htoml : (tableDecoders docs).tomlFromStr text = .ok raw := by
    simp only [tableDecoders, hdoc]
  obtain ⟨data, hsign, hload⟩ := loadVerify_signBundle transparent_lawful (tableDecoders docs)
    "/etc/spa/bundle.spa" sampleAnchor rfl (0 : Nat) htoml hclients htokens
  have hfile : signedFile text = data := by
    rw [signedFile, hsign]
    rfl
  rw [hfile]
  exact hload

/-- Two documents that differ in their generation only. -/
def sampleDocs : List (String × RawBundle) :=
  [("generation = 1\n", { generation := 1 }), ("generation = 2\n", { generation := 2 })]

theorem load_generation_one :
    (sampleSource sampleDocs).load (.ok (signedFile "generation = 1\n")) = .ok ⟨1, [], [], []⟩ :=
  load_signedFile sampleDocs { generation := 1 } (by simp [sampleDocs]) rfl rfl

theorem load_generation_two :
    (sampleSource sampleDocs).load (.ok (signedFile "generation = 2\n")) = .ok ⟨2, [], [], []⟩ :=
  load_signedFile sampleDocs { generation := 2 } (by simp [sampleDocs]) rfl rfl

end SpaDevice
