import SpaDevice.Client
import SpaDevice.Knock
import SpaDevice.Pinhole
import SpaDevice.Policy
import SpaDevice.Toml

/-!
# SpaDevice.Keygen

The provisioning tool (`spa-client/src/main.rs`): `keygen` makes the keys of a
gate and of a client, `gen-token` an enrollment token, `gen-anchor` the key that
signs bundles, and each writes its half for the gate and its half for the client.

The two halves fit together.  The TOML parser is a parameter, and what is asked of it is
that it reads the lines of the configuration at hand (`ReadsToml`): the lines that were
written for the gate, with others around them.  A gate that runs inline on such a
configuration opens for the knock that the client seals from its file, whatever traffic
came before (`keygen_knock_is_opened`); it opens for the enrollment knock as long as the
token is not burned, and then never again for that token (`enrollment_opens_once`); and
a daemon that pins the printed anchor loads every payload signed with the written key
(`signed_payload_is_applied`).
-/

namespace SpaDevice

/-! ## Generating keys -/

/-- Key generation and serialisation in `aws-lc-rs`; `none` is the library's
error. -/
structure KeyGen (lib : AwsLc) where
  ecdsaGenerate : lib.Rng → Option lib.EcdsaKeyPair
  ed25519Generate : lib.Rng → Option lib.Ed25519KeyPair
  ecdsaToPkcs8 : lib.EcdsaKeyPair → Option (List UInt8)
  ed25519ToPkcs8 : lib.Ed25519KeyPair → Option (List UInt8)

/-- A serialised key pair parses as one with the same public key. -/
structure KeyGen.Lawful {lib : AwsLc} (gen : KeyGen lib) : Prop where
  ecdsa : ∀ kp doc, gen.ecdsaToPkcs8 kp = some doc →
    ∃ kp', lib.ecdsaFromPkcs8 doc = some kp' ∧ lib.ecdsaPublicKey kp' = lib.ecdsaPublicKey kp
  ed25519 : ∀ kp doc, gen.ed25519ToPkcs8 kp = some doc →
    ∃ kp', lib.ed25519FromPkcs8 doc = some kp' ∧ lib.ed25519PublicKey kp' = lib.ed25519PublicKey kp

namespace GateKeypair

variable {lib : AwsLc}

/-- The rounds of `generate_raw` that are left, the next draw being the `i`-th. -/
def generateRawFrom (suite : Suite) (draw : Nat → Option (ByteArr 32)) :
    (rounds i : Nat) → Except CryptoError (GateKeypair lib × ByteArr 32)
  | 0, _ => .error .key
  | rounds + 1, i =>
    match draw i with
    | none => .error .key
    | some raw =>
      match fromRawPrivate suite raw.val with
      | .ok kp => .ok (kp, raw)
      | .error _ => generateRawFrom suite draw rounds (i + 1)

/-- Generate a gate key with its raw private key; not every draw is one. -/
def generateRaw (suite : Suite) (draw : Nat → Option (ByteArr 32)) :
    Except CryptoError (GateKeypair lib × ByteArr 32) :=
  generateRawFrom suite draw 16 0

theorem suite_of_fromRawPrivate {suite : Suite} {raw : List UInt8} {kp : GateKeypair lib}
    (h : fromRawPrivate suite raw = .ok kp) : kp.suite = suite := by
  unfold fromRawPrivate at h
  split at h
  · contradiction
  · split at h
    · contradiction
    · rw [← Except.ok.inj h]

/-- The raw key that is returned is the one the pair was loaded from. -/
theorem generateRawFrom_eq_ok {suite : Suite} {draw : Nat → Option (ByteArr 32)} {rounds i : Nat}
    {kp : GateKeypair lib} {raw : ByteArr 32}
    (h : generateRawFrom suite draw rounds i = .ok (kp, raw)) :
    fromRawPrivate suite raw.val = .ok kp := by
  induction rounds generalizing i with
  | zero => contradiction
  | succ rounds ih =>
      unfold generateRawFrom at h
      split at h
      · contradiction
      · next raw' hdraw =>
          split at h
          · next kp' hkp =>
              obtain ⟨rfl, rfl⟩ := Prod.mk.inj (Except.ok.inj h)
              exact hkp
          · exact ih h

end GateKeypair

namespace ClientKey

variable {lib : AwsLc} (gen : KeyGen lib)

def generate (suite : Suite) (rng : lib.Rng) : Except CryptoError (ClientKey lib) :=
  match suite with
  | .fips => do
      let kp ← okOr .key (gen.ecdsaGenerate rng)
      return ofSigner (.ecdsa kp)
  | .modern => do
      let kp ← okOr .key (gen.ed25519Generate rng)
      return ofSigner (.ed25519 kp)

def toPkcs8 (key : ClientKey lib) : Except CryptoError (List UInt8) :=
  match key.signer with
  | .ed25519 kp => okOr .key (gen.ed25519ToPkcs8 kp)
  | .ecdsa kp => okOr .key (gen.ecdsaToPkcs8 kp)

variable {gen}

theorem suite_of_generate {suite : Suite} {rng : lib.Rng} {key : ClientKey lib}
    (h : generate gen suite rng = .ok key) : key.suite = suite := by
  cases suite with
  | fips =>
      obtain ⟨kp, -, h⟩ := except_bind_eq_ok.mp h
      rw [← Except.ok.inj h]
      rfl
  | modern =>
      obtain ⟨kp, -, h⟩ := except_bind_eq_ok.mp h
      rw [← Except.ok.inj h]
      rfl

/-- The public key decides the thumbprint. -/
theorem thumbprint_congr {key key' : ClientKey lib} (h : key'.pub = key.pub) :
    key'.thumbprint = key.thumbprint := by
  rw [← key'.thumbprint_eq, ← key.thumbprint_eq, h]

/-- **PKCS#8 round trip**: a written key is loaded as one with the same public key
and thumbprint. -/
theorem fromPkcs8_toPkcs8 (hg : gen.Lawful) {key : ClientKey lib} {doc : List UInt8}
    (h : key.toPkcs8 gen = .ok doc) :
    ∃ key' : ClientKey lib, fromPkcs8 key.suite doc = .ok key' ∧ key'.suite = key.suite ∧
      key'.pub = key.pub ∧ key'.thumbprint = key.thumbprint := by
  unfold toPkcs8 at h
  have hsuite := key.suite_eq
  have hpub := key.pub_eq
  cases hsigner : key.signer with
  | ecdsa kp =>
      rw [hsigner] at h hsuite hpub
      obtain ⟨kp', hparse, hkey⟩ := hg.ecdsa kp doc (okOr_eq_ok.mp h)
      have hpub' : (ofSigner (.ecdsa kp') : ClientKey lib).pub = key.pub := hkey.trans hpub
      refine ⟨ofSigner (.ecdsa kp'), ?_, hsuite, hpub', thumbprint_congr hpub'⟩
      rw [← hsuite]
      simp only [Signer.suite, fromPkcs8, hparse, okOr_some, except_ok_bind]
      rfl
  | ed25519 kp =>
      rw [hsigner] at h hsuite hpub
      obtain ⟨kp', hparse, hkey⟩ := hg.ed25519 kp doc (okOr_eq_ok.mp h)
      have hpub' : (ofSigner (.ed25519 kp') : ClientKey lib).pub = key.pub := hkey.trans hpub
      refine ⟨ofSigner (.ed25519 kp'), ?_, hsuite, hpub', thumbprint_congr hpub'⟩
      rw [← hsuite]
      simp only [Signer.suite, fromPkcs8, hparse, okOr_some, except_ok_bind]
      rfl

end ClientKey

/-! ## The commands -/

/-- The port of the development files. -/
def devPort : UInt16 := 9999

/-- What `keygen` draws: tries for the gate's key, the client's key, the gate's
id. -/
structure KeygenDraws (lib : AwsLc) where
  gateRaw : Nat → Option (ByteArr 32)
  client : lib.Rng
  gateId : Option GateId

/-- What `keygen` makes. -/
structure KeyMaterial (lib : AwsLc) where
  suiteName : String
  gate : GateKeypair lib
  gateRaw : ByteArr 32
  client : ClientKey lib
  pkcs8 : List UInt8
  gateId : GateId

section

variable {lib : AwsLc} (dec : ClientDecoders) (gen : KeyGen lib)

/-- `keygen` up to its first write. -/
def keygenMaterial (suiteName : String) (draws : KeygenDraws lib) :
    Except String (KeyMaterial lib) := do
  let suite ← (dec.parseSuite suiteName).mapError ClientError.text
  let (gate, gateRaw) ← (GateKeypair.generateRaw suite draws.gateRaw).mapError CryptoError.text
  let client ← (ClientKey.generate gen suite draws.client).mapError CryptoError.text
  let pkcs8 ← (client.toPkcs8 gen).mapError CryptoError.text
  let gateId ← okOr "rng failed" draws.gateId
  return { suiteName, gate, gateRaw, client, pkcs8, gateId }

namespace KeyMaterial

variable (m : KeyMaterial lib)

/-- The gate's half: lines of the gate's configuration. -/
def gateToml : String :=
  "suite = \"" ++ m.suiteName ++ "\"\ngate_private_hex = \"" ++ dec.hexEncode m.gateRaw.val ++
    "\"\ngate_id_hex = \"" ++ dec.hexEncode m.gateId.val ++ "\"\n\n[[client]]\nthumbprint_hex = \"" ++
    dec.hexEncode m.client.thumbprint.val ++ "\"\npublic_key_hex = \"" ++ dec.hexEncode m.client.pub ++
    "\"\nports = [" ++ toString devPort.toNat ++ "]\n"

/-- The client's half. -/
def knockFile : String :=
  renderEntries (knockEntries dec m.suiteName m.gate.pub m.gateId m.pkcs8 devPort)

end KeyMaterial

/-- `keygen`: the files it writes, in order. -/
def keygen (stem suiteName : String) (draws : KeygenDraws lib) :
    Except String (List (String × String)) := do
  let m ← keygenMaterial dec gen suiteName draws
  return [(stem ++ ".gate.toml", m.gateToml dec), (stem ++ ".knock", m.knockFile dec)]

end

/-- What `gen-token` draws. -/
structure TokenMaterial where
  tokenId : Thumbprint
  secret : ByteArr 32

namespace TokenMaterial

variable (dec : ClientDecoders) (t : TokenMaterial)

/-- The gate's half: a `[[token]]` block of its configuration. -/
def tokenToml : String :=
  "[[token]]\ntoken_id_hex = \"" ++ dec.hexEncode t.tokenId.val ++ "\"\nsecret_hex = \"" ++
    dec.hexEncode t.secret.val ++ "\"\nports = [" ++ toString devPort.toNat ++ "]\n"

/-- The client's half. -/
def enrollFile : String := renderEntries (enrollEntries dec t.tokenId t.secret.val)

end TokenMaterial

/-- `gen_token`: the files it writes, in order. -/
def genToken (dec : ClientDecoders) (stem : String) (tokenId : Option Thumbprint)
    (secret : Option (ByteArr 32)) : Except String (List (String × String)) := do
  let tokenId ← okOr "rng failed" tokenId
  let secret ← okOr "rng failed" secret
  let t : TokenMaterial := { tokenId, secret }
  return [(stem ++ ".token.toml", t.tokenToml dec), (stem ++ ".enroll", t.enrollFile dec)]

/-- A generated key: the line that is written, and the public key that is printed
for the other side. -/
structure WrittenKey where
  file : String
  publicKeyHex : String

section

variable {lib : AwsLc} (dec : ClientDecoders) (gen : KeyGen lib)

def writtenKey (suite : Suite) (rng : lib.Rng) : Except String WrittenKey := do
  let key ← (ClientKey.generate gen suite rng).mapError CryptoError.text
  let pkcs8 ← (key.toPkcs8 gen).mapError CryptoError.text
  return { file := dec.hexEncode pkcs8, publicKeyHex := dec.hexEncode key.pub }

/-- `gen_client`: a standalone client identity. -/
def genClient (suiteName : String) (rng : lib.Rng) : Except String WrittenKey := do
  let suite ← (dec.parseSuite suiteName).mapError ClientError.text
  writtenKey dec gen suite rng

/-- `gen_anchor`: a key that signs bundles. -/
def genAnchor (rng : lib.Rng) : Except String WrittenKey := writtenKey dec gen .modern rng

end

/-- A key file read back: one line of hex, white space around it ignored. -/
def readKeyFile (dec : ClientDecoders) (text : String) : Except String (List UInt8) :=
  dec.hexDecode (String.ofList (trim text.toList))

/-- `sign_bundle` on what reading the key file and the payload gave. -/
def signBundleFile {lib : AwsLc} (dec : ClientDecoders) (keyFile : Except String String)
    (payload : Except String (List UInt8)) (rng : lib.Rng) : Except String (List UInt8) := do
  let text ← keyFile
  let pkcs8 ← readKeyFile dec text
  let anchor : ClientKey lib ← (ClientKey.fromPkcs8 .modern pkcs8).mapError CryptoError.text
  let body ← payload
  (signBundle anchor rng body).mapError CryptoError.text

/-! ## The gate on the gate's half -/

/-- What `keygen` made fits together. -/
theorem keygenMaterial_eq_ok {lib : AwsLc} {dec : ClientDecoders} {gen : KeyGen lib}
    {suiteName : String} {draws : KeygenDraws lib} {m : KeyMaterial lib}
    (h : keygenMaterial dec gen suiteName draws = .ok m) :
    m.suiteName = ConfigDecoders.suiteName m.gate.suite ∧ m.client.suite = m.gate.suite ∧
      GateKeypair.fromRawPrivate m.gate.suite m.gateRaw.val = .ok m.gate ∧
      m.client.toPkcs8 gen = .ok m.pkcs8 := by
  obtain ⟨suite, hsuite, h⟩ := except_bind_eq_ok.mp h
  obtain ⟨⟨gate, gateRaw⟩, hgate, h⟩ := except_bind_eq_ok.mp h
  obtain ⟨client, hclient, h⟩ := except_bind_eq_ok.mp h
  obtain ⟨pkcs8, hpkcs8, h⟩ := except_bind_eq_ok.mp h
  obtain ⟨gateId, -, h⟩ := except_bind_eq_ok.mp h
  obtain rfl := Except.ok.inj h
  have hraw := GateKeypair.generateRawFrom_eq_ok (mapError_eq_ok.mp hgate)
  obtain rfl : gate.suite = suite := GateKeypair.suite_of_fromRawPrivate hraw
  exact ⟨dec.parseSuite_eq_ok_iff.mp (mapError_eq_ok.mp hsuite),
    ClientKey.suite_of_generate (mapError_eq_ok.mp hclient), hraw, mapError_eq_ok.mp hpkcs8⟩

/-- The two files of `keygen`. -/
theorem keygen_eq_ok {lib : AwsLc} {dec : ClientDecoders} {gen : KeyGen lib} {stem suiteName : String}
    {draws : KeygenDraws lib} {gateName gateText knockName knockText : String}
    (h : keygen dec gen stem suiteName draws = .ok [(gateName, gateText), (knockName, knockText)])
    {m : KeyMaterial lib} (hm : keygenMaterial dec gen suiteName draws = .ok m) :
    gateText = m.gateToml dec ∧ knockText = m.knockFile dec := by
  rw [keygen, hm] at h
  have hfiles := Except.ok.inj h
  simp only [List.cons.injEq, Prod.mk.injEq, and_true] at hfiles
  exact ⟨hfiles.1.2.symm, hfiles.2.2.symm⟩

/-- The two files of `gen-token`. -/
theorem genToken_eq_ok {dec : ClientDecoders} {stem : String} {t : TokenMaterial}
    {tokenName tokenText enrollName enrollText : String}
    (h : genToken dec stem (some t.tokenId) (some t.secret) =
      .ok [(tokenName, tokenText), (enrollName, enrollText)]) :
    tokenText = t.tokenToml dec ∧ enrollText = t.enrollFile dec := by
  have hfiles := Except.ok.inj h
  simp only [List.cons.injEq, Prod.mk.injEq, and_true] at hfiles
  exact ⟨hfiles.1.2.symm, hfiles.2.2.symm⟩

/-- What a file that loads describes. -/
theorem ConfigDecoders.describes_of_load {cdec : ConfigDecoders} {path text : String} {raw : RawConfig}
    {cfg : GatedConfig} (hraw : cdec.configFromStr text = .ok raw)
    (hload : cdec.load path (.ok text) = .ok cfg) : cdec.Describes raw cfg := by
  obtain ⟨text', raw', htext, hraw', hcfg⟩ := load_eq_ok_iff.mp hload
  obtain rfl := Except.ok.inj htext
  obtain rfl := Except.ok.inj (hraw.symm.trans hraw')
  exact hcfg

/-! ## The gate's half in a configuration -/

/-- The entries of the gate's half. -/
def KeyMaterial.gateEntries {lib : AwsLc} (dec : ClientDecoders) (m : KeyMaterial lib) :
    List Toml.Line :=
  [.entry "suite" (.string m.suiteName),
    .entry "gate_private_hex" (.string (dec.hexEncode m.gateRaw.val)),
    .entry "gate_id_hex" (.string (dec.hexEncode m.gateId.val)), .blank]

/-- The client's table in the gate's half. -/
def KeyMaterial.clientBlock {lib : AwsLc} (dec : ClientDecoders) (m : KeyMaterial lib) :
    List Toml.Line :=
  [.entry "thumbprint_hex" (.string (dec.hexEncode m.client.thumbprint.val)),
    .entry "public_key_hex" (.string (dec.hexEncode m.client.pub)),
    .entry "ports" (.integers [devPort.toNat])]

/-- The token's table in the gate's half. -/
def TokenMaterial.tokenBlock (dec : ClientDecoders) (t : TokenMaterial) : List Toml.Line :=
  [.entry "token_id_hex" (.string (dec.hexEncode t.tokenId.val)),
    .entry "secret_hex" (.string (dec.hexEncode t.secret.val)),
    .entry "ports" (.integers [devPort.toNat])]

/-- The gate's half, by lines. -/
def KeyMaterial.gateLines {lib : AwsLc} (dec : ClientDecoders) (m : KeyMaterial lib) :
    List Toml.Line :=
  m.gateEntries dec ++ .arrayTable "client" :: m.clientBlock dec

def TokenMaterial.tokenLines (dec : ClientDecoders) (t : TokenMaterial) : List Toml.Line :=
  .arrayTable "token" :: t.tokenBlock dec

theorem KeyMaterial.render_gateLines {lib : AwsLc} (dec : ClientDecoders) (m : KeyMaterial lib) :
    Toml.render (m.gateLines dec) = m.gateToml dec := by
  apply String.toList_inj.mp
  unfold gateToml
  simp [Toml.render, gateLines, gateEntries, clientBlock, Toml.Line.render, Toml.Value.render,
    String.join_cons]

theorem TokenMaterial.render_tokenLines (dec : ClientDecoders) (t : TokenMaterial) :
    Toml.render (t.tokenLines dec) = t.tokenToml dec := by
  apply String.toList_inj.mp
  unfold tokenToml
  simp [Toml.render, tokenLines, tokenBlock, Toml.Line.render, Toml.Value.render, String.join_cons]

/-! ## What the parser makes of the lines -/

structure RawClient.ReadFrom (raw : RawClient) (body : List Toml.Line) : Prop where
  thumbprint : Toml.Gives body "thumbprint_hex" (some (.string raw.thumbprintHex))
  publicKey : Toml.Gives body "public_key_hex" (some (.string raw.publicKeyHex))
  ports : Toml.Gives body "ports" (some (.integers (raw.ports.map UInt16.toNat)))

structure RawToken.ReadFrom (raw : RawToken) (body : List Toml.Line) : Prop where
  tokenId : Toml.Gives body "token_id_hex" (some (.string raw.tokenIdHex))
  secret : Toml.Gives body "secret_hex" (some (.string raw.secretHex))
  ports : Toml.Gives body "ports" (some (.integers (raw.ports.map UInt16.toNat)))

/-- The fields that `keygen` and `gen-token` write are what the lines give. -/
structure RawConfig.ReadFrom (raw : RawConfig) (ls : List Toml.Line) : Prop where
  suite : Toml.Gives (Toml.beforeHeader ls) "suite" (some (.string raw.suite))
  gatePrivate :
    Toml.Gives (Toml.beforeHeader ls) "gate_private_hex" (some (.string raw.gatePrivateHex))
  gateId : Toml.Gives (Toml.beforeHeader ls) "gate_id_hex" (raw.gateIdHex.map .string)
  client : List.Forall₂ (fun body c => RawClient.ReadFrom c body) (Toml.blocks "client" ls) raw.client
  token : List.Forall₂ (fun body t => RawToken.ReadFrom t body) (Toml.blocks "token" ls) raw.token

namespace ConfigDecoders

variable (cdec : ConfigDecoders)

/-- What is asked of `toml::from_str`: if the document parses, it is read by its
lines. -/
def ReadsToml (ls : List Toml.Line) : Prop :=
  ∀ raw, cdec.configFromStr (Toml.render ls) = .ok raw → raw.ReadFrom ls

/-- One of the tables `name` has this id, in hex. -/
def Lists (ls : List Toml.Line) (name key : String) (id : Thumbprint) : Prop :=
  ∃ body ∈ Toml.blocks name ls, ∃ s, .entry key (.string s) ∈ body ∧ cdec.hexDecode s = .ok id.val

variable {cdec}

theorem read_of_load {ls : List Toml.Line} (hread : cdec.ReadsToml ls) {path : String}
    {cfg : GatedConfig} (hload : cdec.load path (.ok (Toml.render ls)) = .ok cfg) :
    ∃ raw : RawConfig, raw.ReadFrom ls ∧ cdec.Describes raw cfg := by
  obtain ⟨text, raw, htext, hraw, hcfg⟩ := load_eq_ok_iff.mp hload
  obtain rfl := Except.ok.inj htext
  exact ⟨raw, hread raw hraw, hcfg⟩

end ConfigDecoders

theorem Toml.Gives.ports_eq {ls : List Line} {key : String} {ports ports' : List UInt16}
    (h : Gives ls key (some (.integers (ports.map UInt16.toNat))))
    (hmem : .entry key (.integers (ports'.map UInt16.toNat)) ∈ ls) : ports = ports' :=
  List.map_injective_iff.mpr (fun _ _ h => UInt16.toNat_inj.mp h)
    (Value.integers.inj (Option.some.inj ((h _).mp hmem)))

theorem RawClient.ReadFrom.eq {raw : RawClient} {body : List Toml.Line} (h : raw.ReadFrom body)
    {thumbprintHex publicKeyHex : String} {ports : List UInt16}
    (hthumb : .entry "thumbprint_hex" (.string thumbprintHex) ∈ body)
    (hpub : .entry "public_key_hex" (.string publicKeyHex) ∈ body)
    (hports : .entry "ports" (.integers (ports.map UInt16.toNat)) ∈ body) :
    raw = ⟨thumbprintHex, publicKeyHex, ports⟩ := by
  rw [← h.thumbprint.string_eq hthumb, ← h.publicKey.string_eq hpub, ← h.ports.ports_eq hports]

theorem RawToken.ReadFrom.eq {raw : RawToken} {body : List Toml.Line} (h : raw.ReadFrom body)
    {tokenIdHex secretHex : String} {ports : List UInt16}
    (hid : .entry "token_id_hex" (.string tokenIdHex) ∈ body)
    (hsecret : .entry "secret_hex" (.string secretHex) ∈ body)
    (hports : .entry "ports" (.integers (ports.map UInt16.toNat)) ∈ body) :
    raw = ⟨tokenIdHex, secretHex, ports⟩ := by
  rw [← h.tokenId.string_eq hid, ← h.secret.string_eq hsecret, ← h.ports.ports_eq hports]

theorem suiteName_inj {a b : Suite} (h : ConfigDecoders.suiteName a = ConfigDecoders.suiteName b) :
    a = b := by
  cases a <;> cases b <;> first | rfl | contradiction

theorem byteArr_of_hexDecode {dec : ClientDecoders} (hd : dec.Lawful) {n : Nat} {a b : ByteArr n}
    (h : dec.hexDecode (dec.hexEncode a.val) = .ok b.val) : b = a := by
  rw [hd.hexDecode_hexEncode] at h
  exact Subtype.ext (Except.ok.inj h).symm

section

variable {lib : AwsLc} {dec : ClientDecoders} (hd : dec.Lawful) {cdec : ConfigDecoders}
  (hhex : cdec.hexDecode = dec.hexDecode) {raw : RawConfig} {cfg : GatedConfig}
  (hcfg : cdec.Describes raw cfg)

include hd hhex hcfg

/-- The gate of a configuration with the gate's half. -/
theorem KeyMaterial.identity_of_read {m : KeyMaterial lib}
    (hname : m.suiteName = ConfigDecoders.suiteName m.gate.suite) {head rest : List Toml.Line}
    (hhead : Toml.Flat head) (hread : raw.ReadFrom (head ++ (m.gateLines dec ++ rest))) :
    cfg.suite = m.gate.suite ∧ cfg.gatePrivate = m.gateRaw ∧ cfg.gateId = some m.gateId := by
  have hflat : Toml.Flat (m.gateEntries dec) := by simp [Toml.Flat, gateEntries, Toml.Line.isHeader]
  have htop : ∀ l ∈ m.gateEntries dec,
      l ∈ Toml.beforeHeader (head ++ (m.gateLines dec ++ rest)) := by
    intro l hl
    rw [Toml.beforeHeader_append hhead, gateLines, List.append_assoc, Toml.beforeHeader_append hflat]
    exact List.mem_append_right _ (List.mem_append_left _ hl)
  have hsuite : raw.suite = m.suiteName := hread.suite.string_eq (htop _ List.mem_cons_self)
  have hprivate : raw.gatePrivateHex = dec.hexEncode m.gateRaw.val :=
    hread.gatePrivate.string_eq (htop _ (by simp [gateEntries]))
  have hgateId : raw.gateIdHex = some (dec.hexEncode m.gateId.val) := by
    have hsome := (hread.gateId (.string (dec.hexEncode m.gateId.val))).mp
      (htop _ (by simp [gateEntries]))
    obtain ⟨s, hs, hstring⟩ := Option.map_eq_some_iff.mp hsome
    rw [hs, Toml.Value.string.inj hstring]
  refine ⟨suiteName_inj (hcfg.suite.symm.trans (hsuite.trans hname)), ?_, ?_⟩
  · have hkey := hcfg.gatePrivate
    rw [hprivate, hhex] at hkey
    exact byteArr_of_hexDecode hd hkey
  · have hid := hcfg.gateId
    rw [hgateId, hhex] at hid
    generalize cfg.gateId = gateId at hid ⊢
    cases hid with
    | some hid => rw [byteArr_of_hexDecode hd hid]

/-- The client of a configuration with the gate's half, when no later table has its
thumbprint. -/
theorem KeyMaterial.client_of_read {m : KeyMaterial lib} {head rest : List Toml.Line}
    (hread : raw.ReadFrom (head ++ (m.gateLines dec ++ rest)))
    (hlater : ¬ cdec.Lists rest "client" "thumbprint_hex" m.client.thumbprint) :
    (clientMap cfg.clients).lookup m.client.thumbprint = some (m.client.pub, [devPort]) := by
  have hflat : Toml.Flat (m.clientBlock dec) := by simp [Toml.Flat, clientBlock, Toml.Line.isHeader]
  have hbodies := forall₂_comp hread.client hcfg.clients
  rw [gateLines, List.append_assoc, List.cons_append, ← List.append_assoc, Toml.blocks_block _ _ hflat]
    at hbodies
  refine Dict.lookup_of_forall₂ hbodies ?_ ?_
  · rintro c ⟨r, hr, hthumb, hpub, hports⟩
    obtain rfl : r = ⟨dec.hexEncode m.client.thumbprint.val, dec.hexEncode m.client.pub, [devPort]⟩ :=
      hr.eq (by simp [clientBlock]) (by simp [clientBlock]) (by simp [clientBlock])
    rw [hhex] at hthumb hpub
    rw [hports, byteArr_of_hexDecode hd hthumb,
      Except.ok.inj ((hd.hexDecode_hexEncode _).symm.trans hpub)]
  · rintro body hbody c ⟨r, hr, hthumb, -⟩ heq
    have hkey : c.thumbprint = m.client.thumbprint := heq
    exact hlater ⟨body, hbody, _, (hr.thumbprint _).mpr rfl, hkey ▸ hthumb⟩

/-- The token of a configuration with its table, when no later table has its id. -/
theorem TokenMaterial.token_of_read {t : TokenMaterial} {before rest : List Toml.Line}
    (hread : raw.ReadFrom (before ++ (t.tokenLines dec ++ rest)))
    (hlater : ¬ cdec.Lists rest "token" "token_id_hex" t.tokenId) :
    (tokenMap cfg.tokens).lookup t.tokenId = some (t.secret.val, [devPort]) := by
  have hflat : Toml.Flat (t.tokenBlock dec) := by simp [Toml.Flat, tokenBlock, Toml.Line.isHeader]
  have hbodies := forall₂_comp hread.token hcfg.tokens
  rw [tokenLines, List.cons_append, Toml.blocks_block _ _ hflat] at hbodies
  refine Dict.lookup_of_forall₂ hbodies ?_ ?_
  · rintro e ⟨r, hr, hid, hsecret, hports⟩
    obtain rfl : r = ⟨dec.hexEncode t.tokenId.val, dec.hexEncode t.secret.val, [devPort]⟩ :=
      hr.eq (by simp [tokenBlock]) (by simp [tokenBlock]) (by simp [tokenBlock])
    rw [hhex] at hid hsecret
    rw [hports, byteArr_of_hexDecode hd hid,
      Except.ok.inj ((hd.hexDecode_hexEncode _).symm.trans hsecret)]
  · rintro body hbody e ⟨r, hr, hid, -⟩ heq
    have hkey : e.tokenId = t.tokenId := heq
    exact hlater ⟨body, hbody, _, (hr.tokenId _).mpr rfl, hkey ▸ hid⟩

omit hd hhex in
/-- No client table has the id, so the client map does not either. -/
theorem lookup_clientMap_of_not_lists {ls : List Toml.Line} (hread : raw.ReadFrom ls)
    {id : Thumbprint} (hnone : ¬ cdec.Lists ls "client" "thumbprint_hex" id) :
    (clientMap cfg.clients).lookup id = none := by
  rw [clientMap, Dict.lookup_ofEntries, Option.map_eq_none_iff, List.find?_eq_none]
  intro e he
  obtain ⟨c, hc, rfl⟩ := List.mem_map.mp (List.mem_reverse.mp he)
  obtain ⟨body, hbody, r, hr, hthumb, -⟩ :=
    exists_left_of_forall₂ (forall₂_comp hread.client hcfg.clients) hc
  suffices hne : c.thumbprint ≠ id by simpa using hne
  rintro rfl
  exact hnone ⟨body, hbody, _, (hr.thumbprint _).mpr rfl, hthumb⟩

end

/-! ## Traffic at a gate whose policy stays -/

/-- Burning tokens touches nothing else. -/
theorem SharedTrust.run_consume (t : SharedTrust) (ids : List Thumbprint) :
    (run consume t ids).clients = t.clients ∧ (run consume t ids).suite = t.suite ∧
      ∀ id, (run consume t ids).tokens.lookup id =
        if id ∈ ids then none else t.tokens.lookup id := by
  induction ids generalizing t with
  | nil => simp
  | cons i ids ih =>
      obtain ⟨hclients, hsuite, htokens⟩ := ih (t.consume i)
      refine ⟨hclients, hsuite, fun id => ?_⟩
      have herase : (t.consume i).tokens.lookup id = if id = i then none else t.tokens.lookup id :=
        Dict.lookup_erase_eq _ _ _
      rw [run_cons, htokens, herase]
      by_cases hid : id = i
      · simp [hid]
      · simp [hid]

theorem SharedTrust.lookup_of_none {t : SharedTrust} {id : Thumbprint}
    (hc : t.clients.lookup id = none) (ht : t.tokens.lookup id = none) : t.lookup id = none := by
  rw [lookup, hc, ht]

namespace Gate

variable {Cr : Type} [Crypto Cr]

theorem run_traffic (g : Gate Cr) (ts : List Traffic) :
    run step g (ts.map GateEvent.traffic) = run traffic g ts := by
  induction ts generalizing g with
  | nil => rfl
  | cons t ts ih => exact ih (g.traffic t)

/-- Traffic burns tokens and does nothing else to the trust store. -/
theorem trust_run (g : Gate Cr) (ts : List Traffic) :
    (run traffic g ts).keeper.trust =
      run SharedTrust.consume g.keeper.trust (record traffic burned g ts) := by
  refine run_record (fun g : Gate Cr => g.keeper.trust) (fun g t => ?_) g ts
  rw [trust_traffic]
  cases g.burned t with
  | none => rfl
  | some id => rfl

end Gate

/-- The gate serves the policy it was started with, but for the tokens that are
gone. -/
structure ServesInline {Cr : Type} (p : GateParams) (crypto : Cr) (policy : Bundle)
    (gone : List Thumbprint) (g : Gate Cr) : Prop where
  config : g.keeper.config = p.config
  crypto : g.keeper.crypto = crypto
  suite : g.keeper.trust.suite = p.suite
  clients : g.keeper.trust.clients = clientMap policy.clients
  tokens : ∀ id, g.keeper.trust.tokens.lookup id =
    if id ∈ gone then none else (tokenMap policy.tokens).lookup id

/-- **Inline mode**: whatever traffic comes, the policy stays, and the tokens that
are gone are those that were burned. -/
theorem servesInline_run {Cr : Type} [Crypto Cr] {p : GateParams} {crypto : Cr} {policy : Bundle}
    {d : Daemon Cr} (hboot : Daemon.boot p crypto policy = .ok d) (ts : List Traffic) :
    ServesInline p crypto policy (record Gate.traffic Gate.burned d.gate ts)
      (run Gate.traffic d.gate ts) := by
  obtain ⟨protectedPorts, -, hgate, -, -⟩ := Daemon.boot_eq_ok hboot
  obtain ⟨hconfig, hcrypto⟩ := Gate.config_run d.gate (ts.map GateEvent.traffic)
  rw [Gate.run_traffic] at hconfig hcrypto
  obtain ⟨hclients, hsuite, htokens⟩ :=
    SharedTrust.run_consume d.gate.keeper.trust (record Gate.traffic Gate.burned d.gate ts)
  rw [← Gate.trust_run] at hclients hsuite htokens
  rw [hgate] at hconfig hcrypto hclients hsuite htokens
  rw [hgate]
  exact ⟨hconfig, hcrypto, hsuite, hclients, htokens⟩

/-! ## A sample provisioning -/

/-- Key generation for the primitives without secrets. -/
def transparentGen : KeyGen transparent where
  ecdsaGenerate rng := some (beArr 32 rng)
  ed25519Generate rng := some (beArr 32 rng)
  ecdsaToPkcs8 k := some k.val
  ed25519ToPkcs8 k := some k.val

theorem transparentGen_lawful : transparentGen.Lawful where
  ecdsa kp doc h := ⟨kp, by rw [← Option.some.inj h]; exact key32_val kp, rfl⟩
  ed25519 kp doc h := ⟨kp, by rw [← Option.some.inj h]; exact key32_val kp, rfl⟩

def devDecoders : ClientDecoders where
  hexEncode := SpaDevice.hexEncode
  hexDecode := SpaDevice.hexDecode
  strDebug s := "\"" ++ s ++ "\""

theorem devDecoders_lawful : devDecoders.Lawful where
  hexDecode_hexEncode := SpaDevice.hexDecode_hexEncode
  hexEncode_digits bs c hc := by
    have hall : ∀ n < 16, hexDigit n ∈ "0123456789abcdef".toList := by decide
    have hchars : c ∈ hexChars bs := by simpa [devDecoders, SpaDevice.hexEncode] using hc
    obtain ⟨b, -, hb⟩ := List.mem_flatMap.mp hchars
    have hlt := b.toNat_lt
    simp only [List.mem_cons, List.not_mem_nil, or_false] at hb
    rcases hb with rfl | rfl
    · exact hall _ (by omega)
    · exact hall _ (by omega)

/-- The keys of the sample gate and the sample client. -/
def devMaterial : KeyMaterial transparent where
  suiteName := "modern"
  gate := sampleGate
  gateRaw := beArr 32 7
  client := sampleClient 5
  pkcs8 := (beArr 32 5).val
  gateId := beArr 16 1

def devToken : TokenMaterial := ⟨beArr 32 9, beArr 32 3⟩

theorem keygenMaterial_dev :
    keygenMaterial devDecoders transparentGen "modern"
      ⟨fun _ => some (beArr 32 7), (5 : Nat), some (beArr 16 1)⟩ = .ok devMaterial := rfl

theorem keygen_dev :
    keygen devDecoders transparentGen "dev" "modern"
        ⟨fun _ => some (beArr 32 7), (5 : Nat), some (beArr 16 1)⟩ =
      .ok [("dev" ++ ".gate.toml", devMaterial.gateToml devDecoders),
        ("dev" ++ ".knock", devMaterial.knockFile devDecoders)] := rfl

theorem genToken_dev :
    genToken devDecoders "dev" (some devToken.tokenId) (some devToken.secret) =
      .ok [("dev" ++ ".token.toml", devToken.tokenToml devDecoders),
        ("dev" ++ ".enroll", devToken.enrollFile devDecoders)] := rfl

/-- What stands before the lines for the gate. -/
def devHead : List Toml.Line :=
  [.entry "interface" (.string "eth0"), .entry "knock_port" (.integer 62201),
    .entry "bpf_object" (.string "spa-ebpf.o"), .entry "protected_ports" (.integers [devPort.toNat])]

/-- The table of another client. -/
def devOtherBlock : List Toml.Line :=
  [.entry "thumbprint_hex" (.string (SpaDevice.hexEncode (sampleClient 6).thumbprint.val)),
    .entry "public_key_hex" (.string (SpaDevice.hexEncode (sampleClient 6).pub)),
    .entry "ports" (.integers [22])]

/-- What stands between the two halves. -/
def devOther : List Toml.Line := .blank :: .arrayTable "client" :: (devOtherBlock ++ [.blank])

/-- The configuration with both halves for the gate. -/
def devLines : List Toml.Line :=
  devHead ++ (devMaterial.gateLines devDecoders ++ (devOther ++ (devToken.tokenLines devDecoders ++ [])))

/-- What TOML makes of it. -/
def devRaw : RawConfig where
  interface := "eth0"
  knockPort := 62201
  suite := "modern"
  gatePrivateHex := SpaDevice.hexEncode (beArr 32 7).val
  gateIdHex := some (SpaDevice.hexEncode (beArr 16 1).val)
  bpfObject := "spa-ebpf.o"
  protectedPorts := [devPort]
  client := [⟨SpaDevice.hexEncode (sampleClient 5).thumbprint.val,
      SpaDevice.hexEncode (sampleClient 5).pub, [devPort]⟩,
    ⟨SpaDevice.hexEncode (sampleClient 6).thumbprint.val,
      SpaDevice.hexEncode (sampleClient 6).pub, [22]⟩]
  token := [⟨SpaDevice.hexEncode devToken.tokenId.val,
    SpaDevice.hexEncode devToken.secret.val, [devPort]⟩]

def devConfigDecoders : ConfigDecoders :=
  { tableDecoders [("generation = 1", ⟨1, [], [], []⟩)] with
    configFromStr := fun text =>
      if text = Toml.render devLines then .ok devRaw else .error "TOML parse error"
    strDebug := fun s => s }

def devCfg : GatedConfig where
  interface := "eth0"
  knockPort := 62201
  suite := .modern
  gatePrivate := beArr 32 7
  gateId := some (beArr 16 1)
  bpfObject := "spa-ebpf.o"
  skewSeconds := 2
  nftablesFloor := true
  configAnchor := none
  bundlePath := none
  protectedPorts := [devPort]
  clients := [⟨(sampleClient 5).thumbprint, (sampleClient 5).pub, [devPort]⟩,
    ⟨(sampleClient 6).thumbprint, (sampleClient 6).pub, [22]⟩]
  tokens := [⟨devToken.tokenId, devToken.secret.val, [devPort]⟩]
  controlPlane := none

theorem configFromStr_devLines :
    devConfigDecoders.configFromStr (Toml.render devLines) = .ok devRaw := by
  simp [devConfigDecoders]

theorem hexDecode_dev (bs : List UInt8) :
    devConfigDecoders.hexDecode (SpaDevice.hexEncode bs) = .ok bs :=
  SpaDevice.hexDecode_hexEncode bs

theorem load_devCfg :
    devConfigDecoders.load "gate.toml" (.ok (Toml.render devLines)) = .ok devCfg := by
  refine ConfigDecoders.load_eq_ok_iff.mpr ⟨_, devRaw, rfl, configFromStr_devLines, ?_⟩
  exact {
    suite := rfl
    configAnchor := .none
    gatePrivate := hexDecode_dev _
    gateId := .some (hexDecode_dev _)
    clients := .cons ⟨hexDecode_dev _, hexDecode_dev _, rfl⟩
      (.cons ⟨hexDecode_dev _, hexDecode_dev _, rfl⟩ .nil)
    tokens := .cons ⟨hexDecode_dev _, hexDecode_dev _, rfl⟩ .nil
    controlPlane := .none
    interface := rfl
    knockPort := rfl
    bpfObject := rfl
    skewSeconds := rfl
    nftablesFloor := rfl
    bundlePath := rfl
    protectedPorts := rfl }

theorem beforeHeader_devLines :
    Toml.beforeHeader devLines = devHead ++ devMaterial.gateEntries devDecoders := by
  simp [Toml.beforeHeader, devLines, devHead, KeyMaterial.gateLines, KeyMaterial.gateEntries,
    Toml.Line.isHeader]

theorem blocks_devLines :
    Toml.blocks "client" devLines =
        [devMaterial.clientBlock devDecoders ++ [.blank], devOtherBlock ++ [.blank]] ∧
      Toml.blocks "token" devLines = [devToken.tokenBlock devDecoders] := by
  constructor <;>
    simp [Toml.blocks, Toml.beforeHeader, devLines, devHead, devOther, devOtherBlock,
      KeyMaterial.gateLines, KeyMaterial.gateEntries, KeyMaterial.clientBlock,
      TokenMaterial.tokenLines, TokenMaterial.tokenBlock, Toml.Line.isHeader]

theorem RawClient.readFrom_of_lines (thumbprintHex publicKeyHex : String) (ports : List UInt16) :
    RawClient.ReadFrom ⟨thumbprintHex, publicKeyHex, ports⟩
      [.entry "thumbprint_hex" (.string thumbprintHex),
        .entry "public_key_hex" (.string publicKeyHex),
        .entry "ports" (.integers (ports.map UInt16.toNat)), .blank] := by
  constructor <;> simp [Toml.Gives, eq_comm]

/-- The sample decoder reads the lines as they are. -/
theorem devConfigDecoders_readsToml : devConfigDecoders.ReadsToml devLines := by
  intro raw hraw
  obtain rfl : devRaw = raw := Except.ok.inj (configFromStr_devLines.symm.trans hraw)
  refine ⟨?_, ?_, ?_, ?_, ?_⟩
  · intro v
    rw [beforeHeader_devLines]
    simp [devHead, KeyMaterial.gateEntries, devMaterial, devRaw, eq_comm]
  · intro v
    rw [beforeHeader_devLines]
    simp [devHead, KeyMaterial.gateEntries, devMaterial, devRaw, devDecoders, eq_comm]
  · intro v
    rw [beforeHeader_devLines]
    simp [devHead, KeyMaterial.gateEntries, devMaterial, devRaw, devDecoders, eq_comm]
  · rw [blocks_devLines.1]
    exact .cons (RawClient.readFrom_of_lines _ _ [devPort])
      (.cons (RawClient.readFrom_of_lines _ _ [22]) .nil)
  · rw [blocks_devLines.2]
    refine .cons ?_ .nil
    constructor <;> simp [Toml.Gives, TokenMaterial.tokenBlock, devDecoders, eq_comm]

/-- A `[[client]]` table of the sample has the id of its client. -/
theorem eq_of_names_client {i : Nat} {body : List Toml.Line}
    (hbody : ∀ s, .entry "thumbprint_hex" (.string s) ∈ body →
      s = SpaDevice.hexEncode (sampleClient i).thumbprint.val) {id : Thumbprint} {s : String}
    (hs : .entry "thumbprint_hex" (.string s) ∈ body)
    (hid : devConfigDecoders.hexDecode s = .ok id.val) :
    id = (sampleClient i).thumbprint := by
  rw [hbody s hs, hexDecode_dev] at hid
  exact Subtype.ext (Except.ok.inj hid).symm

theorem not_lists_later_client :
    ¬ devConfigDecoders.Lists (devOther ++ (devToken.tokenLines devDecoders ++ [])) "client"
      "thumbprint_hex" devMaterial.client.thumbprint := by
  rintro ⟨body, hbody, s, hs, hid⟩
  have hblocks : Toml.blocks "client" (devOther ++ (devToken.tokenLines devDecoders ++ [])) =
      [devOtherBlock ++ [.blank]] := by
    simp [Toml.blocks, Toml.beforeHeader, devOther, devOtherBlock, TokenMaterial.tokenLines,
      TokenMaterial.tokenBlock, Toml.Line.isHeader]
  rw [hblocks, List.mem_singleton] at hbody
  have heq := eq_of_names_client (i := 6) (by rw [hbody]; simp [devOtherBlock]) hs hid
  exact absurd heq (by decide)

theorem not_lists_token_as_client :
    ¬ devConfigDecoders.Lists devLines "client" "thumbprint_hex" devToken.tokenId := by
  rintro ⟨body, hbody, s, hs, hid⟩
  rw [blocks_devLines.1] at hbody
  simp only [List.mem_cons, List.not_mem_nil, or_false] at hbody
  rcases hbody with rfl | rfl
  · have heq := eq_of_names_client (i := 5)
      (by simp [KeyMaterial.clientBlock, devMaterial, devDecoders]) hs hid
    exact absurd heq (by decide)
  · have heq := eq_of_names_client (i := 6) (by simp [devOtherBlock]) hs hid
    exact absurd heq (by decide)

/-! ## The two halves fit -/

/-- What a knock draws when nothing fails: its nonce and its timestamp. -/
structure KnockDraws.Gives {lib : AwsLc} (draws : KnockDraws lib) (nonce : Nonce)
    (timestampNanos : UInt64) : Prop where
  nonce : draws.nonce = some nonce
  afterEpoch : 0 ≤ draws.wallNanos
  timestamp : UInt64.ofNat draws.wallNanos.toNat = timestampNanos

theorem KnockDraws.Gives.knockRequest {lib : AwsLc} {draws : KnockDraws lib} {nonce : Nonce}
    {timestampNanos : UInt64} (h : draws.Gives nonce timestampNanos) (gateId : GateId)
    (ports : List UInt16) :
    SpaDevice.knockRequest gateId ports draws = .ok { gateId, ports, nonce, timestampNanos } := by
  have hepoch : ¬ draws.wallNanos < 0 := by
    have := h.afterEpoch
    omega
  simp only [SpaDevice.knockRequest, randomNonce, nowNanos, h.nonce, hepoch, h.timestamp, okOr_some,
    if_false, except_ok_bind]
  rfl

/-- A knock that passes the checks with a nonce the cache does not remember is
opened. -/
theorem Gatekeeper.opened_of_accepts {Cr T G : Type} [Crypto Cr] [TrustStore T] [GateWriter G]
    {gk : Gatekeeper Cr T MemReplay G} {clk : Clocks} {packet : List UInt8} {opened : Opened}
    {policy : ClientPolicy} (h : gk.Accepts clk packet opened policy)
    (hfresh : ¬ gk.replay.Live clk.instant opened.auth.nonce) (source : IpAddr) :
    gk.admitPacket clk packet source =
      (.opened opened.auth.ports, gk.afterOpen clk source opened policy) := by
  have hf : gk.fresh clk opened = true := (MemReplay.admitNonce_fst_iff _ _ _).mpr hfresh
  rw [admitPacket_of_accepts h, if_pos hf]

/-- The knocker has the key and the id of the gate, and the gate lists its client. -/
structure Knocker.Known {lib : AwsLc} {R G : Type} (k : Knocker lib)
    (gk : Gatekeeper (GateKeypair lib) SharedTrust R G) (allowed : List UInt16) : Prop where
  gatePubkey : k.gatePubkey = gk.crypto.pub
  gateId : k.gateId = gk.config.gateId
  suite : k.client.suite = gk.crypto.suite
  trustSuite : gk.trust.suite = gk.crypto.suite
  registered : gk.trust.clients.lookup k.client.thumbprint = some (k.client.pub, allowed)

/-- **The knock of a known client is opened** for the ports it asks for, when it is
handled within the skew and with a nonce that the cache does not remember. -/
theorem Knocker.Known.opened {lib : AwsLc} (hl : lib.Lawful) {G : Type} [GateWriter G]
    {k : Knocker lib} {gk : Gatekeeper (GateKeypair lib) SharedTrust MemReplay G}
    {allowed : List UInt16} (h : k.Known gk allowed) {ports : List UInt16}
    (hcount : 1 ≤ ports.length ∧ ports.length ≤ maxPorts) (hreach : ∀ p ∈ ports, p ∈ allowed)
    {draws : KnockDraws lib} {nonce : Nonce} {timestampNanos : UInt64}
    (hgives : draws.Gives nonce timestampNanos) {clk : Clocks}
    (hskew : WithinSkew clk.wall timestampNanos gk.config.skewNanos)
    (hfresh : ¬ gk.replay.Live clk.instant nonce) (source : IpAddr) :
    ∃ packet opened policy, k.sealPorts ports draws = .ok packet ∧ opened.auth.ports = ports ∧
      gk.admitPacket clk packet source =
        (.opened ports, gk.afterOpen clk source opened policy) := by
  obtain ⟨packet, sig, policy, hseal, -, hacc⟩ := Gatekeeper.accepts_sealKnock hl gk h.trustSuite
    k.client h.suite draws.rngSign draws.rngSeal ⟨k.gateId, ports, nonce, timestampNanos⟩ clk h.gateId
    hskew h.registered hcount hreach
  refine ⟨packet, _, policy, ?_, rfl, Gatekeeper.opened_of_accepts hacc hfresh source⟩
  simp only [sealPorts, hgives.knockRequest, except_ok_bind, h.gatePubkey, hseal]
  rfl

/-- A knock whose credential is not found is rejected. -/
theorem Gatekeeper.rejected_of_lookup_eq_none {Cr T R G : Type} [Crypto Cr] [TrustStore T]
    [ReplayGuard R] [GateWriter G] {gk : Gatekeeper Cr T R G} {packet : List UInt8} {opened : Opened}
    (hopen : Crypto.openPacket gk.crypto packet = .ok opened)
    (hlookup : TrustStore.lookup gk.trust opened.auth.keyThumbprint = none) (clk : Clocks)
    (source : IpAddr) : ∃ reason, (gk.admitPacket clk packet source).1 = .rejected reason := by
  cases hdec : (gk.admitPacket clk packet source).1 with
  | rejected reason => exact ⟨reason, rfl⟩
  | opened ports =>
      obtain ⟨opened', policy, hacc, -⟩ := admitPacket_of_opened hdec
      obtain rfl := Except.ok.inj (hopen.symm.trans hacc.openPacket)
      have hne := hlookup.symm.trans hacc.lookup
      contradiction

/-- An accepted knock whose credential is not a client's burns it. -/
theorem Gate.burned_of_token {Cr : Type} [Crypto Cr] {g : Gate Cr} {clk : Clocks}
    {packet : List UInt8} {opened : Opened} {policy : ClientPolicy}
    (hacc : g.keeper.Accepts clk packet opened policy)
    (hfresh : ¬ g.keeper.replay.Live clk.instant opened.auth.nonce)
    (hclient : g.keeper.trust.clients.lookup opened.auth.keyThumbprint = none) (source : IpAddr) :
    g.burned (.knock clk packet source) = some opened.auth.keyThumbprint := by
  have hf : g.keeper.fresh clk opened = true := (MemReplay.admitNonce_fst_iff _ _ _).mpr hfresh
  have hsingle : policy.singleUse = true := by
    rcases SharedTrust.lookup_cases hacc.lookup with ⟨hc, -⟩ | ⟨-, -, -, hsingle⟩
    · rw [hclient] at hc
      contradiction
    · exact hsingle
  rw [burned, Gatekeeper.accepted_of_accepts hacc hf]
  simp [hsingle]

/-- In inline mode a packet that names a burned token is rejected. -/
theorem rejected_of_burned {lib : AwsLc} {p : GateParams} {kp : GateKeypair lib} {policy : Bundle}
    {d : Daemon (GateKeypair lib)} (hboot : Daemon.boot p kp policy = .ok d) {ts : List Traffic}
    {packet : List UInt8} {opened : Opened} (hopen : kp.openPacket packet = .ok opened)
    (hclient : (clientMap policy.clients).lookup opened.auth.keyThumbprint = none)
    (hburned : opened.auth.keyThumbprint ∈ record Gate.traffic Gate.burned d.gate ts) (clk : Clocks)
    (source : IpAddr) :
    ∃ reason, ((run Gate.traffic d.gate ts).keeper.admitPacket clk packet source).1 =
      .rejected reason := by
  have hserves := servesInline_run hboot ts
  refine Gatekeeper.rejected_of_lookup_eq_none (hserves.crypto ▸ hopen) ?_ clk source
  refine SharedTrust.lookup_of_none ?_ ?_
  · rw [hserves.clients]
    exact hclient
  · rw [hserves.tokens, if_pos hburned]

theorem one_port : 1 ≤ [devPort].length ∧ [devPort].length ≤ maxPorts := by decide

section

variable {lib : AwsLc} (hl : lib.Lawful) {gen : KeyGen lib} (hg : gen.Lawful) {dec : ClientDecoders}
  (hd : dec.Lawful) {cdec : ConfigDecoders} (hhex : cdec.hexDecode = dec.hexDecode)

include hl hg hd hhex

/-- **What `keygen` writes fits together**: put the lines of the gate's file into a
configuration, behind other entries and before whatever tables, with no later table for
the client's thumbprint.  A gate that runs on it inline has the id that was written;
and after any traffic the client's file loads, and the knock that it seals for its port,
within the gate's skew and with a nonce that the gate does not remember, is opened for
that port. -/
theorem keygen_knock_is_opened {stem suiteName : String} {draws : KeygenDraws lib}
    {gateName gateText knockName knockText : String}
    (hkeygen : keygen dec gen stem suiteName draws =
      .ok [(gateName, gateText), (knockName, knockText)])
    {m : KeyMaterial lib} (hm : keygenMaterial dec gen suiteName draws = .ok m)
    {head tail : List Toml.Line} (hhead : Toml.Flat head)
    (hread : cdec.ReadsToml (head ++ (m.gateLines dec ++ tail)))
    (hlater : ¬ cdec.Lists tail "client" "thumbprint_hex" m.client.thumbprint)
    {path : String} {cfg : GatedConfig}
    (hload : cdec.load path (.ok (Toml.render head ++ gateText ++ Toml.render tail)) = .ok cfg)
    {kp : GateKeypair lib}
    (hkp : GateKeypair.fromRawPrivate cfg.suite cfg.gatePrivate.val = .ok kp)
    {d : Daemon (GateKeypair lib)} (ts : List Traffic)
    (hboot : Daemon.boot (cfg.params m.gateId) kp cfg.inlinePolicy = .ok d) :
    let g := run Gate.traffic d.gate ts
    cfg.gateId = some m.gateId ∧
      ∃ knocker : Knocker lib, Knocker.fromKnockFile dec (.ok knockText) = .ok (knocker, [devPort]) ∧
        ∀ (kd : KnockDraws lib) (nonce : Nonce) (timestampNanos : UInt64) (clk : Clocks)
          (source : IpAddr), kd.Gives nonce timestampNanos →
          WithinSkew clk.wall timestampNanos g.keeper.config.skewNanos →
          ¬ g.keeper.replay.Live clk.instant nonce →
          ∃ packet, knocker.sealPorts [devPort] kd = .ok packet ∧
            (g.keeper.admitPacket clk packet source).1 = .opened [devPort] := by
  intro g
  obtain ⟨rfl, rfl⟩ := keygen_eq_ok hkeygen hm
  obtain ⟨hname, hclientSuite, hrawKey, hpkcs8⟩ := keygenMaterial_eq_ok hm
  rw [← m.render_gateLines dec, String.append_assoc, ← Toml.render_append, ← Toml.render_append]
    at hload
  obtain ⟨raw, hraw, hcfg⟩ := ConfigDecoders.read_of_load hread hload
  obtain ⟨hsuite, hpriv, hid⟩ := KeyMaterial.identity_of_read hd hhex hcfg hname hhead hraw
  have hclient := KeyMaterial.client_of_read hd hhex hcfg hraw hlater
  rw [hsuite, hpriv, hrawKey] at hkp
  obtain rfl := Except.ok.inj hkp
  obtain ⟨key, hparse, hkeySuite, hpub, hthumb⟩ := ClientKey.fromPkcs8_toPkcs8 hg hpkcs8
  have hserves := servesInline_run hboot ts
  refine ⟨hid, ⟨m.gate.pub, m.gateId, key⟩, ?_, ?_⟩
  · rw [KeyMaterial.knockFile, hname, fromKnockFile_renderEntries hd, Knocker.new, ← hclientSuite,
      hparse]
    rfl
  · intro kd nonce timestampNanos clk source hgives htime hfresh
    have hknown : Knocker.Known ⟨m.gate.pub, m.gateId, key⟩ g.keeper [devPort] := by
      refine ⟨by rw [hserves.crypto], by rw [hserves.config]; rfl, ?_, ?_, ?_⟩
      · rw [hserves.crypto]
        exact hkeySuite.trans hclientSuite
      · rw [hserves.suite, hserves.crypto]
        exact hsuite
      · rw [hserves.clients, hthumb, hpub]
        exact hclient
    obtain ⟨packet, opened, policy, hseal, -, hopened⟩ :=
      hknown.opened hl one_port (by simp) hgives htime hfresh source
    exact ⟨packet, hseal, by rw [hopened]⟩

omit hg in
/-- **What `gen-token` writes fits together**, with the files of `keygen`: put the
token's lines behind those for the gate, with no later table for the token's id and no
client table that has it.  At a gate that runs on this inline the enrollment client
loads, and its knock, within the gate's skew and with a nonce that the gate does not
remember, is opened for the port of the file as long as the token was not burned.  From
then on no packet that names the token is opened, whatever traffic comes to this
process. -/
theorem enrollment_opens_once {stem suiteName : String} {draws : KeygenDraws lib}
    {gateName gateText knockName knockText : String}
    (hkeygen : keygen dec gen stem suiteName draws =
      .ok [(gateName, gateText), (knockName, knockText)])
    {m : KeyMaterial lib} (hm : keygenMaterial dec gen suiteName draws = .ok m)
    {stem' tokenName tokenText enrollName enrollText : String} {t : TokenMaterial}
    (hgenToken : genToken dec stem' (some t.tokenId) (some t.secret) =
      .ok [(tokenName, tokenText), (enrollName, enrollText)])
    {head mid tail : List Toml.Line} (hhead : Toml.Flat head)
    (hread : cdec.ReadsToml (head ++ (m.gateLines dec ++ (mid ++ (t.tokenLines dec ++ tail)))))
    (hlater : ¬ cdec.Lists tail "token" "token_id_hex" t.tokenId)
    (hclients : ¬ cdec.Lists (head ++ (m.gateLines dec ++ (mid ++ (t.tokenLines dec ++ tail))))
      "client" "thumbprint_hex" t.tokenId) {path : String} {cfg : GatedConfig}
    (hload : cdec.load path (.ok (Toml.render head ++ gateText ++ Toml.render mid ++ tokenText ++
      Toml.render tail)) = .ok cfg) {kp : GateKeypair lib}
    (hkp : GateKeypair.fromRawPrivate cfg.suite cfg.gatePrivate.val = .ok kp)
    {d : Daemon (GateKeypair lib)} (ts : List Traffic)
    (hboot : Daemon.boot (cfg.params m.gateId) kp cfg.inlinePolicy = .ok d)
    (hunused : t.tokenId ∉ record Gate.traffic Gate.burned d.gate ts) :
    let g := run Gate.traffic d.gate ts
    ∃ enroller,
      Enroller.fromFiles dec (.ok knockText) (.ok enrollText) = .ok (enroller, [devPort]) ∧
      ∀ (kd : KnockDraws lib) (nonce : Nonce) (timestampNanos : UInt64) (clk : Clocks)
        (source : IpAddr), kd.Gives nonce timestampNanos →
        WithinSkew clk.wall timestampNanos g.keeper.config.skewNanos →
        ¬ g.keeper.replay.Live clk.instant nonce →
        ∃ packet, enroller.sealPorts [devPort] kd = .ok packet ∧
          (g.keeper.admitPacket clk packet source).1 = .opened [devPort] ∧
          ∀ (ts' : List Traffic) (clk' : Clocks) (packet' : List UInt8) (source' : IpAddr)
            (opened : Opened), kp.openPacket packet' = .ok opened →
            opened.auth.keyThumbprint = t.tokenId →
            ∃ reason, ((run Gate.traffic (g.traffic (.knock clk packet source)) ts').keeper.admitPacket
              clk' packet' source').1 = .rejected reason := by
  intro g
  obtain ⟨rfl, rfl⟩ := keygen_eq_ok hkeygen hm
  obtain ⟨rfl, rfl⟩ := genToken_eq_ok hgenToken
  obtain ⟨hname, -, hrawKey, -⟩ := keygenMaterial_eq_ok hm
  rw [← m.render_gateLines dec, ← t.render_tokenLines dec] at hload
  simp only [← Toml.render_append, List.append_assoc] at hload
  obtain ⟨raw, hraw, hcfg⟩ := ConfigDecoders.read_of_load hread hload
  obtain ⟨hsuite, hpriv, -⟩ := KeyMaterial.identity_of_read hd hhex hcfg hname hhead hraw
  have hnoclient := lookup_clientMap_of_not_lists hcfg hraw hclients
  have htoken : (tokenMap cfg.tokens).lookup t.tokenId = some (t.secret.val, [devPort]) := by
    rw [← List.append_assoc, ← List.append_assoc] at hraw
    exact TokenMaterial.token_of_read hd hhex hcfg hraw hlater
  rw [hsuite, hpriv, hrawKey] at hkp
  obtain rfl := Except.ok.inj hkp
  have hserves := servesInline_run hboot ts
  refine ⟨⟨m.gate.suite, m.gate.pub, m.gateId, t.tokenId, t.secret.val⟩, ?_, ?_⟩
  · rw [KeyMaterial.knockFile, TokenMaterial.enrollFile, hname]
    exact fromFiles_renderEntries hd _ _ _ _ _ _ _
  · intro kd nonce timestampNanos clk source hgives htime hfresh
    have hlookup : g.keeper.trust.clients.lookup t.tokenId = none := by
      rw [hserves.clients]
      exact hnoclient
    have htok : g.keeper.trust.tokens.lookup t.tokenId = some (t.secret.val, [devPort]) := by
      rw [hserves.tokens, if_neg hunused]
      exact htoken
    obtain ⟨packet, sig, policy, hseal, hpsk, -, hacc⟩ := Gatekeeper.accepts_sealPsk hl g.keeper
      kd.rngSeal ⟨m.gateId, [devPort], nonce, timestampNanos⟩ clk (by rw [hserves.config]; rfl) htime
      hlookup htok one_port (by simp)
    rw [hserves.crypto] at hseal
    have hopened := Gatekeeper.opened_of_accepts hacc hfresh source
    refine ⟨packet, ?_, by rw [hopened]; rfl, ?_⟩
    · simp only [Enroller.sealPorts, hgives.knockRequest, except_ok_bind, hseal]
      rfl
    · -- The knock burned the token, and traffic never brings it back.
      intro ts' clk' packet' source' opened' hopen' hthumb'
      have hburned : t.tokenId ∈
          record Gate.traffic Gate.burned d.gate (ts ++ .knock clk packet source :: ts') :=
        mem_record_iff.mpr ⟨ts, .knock clk packet source, ts', rfl,
          Gate.burned_of_token hacc hfresh hlookup source⟩
      have hrejected := rejected_of_burned hboot hopen' (hthumb' ▸ hnoclient) (hthumb' ▸ hburned)
        clk' source'
      rw [run_append, run_cons] at hrejected
      exact hrejected

omit hl hhex in
/-- A written key is loaded again, with white space around its line or without, as
one with the public key that was printed. -/
theorem fromPkcs8_writtenKey {suite : Suite} {rng : lib.Rng} {w : WrittenKey}
    (h : writtenKey dec gen suite rng = .ok w) {ws ws' : List Char}
    (hws : ∀ c ∈ ws, isWhitespace c = true) (hws' : ∀ c ∈ ws', isWhitespace c = true) :
    ∃ (pkcs8 : List UInt8) (key : ClientKey lib),
      readKeyFile dec (String.ofList (ws ++ w.file.toList ++ ws')) = .ok pkcs8 ∧
      ClientKey.fromPkcs8 suite pkcs8 = .ok key ∧ key.suite = suite ∧
      w.publicKeyHex = dec.hexEncode key.pub := by
  obtain ⟨key, hkey, h⟩ := except_bind_eq_ok.mp h
  obtain ⟨pkcs8, hpkcs8, h⟩ := except_bind_eq_ok.mp h
  obtain rfl := Except.ok.inj h
  obtain rfl : key.suite = suite := ClientKey.suite_of_generate (mapError_eq_ok.mp hkey)
  obtain ⟨key', hparse, hsuite, hpub, -⟩ := ClientKey.fromPkcs8_toPkcs8 hg (mapError_eq_ok.mp hpkcs8)
  refine ⟨pkcs8, key', ?_, hparse, hsuite, by rw [hpub]⟩
  rw [readKeyFile, String.toList_ofList, trim_surrounded hws (hd.noSpace pkcs8) hws',
    String.ofList_toList, hd.hexDecode_hexEncode]

/-- **What `gen-anchor` and `sign-bundle` write is applied**: every payload that
parses, signed with the written key, loads under the printed anchor, and a daemon
that watches the file under that anchor applies it over every older generation. -/
theorem signed_payload_is_applied {rng : lib.Rng} {w : WrittenKey}
    (hgen : genAnchor dec gen rng = .ok w) {ws ws' : List Char}
    (hws : ∀ c ∈ ws, isWhitespace c = true) (hws' : ∀ c ∈ ws', isWhitespace c = true)
    {anchor : List UInt8} (hanchor : cdec.hexDecode w.publicKeyHex = .ok anchor) (path : String)
    (rng' : lib.Rng) {text : String} {raw : RawBundle} {clients : List ClientEntry}
    {tokens : List TokenEntry} (htoml : cdec.tomlFromStr text = .ok raw)
    (hclients : cdec.parseClients raw.client = .ok clients)
    (htokens : cdec.parseTokens raw.token = .ok tokens) :
    let src : BundleSource := ⟨lib, cdec.toDecoders, path, anchor⟩
    let b : Bundle := ⟨raw.generation, raw.protectedPorts, clients, tokens⟩
    ∃ data, signBundleFile dec (.ok (String.ofList (ws ++ w.file.toList ++ ws')))
        (.ok text.toUTF8.data.toList) rng' = .ok data ∧
      src.load (.ok data) = .ok b ∧
      ∀ (d : Daemon (GateKeypair lib)) (order : IterOrder UInt16), d.appliedGen < raw.generation →
        (d.poll src order (.ok data)).1 = .applied raw.generation ∧
          Daemon.Holds (d.poll src order (.ok data)).2 b [] := by
  intro src b
  obtain ⟨pkcs8, key, hread, hparse, hsuite, hpub⟩ := fromPkcs8_writtenKey hg hd hgen hws hws'
  rw [hpub, hhex, hd.hexDecode_hexEncode] at hanchor
  obtain rfl := Except.ok.inj hanchor
  obtain ⟨data, hsign, hload⟩ := loadVerify_signBundle hl cdec.toDecoders path key hsuite rng' htoml
    hclients htokens
  refine ⟨data, ?_, hload, ?_⟩
  · simp only [signBundleFile, hread, hparse, except_ok_bind, hsign, Except.mapError]
  · intro d order hgen'
    have hacc : d.accepts src (.ok data) = some b := Daemon.accepts_eq_some_iff.mpr ⟨hload, hgen'⟩
    rw [Daemon.poll_of_accepts hacc]
    exact ⟨rfl, Daemon.holds_reload d order b⟩

end

/-- A knock at the time of the samples. -/
def devDraws : KnockDraws transparent := ⟨some (beArr 16 0), 1700000000000000000, (0 : Nat), (0 : Nat)⟩

theorem devDraws_gives : devDraws.Gives (beArr 16 0) sampleWall := by
  refine ⟨rfl, by decide, ?_⟩
  decide

theorem withinSkew_dev (clk : Clocks) (hwall : clk.wall = sampleWall) {config : Config}
    (hskew : config.skewNanos = sampleConfig.skewNanos) :
    WithinSkew clk.wall sampleWall config.skewNanos := by
  rw [hwall, hskew]
  exact withinSkew_sample

/-- A gate that has seen no traffic remembers no nonce. -/
theorem Gate.not_live_init {Cr : Type} (config : Config) (crypto : Cr) (trust : SharedTrust)
    (window : Nat) (nftFloor : Bool) (protectedPorts : ProtectedMap) (knockPort : UInt16)
    (now : Nat) (nonce : Nonce) :
    ¬ (init config crypto trust window nftFloor protectedPorts knockPort).keeper.replay.Live now
      nonce := by
  rintro ⟨t, ht, -⟩
  contradiction

/-- The next knock. -/
def devDrawsNext : KnockDraws transparent := { devDraws with nonce := some (beArr 16 1) }

theorem devDrawsNext_gives : devDrawsNext.Gives (beArr 16 1) sampleWall :=
  ⟨rfl, devDraws_gives.afterEpoch, devDraws_gives.timestamp⟩

def neighbourAddr : IpAddr := .v4 ⟨[192, 0, 2, 7], rfl⟩

theorem Gate.Serves.not_live {allowed : List UInt16} {n : Nat} {g : Gate (GateKeypair transparent)}
    (h : Serves allowed n g) (hn : n ≤ 1024) (now : Nat) : ¬ g.keeper.replay.Live now (beArr 16 n) := by
  rintro ⟨t, ht, -⟩
  rw [h.unseen n (Nat.le_refl n) hn] at ht
  contradiction

/-- The sample gate, once the client has knocked from another address. -/
theorem served_dev {d : Daemon (GateKeypair transparent)}
    (hboot : Daemon.boot (devCfg.params devMaterial.gateId) sampleGate devCfg.inlinePolicy = .ok d)
    (source : IpAddr) :
    d.gate.burned (.knock (sampleClocks 0) (knockFor [devPort] 0) source) = none ∧
      Gate.Serves [devPort] 1
        (d.gate.traffic (.knock (sampleClocks 0) (knockFor [devPort] 0) source)) := by
  obtain ⟨protectedPorts, -, hgate, -⟩ := Daemon.boot_eq_ok hboot
  have hclient : (clientMap devCfg.clients).lookup (sampleClient 5).thumbprint =
      some ((sampleClient 5).pub, [devPort]) := by
    have hne : (sampleClient 6).thumbprint ≠ (sampleClient 5).thumbprint := by decide
    simp [clientMap, Dict.lookup_ofEntries, devCfg, hne]
  have hserves : Gate.Serves [devPort] 0 d.gate := by
    rw [hgate]
    exact ⟨rfl, rfl, rfl, hclient, fun _ _ _ => rfl⟩
  have hallowed : ∀ p ∈ [devPort], p ∈ [devPort] := fun p hp => hp
  obtain ⟨opened, policy, hacc, -, hnonce, hsingle, -⟩ := Gatekeeper.accepts_knockFor hserves.config
    hserves.crypto hserves.suite hserves.client (rfl : (sampleClocks 0).wall = sampleWall) one_port
    hallowed 0
  have hfresh : d.gate.keeper.fresh (sampleClocks 0) opened = true :=
    Gatekeeper.fresh_of_lookup_eq_none
      (by rw [hnonce]; exact hserves.unseen 0 (Nat.le_refl 0) (Nat.zero_le _))
  refine ⟨?_, (hserves.knock (Nat.zero_le _) one_port hallowed 0 source).2⟩
  rw [Gate.burned, Gatekeeper.accepted_of_accepts hacc hfresh]
  simp [hsingle]

/-- The sample client knocks after a first knock from another address; another client's
table stands behind its own. -/
theorem keygen_knock_is_opened_sample :
    ∃ d, Daemon.boot (devCfg.params devMaterial.gateId) sampleGate devCfg.inlinePolicy = .ok d ∧
      ∃ (knocker : Knocker transparent) (packet : List UInt8),
        Knocker.fromKnockFile devDecoders (.ok (devMaterial.knockFile devDecoders)) =
          .ok (knocker, [devPort]) ∧
        knocker.sealPorts [devPort] devDrawsNext = .ok packet ∧
        ((d.gate.traffic (.knock (sampleClocks 0) (knockFor [devPort] 0) neighbourAddr)
          ).keeper.admitPacket (sampleClocks 1) packet sampleAddr).1 = .opened [devPort] := by
  obtain ⟨d, hboot⟩ := Daemon.boot_of_card_le (devCfg.params devMaterial.gateId) sampleGate
    devCfg.inlinePolicy (by decide)
  have hserves := (served_dev hboot neighbourAddr).2
  have hload : devConfigDecoders.load "gate.toml" (.ok (Toml.render devHead ++
      devMaterial.gateToml devDecoders ++
      Toml.render (devOther ++ (devToken.tokenLines devDecoders ++ [])))) = .ok devCfg := by
    rw [← devMaterial.render_gateLines, String.append_assoc, ← Toml.render_append,
      ← Toml.render_append]
    exact load_devCfg
  obtain ⟨-, knocker, hfile, hopens⟩ := keygen_knock_is_opened transparent_lawful transparentGen_lawful
    devDecoders_lawful (rfl : devConfigDecoders.hexDecode = devDecoders.hexDecode)
    keygen_dev keygenMaterial_dev (by decide : Toml.Flat devHead) devConfigDecoders_readsToml
    not_lists_later_client hload fromRawPrivate_sample
    [.knock (sampleClocks 0) (knockFor [devPort] 0) neighbourAddr] hboot
  obtain ⟨packet, hseal, hopened⟩ := hopens devDrawsNext (beArr 16 1) sampleWall (sampleClocks 1)
    sampleAddr devDrawsNext_gives
    (withinSkew_dev (sampleClocks 1) rfl (by rw [run_cons, run_nil, hserves.config]))
    (hserves.not_live (by decide) _)
  exact ⟨d, hboot, knocker, packet, hfile, hseal, hopened⟩

/-- The sample token enrolls after a knock of the client. -/
theorem enrollment_opens_once_sample :
    ∃ d, Daemon.boot (devCfg.params devMaterial.gateId) sampleGate devCfg.inlinePolicy = .ok d ∧
      ∃ enroller packet,
        Enroller.fromFiles devDecoders (.ok (devMaterial.knockFile devDecoders))
          (.ok (devToken.enrollFile devDecoders)) = .ok (enroller, [devPort]) ∧
        enroller.sealPorts [devPort] devDrawsNext = .ok packet ∧
        ((d.gate.traffic (.knock (sampleClocks 0) (knockFor [devPort] 0) neighbourAddr)
          ).keeper.admitPacket (sampleClocks 1) packet sampleAddr).1 = .opened [devPort] := by
  obtain ⟨d, hboot⟩ := Daemon.boot_of_card_le (devCfg.params devMaterial.gateId) sampleGate
    devCfg.inlinePolicy (by decide)
  obtain ⟨hburned, hserves⟩ := served_dev hboot neighbourAddr
  have hload : devConfigDecoders.load "gate.toml" (.ok (Toml.render devHead ++
      devMaterial.gateToml devDecoders ++ Toml.render devOther ++ devToken.tokenToml devDecoders ++
      Toml.render [])) = .ok devCfg := by
    rw [← devMaterial.render_gateLines, ← devToken.render_tokenLines]
    simp only [← Toml.render_append, List.append_assoc]
    exact load_devCfg
  obtain ⟨enroller, hfiles, hopens⟩ := enrollment_opens_once transparent_lawful
    devDecoders_lawful (rfl : devConfigDecoders.hexDecode = devDecoders.hexDecode)
    keygen_dev keygenMaterial_dev genToken_dev
    (by decide : Toml.Flat devHead) devConfigDecoders_readsToml
    (by rintro ⟨body, hbody, -⟩; simp [Toml.blocks] at hbody) not_lists_token_as_client hload
    fromRawPrivate_sample
    [.knock (sampleClocks 0) (knockFor [devPort] 0) neighbourAddr] hboot
    (by rw [record_cons, hburned]; simp)
  obtain ⟨packet, hseal, hopened, -⟩ := hopens devDrawsNext (beArr 16 1) sampleWall (sampleClocks 1)
    sampleAddr devDrawsNext_gives
    (withinSkew_dev (sampleClocks 1) rfl (by rw [run_cons, run_nil, hserves.config]))
    (hserves.not_live (by decide) _)
  exact ⟨d, hboot, enroller, packet, hfiles, hseal, hopened⟩

/-- The sample anchor signs an empty policy, and a daemon without policy applies
it; the key file ends in a line feed. -/
theorem signed_payload_is_applied_sample :
    ∃ (w : WrittenKey) (anchor data : List UInt8) (d : Daemon (GateKeypair transparent)),
      genAnchor devDecoders transparentGen (11 : Nat) = .ok w ∧
      devConfigDecoders.hexDecode w.publicKeyHex = .ok anchor ∧
      @signBundleFile transparent devDecoders (.ok (String.ofList (w.file.toList ++ ['\n'])))
        (.ok "generation = 1".toUTF8.data.toList) (0 : Nat) = .ok data ∧
      (d.poll ⟨transparent, devConfigDecoders.toDecoders, "policy.bundle", anchor⟩ Daemon.portOrder
        (.ok data)).1 = .applied 1 := by
  obtain ⟨d, hboot⟩ := Daemon.boot_of_card_le (devCfg.params devMaterial.gateId) sampleGate
    devCfg.inlinePolicy (by decide)
  obtain ⟨-, -, -, -, hgen⟩ := Daemon.boot_eq_ok hboot
  have hanchor := SpaDevice.hexDecode_hexEncode (sampleClient 11).pub
  have hfront : ∀ c ∈ ([] : List Char), isWhitespace c = true := by simp
  have hback : ∀ c ∈ ['\n'], isWhitespace c = true := by simp [isWhitespace]
  obtain ⟨data, hsign, -, hpoll⟩ := signed_payload_is_applied transparent_lawful transparentGen_lawful
    devDecoders_lawful (rfl : devConfigDecoders.hexDecode = devDecoders.hexDecode)
    (rfl : genAnchor devDecoders transparentGen (11 : Nat) = .ok ⟨_, _⟩) hfront hback hanchor
    "policy.bundle" (0 : Nat)
    (rfl : devConfigDecoders.tomlFromStr "generation = 1" = .ok ⟨1, [], [], []⟩) rfl rfl
  exact ⟨_, _, data, d, rfl, hanchor, hsign, (hpoll d Daemon.portOrder (by rw [hgen]; decide)).1⟩

end SpaDevice
