import SpaDevice.Adapters
import SpaDevice.Envelope

/-!
# SpaDevice.Bundle

The signed policy bundle (`spa-gated/src/bundle.rs` and the entry parsers of
`config.rs`).  A bundle file is a raw Ed25519 signature followed by a TOML
payload:

```
signature(64) | payload
```

The TOML and hex decoders are third-party code and therefore a parameter
(`Decoders`).  An error is its text, as the audit log shows it.

`loadVerify_eq_ok_iff` lists every condition a file has to meet, and
`loadVerify_signBundle` says that what the signing tool writes is accepted.
-/

namespace SpaDevice

/-! ## The raw payload and its decoders -/

structure RawClient where
  thumbprintHex : String
  publicKeyHex : String
  ports : List UInt16

structure RawToken where
  tokenIdHex : String
  secretHex : String
  ports : List UInt16

/-- The payload as TOML gives it; all fields but `generation` default to
empty. -/
structure RawBundle where
  generation : UInt64
  protectedPorts : List UInt16 := []
  client : List RawClient := []
  token : List RawToken := []

/-- A verified bundle. -/
structure Bundle where
  generation : UInt64
  protectedPorts : List UInt16
  clients : List ClientEntry
  tokens : List TokenEntry

/-- Decoders from outside the repository: `toml::from_str` at the type of the
payload, `hex::decode`, and the text of the standard library's UTF-8 error. -/
structure Decoders where
  tomlFromStr : String → Except String RawBundle
  hexDecode : String → Except String (List UInt8)
  utf8Error : List UInt8 → String

namespace Decoders

variable (dec : Decoders)

/-- `hex::decode` with the field's name put before its error. -/
def hexField (s what : String) : Except String (List UInt8) :=
  (dec.hexDecode s).mapError fun e => what ++ ": " ++ e

/-- A hex field of exactly `n` bytes. -/
def hexLen (s : String) (n : Nat) (what : String) : Except String (ByteArr n) := do
  let b ← dec.hexField s what
  if h : b.length = n then return ⟨b, h⟩
  else throw (what ++ ": expected " ++ toString n ++ " bytes, got " ++ toString b.length)

/-- `hex_len` copied into an array. -/
def hexArr (n : Nat) (s what : String) : Except String (ByteArr n) := dec.hexLen s n what

def parseClient (c : RawClient) : Except String ClientEntry := do
  let thumbprint ← dec.hexArr thumbprintLen c.thumbprintHex "thumbprint_hex"
  let publicKey ← dec.hexField c.publicKeyHex "public_key_hex"
  return { thumbprint, publicKey, ports := c.ports }

def parseToken (t : RawToken) : Except String TokenEntry := do
  let tokenId ← dec.hexArr thumbprintLen t.tokenIdHex "token_id_hex"
  let secret ← dec.hexField t.secretHex "secret_hex"
  return { tokenId, secret, ports := t.ports }

/-- The first bad entry fails the whole list. -/
def parseClients (raw : List RawClient) : Except String (List ClientEntry) :=
  raw.mapM dec.parseClient

def parseTokens (raw : List RawToken) : Except String (List TokenEntry) :=
  raw.mapM dec.parseToken

end Decoders

/-- Verify the signature over the payload against the anchor, then parse the
payload.  `file` is what reading `path` gave. -/
def loadVerify (lib : AwsLc) (dec : Decoders) (path : String) (anchor : List UInt8)
    (file : Except String (List UInt8)) : Except String Bundle := do
  let data ← file.mapError fun e => "reading bundle " ++ path ++ ": " ++ e
  if data.length < sigLen then throw "bundle shorter than its signature" else do
  let sig := data.take sigLen
  let body := data.drop sigLen
  if ¬ lib.verifySignature .modern anchor body sig then throw "bundle signature invalid" else do
  let text ← okOr (dec.utf8Error body) (String.fromUTF8? body.toByteArray)
  let raw ← dec.tomlFromStr text
  let clients ← dec.parseClients raw.client
  let tokens ← dec.parseTokens raw.token
  return { generation := raw.generation, protectedPorts := raw.protectedPorts, clients, tokens }

/-- Where policy comes from in bundle mode: the file at `path`, verified under
`anchor`. -/
structure BundleSource where
  lib : AwsLc
  dec : Decoders
  path : String
  anchor : List UInt8

/-- `bundle::load_verify` on what reading the file gave. -/
def BundleSource.load (src : BundleSource) (file : Except String (List UInt8)) :
    Except String Bundle :=
  loadVerify src.lib src.dec src.path src.anchor file

/-! ## What an accepted file is -/

namespace Decoders

variable {dec : Decoders}

/-- A client entry whose hex fields decode, the thumbprint to 32 bytes. -/
def ClientDecodes (dec : Decoders) (raw : RawClient) (c : ClientEntry) : Prop :=
  dec.hexDecode raw.thumbprintHex = .ok c.thumbprint.val ∧
    dec.hexDecode raw.publicKeyHex = .ok c.publicKey ∧ c.ports = raw.ports

/-- A token entry whose hex fields decode, the id to 32 bytes. -/
def TokenDecodes (dec : Decoders) (raw : RawToken) (t : TokenEntry) : Prop :=
  dec.hexDecode raw.tokenIdHex = .ok t.tokenId.val ∧
    dec.hexDecode raw.secretHex = .ok t.secret ∧ t.ports = raw.ports

theorem hexField_eq_ok_iff {s what : String} {b : List UInt8} :
    dec.hexField s what = .ok b ↔ dec.hexDecode s = .ok b :=
  mapError_eq_ok

theorem hexArr_eq_ok_iff {s what : String} {n : Nat} {b : ByteArr n} :
    dec.hexArr n s what = .ok b ↔ dec.hexDecode s = .ok b.val := by
  have hfield : dec.hexField s what = .ok b.val ↔ dec.hexDecode s = .ok b.val := hexField_eq_ok_iff
  rw [← hfield]
  constructor
  · intro h
    obtain ⟨v, hv, h⟩ := except_bind_eq_ok.mp h
    split at h
    · rw [← Except.ok.inj h, hv]
    · contradiction
  · intro h
    refine except_bind_eq_ok.mpr ⟨b.val, h, ?_⟩
    rw [dif_pos b.property]
    rfl

theorem parseClient_eq_ok_iff (raw : RawClient) (c : ClientEntry) :
    dec.parseClient raw = .ok c ↔ dec.ClientDecodes raw c := by
  constructor
  · intro h
    obtain ⟨thumb, ht, h⟩ := except_bind_eq_ok.mp h
    obtain ⟨pk, hk, h⟩ := except_bind_eq_ok.mp h
    rw [← Except.ok.inj h]
    exact ⟨hexArr_eq_ok_iff.mp ht, hexField_eq_ok_iff.mp hk, rfl⟩
  · rintro ⟨ht, hk, hp⟩
    refine except_bind_eq_ok.mpr ⟨c.thumbprint, hexArr_eq_ok_iff.mpr ht, ?_⟩
    refine except_bind_eq_ok.mpr ⟨c.publicKey, hexField_eq_ok_iff.mpr hk, ?_⟩
    rw [← hp]
    rfl

theorem parseToken_eq_ok_iff (raw : RawToken) (t : TokenEntry) :
    dec.parseToken raw = .ok t ↔ dec.TokenDecodes raw t := by
  constructor
  · intro h
    obtain ⟨id, hi, h⟩ := except_bind_eq_ok.mp h
    obtain ⟨secret, hs, h⟩ := except_bind_eq_ok.mp h
    rw [← Except.ok.inj h]
    exact ⟨hexArr_eq_ok_iff.mp hi, hexField_eq_ok_iff.mp hs, rfl⟩
  · rintro ⟨hi, hs, hp⟩
    refine except_bind_eq_ok.mpr ⟨t.tokenId, hexArr_eq_ok_iff.mpr hi, ?_⟩
    refine except_bind_eq_ok.mpr ⟨t.secret, hexField_eq_ok_iff.mpr hs, ?_⟩
    rw [← hp]
    rfl

theorem parseClients_eq_ok_iff (raws : List RawClient) (cs : List ClientEntry) :
    dec.parseClients raws = .ok cs ↔ List.Forall₂ dec.ClientDecodes raws cs := by
  rw [parseClients, mapM_eq_ok_iff]
  simp only [parseClient_eq_ok_iff]

theorem parseTokens_eq_ok_iff (raws : List RawToken) (ts : List TokenEntry) :
    dec.parseTokens raws = .ok ts ↔ List.Forall₂ dec.TokenDecodes raws ts := by
  rw [parseTokens, mapM_eq_ok_iff]
  simp only [parseToken_eq_ok_iff]

end Decoders

/-- The conditions on a file's bytes: long enough, signed under the anchor,
UTF-8, TOML, and every hex field of every entry well formed. -/
structure Authentic (lib : AwsLc) (dec : Decoders) (anchor data : List UInt8) (b : Bundle)
    (text : String) (raw : RawBundle) : Prop where
  length : sigLen ≤ data.length
  signature : lib.verifySignature .modern anchor (data.drop sigLen) (data.take sigLen) = true
  utf8 : String.fromUTF8? (data.drop sigLen).toByteArray = some text
  toml : dec.tomlFromStr text = .ok raw
  clients : List.Forall₂ dec.ClientDecodes raw.client b.clients
  tokens : List.Forall₂ dec.TokenDecodes raw.token b.tokens
  generation : b.generation = raw.generation
  protectedPorts : b.protectedPorts = raw.protectedPorts

/-- **What `load_verify` accepts**: exactly the readable files that meet every
condition of `Authentic`. -/
theorem loadVerify_eq_ok_iff (lib : AwsLc) (dec : Decoders) (path : String) (anchor : List UInt8)
    (file : Except String (List UInt8)) (b : Bundle) :
    loadVerify lib dec path anchor file = .ok b ↔
      ∃ data text raw, file = .ok data ∧ Authentic lib dec anchor data b text raw := by
  constructor
  · intro h
    obtain ⟨data, hdata, h⟩ := except_bind_eq_ok.mp h
    obtain ⟨hlen, h⟩ := except_guard_eq_ok.mp h
    obtain ⟨hsig, h⟩ := except_guard_eq_ok.mp h
    obtain ⟨text, hutf8, h⟩ := except_bind_eq_ok.mp h
    obtain ⟨raw, htoml, h⟩ := except_bind_eq_ok.mp h
    obtain ⟨clients, hc, h⟩ := except_bind_eq_ok.mp h
    obtain ⟨tokens, ht, h⟩ := except_bind_eq_ok.mp h
    rw [← Except.ok.inj h]
    exact ⟨data, text, raw, mapError_eq_ok.mp hdata, Nat.not_lt.mp hlen, not_not.mp hsig,
      okOr_eq_ok.mp hutf8, htoml, Decoders.parseClients_eq_ok_iff _ _ |>.mp hc,
      Decoders.parseTokens_eq_ok_iff _ _ |>.mp ht, rfl, rfl⟩
  · rintro ⟨data, text, raw, rfl, ha⟩
    refine except_bind_eq_ok.mpr ⟨data, rfl, ?_⟩
    refine except_guard_eq_ok.mpr ⟨Nat.not_lt.mpr ha.length, ?_⟩
    refine except_guard_eq_ok.mpr ⟨not_not.mpr ha.signature, ?_⟩
    refine except_bind_eq_ok.mpr ⟨text, okOr_eq_ok.mpr ha.utf8, ?_⟩
    refine except_bind_eq_ok.mpr ⟨raw, ha.toml, ?_⟩
    refine except_bind_eq_ok.mpr ⟨b.clients, Decoders.parseClients_eq_ok_iff _ _ |>.mpr ha.clients, ?_⟩
    refine except_bind_eq_ok.mpr ⟨b.tokens, Decoders.parseTokens_eq_ok_iff _ _ |>.mpr ha.tokens, ?_⟩
    rw [← ha.generation, ← ha.protectedPorts]
    rfl

/-! ## What the signing tool writes -/

/-- `spa-client sign-bundle`: the detached signature of the payload, then the
payload. -/
def signBundle {lib : AwsLc} (anchor : ClientKey lib) (rng : lib.Rng) (body : List UInt8) :
    Except CryptoError (List UInt8) := do
  let sig ← anchor.sign rng body
  return sig.val ++ body

/-- **Signed bundles load**: a payload signed with the anchor's key passes
every check under the anchor's public key. -/
theorem loadVerify_signBundle {lib : AwsLc} (hl : lib.Lawful) (dec : Decoders) (path : String)
    (anchor : ClientKey lib) (hsuite : anchor.suite = .modern) (rng : lib.Rng) {text : String}
    {raw : RawBundle} {clients : List ClientEntry} {tokens : List TokenEntry}
    (htoml : dec.tomlFromStr text = .ok raw) (hclients : dec.parseClients raw.client = .ok clients)
    (htokens : dec.parseTokens raw.token = .ok tokens) :
    ∃ data, signBundle anchor rng text.toUTF8.data.toList = .ok data ∧
      loadVerify lib dec path anchor.pub (.ok data) =
        .ok ⟨raw.generation, raw.protectedPorts, clients, tokens⟩ := by
  obtain ⟨sig, hsig, hver⟩ := anchor.sign_eq_ok hl rng text.toUTF8.data.toList
  have htake : (sig.val ++ text.toUTF8.data.toList).take sigLen = sig.val :=
    List.take_left' sig.property
  have hdrop : (sig.val ++ text.toUTF8.data.toList).drop sigLen = text.toUTF8.data.toList :=
    List.drop_left' sig.property
  refine ⟨sig.val ++ text.toUTF8.data.toList, by rw [signBundle, hsig]; rfl, ?_⟩
  refine (loadVerify_eq_ok_iff _ _ _ _ _ _).mpr ⟨_, text, raw, rfl, ?_⟩
  refine ⟨?_, ?_, ?_, htoml, Decoders.parseClients_eq_ok_iff _ _ |>.mp hclients,
    Decoders.parseTokens_eq_ok_iff _ _ |>.mp htokens, rfl, rfl⟩
  · rw [List.length_append, sig.property]
    exact Nat.le_add_right _ _
  · rw [htake, hdrop, ← hsuite]
    exact hver
  · rw [hdrop, fromUTF8?_toUTF8_toList]

end SpaDevice
