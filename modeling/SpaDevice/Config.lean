import SpaDevice.Daemon

/-!
# SpaDevice.Config

The bootstrap configuration of the daemon (`spa-gated/src/config.rs`): a TOML
file with the static bits of a gate, an inline policy, and where a signed policy
may come from instead.

`load_eq_ok_iff` says which files load and what the loaded configuration is.
Keys and ids have their length by type, and the control plane's URL carries the
proof that it is an HTTPS one.
-/

namespace SpaDevice

/-! ## The file -/

structure RawControlPlane where
  url : String
  gateToken : String
  address : String
  caCert : Option String := none

/-- The file as TOML gives it, with the defaults of its optional fields. -/
structure RawConfig where
  interface : String
  knockPort : UInt16
  suite : String
  gatePrivateHex : String
  gateIdHex : Option String := none
  bpfObject : String
  skewSeconds : UInt64 := 2
  nftablesFloor : Bool := true
  configAnchorHex : Option String := none
  bundlePath : Option String := none
  protectedPorts : List UInt16 := []
  client : List RawClient := []
  token : List RawToken := []
  controlPlane : Option RawControlPlane := none

/-- The decoders of the configuration: those of a bundle, `toml::from_str` at the
type of the file, and the `{:?}` form of a string. -/
structure ConfigDecoders extends Decoders where
  configFromStr : String → Except String RawConfig
  strDebug : String → String

/-! ## The configuration -/

/-- `str::starts_with("https://")`. -/
def IsHttps (url : String) : Prop := "https://".toList <+: url.toList

instance (url : String) : Decidable (IsHttps url) :=
  inferInstanceAs (Decidable ("https://".toList <+: url.toList))

/-- The control-plane endpoint a gate provisions itself from. -/
structure ControlPlane where
  url : String
  gateToken : String
  address : String
  caCert : Option String
  https : IsHttps url

/-- `config::Config`. -/
structure GatedConfig where
  interface : String
  knockPort : UInt16
  suite : Suite
  gatePrivate : ByteArr 32
  gateId : Option GateId
  bpfObject : String
  skewSeconds : UInt64
  nftablesFloor : Bool
  configAnchor : Option (List UInt8)
  bundlePath : Option String
  protectedPorts : List UInt16
  clients : List ClientEntry
  tokens : List TokenEntry
  controlPlane : Option ControlPlane

/-- What start-up hands on, once the gate's id is known. -/
def GatedConfig.params (cfg : GatedConfig) (gateId : GateId) : GateParams where
  gateId := gateId
  suite := cfg.suite
  skewSeconds := cfg.skewSeconds
  knockPort := cfg.knockPort
  nftablesFloor := cfg.nftablesFloor

namespace ConfigDecoders

variable (dec : ConfigDecoders)

def parseSuite (name : String) : Except String Suite :=
  if name = "fips" then .ok .fips
  else if name = "modern" then .ok .modern
  else .error ("unknown suite " ++ dec.strDebug name)

def parseControlPlane (c : RawControlPlane) : Except String ControlPlane :=
  if h : IsHttps c.url then
    .ok { url := c.url, gateToken := c.gateToken, address := c.address, caCert := c.caCert, https := h }
  else .error ("control_plane.url must be https:// (got " ++ dec.strDebug c.url ++ ")")

/-- `Config::load` on what reading `path` gave. -/
def load (path : String) (file : Except String String) : Except String GatedConfig := do
  let text ← file.mapError fun e => "reading config " ++ path ++ ": " ++ e
  let raw ← (dec.configFromStr text).mapError fun e => "parsing config " ++ path ++ ": " ++ e
  let suite ← dec.parseSuite raw.suite
  let configAnchor ← raw.configAnchorHex.mapM fun h => dec.hexField h "config_anchor_hex"
  let gatePrivate ← dec.hexLen raw.gatePrivateHex 32 "gate_private_hex"
  let gateId ← raw.gateIdHex.mapM fun h => dec.hexArr gateIdLen h "gate_id_hex"
  let clients ← dec.parseClients raw.client
  let tokens ← dec.parseTokens raw.token
  let controlPlane ← raw.controlPlane.mapM dec.parseControlPlane
  return {
    interface := raw.interface, knockPort := raw.knockPort, suite, gatePrivate, gateId
    bpfObject := raw.bpfObject, skewSeconds := raw.skewSeconds, nftablesFloor := raw.nftablesFloor
    configAnchor, bundlePath := raw.bundlePath, protectedPorts := raw.protectedPorts, clients, tokens
    controlPlane }

/-! ## What loads -/

/-- The name of a suite in the file. -/
def suiteName : Suite → String
  | .fips => "fips"
  | .modern => "modern"

/-- A control-plane section is taken over as it is. -/
def SameEndpoint (raw : RawControlPlane) (cp : ControlPlane) : Prop :=
  cp.url = raw.url ∧ cp.gateToken = raw.gateToken ∧ cp.address = raw.address ∧ cp.caCert = raw.caCert

/-- The configuration that a file describes. -/
structure Describes (raw : RawConfig) (cfg : GatedConfig) : Prop where
  suite : raw.suite = suiteName cfg.suite
  configAnchor : Option.Rel (fun h b => dec.hexDecode h = .ok b) raw.configAnchorHex cfg.configAnchor
  gatePrivate : dec.hexDecode raw.gatePrivateHex = .ok cfg.gatePrivate.val
  gateId : Option.Rel (fun h id => dec.hexDecode h = .ok id.val) raw.gateIdHex cfg.gateId
  clients : List.Forall₂ dec.ClientDecodes raw.client cfg.clients
  tokens : List.Forall₂ dec.TokenDecodes raw.token cfg.tokens
  controlPlane : Option.Rel SameEndpoint raw.controlPlane cfg.controlPlane
  interface : cfg.interface = raw.interface
  knockPort : cfg.knockPort = raw.knockPort
  bpfObject : cfg.bpfObject = raw.bpfObject
  skewSeconds : cfg.skewSeconds = raw.skewSeconds
  nftablesFloor : cfg.nftablesFloor = raw.nftablesFloor
  bundlePath : cfg.bundlePath = raw.bundlePath
  protectedPorts : cfg.protectedPorts = raw.protectedPorts

variable {dec}

theorem parseSuite_eq_ok_iff {name : String} {suite : Suite} :
    dec.parseSuite name = .ok suite ↔ name = suiteName suite := by
  unfold parseSuite
  constructor
  · intro h
    split at h
    · next hname => rw [← Except.ok.inj h, hname]; rfl
    · split at h
      · next hname => rw [← Except.ok.inj h, hname]; rfl
      · contradiction
  · rintro rfl
    cases suite with
    | fips => rfl
    | modern => rfl

theorem parseControlPlane_eq_ok_iff {raw : RawControlPlane} {cp : ControlPlane} :
    dec.parseControlPlane raw = .ok cp ↔ SameEndpoint raw cp := by
  unfold parseControlPlane
  constructor
  · intro h
    split at h
    · rw [← Except.ok.inj h]
      exact ⟨rfl, rfl, rfl, rfl⟩
    · contradiction
  · obtain ⟨url, gateToken, address, caCert⟩ := raw
    rintro ⟨rfl, rfl, rfl, rfl⟩
    rw [dif_pos cp.https]

theorem mapM_hexField_eq_ok_iff {x : Option String} {what : String} {y : Option (List UInt8)} :
    x.mapM (fun h => dec.hexField h what) = .ok y ↔
      Option.Rel (fun h b => dec.hexDecode h = .ok b) x y := by
  rw [optionMapM_eq_ok_iff]
  simp only [Decoders.hexField_eq_ok_iff]

theorem mapM_hexArr_eq_ok_iff {x : Option String} {n : Nat} {what : String}
    {y : Option (ByteArr n)} :
    x.mapM (fun h => dec.hexArr n h what) = .ok y ↔
      Option.Rel (fun h b => dec.hexDecode h = .ok b.val) x y := by
  rw [optionMapM_eq_ok_iff]
  simp only [Decoders.hexArr_eq_ok_iff]

theorem mapM_parseControlPlane_eq_ok_iff {x : Option RawControlPlane} {y : Option ControlPlane} :
    x.mapM dec.parseControlPlane = .ok y ↔ Option.Rel SameEndpoint x y := by
  rw [optionMapM_eq_ok_iff]
  simp only [parseControlPlane_eq_ok_iff]

/-- **What loads**: exactly the readable TOML files whose hex fields, suite and
control-plane URL are well formed, each as the configuration it describes. -/
theorem load_eq_ok_iff {path : String} {file : Except String String} {cfg : GatedConfig} :
    dec.load path file = .ok cfg ↔
      ∃ text raw, file = .ok text ∧ dec.configFromStr text = .ok raw ∧ dec.Describes raw cfg := by
  constructor
  · intro h
    obtain ⟨text, htext, h⟩ := except_bind_eq_ok.mp h
    obtain ⟨raw, hraw, h⟩ := except_bind_eq_ok.mp h
    obtain ⟨suite, hsuite, h⟩ := except_bind_eq_ok.mp h
    obtain ⟨anchor, hanchor, h⟩ := except_bind_eq_ok.mp h
    obtain ⟨key, hkey, h⟩ := except_bind_eq_ok.mp h
    obtain ⟨gateId, hid, h⟩ := except_bind_eq_ok.mp h
    obtain ⟨clients, hclients, h⟩ := except_bind_eq_ok.mp h
    obtain ⟨tokens, htokens, h⟩ := except_bind_eq_ok.mp h
    obtain ⟨cp, hcp, h⟩ := except_bind_eq_ok.mp h
    rw [← Except.ok.inj h]
    exact ⟨text, raw, mapError_eq_ok.mp htext, mapError_eq_ok.mp hraw, parseSuite_eq_ok_iff.mp hsuite,
      mapM_hexField_eq_ok_iff.mp hanchor, Decoders.hexArr_eq_ok_iff.mp hkey,
      mapM_hexArr_eq_ok_iff.mp hid, Decoders.parseClients_eq_ok_iff _ _ |>.mp hclients,
      Decoders.parseTokens_eq_ok_iff _ _ |>.mp htokens, mapM_parseControlPlane_eq_ok_iff.mp hcp,
      rfl, rfl, rfl, rfl, rfl, rfl, rfl⟩
  · rintro ⟨text, raw, rfl, hraw, hd⟩
    refine except_bind_eq_ok.mpr ⟨text, rfl, ?_⟩
    refine except_bind_eq_ok.mpr ⟨raw, mapError_eq_ok.mpr hraw, ?_⟩
    refine except_bind_eq_ok.mpr ⟨cfg.suite, parseSuite_eq_ok_iff.mpr hd.suite, ?_⟩
    refine except_bind_eq_ok.mpr ⟨cfg.configAnchor, mapM_hexField_eq_ok_iff.mpr hd.configAnchor, ?_⟩
    refine except_bind_eq_ok.mpr ⟨cfg.gatePrivate, Decoders.hexArr_eq_ok_iff.mpr hd.gatePrivate, ?_⟩
    refine except_bind_eq_ok.mpr ⟨cfg.gateId, mapM_hexArr_eq_ok_iff.mpr hd.gateId, ?_⟩
    refine except_bind_eq_ok.mpr ⟨cfg.clients, Decoders.parseClients_eq_ok_iff _ _ |>.mpr hd.clients, ?_⟩
    refine except_bind_eq_ok.mpr ⟨cfg.tokens, Decoders.parseTokens_eq_ok_iff _ _ |>.mpr hd.tokens, ?_⟩
    refine except_bind_eq_ok.mpr
      ⟨cfg.controlPlane, mapM_parseControlPlane_eq_ok_iff.mpr hd.controlPlane, ?_⟩
    rw [← hd.interface, ← hd.knockPort, ← hd.bpfObject, ← hd.skewSeconds, ← hd.nftablesFloor,
      ← hd.bundlePath, ← hd.protectedPorts]
    rfl

end ConfigDecoders

end SpaDevice
