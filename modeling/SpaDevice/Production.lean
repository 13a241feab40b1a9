import SpaDevice.Authority
import SpaDevice.Descriptor
import SpaDevice.Provision

/-!
# SpaDevice.Production

The production path: `spa-gated provision` (`spa-gated/src/main.rs`) writes the
configuration of a gate with a fresh key, the gate registers that key at start-up and
follows the bundles of the control plane, and a client of `gen-client` knocks from the
gate's descriptor.

The control plane stands outside: what it relays is that the descriptor names the
registered key and the gate's id, and that the bundle in force lists the client's
printed key.  Then the knock of `knock-descriptor` is opened, whatever the watcher
and the traffic did before (`production_path_opens`).
-/

namespace SpaDevice

/-! ## `provision` -/

/-- The arguments of `provision`. -/
structure ProvisionArgs where
  interface : String
  bpfObject : String
  url : String
  token : String
  address : String
  caCert : Option String

def provisionUsage : String :=
  "usage: provision <interface> <bpf_object> <control-plane-url> <gate-token> <gate-address> [ca_cert]"

def ProvisionArgs.ofArgs : List String → Except String ProvisionArgs
  | interface :: bpfObject :: url :: token :: address :: rest =>
      .ok { interface, bpfObject, url, token, address, caCert := rest.head? }
  | _ => .error provisionUsage

/-- The variables `SPA_SUITE`, `SPA_KNOCK_PORT` and `SPA_GATED_TOML`. -/
structure ProvisionEnv where
  suite : Option String
  knockPort : Option String
  gatedToml : Option String

namespace ProvisionEnv

variable (env : ProvisionEnv)

def suiteName : String := env.suite.getD "modern"

def port : UInt16 :=
  ((env.knockPort.bind fun v => parseUnsigned 16 v.toList).map UInt16.ofNat).getD 62201

def out : String := env.gatedToml.getD "gated.toml"

end ProvisionEnv

/-- Where a provisioned gate keeps its bundle. -/
def bundlePath : String := "/etc/spa/bundle.spa"

/-- The configuration that `provision` writes. -/
def ProvisionArgs.toml (args : ProvisionArgs) (env : ProvisionEnv) (gatePrivateHex : String) : String :=
  "interface = \"" ++ args.interface ++ "\"\nknock_port = " ++ toString env.port.toNat ++
    "\nbpf_object = \"" ++ args.bpfObject ++ "\"\nskew_seconds = 2\nbundle_path = \"" ++ bundlePath ++
    "\"\nsuite = \"" ++ env.suiteName ++ "\"\ngate_private_hex = \"" ++ gatePrivateHex ++
    "\"\n\n[control_plane]\nurl        = \"" ++ args.url ++ "\"\ngate_token = \"" ++ args.token ++
    "\"\naddress    = \"" ++ args.address ++ "\"\n" ++
    (args.caCert.map fun c => "ca_cert    = \"" ++ c ++ "\"\n").getD ""

/-- What TOML makes of that text, when nothing in the arguments ends a string. -/
def ProvisionArgs.rawConfig (args : ProvisionArgs) (env : ProvisionEnv) (gatePrivateHex : String) :
    RawConfig where
  interface := args.interface
  knockPort := env.port
  suite := env.suiteName
  gatePrivateHex := gatePrivateHex
  bpfObject := args.bpfObject
  skewSeconds := 2
  bundlePath := some bundlePath
  controlPlane := some
    { url := args.url, gateToken := args.token, address := args.address, caCert := args.caCert }

/-- What `provision` makes: the gate's key with its raw form, and the file to write. -/
structure GateFile (lib : AwsLc) where
  key : GateKeypair lib
  gatePrivate : ByteArr 32
  path : String
  toml : String

section

variable {lib : AwsLc} (dec : ClientDecoders)

/-- The suite of a name, as `provision` reads it. -/
def provisionSuite (name : String) : Except String Suite :=
  if name = "fips" then .ok .fips
  else if name = "modern" then .ok .modern
  else .error ("unknown suite " ++ dec.strDebug name ++ " (fips|modern)")

/-- `provision` up to its write. -/
def provision (arguments : List String) (env : ProvisionEnv) (draw : Nat → Option (ByteArr 32)) :
    Except String (GateFile lib) := do
  let args ← ProvisionArgs.ofArgs arguments
  let suite ← provisionSuite dec env.suiteName
  let (key, gatePrivate) ← (GateKeypair.generateRaw suite draw).mapError CryptoError.text
  return { key, gatePrivate, path := env.out, toml := args.toml env (dec.hexEncode gatePrivate.val) }

end

theorem provisionSuite_eq_ok {dec : ClientDecoders} {name : String} {suite : Suite}
    (h : provisionSuite dec name = .ok suite) : name = ConfigDecoders.suiteName suite := by
  unfold provisionSuite at h
  split at h
  · next hname => rw [← Except.ok.inj h, hname]; rfl
  · split at h
    · next hname => rw [← Except.ok.inj h, hname]; rfl
    · contradiction

/-- The file holds the key that was generated. -/
theorem provision_eq_ok {lib : AwsLc} {dec : ClientDecoders} {arguments : List String}
    {env : ProvisionEnv} {draw : Nat → Option (ByteArr 32)} {f : GateFile lib}
    (h : provision dec arguments env draw = .ok f) :
    ∃ args, ProvisionArgs.ofArgs arguments = .ok args ∧
      env.suiteName = ConfigDecoders.suiteName f.key.suite ∧
      GateKeypair.fromRawPrivate f.key.suite f.gatePrivate.val = .ok f.key ∧
      f.toml = args.toml env (dec.hexEncode f.gatePrivate.val) := by
  obtain ⟨args, hargs, h⟩ := except_bind_eq_ok.mp h
  obtain ⟨suite, hsuite, h⟩ := except_bind_eq_ok.mp h
  obtain ⟨⟨key, gatePrivate⟩, hkey, h⟩ := except_bind_eq_ok.mp h
  obtain rfl := Except.ok.inj h
  have hraw := GateKeypair.generateRawFrom_eq_ok (mapError_eq_ok.mp hkey)
  obtain rfl : key.suite = suite := GateKeypair.suite_of_fromRawPrivate hraw
  exact ⟨args, hargs, provisionSuite_eq_ok hsuite, hraw, rfl⟩

/-- The configuration of a provisioned gate: the generated key, the fixed bundle path,
and neither an id nor an anchor. -/
structure ProvisionArgs.Provisioned {lib : AwsLc} (args : ProvisionArgs) (env : ProvisionEnv)
    (f : GateFile lib) (cfg : GatedConfig) : Prop where
  suite : cfg.suite = f.key.suite
  gatePrivate : cfg.gatePrivate = f.gatePrivate
  gateId : cfg.gateId = none
  configAnchor : cfg.configAnchor = none
  bundlePath : cfg.bundlePath = some SpaDevice.bundlePath
  knockPort : cfg.knockPort = env.port
  skewSeconds : cfg.skewSeconds = 2
  controlPlane : ∃ cp, cfg.controlPlane = some cp ∧ cp.address = args.address

/-- What the daemon loads from the file that was written. -/
theorem ProvisionArgs.provisioned_of_load {lib : AwsLc} {dec : ClientDecoders} (hd : dec.Lawful)
    {cdec : ConfigDecoders} (hhex : cdec.hexDecode = dec.hexDecode) {args : ProvisionArgs}
    {env : ProvisionEnv} {f : GateFile lib}
    (hname : env.suiteName = ConfigDecoders.suiteName f.key.suite)
    (htoml : cdec.configFromStr f.toml =
      .ok (args.rawConfig env (dec.hexEncode f.gatePrivate.val)))
    {cfg : GatedConfig} (hload : cdec.load f.path (.ok f.toml) = .ok cfg) :
    args.Provisioned env f cfg := by
  have hcfg := ConfigDecoders.describes_of_load htoml hload
  refine ⟨suiteName_inj (hcfg.suite.symm.trans hname), ?_, ?_, ?_, hcfg.bundlePath,
    hcfg.knockPort, hcfg.skewSeconds, ?_⟩
  · have hkey := hcfg.gatePrivate
    rw [hhex] at hkey
    exact byteArr_of_hexDecode hd hkey
  · cases hid : cfg.gateId with
    | none => rfl
    | some id => simpa [ProvisionArgs.rawConfig, hid] using hcfg.gateId
  · cases hanchor : cfg.configAnchor with
    | none => rfl
    | some anchor => simpa [ProvisionArgs.rawConfig, hanchor] using hcfg.configAnchor
  · cases hcp : cfg.controlPlane with
    | none => simpa [ProvisionArgs.rawConfig, hcp] using hcfg.controlPlane
    | some cp =>
        have hrel := hcfg.controlPlane
        simp only [ProvisionArgs.rawConfig, hcp, Option.rel_some_some] at hrel
        exact ⟨cp, rfl, hrel.2.2.1⟩

/-! ## Registration -/

namespace Outside

variable {out : Outside} {lib : AwsLc} {cfg : GatedConfig}

/-- Without a pinned id, the gate takes the one that answers its registration. -/
theorem gateId_of_startUp {cp : ControlPlane} (hcp : cfg.controlPlane = some cp) {path : String}
    (hpath : cfg.bundlePath = some path) (hunpinned : cfg.gateId = none) {s : Started}
    (hs : out.startUp lib cfg = .ok s) :
    ∃ (key : GateKeypair lib) (bytes : List UInt8) (idHex : String),
      GateKeypair.fromRawPrivate cfg.suite cfg.gatePrivate.val = .ok key ∧
      out.http (cp.identityRequest (out.hexEncode key.pub) cfg.knockPort) = .body bytes ∧
      (out.provisioned bytes).gateId = some idHex ∧ out.dec.hexDecode idHex = .ok s.gateId.val := by
  obtain ⟨-, acquired, hacquired, hid, -⟩ := (startUp_eq_ok_iff hcp hpath).mp hs
  obtain ⟨key, p, -, hkey, hregister, -, hgateId, -⟩ := (selfProvision_eq_ok_iff hpath).mp hacquired
  obtain ⟨-, bytes, hbytes, rfl⟩ := registerIdentity_eq_ok_iff.mp hregister
  rw [hid] at hgateId
  obtain hpinned | ⟨-, idHex, hsome, hdecode⟩ := orFetched_eq_some_iff.mp hgateId
  · rw [hunpinned] at hpinned
    contradiction
  · exact ⟨key, bytes, idHex, hkey, hbytes, hsome, Decoders.hexArr_eq_ok_iff.mp hdecode⟩

/-- The descriptor relays the gate's registration: the key, the address and the port
that the gate sent, and the id that it was answered. -/
def Relays (out : Outside) (lib : AwsLc) (cfg : GatedConfig) (d : Json) : Prop :=
  ∀ (cp : ControlPlane) (key : GateKeypair lib) (bytes : List UInt8) (idHex : String),
    cfg.controlPlane = some cp → GateKeypair.fromRawPrivate cfg.suite cfg.gatePrivate.val = .ok key →
    out.http (cp.identityRequest (out.hexEncode key.pub) cfg.knockPort) = .body bytes →
    (out.provisioned bytes).gateId = some idHex →
    d.Describes (ConfigDecoders.suiteName cfg.suite) (out.hexEncode key.pub) idHex cp.address
      cfg.knockPort

end Outside

/-! ## The whole path -/

/-- **From `provision` to an accepted knock.**  A gate starts on the file that
`provision` wrote, registers, and follows the control plane's bundles; the bundle in
force lists the printed key of a client of `gen-client`, and the descriptor relays the
gate's registration.  Then, whatever the watcher and the traffic have done so far,
`knock-descriptor` aims at the registered address and seals a knock for exactly the
ports it was asked for, and the gate opens them when it handles the knock within two
seconds and does not remember the nonce. -/
theorem production_path_opens {lib : AwsLc} (hl : lib.Lawful) {gen : KeyGen lib}
    (hg : gen.Lawful) {dec : DescriptorDecoders} (hd : dec.toClientDecoders.Lawful) {out : Outside}
    (hencode : out.hexEncode = dec.hexEncode) (hdecode : out.dec.hexDecode = dec.hexDecode)
    {arguments : List String} {args : ProvisionArgs}
    (hargs : ProvisionArgs.ofArgs arguments = .ok args) {env : ProvisionEnv}
    {draw : Nat → Option (ByteArr 32)} {f : GateFile lib}
    (hprovision : provision dec.toClientDecoders arguments env draw = .ok f)
    (htoml : out.dec.configFromStr f.toml =
      .ok (args.rawConfig env (dec.hexEncode f.gatePrivate.val)))
    {cfg : GatedConfig} (hload : out.dec.load f.path (.ok f.toml) = .ok cfg) {s : Started}
    (hs : out.startUp lib cfg = .ok s) {key : GateKeypair lib}
    (hkey : GateKeypair.fromRawPrivate cfg.suite cfg.gatePrivate.val = .ok key)
    {d₀ : Daemon (GateKeypair lib)}
    (hboot : Daemon.boot (cfg.params s.gateId) key s.policy = .ok d₀) (src : BundleSource)
    (es : List DaemonEvent) {rng : lib.Rng} {w : WrittenKey}
    (hw : genClient dec.toClientDecoders gen env.suiteName rng = .ok w) {pub : List UInt8}
    (hprinted : dec.hexDecode w.publicKeyHex = .ok pub) {allowed : List UInt16}
    (hlisted : (clientMap (Daemon.inForce src s.policy d₀ es).clients).lookup (lib.sha256 pub) =
      some (pub, allowed))
    {d : Json} (hrelays : out.Relays lib cfg d) {files : ClientFiles} {dargs : DescriptorArgs}
    {ports : List UInt16} (hfinds : dargs.Finds dec files d w ports)
    (hcount : 1 ≤ ports.length ∧ ports.length ≤ maxPorts) (hreach : ∀ p ∈ ports, p ∈ allowed) :
    let gate := (run (Daemon.step src) d₀ es).gate
    ∃ plan : KnockPlan lib, knockPlan dec files dargs = .ok plan ∧ plan.ports = ports ∧
      plan.target = hostPort args.address env.port.toNat ∧
      ∀ (kd : KnockDraws lib) (nonce : Nonce) (timestampNanos : UInt64) (clk : Clocks)
        (source : IpAddr), kd.Gives nonce timestampNanos →
        WithinSkew clk.wall timestampNanos 2000000000 →
        ¬ gate.keeper.replay.Live clk.instant nonce →
        ∃ packet, plan.knocker.sealPorts ports kd = .ok packet ∧
          (gate.keeper.admitPacket clk packet source).1 = .opened ports := by
  intro gate
  obtain ⟨args', hargs', hname, hraw, -⟩ := provision_eq_ok hprovision
  obtain rfl : args = args' := Except.ok.inj (hargs.symm.trans hargs')
  have hcfg := args.provisioned_of_load hd hdecode hname htoml hload
  -- The gate has registered the key that was generated.
  obtain rfl : key = f.key := by
    rw [hcfg.suite, hcfg.gatePrivate, hraw] at hkey
    exact (Except.ok.inj hkey).symm
  obtain ⟨cp, hcp, haddress⟩ := hcfg.controlPlane
  obtain ⟨key', bytes, idHex, hkey', hbytes, hsome, hid⟩ :=
    Outside.gateId_of_startUp hcp hcfg.bundlePath hcfg.gateId hs
  obtain rfl : f.key = key' := Except.ok.inj (hkey.symm.trans hkey')
  have hdesc := hrelays cp f.key bytes idHex hcp hkey hbytes hsome
  rw [haddress, hcfg.knockPort, hencode] at hdesc
  -- The daemon still has this key, and it trusts the clients of the bundle in force.
  obtain ⟨hconfig, hcrypto, hsuite⟩ := Daemon.identity_run src hboot es
  obtain ⟨gone, hholds⟩ := Daemon.holds_inForce src (Daemon.holds_boot hboot) es
  have hskew : gate.keeper.config.skewNanos = 2000000000 := by
    rw [hconfig]
    simp [GateParams.config, GatedConfig.params, hcfg.skewSeconds, satMul]
  rw [← hskew]
  have hdesc' : d.Describes (ConfigDecoders.suiteName gate.keeper.crypto.suite)
      (dec.hexEncode f.key.pub) idHex args.address env.port := by
    rw [hcrypto, ← hcfg.suite]
    exact hdesc
  have hpubkey : dec.hexDecode (dec.hexEncode f.key.pub) = .ok gate.keeper.crypto.pub := by
    rw [hcrypto]
    exact hd.hexDecode_hexEncode _
  have hid' : dec.hexDecode idHex = .ok gate.keeper.config.gateId.val := by
    rw [hconfig, ← hdecode]
    exact hid
  have hw' : genClient dec.toClientDecoders gen (ConfigDecoders.suiteName gate.keeper.crypto.suite)
      rng = .ok w := by
    rw [hcrypto, ← hname]
    exact hw
  have hregistered : gate.keeper.trust.clients.lookup (lib.sha256 pub) = some (pub, allowed) := by
    rw [hholds.clients]
    exact hlisted
  have hsuite' : gate.keeper.trust.suite = gate.keeper.crypto.suite := by
    rw [hsuite, hcrypto]
    exact hcfg.suite
  exact knockDescriptor_opens hg hd hl gate hfinds hdesc' hpubkey hid' hw' hprinted hregistered
    hsuite' hcount hreach

/-! ## A sample gate -/

def productionArguments : List String :=
  ["eth0", "/usr/lib/spa/spa-ebpf", "https://cp.example", "secret", "gate"]

def productionArgs : ProvisionArgs where
  interface := "eth0"
  bpfObject := "/usr/lib/spa/spa-ebpf"
  url := "https://cp.example"
  token := "secret"
  address := "gate"
  caCert := none

/-- No variable is set. -/
def productionEnv : ProvisionEnv := ⟨none, none, none⟩

def productionFile : GateFile transparent where
  key := sampleGate
  gatePrivate := beArr 32 7
  path := "gated.toml"
  toml := productionArgs.toml productionEnv (SpaDevice.hexEncode (beArr 32 7).val)

/-- The answer to the registration, with the gate's id and the anchor. -/
def productionAnswer : String :=
  "\x7b\"gate_id\":\"" ++ hexEncode sampleConfig.gateId.val ++ "\",\"config_anchor\":\"" ++
    hexEncode sampleAnchor.pub ++ "\"\x7d"

/-- A control plane that answers the registration so and serves the bundle. -/
def productionOutside : Outside :=
  { sampleOutside with
    dec :=
      { tableDecoders [(listedText, listedDoc)] with
        configFromStr := fun text =>
          if text = productionFile.toml then
            .ok (productionArgs.rawConfig productionEnv (SpaDevice.hexEncode (beArr 32 7).val))
          else .error "TOML parse error"
        strDebug := fun s => "\"" ++ s ++ "\"" }
    provisionedFromSlice := fun bytes =>
      if bytes = productionAnswer.toUTF8.data.toList then
        some ⟨some (SpaDevice.hexEncode sampleConfig.gateId.val),
          some (SpaDevice.hexEncode sampleAnchor.pub)⟩
      else none
    http := fun req =>
      match req.method with
      | .post => .body productionAnswer.toUTF8.data.toList
      | .get => .body (signedFile listedText) }

def productionControlPlane : ControlPlane where
  url := "https://cp.example"
  gateToken := "secret"
  address := "gate"
  caCert := none
  https := sampleControlPlane.https

def productionCfg : GatedConfig where
  interface := "eth0"
  knockPort := 62201
  suite := .modern
  gatePrivate := beArr 32 7
  gateId := none
  bpfObject := "/usr/lib/spa/spa-ebpf"
  skewSeconds := 2
  nftablesFloor := true
  configAnchor := none
  bundlePath := some bundlePath
  protectedPorts := []
  clients := []
  tokens := []
  controlPlane := some productionControlPlane

theorem hexDecode_production (bs : List UInt8) :
    productionOutside.dec.hexDecode (SpaDevice.hexEncode bs) = .ok bs :=
  SpaDevice.hexDecode_hexEncode bs

theorem configFromStr_production :
    productionOutside.dec.configFromStr productionFile.toml =
      .ok (productionArgs.rawConfig productionEnv (SpaDevice.hexEncode (beArr 32 7).val)) := by
  simp [productionOutside]

theorem load_production :
    productionOutside.dec.load productionFile.path (.ok productionFile.toml) = .ok productionCfg := by
  refine ConfigDecoders.load_eq_ok_iff.mpr
    ⟨productionFile.toml, _, rfl, configFromStr_production, ?_⟩
  exact ⟨rfl, .none, hexDecode_production (beArr 32 7).val, .none, .nil, .nil,
    .some ⟨rfl, rfl, rfl, rfl⟩, rfl, rfl, rfl, rfl, rfl, rfl, rfl⟩

theorem provisioned_production :
    productionOutside.provisioned productionAnswer.toUTF8.data.toList =
      ⟨some (SpaDevice.hexEncode sampleConfig.gateId.val),
        some (SpaDevice.hexEncode sampleAnchor.pub)⟩ := by
  simp [Outside.provisioned, productionOutside]

/-- The sample gate registers and starts on the bundle. -/
theorem startUp_production :
    productionOutside.startUp transparent productionCfg =
      .ok ⟨sampleConfig.gateId, some (sampleAnchor.pub, bundlePath), ⟨1, [22], sampleClients, []⟩⟩ := by
  obtain ⟨⟨changed, disk⟩, hfetch⟩ :
      ∃ r, productionOutside.fetchBundle productionControlPlane bundlePath = .ok r := ⟨_, rfl⟩
  obtain ⟨bytes, hbytes, hread⟩ := Outside.read_of_fetchBundle hfetch
  obtain rfl : signedFile listedText = bytes := Response.body.inj hbytes
  refine (Outside.startUp_eq_ok_iff rfl rfl).mpr
    ⟨rfl, ⟨some sampleAnchor.pub, some sampleConfig.gateId, disk⟩, ?_, rfl, .inl
      ⟨sampleAnchor.pub, rfl, rfl, ?_⟩⟩
  · refine (Outside.selfProvision_eq_ok_iff rfl).mpr ⟨sampleGate, _, changed, fromRawPrivate_sample,
      Outside.registerIdentity_eq_ok_iff.mpr ⟨rfl, _, rfl, rfl⟩, ?_, ?_, hfetch⟩
    · rw [provisioned_production]
      exact Outside.orFetched_eq_some_iff.mpr
        (.inr ⟨rfl, _, rfl, Decoders.hexField_eq_ok_iff.mpr (hexDecode_production _)⟩)
    · rw [provisioned_production]
      exact Outside.orFetched_eq_some_iff.mpr
        (.inr ⟨rfl, _, rfl, Decoders.hexArr_eq_ok_iff.mpr (hexDecode_production _)⟩)
  · show loadVerify _ _ _ _ (disk.read bundlePath) = _
    rw [hread]
    exact load_listed

/-- A bundle of generation 2 that gives the sample client a second port. -/
def widerText : String :=
  "generation = 2\nprotected_ports = [22, 443]\n\n[[client]]\nthumbprint_hex = \"" ++
    hexEncode (sampleClient 5).thumbprint.val ++ "\"\npublic_key_hex = \"" ++
    hexEncode (sampleClient 5).pub ++ "\"\nports = [22, 443]\n"

def widerDoc : RawBundle where
  generation := 2
  protectedPorts := [22, 443]
  client := [⟨hexEncode (sampleClient 5).thumbprint.val, hexEncode (sampleClient 5).pub, [22, 443]⟩]

def widerBundle : Bundle :=
  ⟨2, [22, 443], [⟨(sampleClient 5).thumbprint, (sampleClient 5).pub, [22, 443]⟩], []⟩

/-- The source of bundles that has this document. -/
abbrev widerSource : BundleSource := sampleSource [(widerText, widerDoc)]

theorem load_wider : widerSource.load (.ok (signedFile widerText)) = .ok widerBundle := by
  refine load_signedFile _ widerDoc (List.find?_cons_of_pos (by simp)) ?_ rfl
  refine (Decoders.parseClients_eq_ok_iff _ _).mpr (List.Forall₂.cons ?_ List.Forall₂.nil)
  exact ⟨tableDecoders_hexDecode _ _, tableDecoders_hexDecode _ _, rfl⟩

/-- The watcher applies the wider bundle, and then the sample client's knock from the
descriptor is opened. -/
theorem production_path_opens_sample :
    ∃ d₀, Daemon.boot (productionCfg.params sampleConfig.gateId) sampleGate
        ⟨1, [22], sampleClients, []⟩ = .ok d₀ ∧
      let d := run (Daemon.step widerSource) d₀ [.poll Daemon.portOrder (.ok (signedFile widerText))]
      d.appliedGen = 2 ∧
      ∃ plan : KnockPlan transparent,
        knockPlan descriptorDecoders sampleFiles sampleArgs = .ok plan ∧
          plan.target = "gate:62201" ∧
          ∃ packet, plan.knocker.sealPorts [22] devDraws = .ok packet ∧
            (d.gate.keeper.admitPacket (sampleClocks 0) packet sampleAddr).1 = .opened [22] := by
  obtain ⟨d₀, hboot⟩ := Daemon.boot_of_card_le (productionCfg.params sampleConfig.gateId) sampleGate
    ⟨1, [22], sampleClients, []⟩ (by decide)
  obtain ⟨protectedPorts, -, hgate, -, hgen⟩ := Daemon.boot_eq_ok hboot
  have hacc : d₀.accepts widerSource (.ok (signedFile widerText)) = some widerBundle :=
    Daemon.accepts_eq_some_iff.mpr ⟨load_wider, by rw [hgen]; exact show (1 : UInt64) < 2 by decide⟩
  have hpoll : run (Daemon.step widerSource) d₀
      [.poll Daemon.portOrder (.ok (signedFile widerText))] =
        d₀.reload Daemon.portOrder widerBundle := by
    rw [run_cons, run_nil, Daemon.step, Daemon.poll_of_accepts hacc]
  have hforce : Daemon.inForce widerSource ⟨1, [22], sampleClients, []⟩ d₀
      [.poll Daemon.portOrder (.ok (signedFile widerText))] = widerBundle := by
    simp [Daemon.inForce, record_cons, Daemon.applied, hacc]
  refine ⟨d₀, hboot, ?_⟩
  rw [hpoll]
  have hrelays : productionOutside.Relays transparent productionCfg sampleDescriptor := by
    intro cp key bytes idHex hcp hkey hbytes hid
    obtain rfl := Option.some.inj hcp
    obtain rfl := Except.ok.inj (fromRawPrivate_sample.symm.trans hkey)
    obtain rfl := Response.body.inj hbytes
    rw [provisioned_production] at hid
    obtain rfl := Option.some.inj hid
    exact sampleDescriptor_describes
  have hprovision : provision descriptorDecoders.toClientDecoders productionArguments productionEnv
      (fun _ => some (beArr 32 7)) = .ok productionFile := rfl
  have hw : genClient descriptorDecoders.toClientDecoders transparentGen productionEnv.suiteName
      (5 : Nat) = .ok ⟨SpaDevice.hexEncode (beArr 32 5).val,
        SpaDevice.hexEncode (sampleClient 5).pub⟩ := rfl
  have hlisted : (clientMap (Daemon.inForce widerSource ⟨1, [22], sampleClients, []⟩ d₀
      [.poll Daemon.portOrder (.ok (signedFile widerText))]).clients).lookup
        (transparent.sha256 (sampleClient 5).pub) = some ((sampleClient 5).pub, [22, 443]) := by
    rw [hforce, (sampleClient 5).thumbprint_eq]
    simp [clientMap, Dict.lookup_ofEntries, widerBundle]
  have hcount : 1 ≤ ([22] : List UInt16).length ∧ ([22] : List UInt16).length ≤ maxPorts := by decide
  obtain ⟨plan, hplan, -, htarget, hopens⟩ := production_path_opens transparent_lawful
    transparentGen_lawful (devDecoders_lawful : descriptorDecoders.toClientDecoders.Lawful)
    (rfl : productionOutside.hexEncode = descriptorDecoders.hexEncode) rfl
    (rfl : ProvisionArgs.ofArgs productionArguments = .ok productionArgs) hprovision
    configFromStr_production load_production startUp_production fromRawPrivate_sample hboot
    widerSource [.poll Daemon.portOrder (.ok (signedFile widerText))] hw
    (hexDecode_hexEncode (sampleClient 5).pub) hlisted hrelays sampleArgs_finds hcount (by simp)
  rw [hpoll] at hopens
  have hfresh : ¬ (d₀.reload Daemon.portOrder widerBundle).gate.keeper.replay.Live
      (sampleClocks 0).instant (beArr 16 0) := by
    rw [Daemon.reload_gate, hgate]
    exact Gate.not_live_init _ _ _ _ _ _ _ _ _
  obtain ⟨packet, hseal, hopened⟩ := hopens devDraws (beArr 16 0) sampleWall (sampleClocks 0)
    sampleAddr devDraws_gives withinSkew_sample hfresh
  exact ⟨rfl, plan, hplan, htarget, packet, hseal, hopened⟩

end SpaDevice
