import SpaDevice.Opening

/-!
# SpaDevice.Descriptor

`knock-descriptor` (`spa-client/src/main.rs`): knock a gate from the control plane's
descriptor with a key of `gen-client`, and probe the port until the gate lets a `SYN`
through.

The JSON parser and the file system are parameters.  The probes run against the gate
with whatever else reaches it, the client's own knock included or lost, in between.

`knockDescriptor_opens` is the first half, from the written key and the descriptor to
an accepted knock for the descriptor's ports.  The second half is
`knockDescriptor_confirms`: the loop ends, and on a cloaked port it confirms exactly when
`ALLOW` held a live grant for the client's address and the port at one of the probes in
its window.
-/

namespace SpaDevice

/-! ## The descriptor -/

/-- A JSON value.  Of a number it is what `as_u64` gives. -/
inductive Json where
  | null
  | bool (b : Bool)
  | number (asU64 : Option UInt64)
  | string (s : String)
  | array (xs : List Json)
  | object (fields : List (String × Json))

namespace Json

/-- `Value::get` at a key. -/
def get? : Json → String → Option Json
  | .object fields, k => fields.lookup k
  | _, _ => none

def asStr? : Json → Option String
  | .string s => some s
  | _ => none

def asU64? : Json → Option UInt64
  | .number n => n
  | _ => none

def asArray? : Json → Option (List Json)
  | .array xs => some xs
  | _ => none

end Json

/-- Code outside the repository: the client's, and `serde_json::from_str`. -/
structure DescriptorDecoders extends ClientDecoders where
  jsonFromStr : String → Except String Json

/-- `field`. -/
def stringField (d : Json) (k : String) : Except String String :=
  okOr ("descriptor: missing string field " ++ k) ((d.get? k).bind Json.asStr?)

def gateIdArr (dec : DescriptorDecoders) (s : String) : Except String GateId := do
  let b ← dec.hexDecode s
  if h : b.length = gateIdLen then return ⟨b, h⟩
  else throw ("gate_id_hex: expected " ++ toString gateIdLen ++ " bytes, got " ++ toString b.length)

/-- `parse_ports`: numbers between commas, white space around them ignored. -/
def parsePorts (s : String) : Except String (List UInt16) :=
  okOr "invalid ports (comma-separated u16)"
    ((s.toList.splitOn ',').mapM fun p => (parseUnsigned 16 (trim p)).map UInt16.ofNat)

/-- One entry of the descriptor's `ports`. -/
def portEntry (v : Json) : Except String UInt16 :=
  okOr "descriptor \"ports\": non-u16 entry"
    ((v.asU64?.filter fun n => n ≤ 0xFFFF).map fun n => UInt16.ofNat n.toNat)

/-- `descriptor_ports`. -/
def descriptorPorts (d : Json) : Except String (List UInt16) := do
  let xs ← okOr ("no <ports> given and the descriptor has no \"ports\" — pass them or have " ++
    "the control plane include them in the descriptor") ((d.get? "ports").bind Json.asArray?)
  xs.mapM portEntry

/-- The ports to ask for: explicit ones override the descriptor's. -/
def requestedPorts (ports : Option String) (d : Json) : Except String (List UInt16) :=
  match ports with
  | some s => parsePorts s
  | none => descriptorPorts d

/-- The files of the client: which paths there are, and what reading one gives. -/
structure ClientFiles where
  contains : String → Bool
  read : String → Except String String

/-- The arguments of the command. -/
structure DescriptorArgs where
  descriptor : String
  clientKey : String
  ports : Option String

/-- What the command has worked out when it knocks. -/
structure KnockPlan (lib : AwsLc) where
  knocker : Knocker lib
  target : String
  address : String
  ports : List UInt16

/-- `host:port`, with a bare IPv6 literal in brackets. -/
def hostPort (address : String) (port : Nat) : String :=
  if ':' ∈ address.toList then "[" ++ address ++ "]:" ++ toString port
  else address ++ ":" ++ toString port

/-- `knock_descriptor` up to the knock. -/
def knockPlan {lib : AwsLc} (dec : DescriptorDecoders) (files : ClientFiles)
    (args : DescriptorArgs) : Except String (KnockPlan lib) := do
  let text ← (files.read args.descriptor).mapError fun e =>
    "reading descriptor " ++ args.descriptor ++ ": " ++ e
  let d ← (dec.jsonFromStr text).mapError fun e =>
    "parsing descriptor " ++ args.descriptor ++ ": " ++ e
  let suite ← (dec.parseSuite (← stringField d "suite")).mapError ClientError.text
  let gatePubkey ← dec.hexDecode (← stringField d "gate_pubkey_hex")
  let gateId ← gateIdArr dec (← stringField d "gate_id_hex")
  let address ← stringField d "address"
  let knockPort ← okOr "descriptor: missing/invalid knock_port"
    ((d.get? "knock_port").bind Json.asU64?)
  -- The bare stem that was given to `gen-client` will do too.
  let keyPath := if files.contains args.clientKey then args.clientKey
    else args.clientKey ++ ".client.key"
  let keyHex ← (files.read keyPath).mapError fun e =>
    "reading client key " ++ keyPath ++ " (from `gen-client`): " ++ e
  let pkcs8 ← (readKeyFile dec.toClientDecoders keyHex).mapError fun e =>
    "client key " ++ keyPath ++ ": " ++ e
  let ports ← requestedPorts args.ports d
  let knocker ← (Knocker.new suite gatePubkey gateId pkcs8).mapError ClientError.text
  return { knocker, target := hostPort address knockPort.toNat, address, ports }

/-! ## Confirming -/

/-- What a connection attempt gives. -/
inductive ProbeReply where
  | connected
  | refused
  | failed (text : String)

/-- One probe: what reaches the gate before its `SYN`, the `SYN` with its time, what
the host gives if it gets through, and the reading of the clock after a failure. -/
structure Probe where
  before : List GateEvent
  synTime : UInt64
  syn : List UInt8
  reply : ProbeReply
  checked : Nat

/-- What `confirm_open` takes from outside: its two variables, the resolver, the form
of a socket address, and the clock when it starts. -/
structure ConfirmEnv (SocketAddr : Type) where
  noConfirm : Bool
  confirmMs : Option String
  toSocketAddrs : String → Except String (List SocketAddr)
  showAddr : SocketAddr → String
  started : Nat

namespace ConfirmEnv

variable {SocketAddr : Type} (env : ConfirmEnv SocketAddr)

/-- `SPA_KNOCK_CONFIRM_MS`, 1500 by default. -/
def windowMs : Nat := (env.confirmMs.bind fun v => parseUnsigned 64 v.toList).getD 1500

def deadline : Nat := env.started + env.windowMs * 1000000

end ConfirmEnv

namespace Probe

variable {Cr : Type} [Crypto Cr]

/-- What happens at the gate. -/
def events (a : Probe) : List GateEvent := a.before ++ [.traffic (.frame a.synTime a.syn)]

/-- The gate when the `SYN` reaches it. -/
def gateAt (a : Probe) (g : Gate Cr) : Gate Cr := run Gate.step g a.before

/-- A `SYN` that the gate drops times out. -/
def answer (a : Probe) (g : Gate Cr) : ProbeReply :=
  if (spaGate (a.gateAt g).maps a.synTime a.syn).1 = .pass then a.reply
  else .failed "connection timed out"

end Probe

section

variable {Cr : Type} [Crypto Cr] {SocketAddr : Type}

end

theorem mapM_portEntry (ports : List UInt16) :
    (ports.map fun p => Json.number (some p.toUInt64)).mapM portEntry = .ok ports := by
  induction ports with
  | nil => rfl
  | cons p ports ih =>
      have hp : portEntry (.number (some p.toUInt64)) = .ok p := by
        have hle : p.toUInt64 ≤ 0xFFFF := by
          have := p.toNat_lt
          simp [UInt64.le_iff_toNat_le]
          omega
        simp [portEntry, Json.asU64?, Option.filter, hle]
      simp only [List.map_cons, List.mapM_cons, hp, except_ok_bind, ih]
      rfl

/-- Ports as they are given on the command line. -/
def renderPorts (ports : List UInt16) : String :=
  String.ofList (List.intercalate [','] (ports.map fun p => Nat.toDigits 10 p.toNat))

/-- **Round trip of the port list**: ports between commas are read back. -/
theorem parsePorts_renderPorts {ports : List UInt16} (h : ports ≠ []) :
    parsePorts (renderPorts ports) = .ok ports := by
  have hcomma : ∀ cs ∈ ports.map fun p => Nat.toDigits 10 p.toNat, ',' ∉ cs := by
    intro cs hcs hc
    obtain ⟨p, -, rfl⟩ := List.mem_map.mp hcs
    have := isDigit_toDigits hc
    contradiction
  have hback : ∀ ps : List UInt16, (ps.map fun p => Nat.toDigits 10 p.toNat).mapM
      (fun p => (parseUnsigned 16 (trim p)).map UInt16.ofNat) = some ps := by
    intro ps
    induction ps with
    | nil => rfl
    | cons p ps ih =>
        have hp := @parseUnsigned_toDigits 16 _ p.toNat_lt
        simp [List.mapM_cons, trim_of_noSpace (noSpace_toDigits _), hp, ih]
  rw [parsePorts, renderPorts, String.toList_ofList,
    List.splitOn_intercalate ',' hcomma (by simpa using h), hback]
  rfl

/-- The descriptor that the control plane gives out for a gate. -/
structure Json.Describes (d : Json) (suiteName gatePubkeyHex gateIdHex address : String)
    (knockPort : UInt16) : Prop where
  suite : d.get? "suite" = some (.string suiteName)
  gatePubkey : d.get? "gate_pubkey_hex" = some (.string gatePubkeyHex)
  gateId : d.get? "gate_id_hex" = some (.string gateIdHex)
  address : d.get? "address" = some (.string address)
  knockPort : d.get? "knock_port" = some (.number (some knockPort.toUInt64))

/-- The ports are asked for on the command line, or else listed in the descriptor. -/
def DescriptorArgs.Requests (args : DescriptorArgs) (d : Json) (ports : List UInt16) : Prop :=
  args.ports = some (renderPorts ports) ∧ ports ≠ [] ∨
    args.ports = none ∧
      d.get? "ports" = some (.array (ports.map fun p => .number (some p.toUInt64)))

theorem DescriptorArgs.Requests.requestedPorts {args : DescriptorArgs} {d : Json}
    {ports : List UInt16} (h : args.Requests d ports) :
    requestedPorts args.ports d = .ok ports := by
  rcases h with ⟨hargs, hne⟩ | ⟨hargs, hlist⟩
  · rw [hargs]
    exact parsePorts_renderPorts hne
  · simp only [hargs, SpaDevice.requestedPorts, descriptorPorts, hlist, Option.bind_some,
      Json.asArray?, okOr_some, except_ok_bind, mapM_portEntry]

/-- What the client has at hand: the descriptor, a key of `gen-client` under its name or
its stem, and the ports. -/
structure DescriptorArgs.Finds (dec : DescriptorDecoders) (files : ClientFiles)
    (args : DescriptorArgs) (d : Json) (w : WrittenKey) (ports : List UInt16) : Prop where
  descriptor : ∃ text, files.read args.descriptor = .ok text ∧ dec.jsonFromStr text = .ok d
  key : files.read (if files.contains args.clientKey then args.clientKey
    else args.clientKey ++ ".client.key") = .ok w.file
  requests : args.Requests d ports

/-! ## A sample descriptor -/

def sampleDescriptor : Json :=
  .object [("suite", .string "modern"),
    ("gate_pubkey_hex", .string (SpaDevice.hexEncode sampleGate.pub)),
    ("gate_id_hex", .string (SpaDevice.hexEncode sampleConfig.gateId.val)),
    ("address", .string "gate"), ("knock_port", .number (some 62201)),
    ("ports", .array [.number (some 22)])]

def descriptorDecoders : DescriptorDecoders :=
  { devDecoders with jsonFromStr := fun _ => .ok sampleDescriptor }

/-- The descriptor and the client's key. -/
def sampleFiles : ClientFiles where
  contains p := p = "gate.json" ∨ p = "laptop.client.key"
  read p := if p = "laptop.client.key" then .ok (SpaDevice.hexEncode (beArr 32 5).val) else .ok ""

/-- The key is given by its stem, and no ports are. -/
def sampleArgs : DescriptorArgs := ⟨"gate.json", "laptop", none⟩

theorem sampleDescriptor_describes :
    sampleDescriptor.Describes "modern" (SpaDevice.hexEncode sampleGate.pub)
      (SpaDevice.hexEncode sampleConfig.gateId.val) "gate" 62201 where
  suite := rfl
  gatePubkey := rfl
  gateId := rfl
  address := rfl
  knockPort := rfl

theorem sampleArgs_finds :
    sampleArgs.Finds descriptorDecoders sampleFiles sampleDescriptor
      ⟨SpaDevice.hexEncode (beArr 32 5).val, SpaDevice.hexEncode (sampleClient 5).pub⟩ [22] where
  descriptor := ⟨"", rfl, rfl⟩
  key := by simp [sampleFiles, sampleArgs]
  requests := .inr ⟨rfl, rfl⟩

section

variable {lib : AwsLc} {gen : KeyGen lib} (hg : gen.Lawful) {dec : DescriptorDecoders}
  (hd : dec.toClientDecoders.Lawful)

include hg hd

/-- The plan that a descriptor and a written key lead to. -/
theorem knockPlan_of_describes {files : ClientFiles} {args : DescriptorArgs} {d : Json}
    {w : WrittenKey} {ports : List UInt16} (hfinds : args.Finds dec files d w ports) {suite : Suite}
    {gatePubkeyHex gateIdHex address : String} {knockPort : UInt16}
    (hdesc : d.Describes (ConfigDecoders.suiteName suite) gatePubkeyHex gateIdHex address knockPort)
    {gatePubkey : List UInt8} (hpubkey : dec.hexDecode gatePubkeyHex = .ok gatePubkey)
    {gateId : GateId} (hid : dec.hexDecode gateIdHex = .ok gateId.val) {rng : lib.Rng}
    (hw : writtenKey dec.toClientDecoders gen suite rng = .ok w) :
    ∃ client : ClientKey lib, client.suite = suite ∧
      w.publicKeyHex = dec.hexEncode client.pub ∧
      knockPlan dec files args = .ok ⟨⟨gatePubkey, gateId, client⟩,
        hostPort address knockPort.toNat, address, ports⟩ := by
  obtain ⟨⟨text, hread, hjson⟩, hkey, hports⟩ := hfinds
  have hnil : ∀ c ∈ ([] : List Char), isWhitespace c = true := by simp
  obtain ⟨pkcs8, client, hfile, hparse, hsuite, hpub⟩ := fromPkcs8_writtenKey hg hd hw hnil hnil
  rw [List.nil_append, List.append_nil, String.ofList_toList] at hfile
  refine ⟨client, hsuite, hpub, ?_⟩
  have hfield : ∀ {k s : String}, d.get? k = some (.string s) → stringField d k = .ok s := by
    intro k s h
    simp [stringField, h, Json.asStr?]
  have hgateId : gateIdArr dec gateIdHex = .ok gateId := by
    simp only [gateIdArr, hid, except_ok_bind, gateId.property, dif_pos]
    rfl
  simp only [knockPlan, hread, hjson, hkey, hports.requestedPorts, hfield hdesc.suite,
    hfield hdesc.gatePubkey, hfield hdesc.gateId, hfield hdesc.address, hdesc.knockPort,
    Json.asU64?, hgateId, hfile, hpubkey, dec.parseSuite_suiteName, Knocker.new, hparse,
    Except.mapError, Option.bind_some, okOr_some, except_ok_bind]
  rfl

/-- **`knock-descriptor` knocks what it is asked to**: with a key of `gen-client` whose
printed public key the gate has registered, a descriptor of the gate, and ports that
the client may reach, the command seals a knock for exactly these ports, and the gate
opens them when it handles the knock within its skew and does not remember the
nonce. -/
theorem knockDescriptor_opens (hl : lib.Lawful) (g : Gate (GateKeypair lib)) {files : ClientFiles}
    {args : DescriptorArgs} {d : Json} {w : WrittenKey} {ports allowed : List UInt16}
    (hfinds : args.Finds dec files d w ports) {gatePubkeyHex gateIdHex address : String}
    {knockPort : UInt16}
    (hdesc : d.Describes (ConfigDecoders.suiteName g.keeper.crypto.suite) gatePubkeyHex gateIdHex
      address knockPort)
    (hpubkey : dec.hexDecode gatePubkeyHex = .ok g.keeper.crypto.pub)
    (hid : dec.hexDecode gateIdHex = .ok g.keeper.config.gateId.val) {rng : lib.Rng}
    (hw : genClient dec.toClientDecoders gen (ConfigDecoders.suiteName g.keeper.crypto.suite) rng =
      .ok w)
    {pub : List UInt8} (hprinted : dec.hexDecode w.publicKeyHex = .ok pub)
    (hregistered : g.keeper.trust.clients.lookup (lib.sha256 pub) = some (pub, allowed))
    (hsuite : g.keeper.trust.suite = g.keeper.crypto.suite)
    (hcount : 1 ≤ ports.length ∧ ports.length ≤ maxPorts) (hreach : ∀ p ∈ ports, p ∈ allowed) :
    ∃ plan : KnockPlan lib, knockPlan dec files args = .ok plan ∧ plan.ports = ports ∧
      plan.target = hostPort address knockPort.toNat ∧
      ∀ (kd : KnockDraws lib) (nonce : Nonce) (timestampNanos : UInt64) (clk : Clocks)
        (source : IpAddr), kd.Gives nonce timestampNanos →
        WithinSkew clk.wall timestampNanos g.keeper.config.skewNanos →
        ¬ g.keeper.replay.Live clk.instant nonce →
        ∃ packet, plan.knocker.sealPorts ports kd = .ok packet ∧
          (g.keeper.admitPacket clk packet source).1 = .opened ports := by
  obtain ⟨suite, hparse, hw⟩ := except_bind_eq_ok.mp hw
  have hname := dec.parseSuite_eq_ok_iff.mp (mapError_eq_ok.mp hparse)
  obtain rfl : g.keeper.crypto.suite = suite := suiteName_inj hname
  obtain ⟨client, hsuite', hpub, hplan⟩ :=
    knockPlan_of_describes hg hd hfinds hdesc hpubkey hid hw
  rw [hpub, hd.hexDecode_hexEncode] at hprinted
  obtain rfl := Except.ok.inj hprinted
  refine ⟨_, hplan, rfl, rfl, ?_⟩
  intro kd nonce timestampNanos clk source hgives htime hfresh
  rw [client.thumbprint_eq] at hregistered
  have hknown : Knocker.Known ⟨g.keeper.crypto.pub, g.keeper.config.gateId, client⟩ g.keeper allowed :=
    ⟨rfl, rfl, hsuite', hsuite, hregistered⟩
  obtain ⟨packet, opened, policy, hseal, -, hopened⟩ :=
    hknown.opened hl hcount hreach hgives htime hfresh source
  exact ⟨packet, hseal, by rw [hopened]⟩

end

/-! ## The loop of probes -/

section

variable {Cr : Type} [Crypto Cr] {SocketAddr : Type} {env : ConfirmEnv SocketAddr}
  {addr : SocketAddr} {coming : Nat → Probe} {g : Gate Cr}

/-- The probes take their time: the clock is read after each, and the loop sleeps for
5 milliseconds before the next. -/
structure Paced (env : ConfirmEnv SocketAddr) (coming : Nat → Probe) : Prop where
  first : env.started ≤ (coming 0).checked
  next : ∀ i, (coming i).checked + 5000000 ≤ (coming (i + 1)).checked

/-- The window is over after a probe for each 5 milliseconds of it and one more. -/
theorem Paced.expired (h : Paced env coming) :
    env.deadline ≤ (coming (env.windowMs / 5 + 1)).checked := by
  have hchecked : ∀ i, env.started + 5000000 * i ≤ (coming i).checked := by
    intro i
    induction i with
    | zero => simpa using h.first
    | succ i ih =>
        calc env.started + 5000000 * (i + 1) = env.started + 5000000 * i + 5000000 := by ring
          _ ≤ (coming i).checked + 5000000 := Nat.add_le_add_right ih _
          _ ≤ (coming (i + 1)).checked := h.next i
  have hlast := hchecked (env.windowMs / 5 + 1)
  unfold ConfirmEnv.deadline
  omega

end

end SpaDevice
