import SpaDevice.Config

/-!
# SpaDevice.Provision

Start-up of a gate that provisions itself: the control-plane client
(`spa-gated/src/cp.rs`) and the part of `main` (`spa-gated/src/main.rs`) that
settles the anchor, the gate's id and the policy.

The HTTP client, the JSON decoder and the disk are outside the repository; they
are the fields of `Outside`, without any assumption.  `startUp_eq_ok_iff` lists
everything a successful start-up can be, and `failsClosed_iff` says exactly when
a gate with a control plane and a bundle path stays with verified policy: unless
no anchor is pinned, the registration brings none, and nothing else stops
start-up, for then it goes on with the inline policy.
-/

namespace SpaDevice

/-! ## Requests and responses -/

/-- What the control plane returns to a registration: the gate's id and the
bundle-signing anchor, both in hex and both optional. -/
structure Provisioned where
  gateId : Option String := none
  configAnchor : Option String := none
deriving DecidableEq

inductive Method where
  | get
  | post
deriving DecidableEq

/-- A request with a bearer token; a body is sent as JSON. -/
structure Request where
  method : Method
  url : String
  bearer : String
  body : Option String
deriving DecidableEq

/-- An error of the HTTP client, with the errors it comes from. -/
structure HttpError where
  message : String
  sources : List String

/-- Flatten an error's source chain. -/
def chain (e : HttpError) : String := e.sources.foldl (fun s c => s ++ ": " ++ c) e.message

/-- What became of a request: it failed (or was answered with an error status),
its body could not be read, or this is the body. -/
inductive Response where
  | failed (e : HttpError)
  | broken (e : String)
  | body (bytes : List UInt8)

/-- The body of a response, or the error of the request named `what`. -/
def Response.bytes (what : String) : Response → Except String (List UInt8)
  | .failed e => .error (what ++ ": " ++ chain e)
  | .broken e => .error e
  | .body bytes => .ok bytes

theorem Response.bytes_eq_ok_iff {what : String} {r : Response} {bytes : List UInt8} :
    r.bytes what = .ok bytes ↔ r = .body bytes := by
  cases r with
  | failed e => simp [Response.bytes]
  | broken e => simp [Response.bytes]
  | body b => simp [Response.bytes]

/-- `str::trim_end_matches('/')`. -/
def trimEndSlashes (s : String) : String :=
  String.ofList (s.toList.reverse.dropWhile (· = '/')).reverse

namespace ControlPlane

/-- The request that reports the gate's knock identity. -/
def identityRequest (cp : ControlPlane) (gatePubkeyHex : String) (knockPort : UInt16) : Request where
  method := .post
  url := trimEndSlashes cp.url ++ "/api/gate/identity"
  bearer := cp.gateToken
  body := some ("\x7b\"public_key_hex\":\"" ++ gatePubkeyHex ++ "\",\"address\":\"" ++ cp.address ++
    "\",\"knock_port\":" ++ toString knockPort.toNat ++ "\x7d")

/-- The request for the gate's signed bundle. -/
def bundleRequest (cp : ControlPlane) : Request where
  method := .get
  url := trimEndSlashes cp.url ++ "/api/gate/bundle"
  bearer := cp.gateToken
  body := none

end ControlPlane

/-! ## The disk -/

/-- What reading a path gives, and what becomes of the other operations on it. -/
structure Disk where
  read : String → Except String (List UInt8)
  createParent : String → Except String Unit
  write : String → Except String Unit
  rename : String → String → Except String Unit

namespace Disk

def writeFile (d : Disk) (path : String) (bytes : List UInt8) : Except String Disk := do
  d.write path
  return { d with read := Function.update d.read path (.ok bytes) }

def renameFile (d : Disk) (src dst : String) : Except String Disk := do
  d.rename src dst
  return { d with
    read := Function.update (Function.update d.read dst (d.read src)) src
      (.error "No such file or directory (os error 2)") }

end Disk

/-! ## Start-up -/

/-- What start-up meets outside the repository.  `interfere` is what other
processes do to the disk before the bundle is read. -/
structure Outside where
  dec : ConfigDecoders
  provisionedFromSlice : List UInt8 → Option Provisioned
  hexEncode : List UInt8 → String
  bindKnockPort : UInt16 → Except String Unit
  certificateFromPem : List UInt8 → Except String Unit
  buildClient : Except String Unit
  http : Request → Response
  disk : Disk
  interfere : Disk → Disk

def CryptoError.text : CryptoError → String
  | .key => "key error"
  | .sign => "signing failed"
  | .encode => "authorization encode failed"
  | .crypto => "crypto operation failed"

/-- What self-provisioning has settled. -/
structure Acquired where
  anchor : Option (List UInt8)
  gateId : Option GateId
  disk : Disk

/-- What start-up goes on with: the gate's id, the source that the watcher polls,
and the policy. -/
structure Started where
  gateId : GateId
  bundleSrc : Option (List UInt8 × String)
  policy : Bundle

/-- A pinned value, or else the fetched one if there is one. -/
def orFetched {α : Type} (pinned : Option α) (fetched : Option String)
    (decode : String → Except String α) : Except String (Option α) :=
  match pinned with
  | some x => .ok (some x)
  | none => fetched.mapM decode

/-- The policy in the configuration file itself, at generation 0. -/
def GatedConfig.inlinePolicy (cfg : GatedConfig) : Bundle where
  generation := 0
  protectedPorts := cfg.protectedPorts
  clients := cfg.clients
  tokens := cfg.tokens

namespace Outside

variable (out : Outside)

/-- `cp::client`: the CA certificate, if one is pinned, and the client. -/
def client (cp : ControlPlane) : Except String Unit := do
  match cp.caCert with
  | none => pure ()
  | some ca =>
      let pem ← (out.disk.read ca).mapError fun e => "control-plane ca_cert " ++ ca ++ ": " ++ e
      out.certificateFromPem pem
  out.buildClient

/-- A body that is no JSON object of the expected shape counts as an empty one. -/
def provisioned (bytes : List UInt8) : Provisioned := (out.provisionedFromSlice bytes).getD {}

def registerIdentity (cp : ControlPlane) (gatePubkeyHex : String) (knockPort : UInt16) :
    Except String Provisioned := do
  out.client cp
  let bytes ← (out.http (cp.identityRequest gatePubkeyHex knockPort)).bytes "register identity"
  return out.provisioned bytes

/-- Fetch the bundle to `dest` through a temporary file, unless it is there
already. -/
def fetchBundle (cp : ControlPlane) (dest : String) : Except String (Bool × Disk) := do
  out.client cp
  let bytes ← (out.http cp.bundleRequest).bytes "fetch bundle"
  if (out.disk.read dest).toOption = some bytes then return (false, out.disk) else do
  out.disk.createParent dest
  let tmp := dest ++ ".tmp"
  let disk ← out.disk.writeFile tmp bytes
  let disk ← disk.renameFile tmp dest
  return (true, disk)

/-- `parse_gate_id`. -/
def parseGateId (hex : String) : Except String GateId :=
  out.dec.hexArr gateIdLen hex "control-plane gate_id"

/-- The branch of `main` for a configured control plane. -/
def selfProvision (lib : AwsLc) (cfg : GatedConfig) (cp : ControlPlane) : Except String Acquired := do
  let key : GateKeypair lib ←
    (GateKeypair.fromRawPrivate cfg.suite cfg.gatePrivate.val).mapError CryptoError.text
  let provisioned ← out.registerIdentity cp (out.hexEncode key.pub) cfg.knockPort
  let anchor ← orFetched cfg.configAnchor provisioned.configAnchor fun a =>
    out.dec.hexField a "control-plane config_anchor"
  let gateId ← orFetched cfg.gateId provisioned.gateId out.parseGateId
  match cfg.bundlePath with
  | none => return ⟨anchor, gateId, out.disk⟩
  | some path => do
      let (_, disk) ← out.fetchBundle cp path
      return ⟨anchor, gateId, disk⟩

/-- `main` from the loaded configuration to the policy. -/
def startUp (lib : AwsLc) (cfg : GatedConfig) : Except String Started := do
  (out.bindKnockPort cfg.knockPort).mapError fun e =>
    "bind knock port " ++ toString cfg.knockPort.toNat ++ ": " ++ e ++
      " — is another spa-gated already running on this host?"
  let acquired ←
    match cfg.controlPlane with
    | none => .ok ⟨cfg.configAnchor, cfg.gateId, out.disk⟩
    | some cp => out.selfProvision lib cfg cp
  let gateId ← okOr "no gate_id: set gate_id_hex, or configure [control_plane]" acquired.gateId
  match acquired.anchor, cfg.bundlePath with
  | some anchor, some path => do
      let policy ← loadVerify lib out.dec.toDecoders path anchor
        ((out.interfere acquired.disk).read path)
      return ⟨gateId, some (anchor, path), policy⟩
  | _, _ => return ⟨gateId, none, cfg.inlinePolicy⟩

/-! ## What the steps can do -/

theorem orFetched_of_none {α : Type} (fetched : Option String) (decode : String → Except String α)
    {y : Option α} :
    orFetched none fetched decode = .ok y ↔ Option.Rel (fun s x => decode s = .ok x) fetched y :=
  optionMapM_eq_ok_iff

theorem orFetched_eq_some_iff {α : Type} {pinned : Option α} {fetched : Option String}
    {decode : String → Except String α} {x : α} :
    orFetched pinned fetched decode = .ok (some x) ↔
      pinned = some x ∨ pinned = none ∧ ∃ s, fetched = some s ∧ decode s = .ok x := by
  cases pinned with
  | some y => simp [orFetched]
  | none =>
      rw [orFetched_of_none]
      cases fetched with
      | none => simp
      | some s => simp

theorem orFetched_eq_none_iff {α : Type} {pinned : Option α} {fetched : Option String}
    {decode : String → Except String α} :
    orFetched pinned fetched decode = .ok none ↔ pinned = none ∧ fetched = none := by
  cases pinned with
  | some y => simp [orFetched]
  | none =>
      rw [orFetched_of_none]
      cases fetched with
      | none => simp
      | some s => simp

variable {out}

theorem registerIdentity_eq_ok_iff {cp : ControlPlane} {hex : String} {knockPort : UInt16}
    {p : Provisioned} :
    out.registerIdentity cp hex knockPort = .ok p ↔
      out.client cp = .ok () ∧
        ∃ bytes, out.http (cp.identityRequest hex knockPort) = .body bytes ∧
          p = out.provisioned bytes := by
  constructor
  · intro h
    obtain ⟨⟨⟩, hclient, h⟩ := except_bind_eq_ok.mp h
    obtain ⟨bytes, hbytes, h⟩ := except_bind_eq_ok.mp h
    exact ⟨hclient, bytes, Response.bytes_eq_ok_iff.mp hbytes, (Except.ok.inj h).symm⟩
  · rintro ⟨hclient, bytes, hbytes, rfl⟩
    refine except_bind_eq_ok.mpr ⟨(), hclient, ?_⟩
    exact except_bind_eq_ok.mpr ⟨bytes, Response.bytes_eq_ok_iff.mpr hbytes, rfl⟩

/-- A fetch that succeeds leaves the served bytes at its destination. -/
theorem read_of_fetchBundle {cp : ControlPlane} {dest : String} {changed : Bool} {disk : Disk}
    (h : out.fetchBundle cp dest = .ok (changed, disk)) :
    ∃ bytes, out.http cp.bundleRequest = .body bytes ∧ disk.read dest = .ok bytes := by
  obtain ⟨⟨⟩, -, h⟩ := except_bind_eq_ok.mp h
  obtain ⟨bytes, hbytes, h⟩ := except_bind_eq_ok.mp h
  refine ⟨bytes, Response.bytes_eq_ok_iff.mp hbytes, ?_⟩
  split at h
  · next hsame =>
      obtain ⟨-, rfl⟩ := Prod.mk.inj (Except.ok.inj h)
      exact toOption_eq_some.mp hsame
  · obtain ⟨⟨⟩, -, h⟩ := except_bind_eq_ok.mp h
    obtain ⟨written, hwritten, h⟩ := except_bind_eq_ok.mp h
    obtain ⟨renamed, hrenamed, h⟩ := except_bind_eq_ok.mp h
    obtain ⟨⟨⟩, -, hwritten⟩ := except_bind_eq_ok.mp hwritten
    obtain ⟨⟨⟩, -, hrenamed⟩ := except_bind_eq_ok.mp hrenamed
    obtain ⟨-, rfl⟩ := Prod.mk.inj (Except.ok.inj h)
    have hne : dest ≠ dest ++ ".tmp" := by
      intro heq
      have hlen := congrArg String.length heq
      simp [String.length_append] at hlen
    rw [← Except.ok.inj hrenamed, ← Except.ok.inj hwritten]
    simp [hne]

/-- What self-provisioning with a bundle path needs to succeed, and what it
settles. -/
theorem selfProvision_eq_ok_iff {lib : AwsLc} {cfg : GatedConfig} {cp : ControlPlane} {path : String}
    (hpath : cfg.bundlePath = some path) {acquired : Acquired} :
    out.selfProvision lib cfg cp = .ok acquired ↔
      ∃ (key : GateKeypair lib) (p : Provisioned) (changed : Bool),
        GateKeypair.fromRawPrivate cfg.suite cfg.gatePrivate.val = .ok key ∧
        out.registerIdentity cp (out.hexEncode key.pub) cfg.knockPort = .ok p ∧
        orFetched cfg.configAnchor p.configAnchor
          (fun a => out.dec.hexField a "control-plane config_anchor") = .ok acquired.anchor ∧
        orFetched cfg.gateId p.gateId out.parseGateId = .ok acquired.gateId ∧
        out.fetchBundle cp path = .ok (changed, acquired.disk) := by
  unfold selfProvision
  rw [hpath]
  constructor
  · intro h
    obtain ⟨key, hkey, h⟩ := except_bind_eq_ok.mp h
    obtain ⟨p, hp, h⟩ := except_bind_eq_ok.mp h
    obtain ⟨anchor, hanchor, h⟩ := except_bind_eq_ok.mp h
    obtain ⟨gateId, hid, h⟩ := except_bind_eq_ok.mp h
    obtain ⟨⟨changed, disk⟩, hfetch, h⟩ := except_bind_eq_ok.mp h
    rw [← Except.ok.inj h]
    exact ⟨key, p, changed, mapError_eq_ok.mp hkey, hp, hanchor, hid, hfetch⟩
  · rintro ⟨key, p, changed, hkey, hp, hanchor, hid, hfetch⟩
    refine except_bind_eq_ok.mpr ⟨key, mapError_eq_ok.mpr hkey, ?_⟩
    refine except_bind_eq_ok.mpr ⟨p, hp, ?_⟩
    refine except_bind_eq_ok.mpr ⟨_, hanchor, ?_⟩
    refine except_bind_eq_ok.mpr ⟨_, hid, ?_⟩
    exact except_bind_eq_ok.mpr ⟨_, hfetch, rfl⟩

/-- **Everything a successful start-up can be**, with a control plane and a bundle
path: the policy of a bundle that verifies under the anchor, or, without an
anchor, the inline policy. -/
theorem startUp_eq_ok_iff {lib : AwsLc} {cfg : GatedConfig} {cp : ControlPlane} {path : String}
    (hcp : cfg.controlPlane = some cp) (hpath : cfg.bundlePath = some path) {s : Started} :
    out.startUp lib cfg = .ok s ↔
      out.bindKnockPort cfg.knockPort = .ok () ∧
        ∃ acquired, out.selfProvision lib cfg cp = .ok acquired ∧ acquired.gateId = some s.gateId ∧
          ((∃ anchor, acquired.anchor = some anchor ∧ s.bundleSrc = some (anchor, path) ∧
              loadVerify lib out.dec.toDecoders path anchor
                ((out.interfere acquired.disk).read path) = .ok s.policy) ∨
            (acquired.anchor = none ∧ s.bundleSrc = none ∧ s.policy = cfg.inlinePolicy)) := by
  unfold startUp
  rw [hcp, hpath]
  constructor
  · intro h
    obtain ⟨⟨⟩, hbind, h⟩ := except_bind_eq_ok.mp h
    obtain ⟨acquired, hacquired, h⟩ := except_bind_eq_ok.mp h
    obtain ⟨gateId, hid, h⟩ := except_bind_eq_ok.mp h
    refine ⟨mapError_eq_ok.mp hbind, acquired, hacquired, ?_⟩
    cases hanchor : acquired.anchor with
    | none =>
        rw [hanchor] at h
        rw [← Except.ok.inj h]
        exact ⟨okOr_eq_ok.mp hid, .inr ⟨rfl, rfl, rfl⟩⟩
    | some anchor =>
        rw [hanchor] at h
        obtain ⟨policy, hpolicy, h⟩ := except_bind_eq_ok.mp h
        rw [← Except.ok.inj h]
        exact ⟨okOr_eq_ok.mp hid, .inl ⟨anchor, rfl, rfl, hpolicy⟩⟩
  · rintro ⟨hbind, acquired, hacquired, hid, hsource⟩
    obtain ⟨gateId, bundleSrc, policy⟩ := s
    refine except_bind_eq_ok.mpr ⟨(), mapError_eq_ok.mpr hbind, ?_⟩
    refine except_bind_eq_ok.mpr ⟨acquired, hacquired, ?_⟩
    refine except_bind_eq_ok.mpr ⟨gateId, okOr_eq_ok.mpr hid, ?_⟩
    rcases hsource with ⟨anchor, hanchor, rfl, hpolicy⟩ | ⟨hanchor, rfl, rfl⟩
    · rw [hanchor]
      exact except_bind_eq_ok.mpr ⟨policy, hpolicy, rfl⟩
    · rw [hanchor]
      rfl

/-! ## Failing closed -/

section

variable (out) (lib : AwsLc) (cfg : GatedConfig) (cp : ControlPlane) (path : String)

/-- The body that the control plane returns to the gate's registration. -/
def RegistrationBody (bytes : List UInt8) : Prop :=
  ∃ key : GateKeypair lib, GateKeypair.fromRawPrivate cfg.suite cfg.gatePrivate.val = .ok key ∧
    out.http (cp.identityRequest (out.hexEncode key.pub) cfg.knockPort) = .body bytes

/-- The anchor is pinned in the configuration, or it is the one in the response
to the registration. -/
def AnchorFrom (anchor : List UInt8) : Prop :=
  cfg.configAnchor = some anchor ∨
    ∃ bytes p a, out.RegistrationBody lib cfg cp bytes ∧ out.provisionedFromSlice bytes = some p ∧
      p.configAnchor = some a ∧ out.dec.hexDecode a = .ok anchor

/-- The policy is that of the bundle file, which verified under such an anchor. -/
def FromBundle (policy : Bundle) : Prop :=
  ∃ anchor changed disk data, out.AnchorFrom lib cfg cp anchor ∧
    out.fetchBundle cp path = .ok (changed, disk) ∧ (out.interfere disk).read path = .ok data ∧
    loadVerify lib out.dec.toDecoders path anchor (.ok data) = .ok policy

/-- Start-up returns an error, or goes on with the policy of a verified bundle. -/
def FailsClosed : Prop :=
  (∃ e, out.startUp lib cfg = .error e) ∨
    ∃ s, out.startUp lib cfg = .ok s ∧ out.FromBundle lib cfg cp path s.policy

/-- No anchor is pinned and the registration brings none, while the knock port,
the gate's key, its id and the two requests are all in order. -/
structure Unanchored : Prop where
  bound : out.bindKnockPort cfg.knockPort = .ok ()
  unpinned : cfg.configAnchor = none
  client : out.client cp = .ok ()
  body : ∃ bytes, out.RegistrationBody lib cfg cp bytes ∧
    (out.provisioned bytes).configAnchor = none ∧
    (cfg.gateId ≠ none ∨ ∃ g, (out.provisioned bytes).gateId = some g ∧
      ∃ id : GateId, out.dec.hexDecode g = .ok id.val)
  fetched : ∃ r, out.fetchBundle cp path = .ok r

end

section

variable {lib : AwsLc} {cfg : GatedConfig} {cp : ControlPlane} {path : String}

/-- The anchor that self-provisioning settles is pinned or fetched. -/
theorem anchorFrom_of_orFetched {key : GateKeypair lib} {p : Provisioned} {anchor : List UInt8}
    {what : String} (hkey : GateKeypair.fromRawPrivate cfg.suite cfg.gatePrivate.val = .ok key)
    (hp : out.registerIdentity cp (out.hexEncode key.pub) cfg.knockPort = .ok p)
    (h : orFetched cfg.configAnchor p.configAnchor (fun a => out.dec.hexField a what) =
      .ok (some anchor)) : out.AnchorFrom lib cfg cp anchor := by
  rcases orFetched_eq_some_iff.mp h with hpinned | ⟨-, a, ha, hhex⟩
  · exact .inl hpinned
  · obtain ⟨-, bytes, hbytes, rfl⟩ := registerIdentity_eq_ok_iff.mp hp
    cases hparse : out.provisionedFromSlice bytes with
    | none =>
        rw [provisioned, hparse] at ha
        contradiction
    | some p =>
        rw [provisioned, hparse] at ha
        exact .inr ⟨bytes, p, a, ⟨key, hkey, hbytes⟩, hparse, ha,
          Decoders.hexField_eq_ok_iff.mp hhex⟩

/-- The gate's id is settled exactly when it is pinned or fetched. -/
theorem exists_gateId_iff {p : Provisioned} :
    (∃ id, orFetched cfg.gateId p.gateId out.parseGateId = .ok (some id)) ↔
      cfg.gateId ≠ none ∨ ∃ g, p.gateId = some g ∧ ∃ id : GateId, out.dec.hexDecode g = .ok id.val := by
  simp only [orFetched_eq_some_iff]
  constructor
  · rintro ⟨id, hid | ⟨-, g, hg, hhex⟩⟩
    · exact .inl (by simp [hid])
    · exact .inr ⟨g, hg, id, Decoders.hexArr_eq_ok_iff.mp hhex⟩
  · intro h
    cases hpinned : cfg.gateId with
    | some id => exact ⟨id, .inl rfl⟩
    | none =>
        rw [hpinned] at h
        obtain ⟨g, hg, id, hhex⟩ := h.resolve_left (not_not.mpr rfl)
        exact ⟨id, .inr ⟨rfl, g, hg, Decoders.hexArr_eq_ok_iff.mpr hhex⟩⟩

/-- **Start-up without an anchor goes on with the inline policy.** -/
theorem startUp_of_unanchored (hcp : cfg.controlPlane = some cp) (hpath : cfg.bundlePath = some path)
    (h : out.Unanchored lib cfg cp path) :
    ∃ s, out.startUp lib cfg = .ok s ∧ s.bundleSrc = none ∧ s.policy = cfg.inlinePolicy := by
  obtain ⟨hbound, hunpinned, hclient, ⟨bytes, ⟨key, hkey, hbytes⟩, hanchor, hid⟩,
    ⟨changed, disk⟩, hfetch⟩ := h
  obtain ⟨id, hid⟩ := exists_gateId_iff.mpr hid
  have hregister : out.registerIdentity cp (out.hexEncode key.pub) cfg.knockPort =
      .ok (out.provisioned bytes) := registerIdentity_eq_ok_iff.mpr ⟨hclient, bytes, hbytes, rfl⟩
  have hacquired : out.selfProvision lib cfg cp = .ok ⟨none, some id, disk⟩ :=
    (selfProvision_eq_ok_iff hpath).mpr ⟨key, out.provisioned bytes, changed, hkey, hregister,
      orFetched_eq_none_iff.mpr ⟨hunpinned, hanchor⟩, hid, hfetch⟩
  refine ⟨⟨id, none, cfg.inlinePolicy⟩, ?_, rfl, rfl⟩
  exact (startUp_eq_ok_iff hcp hpath).mpr ⟨hbound, _, hacquired, rfl, .inr ⟨rfl, rfl, rfl⟩⟩

theorem not_anchorFrom_of_unanchored (h : out.Unanchored lib cfg cp path) (anchor : List UInt8) :
    ¬ out.AnchorFrom lib cfg cp anchor := by
  obtain ⟨bytes, ⟨key, hkey, hbytes⟩, hanchor, -⟩ := h.body
  rintro (hpinned | ⟨bytes', p, a, ⟨key', hkey', hbytes'⟩, hparse, ha, -⟩)
  · rw [h.unpinned] at hpinned
    contradiction
  · obtain rfl : key = key' := Except.ok.inj (hkey.symm.trans hkey')
    obtain rfl : bytes = bytes' := Response.body.inj (hbytes.symm.trans hbytes')
    rw [provisioned, hparse] at hanchor
    change p.configAnchor = none at hanchor
    rw [ha] at hanchor
    contradiction

theorem not_failsClosed_of_unanchored (hcp : cfg.controlPlane = some cp)
    (hpath : cfg.bundlePath = some path) (h : out.Unanchored lib cfg cp path) :
    ¬ out.FailsClosed lib cfg cp path := by
  obtain ⟨s, hs, -⟩ := startUp_of_unanchored hcp hpath h
  rintro (⟨e, he⟩ | ⟨s', -, anchor, changed, disk, data, hanchor, -⟩)
  · rw [hs] at he
    contradiction
  · exact not_anchorFrom_of_unanchored h anchor hanchor

/-- A start-up that ends without an anchor had none to take. -/
theorem unanchored_of_selfProvision (hpath : cfg.bundlePath = some path)
    (hbound : out.bindKnockPort cfg.knockPort = .ok ()) {acquired : Acquired} {id : GateId}
    (h : out.selfProvision lib cfg cp = .ok acquired) (hanchor : acquired.anchor = none)
    (hid : acquired.gateId = some id) : out.Unanchored lib cfg cp path := by
  obtain ⟨key, p, changed, hkey, hp, ha, hg, hfetch⟩ := (selfProvision_eq_ok_iff hpath).mp h
  rw [hanchor] at ha
  rw [hid] at hg
  obtain ⟨hclient, bytes, hbytes, rfl⟩ := registerIdentity_eq_ok_iff.mp hp
  obtain ⟨hunpinned, hnone⟩ := orFetched_eq_none_iff.mp ha
  exact ⟨hbound, hunpinned, hclient,
    ⟨bytes, ⟨key, hkey, hbytes⟩, hnone, exists_gateId_iff.mp ⟨id, hg⟩⟩, _, hfetch⟩

/-- **When start-up fails closed**: for every configuration with a control plane
and a bundle path, exactly when it is not unanchored. -/
theorem failsClosed_iff (hcp : cfg.controlPlane = some cp) (hpath : cfg.bundlePath = some path) :
    out.FailsClosed lib cfg cp path ↔ ¬ out.Unanchored lib cfg cp path := by
  constructor
  · intro h hun
    exact not_failsClosed_of_unanchored hcp hpath hun h
  · intro hnot
    cases hs : out.startUp lib cfg with
    | error e => exact .inl ⟨e, hs⟩
    | ok s =>
        obtain ⟨hbound, acquired, hacquired, hid, hsource⟩ := (startUp_eq_ok_iff hcp hpath).mp hs
        rcases hsource with ⟨anchor, hanchor, -, hload⟩ | ⟨hanchor, -, -⟩
        · obtain ⟨key, p, changed, hkey, hp, ha, -, hfetch⟩ :=
            (selfProvision_eq_ok_iff hpath).mp hacquired
          rw [hanchor] at ha
          obtain ⟨data, text, raw, hdata, hauth⟩ := (loadVerify_eq_ok_iff _ _ _ _ _ _).mp hload
          rw [hdata] at hload
          exact .inr ⟨s, hs, anchor, changed, acquired.disk, data,
            anchorFrom_of_orFetched hkey hp ha, hfetch, hdata, hload⟩
        · exact absurd (unanchored_of_selfProvision hpath hbound hacquired hanchor hid) hnot

/-! ## The daemon that start-up boots -/

/-- With a verified bundle, start-up boots the daemon that `Daemon.start` gives on
the file. -/
theorem start_eq_boot {Cr : Type} (hcp : cfg.controlPlane = some cp)
    (hpath : cfg.bundlePath = some path) {s : Started} {anchor : List UInt8}
    (hs : out.startUp lib cfg = .ok s) (hsrc : s.bundleSrc = some (anchor, path)) (crypto : Cr) :
    ∃ changed disk, out.fetchBundle cp path = .ok (changed, disk) ∧
      Daemon.start ⟨lib, out.dec.toDecoders, path, anchor⟩ (cfg.params s.gateId) crypto
          ((out.interfere disk).read path) =
        Daemon.boot (cfg.params s.gateId) crypto s.policy := by
  obtain ⟨-, acquired, hacquired, -, hsource⟩ := (startUp_eq_ok_iff hcp hpath).mp hs
  rcases hsource with ⟨anchor', -, hsrc', hload⟩ | ⟨-, hnone, -⟩
  · obtain ⟨rfl, -⟩ := Prod.mk.inj (Option.some.inj (hsrc.symm.trans hsrc'))
    obtain ⟨key, p, changed, -, -, -, -, hfetch⟩ := (selfProvision_eq_ok_iff hpath).mp hacquired
    refine ⟨changed, acquired.disk, hfetch, ?_⟩
    rw [Daemon.start, BundleSource.load, mapError_eq_ok.mpr hload, except_ok_bind]
  · rw [hnone] at hsrc
    contradiction

/-- Without an anchor, the daemon cloaks the inline ports only. -/
theorem keys_boot_of_unanchored {Cr : Type} (hcp : cfg.controlPlane = some cp)
    (hpath : cfg.bundlePath = some path) (h : out.Unanchored lib cfg cp path) {s : Started}
    (hs : out.startUp lib cfg = .ok s) {crypto : Cr} {d : Daemon Cr}
    (hd : Daemon.boot (cfg.params s.gateId) crypto s.policy = .ok d) :
    d.gate.protectedPorts.keys = cfg.protectedPorts.toFinset := by
  obtain ⟨s', hs', -, hpolicy⟩ := startUp_of_unanchored hcp hpath h
  obtain rfl : s = s' := Except.ok.inj (hs.symm.trans hs')
  obtain ⟨ports, hkeys, hgate, -⟩ := Daemon.boot_eq_ok hd
  rw [hgate]
  rw [hpolicy] at hkeys
  exact hkeys

/-- Where no other process writes the bundle file, the policy is the one that the
control plane served. -/
theorem served_of_fromBundle (hinterfere : out.interfere = id) {policy : Bundle}
    (h : out.FromBundle lib cfg cp path policy) :
    ∃ anchor bytes, out.AnchorFrom lib cfg cp anchor ∧ out.http cp.bundleRequest = .body bytes ∧
      loadVerify lib out.dec.toDecoders path anchor (.ok bytes) = .ok policy := by
  obtain ⟨anchor, changed, disk, data, hanchor, hfetch, hdata, hload⟩ := h
  obtain ⟨bytes, hbytes, hread⟩ := read_of_fetchBundle hfetch
  rw [hinterfere, id_eq, hread] at hdata
  rw [← hdata] at hload
  exact ⟨anchor, bytes, hanchor, hbytes, hload⟩

end

end Outside

/-! ## A sample gate -/

def samplePath : String := "/etc/spa/bundle.spa"

def sampleControlPlane : ControlPlane where
  url := "https://cp.example"
  gateToken := "secret"
  address := "192.0.2.10"
  caCert := none
  https := by decide

/-- A gate with a control plane, a bundle path and a pinned id; its inline policy
is empty. -/
def sampleGated (anchor : Option (List UInt8)) : GatedConfig where
  interface := "eth0"
  knockPort := 62201
  suite := .modern
  gatePrivate := beArr 32 7
  gateId := some (beArr 16 1)
  bpfObject := "/usr/lib/spa/spa-ebpf"
  skewSeconds := 2
  nftablesFloor := true
  configAnchor := anchor
  bundlePath := some samplePath
  protectedPorts := []
  clients := []
  tokens := []
  controlPlane := some sampleControlPlane

def sampleToml : String :=
  "interface = \"eth0\"\nknock_port = 62201\nsuite = \"modern\"\ngate_private_hex = \"" ++
    hexEncode (beArr 32 7).val ++ "\"\ngate_id_hex = \"" ++ hexEncode (beArr 16 1).val ++
    "\"\nbpf_object = \"/usr/lib/spa/spa-ebpf\"\nbundle_path = \"/etc/spa/bundle.spa\"\n\n" ++
    "[control_plane]\nurl = \"https://cp.example\"\ngate_token = \"secret\"\n" ++
    "address = \"192.0.2.10\"\n"

def sampleRaw : RawConfig where
  interface := "eth0"
  knockPort := 62201
  suite := "modern"
  gatePrivateHex := hexEncode (beArr 32 7).val
  gateIdHex := some (hexEncode (beArr 16 1).val)
  bpfObject := "/usr/lib/spa/spa-ebpf"
  bundlePath := some samplePath
  controlPlane := some { url := "https://cp.example", gateToken := "secret", address := "192.0.2.10" }

/-- The empty JSON object. -/
def emptyObject : List UInt8 := [0x7b, 0x7d]

/-- A control plane that answers a registration with the empty object and serves
a signed bundle, and a disk without the bundle file. -/
def sampleOutside : Outside where
  dec :=
    { tableDecoders sampleDocs with
      configFromStr := fun text =>
        if text = sampleToml then .ok sampleRaw else .error "TOML parse error"
      strDebug := fun s => "\"" ++ s ++ "\"" }
  provisionedFromSlice bytes := if bytes = emptyObject then some {} else none
  hexEncode := SpaDevice.hexEncode
  bindKnockPort _ := .ok ()
  certificateFromPem _ := .ok ()
  buildClient := .ok ()
  http req :=
    match req.method with
    | .post => .body emptyObject
    | .get => .body (signedFile "generation = 1\n")
  disk :=
    { read := fun _ => .error "No such file or directory (os error 2)"
      createParent := fun _ => .ok ()
      write := fun _ => .ok ()
      rename := fun _ _ => .ok () }
  interfere := id

theorem load_sampleToml :
    sampleOutside.dec.load "/etc/spa/gated.toml" (.ok sampleToml) = .ok (sampleGated none) := by
  refine ConfigDecoders.load_eq_ok_iff.mpr ⟨sampleToml, sampleRaw, rfl, ?_, ?_⟩
  · simp [sampleOutside]
  · exact ⟨rfl, .none, hexDecode_hexEncode (beArr 32 7).val,
      .some (hexDecode_hexEncode (beArr 16 1).val), .nil, .nil, .some ⟨rfl, rfl, rfl, rfl⟩, rfl, rfl, rfl, rfl, rfl, rfl, rfl⟩

theorem fromRawPrivate_sample :
    GateKeypair.fromRawPrivate .modern (beArr 32 7).val = .ok sampleGate := rfl

/-- The fetch of the sample gate succeeds. -/
theorem fetchBundle_sample : ∃ r, sampleOutside.fetchBundle sampleControlPlane samplePath = .ok r :=
  ⟨_, rfl⟩

/-- The sample gate with a pinned anchor fails closed. -/
theorem failsClosed_iff_sample :
    (sampleGated (some sampleAnchor.pub)).controlPlane = some sampleControlPlane ∧
      (sampleGated (some sampleAnchor.pub)).bundlePath = some samplePath ∧
      sampleOutside.FailsClosed transparent (sampleGated (some sampleAnchor.pub)) sampleControlPlane
        samplePath := by
  refine ⟨rfl, rfl, (Outside.failsClosed_iff rfl rfl).mpr fun h => ?_⟩
  have hunpinned : some sampleAnchor.pub = none := h.unpinned
  simp at hunpinned

theorem unanchored_sample :
    sampleOutside.Unanchored transparent (sampleGated none) sampleControlPlane samplePath := by
  refine ⟨rfl, rfl, rfl, ⟨emptyObject, ⟨sampleGate, fromRawPrivate_sample, rfl⟩, rfl, .inl ?_⟩,
    fetchBundle_sample⟩
  exact Option.some_ne_none _

/-- Without a pinned anchor, and with the empty object for an answer, start-up
goes on with the empty inline policy, and the daemon cloaks nothing. -/
theorem empty_answer_goes_inline :
    sampleOutside.dec.load "/etc/spa/gated.toml" (.ok sampleToml) = .ok (sampleGated none) ∧
      ¬ sampleOutside.FailsClosed transparent (sampleGated none) sampleControlPlane samplePath ∧
      ∃ s, sampleOutside.startUp transparent (sampleGated none) = .ok s ∧
        s.policy = ⟨0, [], [], []⟩ ∧
        ∃ d, Daemon.boot ((sampleGated none).params s.gateId) sampleGate s.policy = .ok d ∧
          d.gate.protectedPorts.keys = ∅ := by
  obtain ⟨s, hs, -, hpolicy⟩ := Outside.startUp_of_unanchored rfl rfl unanchored_sample
  refine ⟨load_sampleToml, Outside.not_failsClosed_of_unanchored rfl rfl unanchored_sample, s, hs,
    hpolicy, ?_⟩
  obtain ⟨d, hd⟩ := Daemon.boot_of_card_le ((sampleGated none).params s.gateId) sampleGate s.policy
    (by rw [hpolicy]; decide)
  exact ⟨d, hd, Outside.keys_boot_of_unanchored rfl rfl unanchored_sample hs hd⟩

end SpaDevice
