import SpaDevice.Gate
import SpaDevice.Transparent

/-!
# SpaDevice.Daemon

The daemon around the gate (`spa-gated/src/main.rs`): start-up from a policy,
and `watch_bundle`, which verifies a changed bundle file, refuses generations
that do not increase, and applies the new policy as a sequence of writes.

The maps are shared with the kernel and the knock loop and live in `Gate`; the
watcher keeps a shadow copy of the port set and the applied generation.
`poll_eq` says once everything a poll can do, and `reload` is described by
what it does to the trust store and to `PROTECTED`.
-/

namespace SpaDevice

/-! ## Configuration -/

/-- How long an admitted source stays open after a knock. -/
def pinholeNanos : UInt64 := 30000 * 1000000

/-- `u64::saturating_mul`. -/
def satMul (a b : UInt64) : UInt64 :=
  if a.toNat * b.toNat < 2 ^ 64 then a * b else 0xFFFFFFFFFFFFFFFF

/-- The fields of the daemon's configuration that start-up hands on. -/
structure GateParams where
  gateId : GateId
  suite : Suite
  skewSeconds : UInt64
  knockPort : UInt16
  nftablesFloor : Bool

namespace GateParams

def config (p : GateParams) : Config where
  gateId := p.gateId
  skewNanos := satMul p.skewSeconds 1000000000
  pinholeNanos := SpaDevice.pinholeNanos

/-- `Duration::from_secs(skew_seconds * 2 + 1)` in nanoseconds. -/
def replayWindow (p : GateParams) : Nat := (p.skewSeconds * 2 + 1).toNat * 1000000000

/-- The parameters of the sample gate: two seconds of skew. -/
def sample : GateParams where
  gateId := beArr 16 1
  suite := .modern
  skewSeconds := 2
  knockPort := 62201
  nftablesFloor := false

end GateParams

/-- Why start-up stops. -/
inductive StartError where
  | bundle (text : String)
  | protectedFull
deriving DecidableEq, Repr

/-! ## The daemon -/

/-- The gate, the ports the daemon gave the nftables floor last (whether `nft` took them
or not), and the watcher's shadow copy of the cloaked ports with the generation it
applied last. -/
structure Daemon (Cr : Type) where
  gate : Gate Cr
  floorPorts : List UInt16
  knownPorts : Finset UInt16
  appliedGen : UInt64

/-- What became of a changed bundle file. -/
inductive PollOutcome where
  | rejected (error : String)
  | ignored (generation applied : UInt64)
  | applied (generation : UInt64)
deriving DecidableEq, Repr

/-- Traffic at the gate, or a poll that found the file changed: `file` is what
reading it gave, `order` the order in which the hash sets of ports are
walked. -/
inductive DaemonEvent where
  | traffic (t : Traffic)
  | poll (order : IterOrder UInt16) (file : Except String (List UInt8))

namespace Daemon

variable {Cr : Type}

/-- Start-up with a given policy: a port that does not fit into `PROTECTED`
stops it. -/
def boot (p : GateParams) (crypto : Cr) (policy : Bundle) : Except StartError (Daemon Cr) := do
  let protectedPorts ←
    okOr .protectedFull (BoundedDict.empty.insertEach? policy.protectedPorts (1 : UInt8))
  let trust := ((SharedTrust.new p.suite).set policy.clients).setTokens policy.tokens
  return {
    gate := Gate.init p.config crypto trust p.replayWindow p.nftablesFloor protectedPorts
      p.knockPort
    floorPorts := if p.nftablesFloor then policy.protectedPorts else []
    knownPorts := policy.protectedPorts.toFinset
    appliedGen := policy.generation }

/-- Start-up in bundle mode: the policy is the verified bundle. -/
def start (src : BundleSource) (p : GateParams) (crypto : Cr) (file : Except String (List UInt8)) :
    Except StartError (Daemon Cr) := do
  let policy ← (src.load file).mapError StartError.bundle
  boot p crypto policy

/-- The writes of one application, in order: the client set, the token set,
the ports that are new, the ports that are gone. -/
def reloadUpdates (order : IterOrder UInt16) (knownPorts : Finset UInt16) (b : Bundle) :
    List Update :=
  let newPorts := b.protectedPorts.toFinset
  [.setClients b.clients, .setTokens b.tokens] ++
    (order.list (newPorts \ knownPorts)).map .protect ++
    (order.list (knownPorts \ newPorts)).map .unprotect

/-- Apply a bundle; every failed write is ignored. -/
def reload (d : Daemon Cr) (order : IterOrder UInt16) (b : Bundle) : Daemon Cr where
  gate := run Gate.update d.gate (reloadUpdates order d.knownPorts b)
  floorPorts := if d.gate.keeper.gate.nftFloor then b.protectedPorts else d.floorPorts
  knownPorts := b.protectedPorts.toFinset
  appliedGen := b.generation

/-- One iteration of `watch_bundle` on a changed file. -/
def poll (src : BundleSource) (d : Daemon Cr) (order : IterOrder UInt16)
    (file : Except String (List UInt8)) : PollOutcome × Daemon Cr :=
  match src.load file with
  | .error e => (.rejected e, d)
  | .ok b =>
      if b.generation ≤ d.appliedGen then (.ignored b.generation d.appliedGen, d)
      else (.applied b.generation, d.reload order b)

def step [Crypto Cr] (src : BundleSource) (d : Daemon Cr) : DaemonEvent → Daemon Cr
  | .traffic t => { d with gate := d.gate.traffic t }
  | .poll order file => (d.poll src order file).2

/-! ## What a poll can do -/

/-- The bundle in the file, when the watcher applies it. -/
def accepts (src : BundleSource) (d : Daemon Cr) (file : Except String (List UInt8)) :
    Option Bundle :=
  match src.load file with
  | .ok b => if d.appliedGen < b.generation then some b else none
  | .error _ => none

theorem accepts_eq_some_iff {src : BundleSource} {d : Daemon Cr} {file : Except String (List UInt8)}
    {b : Bundle} :
    d.accepts src file = some b ↔ src.load file = .ok b ∧ d.appliedGen < b.generation := by
  unfold accepts
  cases src.load file with
  | error e => simp
  | ok b' =>
      by_cases hgen : d.appliedGen < b'.generation
      · simp only [hgen, if_true, Option.some.injEq, Except.ok.injEq]
        exact ⟨fun h => ⟨h, h ▸ hgen⟩, fun h => h.1⟩
      · simp only [hgen, if_false, Except.ok.injEq, reduceCtorEq, false_iff]
        rintro ⟨rfl, hlt⟩
        exact hgen hlt

/-- **Everything a poll can do**: apply the bundle in the file, or change
nothing at all. -/
theorem poll_eq (src : BundleSource) (d : Daemon Cr) (order : IterOrder UInt16)
    (file : Except String (List UInt8)) :
    match d.accepts src file with
    | some b => d.poll src order file = (.applied b.generation, d.reload order b)
    | none => (∀ gen, (d.poll src order file).1 ≠ .applied gen) ∧ (d.poll src order file).2 = d := by
  unfold accepts poll
  cases src.load file with
  | error e => exact ⟨by simp, rfl⟩
  | ok b =>
      by_cases hgen : b.generation ≤ d.appliedGen
      · have hlt : ¬ d.appliedGen < b.generation := UInt64.not_lt.mpr hgen
        simp [hgen, hlt]
      · have hlt : d.appliedGen < b.generation := UInt64.not_le.mp hgen
        simp only [hgen, hlt, if_true, if_false]

theorem poll_of_accepts {src : BundleSource} {d : Daemon Cr} {file : Except String (List UInt8)}
    {b : Bundle} (h : d.accepts src file = some b) (order : IterOrder UInt16) :
    d.poll src order file = (.applied b.generation, d.reload order b) := by
  have heq := poll_eq src d order file
  rw [h] at heq
  exact heq

theorem poll_of_accepts_eq_none {src : BundleSource} {d : Daemon Cr}
    {file : Except String (List UInt8)} (h : d.accepts src file = none) (order : IterOrder UInt16) :
    (d.poll src order file).2 = d := by
  have heq := poll_eq src d order file
  rw [h] at heq
  exact heq.2

/-! ## What a reload does -/

/-- Writing ports touches `PROTECTED` only. -/
theorem run_protect (g : Gate Cr) (ps : List UInt16) :
    run Gate.update g (ps.map .protect) =
      { g with protectedPorts := g.protectedPorts.insertAll ps 1 } := by
  induction ps generalizing g with
  | nil => rfl
  | cons p ps ih =>
      rw [List.map_cons, run_cons, ih]
      rfl

theorem run_unprotect (g : Gate Cr) (ps : List UInt16) :
    run Gate.update g (ps.map .unprotect) =
      { g with protectedPorts := g.protectedPorts.eraseAll ps } := by
  induction ps generalizing g with
  | nil => rfl
  | cons p ps ih =>
      rw [List.map_cons, run_cons, ih]
      rfl

/-- **What a reload does to the gate**: the trust store is the bundle's, the
port writes happen on `PROTECTED`, and everything else stays. -/
theorem reload_gate (d : Daemon Cr) (order : IterOrder UInt16) (b : Bundle) :
    (d.reload order b).gate =
      { d.gate with
        keeper := { d.gate.keeper with
          trust := (d.gate.keeper.trust.set b.clients).setTokens b.tokens }
        protectedPorts :=
          (d.gate.protectedPorts.insertAll
            (order.list (b.protectedPorts.toFinset \ d.knownPorts)) 1).eraseAll
              (order.list (d.knownPorts \ b.protectedPorts.toFinset)) } := by
  rw [reload, reloadUpdates]
  simp only [run_append, run_protect, run_unprotect, run_cons, run_nil]
  rfl

/-! ## Start-up -/

/-- A started daemon holds its policy, and `PROTECTED` holds its ports. -/
theorem boot_eq_ok {p : GateParams} {crypto : Cr} {policy : Bundle} {d : Daemon Cr}
    (h : boot p crypto policy = .ok d) :
    ∃ protectedPorts : ProtectedMap, protectedPorts.keys = policy.protectedPorts.toFinset ∧
      d.gate = Gate.init p.config crypto
        (((SharedTrust.new p.suite).set policy.clients).setTokens policy.tokens) p.replayWindow
        p.nftablesFloor protectedPorts p.knockPort ∧
      d.knownPorts = policy.protectedPorts.toFinset ∧ d.appliedGen = policy.generation := by
  obtain ⟨m, hm, h⟩ := except_bind_eq_ok.mp h
  have hkeys := BoundedDict.keys_of_insertEach? (okOr_eq_ok.mp hm)
  rw [BoundedDict.keys_empty, Finset.empty_union] at hkeys
  rw [← Except.ok.inj h]
  exact ⟨m, hkeys, rfl, rfl, rfl⟩

/-- Start-up succeeds with a policy of at most 64 distinct ports. -/
theorem boot_of_card_le (p : GateParams) (crypto : Cr) (policy : Bundle)
    (h : policy.protectedPorts.toFinset.card ≤ protectedMaxEntries) :
    ∃ d, boot p crypto policy = .ok d := by
  have hcard : ((BoundedDict.empty : ProtectedMap).keys ∪ policy.protectedPorts.toFinset).card ≤
      protectedMaxEntries := by
    rw [BoundedDict.keys_empty, Finset.empty_union]
    exact h
  obtain ⟨m, hm⟩ := BoundedDict.insertEach?_eq_some (v := (1 : UInt8)) hcard
  unfold boot
  rw [hm, okOr_some, except_ok_bind]
  exact ⟨_, rfl⟩

theorem start_of_load {src : BundleSource} {p : GateParams} {crypto : Cr}
    {file : Except String (List UInt8)} {b : Bundle} {d : Daemon Cr} (hload : src.load file = .ok b)
    (hboot : boot p crypto b = .ok d) : start src p crypto file = .ok d := by
  rw [start, mapError_eq_ok.mpr hload, except_ok_bind]
  exact hboot

theorem start_eq_ok {src : BundleSource} {p : GateParams} {crypto : Cr}
    {file : Except String (List UInt8)} {d : Daemon Cr} (h : start src p crypto file = .ok d) :
    ∃ b, src.load file = .ok b ∧ boot p crypto b = .ok d := by
  obtain ⟨b, hb, hboot⟩ := except_bind_eq_ok.mp h
  exact ⟨b, mapError_eq_ok.mp hb, hboot⟩

/-- An order in which the watcher may walk a set of ports. -/
def portOrder : IterOrder UInt16 := IterOrder.sortedBy UInt16.toNat fun _ _ h => UInt16.toNat_inj.mp h

end Daemon

end SpaDevice
