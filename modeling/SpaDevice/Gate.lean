import SpaDevice.Trace
import SpaDevice.Xdp

/-!
# SpaDevice.Gate

The whole gate as one machine: the knock loop driving `Gatekeeper.admitPacket` with
the daemon's adapters, the kernel program, and the writes that a bundle reload
makes to the maps they share.

Every event is one atomic step, and a run may interleave them in any order: a
reload is a sequence of `Update`s (`Daemon.reloadUpdates`), so a knock or a
frame may fall between any two of its writes.  What the kernel evicts from its
LRU maps is an event of its own.
-/

namespace SpaDevice

/-- The gate's state: the decision core, which owns the `ALLOW` map through its
writer, and the other kernel maps. -/
structure Gate (Cr : Type) where
  keeper : Gatekeeper Cr SharedTrust MemReplay BpfGateWriter
  protectedPorts : ProtectedMap
  established : Dict FlowKey UInt64
  knockPort : UInt16
  rate : Dict Addr RateState

/-- What reaches the gate: a knock datagram, a frame on the interface, or an
eviction from one of the kernel's LRU maps. -/
inductive Traffic where
  | knock (clk : Clocks) (packet : List UInt8) (source : IpAddr)
  | frame (now : UInt64) (bytes : List UInt8)
  | evictFlow (flow : FlowKey)
  | evictRate (addr : Addr)

/-- One write of a reload: a client or token set replaced, a port cloaked (the
write fails silently when the map is full) or uncloaked. -/
inductive Update where
  | setClients (clients : List ClientEntry)
  | setTokens (tokens : List TokenEntry)
  | protect (port : UInt16)
  | unprotect (port : UInt16)

inductive GateEvent where
  | traffic (t : Traffic)
  | update (u : Update)

namespace Gate

variable {Cr : Type} [Crypto Cr]

/-- A gate that has seen no traffic. -/
def init (config : Config) (crypto : Cr) (trust : SharedTrust) (window : Nat) (nftFloor : Bool)
    (protectedPorts : ProtectedMap) (knockPort : UInt16) : Gate Cr where
  keeper :=
    { config, crypto, trust, replay := MemReplay.new window
      gate := { allow := BoundedDict.empty, nftFloor, floor := [] } }
  protectedPorts := protectedPorts
  established := ∅
  knockPort := knockPort
  rate := ∅

def allow (g : Gate Cr) : AllowMap := g.keeper.gate.allow

def maps (g : Gate Cr) : Maps where
  allow := g.allow
  protectedPorts := g.protectedPorts
  established := g.established
  config := g.knockPort
  rate := g.rate

omit [Crypto Cr] in
theorem maps_allow (g : Gate Cr) : g.maps.allow = g.allow := rfl

/-- The gate after the kernel program has run on its maps. -/
def setMaps (g : Gate Cr) (m : Maps) : Gate Cr where
  keeper := { g.keeper with gate := { g.keeper.gate with allow := m.allow } }
  protectedPorts := m.protectedPorts
  established := m.established
  knockPort := m.config
  rate := m.rate

def traffic (g : Gate Cr) : Traffic → Gate Cr
  | .knock clk packet source => { g with keeper := (g.keeper.admitPacket clk packet source).2 }
  | .frame now bytes => g.setMaps (spaGate g.maps now bytes).2
  | .evictFlow flow => { g with established := g.established.erase flow }
  | .evictRate addr => { g with rate := g.rate.erase addr }

def update (g : Gate Cr) : Update → Gate Cr
  | .setClients clients =>
      { g with keeper := { g.keeper with trust := g.keeper.trust.set clients } }
  | .setTokens tokens =>
      { g with keeper := { g.keeper with trust := g.keeper.trust.setTokens tokens } }
  | .protect port => { g with protectedPorts := g.protectedPorts.insertOrKeep port 1 }
  | .unprotect port => { g with protectedPorts := g.protectedPorts.erase port }

def step (g : Gate Cr) : GateEvent → Gate Cr
  | .traffic t => g.traffic t
  | .update u => g.update u

/-! ## What one step does -/

omit [Crypto Cr] in
theorem isProtected_maps_iff (g : Gate Cr) (port : UInt16) :
    isProtected g.maps port = true ↔ port ∈ g.protectedPorts.keys := by
  rw [BoundedDict.mem_keys_iff, ← Option.isSome_iff_exists]
  rfl

omit [Crypto Cr] in
/-- The kernel program changes nothing that the daemon owns. -/
theorem setMaps_spaGate (g : Gate Cr) (now : UInt64) (bytes : List UInt8) :
    ∃ established rate, g.setMaps (spaGate g.maps now bytes).2 = { g with established, rate } := by
  obtain ⟨established, rate, hmaps⟩ := spaGate_maps g.maps now bytes
  rw [hmaps]
  exact ⟨established, rate, rfl⟩

/-- Traffic never touches `PROTECTED`, and only a knock changes the core. -/
theorem traffic_cases (g : Gate Cr) (t : Traffic) :
    (g.traffic t).protectedPorts = g.protectedPorts ∧
      ((∃ clk packet source, t = .knock clk packet source ∧
          (g.traffic t).keeper = (g.keeper.admitPacket clk packet source).2) ∨
        (∀ clk packet source, t ≠ .knock clk packet source) ∧ (g.traffic t).keeper = g.keeper) := by
  cases t with
  | knock clk packet source => exact ⟨rfl, .inl ⟨clk, packet, source, rfl, rfl⟩⟩
  | frame now bytes =>
      obtain ⟨established, rate, heq⟩ := setMaps_spaGate g now bytes
      rw [traffic, heq]
      exact ⟨rfl, .inr ⟨by simp, rfl⟩⟩
  | evictFlow flow => exact ⟨rfl, .inr ⟨by simp, rfl⟩⟩
  | evictRate addr => exact ⟨rfl, .inr ⟨by simp, rfl⟩⟩

/-- The only event that writes `ALLOW` is an accepted knock, and it writes the
grant of its source. -/
theorem allow_step (g : Gate Cr) (e : GateEvent) :
    (g.step e).allow = g.allow ∨
    ∃ clk packet source ports, e = .traffic (.knock clk packet source) ∧
      (g.keeper.admitPacket clk packet source).1 = .opened ports ∧
      (g.step e).allow = g.allow.insertOrKeep (addrKey source)
        (Grant.make (satAdd clk.mono g.keeper.config.pinholeNanos) ports) := by
  cases e with
  | update u => cases u <;> exact .inl rfl
  | traffic t =>
      rcases (traffic_cases g t).2 with ⟨clk, packet, source, rfl, hk⟩ | ⟨-, hk⟩
      · cases hd : (g.keeper.admitPacket clk packet source).1 with
        | opened ports =>
            obtain ⟨opened, policy, -, -, rfl, hafter⟩ := Gatekeeper.admitPacket_of_opened hd
            refine .inr ⟨clk, packet, source, _, rfl, hd, ?_⟩
            rw [step, allow, hk, hafter]
            rfl
        | rejected reason =>
            left
            rw [step, allow, hk]
            rcases Gatekeeper.admitPacket_of_rejected hd with hsame | ⟨opened, policy, -, -, hafter⟩
            · rw [hsame]
              rfl
            · rw [hafter]
              rfl
      · left
        rw [step, allow, hk]
        rfl

/-- No event changes the config or the crypto adapter. -/
theorem config_crypto_step (g : Gate Cr) (e : GateEvent) :
    (g.step e).keeper.config = g.keeper.config ∧ (g.step e).keeper.crypto = g.keeper.crypto := by
  cases e with
  | update u => cases u <;> exact ⟨rfl, rfl⟩
  | traffic t =>
      rcases (traffic_cases g t).2 with ⟨clk, packet, source, rfl, hk⟩ | ⟨-, hk⟩
      · rw [step, hk]
        exact Gatekeeper.admitPacket_config_crypto g.keeper clk packet source
      · rw [step, hk]
        exact ⟨rfl, rfl⟩

theorem config_run (g : Gate Cr) (es : List GateEvent) :
    (run step g es).keeper.config = g.keeper.config ∧
      (run step g es).keeper.crypto = g.keeper.crypto := by
  refine run_invariant step
    (I := fun g' => g'.keeper.config = g.keeper.config ∧ g'.keeper.crypto = g.keeper.crypto)
    ?_ ⟨rfl, rfl⟩
  intro g' e _ h
  obtain ⟨hc, hcr⟩ := config_crypto_step g' e
  exact ⟨hc.trans h.1, hcr.trans h.2⟩

end Gate

end SpaDevice
