import SpaDevice.Keygen
import SpaDevice.Pinhole
import SpaDevice.Verdict

/-!
# SpaDevice.Opening

`with_open` against the gate.  The client knocks, waits, and sends the `SYN` of its
connection; in the meantime the network may lose the knock, and the gate handles
whatever else reaches it, in any order.  What an attempt meets is an `Attempt`, and
a world is a gate together with the attempts to come.

Attempts fail: the knock is lost, comes too late, finds no room, or another knock of
the same address narrows its pinhole.  But one attempt that arrives is enough
(`withOpen_connects`): the loop has connected by then.
-/

namespace SpaDevice

/-- What one attempt of `with_open` meets: its draws and its socket, what reaches
the gate before and after the knock, when the gate handles the knock (unless it is
lost), the `SYN` with its time, and what the connection gives if the `SYN` gets
through. -/
structure Attempt (lib : AwsLc) (SocketAddr V : Type) where
  draws : KnockDraws lib
  net : UdpSockets SocketAddr
  before : List GateEvent
  handled : Option Clocks
  between : List GateEvent
  synTime : UInt64
  syn : List UInt8
  reply : Except String V

/-- The gate, the number of attempts that are over, and the datagram on its way. -/
structure OpenWorld (lib : AwsLc) where
  gate : Gate (GateKeypair lib)
  tried : Nat
  sent : Option (List UInt8)

namespace Knocker

variable {lib : AwsLc} {SocketAddr V : Type}

/-- What happens at the gate between the knock and the `SYN`. -/
def graceEvents (source : IpAddr) (a : Attempt lib SocketAddr V) (sent : Option (List UInt8)) :
    List GateEvent :=
  match a.handled, sent with
  | some clk, some packet => a.before ++ .traffic (.knock clk packet source) :: a.between
  | _, _ => a.before ++ a.between

/-- `with_open` at the gate, from the address `source`; a `SYN` that is dropped times
out. -/
def connecting (k : Knocker lib) (target : String) (ports : List UInt16) (source : IpAddr)
    (coming : Nat → Attempt lib SocketAddr V) : Connecting (OpenWorld lib) V where
  knock w :=
    match k.knock (coming w.tried).net target ports (coming w.tried).draws with
    | .error e => (.error e, w)
    | .ok (packet, _) => (.ok (), { w with sent := some packet })
  grace w := { w with gate := run Gate.step w.gate (graceEvents source (coming w.tried) w.sent) }
  connect w :=
    let a := coming w.tried
    (if (spaGate w.gate.maps a.synTime a.syn).1 = .pass then a.reply
      else .error "connection timed out",
      { gate := w.gate.step (.traffic (.frame a.synTime a.syn)), tried := w.tried + 1, sent := none })

end Knocker

/-! ## One attempt -/

namespace Gate

variable {Cr : Type} [Crypto Cr]

/-- While no accepted knock comes from an address, its grant stays. -/
theorem get_allow_run {g : Gate Cr} {es : List GateEvent} {key : Addr}
    (h : ∀ c ∈ g.openCalls es, c.key ≠ key) : (run step g es).allow.get key = g.allow.get key := by
  induction es generalizing g with
  | nil => rfl
  | cons e es ih =>
      rw [openCalls_cons] at h
      rw [run_cons, ih fun c hc => h c (List.mem_append_right _ hc), allow, writer_step]
      cases hc : g.openCall e with
      | none => rfl
      | some c =>
          have hne : c.key ≠ key := h c (by simp [hc])
          rw [Option.elim_some, BpfGateWriter.allow_call, BoundedDict.get_insertOrKeep]
          simp [hne.symm, allow]

omit [Crypto Cr] in
/-- A `SYN` from an address with a live grant for its port passes, whether the port
is protected or not. -/
theorem syn_passes {g : Gate Cr} {bytes : List UInt8} {flow : FlowKey} {flags : UInt8} {now : UInt64}
    (hh : tcpHeader bytes = some (flow, flags)) (hsyn : isSyn flags = true)
    (hallow : sourceAllowed g.allow flow.saddr flow.dport now = true) :
    (spaGate g.maps now bytes).1 = .pass := by
  cases hprot : isProtected g.maps flow.dport with
  | true =>
      obtain ⟨m', hpass⟩ := tryGate_of_allowed_syn hh hprot hsyn hallow
      rw [spaGate, hpass]
  | false => rw [spaGate, tryGate_of_tcpHeader hh, if_neg (by simp [hprot])]

end Gate

/-- An attempt that arrives, at the gate `g` that handles its knock: the client is
registered for its ports, the knock is handled within the skew, with a nonce that the
gate does not remember and with room in the allow-list, and the `SYN` follows for one
of its ports before the pinhole ends and before the address knocks again. -/
structure Arrives {lib : AwsLc} {SocketAddr V : Type} (k : Knocker lib) (ports : List UInt16)
    (source : IpAddr) (a : Attempt lib SocketAddr V) (g : Gate (GateKeypair lib)) (nonce : Nonce)
    (timestampNanos : UInt64) (clk : Clocks) (allowed : List UInt16) (flow : FlowKey) (flags : UInt8) :
    Prop where
  gives : a.draws.Gives nonce timestampNanos
  handled : a.handled = some clk
  gatePubkey : k.gatePubkey = g.keeper.crypto.pub
  gateId : k.gateId = g.keeper.config.gateId
  suite : k.client.suite = g.keeper.crypto.suite
  trustSuite : g.keeper.trust.suite = g.keeper.crypto.suite
  registered : g.keeper.trust.clients.lookup k.client.thumbprint = some (k.client.pub, allowed)
  count : 1 ≤ ports.length ∧ ports.length ≤ maxPorts
  mayReach : ∀ p ∈ ports, p ∈ allowed
  skew : WithinSkew clk.wall timestampNanos g.keeper.config.skewNanos
  fresh : ¬ g.keeper.replay.Live clk.instant nonce
  room : g.allow.Fits (addrKey source)
  header : tcpHeader a.syn = some (flow, flags)
  syn : isSyn flags = true
  synSource : flow.saddr = addrKey source
  synPort : flow.dport ∈ ports
  inTime : a.synTime < satAdd clk.mono g.keeper.config.pinholeNanos
  alone : ∀ packet, k.sealPorts ports a.draws = .ok packet →
    ∀ c ∈ (g.step (.traffic (.knock clk packet source))).openCalls a.between, c.key ≠ addrKey source

section

variable {lib : AwsLc} (hl : lib.Lawful) {SocketAddr V : Type} {k : Knocker lib} {ports : List UInt16}
  {source : IpAddr} {a : Attempt lib SocketAddr V} {g : Gate (GateKeypair lib)} {nonce : Nonce}
  {timestampNanos : UInt64} {clk : Clocks} {allowed : List UInt16} {flow : FlowKey} {flags : UInt8}

include hl

/-- The knock of an attempt that arrives is opened. -/
theorem Arrives.opened (h : Arrives k ports source a g nonce timestampNanos clk allowed flow flags) :
    ∃ packet, k.sealPorts ports a.draws = .ok packet ∧
      (g.step (.traffic (.knock clk packet source))).allow = g.allow.insertOrKeep (addrKey source)
        (Grant.make (satAdd clk.mono g.keeper.config.pinholeNanos) ports) := by
  have hknown : k.Known g.keeper allowed :=
    ⟨h.gatePubkey, h.gateId, h.suite, h.trustSuite, h.registered⟩
  obtain ⟨packet, opened, policy, hseal, hports, hopened⟩ :=
    hknown.opened hl h.count h.mayReach h.gives h.skew h.fresh source
  refine ⟨packet, hseal, ?_⟩
  rw [Gate.step, Gate.traffic, Gate.allow, hopened, Gatekeeper.afterOpen, hports]
  rfl

/-- The `SYN` of an attempt that arrives passes the gate: right after the knock its
address holds its grant, and nothing replaces it. -/
theorem Arrives.passes (h : Arrives k ports source a g nonce timestampNanos clk allowed flow flags) :
    ∃ packet, k.sealPorts ports a.draws = .ok packet ∧
      (spaGate (run Gate.step (g.step (.traffic (.knock clk packet source))) a.between).maps a.synTime
        a.syn).1 = .pass := by
  obtain ⟨packet, hseal, hallow⟩ := h.opened hl
  refine ⟨packet, hseal, Gate.syn_passes h.header h.syn ?_⟩
  refine (sourceAllowed_iff _ _ _ _).mpr
    ⟨Grant.make (satAdd clk.mono g.keeper.config.pinholeNanos) ports, ?_, ?_, ?_⟩
  · rw [h.synSource, Gate.get_allow_run (h.alone packet hseal), hallow,
      BoundedDict.get_insertOrKeep, if_pos ⟨h.room, rfl⟩]
  · rw [Grant.expiryNs_make]
    exact h.inTime
  · have hcount : ports.length ≤ maxGrantPorts := h.count.2
    rw [Grant.allowsPort_make, List.take_of_length_le hcount]
    exact h.synPort

end

/-! ## The loop -/

section

variable {lib : AwsLc} {SocketAddr V : Type} (k : Knocker lib) (target : String) (ports : List UInt16)
  (source : IpAddr) (coming : Nat → Attempt lib SocketAddr V)

/-- The knock of the attempt leaves the client. -/
def Attempt.Sends (a : Attempt lib SocketAddr V) : Prop :=
  ∃ packet addr, k.knock a.net target ports a.draws = .ok (packet, addr)

theorem attempt_of_sends {w : OpenWorld lib} {packet : List UInt8} {addr : SocketAddr}
    (h : k.knock (coming w.tried).net target ports (coming w.tried).draws = .ok (packet, addr)) :
    let a := coming w.tried
    let g := run Gate.step w.gate (Knocker.graceEvents source a (some packet))
    (k.connecting target ports source coming).attempt w =
      (.ok (if (spaGate g.maps a.synTime a.syn).1 = .pass then a.reply
          else .error "connection timed out"),
        { gate := g.step (.traffic (.frame a.synTime a.syn)), tried := w.tried + 1
          sent := none }) := by
  simp only [Connecting.attempt, Knocker.connecting, h]

/-- As long as the knocks leave the client, the attempts are counted. -/
theorem tried_after {i : Nat} (hsends : ∀ j < i, (coming j).Sends k target ports)
    (g : Gate (GateKeypair lib)) :
    ((k.connecting target ports source coming).after ⟨g, 0, none⟩ i).tried = i := by
  induction i with
  | zero => rfl
  | succ i ih =>
      have htried := ih fun j hj => hsends j (Nat.lt_succ_of_lt hj)
      obtain ⟨packet, addr, hknock⟩ := hsends i (Nat.lt_succ_self i)
      rw [Connecting.after]
      rw [← htried] at hknock
      rw [attempt_of_sends k target ports source coming hknock, htried]

/-- **One attempt that arrives is enough**: if the knocks leave the client up to the
`i`-th attempt, and that one arrives and its connection is accepted once the `SYN` is
through, then `with_open` returns the connection of this attempt or of an earlier
one, and knocks no more after it. -/
theorem withOpen_connects (hl : lib.Lawful) (g : Gate (GateKeypair lib)) {attempts : UInt32} {i : Nat}
    (hi : i < max attempts.toNat 1) (hsends : ∀ j ≤ i, (coming j).Sends k target ports)
    {nonce : Nonce} {timestampNanos : UInt64} {clk : Clocks} {allowed : List UInt16} {flow : FlowKey}
    {flags : UInt8} {value : V}
    (harrives : Arrives k ports source (coming i)
      (run Gate.step ((k.connecting target ports source coming).after ⟨g, 0, none⟩ i).gate
        (coming i).before) nonce timestampNanos clk allowed flow flags)
    (hreply : (coming i).reply = .ok value) :
    ∃ j ≤ i, ∃ value' w, (coming j).reply = .ok value' ∧ w.tried = j + 1 ∧
      (k.connecting target ports source coming).withOpen attempts ⟨g, 0, none⟩ = (.ok value', w) := by
  have htried : ∀ j ≤ i, ((k.connecting target ports source coming).after ⟨g, 0, none⟩ j).tried = j :=
    fun j hj => tried_after k target ports source coming
      (fun j' hj' => hsends j' (Nat.le_trans (Nat.le_of_lt hj') hj)) g
  have hattempt : ∀ j ≤ i, ∃ r,
      ((k.connecting target ports source coming).attempt
        ((k.connecting target ports source coming).after ⟨g, 0, none⟩ j)).1 = .ok r ∧
        ∀ v, r = .ok v → (coming j).reply = .ok v := by
    intro j hj
    obtain ⟨packet, addr, hknock⟩ := hsends j hj
    have ht := htried j hj
    rw [← ht] at hknock
    rw [attempt_of_sends k target ports source coming hknock, ht]
    refine ⟨_, rfl, fun v hv => ?_⟩
    split at hv
    · exact hv
    · contradiction
  have hconnects : ((k.connecting target ports source coming).attempt
      ((k.connecting target ports source coming).after ⟨g, 0, none⟩ i)).1 = .ok (.ok value) := by
    obtain ⟨packet, hseal, hpass⟩ := harrives.passes hl
    obtain ⟨packet', addr, hknock⟩ := hsends i (Nat.le_refl i)
    obtain ⟨packet'', hseal', hsend⟩ := except_bind_eq_ok.mp hknock
    obtain ⟨addr', -, hsent⟩ := except_bind_eq_ok.mp hsend
    have hpacket : packet'' = packet' := (Prod.mk.inj (Except.ok.inj hsent)).1
    obtain rfl : packet' = packet := by
      rw [← hpacket]
      exact Except.ok.inj (hseal'.symm.trans hseal)
    have ht := htried i (Nat.le_refl i)
    rw [← ht] at hknock
    rw [attempt_of_sends k target ports source coming hknock, ht]
    have hevents : Knocker.graceEvents source (coming i) (some packet') =
        (coming i).before ++ .traffic (.knock clk packet' source) :: (coming i).between := by
      simp [Knocker.graceEvents, harrives.handled]
    simp only [hevents, run_append, run_cons, hpass, if_true, hreply]
  obtain ⟨j, hj, value', hvalue, hloop⟩ := Connecting.loop_of_connects _ hi ""
    (fun j hj => (hattempt j (Nat.le_of_lt hj)).imp fun r hr => hr.1) hconnects
  obtain ⟨r, hr, hreplies⟩ := hattempt j hj
  have hr' : r = .ok value' := Except.ok.inj (hr.symm.trans hvalue)
  refine ⟨j, hj, value', _, hreplies value' hr', ?_, hloop⟩
  exact tried_after k target ports source coming
    (fun j' hj' => hsends j' (Nat.le_trans (Nat.lt_succ_iff.mp hj') hj)) g

end

/-- The sample client as a knocker. -/
def sampleKnocker : Knocker transparent := ⟨sampleGate.pub, sampleConfig.gateId, sampleClient 5⟩

/-- An attempt whose knock is handled at 1 second and whose `SYN` comes a second
later. -/
def sampleAttempt : Attempt transparent Unit Unit where
  draws := devDraws
  net := ⟨fun _ => .ok [()], fun _ => false, fun _ => .ok (), fun _ _ => .ok ()⟩
  before := []
  handled := some (sampleClocks 1)
  between := []
  synTime := 2000000000
  syn := Gate.sampleSyn
  reply := .ok ()

theorem sampleAttempt_arrives :
    Arrives sampleKnocker [22] sampleAddr sampleAttempt Gate.sampleInit (beArr 16 0) sampleWall
      (sampleClocks 1) [22] Gate.sampleFlow 2 where
  gives := devDraws_gives
  handled := rfl
  gatePubkey := rfl
  gateId := rfl
  suite := rfl
  trustSuite := rfl
  registered := lookup_sampleClients
  count := by decide
  mayReach := by simp
  skew := withinSkew_sample
  fresh := Gate.not_live_init _ _ _ _ _ _ _ _ _
  room := .inr (by decide)
  header := Gate.tcpHeader_sampleSyn
  syn := by decide
  synSource := rfl
  synPort := by decide
  inTime := by decide
  alone := by
    intro packet _ c hc
    contradiction

/-- The first attempt connects. -/
theorem withOpen_connects_sample :
    ∃ w, (sampleKnocker.connecting "gate:62201" [22] sampleAddr fun _ => sampleAttempt).withOpen 3
      ⟨Gate.sampleInit, 0, none⟩ = (.ok (), w) := by
  have hsends : sampleAttempt.Sends sampleKnocker "gate:62201" [22] := by
    obtain ⟨packet, hseal, -⟩ := sampleAttempt_arrives.opened transparent_lawful
    refine ⟨packet, (), ?_⟩
    rw [Knocker.knock, hseal]
    rfl
  obtain ⟨-, -, value, w, -, -, hopen⟩ := withOpen_connects sampleKnocker "gate:62201" [22] sampleAddr
    (fun _ => sampleAttempt) transparent_lawful Gate.sampleInit
    (show 0 < max (3 : UInt32).toNat 1 by decide) (fun _ _ => hsends) sampleAttempt_arrives rfl
  exact ⟨w, hopen⟩

end SpaDevice
