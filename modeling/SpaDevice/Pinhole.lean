import SpaDevice.Cloak

/-!
# SpaDevice.Pinhole

How long a grant lasts.  The core tells its writer about every accepted knock
with one call of `open`, and everything the writer holds follows from the calls
it got (`writer_run`).  A call replaces the grant of its address, so a knock
closes what an earlier one from the same address opened, unless it lists the
earlier ports again: pinholes last as long as promised exactly when no knock
falls into an earlier pinhole of its address without listing its ports
(`pinholes_last_iff`).
-/

namespace SpaDevice

/-- A call of `GateWriter::open`, with the clock reading it is made at. -/
structure GrantCall where
  now : UInt64
  source : IpAddr
  ports : List UInt16
  ttlNanos : UInt64

namespace GrantCall

/-- The key the call writes in `ALLOW`. -/
def key (c : GrantCall) : Addr := addrKey c.source

/-- The end of the pinhole the call asks for. -/
def closes (c : GrantCall) : Nat := c.now.toNat + c.ttlNanos.toNat

/-- The grant the call writes. -/
def grant (c : GrantCall) : Grant := Grant.make (satAdd c.now c.ttlNanos) c.ports

theorem expiryNs_grant (c : GrantCall) : c.grant.expiryNs.toNat = min c.closes (2 ^ 64 - 1) := by
  rw [grant, Grant.expiryNs_make, toNat_satAdd]
  rfl

/-- A grant lists the first eight ports of its call. -/
theorem allowsPort_grant {c : GrantCall} (hports : c.ports.length ≤ maxGrantPorts) (port : UInt16) :
    c.grant.allowsPort port = true ↔ port ∈ c.ports := by
  rw [grant, Grant.allowsPort_make, List.take_of_length_le hports]

end GrantCall

namespace BpfGateWriter

def call (w : BpfGateWriter) (c : GrantCall) : BpfGateWriter :=
  w.openPorts c.now c.source c.ports c.ttlNanos

theorem allow_call (w : BpfGateWriter) (c : GrantCall) :
    (w.call c).allow = w.allow.insertOrKeep c.key c.grant := rfl

/-- The insert of the call finds room in `ALLOW`. -/
def Fits (w : BpfGateWriter) (c : GrantCall) : Prop := w.allow.Fits c.key

/-- After a call that fits, its address holds its grant, and no other address
changed. -/
theorem get_call {w : BpfGateWriter} {c : GrantCall} (h : w.Fits c) (k : Addr) :
    (w.call c).allow.get k = if k = c.key then some c.grant else w.allow.get k := by
  have hfits : w.allow.Fits c.key := h
  rw [allow_call, BoundedDict.get_insertOrKeep]
  simp only [hfits, true_and]

end BpfGateWriter

/-! ## The calls of a run -/

namespace Gate

variable {Cr : Type} [Crypto Cr]

/-- The call the core makes on its writer when it handles the event. -/
def openCall (g : Gate Cr) : GateEvent → Option GrantCall
  | .traffic (.knock clk packet source) =>
      match (g.keeper.admitPacket clk packet source).1 with
      | .opened ports => some ⟨clk.mono, source, ports, g.keeper.config.pinholeNanos⟩
      | .rejected _ => none
  | _ => none

/-- The calls along a run: the accepted knocks. -/
def openCalls (g : Gate Cr) (es : List GateEvent) : List GrantCall := record step openCall g es

theorem openCalls_cons (g : Gate Cr) (e : GateEvent) (es : List GateEvent) :
    g.openCalls (e :: es) = (g.openCall e).toList ++ (g.step e).openCalls es :=
  record_cons step openCall g e es

theorem openCall_eq_some {g : Gate Cr} {e : GateEvent} {c : GrantCall} (h : g.openCall e = some c) :
    ∃ clk packet, e = .traffic (.knock clk packet c.source) ∧ c.now = clk.mono ∧
      (g.keeper.admitPacket clk packet c.source).1 = .opened c.ports ∧
      c.ttlNanos = g.keeper.config.pinholeNanos := by
  match e with
  | .traffic (.knock clk packet source) =>
      unfold openCall at h
      dsimp only at h
      split at h
      · next ports hd =>
          obtain rfl := Option.some.inj h
          exact ⟨clk, packet, rfl, rfl, hd, rfl⟩
      · contradiction

/-- The reading of a call is the time of its event. -/
theorem time_of_openCall {g : Gate Cr} {e : GateEvent} {c : GrantCall} (h : g.openCall e = some c) :
    e.time = some c.now := by
  obtain ⟨clk, packet, rfl, hnow, -⟩ := openCall_eq_some h
  rw [hnow]
  rfl

/-- The writer changes exactly by the calls. -/
theorem writer_step (g : Gate Cr) (e : GateEvent) :
    (g.step e).keeper.gate = (g.openCall e).elim g.keeper.gate g.keeper.gate.call := by
  cases e with
  | update u => cases u <;> rfl
  | traffic t =>
      rcases (traffic_cases g t).2 with ⟨clk, packet, source, rfl, hk⟩ | ⟨hn, hk⟩
      · rw [step, hk, openCall]
        cases hd : (g.keeper.admitPacket clk packet source).1 with
        | opened ports =>
            obtain ⟨opened, policy, -, -, rfl, hafter⟩ := Gatekeeper.admitPacket_of_opened hd
            rw [hafter]
            rfl
        | rejected reason =>
            rcases Gatekeeper.admitPacket_of_rejected hd with hsame | ⟨opened, policy, -, -, hafter⟩
            · rw [hsame]
              rfl
            · rw [hafter]
              rfl
      · rw [step, hk]
        cases t with
        | knock clk packet source => exact absurd rfl (hn clk packet source)
        | frame now bytes => rfl
        | evictFlow flow => rfl
        | evictRate addr => rfl

/-- **The writer is a function of the accepted knocks.** -/
theorem writer_run (g : Gate Cr) (es : List GateEvent) :
    (run step g es).keeper.gate = run BpfGateWriter.call g.keeper.gate (g.openCalls es) :=
  run_record (fun g : Gate Cr => g.keeper.gate) writer_step g es

/-! ## How long a pinhole lasts -/

/-- `now` is not before any event of the run. -/
def Reached (es : List GateEvent) (now : UInt64) : Prop :=
  ∀ t ∈ es.filterMap GateEvent.time, t ≤ now

/-- At the end of the run, at any time `now` that it has reached, every accepted
knock whose pinhole is not over has its source allowed on its ports. -/
def PinholesOpen (g : Gate Cr) (es : List GateEvent) : Prop :=
  ∀ now, Reached es now → ∀ c ∈ g.openCalls es, ∀ port ∈ c.ports, now.toNat < c.closes →
    sourceAllowed (run step g es).allow c.key port now = true

/-- Every insert of an accepted knock finds room in `ALLOW`. -/
def InsertsFit (g : Gate Cr) (es : List GateEvent) : Prop :=
  Always step (fun g e => ∀ c, g.openCall e = some c → g.keeper.gate.Fits c) g es

theorem fits_openCalls {g : Gate Cr} {es : List GateEvent} (h : InsertsFit g es) :
    Always BpfGateWriter.call BpfGateWriter.Fits g.keeper.gate (g.openCalls es) :=
  h.of_record (fun g : Gate Cr => g.keeper.gate) writer_step

end Gate

/-- A call within the pinhole of an earlier call of its address lists its
ports. -/
def GrantCall.Covers (c c' : GrantCall) : Prop :=
  c'.key = c.key → c'.now.toNat < c.closes → c.ports ⊆ c'.ports

/-- No call narrows the pinhole of an earlier one, and every pinhole ends within
64 bits. -/
def NeverNarrowed (cs : List GrantCall) : Prop :=
  cs.Pairwise GrantCall.Covers ∧ ∀ c ∈ cs, c.closes < 2 ^ 64

/-- While no call has come after the end of its pinhole, the address of a call
holds a grant for its ports that lasts at least as long. -/
theorem BpfGateWriter.get_of_neverNarrowed {w : BpfGateWriter} {cs : List GrantCall}
    (hfits : Always call Fits w cs) (hn : NeverNarrowed cs)
    (hmono : cs.Pairwise fun c c' => c.closes ≤ c'.closes)
    (hports : ∀ c ∈ cs, c.ports.length ≤ maxGrantPorts) :
    ∀ c ∈ cs, ∀ port ∈ c.ports, (∀ c' ∈ cs, c'.now.toNat < c.closes) →
      ∃ grant, (run call w cs).allow.get c.key = some grant ∧ c.closes ≤ grant.expiryNs.toNat ∧
        grant.allowsPort port = true := by
  induction cs using List.reverseRecOn with
  | nil =>
      intro c hc
      contradiction
  | append_singleton cs last ih =>
      obtain ⟨hcov, h64⟩ := hn
      rw [List.pairwise_append] at hcov hmono
      have hlast : last ∈ cs ++ [last] := List.mem_append_right cs (List.mem_singleton_self last)
      have hget := get_call (hfits cs last [] rfl)
      have hexp : last.closes ≤ last.grant.expiryNs.toNat := by
        have hlt := h64 last hlast
        rw [GrantCall.expiryNs_grant]
        omega
      intro c hc port hport hopen
      rw [run_append, run_cons, run_nil, hget]
      by_cases hkey : c.key = last.key
      · -- The last call wrote the grant of this address.
        rw [if_pos hkey]
        refine ⟨last.grant, rfl, ?_⟩
        rw [GrantCall.allowsPort_grant (hports last hlast)]
        rcases List.mem_append.mp hc with hc | hc
        · have hcovers := hcov.2.2 c hc last (List.mem_singleton_self last)
          have hcloses := hmono.2.2 c hc last (List.mem_singleton_self last)
          exact ⟨hcloses.trans hexp, hcovers hkey.symm (hopen last hlast) hport⟩
        · rw [List.mem_singleton.mp hc] at hport ⊢
          exact ⟨hexp, hport⟩
      · rw [if_neg hkey]
        rcases List.mem_append.mp hc with hc | hc
        · exact ih hfits.append_left ⟨hcov.1, fun c hc => h64 c (List.mem_append_left _ hc)⟩ hmono.1
            (fun c hc => hports c (List.mem_append_left _ hc)) c hc port hport
            (fun c' hc' => hopen c' (List.mem_append_left _ hc'))
        · exact absurd (congrArg GrantCall.key (List.mem_singleton.mp hc)) hkey

namespace Gate

section

variable {Cr : Type} [Crypto Cr]

/-- Along a run with a monotone clock the pinholes end in the order in which
they were opened. -/
theorem openCalls_pairwise {g : Gate Cr} {es : List GateEvent} (hclock : ClockMonotone es) :
    (g.openCalls es).Pairwise fun c c' => c.now ≤ c'.now ∧ c.closes ≤ c'.closes := by
  refine record_pairwise ?_
  intro before e mid e' after c c' heq hc hc'
  have hle : c.now ≤ c'.now := by
    have hsplit : es = ((before ++ e :: mid) ++ [e']) ++ after := by rw [heq]; simp
    rw [hsplit] at hclock
    exact hclock.of_append.le (by simp) (time_of_openCall hc) (time_of_openCall hc')
  have httl : c.ttlNanos = c'.ttlNanos := by
    obtain ⟨-, -, -, -, -, h⟩ := openCall_eq_some hc
    obtain ⟨-, -, -, -, -, h'⟩ := openCall_eq_some hc'
    rw [h, h', (config_run _ mid).1, (config_crypto_step _ e).1]
  refine ⟨hle, ?_⟩
  have hle' := UInt64.le_iff_toNat_le.mp hle
  rw [GrantCall.closes, GrantCall.closes, httl]
  omega

/-- The readings of the calls are among the times of the run. -/
theorem now_le_of_reached {g : Gate Cr} {es : List GateEvent} {now : UInt64} (h : Reached es now)
    {c : GrantCall} (hc : c ∈ g.openCalls es) : c.now ≤ now := by
  obtain ⟨before, e, after, rfl, hcall⟩ := mem_record_iff.mp hc
  exact h c.now (List.mem_filterMap.mpr ⟨e, by simp, time_of_openCall hcall⟩)

end

variable {lib : AwsLc}

/-- An accepted knock asks for 1 to 8 ports. -/
theorem length_ports_of_openCall {g : Gate (GateKeypair lib)} {e : GateEvent} {c : GrantCall}
    (h : g.openCall e = some c) : 1 ≤ c.ports.length ∧ c.ports.length ≤ maxGrantPorts := by
  obtain ⟨clk, packet, -, -, hd, -⟩ := openCall_eq_some h
  obtain ⟨opened, policy, hacc, -, hports, -⟩ := Gatekeeper.admitPacket_of_opened hd
  rw [hports]
  exact (GateKeypair.openPacket_signingBytes hacc.openPacket).2

/-- The last event of a run reaches its own time. -/
theorem reached_last {es : List GateEvent} {e : GateEvent} {t : UInt64}
    (hclock : ClockMonotone (es ++ [e])) (ht : e.time = some t) : Reached (es ++ [e]) t := by
  intro t' ht'
  obtain ⟨e', he', htime⟩ := List.mem_filterMap.mp ht'
  rcases List.mem_append.mp he' with he' | he'
  · exact hclock.le he' htime ht
  · rw [List.mem_singleton.mp he', ht] at htime
    rw [Option.some.inj htime]
    exact UInt64.le_refl t'

/-- Right after an accepted knock with room in `ALLOW`, its address is allowed
what its own grant allows. -/
theorem sourceAllowed_of_openCall {g : Gate (GateKeypair lib)} {es : List GateEvent} {e : GateEvent}
    {c : GrantCall} (hc : (run step g es).openCall e = some c)
    (hfits : (run step g es).keeper.gate.Fits c) (port : UInt16) (now : UInt64) :
    sourceAllowed (run step g (es ++ [e])).allow c.key port now = true ↔
      now < c.grant.expiryNs ∧ port ∈ c.ports := by
  have hget : (run step g (es ++ [e])).allow.get c.key = some c.grant := by
    rw [run_append, run_cons, run_nil, allow, writer_step, hc, Option.elim_some,
      BpfGateWriter.get_call hfits, if_pos rfl]
  rw [sourceAllowed_iff, hget, ← GrantCall.allowsPort_grant (length_ports_of_openCall hc).2]
  constructor
  · rintro ⟨grant, hgrant, h⟩
    rw [Option.some.inj hgrant]
    exact h
  · intro h
    exact ⟨c.grant, rfl, h⟩

section

variable {g : Gate (GateKeypair lib)} {es : List GateEvent} (hclock : ClockMonotone es)
  (hfits : InsertsFit g es)

include hclock hfits

/-- Where pinholes last, a knock within an earlier pinhole of its address lists
the earlier ports: right after it only its own grant counts. -/
theorem covers_of_pinholesOpen (h : ∀ es', es' <+: es → PinholesOpen g es') :
    (g.openCalls es).Pairwise GrantCall.Covers := by
  refine record_pairwise ?_
  intro before e mid e' after c c' heq hc hc' hkey hwithin port hport
  have hsplit : es = ((before ++ e :: mid) ++ [e']) ++ after := by rw [heq]; simp
  have hrun : run step (step (run step g before) e) mid = run step g (before ++ e :: mid) := by
    rw [run_append, run_cons]
  rw [hrun] at hc'
  have hroom := hfits (before ++ e :: mid) e' after (by rw [heq]; simp) c' hc'
  rw [hsplit] at hclock
  have hreached := reached_last hclock.of_append (time_of_openCall hc')
  have hmem : c ∈ g.openCalls ((before ++ e :: mid) ++ [e']) :=
    mem_record_iff.mpr ⟨before, e, mid ++ [e'], by simp, hc⟩
  have hopen := h _ ⟨after, hsplit.symm⟩ c'.now hreached c hmem port hport hwithin
  rw [← hkey, sourceAllowed_of_openCall hc' hroom] at hopen
  exact hopen.2

omit hclock in
/-- Where pinholes last, none of them reaches the end of the clock: the expiry
saturates there. -/
theorem closes_lt_of_pinholesOpen (h : ∀ es', es' <+: es → PinholesOpen g es') :
    ∀ c ∈ g.openCalls es, c.closes < 2 ^ 64 := by
  intro c hc
  obtain ⟨before, e, after, rfl, hcall⟩ := mem_record_iff.mp hc
  obtain ⟨port, hport⟩ := List.exists_mem_of_length_pos (length_ports_of_openCall hcall).1
  by_contra hsat
  have hmax : (0xFFFFFFFFFFFFFFFF : UInt64).toNat = 2 ^ 64 - 1 := rfl
  have hreached : Reached (before ++ [e]) 0xFFFFFFFFFFFFFFFF := by
    intro t _
    have ht := t.toNat_lt
    rw [UInt64.le_iff_toNat_le]
    omega
  have hmem : c ∈ g.openCalls (before ++ [e]) := mem_record_iff.mpr ⟨before, e, [], rfl, hcall⟩
  have hopen := h _ ⟨after, by simp⟩ _ hreached c hmem port hport (by omega)
  rw [sourceAllowed_of_openCall hcall (hfits before e after rfl c hcall)] at hopen
  have hlt := UInt64.lt_iff_toNat_lt.mp hopen.1
  rw [GrantCall.expiryNs_grant] at hlt
  omega

/-- Where no knock narrows an earlier pinhole, pinholes last. -/
theorem pinholesOpen_of_neverNarrowed (h : NeverNarrowed (g.openCalls es)) : PinholesOpen g es := by
  intro now hreached c hc port hport hnow
  have hmono := (openCalls_pairwise (g := g) hclock).imp fun hle => hle.2
  have hports : ∀ c ∈ g.openCalls es, c.ports.length ≤ maxGrantPorts := by
    intro c hc
    obtain ⟨before, e, after, -, hcall⟩ := mem_record_iff.mp hc
    exact (length_ports_of_openCall hcall).2
  obtain ⟨grant, hget, hexp, hallows⟩ :=
    BpfGateWriter.get_of_neverNarrowed (fits_openCalls hfits) h hmono hports c hc port hport fun c' hc' => by
      have hle := UInt64.le_iff_toNat_le.mp (now_le_of_reached hreached hc')
      omega
  refine (sourceAllowed_iff _ _ _ _).mpr ⟨grant, ?_, ?_, hallows⟩
  · rw [allow, writer_run]
    exact hget
  · rw [UInt64.lt_iff_toNat_lt]
    omega

end

/-- **How long pinholes last**: at every point of a run of the gate every
accepted knock whose pinhole is not over has its source allowed on its ports,
exactly when no accepted knock falls into the pinhole of an earlier one from the
same address without listing the earlier ports, and every pinhole ends within
the 64 bits of the clock. -/
theorem pinholes_last_iff (g : Gate (GateKeypair lib)) (es : List GateEvent)
    (hclock : ClockMonotone es) (hfits : InsertsFit g es) :
    (∀ es', es' <+: es → PinholesOpen g es') ↔ NeverNarrowed (g.openCalls es) := by
  constructor
  · intro h
    exact ⟨covers_of_pinholesOpen hclock hfits h, closes_lt_of_pinholesOpen hfits h⟩
  · rintro ⟨hcov, h64⟩ es' ⟨rest, rfl⟩
    have hcalls : g.openCalls (es' ++ rest) =
        g.openCalls es' ++ (run step g es').openCalls rest := record_append _ _ _ _ _
    rw [hcalls] at hcov h64
    exact pinholesOpen_of_neverNarrowed hclock.of_append hfits.append_left
      ⟨(List.pairwise_append.mp hcov).1, fun c hc => h64 c (List.mem_append_left _ hc)⟩

/-! ## Two knocks from one address -/

/-- The gate knows the sample client, which may reach `allowed`, and has not seen
the nonces from the `n`-th on. -/
structure Serves (allowed : List UInt16) (n : Nat) (g : Gate (GateKeypair transparent)) : Prop where
  config : g.keeper.config = sampleConfig
  crypto : g.keeper.crypto = sampleGate
  suite : g.keeper.trust.suite = .modern
  client : g.keeper.trust.clients.lookup (sampleClient 5).thumbprint =
    some ((sampleClient 5).pub, allowed)
  unseen : ∀ k, n ≤ k → k ≤ 1024 → g.keeper.replay.seen.lookup (beArr 16 k) = none

/-- The client's knock for the given ports, at a time given in seconds. -/
def clientKnock (secs : Nat) (ports : List UInt16) (n : Nat) (source : IpAddr) : GateEvent :=
  .traffic (.knock (sampleClocks secs) (knockFor ports n) source)

/-- The call of the client's knock. -/
def clientCall (secs : Nat) (ports : List UInt16) (source : IpAddr) : GrantCall :=
  ⟨(sampleClocks secs).mono, source, ports, sampleConfig.pinholeNanos⟩

/-- The gate opens for the client's next knock, and goes on serving it. -/
theorem Serves.knock {allowed : List UInt16} {n : Nat} {g : Gate (GateKeypair transparent)}
    (h : Serves allowed n g) (hn : n ≤ 1024) {ports : List UInt16}
    (hports : 1 ≤ ports.length ∧ ports.length ≤ maxPorts) (hallowed : ∀ p ∈ ports, p ∈ allowed)
    (secs : Nat) (source : IpAddr) :
    g.openCall (clientKnock secs ports n source) = some (clientCall secs ports source) ∧
      Serves allowed (n + 1) (g.step (clientKnock secs ports n source)) := by
  have hwall : (sampleClocks secs).wall = sampleWall := rfl
  obtain ⟨opened, policy, hacc, hp, hnonce, hsingle, -⟩ :=
    Gatekeeper.accepts_knockFor h.config h.crypto h.suite h.client hwall hports hallowed n
  have hfresh : g.keeper.fresh (sampleClocks secs) opened = true :=
    Gatekeeper.fresh_of_lookup_eq_none (by rw [hnonce]; exact h.unseen n (Nat.le_refl n) hn)
  have hcall := Gatekeeper.admitPacket_of_accepts hacc source
  rw [if_pos hfresh, hp] at hcall
  have hkeeper : (g.step (clientKnock secs ports n source)).keeper =
      g.keeper.afterOpen (sampleClocks secs) source opened policy := by
    rw [clientKnock, step, traffic, hcall]
  have htrust : (g.step (clientKnock secs ports n source)).keeper.trust = g.keeper.trust := by
    rw [hkeeper, Gatekeeper.afterOpen, hsingle]
    rfl
  refine ⟨?_, ?_, ?_, ?_, ?_, ?_⟩
  · rw [clientKnock, openCall, hcall, h.config]
    rfl
  · rw [hkeeper]; exact h.config
  · rw [hkeeper]; exact h.crypto
  · rw [htrust]; exact h.suite
  · rw [htrust]; exact h.client
  · intro k hk hk'
    have hne : (beArr 16 k : Nonce) ≠ opened.auth.nonce := by
      rw [hnonce]
      exact beArr_ne hk' hn (by omega)
    rw [hkeeper, Gatekeeper.lookup_afterOpen_of_ne _ _ _ _ hne, h.unseen k (by omega) hk']
    rfl

/-- The sample gate with a client that may reach two ports. -/
def duoInit (nftFloor : Bool) : Gate (GateKeypair transparent) :=
  init sampleConfig sampleGate
    ((SharedTrust.new .modern).set
      [⟨(sampleClient 5).thumbprint, (sampleClient 5).pub, [22, 443]⟩])
    5000000000 nftFloor BoundedDict.empty 0

theorem serves_duoInit (nftFloor : Bool) : Serves [22, 443] 0 (duoInit nftFloor) where
  config := rfl
  crypto := rfl
  suite := rfl
  client := by
    change (clientMap _).lookup _ = _
    rw [clientMap, Dict.lookup_ofEntries]
    simp
  unseen _ _ _ := rfl

/-- The empty allow-list has room for every call. -/
theorem fits_duoInit (nftFloor : Bool) (c : GrantCall) : (duoInit nftFloor).keeper.gate.Fits c := by
  have hempty : (duoInit nftFloor).keeper.gate.allow = BoundedDict.empty := rfl
  rw [BpfGateWriter.Fits, hempty]
  exact .inr (by decide)

/-- Two knocks of the client from one address, 10 seconds apart. -/
def duoKnocks (ports ports' : List UInt16) : List GateEvent :=
  [clientKnock 0 ports 0 sampleAddr, clientKnock 10 ports' 1 sampleAddr]

theorem clock_duoKnocks (ports ports' : List UInt16) : ClockMonotone (duoKnocks ports ports') := by
  simp [ClockMonotone, duoKnocks, clientKnock, GateEvent.time, sampleClocks]

/-- A list of ports that the client may ask for. -/
structure Asks (ports : List UInt16) : Prop where
  length : 1 ≤ ports.length ∧ ports.length ≤ maxPorts
  allowed : ∀ p ∈ ports, p ∈ [(22 : UInt16), 443]

theorem asks_ssh : Asks [22] := ⟨by decide, by simp⟩

theorem asks_https : Asks [443] := ⟨by decide, by simp⟩

theorem asks_both : Asks [22, 443] := ⟨by decide, by simp⟩

section

variable {ports ports' : List UInt16} (h : Asks ports) (h' : Asks ports') (nftFloor : Bool)

include h h'

theorem openCalls_duoKnocks :
    (duoInit nftFloor).openCalls (duoKnocks ports ports') =
      [clientCall 0 ports sampleAddr, clientCall 10 ports' sampleAddr] := by
  obtain ⟨hcall, hserves⟩ :=
    (serves_duoInit nftFloor).knock (by decide) h.length h.allowed 0 sampleAddr
  obtain ⟨hcall', -⟩ := hserves.knock (by decide) h'.length h'.allowed 10 sampleAddr
  rw [duoKnocks, openCalls_cons, openCalls_cons, hcall, hcall']
  rfl

/-- Both knocks find room in `ALLOW`. -/
theorem insertsFit_duoKnocks : InsertsFit (duoInit nftFloor) (duoKnocks ports ports') := by
  obtain ⟨hcall, hserves⟩ :=
    (serves_duoInit nftFloor).knock (by decide) h.length h.allowed 0 sampleAddr
  obtain ⟨hcall', -⟩ := hserves.knock (by decide) h'.length h'.allowed 10 sampleAddr
  have hfits := fits_duoInit nftFloor (clientCall 0 ports sampleAddr)
  refine always_cons.mpr ⟨?_, always_cons.mpr ⟨?_, always_nil _ _⟩⟩
  · intro c hc
    rw [← Option.some.inj (hcall.symm.trans hc)]
    exact hfits
  · intro c hc
    rw [← Option.some.inj (hcall'.symm.trans hc)]
    refine .inl ((BoundedDict.mem_keys_iff _ _).mpr ⟨(clientCall 0 ports sampleAddr).grant, ?_⟩)
    rw [writer_step, hcall, Option.elim_some, BpfGateWriter.get_call hfits]
    exact if_pos rfl

end

/-- A second knock that lists the first one's port again prolongs the pinhole. -/
theorem pinholes_last_iff_sample :
    ClockMonotone (duoKnocks [22] [22, 443]) ∧
      InsertsFit (duoInit false) (duoKnocks [22] [22, 443]) ∧
      ∀ es', es' <+: duoKnocks [22] [22, 443] → PinholesOpen (duoInit false) es' := by
  have hfits := insertsFit_duoKnocks asks_ssh asks_both false
  refine ⟨clock_duoKnocks _ _, hfits, ?_⟩
  refine (pinholes_last_iff (duoInit false) _ (clock_duoKnocks _ _) hfits).mpr ?_
  rw [openCalls_duoKnocks asks_ssh asks_both]
  refine ⟨?_, ?_⟩
  · simp [GrantCall.Covers, clientCall]
  · simp only [List.forall_mem_cons]
    exact ⟨by decide, by decide, by simp⟩

/-- **A knock closes what another opened**: the client opens port 22, and 10
seconds later, from the same address, port 443; at that moment port 22 is
closed, 20 seconds before its pinhole ends. -/
theorem second_knock_closes :
    ClockMonotone (duoKnocks [22] [443]) ∧ InsertsFit (duoInit false) (duoKnocks [22] [443]) ∧
      ¬ ∀ es', es' <+: duoKnocks [22] [443] → PinholesOpen (duoInit false) es' := by
  have hfits := insertsFit_duoKnocks asks_ssh asks_https false
  refine ⟨clock_duoKnocks _ _, hfits, ?_⟩
  intro h
  have hcov := covers_of_pinholesOpen (clock_duoKnocks _ _) hfits h
  rw [openCalls_duoKnocks asks_ssh asks_https] at hcov
  have hcovers := List.rel_of_pairwise_cons hcov List.mem_cons_self
  have hport := hcovers rfl (by decide) List.mem_cons_self
  exact absurd hport (by decide)

end Gate

end SpaDevice
