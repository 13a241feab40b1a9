import SpaDevice.Grants
import SpaDevice.Pinhole

/-!
# SpaDevice.Floor

The nftables floor (`spa-gated/src/nft.rs`): the table it installs, the elements
the gate writer adds to it, and its input chain, compared with what XDP admits.

Every command succeeds, at the reading of the knock it comes from, on a table that
was new at the start, and an element lives exactly as long as its timeout says;
`SpaDevice.Layers` has commands that fail, and the table of an earlier process.  What a
kernel does with an element that is added while it is still live is a parameter: before
6.12 it leaves the remaining time alone (`refresh = false`), later ones restart it.

The two layers keep separate copies of a grant.  The floor blocks what XDP
admits exactly when a knock finds an element of its address that expires before
its own grant (`floor_follows_iff`).  The other way round, the floor knows
addresses only: it lets a source in to every protected port that a knock let in
to some (`floor_accepts_sound`).
-/

namespace SpaDevice

/-! ## Sets with timeouts -/

/-- A set whose elements expire: the time at which each of them does. -/
abbrev TimeoutSet (K : Type) := Dict K Nat

namespace TimeoutSet

variable {K : Type} [DecidableEq K]

/-- When an element expires once it has been added: a live element keeps its
expiry unless the kernel refreshes it. -/
def expiryOnAdd (refresh : Bool) (old : Option Nat) (now timeout : Nat) : Nat :=
  match old with
  | some expiry => if now < expiry ∧ refresh = false then expiry else now + timeout
  | none => now + timeout

/-- `add element`. -/
def add (refresh : Bool) (s : TimeoutSet K) (k : K) (now timeout : Nat) : TimeoutSet K :=
  s.insert k (expiryOnAdd refresh (s.lookup k) now timeout)

theorem lookup_add (refresh : Bool) (s : TimeoutSet K) (k k' : K) (now timeout : Nat) :
    (s.add refresh k now timeout).lookup k' =
      if k' = k then some (expiryOnAdd refresh (s.lookup k) now timeout) else s.lookup k' :=
  Dict.lookup_insert_eq s k k' _

/-- After an addition the element lives the whole timeout, or it was live
before and keeps its expiry. -/
theorem expiryOnAdd_cases (refresh : Bool) (old : Option Nat) (now timeout : Nat) :
    expiryOnAdd refresh old now timeout = now + timeout ∨
      refresh = false ∧ old = some (expiryOnAdd refresh old now timeout) ∧
        now < expiryOnAdd refresh old now timeout := by
  cases old with
  | none => exact .inl rfl
  | some expiry =>
      by_cases h : now < expiry ∧ refresh = false
      · simp only [expiryOnAdd, if_pos h]
        exact .inr ⟨h.2, trivial, h.1⟩
      · simp only [expiryOnAdd, if_neg h]
        exact .inl trivial

end TimeoutSet

/-! ## The table -/

/-- The floor's table: its two address sets and its port set. -/
structure FloorTable where
  allow4 : TimeoutSet (ByteArr 4)
  allow6 : TimeoutSet (ByteArr 16)
  ports : List UInt16

/-- `install_floor` over the table that is there: `flush table` takes its rules away,
not the elements of its sets. -/
def installFloor (old : FloorTable) (protectedPorts : List UInt16) : FloorTable :=
  { old with ports := old.ports ++ protectedPorts }

namespace FloorTable

/-- The table before its first installation. -/
def empty : FloorTable := ⟨∅, ∅, []⟩

/-- When the element of an address expires, in the set of its family. -/
def expiry (tbl : FloorTable) : IpAddr → Option Nat
  | .v4 o => tbl.allow4.lookup o
  | .v6 o => tbl.allow6.lookup o

@[simp] theorem expiry_empty (addr : IpAddr) : empty.expiry addr = none := by
  cases addr <;> rfl

@[simp] theorem expiry_installFloor (old : FloorTable) (ports : List UInt16) (addr : IpAddr) :
    (installFloor old ports).expiry addr = old.expiry addr := by
  cases addr <;> rfl

/-- The lifetime of an element. -/
def lifetime (e : FloorElement) : Nat := e.timeoutSecs.toNat * 1000000000

/-- `nft add element` for an address of either family. -/
def addElement (refresh : Bool) (tbl : FloorTable) (e : FloorElement) : FloorTable :=
  match e.addr with
  | .v4 o => { tbl with allow4 := tbl.allow4.add refresh o e.added.toNat (lifetime e) }
  | .v6 o => { tbl with allow6 := tbl.allow6.add refresh o e.added.toNat (lifetime e) }

/-- When the element of `e` expires once `e` has been added. -/
def expiryAfter (refresh : Bool) (tbl : FloorTable) (e : FloorElement) : Nat :=
  TimeoutSet.expiryOnAdd refresh (tbl.expiry e.addr) e.added.toNat (lifetime e)

theorem expiry_addElement (refresh : Bool) (tbl : FloorTable) (e : FloorElement) (addr : IpAddr) :
    (tbl.addElement refresh e).expiry addr =
      if addr = e.addr then some (tbl.expiryAfter refresh e) else tbl.expiry addr := by
  obtain ⟨added, a, secs⟩ := e
  cases a with
  | v4 o =>
      cases addr with
      | v4 o' => simp only [addElement, expiry, TimeoutSet.lookup_add, IpAddr.v4.injEq]; rfl
      | v6 o' => simp [addElement, expiry]
  | v6 o =>
      cases addr with
      | v4 o' => simp [addElement, expiry]
      | v6 o' => simp only [addElement, expiry, TimeoutSet.lookup_add, IpAddr.v6.injEq]; rfl

@[simp] theorem ports_addElement (refresh : Bool) (tbl : FloorTable) (e : FloorElement) :
    (tbl.addElement refresh e).ports = tbl.ports := by
  unfold addElement
  cases e.addr <;> rfl

end FloorTable

/-! ## The input chain -/

/-- Connection-tracking states of a packet. -/
inductive CtState where
  | new
  | established
  | related
  | invalid
  | untracked
deriving DecidableEq

/-- A TCP packet at the input hook.  The family of its source address is that of
the packet. -/
structure TcpPacket where
  /-- It came in on the loopback interface. -/
  lo : Bool
  ct : CtState
  saddr : IpAddr
  dport : UInt16

inductive FloorVerdict where
  | accept
  | drop
deriving DecidableEq

/-- The rules of the input chain. -/
inductive FloorRule where
  | iifLo
  | ctEstablishedRelated
  | portsAllow4
  | portsAllow6
  | portsDrop

namespace FloorRule

/-- The packet matches the rule at the time `now`. -/
def matchesPacket (tbl : FloorTable) (now : Nat) (p : TcpPacket) : FloorRule → Bool
  | .iifLo => p.lo
  | .ctEstablishedRelated => p.ct = .established ∨ p.ct = .related
  | .portsAllow4 =>
      match p.saddr with
      | .v4 o => p.dport ∈ tbl.ports ∧ (tbl.allow4.lookup o).any fun expiry => now < expiry
      | .v6 _ => false
  | .portsAllow6 =>
      match p.saddr with
      | .v4 _ => false
      | .v6 o => p.dport ∈ tbl.ports ∧ (tbl.allow6.lookup o).any fun expiry => now < expiry
  | .portsDrop => p.dport ∈ tbl.ports

def verdict : FloorRule → FloorVerdict
  | .portsDrop => .drop
  | _ => .accept

end FloorRule

/-- The rules in order. -/
def inputChain : List FloorRule :=
  [.iifLo, .ctEstablishedRelated, .portsAllow4, .portsAllow6, .portsDrop]

/-- The first rule that matches decides; the policy of the chain is `accept`. -/
def FloorTable.input (tbl : FloorTable) (now : Nat) (p : TcpPacket) : FloorVerdict :=
  match inputChain.find? fun r => r.matchesPacket tbl now p with
  | some r => r.verdict
  | none => .accept

/-- A source with a live element in the set of its family. -/
def FloorTable.Live (tbl : FloorTable) (now : Nat) (addr : IpAddr) : Prop :=
  ∃ expiry, tbl.expiry addr = some expiry ∧ now < expiry

/-- A packet to a floor port matches one of the two `allow` rules exactly when
its source is live. -/
theorem FloorRule.matches_allow_iff (tbl : FloorTable) (now : Nat) (p : TcpPacket) :
    (matchesPacket tbl now p .portsAllow4 || matchesPacket tbl now p .portsAllow6) = true ↔
      p.dport ∈ tbl.ports ∧ tbl.Live now p.saddr := by
  obtain ⟨lo, ct, saddr, dport⟩ := p
  cases saddr with
  | v4 o => simp [matchesPacket, FloorTable.Live, FloorTable.expiry, Option.any_eq_true]
  | v6 o => simp [matchesPacket, FloorTable.Live, FloorTable.expiry, Option.any_eq_true]

/-- **What the chain accepts**: loopback, known flows, other ports, and sources
with a live element in the set of their family. -/
theorem FloorTable.input_eq_accept_iff (tbl : FloorTable) (now : Nat) (p : TcpPacket) :
    tbl.input now p = .accept ↔
      p.lo = true ∨ (p.ct = .established ∨ p.ct = .related) ∨ p.dport ∉ tbl.ports ∨
        tbl.Live now p.saddr := by
  have hallow := FloorRule.matches_allow_iff tbl now p
  have hlo : FloorRule.matchesPacket tbl now p .iifLo = p.lo := rfl
  have hct : FloorRule.matchesPacket tbl now p .ctEstablishedRelated = true ↔
      p.ct = .established ∨ p.ct = .related := decide_eq_true_iff
  have hdrop : FloorRule.matchesPacket tbl now p .portsDrop = true ↔ p.dport ∈ tbl.ports :=
    decide_eq_true_iff
  rw [← hct, ← hdrop, ← hlo]
  rw [← hdrop] at hallow
  simp only [input, inputChain, List.find?]
  generalize FloorRule.matchesPacket tbl now p .iifLo = b₁
  generalize FloorRule.matchesPacket tbl now p .ctEstablishedRelated = b₂
  generalize FloorRule.matchesPacket tbl now p .portsAllow4 = b₃ at hallow ⊢
  generalize FloorRule.matchesPacket tbl now p .portsAllow6 = b₄ at hallow ⊢
  generalize FloorRule.matchesPacket tbl now p .portsDrop = b₅ at hallow ⊢
  cases b₁ <;> cases b₂ <;> cases b₃ <;> cases b₄ <;> cases b₅ <;>
    simp [FloorRule.verdict] at hallow ⊢ <;> exact hallow

/-! ## Addresses in the two layers -/

theorem addrKey_normalize (a : IpAddr) : addrKey (normalize a) = addrKey a := by
  cases a with
  | v4 o => rfl
  | v6 o =>
      by_cases h : o.val.take 12 = List.replicate 10 0 ++ [0xff, 0xff]
      · simp only [normalize, if_pos h]
        apply Subtype.ext
        change List.replicate 10 0 ++ [0xff, 0xff] ++ o.val.drop 12 = o.val
        rw [← h, List.take_append_drop]
      · simp only [normalize, if_neg h]

/-- The floor's address of a source is a function of its XDP key. -/
theorem normalize_addrKey (a : IpAddr) : normalize (.v6 (addrKey a)) = normalize a := by
  cases a with
  | v4 o =>
      have htake : (addrKey (.v4 o)).val.take 12 = List.replicate 10 0 ++ [0xff, 0xff] :=
        List.take_left' rfl
      have hdrop : (addrKey (.v4 o)).val.drop 12 = o.val := List.drop_left' rfl
      simp only [normalize, htake, if_true, hdrop]
  | v6 o => rfl

/-- **Both layers tell the same sources apart.** -/
theorem normalize_eq_iff (a b : IpAddr) : normalize a = normalize b ↔ addrKey a = addrKey b := by
  constructor
  · intro h
    rw [← addrKey_normalize a, h, addrKey_normalize]
  · intro h
    rw [← normalize_addrKey a, h, normalize_addrKey]

/-! ## The floor of a run -/

/-- The element that mirrors the grant of a call. -/
def GrantCall.element (c : GrantCall) : FloorElement :=
  nftAllow c.now c.source (divCeilSecs c.ttlNanos)

theorem GrantCall.addr_element (c : GrantCall) : c.element.addr = normalize c.source := rfl

namespace BpfGateWriter

/-- The table after the writer's commands, a new one at the start. -/
def floorTable (refresh : Bool) (ports : List UInt16) (w : BpfGateWriter) : FloorTable :=
  run (FloorTable.addElement refresh) (installFloor .empty ports) w.floor

theorem expiry_floorTable_of_nil {refresh : Bool} {ports : List UInt16} {w : BpfGateWriter}
    (h : w.floor = []) (addr : IpAddr) : (w.floorTable refresh ports).expiry addr = none := by
  rw [floorTable, h, run_nil, FloorTable.expiry_installFloor, FloorTable.expiry_empty]

theorem floorTable_call (refresh : Bool) (ports : List UInt16) {w : BpfGateWriter}
    (h : w.nftFloor = true) (c : GrantCall) :
    (w.call c).floorTable refresh ports = (w.floorTable refresh ports).addElement refresh c.element := by
  have hfloor : (w.call c).floor = w.floor ++ [c.element] := by
    simp only [call, openPorts, h, if_true]
    rfl
  rw [floorTable, hfloor, run_append]
  rfl

@[simp] theorem ports_floorTable (refresh : Bool) (ports : List UInt16) (w : BpfGateWriter) :
    (w.floorTable refresh ports).ports = ports := by
  refine run_invariant (FloorTable.addElement refresh) (I := fun tbl => tbl.ports = ports) ?_ rfl
  intro tbl e _ h
  rw [FloorTable.ports_addElement, h]

/-- After a call the element of its address is the one it added or kept, and no
other address changed. -/
theorem expiry_floorTable_call (refresh : Bool) (ports : List UInt16) {w : BpfGateWriter}
    (h : w.nftFloor = true) (c : GrantCall) (a : IpAddr) :
    ((w.call c).floorTable refresh ports).expiry (normalize a) =
      if addrKey a = c.key then some ((w.floorTable refresh ports).expiryAfter refresh c.element)
      else (w.floorTable refresh ports).expiry (normalize a) := by
  have haddr : normalize a = c.element.addr ↔ addrKey a = c.key := normalize_eq_iff a c.source
  rw [floorTable_call refresh ports h, FloorTable.expiry_addElement]
  simp only [haddr]

end BpfGateWriter

/-- Rounding up to whole seconds loses no nanosecond. -/
theorem le_divCeilSecs (nanos : UInt64) :
    nanos.toNat ≤ (divCeilSecs nanos).toNat * 1000000000 := by
  have hlt := nanos.toNat_lt
  have hdiv : (nanos / 1000000000).toNat = nanos.toNat / 1000000000 := UInt64.toNat_div _ _
  have hmod : (nanos % 1000000000).toNat = nanos.toNat % 1000000000 := UInt64.toNat_mod _ _
  unfold divCeilSecs
  split
  · next h =>
      rw [h] at hmod
      have hzero : (0 : UInt64).toNat = 0 := rfl
      omega
  · have hone : (1 : UInt64).toNat = 1 := rfl
    rw [UInt64.toNat_add, hdiv, hone]
    omega

/-- An element that is added lives at least as long as the grant it mirrors. -/
theorem GrantCall.closes_le_lifetime (c : GrantCall) :
    c.closes ≤ c.now.toNat + FloorTable.lifetime c.element := by
  have hround := le_divCeilSecs c.ttlNanos
  have hmax : (divCeilSecs c.ttlNanos).toNat ≤ (max (divCeilSecs c.ttlNanos) 1).toNat := by
    rw [← UInt64.le_iff_toNat_le, show max (divCeilSecs c.ttlNanos) 1 =
      if divCeilSecs c.ttlNanos ≤ 1 then 1 else divCeilSecs c.ttlNanos from rfl]
    split
    · assumption
    · exact UInt64.le_refl _
  have hlife : FloorTable.lifetime c.element = (max (divCeilSecs c.ttlNanos) 1).toNat * 1000000000 :=
    rfl
  rw [closes, hlife]
  omega

/-! ## The floor behind XDP -/

/-- Whatever grant a source holds for a floor port, its element lives at least
as long. -/
structure Mirrored (ports : List UInt16) (w : BpfGateWriter) : Prop where
  nftFloor : w.nftFloor = true
  outlives : ∀ source grant, w.allow.get (addrKey source) = some grant →
    (∃ p ∈ ports, grant.allowsPort p = true) →
    ∃ expiry, (w.floorTable false ports).expiry (normalize source) = some expiry ∧
      grant.expiryNs.toNat ≤ expiry

/-- A call that asks for a floor port, and whose insert fits, finds no live
element of its address that expires before its own grant. -/
def ElementOutlives (ports : List UInt16) (w : BpfGateWriter) (c : GrantCall) : Prop :=
  w.Fits c → (∃ p ∈ ports, p ∈ c.ports) → ∀ expiry,
    (w.floorTable false ports).expiry (normalize c.source) = some expiry → c.now.toNat < expiry →
    c.grant.expiryNs.toNat ≤ expiry

/-- One call keeps the floor behind XDP. -/
theorem Mirrored.call {ports : List UInt16} {w : BpfGateWriter} (h : Mirrored ports w) {c : GrantCall}
    (hc : ElementOutlives ports w c) : Mirrored ports (w.call c) := by
  refine ⟨h.nftFloor, ?_⟩
  intro source grant hget hport
  rw [BpfGateWriter.expiry_floorTable_call false ports h.nftFloor]
  rw [BpfGateWriter.allow_call, BoundedDict.get_insertOrKeep] at hget
  by_cases hkey : addrKey source = c.key
  · rw [if_pos hkey]
    refine ⟨_, rfl, ?_⟩
    by_cases hfits : w.Fits c
    · rw [if_pos ⟨hfits, hkey⟩] at hget
      obtain rfl := Option.some.inj hget
      obtain ⟨p, hp, hallows⟩ := hport
      have hmem : p ∈ c.ports := List.mem_of_mem_take ((Grant.allowsPort_make _ _ _).mp hallows)
      rcases TimeoutSet.expiryOnAdd_cases false
          ((w.floorTable false ports).expiry c.element.addr) c.element.added.toNat
          (FloorTable.lifetime c.element) with hnew | ⟨-, hold, hlive⟩
      · -- A new element: rounding and the end of the clock only shorten the grant.
        rw [FloorTable.expiryAfter, hnew, GrantCall.expiryNs_grant]
        exact (Nat.min_le_left _ _).trans c.closes_le_lifetime
      · exact hc hfits ⟨p, hp, hmem⟩ _ hold hlive
    · -- The insert failed, so the address has no grant at all.
      rw [if_neg fun hc => hfits hc.1, hkey] at hget
      exact absurd (.inl ((BoundedDict.mem_keys_iff _ _).mpr ⟨grant, hget⟩)) hfits
  · rw [if_neg hkey]
    rw [if_neg fun hc => hkey hc.2] at hget
    exact h.outlives source grant hget hport

namespace Gate

/-- The table of the floor that was installed for `ports`. -/
def floorTable {Cr : Type} (refresh : Bool) (ports : List UInt16) (g : Gate Cr) : FloorTable :=
  g.keeper.gate.floorTable refresh ports

variable {lib : AwsLc}

/-- At the end of the run, at any time `now` that it has reached, a source that
XDP allows on a floor port is accepted there by the floor.  A source that is
seen as an IPv4-mapped address sends IPv4 packets. -/
def FloorFollows (ports : List UInt16) (g : Gate (GateKeypair lib)) (es : List GateEvent) : Prop :=
  ∀ now, Reached es now → ∀ source, ∀ p ∈ ports,
    sourceAllowed (run step g es).allow (addrKey source) p now = true →
    ∀ lo, ((run step g es).floorTable false ports).input now.toNat
      ⟨lo, .new, normalize source, p⟩ = .accept

/-- Every accepted knock finds the floor as `ElementOutlives` says. -/
def ElementsOutlive (ports : List UInt16) (g : Gate (GateKeypair lib)) (es : List GateEvent) : Prop :=
  Always step (fun g e => ∀ c, g.openCall e = some c → ElementOutlives ports g.keeper.gate c) g es

/-- Where every element outlives its grant, the floor follows XDP. -/
theorem floorFollows_of_elementsOutlive {ports : List UInt16} {g : Gate (GateKeypair lib)}
    {es : List GateEvent} (hg : Mirrored ports g.keeper.gate) (h : ElementsOutlive ports g es) :
    FloorFollows ports g es := by
  have hmirrored : Mirrored ports (run step g es).keeper.gate := by
    refine h.invariant (I := fun g => Mirrored ports g.keeper.gate) ?_ hg
    intro g e hg he
    rw [writer_step]
    cases hc : g.openCall e with
    | none => exact hg
    | some c => exact hg.call (he c hc)
  intro now _ source p hp hallow lo
  obtain ⟨grant, hget, hlt, hport⟩ := (sourceAllowed_iff _ _ _ _).mp hallow
  obtain ⟨expiry, hexp, hle⟩ := hmirrored.outlives source grant hget ⟨p, hp, hport⟩
  have hlt' := UInt64.lt_iff_toNat_lt.mp hlt
  rw [FloorTable.input_eq_accept_iff]
  exact .inr (.inr (.inr ⟨expiry, hexp, by omega⟩))

/-- Where the floor follows XDP after an accepted knock, the knock found no live
element that expires before its grant: at the moment such an element expires,
XDP admits what the floor drops. -/
theorem elementOutlives_of_floorFollows {ports : List UInt16} {g : Gate (GateKeypair lib)}
    {es : List GateEvent} {e : GateEvent} {c : GrantCall}
    (hnft : (run step g es).keeper.gate.nftFloor = true)
    (hclock : ClockMonotone (es ++ [e])) (hc : (run step g es).openCall e = some c)
    (h : FloorFollows ports g (es ++ [e])) : ElementOutlives ports (run step g es).keeper.gate c := by
  rintro hfits ⟨p, hp, hmem⟩ expiry hexp hlive
  by_contra hlt
  have hexp64 := c.grant.expiryNs.toNat_lt
  have hnow : (UInt64.ofNat expiry).toNat = expiry := UInt64.toNat_ofNat_of_lt' (by
    rw [UInt64.size]
    omega)
  have hreached : Reached (es ++ [e]) (UInt64.ofNat expiry) := by
    intro t ht
    have hle := UInt64.le_iff_toNat_le.mp (reached_last hclock (time_of_openCall hc) t ht)
    rw [UInt64.le_iff_toNat_le]
    omega
  have hallow : sourceAllowed (run step g (es ++ [e])).allow (addrKey c.source) p
      (UInt64.ofNat expiry) = true := by
    refine (sourceAllowed_of_openCall hc hfits p _).mpr ⟨?_, hmem⟩
    rw [UInt64.lt_iff_toNat_lt]
    omega
  have haccept := h _ hreached c.source p hp hallow false
  have hsame : ((run step g (es ++ [e])).floorTable false ports).expiry (normalize c.source) =
      some expiry := by
    have hkept : (BpfGateWriter.floorTable false ports (run step g es).keeper.gate).expiryAfter false
        c.element = expiry := by
      rw [FloorTable.expiryAfter, GrantCall.addr_element, hexp]
      exact if_pos ⟨hlive, rfl⟩
    rw [run_append, run_cons, run_nil, floorTable, writer_step, hc, Option.elim_some,
      BpfGateWriter.expiry_floorTable_call false ports hnft, hkept]
    exact if_pos rfl
  rw [FloorTable.input_eq_accept_iff] at haccept
  rcases haccept with hlo | hct | hport | ⟨expiry', hexp', hlt'⟩
  · contradiction
  · simp at hct
  · rw [floorTable, BpfGateWriter.ports_floorTable] at hport
    exact hport hp
  · rw [hsame] at hexp'
    have heq := Option.some.inj hexp'
    omega

theorem nftFloor_run (g : Gate (GateKeypair lib)) (es : List GateEvent) :
    (run step g es).keeper.gate.nftFloor = g.keeper.gate.nftFloor := by
  refine run_invariant step
    (I := fun g' => g'.keeper.gate.nftFloor = g.keeper.gate.nftFloor) ?_ rfl
  intro g' e _ h
  rw [writer_step]
  cases g'.openCall e with
  | none => exact h
  | some c => exact h

/-- **When the floor follows XDP**: on a kernel that leaves the remaining time of
an added element alone, the floor accepts at every point of a run whatever XDP
admits, exactly when no accepted knock for a floor port finds a live element of
its address that expires before its own grant. -/
theorem floor_follows_iff (config : Config) (kp : GateKeypair lib) (trust : SharedTrust)
    (window : Nat) (protectedPorts : ProtectedMap) (knockPort : UInt16)
    (ports : List UInt16) (es : List GateEvent) (hclock : ClockMonotone es) :
    let g := init config kp trust window true protectedPorts knockPort
    (∀ es', es' <+: es → FloorFollows ports g es') ↔ ElementsOutlive ports g es := by
  intro g
  constructor
  · intro h before e after heq c hc
    have hsplit : es = (before ++ [e]) ++ after := by rw [heq]; simp
    rw [hsplit] at hclock
    exact elementOutlives_of_floorFollows (nftFloor_run g before) hclock.of_append hc
      (h (before ++ [e]) ⟨after, hsplit.symm⟩)
  · rintro h es' ⟨rest, rfl⟩
    have hg : Mirrored ports g.keeper.gate := by
      refine ⟨rfl, fun source grant hget _ => ?_⟩
      contradiction
    exact floorFollows_of_elementsOutlive hg h.append_left

/-- Two knocks of a source, the second when the element of the first has expired, are
mirrored as they should be. -/
theorem floor_follows_iff_sample :
    let es := [clientKnock 0 [22] 0 sampleAddr, clientKnock 40 [22] 1 sampleAddr]
    ClockMonotone es ∧ (duoInit true).openCalls es =
        [clientCall 0 [22] sampleAddr, clientCall 40 [22] sampleAddr] ∧
      ∀ es', es' <+: es → FloorFollows [22] (duoInit true) es' := by
  intro es
  have hclock : ClockMonotone es := by
    simp [es, ClockMonotone, clientKnock, GateEvent.time, sampleClocks]
  obtain ⟨hfirst, hserves⟩ :=
    (serves_duoInit true).knock (Nat.zero_le _) asks_ssh.length asks_ssh.allowed 0 sampleAddr
  obtain ⟨hsecond, -⟩ := hserves.knock (by decide) asks_ssh.length asks_ssh.allowed 40 sampleAddr
  have hcalls : (duoInit true).openCalls es =
      [clientCall 0 [22] sampleAddr, clientCall 40 [22] sampleAddr] := by
    rw [openCalls_cons, hfirst, openCalls_cons, hsecond]
    rfl
  have hexp : (((duoInit true).step (clientKnock 0 [22] 0 sampleAddr)).keeper.gate.floorTable false
      [22]).expiry (normalize sampleAddr) = some 30000000000 := by
    rw [writer_step, hfirst, Option.elim_some, BpfGateWriter.expiry_floorTable_call false [22] rfl,
      FloorTable.expiryAfter, GrantCall.addr_element, BpfGateWriter.expiry_floorTable_of_nil rfl]
    decide
  have houtlive : ElementsOutlive [22] (duoInit true) es := by
    refine always_cons.mpr ⟨?_, always_cons.mpr ⟨?_, always_nil _ _⟩⟩
    · intro c _ _ _ expiry hsome
      rw [BpfGateWriter.expiry_floorTable_of_nil rfl] at hsome
      simp at hsome
    · intro c hc _ _ expiry hsome hlive
      obtain rfl : clientCall 40 [22] sampleAddr = c := Option.some.inj (hsecond.symm.trans hc)
      -- The first element has expired when the second knock comes.
      have hsource : (clientCall 40 [22] sampleAddr).source = sampleAddr := rfl
      rw [hsource, hexp] at hsome
      obtain rfl := Option.some.inj hsome
      exact absurd hlive (by decide)
  exact ⟨hclock, hcalls, (floor_follows_iff sampleConfig sampleGate _ 5000000000 BoundedDict.empty 0
    [22] es hclock).mpr houtlive⟩

/-- The writer of the sample gate after two knocks of the client. -/
theorem writer_duoKnocks {ports ports' : List UInt16} (h : Asks ports) (h' : Asks ports')
    (nftFloor : Bool) :
    (run step (duoInit nftFloor) (duoKnocks ports ports')).keeper.gate =
      ((duoInit nftFloor).keeper.gate.call (clientCall 0 ports sampleAddr)).call
        (clientCall 10 ports' sampleAddr) := by
  rw [writer_run, openCalls_duoKnocks h h']
  rfl

/-- **The floor drops what XDP admits**: the client knocks at 0 and at 10
seconds; at 35 seconds XDP admits it until 40 seconds, but its element in the
floor has expired at 30 seconds. -/
theorem floor_drops_admitted :
    let g := run step (duoInit true) (duoKnocks [22] [22])
    Reached (duoKnocks [22] [22]) 35000000000 ∧
      sourceAllowed g.allow (addrKey sampleAddr) 22 35000000000 = true ∧
      (g.floorTable false [22]).input 35000000000 ⟨false, .new, normalize sampleAddr, 22⟩ = .drop := by
  intro g
  have hw : g.keeper.gate = ((duoInit true).keeper.gate.call (clientCall 0 [22] sampleAddr)).call
      (clientCall 10 [22] sampleAddr) := writer_duoKnocks asks_ssh asks_ssh true
  have hfits := fits_openCalls (insertsFit_duoKnocks asks_ssh asks_ssh true)
  rw [openCalls_duoKnocks asks_ssh asks_ssh] at hfits
  have hfits' := (always_cons.mp (always_cons.mp hfits).2).1
  refine ⟨by simp [Reached, duoKnocks, clientKnock, GateEvent.time, sampleClocks], ?_, ?_⟩
  · rw [sourceAllowed, allow, hw, BpfGateWriter.get_call hfits']
    decide
  · have hexp : (g.floorTable false [22]).expiry (normalize sampleAddr) = some 30000000000 := by
      rw [floorTable, hw, BpfGateWriter.expiry_floorTable_call false [22] rfl,
        FloorTable.expiryAfter, GrantCall.addr_element,
        BpfGateWriter.expiry_floorTable_call false [22] rfl, FloorTable.expiryAfter,
        BpfGateWriter.expiry_floorTable_of_nil rfl]
      decide
    cases hv : (g.floorTable false [22]).input 35000000000 ⟨false, .new, normalize sampleAddr, 22⟩ with
    | drop => rfl
    | accept =>
        have hports : (g.floorTable false [22]).ports = [22] := BpfGateWriter.ports_floorTable _ _ _
        rw [FloorTable.input_eq_accept_iff, FloorTable.Live, hexp, hports] at hv
        simp at hv

/-! ## XDP behind the floor -/

end Gate

theorem normalize_normalize (a : IpAddr) : normalize (normalize a) = normalize a :=
  (normalize_eq_iff _ _).mpr (addrKey_normalize a)

/-- Behind every element of the floor there is a call from its address that ends
no earlier; where all inserts fit, `ALLOW` holds the grant of that call. -/
theorem BpfGateWriter.call_of_expiry (refresh : Bool) (ports : List UInt16) {w : BpfGateWriter}
    (hnft : w.nftFloor = true) (hfloor : w.floor = []) {cs : List GrantCall}
    (hmono : cs.Pairwise fun c c' => c.closes ≤ c'.closes)
    (hlife : ∀ c ∈ cs, c.now.toNat + FloorTable.lifetime c.element = c.closes) :
    (run call w cs).nftFloor = true ∧
      ∀ addr expiry, ((run call w cs).floorTable refresh ports).expiry addr = some expiry →
        normalize addr = addr ∧ ∃ c ∈ cs, c.key = addrKey addr ∧ expiry ≤ c.closes ∧
          (Always call Fits w cs → (run call w cs).allow.get c.key = some c.grant) := by
  induction cs using List.reverseRecOn with
  | nil =>
      refine ⟨hnft, fun addr expiry hexp => ?_⟩
      rw [run_nil, expiry_floorTable_of_nil hfloor] at hexp
      contradiction
  | append_singleton cs last ih =>
      rw [List.pairwise_append] at hmono
      obtain ⟨hnft', ih⟩ := ih hmono.1 fun c hc => hlife c (List.mem_append_left _ hc)
      have hlast : last ∈ cs ++ [last] := List.mem_append_right cs (List.mem_singleton_self last)
      rw [run_append, run_cons, run_nil]
      refine ⟨hnft', fun addr expiry hexp => ?_⟩
      rw [floorTable_call refresh ports hnft', FloorTable.expiry_addElement,
        GrantCall.addr_element] at hexp
      by_cases haddr : addr = normalize last.source
      · -- The element of the last call, added now or kept from before.
        rw [if_pos haddr] at hexp
        obtain rfl := Option.some.inj hexp
        rw [haddr, addrKey_normalize]
        refine ⟨normalize_normalize _, last, hlast, rfl, ?_, fun hfits => ?_⟩
        · rcases TimeoutSet.expiryOnAdd_cases refresh
              (((run call w cs).floorTable refresh ports).expiry last.element.addr)
              last.element.added.toNat (FloorTable.lifetime last.element) with hnew | ⟨-, hold, -⟩
          · rw [FloorTable.expiryAfter, hnew]
            exact (hlife last hlast).le
          · obtain ⟨-, c, hc, -, hle, -⟩ := ih _ _ hold
            exact hle.trans (hmono.2.2 c hc last (List.mem_singleton_self last))
        · rw [get_call (hfits cs last [] rfl), if_pos rfl]
      · rw [if_neg haddr] at hexp
        obtain ⟨hnorm, c, hc, hkey, hle, hget⟩ := ih addr expiry hexp
        refine ⟨hnorm, c, List.mem_append_left _ hc, hkey, hle, fun hfits => ?_⟩
        have hne : c.key ≠ last.key := by
          rw [hkey]
          intro heq
          exact haddr (hnorm.symm.trans ((normalize_eq_iff _ _).mpr heq))
        rw [get_call (hfits cs last [] rfl), if_neg hne]
        exact hget hfits.append_left

/-- The daemon's pinhole is a whole number of seconds. -/
theorem GrantCall.lifetime_element (c : GrantCall) (hpin : c.ttlNanos = pinholeNanos) :
    FloorTable.lifetime c.element = pinholeNanos.toNat := by
  rw [FloorTable.lifetime, GrantCall.element, hpin]
  change (max (divCeilSecs pinholeNanos) 1).toNat * 1000000000 = pinholeNanos.toNat
  decide

namespace Gate

variable {lib : AwsLc}

/-- With the daemon's pinhole an element lives exactly as long as its grant. -/
theorem lifetime_of_openCalls {g : Gate (GateKeypair lib)}
    (hconfig : g.keeper.config.pinholeNanos = pinholeNanos) {es : List GateEvent} {c : GrantCall}
    (hc : c ∈ g.openCalls es) : c.now.toNat + FloorTable.lifetime c.element = c.closes := by
  obtain ⟨before, e, after, -, hcall⟩ := mem_record_iff.mp hc
  obtain ⟨-, -, -, -, -, httl⟩ := openCall_eq_some hcall
  have hpin : c.ttlNanos = pinholeNanos := by
    rw [httl, (config_run g before).1]
    exact hconfig
  rw [c.lifetime_element hpin, GrantCall.closes, hpin]

/-- **What the floor lets in**: at every point of a run of the daemon's gate, and
whatever the kernel does with an element that is added again, a packet of no
known flow that the floor accepts to one of its ports comes from a source with
an accepted knock whose pinhole is open; where all inserts fit and the pinhole
ends within 64 bits, XDP allows the source on every port of that knock. -/
theorem floor_accepts_sound (p : GateParams) (kp : GateKeypair lib) (trust : SharedTrust)
    (window : Nat) (protectedPorts : ProtectedMap) (knockPort : UInt16) (refresh : Bool)
    (ports : List UInt16) (es : List GateEvent) (hclock : ClockMonotone es) (now : UInt64)
    (hreached : Reached es now) (pkt : TcpPacket) (hlo : pkt.lo = false)
    (hct : pkt.ct ≠ .established ∧ pkt.ct ≠ .related) (hport : pkt.dport ∈ ports) :
    let g := init p.config kp trust window true protectedPorts knockPort
    ((run step g es).floorTable refresh ports).input now.toNat pkt = .accept →
    ∃ c ∈ g.openCalls es, c.key = addrKey pkt.saddr ∧ c.now ≤ now ∧ now.toNat < c.closes ∧
      (InsertsFit g es → c.closes < 2 ^ 64 → ∀ port ∈ c.ports,
        sourceAllowed (run step g es).allow (addrKey pkt.saddr) port now = true) := by
  intro g haccept
  have hmono := (openCalls_pairwise (g := g) hclock).imp fun hle => hle.2
  obtain ⟨-, hback⟩ := BpfGateWriter.call_of_expiry refresh ports (w := g.keeper.gate) rfl rfl hmono
    fun c hc => lifetime_of_openCalls rfl hc
  rw [floorTable, writer_run, FloorTable.input_eq_accept_iff,
    BpfGateWriter.ports_floorTable] at haccept
  rcases haccept with h | h | h | ⟨expiry, hexp, hlt⟩
  · rw [hlo] at h
    contradiction
  · rcases h with h | h
    · exact absurd h hct.1
    · exact absurd h hct.2
  · exact absurd hport h
  · obtain ⟨-, c, hc, hkey, hle, hget⟩ := hback pkt.saddr expiry hexp
    refine ⟨c, hc, hkey, now_le_of_reached hreached hc, by omega, ?_⟩
    intro hfits h64 port hmem
    obtain ⟨before, e, after, -, hcall⟩ := mem_record_iff.mp hc
    have hallows := (GrantCall.allowsPort_grant (length_ports_of_openCall hcall).2 port).mpr hmem
    refine (sourceAllowed_iff _ _ _ _).mpr ⟨c.grant, ?_, ?_, hallows⟩
    · rw [allow, writer_run, ← hkey]
      exact hget (fits_openCalls hfits)
    · rw [UInt64.lt_iff_toNat_lt, GrantCall.expiryNs_grant]
      omega

/-- The client's first knock, for port 22 alone. -/
def soloKnock : List GateEvent := [clientKnock 0 [22] 0 sampleAddr]

/-- After it the floor, installed for two ports, has an element for the client's
address until 30 seconds, and XDP holds its grant for port 22. -/
theorem soloKnock_state :
    ((run step (duoInit true) soloKnock).floorTable false [22, 443]).expiry (normalize sampleAddr) =
        some 30000000000 ∧
      ∀ port, sourceAllowed (run step (duoInit true) soloKnock).allow (addrKey sampleAddr) port
        10000000000 = true ↔ port = 22 := by
  have hcall := ((serves_duoInit true).knock (by decide) asks_ssh.length asks_ssh.allowed 0
    sampleAddr).1
  have hcalls : (duoInit true).openCalls soloKnock = [clientCall 0 [22] sampleAddr] := by
    rw [soloKnock, openCalls_cons, hcall]
    rfl
  have hw : (run step (duoInit true) soloKnock).keeper.gate =
      (duoInit true).keeper.gate.call (clientCall 0 [22] sampleAddr) := by
    rw [writer_run, hcalls]
    rfl
  refine ⟨?_, fun port => ?_⟩
  · rw [floorTable, hw, BpfGateWriter.expiry_floorTable_call false [22, 443] rfl,
      FloorTable.expiryAfter, BpfGateWriter.expiry_floorTable_of_nil rfl]
    decide
  · have hallow := @sourceAllowed_of_openCall _ (duoInit true) [] _ _ hcall (fits_duoInit true _) port
      10000000000
    rw [List.nil_append] at hallow
    rw [soloKnock]
    refine hallow.trans ⟨fun h => List.mem_singleton.mp h.2, fun h => ⟨by decide, ?_⟩⟩
    exact List.mem_singleton.mpr h

/-- On port 22 XDP allows what the floor accepts. -/
theorem floor_accepts_sound_sample :
    ∃ c ∈ (duoInit true).openCalls soloKnock, c.key = addrKey sampleAddr ∧ c.now ≤ 10000000000 ∧
      (10000000000 : UInt64).toNat < c.closes := by
  obtain ⟨hexp, -⟩ := soloKnock_state
  have hinput : ((run step (duoInit true) soloKnock).floorTable false [22, 443]).input
      (10000000000 : UInt64).toNat ⟨false, .new, sampleAddr, 22⟩ = .accept := by
    rw [FloorTable.input_eq_accept_iff]
    exact .inr (.inr (.inr ⟨30000000000, hexp, by decide⟩))
  obtain ⟨c, hc, hkey, hle, hlt, -⟩ := floor_accepts_sound GateParams.sample sampleGate _ 5000000000
    BoundedDict.empty 0 false [22, 443] soloKnock
    (by simp [ClockMonotone, soloKnock, clientKnock, GateEvent.time]) 10000000000
    (by simp [Reached, soloKnock, clientKnock, GateEvent.time, sampleClocks])
    ⟨false, .new, sampleAddr, 22⟩ rfl (by simp) (by simp) hinput
  exact ⟨c, hc, hkey, hle, hlt⟩

/-- **The floor lets in where XDP does not**: the client knocked for port 22
only, but while its element lives the floor accepts it on port 443 too. -/
theorem floor_accepts_unlisted_port :
    let g := run step (duoInit true) soloKnock
    Reached soloKnock 10000000000 ∧
      (g.floorTable false [22, 443]).input 10000000000 ⟨false, .new, sampleAddr, 443⟩ = .accept ∧
      ¬ sourceAllowed g.allow (addrKey sampleAddr) 443 10000000000 = true := by
  intro g
  obtain ⟨hexp, hallow⟩ := soloKnock_state
  refine ⟨by simp [Reached, soloKnock, clientKnock, GateEvent.time, sampleClocks], ?_, ?_⟩
  · rw [FloorTable.input_eq_accept_iff]
    exact .inr (.inr (.inr ⟨30000000000, hexp, by decide⟩))
  · rw [hallow]
    decide

end Gate

end SpaDevice
