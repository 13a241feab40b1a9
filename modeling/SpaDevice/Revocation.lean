import SpaDevice.Opening
import SpaDevice.Policy

/-!
# SpaDevice.Revocation

What a bundle that no longer lists a credential takes away, and when.

The watcher's writes are interleaved with knocks and frames in any order.  Once the
last of them has been made, every knock with a credential that the bundle leaves out
is rejected; grants that were written before run out with their pinholes; and a
frame that still passes belongs to a flow that was opened in that time
(`revoked_within_pinhole`).  Nothing takes a grant back, so this is also all that a
revocation does.

The argument has two halves: the trust store does not know the credentials from
there on (`Unknown`), and so no accepted knock of the address comes after the reload
(`lastOpen_run`).
-/

namespace SpaDevice

/-! ## Updates that list none of the credentials -/

/-- The bundle lists none of the credentials. -/
structure Bundle.ListsNone (revoked : Thumbprint → Prop) (b : Bundle) : Prop where
  clients : ∀ c ∈ b.clients, ¬ revoked c.thumbprint
  tokens : ∀ t ∈ b.tokens, ¬ revoked t.tokenId

/-- The write lists none of the credentials. -/
def Update.ListsNone (revoked : Thumbprint → Prop) : Update → Prop
  | .setClients clients => ∀ c ∈ clients, ¬ revoked c.thumbprint
  | .setTokens tokens => ∀ t ∈ tokens, ¬ revoked t.tokenId
  | .protect _ => True
  | .unprotect _ => True

namespace GateEvent

/-- The write of the watcher, if the event is one. -/
def update? : GateEvent → Option Update
  | .update u => some u
  | .traffic _ => none

@[simp] theorem update?_eq_some {e : GateEvent} {u : Update} : e.update? = some u ↔ e = .update u := by
  cases e <;> simp [update?]

/-- The event does not put any of the credentials into the trust store. -/
def ListsNone (revoked : Thumbprint → Prop) (e : GateEvent) : Prop :=
  ∀ u, e = .update u → u.ListsNone revoked

/-- A knock of the address `key` carries one of the credentials, if it can be opened
at all. -/
def Carries {Cr : Type} [Crypto Cr] (crypto : Cr) (revoked : Thumbprint → Prop) (key : Addr)
    (e : GateEvent) : Prop :=
  ∀ clk packet source opened, e = .traffic (.knock clk packet source) → addrKey source = key →
    Crypto.openPacket crypto packet = .ok opened → revoked opened.auth.keyThumbprint

end GateEvent

theorem lookup_clientMap_eq_none {clients : List ClientEntry} {id : Thumbprint}
    (h : ∀ c ∈ clients, c.thumbprint ≠ id) : (clientMap clients).lookup id = none := by
  rw [clientMap, Dict.lookup_ofEntries]
  simpa using h

theorem lookup_tokenMap_eq_none {tokens : List TokenEntry} {id : Thumbprint}
    (h : ∀ t ∈ tokens, t.tokenId ≠ id) : (tokenMap tokens).lookup id = none := by
  rw [tokenMap, Dict.lookup_ofEntries]
  simpa using h

/-- The writes of a reload list what the bundle lists. -/
theorem Bundle.ListsNone.reloadUpdates {revoked : Thumbprint → Prop} {b : Bundle}
    (h : b.ListsNone revoked) (order : IterOrder UInt16) (known : Finset UInt16) {u : Update}
    (hu : u ∈ Daemon.reloadUpdates order known b) : u.ListsNone revoked := by
  simp only [Daemon.reloadUpdates, List.mem_append, List.mem_cons, List.not_mem_nil, or_false,
    List.mem_map] at hu
  rcases hu with ((rfl | rfl) | ⟨p, -, rfl⟩) | ⟨p, -, rfl⟩
  · exact h.clients
  · exact h.tokens
  · trivial
  · trivial

namespace Gate

variable {Cr : Type} [Crypto Cr] {revoked : Thumbprint → Prop} {g : Gate Cr} {e : GateEvent}

/-! ## Credentials the store does not know -/

/-- None of the credentials is a client's. -/
def NoClient (revoked : Thumbprint → Prop) (g : Gate Cr) : Prop :=
  ∀ id, revoked id → g.keeper.trust.clients.lookup id = none

/-- None of the credentials is a token's. -/
def NoToken (revoked : Thumbprint → Prop) (g : Gate Cr) : Prop :=
  ∀ id, revoked id → g.keeper.trust.tokens.lookup id = none

/-- Traffic leaves the clients alone, and a write brings in only what it lists. -/
theorem NoClient.step (h : NoClient revoked g) (he : e.ListsNone revoked) :
    NoClient revoked (g.step e) := by
  intro id hid
  cases e with
  | traffic t =>
      rw [Gate.step, trust_traffic]
      cases g.burned t with
      | none => exact h id hid
      | some id₀ => exact h id hid
  | update u =>
      cases u with
      | setClients clients =>
          have hnone : ∀ c ∈ clients, c.thumbprint ≠ id := by
            intro c hc heq
            exact he _ rfl c hc (heq ▸ hid)
          exact lookup_clientMap_eq_none hnone
      | setTokens tokens => exact h id hid
      | protect port => exact h id hid
      | unprotect port => exact h id hid

/-- Traffic only burns tokens, and a write brings in only what it lists. -/
theorem NoToken.step (h : NoToken revoked g) (he : e.ListsNone revoked) :
    NoToken revoked (g.step e) := by
  intro id hid
  cases e with
  | traffic t =>
      rw [Gate.step, trust_traffic]
      cases g.burned t with
      | none => exact h id hid
      | some id₀ =>
          show (g.keeper.trust.tokens.erase id₀).lookup id = none
          simp [Dict.lookup_erase_eq, h id hid]
  | update u =>
      cases u with
      | setTokens tokens =>
          have hnone : ∀ t ∈ tokens, t.tokenId ≠ id := by
            intro t ht heq
            exact he _ rfl t ht (heq ▸ hid)
          exact lookup_tokenMap_eq_none hnone
      | setClients clients => exact h id hid
      | protect port => exact h id hid
      | unprotect port => exact h id hid

/-- None of the credentials is known. -/
structure Unknown (revoked : Thumbprint → Prop) (g : Gate Cr) : Prop where
  noClient : NoClient revoked g
  noToken : NoToken revoked g

theorem Unknown.run {es : List GateEvent} (h : Unknown revoked g)
    (hes : ∀ e ∈ es, e.ListsNone revoked) : Unknown revoked (SpaDevice.run step g es) := by
  refine run_invariant step (I := Unknown revoked) ?_ h
  intro g e he hg
  exact ⟨hg.noClient.step (hes e he), hg.noToken.step (hes e he)⟩

/-- **A reload makes the store forget** what the bundle does not list, whatever
traffic comes between its writes. -/
theorem unknown_of_reload {b : Bundle} (hb : b.ListsNone revoked) {order : IterOrder UInt16}
    {known : Finset UInt16} {es : List GateEvent}
    (hes : es.filterMap GateEvent.update? = Daemon.reloadUpdates order known b) :
    Unknown revoked (run step g es) := by
  have hmem : ∀ u, GateEvent.update u ∈ es ↔ u ∈ Daemon.reloadUpdates order known b := by
    intro u
    simp [← hes, List.mem_filterMap]
  have hquiet : ∀ e ∈ es, e.ListsNone revoked := by
    rintro e he u rfl
    exact hb.reloadUpdates order known ((hmem u).mp he)
  -- A run that contains a write of the set forgets at that write and knows none after it.
  constructor
  · have hset : GateEvent.update (.setClients b.clients) ∈ es :=
      (hmem _).mpr (by simp [Daemon.reloadUpdates])
    obtain ⟨l, l', rfl⟩ := List.append_of_mem hset
    rw [run_append, run_cons]
    refine run_invariant step (I := NoClient revoked) ?_ ?_
    · intro g e he hg
      exact hg.step (hquiet e (by simp [he]))
    · intro id hid
      exact lookup_clientMap_eq_none fun c hc heq => hb.clients c hc (heq ▸ hid)
  · have hset : GateEvent.update (.setTokens b.tokens) ∈ es :=
      (hmem _).mpr (by simp [Daemon.reloadUpdates])
    obtain ⟨l, l', rfl⟩ := List.append_of_mem hset
    rw [run_append, run_cons]
    refine run_invariant step (I := NoToken revoked) ?_ ?_
    · intro g e he hg
      exact hg.step (hquiet e (by simp [he]))
    · intro id hid
      exact lookup_tokenMap_eq_none fun t ht heq => hb.tokens t ht (heq ▸ hid)

/-- A knock with an unknown credential is rejected. -/
theorem Unknown.rejected (h : Unknown revoked g) {packet : List UInt8} {opened : Opened}
    (hopen : Crypto.openPacket g.keeper.crypto packet = .ok opened)
    (hid : revoked opened.auth.keyThumbprint) (clk : Clocks) (source : IpAddr) :
    ∃ reason, (g.keeper.admitPacket clk packet source).1 = .rejected reason :=
  Gatekeeper.rejected_of_lookup_eq_none hopen
    (SharedTrust.lookup_of_none (h.noClient _ hid) (h.noToken _ hid)) clk source

/-! ## The last accepted knock of an address -/

/-- An event that is no accepted knock of the address later than `t`. -/
def NoOpenAfter (key : Addr) (t : UInt64) (g : Gate Cr) (e : GateEvent) : Prop :=
  ∀ c, g.openCall e = some c → c.key = key → c.now ≤ t

/-- While none of the credentials is known and the knocks of the address carry no
others, none of them is accepted. -/
theorem Unknown.noOpen {crypto : Cr} {key : Addr} (h : Unknown revoked g)
    (hcrypto : g.keeper.crypto = crypto) (he : e.Carries crypto revoked key) (t : UInt64) :
    NoOpenAfter key t g e := by
  intro c hc hkey
  obtain ⟨clk, packet, rfl, -, hopened, -⟩ := openCall_eq_some hc
  obtain ⟨opened, policy, hacc, -⟩ := Gatekeeper.admitPacket_of_opened hopened
  have hid : revoked opened.auth.keyThumbprint :=
    he clk packet c.source opened rfl hkey (hcrypto ▸ hacc.openPacket)
  obtain ⟨reason, hrejected⟩ := h.rejected hacc.openPacket hid clk c.source
  rw [hopened] at hrejected
  contradiction

/-- No accepted knock of the address comes later than the reload that revoked its
credentials. -/
theorem noOpenAfter_run {crypto : Cr} {key : Addr} {t : UInt64} {b : Bundle}
    {order : IterOrder UInt16} {known : Finset UInt16} {before mid after : List GateEvent}
    (hcrypto : g.keeper.crypto = crypto) (hb : b.ListsNone revoked)
    (hmid : mid.filterMap GateEvent.update? = Daemon.reloadUpdates order known b)
    (hlater : ∀ e ∈ after, e.ListsNone revoked)
    (hcarries : ∀ e ∈ after, e.Carries crypto revoked key)
    (htime : ∀ e ∈ before ++ mid, ∀ u, e.time = some u → u ≤ t) :
    Always step (NoOpenAfter key t) g (before ++ mid ++ after) := by
  refine Always.append ?_ ?_
  · intro l e l' heq c hc _
    exact htime e (by rw [heq]; simp) c.now (time_of_openCall hc)
  · intro l e l' heq
    have hknows : Unknown revoked (run step (run step g (before ++ mid)) l) := by
      rw [run_append step g before mid]
      refine (unknown_of_reload hb hmid).run fun e' he' => hlater e' ?_
      simp [heq, he']
    refine hknows.noOpen ?_ (hcarries e (by simp [heq])) t
    rw [← run_append]
    exact (config_run g _).2.trans hcrypto

theorem openCall_of_opened {clk : Clocks} {packet : List UInt8} {source : IpAddr}
    {ports : List UInt16} (h : (g.keeper.admitPacket clk packet source).1 = .opened ports) :
    g.openCall (.traffic (.knock clk packet source)) =
      some ⟨clk.mono, source, ports, g.keeper.config.pinholeNanos⟩ := by
  simp [openCall, h]

/-- Grants of the address end a pinhole after its last accepted knock. -/
theorem sourceAllowed_of_noOpenAfter {key : Addr} {t : UInt64} {es : List GateEvent}
    (hg : g.allow = BoundedDict.empty) (h : Always step (NoOpenAfter key t) g es) {now : UInt64}
    (hnow : t.toNat + g.keeper.config.pinholeNanos.toNat ≤ now.toNat) (port : UInt16) :
    sourceAllowed (run step g es).allow key port now = false := by
  refine Bool.eq_false_iff.mpr fun hallowed => ?_
  obtain ⟨grant, hget, hexp, -⟩ := (sourceAllowed_iff _ _ _ _).mp hallowed
  obtain ⟨l, e, l', heq, clk, packet, source, ports, rfl, hd, hkey, rfl⟩ :=
    allow_provenance hg es key grant hget
  have hle : clk.mono ≤ t := h l _ l' heq _ (openCall_of_opened hd) hkey
  have hlt := UInt64.lt_iff_toNat_lt.mp hexp
  rw [Grant.expiryNs_make, toNat_satAdd, (config_run g l).1] at hlt
  have hle' := UInt64.le_iff_toNat_le.mp hle
  omega

/-- A flow of the address is opened less than a pinhole after its last accepted
knock. -/
theorem Chain.lt_of_noOpenAfter {flow : FlowKey} {t t₀ now : UInt64} {bytes : List UInt8}
    {es l l' : List GateEvent} {first : GateEvent}
    (h : Always step (NoOpenAfter flow.saddr t) g es)
    (heq : es ++ [.traffic (.frame now bytes)] = l ++ first :: l')
    (hchain : Chain flow g l first l' t₀) :
    t₀.toNat < t.toNat + g.keeper.config.pinholeNanos.toNat := by
  obtain ⟨l₁, e, l₂, rfl, clk, packet, source, ports, rfl, hd, hkey, -, -, hlt⟩ := hchain.opened
  -- The knock is not the frame at the end, so it is an event of the run itself.
  have hframe : Always step (NoOpenAfter flow.saddr t) (run step g es)
      [.traffic (.frame now bytes)] := by
    refine always_cons.mpr ⟨fun c hc => ?_, always_nil _ _⟩
    contradiction
  have hle : clk.mono ≤ t := by
    refine (h.append hframe) l₁ _ (l₂ ++ first :: l') ?_ _ (openCall_of_opened hd) hkey
    rw [heq]
    simp
  rw [(config_run g l₁).1] at hlt
  have hle' := UInt64.le_iff_toNat_le.mp hle
  omega

/-- **A revocation takes effect within one pinhole**: the watcher applies a bundle
that lists none of the credentials, its writes mixed with any traffic, and later
writes list none of them either.  Then from the last write on every knock with one
of the credentials is rejected.  An address whose knocks since carry no others is
allowed on no port a pinhole after the last write; and what still passes from it to a
protected port belongs to a flow that was opened before that. -/
theorem revoked_within_pinhole (p : GateParams) (crypto : Cr) (trust : SharedTrust) (window : Nat)
    (nftFloor : Bool) (protectedPorts : ProtectedMap) (knockPort : UInt16)
    (revoked : Thumbprint → Prop) (key : Addr) (b : Bundle) (order : IterOrder UInt16)
    (known : Finset UInt16) (before mid after : List GateEvent) (t : UInt64)
    (hb : b.ListsNone revoked)
    (hmid : mid.filterMap GateEvent.update? = Daemon.reloadUpdates order known b)
    (hlater : ∀ e ∈ after, e.ListsNone revoked)
    (hcarries : ∀ e ∈ after, e.Carries crypto revoked key)
    (htime : ∀ e ∈ before ++ mid, ∀ u, e.time = some u → u ≤ t) :
    let es := before ++ mid ++ after
    let g₀ := init p.config crypto trust window nftFloor protectedPorts knockPort
    let g := run step g₀ es
    (∀ clk packet source opened, Crypto.openPacket crypto packet = .ok opened →
      revoked opened.auth.keyThumbprint →
      ∃ reason, (g.keeper.admitPacket clk packet source).1 = .rejected reason) ∧
    (∀ now port, t.toNat + pinholeNanos.toNat ≤ now.toNat →
      sourceAllowed g.allow key port now = false) ∧
    (∀ now bytes flow flags, ClockMonotone (es ++ [.traffic (.frame now bytes)]) →
      tcpHeader bytes = some (flow, flags) → flow.saddr = key →
      isProtected g.maps flow.dport = true → (spaGate g.maps now bytes).1 = .pass →
      ∃ l first l' t₀, es ++ [.traffic (.frame now bytes)] = l ++ first :: l' ∧
        Chain flow g₀ l first l' t₀ ∧ (chainLog flow g₀ l first l').getLast? = some (now, flags) ∧
        t₀.toNat < t.toNat + pinholeNanos.toNat) := by
  intro es g₀ g
  have hnoOpen : Always step (NoOpenAfter key t) g₀ es :=
    noOpenAfter_run rfl hb hmid hlater hcarries htime
  have hunknown : Unknown revoked g := by
    show Unknown revoked (run step g₀ (before ++ mid ++ after))
    rw [run_append, run_append]
    exact (unknown_of_reload hb hmid).run hlater
  refine ⟨?_, ?_, ?_⟩
  · intro clk packet source opened hopen hid
    have hcrypto : g.keeper.crypto = crypto := (config_run g₀ es).2
    exact hunknown.rejected (hcrypto ▸ hopen) hid clk source
  · intro now port hnow
    exact sourceAllowed_of_noOpenAfter rfl hnoOpen hnow port
  · rintro now bytes flow flags hclock hh rfl hprot hpass
    obtain ⟨l, first, l', t₀, heq, hchain, hlast, -⟩ :=
      chain_of_pass rfl rfl hclock hh hprot hpass
    exact ⟨l, first, l', t₀, heq, hchain, hlast, hchain.lt_of_noOpenAfter hnoOpen heq⟩

/-- The client knocks, a bundle without clients is applied, and the client knocks
again: after 30 seconds it is out. -/
theorem revoked_within_pinhole_sample :
    (duoInit false).openCall (clientKnock 0 [22] 0 sampleAddr) = some (clientCall 0 [22] sampleAddr) ∧
    ∀ port, sourceAllowed (run step (duoInit false)
      ([clientKnock 0 [22] 0 sampleAddr] ++
        (Daemon.reloadUpdates Daemon.portOrder ∅ ⟨2, [], [], []⟩).map .update ++
        [clientKnock 20 [22] 1 sampleAddr])).allow (addrKey sampleAddr) port 30000000000 = false := by
  refine ⟨((serves_duoInit false).knock (by decide) asks_ssh.length asks_ssh.allowed 0 sampleAddr).1,
    fun port => ?_⟩
  obtain ⟨-, hout, -⟩ := revoked_within_pinhole GateParams.sample sampleGate
    ((SharedTrust.new .modern).set
      [⟨(sampleClient 5).thumbprint, (sampleClient 5).pub, [22, 443]⟩])
    5000000000 false BoundedDict.empty 0 (fun _ => True) (addrKey sampleAddr) ⟨2, [], [], []⟩
    Daemon.portOrder ∅ [clientKnock 0 [22] 0 sampleAddr]
    ((Daemon.reloadUpdates Daemon.portOrder ∅ ⟨2, [], [], []⟩).map .update)
    [clientKnock 20 [22] 1 sampleAddr] 0 ⟨by simp, by simp⟩
    (by simp [List.filterMap_map, Function.comp_def, GateEvent.update?])
    (by simp [GateEvent.ListsNone, clientKnock]) (fun _ _ _ _ _ _ _ _ _ => trivial)
    (by simp [clientKnock, GateEvent.time, sampleClocks])
  exact hout 30000000000 port (by decide)

end Gate

end SpaDevice
