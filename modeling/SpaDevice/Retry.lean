import SpaDevice.Grants
import SpaDevice.Policy
import SpaDevice.Replay

/-!
# SpaDevice.Retry

What is left of a knock whose grant could not be written.

The nonce is recorded and a one-time credential is burned before the writer is
called, and the writer ignores that the insert failed.  So a second knock with
the same client key opens the gate once there is room for its grant, and a
second knock with the same token never does (`retry_opens_iff`).
-/

namespace SpaDevice

namespace Gate

variable {Cr : Type} [Crypto Cr]

/-! ## The two knocks -/

/-- The gate with another allow-list.  The daemon itself takes nothing out of
`ALLOW`, so room is made from outside, in whatever way. -/
def setAllow (g : Gate Cr) (allow : AllowMap) : Gate Cr :=
  { g with keeper := { g.keeper with gate := { g.keeper.gate with allow } } }

/-- The knock passes every check, and there is no room for its grant. -/
structure FailedWrite (g : Gate Cr) (clk : Clocks) (packet : List UInt8) (source : IpAddr)
    (opened : Opened) (policy : ClientPolicy) : Prop where
  accepted : g.keeper.accepted clk packet source = some (opened, policy)
  full : ¬ g.allow.Fits (addrKey source)

/-- No client or token set is replaced. -/
def NoPolicyChange (es : List GateEvent) : Prop :=
  (∀ clients, .update (.setClients clients) ∉ es) ∧ ∀ tokens, .update (.setTokens tokens) ∉ es

/-- The gate a second knock finds: after the first knock, the events `mid` and
whatever was done to `ALLOW` meanwhile. -/
def beforeRetry (g : Gate Cr) (clk : Clocks) (packet : List UInt8) (source : IpAddr)
    (mid : List GateEvent) (allow : AllowMap) : Gate Cr :=
  (run step (g.step (.traffic (.knock clk packet source))) mid).setAllow allow

/-- The packet is a second knock with the credential and the ports of `opened`,
authenticated under the same key: meant for this gate, inside the time window,
with a fresh nonce. -/
structure SecondKnock (g : Gate Cr) (opened : Opened) (policy : ClientPolicy) (clk : Clocks)
    (packet : List UInt8) (opened' : Opened) : Prop where
  openPacket : Crypto.openPacket g.keeper.crypto packet = .ok opened'
  gateId : opened'.auth.gateId = g.keeper.config.gateId
  timestamp : absDiff clk.wall opened'.auth.timestampNanos ≤ g.keeper.config.skewNanos
  credential : opened'.auth.keyThumbprint = opened.auth.keyThumbprint
  authentic : authentic g.keeper.crypto policy opened' = true
  ports : opened'.auth.ports = opened.auth.ports
  fresh : g.keeper.fresh clk opened' = true

/-- The knock is answered `opened`, and its grant is in `ALLOW` afterwards. -/
def Installs (g : Gate Cr) (clk : Clocks) (packet : List UInt8) (source : IpAddr)
    (ports : List UInt16) : Prop :=
  (g.keeper.admitPacket clk packet source).1 = .opened ports ∧
    (g.step (.traffic (.knock clk packet source))).allow.get (addrKey source) =
      some (Grant.make (satAdd clk.mono g.keeper.config.pinholeNanos) ports)

/-! ## The trust store in between -/

/-- One event that replaces no set burns at most one token. -/
theorem trust_step (g : Gate Cr) {e : GateEvent} (hclients : ∀ cs, e ≠ .update (.setClients cs))
    (htokens : ∀ ts, e ≠ .update (.setTokens ts)) :
    (g.step e).keeper.trust = g.keeper.trust ∨
      ∃ id, (g.step e).keeper.trust = g.keeper.trust.consume id := by
  match e with
  | .traffic t =>
      have htrust := trust_traffic g t
      cases hburn : g.burned t with
      | none =>
          rw [hburn] at htrust
          exact .inl htrust
      | some id =>
          rw [hburn] at htrust
          exact .inr ⟨id, htrust⟩
  | .update (.setClients cs) => exact absurd rfl (hclients cs)
  | .update (.setTokens ts) => exact absurd rfl (htokens ts)
  | .update (.protect port) => exact .inl rfl
  | .update (.unprotect port) => exact .inl rfl

/-- The store `t'` has the clients of `t` and at most its tokens. -/
structure BurnedFrom (t t' : SharedTrust) : Prop where
  clients : t'.clients = t.clients
  suite : t'.suite = t.suite
  tokens : ∀ id, t.tokens.lookup id = none → t'.tokens.lookup id = none

theorem BurnedFrom.consume {t t' : SharedTrust} (h : BurnedFrom t t') (id : Thumbprint) :
    BurnedFrom t (t'.consume id) := by
  refine ⟨h.clients, h.suite, fun id' hnone => ?_⟩
  change (t'.tokens.erase id).lookup id' = none
  rw [Dict.lookup_erase_eq, h.tokens id' hnone]
  simp

/-- Without a policy change the clients stay, and a burned token stays burned. -/
theorem burnedFrom_run (g : Gate Cr) {es : List GateEvent} (h : NoPolicyChange es) :
    BurnedFrom g.keeper.trust (run step g es).keeper.trust := by
  refine run_invariant step (I := fun g' => BurnedFrom g.keeper.trust g'.keeper.trust) ?_
    ⟨rfl, rfl, fun _ hnone => hnone⟩
  intro g' e he hburned
  have hclients : ∀ cs, e ≠ .update (.setClients cs) := fun cs heq => h.1 cs (heq ▸ he)
  have htokens : ∀ ts, e ≠ .update (.setTokens ts) := fun ts heq => h.2 ts (heq ▸ he)
  rcases trust_step g' hclients htokens with hsame | ⟨id, hconsume⟩
  · rw [hsame]
    exact hburned
  · rw [hconsume]
    exact hburned.consume id

/-- A store that burned only tokens finds a client as before. -/
theorem BurnedFrom.lookup_client {t t' : SharedTrust} (h : BurnedFrom t t') {thumb : Thumbprint}
    {e : Entry} (hclient : t.clients.lookup thumb = some e) : t'.lookup thumb = t.lookup thumb := by
  have hclient' : t'.clients.lookup thumb = some e := by rw [h.clients, hclient]
  rw [SharedTrust.lookup_of_client hclient, SharedTrust.lookup_of_client hclient', h.suite]

/-- A burned token is not found again. -/
theorem BurnedFrom.lookup_token {t t' : SharedTrust} (h : BurnedFrom t t') {id : Thumbprint}
    (hclient : t.clients.lookup id = none) (htoken : t.tokens.lookup id = none) :
    t'.lookup id = none := by
  rw [SharedTrust.lookup, h.clients, hclient, h.tokens id htoken]

/-! ## What becomes of the retry -/

/-- A second knock whose credential is still found with its policy opens the
gate, when there is room. -/
theorem SecondKnock.installs {g : Gate Cr} {opened opened' : Opened} {policy : ClientPolicy}
    {clk : Clocks} {packet : List UInt8} (h : SecondKnock g opened policy clk packet opened')
    (hlookup : g.keeper.trust.lookup opened.auth.keyThumbprint = some policy)
    (hports : portsPermitted opened.auth.ports policy.allowedPorts = true) {source : IpAddr}
    (hfits : g.allow.Fits (addrKey source)) : Installs g clk packet source opened.auth.ports := by
  have hacc : g.keeper.Accepts clk packet opened' policy :=
    ⟨h.openPacket, h.gateId, h.timestamp, by rw [h.credential]; exact hlookup, h.authentic,
      by rw [h.ports]; exact hports⟩
  have hcall := Gatekeeper.admitPacket_of_accepts hacc source
  rw [if_pos h.fresh, h.ports] at hcall
  refine ⟨by rw [hcall], ?_⟩
  rw [step, traffic, hcall, ← h.ports]
  exact (BoundedDict.get_insertOrKeep _ _ _ _).trans (if_pos ⟨hfits, rfl⟩)

/-- A second knock whose credential is gone is refused. -/
theorem SecondKnock.rejected {g : Gate Cr} {opened opened' : Opened} {policy : ClientPolicy}
    {clk : Clocks} {packet : List UInt8} (h : SecondKnock g opened policy clk packet opened')
    (hlookup : g.keeper.trust.lookup opened.auth.keyThumbprint = none) (source : IpAddr) :
    (g.keeper.admitPacket clk packet source).1 = .rejected .unknownClient := by
  have hts : ¬ absDiff clk.wall opened'.auth.timestampNanos > g.keeper.config.skewNanos :=
    UInt64.not_lt.mpr h.timestamp
  have hnone : TrustStore.lookup g.keeper.trust opened'.auth.keyThumbprint = none := by
    rw [h.credential]
    exact hlookup
  simp [Gatekeeper.admitPacket, h.openPacket, h.gateId, hts, hnone]

/-- What the first knock leaves of its own credential. -/
theorem FailedWrite.trust {g : Gate Cr} {clk : Clocks} {packet : List UInt8} {source : IpAddr}
    {opened : Opened} {policy : ClientPolicy} (h : FailedWrite g clk packet source opened policy) :
    (g.step (.traffic (.knock clk packet source))).keeper.trust =
      if policy.singleUse then g.keeper.trust.consume opened.auth.keyThumbprint
      else g.keeper.trust := by
  rw [step, traffic, (Gatekeeper.accepted_eq_some h.accepted).2.2]
  rfl

/-- A retry finds its client key as before, or finds its token gone. -/
theorem retry_cases {g : Gate Cr} {clk : Clocks} {packet : List UInt8} {source : IpAddr}
    {opened : Opened} {policy : ClientPolicy}
    (hfailed : FailedWrite g clk packet source opened policy) {mid : List GateEvent}
    (hmid : NoPolicyChange mid) {allow : AllowMap} {clk' : Clocks} {packet' : List UInt8}
    {source' : IpAddr} {opened' : Opened}
    (hsecond : SecondKnock (beforeRetry g clk packet source mid allow) opened policy clk' packet'
      opened')
    (hfits : allow.Fits (addrKey source')) :
    ((∃ e, g.keeper.trust.clients.lookup opened.auth.keyThumbprint = some e) ∧
      Installs (beforeRetry g clk packet source mid allow) clk' packet' source' opened.auth.ports) ∨
    (g.keeper.trust.clients.lookup opened.auth.keyThumbprint = none ∧
      ((beforeRetry g clk packet source mid allow).keeper.admitPacket clk' packet' source').1 =
        .rejected .unknownClient) := by
  obtain ⟨hacc, -, -⟩ := Gatekeeper.accepted_eq_some hfailed.accepted
  have hburned := burnedFrom_run (g.step (.traffic (.knock clk packet source))) hmid
  rw [hfailed.trust] at hburned
  rcases SharedTrust.lookup_cases hacc.lookup with ⟨hclient, -, hsingle⟩ | ⟨hnone, -, -, hsingle⟩
  · rw [hsingle] at hburned
    have hlookup := (hburned.lookup_client hclient).trans hacc.lookup
    exact .inl ⟨⟨_, hclient⟩, hsecond.installs hlookup hacc.ports hfits⟩
  · rw [hsingle] at hburned
    have hgone : (g.keeper.trust.consume opened.auth.keyThumbprint).tokens.lookup
        opened.auth.keyThumbprint = none :=
      (Dict.lookup_erase_eq _ _ _).trans (if_pos rfl)
    exact .inr ⟨hnone, hsecond.rejected (hburned.lookup_token hnone hgone) source'⟩

/-- **When a retry works**: after a knock that passed every check but whose grant
could not be written, a second knock with the same credential and ports, a fresh
nonce and a timestamp inside the window, with no policy change in between and
with room for its grant, opens the gate and installs its grant exactly when the
credential is a client key.  A one-time token is gone. -/
theorem retry_opens_iff (g : Gate Cr) (clk : Clocks) (packet : List UInt8) (source : IpAddr)
    (opened : Opened) (policy : ClientPolicy)
    (hfailed : FailedWrite g clk packet source opened policy) (mid : List GateEvent)
    (hmid : NoPolicyChange mid) (allow : AllowMap) (clk' : Clocks) (packet' : List UInt8)
    (source' : IpAddr) (opened' : Opened)
    (hsecond : SecondKnock (beforeRetry g clk packet source mid allow) opened policy clk' packet'
      opened')
    (hfits : allow.Fits (addrKey source')) :
    Installs (beforeRetry g clk packet source mid allow) clk' packet' source' opened.auth.ports ↔
      ∃ e, g.keeper.trust.clients.lookup opened.auth.keyThumbprint = some e := by
  rcases retry_cases hfailed hmid hsecond hfits with ⟨hclient, hinstalls⟩ | ⟨hnone, hrejected⟩
  · exact iff_of_true hinstalls hclient
  · refine iff_of_false ?_ (by simp [hnone])
    rintro ⟨hopened, -⟩
    rw [hrejected] at hopened
    contradiction

/-! ## Retries at a full allow-list -/

/-- A retry that follows at once. -/
theorem beforeRetry_nil (g : Gate Cr) (clk : Clocks) (packet : List UInt8) (source : IpAddr) :
    beforeRetry g clk packet source [] (g.step (.traffic (.knock clk packet source))).allow =
      g.step (.traffic (.knock clk packet source)) :=
  rfl

/-- A window of 5 seconds, and nothing but entries of time 0. -/
def OldNonces (g : Gate Cr) : Prop :=
  g.keeper.replay.window = 5000000000 ∧ ∀ k t, g.keeper.replay.seen.lookup k = some t → t = 0

/-- Knocks at time 0 leave entries of time 0. -/
theorem OldNonces.step {g : Gate Cr} (h : OldNonces g) (packet : List UInt8) (source : IpAddr) :
    OldNonces (g.step (.traffic (.knock (sampleClocks 0) packet source))) := by
  have hkeeper : (g.step (.traffic (.knock (sampleClocks 0) packet source))).keeper =
      g.keeper.step (.call (sampleClocks 0) packet source) := rfl
  have hwindow := (g.keeper.seen_step (.call (sampleClocks 0) packet source) (beArr 16 0)).1
  refine ⟨by rw [hkeeper, hwindow, h.1], ?_⟩
  intro k t ht
  rw [hkeeper] at ht
  rcases (g.keeper.seen_step (.call (sampleClocks 0) packet source) k).2 with
    ⟨c, hc, -, hnew⟩ | hsame | ⟨now, -, hkept⟩
  · have hcall := KeeperEvent.call.inj (Gatekeeper.openedCall_eq_some hc).1
    rw [hnew, ← hcall.1] at ht
    exact (Option.some.inj ht).symm
  · rw [hsame] at ht
    exact h.2 k t ht
  · rw [hkept] at ht
    exact h.2 k t (Option.mem_filter_iff.mp ht).1

/-- A knock at 40 seconds forgets them all. -/
theorem OldNonces.forgotten {g : Gate Cr} (h : OldNonces g) {packet : List UInt8} {source : IpAddr}
    {opened : Opened} {policy : ClientPolicy}
    (hacc : g.keeper.accepted (sampleClocks 40) packet source = some (opened, policy)) {k : Nonce}
    (hk : k ≠ opened.auth.nonce) :
    (g.step (.traffic (.knock (sampleClocks 40) packet source))).keeper.replay.seen.lookup k =
      none := by
  rw [Gate.step, traffic, (Gatekeeper.accepted_eq_some hacc).2.2]
  dsimp only
  rw [Gatekeeper.lookup_afterOpen_of_ne _ _ _ _ hk]
  cases hl : g.keeper.replay.seen.lookup k with
  | none => rfl
  | some t => simp [h.2 k t hl, h.1, sampleClocks]

theorem oldNonces_crowd (n : Nat) : OldNonces (run Gate.step crowdGate (crowd n)) := by
  refine run_invariant Gate.step ?_ ⟨rfl, fun k t ht => ?_⟩
  · intro g e he h
    obtain ⟨i, -, rfl⟩ := List.mem_map.mp he
    exact h.step (sampleKnock i) (.v6 (beArr 16 i))
  · contradiction

/-- Two knocks with one credential: the first from a new address while the crowd
fills the allow-list, the second, a second later, from the first address of the
crowd. -/
theorem Crowded.retry {n : Nat} (hn : n = allowMaxEntries) {g : Gate (GateKeypair transparent)}
    (h : Crowded n g) (hold : OldNonces g) {packet packet' : List UInt8} {opened opened' : Opened}
    {policy policy' : ClientPolicy}
    (hfirst : g.keeper.Accepts (sampleClocks 40) packet opened policy)
    (hsecond : g.keeper.Accepts (sampleClocks 41) packet' opened' policy')
    (hnonce : opened.auth.nonce = beArr 16 n) (hnonce' : opened'.auth.nonce = beArr 16 0)
    (hcredential : opened'.auth.keyThumbprint = opened.auth.keyThumbprint)
    (hports : opened'.auth.ports = opened.auth.ports) :
    let source : IpAddr := .v6 (beArr 16 n)
    let g' := g.step (.traffic (.knock (sampleClocks 40) packet source))
    FailedWrite g (sampleClocks 40) packet source opened policy ∧
      SecondKnock g' opened policy (sampleClocks 41) packet' opened' ∧
      g'.allow.Fits (addrKey (.v6 (beArr 16 0))) := by
  intro source g'
  have hn' : n ≤ 1024 := Nat.le_of_eq hn
  have hpos : 0 < n := by rw [hn]; decide
  have hfresh : g.keeper.fresh (sampleClocks 40) opened = true :=
    Gatekeeper.fresh_of_lookup_eq_none (by rw [hnonce]; exact h.unseen n (Nat.le_refl n) hn')
  have hacc := Gatekeeper.accepted_of_accepts hfirst hfresh source
  have hallow : g'.allow = g.allow := by
    change (g.keeper.admitPacket _ _ _).2.gate.allow = _
    rw [(Gatekeeper.accepted_eq_some hacc).2.2]
    exact BoundedDict.insertOrKeep_of_not_fits (h.full hn) _
  obtain ⟨hconfig, hcrypto⟩ :=
    config_crypto_step g (.traffic (.knock (sampleClocks 40) packet source))
  obtain rfl : policy = policy' := by
    have hlookup := hsecond.lookup
    rw [hcredential, hfirst.lookup] at hlookup
    exact Option.some.inj hlookup
  refine ⟨⟨hacc, h.full hn⟩, ⟨?_, ?_, ?_, hcredential, ?_, hports, ?_⟩, ?_⟩
  · rw [hcrypto]; exact hsecond.openPacket
  · rw [hconfig]; exact hsecond.gateId
  · rw [hconfig]; exact hsecond.timestamp
  · rw [hcrypto]; exact hsecond.authentic
  · refine Gatekeeper.fresh_of_lookup_eq_none (hold.forgotten hacc ?_)
    rw [hnonce, hnonce']
    exact beArr_ne (by omega) hn' (by omega)
  · rw [hallow]
    refine .inl ?_
    rw [h.keys]
    exact Finset.mem_image_of_mem _ (Finset.mem_range.mpr hpos)

theorem wall_sampleClocks (secs : Nat) : (sampleClocks secs).wall = sampleWall := rfl

/-- The two knocks of the sample client. -/
theorem crowd_client_retry {n : Nat} (hn : n = allowMaxEntries) :
    let g := run Gate.step crowdGate (crowd n)
    let source : IpAddr := .v6 (beArr 16 n)
    let g' := g.step (.traffic (.knock (sampleClocks 40) (sampleKnock n) source))
    ∃ opened policy opened', FailedWrite g (sampleClocks 40) (sampleKnock n) source opened policy ∧
      SecondKnock g' opened policy (sampleClocks 41) (sampleKnock 0) opened' ∧
      g'.allow.Fits (addrKey (.v6 (beArr 16 0))) ∧
      ∃ e, g.keeper.trust.clients.lookup opened.auth.keyThumbprint = some e := by
  intro g source g'
  have hcrowd : Crowded n g := crowded_run (Nat.le_of_eq hn)
  have hsuite : g.keeper.trust.suite = .modern := by rw [hcrowd.trust]; rfl
  have hclients : g.keeper.trust.clients = clientMap sampleClients := by rw [hcrowd.trust]; rfl
  obtain ⟨opened, policy, hfirst, hports, hnonce, -, hthumb⟩ :=
    Gatekeeper.accepts_sampleKnock hcrowd.config hcrowd.crypto hsuite hclients
      (wall_sampleClocks 40) n
  obtain ⟨opened', policy', hsecond, hports', hnonce', -, hthumb'⟩ :=
    Gatekeeper.accepts_sampleKnock hcrowd.config hcrowd.crypto hsuite hclients
      (wall_sampleClocks 41) 0
  obtain ⟨hfailed, hknock, hfits⟩ := hcrowd.retry hn (oldNonces_crowd n) hfirst hsecond hnonce
    hnonce' (hthumb'.trans hthumb.symm) (hports'.trans hports.symm)
  have hclient : g.keeper.trust.clients.lookup opened.auth.keyThumbprint =
      some ((sampleClient 5).pub, [22]) := by
    rw [hthumb, hclients]
    exact lookup_sampleClients
  exact ⟨opened, policy, opened', hfailed, hknock, hfits, _, hclient⟩

/-- The sample client's retry opens the gate. -/
theorem client_retry_opens :
    let g := run Gate.step crowdGate (crowd 1024)
    let g' := g.step (.traffic (.knock (sampleClocks 40) (sampleKnock 1024) (.v6 (beArr 16 1024))))
    ∃ opened policy,
      FailedWrite g (sampleClocks 40) (sampleKnock 1024) (.v6 (beArr 16 1024)) opened policy ∧
      Installs g' (sampleClocks 41) (sampleKnock 0) (.v6 (beArr 16 0)) opened.auth.ports := by
  have hn : 1024 = allowMaxEntries := rfl
  generalize 1024 = n at hn ⊢
  intro g g'
  obtain ⟨opened, policy, opened', hfailed, hsecond, hfits, hclient⟩ := crowd_client_retry hn
  rw [← beforeRetry_nil] at hsecond
  have hinstalls := (retry_opens_iff g (sampleClocks 40) (sampleKnock n) (.v6 (beArr 16 n)) opened
    policy hfailed [] ⟨by simp, by simp⟩ g'.allow (sampleClocks 41) (sampleKnock 0)
    (.v6 (beArr 16 0)) opened' hsecond hfits).mpr hclient
  rw [beforeRetry_nil] at hinstalls
  exact ⟨opened, policy, hfailed, hinstalls⟩

/-- The two knocks with the sample token. -/
theorem crowd_token_retry {n : Nat} (hn : n = allowMaxEntries) :
    let g := run Gate.step crowdGate (crowd n)
    let source : IpAddr := .v6 (beArr 16 n)
    let g' := g.step (.traffic (.knock (sampleClocks 40) (samplePsk n) source))
    ∃ opened policy opened', FailedWrite g (sampleClocks 40) (samplePsk n) source opened policy ∧
      SecondKnock g' opened policy (sampleClocks 41) (samplePsk 0) opened' ∧
      g'.allow.Fits (addrKey (.v6 (beArr 16 0))) ∧
      (g'.keeper.admitPacket (sampleClocks 41) (samplePsk 0) (.v6 (beArr 16 0))).1 =
        .rejected .unknownClient := by
  intro g source g'
  have hcrowd : Crowded n g := crowded_run (Nat.le_of_eq hn)
  have hclient : g.keeper.trust.clients.lookup sampleToken.tokenId = none := by
    rw [hcrowd.trust]
    exact lookup_sampleToken_clients
  have htoken : g.keeper.trust.tokens.lookup sampleToken.tokenId =
      some (sampleToken.secret, [22]) := by
    rw [hcrowd.trust]
    exact lookup_sampleToken
  obtain ⟨opened, policy, hfirst, hid, hnonce, -, -, hports⟩ :=
    Gatekeeper.accepts_samplePsk hcrowd.config hcrowd.crypto hclient htoken (wall_sampleClocks 40) n
  obtain ⟨opened', policy', hsecond, hid', hnonce', -, -, hports'⟩ :=
    Gatekeeper.accepts_samplePsk hcrowd.config hcrowd.crypto hclient htoken (wall_sampleClocks 41) 0
  obtain ⟨hfailed, hknock, hfits⟩ := hcrowd.retry hn (oldNonces_crowd n) hfirst hsecond hnonce
    hnonce' (hid'.trans hid.symm) (hports'.trans hports.symm)
  have hnone : NoPolicyChange [] := ⟨by simp, by simp⟩
  rw [← beforeRetry_nil] at hknock
  rcases retry_cases hfailed hnone hknock hfits with ⟨⟨e, he⟩, -⟩ | ⟨-, hrejected⟩
  · rw [hid, hclient] at he
    contradiction
  · rw [beforeRetry_nil] at hknock hrejected
    exact ⟨opened, policy, opened', hfailed, hknock, hfits, hrejected⟩

/-- **A failed write costs the token**: while 1024 addresses fill the allow-list,
the sample token knocks from another one and its grant is not written; a second
later it knocks again from an address that has an entry, and is unknown. -/
theorem token_retry_refused :
    let g := run Gate.step crowdGate (crowd 1024)
    let source : IpAddr := .v6 (beArr 16 1024)
    let g' := g.step (.traffic (.knock (sampleClocks 40) (samplePsk 1024) source))
    ∃ opened policy opened',
      FailedWrite g (sampleClocks 40) (samplePsk 1024) source opened policy ∧
      SecondKnock g' opened policy (sampleClocks 41) (samplePsk 0) opened' ∧
      g'.allow.Fits (addrKey (.v6 (beArr 16 0))) ∧
      (g'.keeper.admitPacket (sampleClocks 41) (samplePsk 0) (.v6 (beArr 16 0))).1 =
        .rejected .unknownClient :=
  crowd_token_retry rfl

end Gate

end SpaDevice
