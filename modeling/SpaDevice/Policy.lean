import SpaDevice.Daemon

/-!
# SpaDevice.Policy

The policy in force along a run of the daemon: polls of changed bundle files
interleaved with any traffic.

* The client map, the port set and the generation are those of the bundle that
  was accepted last, and the token map is that bundle's without the ids burned
  since (`policy_in_force`).
* A token opens the gate at most once, unless a bundle applied later lists it
  again (`token_opens_once`).
* `PROTECTED` follows the bundles exactly when the old and the new port set
  together never exceed its capacity (`protected_in_step_iff`).
-/

namespace SpaDevice

namespace Gate

variable {Cr : Type} [Crypto Cr]

/-- The id of the one-time credential that an accepted knock burns. -/
def burned (g : Gate Cr) : Traffic → Option Thumbprint
  | .knock clk packet source =>
      match g.keeper.accepted clk packet source with
      | some (opened, policy) =>
          if policy.singleUse then some opened.auth.keyThumbprint else none
      | none => none
  | _ => none

/-- What traffic does to the trust store: it burns what `burned` says. -/
theorem trust_traffic (g : Gate Cr) (t : Traffic) :
    (g.traffic t).keeper.trust =
      match g.burned t with
      | some id => g.keeper.trust.consume id
      | none => g.keeper.trust := by
  rcases (traffic_cases g t).2 with ⟨clk, packet, source, rfl, hk⟩ | ⟨hno, hk⟩
  · rw [hk, burned]
    cases hacc : g.keeper.accepted clk packet source with
    | none =>
        obtain ⟨reason, -, htrust, -⟩ := Gatekeeper.admitPacket_of_accepted_eq_none hacc
        exact htrust
    | some r =>
        obtain ⟨opened, policy⟩ := r
        obtain ⟨-, -, hcall⟩ := Gatekeeper.accepted_eq_some hacc
        rw [hcall]
        cases hs : policy.singleUse with
        | false => simp [Gatekeeper.afterOpen, hs]
        | true =>
            simp only [Gatekeeper.afterOpen, hs, if_true]
            rfl
  · have hnone : g.burned t = none := by
      cases t with
      | knock clk packet source => exact absurd rfl (hno clk packet source)
      | frame now bytes => rfl
      | evictFlow flow => rfl
      | evictRate addr => rfl
    rw [hk, hnone]

end Gate

namespace Daemon

variable {Cr : Type} [Crypto Cr] {src : BundleSource}

/-! ## What is observed along a run -/

/-- The bundle that a poll applies. -/
def applied (src : BundleSource) (d : Daemon Cr) : DaemonEvent → Option Bundle
  | .poll _ file => d.accepts src file
  | .traffic _ => none

/-- The id that a knock burns. -/
def burned (d : Daemon Cr) : DaemonEvent → Option Thumbprint
  | .traffic t => d.gate.burned t
  | .poll _ _ => none

/-- The token (id and secret) on whose strength a knock opens the gate. -/
def tokenUse (d : Daemon Cr) : DaemonEvent → Option (Thumbprint × List UInt8)
  | .traffic (.knock clk packet source) =>
      match d.gate.keeper.accepted clk packet source with
      | some (opened, policy) =>
          if policy.auth = .psk then some (opened.auth.keyThumbprint, policy.publicKey) else none
      | none => none
  | _ => none

/-- **What an event does to the daemon's policy**: a poll that applies a bundle
installs it, any other poll changes nothing, and traffic at most burns a
token. -/
theorem step_cases (src : BundleSource) (d : Daemon Cr) (e : DaemonEvent) :
    (∃ order b, d.applied src e = some b ∧ d.step src e = d.reload order b ∧ d.burned e = none) ∨
    (d.applied src e = none ∧ (d.step src e).knownPorts = d.knownPorts ∧
      (d.step src e).appliedGen = d.appliedGen ∧
      (d.step src e).gate.protectedPorts = d.gate.protectedPorts ∧
      (d.step src e).gate.keeper.trust =
        match d.burned e with
        | some id => d.gate.keeper.trust.consume id
        | none => d.gate.keeper.trust) := by
  cases e with
  | poll order file =>
      cases hacc : d.accepts src file with
      | some b => exact .inl ⟨order, b, hacc, by rw [step, poll_of_accepts hacc], rfl⟩
      | none =>
          have hsame : d.step src (.poll order file) = d := poll_of_accepts_eq_none hacc order
          rw [hsame]
          exact .inr ⟨hacc, rfl, rfl, rfl, rfl⟩
  | traffic t =>
      exact .inr ⟨rfl, rfl, rfl, (Gate.traffic_cases d.gate t).1, Gate.trust_traffic d.gate t⟩

/-- No event changes the core's config or its crypto adapter. -/
theorem config_crypto_step (src : BundleSource) (d : Daemon Cr) (e : DaemonEvent) :
    (d.step src e).gate.keeper.config = d.gate.keeper.config ∧
      (d.step src e).gate.keeper.crypto = d.gate.keeper.crypto := by
  cases e with
  | traffic t => exact Gate.config_crypto_step d.gate (.traffic t)
  | poll order file =>
      cases hacc : d.accepts src file with
      | some b =>
          rw [step, poll_of_accepts hacc, reload_gate]
          exact ⟨rfl, rfl⟩
      | none =>
          rw [step, poll_of_accepts_eq_none hacc]
          exact ⟨rfl, rfl⟩

/-! ## The policy in force -/

/-- The daemon's policy is that of `b`, without the tokens in `gone`. -/
structure Holds (d : Daemon Cr) (b : Bundle) (gone : List Thumbprint) : Prop where
  clients : d.gate.keeper.trust.clients = clientMap b.clients
  tokens : ∀ id, d.gate.keeper.trust.tokens.lookup id =
    if id ∈ gone then none else (tokenMap b.tokens).lookup id
  knownPorts : d.knownPorts = b.protectedPorts.toFinset
  appliedGen : d.appliedGen = b.generation

omit [Crypto Cr] in
theorem holds_boot {p : GateParams} {crypto : Cr} {policy : Bundle} {d : Daemon Cr}
    (h : boot p crypto policy = .ok d) : Holds d policy [] := by
  obtain ⟨protectedPorts, -, hgate, hknown, hgen⟩ := boot_eq_ok h
  refine ⟨?_, ?_, hknown, hgen⟩
  · rw [hgate]; rfl
  · intro id
    rw [hgate]
    rfl

omit [Crypto Cr] in
theorem holds_reload (d : Daemon Cr) (order : IterOrder UInt16) (b : Bundle) :
    Holds (d.reload order b) b [] := by
  refine ⟨?_, ?_, rfl, rfl⟩
  · rw [reload_gate]; rfl
  · intro id
    rw [reload_gate]
    rfl

/-- An event that applies nothing keeps the policy and burns at most one more
token. -/
theorem Holds.step {d : Daemon Cr} {b : Bundle} {gone : List Thumbprint} (h : Holds d b gone)
    {e : DaemonEvent} (he : d.applied src e = none) :
    Holds (d.step src e) b (gone ++ (d.burned e).toList) := by
  rcases step_cases src d e with ⟨order, b', hb', -⟩ | ⟨-, hknown, hgen, -, htrust⟩
  · rw [he] at hb'
    contradiction
  · cases hburn : d.burned e with
    | none =>
        rw [hburn] at htrust
        refine ⟨?_, ?_, hknown.trans h.knownPorts, hgen.trans h.appliedGen⟩
        · rw [htrust]; exact h.clients
        · intro id
          rw [htrust, Option.toList_none, List.append_nil]
          exact h.tokens id
    | some id₀ =>
        rw [hburn] at htrust
        refine ⟨?_, ?_, hknown.trans h.knownPorts, hgen.trans h.appliedGen⟩
        · rw [htrust]; exact h.clients
        · intro id
          rw [htrust]
          change (d.gate.keeper.trust.tokens.erase id₀).lookup id = _
          rw [Dict.lookup_erase_eq, h.tokens]
          by_cases hid : id = id₀
          · simp [hid]
          · simp [hid]

/-- The run so far is a part up to and including the last poll that applied a
bundle (or nothing, with the start-up policy in its place) and a part since, in
which no poll applied anything; the daemon holds that bundle without the tokens
burned since. -/
def InForce (src : BundleSource) (policy : Bundle) (d₀ : Daemon Cr) (es : List DaemonEvent) : Prop :=
  ∃ before since b, es = before ++ since ∧
    (before = [] ∧ b = policy ∨ ∃ earlier order file, before = earlier ++ [.poll order file] ∧
      (run (step src) d₀ earlier).accepts src file = some b) ∧
    record (step src) (applied src) (run (step src) d₀ before) since = [] ∧
    Holds (run (step src) d₀ es) b
      (record (step src) burned (run (step src) d₀ before) since)

theorem inForce_run {policy : Bundle} {d₀ : Daemon Cr} (h₀ : Holds d₀ policy [])
    (es : List DaemonEvent) : InForce src policy d₀ es := by
  refine run_history (step src) (s := d₀) (I := fun es _ => InForce src policy d₀ es) ?_ ?_ es
  · exact ⟨[], [], policy, rfl, .inl ⟨rfl, rfl⟩, rfl, h₀⟩
  · rintro es e ⟨before, since, b, rfl, hlast, hquiet, hholds⟩
    rcases step_cases src (run (step src) d₀ (before ++ since)) e with
      ⟨order, b', hb', hstep, -⟩ | ⟨hnone, -⟩
    · -- The poll applies a bundle, and the part since starts anew.
      cases e with
      | traffic t => contradiction
      | poll order' file =>
          refine ⟨before ++ since ++ [.poll order' file], [], b', by simp,
            .inr ⟨before ++ since, order', file, rfl, hb'⟩, rfl, ?_⟩
          rw [run_append, run_cons, run_nil, hstep]
          exact holds_reload _ _ _
    · refine ⟨before, since ++ [e], b, by simp, hlast, ?_, ?_⟩
      · rw [record_concat, hquiet, ← run_append, hnone]
        rfl
      · rw [record_concat, ← run_append, run_append (step src) d₀ (before ++ since) [e], run_cons,
          run_nil]
        exact hholds.step hnone

/-- **The policy in force is exactly one authentic bundle**: after any run of
polls and traffic of a daemon started in bundle mode, the clients, ports and
generation are those of the bundle accepted last, and the tokens are that
bundle's without the ids burned since.  A polled file is accepted exactly when
it is authentic and its generation is above the applied one; any other file
changes nothing. -/
theorem policy_in_force (src : BundleSource) (p : GateParams) (crypto : Cr)
    (file₀ : Except String (List UInt8)) (d₀ : Daemon Cr)
    (hstart : start src p crypto file₀ = .ok d₀) (es : List DaemonEvent) :
    let d := run (step src) d₀ es
    (∃ policy, src.load file₀ = .ok policy ∧ InForce src policy d₀ es) ∧
    (∀ order file b, d.applied src (.poll order file) = some b ↔
      ∃ data text raw, file = .ok data ∧ Authentic src.lib src.dec src.anchor data b text raw ∧
        d.appliedGen < b.generation) ∧
    (∀ order file, d.applied src (.poll order file) = none → d.step src (.poll order file) = d) := by
  intro d
  obtain ⟨policy, hload, hboot⟩ := start_eq_ok hstart
  refine ⟨⟨policy, hload, inForce_run (holds_boot hboot) es⟩, ?_, ?_⟩
  · intro order file b
    rw [applied, accepts_eq_some_iff, BundleSource.load, loadVerify_eq_ok_iff]
    constructor
    · rintro ⟨⟨data, text, raw, hfile, hauth⟩, hgen⟩
      exact ⟨data, text, raw, hfile, hauth, hgen⟩
    · rintro ⟨data, text, raw, hfile, hauth, hgen⟩
      exact ⟨⟨data, text, raw, hfile, hauth⟩, hgen⟩
  · intro order file hnone
    exact poll_of_accepts_eq_none hnone order

/-- A daemon started on generation 1 polls a file with generation 2. -/
theorem policy_in_force_sample :
    ∃ d₀, start (sampleSource sampleDocs) GateParams.sample sampleGate
        (.ok (signedFile "generation = 1\n")) = .ok d₀ ∧
      ∃ policy, (sampleSource sampleDocs).load (.ok (signedFile "generation = 1\n")) = .ok policy ∧
        InForce (sampleSource sampleDocs) policy d₀
          [.poll portOrder (.ok (signedFile "generation = 2\n"))] := by
  obtain ⟨d₀, hboot⟩ := boot_of_card_le GateParams.sample sampleGate ⟨1, [], [], []⟩
    (by decide)
  have hstart := start_of_load load_generation_one hboot
  exact ⟨d₀, hstart, (policy_in_force _ _ _ _ d₀ hstart _).1⟩

/-! ## One-time tokens -/

/-- A token opens the gate only while it is in the map, and is then gone from
it. -/
theorem tokens_of_tokenUse (src : BundleSource) {d : Daemon Cr} {e : DaemonEvent}
    {id : Thumbprint} {secret : List UInt8} (h : d.tokenUse e = some (id, secret)) :
    (∃ ports, d.gate.keeper.trust.tokens.lookup id = some (secret, ports)) ∧
      (d.step src e).gate.keeper.trust.tokens.lookup id = none := by
  match e with
  | .traffic (.knock clk packet source) =>
      unfold tokenUse at h
      dsimp only at h
      split at h
      · next opened policy hacc =>
          split at h
          · next hpsk =>
              obtain ⟨rfl, rfl⟩ := Prod.mk.inj (Option.some.inj h)
              obtain ⟨haccepts, -, -⟩ := Gatekeeper.accepted_eq_some hacc
              rcases SharedTrust.lookup_cases haccepts.lookup with ⟨-, hsig, -⟩ | ⟨-, htok, -, hsingle⟩
              · rw [hpsk] at hsig
                contradiction
              · refine ⟨⟨_, htok⟩, ?_⟩
                have hburn : d.gate.burned (.knock clk packet source) =
                    some opened.auth.keyThumbprint := by
                  rw [Gate.burned, hacc]
                  simp [hsingle]
                rw [step, Gate.trust_traffic, hburn]
                exact (Dict.lookup_erase_eq _ _ _).trans (if_pos rfl)
          · contradiction
      · contradiction

/-- The token is not in the map with this secret. -/
def TokenGone (id : Thumbprint) (secret : List UInt8) (d : Daemon Cr) : Prop :=
  ∀ ports, d.gate.keeper.trust.tokens.lookup id ≠ some (secret, ports)

/-- A token that is gone stays gone until a bundle that lists it is applied. -/
theorem TokenGone.step {id : Thumbprint} {secret : List UInt8} {d : Daemon Cr}
    (h : TokenGone id secret d) {e : DaemonEvent}
    (he : ∀ b, d.applied src e = some b →
      ∀ ports, (tokenMap b.tokens).lookup id ≠ some (secret, ports)) :
    TokenGone id secret (d.step src e) := by
  rcases step_cases src d e with ⟨order, b, hb, hstep, -⟩ | ⟨-, -, -, -, htrust⟩
  · intro ports
    rw [hstep, (holds_reload d order b).tokens]
    exact he b hb ports
  · intro ports
    rw [htrust]
    cases d.burned e with
    | none => exact h ports
    | some id₀ =>
        change (d.gate.keeper.trust.tokens.erase id₀).lookup id ≠ _
        rw [Dict.lookup_erase_eq]
        split
        · simp
        · exact h ports

/-- No bundle that is applied after the token opened the gate lists the token
again (with this secret, as the last entry of its id). -/
def NotRelisted (src : BundleSource) (id : Thumbprint) (secret : List UInt8) (d₀ : Daemon Cr)
    (es : List DaemonEvent) : Prop :=
  ∀ before e after, es = before ++ e :: after →
    (run (step src) d₀ before).tokenUse e = some (id, secret) →
    Always (step src)
      (fun d e' => ∀ b, d.applied src e' = some b →
        ∀ ports, (tokenMap b.tokens).lookup id ≠ some (secret, ports))
      ((run (step src) d₀ before).step src e) after

/-- **A token opens the gate at most once** in every run, as long as no bundle
applied after its use lists it again. -/
theorem token_opens_once (src : BundleSource) (d₀ : Daemon Cr) (es : List DaemonEvent)
    (id : Thumbprint) (secret : List UInt8) (hlist : NotRelisted src id secret d₀ es) :
    (record (step src) tokenUse d₀ es).count (id, secret) ≤ 1 := by
  have hpair : (record (step src) tokenUse d₀ es).Pairwise
      fun x y => ¬ (x = (id, secret) ∧ y = (id, secret)) := by
    refine record_pairwise ?_
    rintro before e mid e' after x y heq hx hy ⟨rfl, rfl⟩
    obtain ⟨-, hnone⟩ := tokens_of_tokenUse src hx
    obtain ⟨⟨ports, hstill⟩, -⟩ := tokens_of_tokenUse src hy
    have hgone : TokenGone id secret ((run (step src) d₀ before).step src e) := by
      intro ports
      rw [hnone]
      simp
    have hmid := (hlist before e (mid ++ e' :: after) heq hx).append_left
    exact hmid.invariant (fun d e h he => h.step he) hgone ports hstill
  exact count_le_one_of_pairwise hpair

/-- Two knocks with the sample token; the bundle that is applied in between does not list
it. -/
theorem token_opens_once_sample :
    let src := sampleSource sampleDocs
    let es := [.traffic (.knock (sampleClocks 0) (samplePsk 0) sampleAddr),
      .poll portOrder (.ok (signedFile "generation = 2\n")),
      DaemonEvent.traffic (.knock (sampleClocks 1) (samplePsk 1) sampleAddr)]
    ∃ d₀, boot GateParams.sample sampleGate ⟨1, [], sampleClients, [sampleToken]⟩ = .ok d₀ ∧
      record (step src) (applied src) d₀ es = [⟨2, [], [], []⟩] ∧
      (record (step src) tokenUse d₀ es).count (sampleToken.tokenId, sampleToken.secret) ≤ 1 := by
  intro src es
  obtain ⟨d₀, hboot⟩ := boot_of_card_le GateParams.sample sampleGate
    ⟨1, [], sampleClients, [sampleToken]⟩ (by decide)
  obtain ⟨-, -, -, -, hgen⟩ := boot_eq_ok hboot
  have hload : src.load (.ok (signedFile "generation = 2\n")) = .ok ⟨2, [], [], []⟩ :=
    load_generation_two
  have hacc : ∀ t, (d₀.step src (.traffic t)).accepts src (.ok (signedFile "generation = 2\n")) =
      some ⟨2, [], [], []⟩ := fun t =>
    accepts_eq_some_iff.mpr ⟨hload, by
      rw [show (d₀.step src (.traffic t)).appliedGen = d₀.appliedGen from rfl, hgen]
      exact show (1 : UInt64) < 2 by decide⟩
  refine ⟨d₀, hboot, ?_, token_opens_once src d₀ es _ _ ?_⟩
  · simp [es, record_cons, applied, hacc]
  · intro before e after heq _ before' e' after' heq' b hb
    have hmem : e' ∈ es := by
      rw [heq, heq']
      simp
    simp only [es, List.mem_cons, List.not_mem_nil, or_false] at hmem
    rcases hmem with rfl | rfl | rfl
    · contradiction
    · rw [applied, accepts_eq_some_iff, hload] at hb
      obtain rfl := Except.ok.inj hb.1
      simp [tokenMap, Dict.lookup_ofEntries]
    · contradiction

/-! ### A token listed again -/

/-- An accepted knock puts no other nonce into the cache. -/
theorem seen_step_knock (src : BundleSource) {d : Daemon Cr} {clk : Clocks} {packet : List UInt8}
    {source : IpAddr} {opened : Opened} {policy : ClientPolicy}
    (h : d.gate.keeper.accepted clk packet source = some (opened, policy)) {k : Nonce}
    (hk : k ≠ opened.auth.nonce) (hnone : d.gate.keeper.replay.seen.lookup k = none) :
    (d.step src (.traffic (.knock clk packet source))).gate.keeper.replay.seen.lookup k = none := by
  rw [step, Gate.traffic, (Gatekeeper.accepted_eq_some h).2.2]
  dsimp only
  rw [Gatekeeper.lookup_afterOpen_of_ne _ _ _ _ hk, hnone]
  rfl

/-- What the sample token's knock does to a daemon that has the token and has
not seen the nonce. -/
theorem tokenUse_samplePsk (src : BundleSource) {d : Daemon (GateKeypair transparent)}
    (hconfig : d.gate.keeper.config = sampleConfig) (hcrypto : d.gate.keeper.crypto = sampleGate)
    (hclient : d.gate.keeper.trust.clients.lookup sampleToken.tokenId = none)
    (htoken : d.gate.keeper.trust.tokens.lookup sampleToken.tokenId =
      some (sampleToken.secret, [22])) {clk : Clocks} (hwall : clk.wall = sampleWall) {n : Nat}
    (hnew : d.gate.keeper.replay.seen.lookup (beArr 16 n) = none) (source : IpAddr) :
    d.tokenUse (.traffic (.knock clk (samplePsk n) source)) =
        some (sampleToken.tokenId, sampleToken.secret) ∧
      ∀ k, k ≠ beArr 16 n → d.gate.keeper.replay.seen.lookup k = none →
        (d.step src (.traffic (.knock clk (samplePsk n) source))).gate.keeper.replay.seen.lookup k =
          none := by
  obtain ⟨opened, policy, hacc, hid, hnonce, hsecret, hpsk, -⟩ :=
    Gatekeeper.accepts_samplePsk hconfig hcrypto hclient htoken hwall n
  generalize samplePsk n = packet at hacc ⊢
  have hfresh : d.gate.keeper.fresh clk opened = true :=
    Gatekeeper.fresh_of_lookup_eq_none (by rw [hnonce]; exact hnew)
  have haccepted := Gatekeeper.accepted_of_accepts hacc hfresh source
  refine ⟨?_, fun k hk hnone => ?_⟩
  · simp only [tokenUse, haccepted, hpsk, if_true, hid, hsecret]
  · exact seen_step_knock src haccepted (by rw [hnonce]; exact hk) hnone

/-- A bundle of generation 2 that lists the sample token. -/
def relistText : String :=
  "generation = 2\n\n[[token]]\ntoken_id_hex = \"" ++ hexEncode sampleToken.tokenId.val ++
    "\"\nsecret_hex = \"" ++ hexEncode sampleToken.secret ++ "\"\nports = [22]\n"

def relistDoc : RawBundle where
  generation := 2
  token := [⟨hexEncode sampleToken.tokenId.val, hexEncode sampleToken.secret, [22]⟩]

/-- The source of bundles that has this document. -/
abbrev relistSource : BundleSource := sampleSource [(relistText, relistDoc)]

theorem load_relist :
    relistSource.load (.ok (signedFile relistText)) = .ok ⟨2, [], [], [sampleToken]⟩ := by
  refine load_signedFile _ relistDoc (List.find?_cons_of_pos (by simp)) rfl ?_
  refine (Decoders.parseTokens_eq_ok_iff _ _).mpr (List.Forall₂.cons ?_ List.Forall₂.nil)
  exact ⟨tableDecoders_hexDecode _ _, tableDecoders_hexDecode _ _, rfl⟩

/-- **A burned token works again**: a daemon is started with the sample token,
the token opens the gate, a bundle of the next generation that still lists it
is applied, and the token opens the gate once more. -/
theorem token_opens_twice :
    ∃ d₀, boot GateParams.sample sampleGate ⟨1, [], [], [sampleToken]⟩ = .ok d₀ ∧
      ¬ (record (step relistSource) tokenUse d₀
        [.traffic (.knock (sampleClocks 0) (samplePsk 0) sampleAddr),
          .poll portOrder (.ok (signedFile relistText)),
          .traffic (.knock (sampleClocks 1) (samplePsk 1) sampleAddr)]).count
        (sampleToken.tokenId, sampleToken.secret) ≤ 1 := by
  obtain ⟨d₀, hboot⟩ := boot_of_card_le GateParams.sample sampleGate
    ⟨1, [], [], [sampleToken]⟩ (by decide)
  refine ⟨d₀, hboot, ?_⟩
  obtain ⟨protectedPorts, -, hgate, -, hgen⟩ := boot_eq_ok hboot
  obtain ⟨huse, hseen⟩ := tokenUse_samplePsk relistSource (d := d₀) (n := 0)
    (by rw [hgate]; rfl) (by rw [hgate]; rfl) (by rw [hgate]; rfl)
    (by rw [hgate]; exact lookup_sampleToken) (show (sampleClocks 0).wall = sampleWall from rfl)
    (by rw [hgate]; rfl) sampleAddr
  have hnew := hseen (beArr 16 1) (by decide) (by rw [hgate]; rfl)
  rw [record_cons, huse]
  generalize Traffic.knock (sampleClocks 0) (samplePsk 0) sampleAddr = t at hnew ⊢
  obtain ⟨hconfig, hcrypto⟩ := config_crypto_step relistSource d₀ (.traffic t)
  have hgen₁ : (d₀.step relistSource (.traffic t)).appliedGen = 1 := hgen
  generalize d₀.step relistSource (.traffic t) = d₁ at hnew hconfig hcrypto hgen₁ ⊢
  have happlied : d₁.accepts relistSource (.ok (signedFile relistText)) =
      some ⟨2, [], [], [sampleToken]⟩ :=
    accepts_eq_some_iff.mpr ⟨load_relist, by rw [hgen₁]; decide⟩
  rw [record_cons, step, poll_of_accepts happlied]
  have hholds := holds_reload d₁ portOrder ⟨2, [], [], [sampleToken]⟩
  obtain ⟨huse', -⟩ := tokenUse_samplePsk relistSource
    (d := d₁.reload portOrder ⟨2, [], [], [sampleToken]⟩) (n := 1)
    (by rw [reload_gate]; exact hconfig.trans (by rw [hgate]; rfl))
    (by rw [reload_gate]; exact hcrypto.trans (by rw [hgate]; rfl))
    (by rw [hholds.clients]; rfl)
    (by rw [hholds.tokens]; exact lookup_sampleToken)
    (show (sampleClocks 1).wall = sampleWall from rfl)
    (by rw [reload_gate]; exact hnew) sampleAddr
  rw [record_cons, huse', record_nil]
  simp [tokenUse]

/-! ## The cloaked ports -/

omit [Crypto Cr] in
/-- When `PROTECTED` agrees with the shadow set before a reload, it agrees with
the bundle after it exactly when both port sets fit into the map together. -/
theorem keys_reload_iff {d : Daemon Cr} (h : d.gate.protectedPorts.keys = d.knownPorts)
    (order : IterOrder UInt16) (b : Bundle) :
    (d.reload order b).gate.protectedPorts.keys = b.protectedPorts.toFinset ↔
      (d.knownPorts ∪ b.protectedPorts.toFinset).card ≤ protectedMaxEntries := by
  have hnew : d.knownPorts ∪ (b.protectedPorts.toFinset \ d.knownPorts) =
      d.knownPorts ∪ b.protectedPorts.toFinset := Finset.union_sdiff_self_eq_union
  have hiff := d.gate.protectedPorts.keys_insertAll_eq_iff
    (order.list (b.protectedPorts.toFinset \ d.knownPorts)) 1
  have hsub := d.gate.protectedPorts.keys_subset_insertAll
    (order.list (b.protectedPorts.toFinset \ d.knownPorts)) 1
  have hsup := d.gate.protectedPorts.keys_insertAll_subset
    (order.list (b.protectedPorts.toFinset \ d.knownPorts)) 1
  rw [order.toFinset_list, h, hnew] at hiff
  rw [h] at hsub
  rw [order.toFinset_list, h, hnew] at hsup
  rw [reload_gate]
  dsimp only
  rw [BoundedDict.keys_eraseAll, order.toFinset_list, ← hiff]
  generalize (d.gate.protectedPorts.insertAll _ 1).keys = ins at hsub hsup
  constructor
  · intro heq
    refine Finset.Subset.antisymm hsup (Finset.union_subset hsub ?_)
    rw [← heq]
    exact Finset.sdiff_subset
  · rintro rfl
    ext p
    simp only [Finset.mem_sdiff, Finset.mem_union]
    tauto

/-- `PROTECTED` and the shadow set hold the same ports. -/
def InStep (d : Daemon Cr) : Prop := d.gate.protectedPorts.keys = d.knownPorts

omit [Crypto Cr] in
theorem inStep_boot {p : GateParams} {crypto : Cr} {policy : Bundle} {d : Daemon Cr}
    (h : boot p crypto policy = .ok d) : InStep d := by
  obtain ⟨protectedPorts, hkeys, hgate, hknown, -⟩ := boot_eq_ok h
  rw [InStep, hknown, hgate]
  exact hkeys

/-- After the event `PROTECTED` and the shadow set are the ports of the bundle
that it applied, if it applied one. -/
def PortsFollow (src : BundleSource) (d : Daemon Cr) (e : DaemonEvent) : Prop :=
  ∀ b, d.applied src e = some b →
    (d.step src e).gate.protectedPorts.keys = b.protectedPorts.toFinset ∧
      (d.step src e).knownPorts = b.protectedPorts.toFinset

/-- The ports known before the event and those of the bundle it applies, if it
applies one, fit into `PROTECTED` together. -/
def FitsTogether (src : BundleSource) (d : Daemon Cr) (e : DaemonEvent) : Prop :=
  ∀ b, d.applied src e = some b →
    (d.knownPorts ∪ b.protectedPorts.toFinset).card ≤ protectedMaxEntries

/-- One event: from agreement, `PROTECTED` follows the bundle exactly when the
ports fit together, and then agreement goes on. -/
theorem follows_iff (src : BundleSource) {d : Daemon Cr} (h : InStep d) (e : DaemonEvent) :
    (PortsFollow src d e ↔ FitsTogether src d e) ∧ (PortsFollow src d e → InStep (d.step src e)) := by
  rcases step_cases src d e with ⟨order, b, hb, hstep, -⟩ | ⟨hnone, hknown, -, hprot, -⟩
  · have hiff := keys_reload_iff h order b
    have hfollows : PortsFollow src d e ↔
        (d.reload order b).gate.protectedPorts.keys = b.protectedPorts.toFinset := by
      constructor
      · intro hf
        rw [← hstep]
        exact (hf b hb).1
      · intro hkeys b' hb'
        obtain rfl : b = b' := Option.some.inj (hb.symm.trans hb')
        rw [hstep]
        exact ⟨hkeys, rfl⟩
    have hfits : FitsTogether src d e ↔
        (d.knownPorts ∪ b.protectedPorts.toFinset).card ≤ protectedMaxEntries := by
      constructor
      · intro hf
        exact hf b hb
      · intro hcard b' hb'
        obtain rfl : b = b' := Option.some.inj (hb.symm.trans hb')
        exact hcard
    refine ⟨by rw [hfollows, hfits, hiff], fun hf => ?_⟩
    obtain ⟨hkeys, hknown⟩ := hf b hb
    exact hkeys.trans hknown.symm
  · refine ⟨⟨fun _ b hb => ?_, fun _ b hb => ?_⟩, fun _ => ?_⟩
    · rw [hnone] at hb; contradiction
    · rw [hnone] at hb; contradiction
    · rw [InStep, hprot, hknown]
      exact h

/-- **Reload keeps the cloaked ports in step with policy** along a run exactly
when at each application the ports known before and the new ones fit into
`PROTECTED` together. -/
theorem protected_in_step_iff (src : BundleSource) (p : GateParams) (crypto : Cr) (policy : Bundle)
    (d₀ : Daemon Cr) (hboot : boot p crypto policy = .ok d₀) (es : List DaemonEvent) :
    Always (step src) (PortsFollow src) d₀ es ↔ Always (step src) (FitsTogether src) d₀ es := by
  have h₀ := inStep_boot hboot
  clear hboot
  induction es generalizing d₀ with
  | nil => exact ⟨fun _ => always_nil _ _, fun _ => always_nil _ _⟩
  | cons e es ih =>
      obtain ⟨hiff, hnext⟩ := follows_iff src h₀ e
      rw [always_cons, always_cons, hiff]
      refine and_congr_right fun hfits => ?_
      exact ih (d₀.step src e) (hnext (hiff.mpr hfits))

/-- A daemon started with port 22 applies a bundle without ports. -/
theorem protected_in_step_iff_sample :
    ∃ d₀, boot GateParams.sample sampleGate ⟨1, [22], [], []⟩ = .ok d₀ ∧
      (Always (step (sampleSource sampleDocs)) (PortsFollow (sampleSource sampleDocs)) d₀
          [.poll portOrder (.ok (signedFile "generation = 2\n"))] ↔
        Always (step (sampleSource sampleDocs)) (FitsTogether (sampleSource sampleDocs)) d₀
          [.poll portOrder (.ok (signedFile "generation = 2\n"))]) := by
  obtain ⟨d₀, hboot⟩ := boot_of_card_le GateParams.sample sampleGate ⟨1, [22], [], []⟩
    (by decide)
  exact ⟨d₀, hboot, protected_in_step_iff _ _ _ _ d₀ hboot _⟩

/-- The 64 ports from `n` on. -/
def portsFrom (n : Nat) : List UInt16 := (List.range' n 64).map UInt16.ofNat

def movedText : String :=
  "generation = 2\nprotected_ports = " ++ toString (portsFrom 65) ++ "\n"

def movedDoc : RawBundle where
  generation := 2
  protectedPorts := portsFrom 65

/-- The source of bundles that has this document. -/
abbrev movedSource : BundleSource := sampleSource [(movedText, movedDoc)]

theorem load_moved :
    movedSource.load (.ok (signedFile movedText)) = .ok ⟨2, portsFrom 65, [], []⟩ :=
  load_signedFile _ movedDoc (List.find?_cons_of_pos (by simp)) rfl rfl

theorem card_portsFrom : (portsFrom 1).toFinset.card = 64 ∧ (portsFrom 65).toFinset.card = 64 ∧
    ((portsFrom 1).toFinset ∪ (portsFrom 65).toFinset).card = 128 := by
  refine ⟨card_ports_range (by omega), card_ports_range (by omega), ?_⟩
  have happend : portsFrom 1 ++ portsFrom 65 = (List.range' 1 128).map UInt16.ofNat := by
    rw [portsFrom, portsFrom, ← List.map_append, List.range'_append_1]
  rw [← List.toFinset_append, happend]
  exact card_ports_range (by omega)

/-- **Ports stay uncloaked after a move**: a daemon is started with the ports 1
to 64 and applies a bundle that lists 65 to 128. -/
theorem protected_out_of_step :
    ∃ d₀, boot GateParams.sample sampleGate ⟨1, portsFrom 1, [], []⟩ = .ok d₀ ∧
      Always (step movedSource)
        (fun d e => ∀ b, d.applied movedSource e = some b →
          b.protectedPorts.toFinset.card ≤ protectedMaxEntries)
        d₀ [.poll portOrder (.ok (signedFile movedText))] ∧
      ¬ Always (step movedSource) (PortsFollow movedSource) d₀
        [.poll portOrder (.ok (signedFile movedText))] := by
  obtain ⟨hfirst, hsecond, hboth⟩ := card_portsFrom
  obtain ⟨d₀, hboot⟩ := boot_of_card_le GateParams.sample sampleGate
    ⟨1, portsFrom 1, [], []⟩ (Nat.le_of_eq hfirst)
  obtain ⟨-, -, -, hknown, hgen⟩ := boot_eq_ok hboot
  have happlied : d₀.applied movedSource (.poll portOrder (.ok (signedFile movedText))) =
      some ⟨2, portsFrom 65, [], []⟩ := by
    rw [applied, accepts_eq_some_iff, hgen]
    exact ⟨load_moved, show (1 : UInt64) < 2 by decide⟩
  refine ⟨d₀, hboot, always_cons.mpr ⟨fun b hb => ?_, always_nil _ _⟩, fun hfollow => ?_⟩
  · rw [← Option.some.inj (happlied.symm.trans hb)]
    exact Nat.le_of_eq hsecond
  · have hpoll := (always_cons.mp hfollow).1
    have hfits := (follows_iff movedSource (inStep_boot hboot) _).1.mp hpoll _ happlied
    rw [hknown, hboth] at hfits
    exact absurd hfits (by decide)

end Daemon

end SpaDevice
