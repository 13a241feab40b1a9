import SpaDevice.Lifecycle
import SpaDevice.Replay

/-!
# SpaDevice.Restart

What the gate forgets when its process stops and starts again: the burned
tokens and the replay cache live in memory only.

* A token opens the gate at most as often as a policy that lists it was
  installed, by a start or by a reload (`token_uses_le_installations`).
* The same signing bytes open the gate twice only across a restart, and only
  within twice the skew (`replay_needs_restart`).
-/

namespace SpaDevice

/-! ## Tokens -/

namespace Daemon

variable {Cr : Type}

/-- How often the token can still open the gate: once if the daemon has it. -/
def tokenLeft (id : Thumbprint) (secret : List UInt8) (d : Daemon Cr) : Nat :=
  if (d.gate.keeper.trust.tokens.lookup id).map Prod.fst = some secret then 1 else 0

theorem tokenLeft_eq_zero_iff {id : Thumbprint} {secret : List UInt8} {d : Daemon Cr} :
    d.tokenLeft id secret = 0 ↔ TokenGone id secret d := by
  have hiff : (d.gate.keeper.trust.tokens.lookup id).map Prod.fst = some secret ↔
      ∃ ports, d.gate.keeper.trust.tokens.lookup id = some (secret, ports) := by
    rw [Option.map_eq_some_iff]
    constructor
    · rintro ⟨⟨secret', ports⟩, h, rfl⟩
      exact ⟨ports, h⟩
    · rintro ⟨ports, h⟩
      exact ⟨_, h, rfl⟩
  unfold tokenLeft TokenGone
  by_cases h : (d.gate.keeper.trust.tokens.lookup id).map Prod.fst = some secret
  · obtain ⟨ports, hports⟩ := hiff.mp h
    simp [hports]
  · rw [if_neg h]
    exact ⟨fun _ ports hports => h (hiff.mpr ⟨ports, hports⟩), fun _ => rfl⟩

/-- A daemon that opens the gate on a token had it, and has it no more; any other
traffic adds no token. -/
theorem tokenLeft_traffic [Crypto Cr] (src : BundleSource) (id : Thumbprint) (secret : List UInt8)
    (d : Daemon Cr) (t : Traffic) :
    (d.tokenUse (.traffic t)).toList.countP (· == (id, secret)) +
        (d.step src (.traffic t)).tokenLeft id secret ≤ d.tokenLeft id secret := by
  by_cases huse : d.tokenUse (.traffic t) = some (id, secret)
  · obtain ⟨⟨ports, hhad⟩, hnone⟩ := tokens_of_tokenUse src huse
    simp [huse, tokenLeft, hhad, hnone]
  · have hcount : (d.tokenUse (.traffic t)).toList.countP (· == (id, secret)) = 0 := by
      cases h : d.tokenUse (.traffic t) with
      | none => rfl
      | some x =>
          rw [h] at huse
          simpa using huse
    rw [hcount, Nat.zero_add]
    by_cases hgone : d.tokenLeft id secret = 0
    · have hstill : TokenGone id secret (d.step src (.traffic t)) :=
        (tokenLeft_eq_zero_iff.mp hgone).step fun b hb => by contradiction
      rw [tokenLeft_eq_zero_iff.mpr hstill]
      exact Nat.zero_le _
    · have hle : (d.step src (.traffic t)).tokenLeft id secret ≤ 1 := by
        unfold tokenLeft
        split <;> omega
      omega

end Daemon

namespace System

variable {Cr : Type} [Crypto Cr]

/-- The token on whose strength an event opens the gate. -/
def tokenUse (s : System Cr) : SystemEvent → Option (Thumbprint × List UInt8)
  | .traffic t => s.proc.daemon.bind fun d => d.tokenUse (.traffic t)
  | _ => none

/-- The policy that an event installs: that of a start that goes through, or that
of a bundle the watcher applies. -/
def installed (src : BundleSource) (p : GateParams) (crypto : Cr) (s : System Cr) :
    SystemEvent → Option Bundle
  | .start =>
      match s.proc, src.load s.read with
      | .stopped, .ok b => (Daemon.boot p crypto b).toOption.map fun _ => b
      | _, _ => none
  | .pollLoad _ =>
      match s.proc with
      | .changed d _ => d.accepts src s.read
      | _ => none
  | _ => none

/-- The policy lists the token with this secret, as the last entry of its id. -/
def lists (id : Thumbprint) (secret : List UInt8) (b : Bundle) : Bool :=
  ((tokenMap b.tokens).lookup id).map Prod.fst = some secret

variable {src : BundleSource} {p : GateParams} {crypto : Cr}

/-- Traffic reaches the running daemon, if there is one. -/
theorem daemon_traffic (s : System Cr) (t : Traffic) :
    (s.step src p crypto (.traffic t)).proc.daemon =
      s.proc.daemon.map fun d => d.step src (.traffic t) := by
  unfold step
  dsimp only
  split
  · next hp => rw [hp]; rfl
  · next d hp => rw [hp]; rfl
  · next d m hp => rw [hp]; rfl
  · next d m hp => rw [hp]; rfl

omit [Crypto Cr] in
/-- A policy that is installed brings its own tokens, and no others. -/
theorem tokenLeft_of_holds {d : Daemon Cr} {b : Bundle} (h : d.Holds b []) (id : Thumbprint)
    (secret : List UInt8) : d.tokenLeft id secret = [b].countP (lists id secret) := by
  rw [Daemon.tokenLeft, h.tokens]
  by_cases hlists : ((tokenMap b.tokens).lookup id).map Prod.fst = some secret
  · simp [lists, hlists]
  · simp [lists, hlists]

/-- An event that is no traffic installs a policy, or changes nothing about the
daemon except perhaps that it stops. -/
theorem installed_cases (src : BundleSource) (p : GateParams) (crypto : Cr) (s : System Cr)
    {e : SystemEvent} (he : ∀ t, e ≠ .traffic t) :
    (∃ b d, s.installed src p crypto e = some b ∧ (s.step src p crypto e).proc.daemon = some d ∧
      d.Holds b []) ∨
    s.installed src p crypto e = none ∧ ((s.step src p crypto e).proc.daemon = s.proc.daemon ∨
      (s.step src p crypto e).proc.daemon = none) := by
  cases e with
  | replace f => exact .inr ⟨rfl, .inl rfl⟩
  | remove => exact .inr ⟨rfl, .inl rfl⟩
  | stop => exact .inr ⟨rfl, .inr rfl⟩
  | traffic t => exact absurd rfl (he t)
  | firstMetadata =>
      refine .inr ⟨rfl, .inl ?_⟩
      cases hp : s.proc with
      | loaded d => simp only [step, hp]; rfl
      | stopped => simp only [step, hp]
      | asleep d m => simp only [step, hp]
      | changed d m => simp only [step, hp]
  | pollMetadata =>
      refine .inr ⟨rfl, .inl ?_⟩
      unfold step
      dsimp only
      split
      · next d lastMtime f hp hf =>
          split
          · rfl
          · rw [hp]; rfl
      · rfl
  | pollLoad order =>
      cases hp : s.proc with
      | changed d m =>
          simp only [step, installed, hp]
          cases hacc : d.accepts src s.read with
          | none => exact .inr ⟨rfl, .inl (congrArg some (Daemon.poll_of_accepts_eq_none hacc order))⟩
          | some b =>
              rw [Daemon.poll_of_accepts hacc]
              exact .inl ⟨b, _, rfl, rfl, Daemon.holds_reload d order b⟩
      | stopped => simp [step, installed, hp]
      | loaded d => simp [step, installed, hp]
      | asleep d m => simp [step, installed, hp]
  | start =>
      cases hp : s.proc with
      | stopped =>
          simp only [step, installed, hp]
          cases hload : src.load s.read with
          | error err =>
              have hstart : Daemon.start src p crypto s.read = .error (.bundle err) := by
                rw [Daemon.start, hload]
                rfl
              rw [hstart]
              exact .inr ⟨rfl, .inl (by rw [hp])⟩
          | ok b =>
              cases hboot : Daemon.boot p crypto b with
              | error err =>
                  have hstart : Daemon.start src p crypto s.read = .error err := by
                    rw [Daemon.start, hload]
                    exact hboot
                  rw [hstart]
                  exact .inr ⟨by dsimp only; rw [hboot]; rfl, .inl (by rw [hp])⟩
              | ok d =>
                  rw [Daemon.start_of_load hload hboot]
                  exact .inl ⟨b, d, by dsimp only; rw [hboot]; rfl, rfl, Daemon.holds_boot hboot⟩
      | loaded d => simp [step, installed, hp]
      | asleep d m => simp [step, installed, hp]
      | changed d m => simp [step, installed, hp]

/-- How often the token can still open the gate. -/
def tokenLeft (id : Thumbprint) (secret : List UInt8) (s : System Cr) : Nat :=
  s.proc.daemon.elim 0 (Daemon.tokenLeft id secret)

/-- Opening the gate on a token takes it from what is left, and only the
installation of a policy that lists it gives it back. -/
theorem tokenLeft_step (id : Thumbprint) (secret : List UInt8) (s : System Cr) (e : SystemEvent) :
    (s.tokenUse e).toList.countP (· == (id, secret)) + (s.step src p crypto e).tokenLeft id secret ≤
      s.tokenLeft id secret + (s.installed src p crypto e).toList.countP (lists id secret) := by
  by_cases he : ∃ t, e = .traffic t
  · obtain ⟨t, rfl⟩ := he
    rw [tokenLeft, daemon_traffic, tokenLeft, tokenUse]
    cases s.proc.daemon with
    | none => simp
    | some d => exact Nat.le_trans (d.tokenLeft_traffic src id secret t) (Nat.le_add_right _ _)
  · have hquiet : ∀ t, e ≠ .traffic t := fun t ht => he ⟨t, ht⟩
    have huse : s.tokenUse e = none := by
      cases e with
      | traffic t => exact absurd rfl (hquiet t)
      | _ => rfl
    rw [huse]
    rcases installed_cases src p crypto s hquiet with
      ⟨b, d, hb, hd, hholds⟩ | ⟨hnone, hd | hd⟩
    · rw [hb, tokenLeft, hd, Option.elim_some, tokenLeft_of_holds hholds]
      simp
    · rw [hnone, tokenLeft, tokenLeft, hd]
      simp
    · rw [hnone, tokenLeft, hd]
      simp

/-- **A token is worth one use for each installation of a policy that lists it**:
in every run of the process with restarts, reloads and any traffic, and whatever
is put into the bundle file, the knocks that open the gate on the strength of a
token are at most as many as the starts and reloads that installed a policy with
that token. -/
theorem token_uses_le_installations (src : BundleSource) (p : GateParams) (crypto : Cr)
    (f₀ : Option BundleFile) (es : List SystemEvent) (id : Thumbprint) (secret : List UInt8) :
    (record (step src p crypto) tokenUse ⟨f₀, .stopped⟩ es).count (id, secret) ≤
      (record (step src p crypto) (installed src p crypto) ⟨f₀, .stopped⟩ es).countP
        (lists id secret) := by
  have hzero : tokenLeft id secret (⟨f₀, .stopped⟩ : System Cr) = 0 := rfl
  have hbudget : (record (step src p crypto) tokenUse ⟨f₀, .stopped⟩ es).countP (· == (id, secret)) +
      (run (step src p crypto) ⟨f₀, .stopped⟩ es).tokenLeft id secret ≤ _ :=
    countP_record_le (tokenLeft id secret) (tokenLeft_step id secret) _ es
  rw [hzero, Nat.zero_add] at hbudget
  exact Nat.le_trans (Nat.le_add_right _ _) hbudget

/-! ## Replays -/

/-- The knock that an event accepts. -/
def openedKnock (s : System Cr) : SystemEvent → Option Gatekeeper.OpenedCall
  | .traffic (.knock clk packet source) =>
      s.proc.daemon.bind fun d => d.gate.keeper.openedCall (.call clk packet source)
  | _ => none

/-- The clock readings of the knocks. -/
def knockClocks (es : List SystemEvent) : List Clocks :=
  es.filterMap fun
    | .traffic (.knock clk _ _) => some clk
    | _ => none

/-- What an event does to the core of a daemon that goes on running: a knock is a
call, a reload replaces the trust store, and nothing else reaches it. -/
theorem keeper_step (src : BundleSource) (p : GateParams) (crypto : Cr) {s : System Cr}
    {d : Daemon Cr} (hd : s.proc.daemon = some d) {e : SystemEvent} (he : e ≠ .stop) :
    ∃ d' kes, (s.step src p crypto e).proc.daemon = some d' ∧
      d'.gate.keeper = run Gatekeeper.step d.gate.keeper kes ∧
      Gatekeeper.callClocks kes = knockClocks [e] := by
  by_cases ht : ∃ t, e = .traffic t
  · obtain ⟨t, rfl⟩ := ht
    refine ⟨d.step src (.traffic t), ?_⟩
    rw [daemon_traffic, hd]
    rcases (Gate.traffic_cases d.gate t).2 with ⟨clk, packet, source, rfl, hk⟩ | ⟨hno, hk⟩
    · exact ⟨[.call clk packet source], rfl, hk, rfl⟩
    · refine ⟨[], rfl, hk, ?_⟩
      cases t with
      | knock clk packet source => exact absurd rfl (hno clk packet source)
      | frame now bytes => rfl
      | evictFlow flow => rfl
      | evictRate addr => rfl
  · have hclocks : knockClocks [e] = [] := by
      cases e with
      | traffic t => exact absurd ⟨t, rfl⟩ ht
      | _ => rfl
    rw [hclocks]
    rcases step_cases src p crypto s e with ⟨f, -, hs⟩ | ⟨-, hs⟩ | hs | ⟨proc, hmove, hs⟩
    · exact ⟨d, [], by rw [hs]; exact hd, rfl, rfl⟩
    · exact ⟨d, [], by rw [hs]; exact hd, rfl, rfl⟩
    · exact ⟨d, [], by rw [hs]; exact hd, rfl, rfl⟩
    · rw [hs]
      cases hmove with
      | stop => exact absurd rfl he
      | start hp _ =>
          rw [hp] at hd
          contradiction
      | firstMetadata hp =>
          rw [hp] at hd
          exact ⟨d, [], hd, rfl, rfl⟩
      | pollMetadata hp _ _ =>
          rw [hp] at hd
          exact ⟨d, [], hd, rfl, rfl⟩
      | @pollLoad d₁ m order hp =>
          rw [hp] at hd
          obtain rfl := Option.some.inj hd
          cases hacc : d₁.accepts src s.read with
          | none =>
              exact ⟨d₁, [], congrArg some (Daemon.poll_of_accepts_eq_none hacc order), rfl, rfl⟩
          | some b =>
              refine ⟨d₁.reload order b, [.retrust fun t => (t.set b.clients).setTokens b.tokens],
                ?_, ?_, rfl⟩
              · rw [Daemon.poll_of_accepts hacc]
                rfl
              · rw [Daemon.reload_gate]
                rfl
      | trafficLoaded _ => exact absurd ⟨_, rfl⟩ ht
      | trafficAsleep _ => exact absurd ⟨_, rfl⟩ ht
      | trafficChanged _ => exact absurd ⟨_, rfl⟩ ht

/-- As long as the process is not stopped, its core sees one run of calls and
changes of the trust store. -/
theorem keeper_run {s : System Cr} {d : Daemon Cr} (hd : s.proc.daemon = some d)
    {es : List SystemEvent} (hes : .stop ∉ es) :
    ∃ d' kes, (run (step src p crypto) s es).proc.daemon = some d' ∧
      d'.gate.keeper = run Gatekeeper.step d.gate.keeper kes ∧
      Gatekeeper.callClocks kes = knockClocks es := by
  induction es using List.reverseRecOn with
  | nil => exact ⟨d, [], hd, rfl, rfl⟩
  | append_singleton es e ih =>
      obtain ⟨d₁, kes, hd₁, hk₁, hc₁⟩ := ih fun h => hes (List.mem_append_left _ h)
      have he : e ≠ .stop := fun h => hes (by rw [h]; simp)
      obtain ⟨d₂, kes', hd₂, hk₂, hc₂⟩ := keeper_step src p crypto hd₁ he
      refine ⟨d₂, kes ++ kes', ?_, ?_, ?_⟩
      · rw [run_append]
        exact hd₂
      · rw [run_append, ← hk₁]
        exact hk₂
      · rw [Gatekeeper.callClocks, List.filterMap_append, knockClocks, List.filterMap_append]
        exact congrArg₂ _ hc₁ hc₂

/-- The core of a daemon that `main` has started: its config and the window of its
replay cache are those of the parameters. -/
theorem params_run {f₀ : Option BundleFile} (es : List SystemEvent) {d : Daemon Cr}
    (hd : (run (step src p crypto) ⟨f₀, .stopped⟩ es).proc.daemon = some d) :
    d.gate.keeper.config = p.config ∧ d.gate.keeper.replay.window = p.replayWindow := by
  revert hd
  refine run_invariant (step src p crypto) (I := fun s : System Cr => ∀ d, s.proc.daemon = some d →
    d.gate.keeper.config = p.config ∧ d.gate.keeper.replay.window = p.replayWindow) ?_ ?_ d
  · intro s e _ h d' hd'
    rcases daemon_step src p crypto s e with
      ⟨d, d₁, hd, hd₁, -⟩ | hnone | ⟨-, -, d, hstart, hproc⟩
    · have hne : e ≠ .stop := by
        rintro rfl
        contradiction
      obtain ⟨d₂, kes, hd₂, hk, -⟩ := keeper_step src p crypto hd hne
      obtain rfl := Option.some.inj (hd₂.symm.trans hd')
      rw [hk, (Gatekeeper.config_crypto_run _ kes).1, Gatekeeper.window_run]
      exact h d hd
    · rw [hnone] at hd'
      contradiction
    · rw [hproc] at hd'
      obtain rfl := Option.some.inj hd'
      obtain ⟨b, -, hboot⟩ := Daemon.start_eq_ok hstart
      obtain ⟨protectedPorts, -, hgate, -⟩ := Daemon.boot_eq_ok hboot
      rw [hgate]
      exact ⟨rfl, rfl⟩
  · intro d hd
    contradiction

/-- A stopped process stays stopped until it is started. -/
theorem stopped_run {s : System Cr} (hs : s.proc = .stopped) {es : List SystemEvent}
    (hes : .start ∉ es) : (run (step src p crypto) s es).proc = .stopped := by
  refine run_invariant (step src p crypto) (I := fun s : System Cr => s.proc = .stopped) ?_ hs
  intro s e he h
  rcases step_cases src p crypto s e with ⟨f, -, hstep⟩ | ⟨-, hstep⟩ | hstep | ⟨proc, hmove, hstep⟩
  · rw [hstep]; exact h
  · rw [hstep]; exact h
  · rw [hstep]; exact h
  · rw [hstep]
    cases hmove with
    | stop => rfl
    | start _ _ => exact absurd he hes
    | firstMetadata hp => rw [h] at hp; contradiction
    | pollMetadata hp _ _ => rw [h] at hp; contradiction
    | pollLoad hp => rw [h] at hp; contradiction
    | trafficLoaded hp => rw [h] at hp; contradiction
    | trafficAsleep hp => rw [h] at hp; contradiction
    | trafficChanged hp => rw [h] at hp; contradiction

/-- The clocks behave while the process runs: between two knocks of one life of
the process the instants do not decrease, and the monotonic clock gains less
than the slack on the wall clock. -/
def ClocksSteady (p : GateParams) (es : List SystemEvent) : Prop :=
  ∀ before life after, es = before ++ life ++ after → .stop ∉ life →
    (knockClocks life).Pairwise fun clk clk' => clk.instant ≤ clk'.instant ∧
      Gatekeeper.SlackBetween p.replayWindow p.config.skewNanos clk clk'

theorem openedKnock_eq_some {s : System Cr} {e : SystemEvent} {c : Gatekeeper.OpenedCall}
    (h : s.openedKnock e = some c) :
    e = .traffic (.knock c.clk c.packet c.source) ∧ ∃ d, s.proc.daemon = some d ∧
      d.gate.keeper.openedCall (.call c.clk c.packet c.source) = some c := by
  match e with
  | .traffic (.knock clk packet source) =>
      obtain ⟨d, hd, hcall⟩ := Option.bind_eq_some_iff.mp h
      obtain ⟨he, -⟩ := Gatekeeper.openedCall_eq_some hcall
      obtain ⟨rfl, rfl, rfl⟩ := KeeperEvent.call.inj he
      exact ⟨rfl, d, hd, hcall⟩

/-- The instants of a run of the core, read off its clocks. -/
theorem instants_eq (kes : List (KeeperEvent SharedTrust)) :
    kes.filterMap KeeperEvent.instant = (Gatekeeper.callClocks kes).map Clocks.instant := by
  rw [Gatekeeper.callClocks, List.map_filterMap]
  refine List.filterMap_congr fun e _ => ?_
  cases e with
  | call clk packet source => rfl
  | retrust f => rfl

section

variable {lib : AwsLc} {src : BundleSource} {p : GateParams} {crypto : GateKeypair lib}

/-- Within one life of the process, no two accepted knocks have the same signing
bytes. -/
theorem signingBytes_ne_of_no_stop {f₀ : Option BundleFile} {before mid : List SystemEvent}
    {e e' : SystemEvent} {c c' : Gatekeeper.OpenedCall} (hmid : .stop ∉ mid)
    (hclocks : (knockClocks (e :: (mid ++ [e']))).Pairwise fun clk clk' =>
      clk.instant ≤ clk'.instant ∧
        Gatekeeper.SlackBetween p.replayWindow p.config.skewNanos clk clk')
    (hc : (run (step src p crypto) ⟨f₀, .stopped⟩ before).openedKnock e = some c)
    (hc' : (run (step src p crypto) ⟨f₀, .stopped⟩ (before ++ e :: mid)).openedKnock e' = some c') :
    c.opened.signingBytes ≠ c'.opened.signingBytes := by
  obtain ⟨rfl, d, hd, hcall⟩ := openedKnock_eq_some hc
  obtain ⟨rfl, d', hd', hcall'⟩ := openedKnock_eq_some hc'
  obtain ⟨hconfig, hwindow⟩ := params_run before hd
  rw [run_append, run_cons] at hd'
  have hstep : (System.step src p crypto (run (step src p crypto) ⟨f₀, .stopped⟩ before)
      (.traffic (.knock c.clk c.packet c.source))).proc.daemon =
        some (d.step src (.traffic (.knock c.clk c.packet c.source))) := by
    rw [daemon_traffic, hd]
    rfl
  obtain ⟨d₁, kes, hd₁, hk, hkes⟩ := keeper_run hstep hmid
  obtain rfl := Option.some.inj (hd₁.symm.trans hd')
  rw [hk] at hcall'
  -- The clocks of the whole stretch are those that the core sees.
  have hseen : knockClocks (.traffic (.knock c.clk c.packet c.source) ::
      (mid ++ [.traffic (.knock c'.clk c'.packet c'.source)])) =
        c.clk :: (Gatekeeper.callClocks kes ++ [c'.clk]) := by
    rw [hkes]
    simp [knockClocks]
  rw [hseen] at hclocks
  refine Gatekeeper.openedCall_ne_of_slack hcall hcall' ?_ ?_
  · have hinstants : ((KeeperEvent.call c.clk c.packet c.source ::
        (kes ++ [.call c'.clk c'.packet c'.source])).filterMap KeeperEvent.instant) =
          (c.clk :: (Gatekeeper.callClocks kes ++ [c'.clk])).map Clocks.instant := by
      rw [List.filterMap_cons, List.filterMap_append, instants_eq]
      simp [KeeperEvent.instant]
    rw [InstantsMonotone, hinstants, List.pairwise_map]
    exact hclocks.imp And.left
  · rw [hwindow, hconfig]
    exact ((List.pairwise_cons.mp hclocks).1 c'.clk (by simp)).2

/-- **A replay needs a restart**: in every run of the process with restarts,
reloads and any traffic, whose clocks are steady while the process runs, two
accepted knocks with the same signing bytes have a stop and a later start of the
process between them, and the wall clocks of the two are at most twice the skew
apart. -/
theorem replay_needs_restart (src : BundleSource) (p : GateParams) (crypto : GateKeypair lib)
    (f₀ : Option BundleFile) (before mid after : List SystemEvent) (e e' : SystemEvent)
    (c c' : Gatekeeper.OpenedCall) (hsteady : ClocksSteady p (before ++ e :: (mid ++ e' :: after)))
    (hc : (run (step src p crypto) ⟨f₀, .stopped⟩ before).openedKnock e = some c)
    (hc' : (run (step src p crypto) ⟨f₀, .stopped⟩ (before ++ e :: mid)).openedKnock e' = some c')
    (hsame : c.opened.signingBytes = c'.opened.signingBytes) :
    (∃ life down up, mid = life ++ .stop :: (down ++ .start :: up)) ∧
      (c'.clk.wall.toNat : Int) - c.clk.wall.toNat ≤ 2 * p.config.skewNanos.toNat ∧
      (c.clk.wall.toNat : Int) - c'.clk.wall.toNat ≤ 2 * p.config.skewNanos.toNat := by
  refine ⟨?_, ?_⟩
  · have hstop : .stop ∈ mid := by
      by_contra hmid
      have hlife : .stop ∉ e :: (mid ++ [e']) := by
        obtain ⟨rfl, -⟩ := openedKnock_eq_some hc
        obtain ⟨rfl, -⟩ := openedKnock_eq_some hc'
        simp [hmid]
      exact signingBytes_ne_of_no_stop hmid
        (hsteady before (e :: (mid ++ [e'])) after (by simp) hlife) hc hc' hsame
    obtain ⟨life, rest, rfl⟩ := List.append_of_mem hstop
    have hstart : .start ∈ rest := by
      by_contra hrest
      obtain ⟨-, d', hd', -⟩ := openedKnock_eq_some hc'
      rw [show before ++ e :: (life ++ .stop :: rest) = (before ++ e :: life) ++ .stop :: rest by simp,
        run_append, run_cons, stopped_run rfl hrest] at hd'
      contradiction
    obtain ⟨down, up, rfl⟩ := List.append_of_mem hstart
    exact ⟨life, down, up, rfl⟩
  · obtain ⟨-, d, hd, hcall⟩ := openedKnock_eq_some hc
    obtain ⟨-, d', hd', hcall'⟩ := openedKnock_eq_some hc'
    obtain ⟨-, policy, hacc, -⟩ := Gatekeeper.openedCall_eq_some hcall
    obtain ⟨-, policy', hacc', -⟩ := Gatekeeper.openedCall_eq_some hcall'
    have hregion : c.opened.auth.signingRegion = c'.opened.auth.signingRegion := by
      rw [← (GateKeypair.openPacket_signingBytes hacc.openPacket).1,
        ← (GateKeypair.openPacket_signingBytes hacc'.openPacket).1]
      exact hsame
    obtain ⟨-, hts, -⟩ := Authorization.signingRegion_inj hregion
    have htime := hacc.timestamp
    have htime' := hacc'.timestamp
    rw [(params_run before hd).1] at htime
    rw [(params_run (before ++ e :: mid) hd').1, ← hts] at htime'
    exact ⟨Gatekeeper.wall_sub_le htime htime', Gatekeeper.wall_sub_le htime' htime⟩

end

/-- The bundle that lists the sample token. -/
def tokenFile : BundleFile := ⟨signedFile Daemon.relistText, 1⟩

/-- The sample token's knock opens a gate that has just started. -/
theorem openedCall_samplePsk {d : Daemon (GateKeypair transparent)}
    (hboot : Daemon.boot GateParams.sample sampleGate ⟨2, [], [], [sampleToken]⟩ = .ok d) :
    ∃ c, d.gate.keeper.openedCall (.call (sampleClocks 0) (samplePsk 0) sampleAddr) = some c ∧
      c.clk = sampleClocks 0 := by
  obtain ⟨protectedPorts, -, hgate, -⟩ := Daemon.boot_eq_ok hboot
  obtain ⟨opened, policy, hacc, -⟩ := Gatekeeper.accepts_samplePsk
    (show d.gate.keeper.config = sampleConfig by rw [hgate]; rfl) (by rw [hgate]; rfl)
    (by rw [hgate]; rfl) (by rw [hgate]; exact lookup_sampleToken)
    (show (sampleClocks 0).wall = sampleWall from rfl) 0
  generalize samplePsk 0 = packet at hacc ⊢
  have hfresh : d.gate.keeper.fresh (sampleClocks 0) opened = true := by
    refine Gatekeeper.fresh_of_lookup_eq_none ?_
    rw [hgate]
    rfl
  exact ⟨_, by rw [Gatekeeper.openedCall, Gatekeeper.accepted_of_accepts hacc hfresh]; rfl, rfl⟩

/-- The sample token's knock, and its replay after a restart. -/
theorem replay_needs_restart_sample :
    let stepS := step Daemon.relistSource GateParams.sample sampleGate
    let knock : SystemEvent := .traffic (.knock (sampleClocks 0) (samplePsk 0) sampleAddr)
    ∃ c, (run stepS ⟨some tokenFile, .stopped⟩ [.start]).openedKnock knock = some c ∧
      (run stepS ⟨some tokenFile, .stopped⟩ [.start, knock, .stop, .start]).openedKnock knock =
        some c ∧
      ∃ life down up, [.stop, .start] = life ++ SystemEvent.stop :: (down ++ .start :: up) := by
  obtain ⟨d, hboot⟩ := Daemon.boot_of_card_le GateParams.sample sampleGate
    ⟨2, [], [], [sampleToken]⟩ (by decide)
  obtain ⟨c, hcall, hclk⟩ := openedCall_samplePsk hboot
  generalize samplePsk 0 = packet at hcall ⊢
  intro stepS knock
  have hstart : stepS ⟨some tokenFile, .stopped⟩ .start = ⟨some tokenFile, .loaded d⟩ :=
    step_start Daemon.load_relist hboot
  have hopens : System.openedKnock ⟨some tokenFile, .loaded d⟩ knock = some c := hcall
  have hfirst : (run stepS ⟨some tokenFile, .stopped⟩ [.start]).openedKnock knock = some c := by
    rw [run_cons, hstart]
    exact hopens
  have hstop : ∀ s, stepS s .stop = ⟨s.file, .stopped⟩ := fun _ => rfl
  have hknock : (stepS ⟨some tokenFile, .loaded d⟩ knock).file = some tokenFile := rfl
  have hsecond : (run stepS ⟨some tokenFile, .stopped⟩
      [.start, knock, .stop, .start]).openedKnock knock = some c := by
    rw [run_cons, run_cons, run_cons, run_cons, run_nil, hstart, hstop, hknock, hstart]
    exact hopens
  refine ⟨c, hfirst, hsecond, (replay_needs_restart Daemon.relistSource GateParams.sample sampleGate
    (some tokenFile) [.start] [.stop, .start] [] knock knock c c ?_ hfirst hsecond rfl).1⟩
  intro before life after heq _
  have hall : ∀ clk ∈ knockClocks life, clk = sampleClocks 0 := by
    intro clk hclk
    have hmem : clk ∈ knockClocks (before ++ life ++ after) := by
      rw [knockClocks, List.filterMap_append, List.filterMap_append]
      exact List.mem_append_left _ (List.mem_append_right _ hclk)
    rw [← heq] at hmem
    simpa [knockClocks, knock] using hmem
  refine List.pairwise_of_forall_mem_list fun clk hclk clk' hclk' => ?_
  rw [hall clk hclk, hall clk' hclk']
  exact ⟨Nat.le_refl _, by unfold Gatekeeper.SlackBetween; decide⟩

end System

end SpaDevice
