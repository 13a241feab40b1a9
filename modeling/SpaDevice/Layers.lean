import SpaDevice.Floor
import SpaDevice.Policy

/-!
# SpaDevice.Layers

The floor under the daemon: its table follows the commands that go through, and it
needs nothing of XDP.

A run of the daemon is a run of the gate, in which a poll that applies a bundle
stands for the writes of its reload (`gate_run`), and the daemon holds the bundle in
force (`holds_inForce`).

The daemon does not look at what its `nft` commands report (`Floored`): the table goes
its own way where one fails, and it may hold what an earlier process left.  Where every
command goes through, from a new table on, it is the one of `SpaDevice.Floor`, for the
ports of the bundle in force (`run_of_success`).  In any case the ports of the bundle
whose `set_ports` went through last are shut: to a new connection the floor opens them
only during the pinhole of an accepted knock of its address, or on an element that
was there at the start (`listed_ports_stay_shut`).  This is so where `PROTECTED` had no
room for the port, and it stays so when the daemon is gone.
-/

namespace SpaDevice

/-- The reading of the monotonic clock an event carries. -/
def DaemonEvent.time : DaemonEvent → Option UInt64
  | .traffic t => (GateEvent.traffic t).time
  | .poll _ _ => none

namespace Daemon

variable {Cr : Type} [Crypto Cr] {src : BundleSource}

/-! ## A run of the daemon is a run of the gate -/

/-- What happens at the gate: the traffic, or the writes of a bundle that is
applied. -/
def gateEvents (src : BundleSource) (d : Daemon Cr) : DaemonEvent → List GateEvent
  | .traffic t => [.traffic t]
  | .poll order file =>
      match d.accepts src file with
      | some b => (reloadUpdates order d.knownPorts b).map .update
      | none => []

/-- What happens at the gate along a run. -/
def gateTrace (src : BundleSource) (d : Daemon Cr) (es : List DaemonEvent) : List GateEvent :=
  (outputs (step src) (gateEvents src) d es).flatten

/-- A run of writes, as events of the gate. -/
theorem run_map_update (g : Gate Cr) (us : List Update) :
    run Gate.step g (us.map .update) = run Gate.update g us := by
  induction us generalizing g with
  | nil => rfl
  | cons u us ih => simp [ih, Gate.step]

theorem gate_step (src : BundleSource) (d : Daemon Cr) (e : DaemonEvent) :
    (d.step src e).gate = run Gate.step d.gate (d.gateEvents src e) := by
  cases e with
  | traffic t => rfl
  | poll order file =>
      rw [step, gateEvents]
      cases hacc : d.accepts src file with
      | some b =>
          rw [poll_of_accepts hacc, reload]
          exact (run_map_update d.gate _).symm
      | none => rw [poll_of_accepts_eq_none hacc order]; rfl

/-- **The daemon refines its gate**: what its run does to the gate is a run of the
gate. -/
theorem gate_run (src : BundleSource) (d : Daemon Cr) (es : List DaemonEvent) :
    (run (step src) d es).gate = run Gate.step d.gate (d.gateTrace src es) :=
  run_flatten gate (gate_step src) d es

omit [Crypto Cr] in
/-- The writes of a reload carry no reading of the clock. -/
theorem time_gateEvents (src : BundleSource) (d : Daemon Cr) (e : DaemonEvent) :
    (d.gateEvents src e).filterMap GateEvent.time = e.time.toList := by
  cases e with
  | traffic t =>
      rw [gateEvents, DaemonEvent.time]
      cases h : (GateEvent.traffic t).time <;> simp [h]
  | poll order file =>
      rw [gateEvents]
      cases d.accepts src file with
      | none => rfl
      | some b => simp [DaemonEvent.time, List.filterMap_map, Function.comp_def, GateEvent.time]

theorem gateTrace_cons (src : BundleSource) (d : Daemon Cr) (e : DaemonEvent)
    (es : List DaemonEvent) :
    d.gateTrace src (e :: es) = d.gateEvents src e ++ (d.step src e).gateTrace src es := by
  simp [gateTrace]

theorem time_gateTrace (src : BundleSource) (d : Daemon Cr) (es : List DaemonEvent) :
    (d.gateTrace src es).filterMap GateEvent.time = es.filterMap DaemonEvent.time := by
  induction es generalizing d with
  | nil => rfl
  | cons e es ih =>
      rw [gateTrace_cons, List.filterMap_append, time_gateEvents, ih, List.filterMap_cons]
      cases e.time <;> rfl

/-! ## The daemon's identity and policy -/

/-- No event changes the suite of the trust store. -/
theorem suite_step (src : BundleSource) (d : Daemon Cr) (e : DaemonEvent) :
    (d.step src e).gate.keeper.trust.suite = d.gate.keeper.trust.suite := by
  rcases step_cases src d e with ⟨order, b, -, hstep, -⟩ | ⟨-, -, -, -, htrust⟩
  · rw [hstep, reload_gate]
    rfl
  · rw [htrust]
    cases d.burned e with
    | none => rfl
    | some id => rfl

/-- A daemon keeps the configuration, the key and the suite it was started with. -/
theorem identity_run (src : BundleSource) {p : GateParams} {crypto : Cr} {policy : Bundle}
    {d₀ : Daemon Cr} (hboot : boot p crypto policy = .ok d₀) (es : List DaemonEvent) :
    let d := run (step src) d₀ es
    d.gate.keeper.config = p.config ∧ d.gate.keeper.crypto = crypto ∧
      d.gate.keeper.trust.suite = p.suite := by
  refine run_invariant (step src) (I := fun d : Daemon Cr => d.gate.keeper.config = p.config ∧
    d.gate.keeper.crypto = crypto ∧ d.gate.keeper.trust.suite = p.suite) ?_ ?_
  · rintro d e - ⟨hconfig, hcrypto, hsuite⟩
    obtain ⟨hconfig', hcrypto'⟩ := config_crypto_step src d e
    exact ⟨hconfig'.trans hconfig, hcrypto'.trans hcrypto, (suite_step src d e).trans hsuite⟩
  · obtain ⟨protectedPorts, -, hgate, -, -⟩ := boot_eq_ok hboot
    rw [hgate]
    exact ⟨rfl, rfl, rfl⟩

/-- The bundle in force after a run: the one applied last. -/
def inForce (src : BundleSource) (policy : Bundle) (d₀ : Daemon Cr) (es : List DaemonEvent) : Bundle :=
  (record (step src) (applied src) d₀ es).getLast?.getD policy

/-- The daemon holds the bundle in force, without some of its tokens. -/
theorem holds_inForce (src : BundleSource) {policy : Bundle} {d₀ : Daemon Cr}
    (h₀ : Holds d₀ policy []) (es : List DaemonEvent) :
    ∃ gone, Holds (run (step src) d₀ es) (inForce src policy d₀ es) gone := by
  refine run_history (step src) (s := d₀)
    (I := fun es d => ∃ gone, Holds d (inForce src policy d₀ es) gone) ⟨[], h₀⟩ ?_ es
  rintro es e ⟨gone, hholds⟩
  rw [inForce] at hholds ⊢
  rw [record_concat]
  rcases step_cases src (run (step src) d₀ es) e with ⟨order, b, hb, hstep, -⟩ | ⟨hnone, -⟩
  · rw [hstep, hb]
    exact ⟨[], by simpa using holds_reload _ order b⟩
  · rw [hnone]
    exact ⟨_, by simpa using hholds.step hnone⟩

/-! ## The floor in the daemon's state -/

/-- The call of the core on its writer. -/
def openCall (d : Daemon Cr) : DaemonEvent → Option GrantCall
  | .traffic t => d.gate.openCall (.traffic t)
  | .poll _ _ => none

/-- The reading of a call is the time of its event. -/
theorem time_of_openCall {d : Daemon Cr} {e : DaemonEvent} {c : GrantCall}
    (h : d.openCall e = some c) : e.time = some c.now := by
  cases e with
  | traffic t => exact Gate.time_of_openCall h
  | poll order file => contradiction

/-- The writer changes exactly by the calls. -/
theorem writer_step (src : BundleSource) (d : Daemon Cr) (e : DaemonEvent) :
    (d.step src e).gate.keeper.gate =
      (d.openCall e).elim d.gate.keeper.gate d.gate.keeper.gate.call := by
  cases e with
  | traffic t => exact Gate.writer_step d.gate (.traffic t)
  | poll order file =>
      rw [step, openCall]
      cases hacc : d.accepts src file with
      | some b => rw [poll_of_accepts hacc, reload_gate]; rfl
      | none => rw [poll_of_accepts_eq_none hacc order]; rfl

/-- No event turns the floor on or off. -/
theorem nftFloor_step (src : BundleSource) (d : Daemon Cr) (e : DaemonEvent) :
    (d.step src e).gate.keeper.gate.nftFloor = d.gate.keeper.gate.nftFloor := by
  rw [writer_step]
  cases d.openCall e <;> rfl

/-- The port set changes exactly by the bundles that are applied. -/
theorem floorPorts_step (src : BundleSource) (d : Daemon Cr) (e : DaemonEvent)
    (hnft : d.gate.keeper.gate.nftFloor = true) :
    (d.step src e).floorPorts = (d.applied src e).elim d.floorPorts Bundle.protectedPorts := by
  cases e with
  | traffic t => rfl
  | poll order file =>
      rw [step, applied]
      cases hacc : d.accepts src file with
      | some b => rw [poll_of_accepts hacc, reload, if_pos hnft]; rfl
      | none => rw [poll_of_accepts_eq_none hacc order]; rfl

/-- The floor's table, as far as the daemon knows. -/
def floorTable (refresh : Bool) (d : Daemon Cr) : FloorTable :=
  d.gate.floorTable refresh d.floorPorts

/-! ## The table in the kernel -/

end Daemon

/-- An `nft` command that the running daemon gives. -/
inductive NftCommand where
  | addElement (e : FloorElement)
  | setPorts (protectedPorts : List UInt16)

/-- What a command does when it goes through: the script of `set_ports` is one
transaction. -/
def FloorTable.exec (refresh : Bool) (tbl : FloorTable) : NftCommand → FloorTable
  | .addElement e => tbl.addElement refresh e
  | .setPorts protectedPorts => { tbl with ports := protectedPorts }

/-- The command that an event makes the daemon give. -/
def Daemon.nftCommand {Cr : Type} [Crypto Cr] (src : BundleSource) (d : Daemon Cr) (e : DaemonEvent) :
    Option NftCommand :=
  if d.gate.keeper.gate.nftFloor then
    match d.openCall e with
    | some c => some (.addElement c.element)
    | none => (d.applied src e).map fun b => .setPorts b.protectedPorts
  else none

/-- The daemon, and the floor's table in the kernel. -/
structure Floored (Cr : Type) where
  daemon : Daemon Cr
  table : FloorTable

namespace Floored

variable {Cr : Type} [Crypto Cr] {src : BundleSource} {refresh : Bool}

/-- The command of an event that goes through; the mark of the event says whether it
does. -/
def command (src : BundleSource) (f : Floored Cr) (e : DaemonEvent × Bool) : Option NftCommand :=
  if e.2 then f.daemon.nftCommand src e.1 else none

/-- The daemon ignores the result of its commands, and one that fails does nothing. -/
def step (refresh : Bool) (src : BundleSource) (f : Floored Cr) (e : DaemonEvent × Bool) :
    Floored Cr where
  daemon := f.daemon.step src e.1
  table := (f.command src e).elim f.table (f.table.exec refresh)

@[simp] theorem table_of_failed (f : Floored Cr) (e : DaemonEvent) :
    (f.step refresh src (e, false)).table = f.table := rfl

/-- The daemon does not see its floor. -/
theorem daemon_run (f : Floored Cr) (es : List (DaemonEvent × Bool)) :
    (run (step refresh src) f es).daemon =
      run (Daemon.step src) f.daemon (es.map Prod.fst) := by
  induction es generalizing f with
  | nil => rfl
  | cons e es ih => exact ih (f.step refresh src e)

/-- What happened to the daemon happened in the run with its floor. -/
theorem occurs_map {P : Daemon Cr → DaemonEvent → Prop} {f : Floored Cr}
    {es : List (DaemonEvent × Bool)} (h : Occurs (step refresh src) (fun f e => P f.daemon e.1) f es) :
    Occurs (Daemon.step src) P f.daemon (es.map Prod.fst) := by
  obtain ⟨before, e, after, rfl, hP⟩ := h
  exact ⟨before.map Prod.fst, e.1, after.map Prod.fst, by simp, by rwa [← daemon_run]⟩

/-! ## Where every command goes through -/

theorem exec_setPorts_floorTable (w : BpfGateWriter) (ports ports' : List UInt16) :
    (w.floorTable refresh ports).exec refresh (.setPorts ports') = w.floorTable refresh ports' := by
  have hadd : ∀ (es : List FloorElement) (tbl : FloorTable),
      { run (FloorTable.addElement refresh) tbl es with ports := ports' } =
        run (FloorTable.addElement refresh) { tbl with ports := ports' } es := by
    intro es
    induction es with
    | nil => exact fun tbl => rfl
    | cons e es ih =>
        intro tbl
        rw [run_cons, run_cons, ih]
        obtain ⟨added, a, secs⟩ := e
        cases a <;> rfl
  exact hadd w.floor _

/-- A command that goes through does to the table what the daemon takes it to do. -/
theorem table_step {f : Floored Cr} (hnft : f.daemon.gate.keeper.gate.nftFloor = true)
    (hsame : f.table = f.daemon.floorTable refresh) (e : DaemonEvent) :
    (f.step refresh src (e, true)).table =
      (f.step refresh src (e, true)).daemon.floorTable refresh := by
  have hports := Daemon.floorPorts_step src f.daemon e hnft
  have hwriter := Daemon.writer_step src f.daemon e
  rw [Daemon.floorTable, Gate.floorTable] at hsame ⊢
  rw [step, command, if_pos rfl, Daemon.nftCommand, if_pos hnft, hports, hwriter, hsame]
  cases e with
  | traffic t =>
      cases hc : f.daemon.openCall (.traffic t) with
      | some c => exact (BpfGateWriter.floorTable_call refresh _ hnft c).symm
      | none => rfl
  | poll order file =>
      cases hb : f.daemon.applied src (.poll order file) with
      | some b => exact exec_setPorts_floorTable _ _ _
      | none => rfl

/-- **The table where no command fails**: from a new one on it is the table of the
writer's commands, and its ports are those of the bundle in force. -/
theorem run_of_success {policy : Bundle} {f : Floored Cr}
    (hnft : f.daemon.gate.keeper.gate.nftFloor = true)
    (hports : f.daemon.floorPorts = policy.protectedPorts)
    (hnew : f.table = f.daemon.floorTable refresh) {es : List (DaemonEvent × Bool)}
    (hes : ∀ e ∈ es, e.2 = true) :
    let d := run (Daemon.step src) f.daemon (es.map Prod.fst)
    (run (step refresh src) f es).table = d.floorTable refresh ∧
      d.floorPorts = (Daemon.inForce src policy f.daemon (es.map Prod.fst)).protectedPorts := by
  constructor
  · rw [← daemon_run]
    refine (run_invariant (step refresh src) (I := fun f : Floored Cr =>
      f.daemon.gate.keeper.gate.nftFloor = true ∧ f.table = f.daemon.floorTable refresh)
      ?_ ⟨hnft, hnew⟩).2
    rintro f ⟨e, through⟩ he ⟨hnft, hsame⟩
    obtain rfl : through = true := hes _ he
    exact ⟨(Daemon.nftFloor_step src f.daemon e).trans hnft, table_step hnft hsame e⟩
  · refine (run_history (Daemon.step src) (s := f.daemon) (I := fun es d =>
      d.gate.keeper.gate.nftFloor = true ∧
        d.floorPorts = (Daemon.inForce src policy f.daemon es).protectedPorts)
      ⟨hnft, hports⟩ ?_ _).2
    rintro es e ⟨hon, hsame⟩
    refine ⟨(Daemon.nftFloor_step src _ e).trans hon, ?_⟩
    rw [Daemon.floorPorts_step src _ e hon, Daemon.inForce, record_concat]
    cases Daemon.applied src _ e with
    | some b => simp
    | none => simpa [Daemon.inForce] using hsame

/-! ## Where commands fail -/

/-- The bundle whose `set_ports` goes through. -/
def portsSet (src : BundleSource) (f : Floored Cr) (e : DaemonEvent × Bool) : Option Bundle :=
  if e.2 then f.daemon.applied src e.1 else none

/-- The bundle that the floor's ports are from: the last whose `set_ports` went through,
or the policy of the start. -/
def floorBundle (refresh : Bool) (src : BundleSource) (policy : Bundle) (f : Floored Cr)
    (es : List (DaemonEvent × Bool)) : Bundle :=
  (record (step refresh src) (portsSet src) f es).getLast?.getD policy

/-- The table as the start leaves it. -/
def installed (old : FloorTable) (policy : Bundle) (d₀ : Daemon Cr) : Floored Cr :=
  ⟨d₀, installFloor old policy.protectedPorts⟩

/-- What one event does to the ports of the table. -/
theorem ports_step (f : Floored Cr) (e : DaemonEvent × Bool)
    (hnft : f.daemon.gate.keeper.gate.nftFloor = true) :
    (f.step refresh src e).table.ports =
      (f.portsSet src e).elim f.table.ports Bundle.protectedPorts := by
  obtain ⟨e, through⟩ := e
  cases through with
  | false => rfl
  | true =>
      rw [step, command, portsSet, if_pos rfl, if_pos rfl, Daemon.nftCommand, if_pos hnft]
      cases e with
      | traffic t =>
          cases f.daemon.openCall (.traffic t) with
          | some c => exact FloorTable.ports_addElement refresh _ _
          | none => rfl
      | poll order file =>
          rw [Daemon.openCall]
          cases f.daemon.applied src (.poll order file) <;> rfl

omit [Crypto Cr] in
/-- An element of the table was there before, or it is the one that is added. -/
theorem expiry_exec {tbl : FloorTable} {command : NftCommand} {addr : IpAddr} {expiry : Nat}
    (h : (tbl.exec refresh command).expiry addr = some expiry) :
    tbl.expiry addr = some expiry ∨
      ∃ e, command = .addElement e ∧ addr = e.addr ∧
        expiry = e.added.toNat + FloorTable.lifetime e := by
  cases command with
  | setPorts ports => cases addr <;> exact .inl h
  | addElement e =>
      rw [FloorTable.exec, FloorTable.expiry_addElement] at h
      split at h
      · next haddr =>
          obtain rfl := Option.some.inj h
          rcases TimeoutSet.expiryOnAdd_cases refresh (tbl.expiry e.addr) e.added.toNat
              (FloorTable.lifetime e) with hnew | ⟨-, hold, -⟩
          · exact .inr ⟨e, rfl, haddr, hnew⟩
          · exact .inl (haddr ▸ hold)
      · exact .inl h

/-- Only an accepted knock adds an element. -/
theorem openCall_of_command {f : Floored Cr} {e : DaemonEvent × Bool} {el : FloorElement}
    (h : f.command src e = some (.addElement el)) :
    ∃ c, f.daemon.openCall e.1 = some c ∧ el = c.element := by
  rw [command, Daemon.nftCommand] at h
  split at h
  · split at h
    · split at h
      · next c hc => cases h; exact ⟨c, hc, rfl⟩
      · simp at h
    · contradiction
  · contradiction

/-- An accepted knock from the address, whose element expires then. -/
def Adds (addr : IpAddr) (expiry : Nat) (d : Daemon Cr) (e : DaemonEvent) : Prop :=
  ∃ c, d.openCall e = some c ∧ addr = normalize c.source ∧
    expiry = c.now.toNat + FloorTable.lifetime c.element

/-- What one event does to the elements of the table. -/
theorem expiry_step {f : Floored Cr} {e : DaemonEvent × Bool} {addr : IpAddr} {expiry : Nat}
    (h : (f.step refresh src e).table.expiry addr = some expiry) :
    f.table.expiry addr = some expiry ∨ Adds addr expiry f.daemon e.1 := by
  rw [step] at h
  cases hcommand : f.command src e with
  | none => rw [hcommand] at h; exact .inl h
  | some command =>
      rw [hcommand] at h
      rcases expiry_exec h with hold | ⟨el, rfl, haddr, hexp⟩
      · exact .inl hold
      · obtain ⟨c, hc, rfl⟩ := openCall_of_command hcommand
        exact .inr ⟨c, hc, haddr, hexp⟩

/-- **The ports of a run**: those of the bundle whose `set_ports` went through last are
among them. -/
theorem ports_run {old : FloorTable} {policy : Bundle} {d₀ : Daemon Cr}
    (hnft : d₀.gate.keeper.gate.nftFloor = true) (es : List (DaemonEvent × Bool)) :
    ∀ port ∈ (floorBundle refresh src policy (installed old policy d₀) es).protectedPorts,
      port ∈ (run (step refresh src) (installed old policy d₀) es).table.ports := by
  refine (run_history (step refresh src) (s := installed old policy d₀) (I := fun es f =>
    f.daemon.gate.keeper.gate.nftFloor = true ∧ ∀ port ∈ (floorBundle refresh src policy
      (installed old policy d₀) es).protectedPorts, port ∈ f.table.ports) ⟨hnft, ?_⟩ ?_ es).2
  · exact fun port hport => List.mem_append_right old.ports hport
  · rintro es e ⟨hon, hports⟩
    refine ⟨(Daemon.nftFloor_step src _ e.1).trans hon, ?_⟩
    rw [floorBundle] at hports ⊢
    rw [record_concat, ports_step _ e hon]
    cases portsSet src (run (step refresh src) (installed old policy d₀) es) e with
    | some b => simp
    | none => simpa using hports

/-- **The elements of a run**: each was there at the start, or it is from an accepted
knock. -/
theorem expiry_run {old : FloorTable} {policy : Bundle} {d₀ : Daemon Cr}
    {es : List (DaemonEvent × Bool)} {addr : IpAddr} {expiry : Nat}
    (h : (run (step refresh src) (installed old policy d₀) es).table.expiry addr = some expiry) :
    old.expiry addr = some expiry ∨
      Occurs (Daemon.step src) (Adds addr expiry) d₀ (es.map Prod.fst) := by
  suffices hrun : old.expiry addr = some expiry ∨ Occurs (step refresh src)
      (fun f e => Adds addr expiry f.daemon e.1) (installed old policy d₀) es from
    hrun.imp_right fun hocc => occurs_map hocc
  revert h
  refine run_history (step refresh src) (s := installed old policy d₀)
    (I := fun es f => f.table.expiry addr = some expiry → old.expiry addr = some expiry ∨
      Occurs (step refresh src) _ (installed old policy d₀) es) ?_ ?_ es
  · intro h
    exact .inl (by rwa [installed, FloorTable.expiry_installFloor] at h)
  · intro es e hes h
    rcases expiry_step h with hbefore | hcall
    · exact (hes hbefore).imp_right fun hocc => hocc.append [e]
    · exact .inr (.last hcall)

end Floored

namespace Daemon

variable {lib : AwsLc}

/-- A daemon that was started with the floor has it on, for the ports of its policy. -/
theorem floor_of_boot {Cr : Type} {p : GateParams} {crypto : Cr} {policy : Bundle} {d : Daemon Cr}
    (hon : p.nftablesFloor = true) (h : boot p crypto policy = .ok d) :
    d.floorPorts = policy.protectedPorts ∧ d.gate.keeper.gate.nftFloor = true ∧
      d.gate.keeper.gate.floor = [] := by
  obtain ⟨m, -, h⟩ := except_bind_eq_ok.mp h
  rw [← Except.ok.inj h, hon]
  exact ⟨rfl, rfl, rfl⟩

/-- An accepted knock of the address, its pinhole covering `now`. -/
def KnockCovers (key : Addr) (now : UInt64) (d : Daemon (GateKeypair lib)) (e : DaemonEvent) : Prop :=
  ∃ clk packet source ports, e = .traffic (.knock clk packet source) ∧
    (d.gate.keeper.admitPacket clk packet source).1 = .opened ports ∧ addrKey source = key ∧
    clk.mono ≤ now ∧ now.toNat < clk.mono.toNat + pinholeNanos.toNat

/-- **Listed ports stay shut**: along every run of a daemon with the floor, whatever has
become of `PROTECTED` and of the daemon itself, and whichever `nft` commands fail, let
the floor accept a packet of no known flow, not from the loopback interface, to a port
of the bundle whose `set_ports` went through last.  It comes from an address with an
accepted knock whose pinhole is open, or with a live element that an earlier process has
left. -/
theorem listed_ports_stay_shut (refresh : Bool) (src : BundleSource) (p : GateParams)
    (kp : GateKeypair lib) (policy : Bundle) (d₀ : Daemon (GateKeypair lib))
    (hboot : boot p kp policy = .ok d₀) (hon : p.nftablesFloor = true) (old : FloorTable)
    (es : List (DaemonEvent × Bool)) (now : UInt64)
    (hreached : ∀ t ∈ (es.map Prod.fst).filterMap DaemonEvent.time, t ≤ now) (pkt : TcpPacket)
    (hlo : pkt.lo = false) (hct : pkt.ct ≠ .established ∧ pkt.ct ≠ .related)
    (hport : pkt.dport ∈
      (Floored.floorBundle refresh src policy (.installed old policy d₀) es).protectedPorts)
    (haccept : (run (Floored.step refresh src) (.installed old policy d₀) es).table.input
      now.toNat pkt = .accept) :
    old.Live now.toNat pkt.saddr ∨
      Occurs (step src) (KnockCovers (addrKey pkt.saddr) now) d₀ (es.map Prod.fst) := by
  obtain ⟨-, hnft, -⟩ := floor_of_boot hon hboot
  rcases (FloorTable.input_eq_accept_iff _ _ _).mp haccept with h | h | h | ⟨expiry, hexp, hlt⟩
  · rw [hlo] at h
    contradiction
  · exact absurd h (by simp [hct])
  · exact absurd (Floored.ports_run hnft es _ hport) h
  · rcases Floored.expiry_run hexp with hold | ⟨before, e, after, heq, c, hcall, haddr, hexp⟩
    · exact .inl ⟨expiry, hold, hlt⟩
    · right
      have hle : c.now ≤ now := by
        refine hreached _ (List.mem_filterMap.mpr ⟨e, ?_, time_of_openCall hcall⟩)
        rw [heq]
        exact List.mem_append_right _ List.mem_cons_self
      have hkey : addrKey c.source = addrKey pkt.saddr := by rw [haddr, addrKey_normalize]
      cases e with
      | poll order file => contradiction
      | traffic t =>
          obtain ⟨clk, packet, ht, hnow, hopened, httl⟩ := Gate.openCall_eq_some hcall
          cases ht
          have hpin : c.ttlNanos = pinholeNanos := by
            rw [httl, (identity_run src hboot before).1]
            rfl
          rw [c.lifetime_element hpin, hnow] at hexp
          rw [hnow] at hle
          exact ⟨before, _, after, heq, clk, packet, c.source, c.ports, rfl, hopened, hkey, hle,
            hexp ▸ hlt⟩

/-- The sample gate with the floor, for port 22. -/
def shutParams : GateParams := { GateParams.sample with nftablesFloor := true }

/-- A daemon that is started on the sample client serves it. -/
theorem serves_boot {p : GateParams} (hconfig : p.config = sampleConfig) (hsuite : p.suite = .modern)
    {generation : UInt64} {ports : List UInt16} {d : Daemon (GateKeypair transparent)}
    (h : boot p sampleGate ⟨generation, ports, sampleClients, []⟩ = .ok d) :
    Gate.Serves [22] 0 d.gate := by
  obtain ⟨protectedPorts, -, hgate, -, -⟩ := boot_eq_ok h
  rw [hgate]
  exact ⟨hconfig, rfl, hsuite, lookup_sampleClients, fun _ _ _ => rfl⟩

/-- The client knocks at 0 seconds, and a bundle follows that lists no port, but its
`set_ports` fails: at 10 seconds the floor still knows port 22, and lets the client
in. -/
theorem listed_ports_stay_shut_sample :
    let policy : Bundle := ⟨1, [22], sampleClients, []⟩
    let es := [(.traffic (.knock (sampleClocks 0) (knockFor [22] 0) sampleAddr), true),
      (DaemonEvent.poll portOrder (.ok (signedFile relistText)), false)]
    ∃ d₀, boot shutParams sampleGate policy = .ok d₀ ∧
      (inForce relistSource policy d₀ (es.map Prod.fst)).protectedPorts = [] ∧
      (FloorTable.empty.Live (10000000000 : UInt64).toNat sampleAddr ∨
        Occurs (step relistSource) (KnockCovers (addrKey sampleAddr) 10000000000) d₀
          (es.map Prod.fst)) := by
  obtain ⟨d₀, hboot⟩ := boot_of_card_le shutParams sampleGate ⟨1, [22], sampleClients, []⟩ (by decide)
  obtain ⟨-, hnft, -⟩ := floor_of_boot rfl hboot
  obtain ⟨-, -, -, -, hgen⟩ := boot_eq_ok hboot
  have hallowed : ∀ p ∈ ([22] : List UInt16), p ∈ ([22] : List UInt16) := fun p hp => hp
  have hcall : d₀.openCall (.traffic (.knock (sampleClocks 0) (knockFor [22] 0) sampleAddr)) =
      some (Gate.clientCall 0 [22] sampleAddr) :=
    ((serves_boot rfl rfl hboot).knock (by decide) Gate.asks_ssh.length hallowed 0 sampleAddr).1
  generalize knockFor [22] 0 = packet at hcall ⊢
  intro policy es
  have hlisted : Floored.floorBundle false relistSource policy (.installed .empty policy d₀) es =
      policy := by
    simp [Floored.floorBundle, record_cons, es, Floored.portsSet, applied]
  have hexp : (run (Floored.step false relistSource) (.installed .empty policy d₀) es).table.expiry
      sampleAddr = some 30000000000 := by
    have hcommand : (Floored.installed .empty policy d₀).command relistSource
        (.traffic (.knock (sampleClocks 0) packet sampleAddr), true) =
          some (.addElement (Gate.clientCall 0 [22] sampleAddr).element) := by
      rw [Floored.command, if_pos rfl, nftCommand, Floored.installed, if_pos hnft, hcall]
    have haddr : sampleAddr = (Gate.clientCall 0 [22] sampleAddr).element.addr := rfl
    -- The second command fails, so only the element of the knock is there.
    rw [run_cons, run_cons, run_nil, Floored.table_of_failed]
    rw [Floored.step, hcommand, Option.elim_some, FloorTable.exec, FloorTable.expiry_addElement,
      if_pos haddr, FloorTable.expiryAfter, Floored.installed, FloorTable.expiry_installFloor,
      FloorTable.expiry_empty]
    decide
  have hforce : (inForce relistSource policy d₀ (es.map Prod.fst)).protectedPorts = [] := by
    have haccepts : (d₀.step relistSource
        (.traffic (.knock (sampleClocks 0) packet sampleAddr))).accepts relistSource
          (.ok (signedFile relistText)) = some ⟨2, [], [], [sampleToken]⟩ :=
      accepts_eq_some_iff.mpr ⟨load_relist, by
        rw [show (d₀.step relistSource _).appliedGen = d₀.appliedGen from rfl, hgen]
        exact show (1 : UInt64) < 2 by decide⟩
    simp [inForce, record_cons, es, applied, haccepts]
  exact ⟨d₀, hboot, hforce, listed_ports_stay_shut false relistSource shutParams sampleGate policy d₀
    hboot rfl .empty es 10000000000 (by simp [es, DaemonEvent.time, GateEvent.time, sampleClocks])
    ⟨false, .new, sampleAddr, 22⟩ rfl (by simp) (by rw [hlisted]; simp [policy])
    ((FloorTable.input_eq_accept_iff _ _ _).mpr (.inr (.inr (.inr ⟨_, hexp, by decide⟩))))⟩

end Daemon

end SpaDevice
