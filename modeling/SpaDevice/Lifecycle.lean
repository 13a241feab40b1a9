import SpaDevice.Policy

/-!
# SpaDevice.Lifecycle

The daemon's process and the bundle file, at the grain at which they can
interleave: another writer replaces the file while start-up and the watcher
read its contents and its modification time at different moments, and the
process may stop and start again.

* The watcher loses no update, provided the first metadata read after start-up
  does not meet a newer bundle than the one that was loaded
  (`generation_current`).
* The generation in force never decreases exactly when every restart loads a
  bundle at least as new as the last one in force (`generations_sorted_iff`).
-/

namespace SpaDevice

/-- The bundle file: its bytes and its modification time. -/
structure BundleFile where
  content : List UInt8
  mtime : Nat

/-- Where the process stands with respect to the bundle file. -/
inductive Proc (Cr : Type) where
  | stopped
  /-- Start-up has loaded the bundle; `watch_bundle` has read no metadata yet. -/
  | loaded (d : Daemon Cr)
  /-- The watcher sleeps, with its `last_mtime`. -/
  | asleep (d : Daemon Cr) (lastMtime : Option Nat)
  /-- An iteration has seen the new time `lastMtime` and is about to load. -/
  | changed (d : Daemon Cr) (lastMtime : Nat)

/-- The running daemon, if there is one. -/
def Proc.daemon {Cr : Type} : Proc Cr → Option (Daemon Cr)
  | .stopped => none
  | .loaded d => some d
  | .asleep d _ => some d
  | .changed d _ => some d

structure System (Cr : Type) where
  file : Option BundleFile
  proc : Proc Cr

inductive SystemEvent where
  /-- Another writer renames a new file into place. -/
  | replace (file : BundleFile)
  | remove
  /-- `main` runs up to the watcher. -/
  | start
  /-- The first metadata read of `watch_bundle`. -/
  | firstMetadata
  /-- The metadata read of an iteration. -/
  | pollMetadata
  /-- The rest of an iteration that saw a change. -/
  | pollLoad (order : IterOrder UInt16)
  | traffic (t : Traffic)
  | stop

namespace System

variable {Cr : Type} [Crypto Cr] (src : BundleSource) (p : GateParams) (crypto : Cr)

/-- `std::fs::read`. -/
def read (s : System Cr) : Except String (List UInt8) :=
  match s.file with
  | some f => .ok f.content
  | none => .error "No such file or directory (os error 2)"

/-- One step; an event that the process is not ready for does nothing. -/
def step (s : System Cr) : SystemEvent → System Cr
  | .replace f => { s with file := some f }
  | .remove => { s with file := none }
  | .start =>
      match s.proc with
      | .stopped =>
          match Daemon.start src p crypto s.read with
          | .ok d => { s with proc := .loaded d }
          | .error _ => s
      | _ => s
  | .firstMetadata =>
      match s.proc with
      | .loaded d => { s with proc := .asleep d (s.file.map BundleFile.mtime) }
      | _ => s
  | .pollMetadata =>
      match s.proc, s.file with
      | .asleep d lastMtime, some f =>
          if some f.mtime = lastMtime then s else { s with proc := .changed d f.mtime }
      | _, _ => s
  | .pollLoad order =>
      match s.proc with
      | .changed d mtime => { s with proc := .asleep (d.poll src order s.read).2 (some mtime) }
      | _ => s
  | .traffic t =>
      match s.proc with
      | .stopped => s
      | .loaded d => { s with proc := .loaded (d.step src (.traffic t)) }
      | .asleep d m => { s with proc := .asleep (d.step src (.traffic t)) m }
      | .changed d m => { s with proc := .changed (d.step src (.traffic t)) m }
  | .stop => { s with proc := .stopped }

/-- How an event moves the process, when it does. -/
inductive Moves (s : System Cr) : SystemEvent → Proc Cr → Prop where
  | stop : Moves s .stop .stopped
  | start {d : Daemon Cr} : s.proc = .stopped → Daemon.start src p crypto s.read = .ok d →
      Moves s .start (.loaded d)
  | firstMetadata {d : Daemon Cr} : s.proc = .loaded d →
      Moves s .firstMetadata (.asleep d (s.file.map BundleFile.mtime))
  | pollMetadata {d : Daemon Cr} {lastMtime : Option Nat} {f : BundleFile} :
      s.proc = .asleep d lastMtime → s.file = some f → some f.mtime ≠ lastMtime →
      Moves s .pollMetadata (.changed d f.mtime)
  | pollLoad {d : Daemon Cr} {mtime : Nat} {order : IterOrder UInt16} : s.proc = .changed d mtime →
      Moves s (.pollLoad order) (.asleep (d.poll src order s.read).2 (some mtime))
  | trafficLoaded {d : Daemon Cr} {t : Traffic} : s.proc = .loaded d →
      Moves s (.traffic t) (.loaded (d.step src (.traffic t)))
  | trafficAsleep {d : Daemon Cr} {m : Option Nat} {t : Traffic} : s.proc = .asleep d m →
      Moves s (.traffic t) (.asleep (d.step src (.traffic t)) m)
  | trafficChanged {d : Daemon Cr} {m : Nat} {t : Traffic} : s.proc = .changed d m →
      Moves s (.traffic t) (.changed (d.step src (.traffic t)) m)

/-- **Everything an event can do**: a writer touches the file only, and any other
event moves the process or does nothing. -/
theorem step_cases (s : System Cr) (e : SystemEvent) :
    (∃ f, e = .replace f ∧ s.step src p crypto e = { s with file := some f }) ∨
    (e = .remove ∧ s.step src p crypto e = { s with file := none }) ∨
    s.step src p crypto e = s ∨
    ∃ proc, Moves src p crypto s e proc ∧ s.step src p crypto e = { s with proc } := by
  cases e with
  | replace f => exact .inl ⟨f, rfl, rfl⟩
  | remove => exact .inr (.inl ⟨rfl, rfl⟩)
  | stop => exact .inr (.inr (.inr ⟨_, .stop, rfl⟩))
  | start =>
      unfold step
      dsimp only
      split
      · next hp =>
          split
          · next d hd => exact .inr (.inr (.inr ⟨_, .start hp hd, rfl⟩))
          · exact .inr (.inr (.inl rfl))
      · exact .inr (.inr (.inl rfl))
  | firstMetadata =>
      unfold step
      dsimp only
      split
      · next d hp => exact .inr (.inr (.inr ⟨_, .firstMetadata hp, rfl⟩))
      · exact .inr (.inr (.inl rfl))
  | pollMetadata =>
      unfold step
      dsimp only
      split
      · next d lastMtime f hp hf =>
          split
          · exact .inr (.inr (.inl rfl))
          · next hne => exact .inr (.inr (.inr ⟨_, .pollMetadata hp hf hne, rfl⟩))
      · exact .inr (.inr (.inl rfl))
  | pollLoad order =>
      unfold step
      dsimp only
      split
      · next d mtime hp => exact .inr (.inr (.inr ⟨_, .pollLoad hp, rfl⟩))
      · exact .inr (.inr (.inl rfl))
  | traffic t =>
      unfold step
      dsimp only
      split
      · exact .inr (.inr (.inl rfl))
      · next d hp => exact .inr (.inr (.inr ⟨_, .trafficLoaded hp, rfl⟩))
      · next d m hp => exact .inr (.inr (.inr ⟨_, .trafficAsleep hp, rfl⟩))
      · next d m hp => exact .inr (.inr (.inr ⟨_, .trafficChanged hp, rfl⟩))

/-! ## No update is lost -/

/-- The modification times that the writers give, in order. -/
def mtimes (es : List SystemEvent) : List Nat :=
  es.filterMap fun
    | .replace f => some f.mtime
    | _ => none

/-- The file holds no bundle that verifies and is newer than the daemon's. -/
def Current (s : System Cr) (d : Daemon Cr) : Prop :=
  ∀ b, src.load s.read = .ok b → b.generation ≤ d.appliedGen

/-- If the event is the first metadata read of `watch_bundle`, the file in
place is not newer than the bundle that was loaded. -/
def FirstReadCurrent (s : System Cr) (e : SystemEvent) : Prop :=
  ∀ d, e = .firstMetadata → s.proc = .loaded d → s.Current src d

/-- What the watcher's last time says about the file, given the times used so
far: it was used before, and a file that still has it is not newer than the
policy. -/
def WatcherKnows (used : List Nat) (s : System Cr) : Proc Cr → Prop
  | .asleep d (some m) =>
      m ∈ used ∧ ∀ f, s.file = some f → f.mtime = m → s.Current src d
  | .changed _ m => m ∈ used
  | _ => True

structure Watching (used : List Nat) (s : System Cr) : Prop where
  file : ∀ f, s.file = some f → f.mtime ∈ used
  proc : s.WatcherKnows src used s.proc

variable {src p crypto}

section

omit [Crypto Cr]

/-- After an iteration the policy is not older than the file it read. -/
theorem current_poll (s : System Cr) (d : Daemon Cr) (order : IterOrder UInt16) :
    s.Current src (d.poll src order s.read).2 := by
  intro b hb
  cases hacc : d.accepts src s.read with
  | some b' =>
      rw [Daemon.poll_of_accepts hacc]
      obtain ⟨hload, -⟩ := Daemon.accepts_eq_some_iff.mp hacc
      rw [Except.ok.inj (hb.symm.trans hload)]
      exact UInt64.le_refl _
  | none =>
      rw [Daemon.poll_of_accepts_eq_none hacc]
      refine UInt64.not_lt.mp fun hlt => ?_
      rw [Daemon.accepts_eq_some_iff.mpr ⟨hb, hlt⟩] at hacc
      contradiction

theorem Watching.mono {used used' : List Nat} {s : System Cr} (h : Watching src used s)
    (hsub : used ⊆ used') : Watching src used' s := by
  refine ⟨fun f hf => hsub (h.file f hf), ?_⟩
  have hproc := h.proc
  match hp : s.proc with
  | .stopped => trivial
  | .loaded d => trivial
  | .asleep d none => trivial
  | .asleep d (some m) =>
      rw [hp] at hproc
      exact ⟨hsub hproc.1, hproc.2⟩
  | .changed d m =>
      rw [hp] at hproc
      exact hsub hproc

/-- A writer whose time is new cannot make a file look like one already
seen. -/
theorem Watching.replace {used : List Nat} {s : System Cr} (h : Watching src used s)
    {f : BundleFile} (hf : f.mtime ∉ used) :
    Watching src (used ++ [f.mtime]) { s with file := some f } := by
  refine ⟨fun f' hf' => ?_, ?_⟩
  · rw [← Option.some.inj hf']
    simp
  · have hproc := h.proc
    match hp : s.proc with
    | .stopped => trivial
    | .loaded d => trivial
    | .asleep d none => trivial
    | .asleep d (some m) =>
        rw [hp] at hproc
        refine ⟨List.mem_append_left _ hproc.1, fun f' hf' hm => ?_⟩
        rw [← Option.some.inj hf'] at hm
        exact absurd (hm ▸ hproc.1) hf
    | .changed d m =>
        rw [hp] at hproc
        exact List.mem_append_left _ hproc

/-- A missing file is not newer than anything. -/
theorem Watching.remove {used : List Nat} {s : System Cr} (h : Watching src used s) :
    Watching src used { s with file := none } := by
  refine ⟨by simp, ?_⟩
  have hproc := h.proc
  match hp : s.proc with
  | .stopped => trivial
  | .loaded d => trivial
  | .asleep d none => trivial
  | .asleep d (some m) =>
      rw [hp] at hproc
      exact ⟨hproc.1, by simp⟩
  | .changed d m =>
      rw [hp] at hproc
      exact hproc

end

/-- The process keeps what it knows about the file when it moves, if a first
metadata read does not meet a newer bundle. -/
theorem Watching.moves {used : List Nat} {s : System Cr} (h : Watching src used s)
    {e : SystemEvent} {proc : Proc Cr} (hmove : Moves src p crypto s e proc)
    (hfirst : s.FirstReadCurrent src e) : Watching src used { s with proc } := by
  have hproc := h.proc
  refine ⟨h.file, ?_⟩
  cases hmove with
  | stop => trivial
  | start hp hd => trivial
  | firstMetadata hp =>
      change s.WatcherKnows src used (.asleep _ (s.file.map BundleFile.mtime))
      cases hm : s.file.map BundleFile.mtime with
      | none => trivial
      | some m =>
          obtain ⟨f, hf, rfl⟩ := Option.map_eq_some_iff.mp hm
          exact ⟨h.file f hf, fun _ _ _ => hfirst _ rfl hp⟩
  | pollMetadata hp hf hne => exact h.file _ hf
  | pollLoad hp =>
      rw [hp] at hproc
      exact ⟨hproc, fun _ _ _ => current_poll s _ _⟩
  | trafficLoaded hp => trivial
  | @trafficAsleep d m t hp =>
      rw [hp] at hproc
      cases m with
      | none => trivial
      | some m => exact hproc
  | trafficChanged hp =>
      rw [hp] at hproc
      exact hproc

/-- The link between watcher and file survives every event, if the writers'
times are new and the first metadata read does not meet a newer bundle. -/
theorem Watching.step {used : List Nat} {s : System Cr} (h : Watching src used s) {e : SystemEvent}
    (hfirst : s.FirstReadCurrent src e) (hnew : ∀ f, e = .replace f → f.mtime ∉ used) :
    Watching src (used ++ mtimes [e]) (s.step src p crypto e) := by
  have hold : Watching src (used ++ mtimes [e]) s := h.mono (List.subset_append_left _ _)
  rcases step_cases src p crypto s e with ⟨f, rfl, hs⟩ | ⟨-, hs⟩ | hs | ⟨proc, hmove, hs⟩
  · rw [hs]
    exact h.replace (hnew f rfl)
  · rw [hs]
    exact hold.remove
  · rw [hs]
    exact hold
  · rw [hs]
    exact hold.moves hmove hfirst

/-- The link holds along every run in which the times of the file are all
different and every first metadata read meets the condition. -/
theorem watching_run {f₀ : Option BundleFile} {es : List SystemEvent}
    (htimes : ((f₀.map BundleFile.mtime).toList ++ mtimes es).Nodup)
    (hfirst : Always (step src p crypto) (FirstReadCurrent src) ⟨f₀, .stopped⟩ es) :
    Watching src ((f₀.map BundleFile.mtime).toList ++ mtimes es)
      (run (step src p crypto) ⟨f₀, .stopped⟩ es) := by
  induction es using List.reverseRecOn with
  | nil =>
      refine ⟨fun f hf => ?_, trivial⟩
      have hf' : f₀ = some f := hf
      simp [hf', mtimes]
  | append_singleton es e ih =>
      have hsplit : mtimes (es ++ [e]) = mtimes es ++ mtimes [e] := List.filterMap_append
      rw [hsplit, ← List.append_assoc] at htimes ⊢
      rw [run_append]
      refine (ih (List.Nodup.of_append_left htimes) hfirst.append_left).step ?_ ?_
      · exact hfirst es e [] rfl
      · rintro f rfl hmem
        exact (List.nodup_append.mp htimes).2.2 f.mtime hmem f.mtime (by simp [mtimes]) rfl

/-- A sleeping watcher's policy is not older than the file. -/
def Settled (src : BundleSource) (s : System Cr) : Prop :=
  ∀ d m, s.proc = .asleep d m → s.Current src d

/-- Until the file is replaced, a settled watcher stays settled. -/
theorem Settled.step {s : System Cr} (h : s.Settled src) {e : SystemEvent}
    (hfirst : s.FirstReadCurrent src e) (he : ∀ f, e ≠ .replace f) :
    (s.step src p crypto e).Settled src := by
  rcases step_cases src p crypto s e with ⟨f, rfl, -⟩ | ⟨-, hs⟩ | hs | ⟨proc, hmove, hs⟩
  · exact absurd rfl (he f)
  · rw [hs]
    intro d m hp b hb
    contradiction
  · rw [hs]
    exact h
  · rw [hs]
    intro d' m' hp'
    cases hmove with
    | stop => contradiction
    | start hp hd => contradiction
    | firstMetadata hp =>
        rw [← (Proc.asleep.inj hp').1]
        exact hfirst _ rfl hp
    | pollMetadata hp hf hne => contradiction
    | pollLoad hp =>
        rw [← (Proc.asleep.inj hp').1]
        exact current_poll s _ _
    | trafficLoaded hp => contradiction
    | trafficAsleep hp =>
        have hcur := h _ _ hp
        rw [← (Proc.asleep.inj hp').1]
        exact hcur
    | trafficChanged hp => contradiction

/-- The metadata read of an iteration settles the watcher, or sends it to
load. -/
theorem Watching.settled_pollMetadata {used : List Nat} {s : System Cr} (h : Watching src used s)
    {d : Daemon Cr} {lastMtime : Option Nat} (hp : s.proc = .asleep d lastMtime) :
    (s.step src p crypto .pollMetadata).Settled src := by
  have hproc := h.proc
  rw [hp] at hproc
  unfold System.step
  dsimp only
  split
  · next d' lastMtime' f hp' hf =>
      split
      · next hm =>
          intro d₁ m₁ hp₁
          obtain ⟨rfl, rfl⟩ := Proc.asleep.inj (hp.symm.trans hp')
          obtain ⟨rfl, rfl⟩ := Proc.asleep.inj (hp.symm.trans hp₁)
          rw [← hm] at hproc
          exact hproc.2 f hf rfl
      · intro d₁ m₁ hp₁; contradiction
  · next hno =>
      cases hf : s.file with
      | some f => exact absurd hf (hno d lastMtime f hp)
      | none =>
          intro d₁ m₁ hp₁ b hb
          rw [BundleSource.load, System.read, hf] at hb
          contradiction

/-- **No bundle update is lost**, in every interleaving of start-up, watcher and
writers in which the writers give all different times and the first metadata
read of each start meets no newer bundle than the one that was loaded: when an
iteration that began after the last replacement is complete, the generation in
force is at least that of the bundle in the file. -/
theorem generation_current (src : BundleSource) (p : GateParams) (crypto : Cr)
    (f₀ : Option BundleFile) (before rest : List SystemEvent)
    (htimes : ((f₀.map BundleFile.mtime).toList ++ mtimes (before ++ .pollMetadata :: rest)).Nodup)
    (hfirst : Always (step src p crypto) (FirstReadCurrent src) ⟨f₀, .stopped⟩
      (before ++ .pollMetadata :: rest))
    (hlast : ∀ f, SystemEvent.replace f ∉ rest)
    (d d' : Daemon Cr) (m m' : Option Nat) (b : Bundle) :
    let s := run (step src p crypto) ⟨f₀, .stopped⟩ before
    let s' := run (step src p crypto) ⟨f₀, .stopped⟩ (before ++ .pollMetadata :: rest)
    s.proc = .asleep d m → s'.proc = .asleep d' m' → src.load s'.read = .ok b →
      b.generation ≤ d'.appliedGen := by
  intro s s' hp hp' hload
  have hsplit : mtimes (before ++ .pollMetadata :: rest) = mtimes before ++ mtimes rest :=
    List.filterMap_append
  rw [hsplit, ← List.append_assoc] at htimes
  have hwatch : Watching src _ s :=
    watching_run (List.Nodup.of_append_left htimes) hfirst.append_left
  have hafter : Always (step src p crypto)
      (fun s e => s.FirstReadCurrent src e ∧ ∀ f, e ≠ .replace f)
      (s.step src p crypto .pollMetadata) rest := by
    intro b₁ e a₁ heq
    refine ⟨?_, ?_⟩
    · have hat := hfirst (before ++ .pollMetadata :: b₁) e a₁ (by rw [heq]; simp)
      rw [run_append, run_cons] at hat
      exact hat
    · rintro f rfl
      exact hlast f (by rw [heq]; simp)
  have hsettled : s'.Settled src := by
    have hrun : s' = run (step src p crypto) (s.step src p crypto .pollMetadata) rest := by
      rw [← run_cons, ← run_append]
    rw [hrun]
    exact hafter.invariant (fun s e h he => h.step he.1 he.2) (hwatch.settled_pollMetadata hp)
  exact hsettled d' m' hp' b hload

/-! ### Sample files -/

/-- A stopped process starts with the policy in the file. -/
theorem step_start {f : Option BundleFile}
    {d : Daemon Cr} {b : Bundle} (hload : src.load (System.read ⟨f, (.stopped : Proc Cr)⟩) = .ok b)
    (hboot : Daemon.boot p crypto b = .ok d) :
    step src p crypto ⟨f, .stopped⟩ .start = ⟨f, .loaded d⟩ := by
  have hstart := Daemon.start_of_load hload hboot
  simp only [step, hstart]

/-- The sample bundle of generation 1, written at time 1. -/
def fileOne : BundleFile := ⟨signedFile "generation = 1\n", 1⟩

/-- The sample bundle of generation 2, written at time 2. -/
def fileTwo : BundleFile := ⟨signedFile "generation = 2\n", 2⟩

/-- The process of the sample documents, started on the first of them. -/
theorem start_fileOne :
    ∃ d, step (sampleSource sampleDocs) GateParams.sample sampleGate ⟨some fileOne, .stopped⟩ .start =
      ⟨some fileOne, .loaded d⟩ ∧ d.appliedGen = 1 := by
  obtain ⟨d, hboot⟩ := Daemon.boot_of_card_le GateParams.sample sampleGate ⟨1, [], [], []⟩
    (by decide)
  exact ⟨d, step_start load_generation_one hboot, (Daemon.holds_boot hboot).appliedGen⟩

/-- The watcher meets the file of generation 2 after its first metadata read. -/
theorem generation_current_sample :
    let stepS := step (sampleSource sampleDocs) GateParams.sample sampleGate
    let before : List SystemEvent := [.start, .firstMetadata, .replace fileTwo]
    ∃ d d', (run stepS ⟨some fileOne, .stopped⟩ before).proc = .asleep d (some 1) ∧
      (run stepS ⟨some fileOne, .stopped⟩
        (before ++ [.pollMetadata, .pollLoad Daemon.portOrder])).proc = .asleep d' (some 2) ∧
      2 ≤ d'.appliedGen := by
  intro stepS before
  obtain ⟨d, hstart, hgen⟩ := start_fileOne
  have hbefore : (run stepS ⟨some fileOne, .stopped⟩ before).proc = .asleep d (some 1) := by
    rw [run_cons, show stepS ⟨some fileOne, .stopped⟩ .start = _ from hstart]
    rfl
  have hafter : (run stepS ⟨some fileOne, .stopped⟩
      (before ++ [.pollMetadata, .pollLoad Daemon.portOrder])).proc =
        .asleep (d.poll (sampleSource sampleDocs) Daemon.portOrder (.ok fileTwo.content)).2
          (some 2) := by
    rw [List.cons_append, run_cons, show stepS ⟨some fileOne, .stopped⟩ .start = _ from hstart]
    rfl
  have hfirst : Always stepS (FirstReadCurrent (sampleSource sampleDocs)) ⟨some fileOne, .stopped⟩
      (before ++ [.pollMetadata, .pollLoad Daemon.portOrder]) := by
    simp only [before, stepS, List.cons_append, List.nil_append, always_cons, always_nil, hstart]
    refine ⟨by simp [FirstReadCurrent], fun d₁ _ hp b hb => ?_, by simp [FirstReadCurrent]⟩
    obtain rfl := Proc.loaded.inj hp
    rw [← Except.ok.inj (load_generation_one.symm.trans hb), hgen]
    decide
  exact ⟨d, _, hbefore, hafter, generation_current _ _ _ (some fileOne) before _ (by decide) hfirst
    (by simp) d _ _ _ ⟨2, [], [], []⟩ hbefore hafter load_generation_two⟩

/-- **An update is lost**: the file of generation 2 arrives between the load of
start-up and the first metadata read, so the watcher takes its time for that of
the bundle it knows, and the iteration that begins afterwards sees no change. -/
theorem update_lost :
    let stepS := step (sampleSource sampleDocs) GateParams.sample sampleGate
    let before : List SystemEvent := [.start, .replace fileTwo, .firstMetadata]
    ([fileOne.mtime] ++ mtimes (before ++ [.pollMetadata])).Nodup ∧
      ∃ d, (run stepS ⟨some fileOne, .stopped⟩ before).proc = .asleep d (some 2) ∧
        run stepS ⟨some fileOne, .stopped⟩ (before ++ [.pollMetadata]) =
          ⟨some fileTwo, .asleep d (some 2)⟩ ∧
        (sampleSource sampleDocs).load (.ok fileTwo.content) = .ok ⟨2, [], [], []⟩ ∧
        ¬ 2 ≤ d.appliedGen := by
  intro stepS before
  obtain ⟨d, hstart, hgen⟩ := start_fileOne
  refine ⟨by decide, d, ?_, ?_, load_generation_two, by rw [hgen]; decide⟩
  · rw [run_cons, show stepS ⟨some fileOne, .stopped⟩ .start = _ from hstart]
    rfl
  · rw [List.cons_append, run_cons, show stepS ⟨some fileOne, .stopped⟩ .start = _ from hstart]
    rfl

/-! ## Rollback -/

/-- The generation in force, while the process runs. -/
def generation (s : System Cr) : Option UInt64 := s.proc.daemon.map Daemon.appliedGen

/-- The generations in force along a run, one for each event after which the
process runs. -/
def generations (src : BundleSource) (p : GateParams) (crypto : Cr) (s : System Cr)
    (es : List SystemEvent) : List UInt64 :=
  record (step src p crypto) (fun s e => (s.step src p crypto e).generation) s es

/-- The daemon before and after an event while the process runs: traffic, a
poll of the file, or nothing. -/
def Continues (src : BundleSource) (s : System Cr) (d d' : Daemon Cr) : Prop :=
  d' = d ∨ (∃ t, d' = d.step src (.traffic t)) ∨ ∃ order, d' = (d.poll src order s.read).2

/-- **What an event does to the daemon**: a running daemon continues or the
process stops, and a stopped one stays so or starts with the bundle in the
file. -/
theorem daemon_step (src : BundleSource) (p : GateParams) (crypto : Cr) (s : System Cr)
    (e : SystemEvent) :
    (∃ d d', s.proc.daemon = some d ∧ (s.step src p crypto e).proc.daemon = some d' ∧
      s.Continues src d d') ∨
    (s.step src p crypto e).proc.daemon = none ∨
    (e = .start ∧ s.proc = .stopped ∧ ∃ d, Daemon.start src p crypto s.read = .ok d ∧
      (s.step src p crypto e).proc = .loaded d) := by
  have hsame : (s.step src p crypto e).proc.daemon = s.proc.daemon →
      (∃ d d', s.proc.daemon = some d ∧ (s.step src p crypto e).proc.daemon = some d' ∧
        s.Continues src d d') ∨ (s.step src p crypto e).proc.daemon = none := by
    intro heq
    cases hd : s.proc.daemon with
    | none => exact .inr (heq.trans hd)
    | some d => exact .inl ⟨d, d, rfl, heq.trans hd, .inl rfl⟩
  rw [← or_assoc]
  rcases step_cases src p crypto s e with ⟨f, -, hs⟩ | ⟨-, hs⟩ | hs | ⟨proc, hmove, hs⟩
  · exact .inl (hsame (by rw [hs]))
  · exact .inl (hsame (by rw [hs]))
  · exact .inl (hsame (by rw [hs]))
  · cases hmove with
    | stop => exact .inl (.inr (by rw [hs]; rfl))
    | start hp hd => exact .inr ⟨rfl, hp, _, hd, by rw [hs]⟩
    | firstMetadata hp => exact .inl (hsame (by rw [hs, hp]; rfl))
    | pollMetadata hp hf hne => exact .inl (hsame (by rw [hs, hp]; rfl))
    | pollLoad hp =>
        exact .inl (.inl ⟨_, _, by rw [hp]; rfl, by rw [hs]; rfl, .inr (.inr ⟨_, rfl⟩)⟩)
    | trafficLoaded hp =>
        exact .inl (.inl ⟨_, _, by rw [hp]; rfl, by rw [hs]; rfl, .inr (.inl ⟨_, rfl⟩)⟩)
    | trafficAsleep hp =>
        exact .inl (.inl ⟨_, _, by rw [hp]; rfl, by rw [hs]; rfl, .inr (.inl ⟨_, rfl⟩)⟩)
    | trafficChanged hp =>
        exact .inl (.inl ⟨_, _, by rw [hp]; rfl, by rw [hs]; rfl, .inr (.inl ⟨_, rfl⟩)⟩)

/-- A running daemon never goes back to an older generation. -/
theorem Continues.appliedGen_le {s : System Cr} {d d' : Daemon Cr} (h : s.Continues src d d') :
    d.appliedGen ≤ d'.appliedGen := by
  rcases h with rfl | ⟨t, rfl⟩ | ⟨order, rfl⟩
  · exact UInt64.le_refl _
  · exact UInt64.le_refl _
  · cases hacc : d.accepts src s.read with
    | none =>
        rw [Daemon.poll_of_accepts_eq_none hacc]
        exact UInt64.le_refl _
    | some b =>
        rw [Daemon.poll_of_accepts hacc]
        exact UInt64.le_of_lt (Daemon.accepts_eq_some_iff.mp hacc).2

/-- The daemon's policy is that of a bundle that verified, without some burned
tokens. -/
def Verified (src : BundleSource) (d : Daemon Cr) : Prop :=
  ∃ file b gone, src.load file = .ok b ∧ d.Holds b gone

theorem Continues.verified {s : System Cr} {d d' : Daemon Cr} (h : s.Continues src d d')
    (hv : Verified src d) : Verified src d' := by
  obtain ⟨file, b, gone, hload, hholds⟩ := hv
  rcases h with rfl | ⟨t, rfl⟩ | ⟨order, rfl⟩
  · exact ⟨file, b, gone, hload, hholds⟩
  · exact ⟨file, b, _, hload, hholds.step rfl⟩
  · cases hacc : d.accepts src s.read with
    | none =>
        rw [Daemon.poll_of_accepts_eq_none hacc]
        exact ⟨file, b, gone, hload, hholds⟩
    | some b' =>
        rw [Daemon.poll_of_accepts hacc]
        exact ⟨s.read, b', [], (Daemon.accepts_eq_some_iff.mp hacc).1, Daemon.holds_reload d order b'⟩

/-- Whatever is in force comes from a bundle that verified. -/
theorem verified_run {f₀ : Option BundleFile} (es : List SystemEvent) :
    ∀ d, (run (step src p crypto) ⟨f₀, .stopped⟩ es).proc.daemon = some d → Verified src d := by
  refine run_invariant (step src p crypto) (I := fun s : System Cr =>
    ∀ d, s.proc.daemon = some d → Verified src d) ?_ ?_
  · intro s e _ h d' hd'
    rcases daemon_step src p crypto s e with
      ⟨d, d₁, hd, hd₁, hcont⟩ | hnone | ⟨-, -, d, hstart, hproc⟩
    · obtain rfl := Option.some.inj (hd₁.symm.trans hd')
      exact hcont.verified (h d hd)
    · rw [hnone] at hd'
      contradiction
    · rw [hproc] at hd'
      obtain rfl := Option.some.inj hd'
      obtain ⟨b, hload, hboot⟩ := Daemon.start_eq_ok hstart
      exact ⟨s.read, b, [], hload, Daemon.holds_boot hboot⟩
  · intro d hd
    contradiction

/-- While the process runs, the last generation recorded is the one in
force. -/
theorem getLast?_generations {f₀ : Option BundleFile} (es : List SystemEvent) {d : Daemon Cr}
    (h : (run (step src p crypto) ⟨f₀, .stopped⟩ es).proc.daemon = some d) :
    (generations src p crypto ⟨f₀, .stopped⟩ es).getLast? = some d.appliedGen := by
  induction es using List.reverseRecOn with
  | nil => contradiction
  | append_singleton es e ih =>
      rw [run_append] at h
      have hgen : ((run (step src p crypto) ⟨f₀, .stopped⟩ es).step src p crypto e).generation =
          some d.appliedGen := by
        rw [generation, show (System.step src p crypto _ e).proc.daemon = some d from h]
        rfl
      rw [generations, record_concat, hgen, Option.toList_some, List.getLast?_concat]

/-- Whenever `main` runs, and the bundle in the file verifies and start-up goes
through with it, that bundle is at least as new as the last one in force. -/
def StartsCurrent (src : BundleSource) (p : GateParams) (crypto : Cr) (s₀ : System Cr)
    (before : List SystemEvent) (e : SystemEvent) : Prop :=
  let s := run (step src p crypto) s₀ before
  ∀ b d last, e = .start → s.proc = .stopped → src.load s.read = .ok b →
    Daemon.boot p crypto b = .ok d →
    (generations src p crypto s₀ before).getLast? = some last → last ≤ b.generation

/-- Every start of the run meets `StartsCurrent`. -/
def NoRollback (src : BundleSource) (p : GateParams) (crypto : Cr) (s₀ : System Cr)
    (es : List SystemEvent) : Prop :=
  ∀ before e after, es = before ++ e :: after → StartsCurrent src p crypto s₀ before e

/-- One more event: the generation it leaves in force is not below an earlier
one exactly when it meets `StartsCurrent`. -/
theorem generation_ge_iff {f₀ : Option BundleFile} {es : List SystemEvent} (e : SystemEvent)
    (hsorted : (generations src p crypto ⟨f₀, .stopped⟩ es).Pairwise (· ≤ ·)) :
    (∀ x ∈ generations src p crypto ⟨f₀, .stopped⟩ es, ∀ y,
      ((run (step src p crypto) ⟨f₀, .stopped⟩ es).step src p crypto e).generation = some y → x ≤ y) ↔
    StartsCurrent src p crypto ⟨f₀, .stopped⟩ es e := by
  generalize hs : run (step src p crypto) ⟨f₀, .stopped⟩ es = s
  -- In a sorted list everything is at most the last element.
  have hmax : ∀ last, (generations src p crypto ⟨f₀, .stopped⟩ es).getLast? = some last →
      ∀ x ∈ generations src p crypto ⟨f₀, .stopped⟩ es, x ≤ last := by
    intro last hlast x hx
    rw [List.getLast?_eq_some_getLast (List.ne_nil_of_mem hx)] at hlast
    rw [← Option.some.inj hlast]
    exact hsorted.rel_getLast hx
  rcases daemon_step src p crypto s e with
    ⟨d, d', hd, hd', hcont⟩ | hnone | ⟨rfl, hstopped, d, hstart, hproc⟩
  · refine ⟨fun _ b d₁ last _ hp => ?_, fun _ x hx y hy => ?_⟩
    · rw [hs] at hp
      rw [hp] at hd
      contradiction
    · rw [generation, hd'] at hy
      have hlast := getLast?_generations es (by rw [hs]; exact hd)
      rw [← Option.some.inj hy]
      exact UInt64.le_trans (hmax _ hlast x hx) hcont.appliedGen_le
  · refine ⟨fun _ b d₁ last he hp hload hboot => ?_, fun _ x hx y hy => ?_⟩
    · rw [hs] at hp hload
      have hstart := Daemon.start_of_load hload hboot
      subst he
      simp [System.step, hp, hstart, Proc.daemon] at hnone
    · rw [generation, hnone] at hy
      contradiction
  · obtain ⟨b, hload, hboot⟩ := Daemon.start_eq_ok hstart
    have hgen : d.appliedGen = b.generation := (Daemon.holds_boot hboot).appliedGen
    have hy : (s.step src p crypto .start).generation = some b.generation := by
      rw [generation, hproc, ← hgen]
      rfl
    constructor
    · intro hall b' d' last _ _ hload' _ hlast
      rw [hs] at hload'
      rw [← Except.ok.inj (hload.symm.trans hload')]
      exact hall last (List.mem_of_getLast? hlast) _ hy
    · intro hcur x hx y hy'
      rw [← Option.some.inj (hy.symm.trans hy')]
      obtain ⟨last, hlast⟩ :=
        Option.isSome_iff_exists.mp (List.getLast?_isSome.mpr (List.ne_nil_of_mem hx))
      refine UInt64.le_trans (hmax last hlast x hx) (hcur b d last rfl ?_ ?_ hboot hlast)
      · rw [hs]; exact hstopped
      · rw [hs]; exact hload

/-- **When generations never go back**: along every run with restarts, in which
the file may be anything at any moment, the sequence of generations in force
never decreases exactly when each start loads a bundle at least as new as the
last one in force.  Whatever is in force is the policy of a bundle that
verified, and has that bundle's generation. -/
theorem generations_sorted_iff (src : BundleSource) (p : GateParams) (crypto : Cr)
    (f₀ : Option BundleFile) (es : List SystemEvent) :
    ((generations src p crypto ⟨f₀, .stopped⟩ es).Pairwise (· ≤ ·) ↔
      NoRollback src p crypto ⟨f₀, .stopped⟩ es) ∧
    ∀ d, (run (step src p crypto) ⟨f₀, .stopped⟩ es).proc.daemon = some d →
      ∃ file b, src.load file = .ok b ∧ d.appliedGen = b.generation ∧
        d.gate.keeper.trust.clients = clientMap b.clients := by
  refine ⟨?_, fun d hd => ?_⟩
  · induction es using List.reverseRecOn with
    | nil =>
        refine ⟨fun _ before e after heq => ?_, fun _ => List.Pairwise.nil⟩
        simp at heq
    | append_singleton es e ih =>
        rw [NoRollback, forall_split_concat, ← NoRollback, ← ih, generations, record_concat,
          List.pairwise_append]
        refine and_congr_right fun hsorted => ?_
        rw [← generation_ge_iff e hsorted]
        refine ⟨fun h x hx y hy => h.2 x hx y (Option.mem_toList.mpr hy), fun h => ⟨?_, ?_⟩⟩
        · cases System.generation _ with
          | none => exact List.Pairwise.nil
          | some y => exact List.pairwise_singleton _ _
        · exact fun x hx y hy => h x hx y (Option.mem_toList.mp hy)
  · obtain ⟨file, b, gone, hload, hholds⟩ := verified_run es d hd
    exact ⟨file, b, hload, hholds.appliedGen, hholds.clients⟩

theorem start_fileTwo :
    ∃ d, step (sampleSource sampleDocs) GateParams.sample sampleGate ⟨some fileTwo, .stopped⟩ .start =
      ⟨some fileTwo, .loaded d⟩ ∧ d.appliedGen = 2 := by
  obtain ⟨d, hboot⟩ := Daemon.boot_of_card_le GateParams.sample sampleGate ⟨2, [], [], []⟩
    (by decide)
  exact ⟨d, step_start load_generation_two hboot, (Daemon.holds_boot hboot).appliedGen⟩

/-- **A restart rolls back**: the process runs with generation 2, stops, and
starts again after the older bundle was put in place. -/
theorem restart_rolls_back :
    ¬ (generations (sampleSource sampleDocs) GateParams.sample sampleGate ⟨some fileTwo, .stopped⟩
      [.start, .stop, .replace fileOne, .start]).Pairwise (· ≤ ·) := by
  obtain ⟨d₂, hstart₂, hgen₂⟩ := start_fileTwo
  obtain ⟨d₁, hstart₁, hgen₁⟩ := start_fileOne
  have hstop : System.step (sampleSource sampleDocs) GateParams.sample sampleGate
      ⟨some fileTwo, .loaded d₂⟩ .stop = ⟨some fileTwo, .stopped⟩ := rfl
  have hreplace : System.step (sampleSource sampleDocs) GateParams.sample sampleGate
      ⟨some fileTwo, .stopped⟩ (.replace fileOne) = ⟨some fileOne, .stopped⟩ := rfl
  have hgens : generations (sampleSource sampleDocs) GateParams.sample sampleGate
      ⟨some fileTwo, .stopped⟩ [.start, .stop, .replace fileOne, .start] = [2, 1] := by
    simp only [generations, record_cons, record_nil, hstart₂, hstop, hreplace, hstart₁, generation,
      Proc.daemon, Option.map_some, Option.map_none, hgen₂, hgen₁]
    rfl
  rw [hgens]
  decide

end System

end SpaDevice
