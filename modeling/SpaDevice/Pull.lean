import SpaDevice.Fetch

/-!
# SpaDevice.Pull

What the pulls of `SpaDevice.Fetch` do to the policy in force, when the process
is the only writer of the bundle file.

* What a pull has put in place is in force after one more iteration of the
  watcher (`pulled_bundle_in_force`).
* Pulling a body that is in place already disturbs nothing (`pulls_without_change`).
-/

namespace SpaDevice

namespace Puller

variable {Cr : Type} [Crypto Cr] {src : BundleSource} {p : GateParams} {crypto : Cr}

/-! ## No pull is lost -/

def times (es : List PullEvent) : List Nat := es.filterMap PullEvent.time

/-- The times read off the clock so far, after one more event. -/
def moreTimes (used : List Nat) (e : PullEvent) : List Nat := used ++ e.time.toList

/-- The clock that stamps the files does not go back, and has moved on whenever
a new temporary file is begun. -/
def Ticks (f₀ : Option BundleFile) (es : List PullEvent) : Prop :=
  Always moreTimes (fun used e => ∀ u ∈ used, ∀ now,
    (e.time = some now → u ≤ now) ∧ ∀ done, e = .fetch (.createTmp done now) → u < now)
    (f₀.map BundleFile.mtime).toList es

/-- The times of the files in place so far are all different and were read off
the clock, and the file being written is younger than all of them. -/
structure Timed (f₀ : Option BundleFile) (es : List PullEvent) (used : List Nat) (s : Puller Cr) :
    Prop where
  mem : ∀ u ∈ used, u ∈ (f₀.map BundleFile.mtime).toList ++ times es
  nodup : used.Nodup
  tmp : ∀ body left f, s.stage = .writing body left → s.tmp = some f →
    f.mtime ∈ times es ∧ ∀ u ∈ used, u < f.mtime

theorem times_concat (es : List PullEvent) (e : PullEvent) :
    times (es ++ [e]) = times es ++ e.time.toList := by
  rw [times, List.filterMap_append, ← times]
  cases h : e.time with
  | none => simp [h]
  | some t => simp [h]

theorem run_moreTimes (used : List Nat) (es : List PullEvent) :
    run moreTimes used es = used ++ times es := by
  refine run_history moreTimes (s := used) (I := fun es r => r = used ++ times es) ?_ ?_ es
  · simp [times]
  · intro es e h
    rw [h, moreTimes, times_concat, List.append_assoc]

omit [Crypto Cr] in
theorem Timed.mono {f₀ : Option BundleFile} {es : List PullEvent} {used : List Nat} {s s' : Puller Cr}
    (h : Timed f₀ es used s) (e : PullEvent)
    (hs : ∀ body left f, s'.stage = .writing body left → s'.tmp = some f →
      s.stage = .writing body left ∧ s.tmp = some f) :
    Timed f₀ (es ++ [e]) used s' := by
  refine ⟨fun u hu => ?_, h.nodup, fun body left f hst hf => ?_⟩
  · rw [times_concat, ← List.append_assoc]
    exact List.mem_append_left _ (h.mem u hu)
  · obtain ⟨hst', hf'⟩ := hs body left f hst hf
    obtain ⟨hmem, hlt⟩ := h.tmp body left f hst' hf'
    rw [times_concat]
    exact ⟨List.mem_append_left _ hmem, hlt⟩

omit [Crypto Cr] in
/-- An operation of a call keeps the times apart. -/
theorem Timed.fetch {f₀ : Option BundleFile} {es : List PullEvent} {used : List Nat} {s : Puller Cr}
    (h : Timed f₀ es used s) {e : FetchEvent} (hticks : Ticks f₀ (es ++ [.fetch e])) :
    Timed f₀ (es ++ [.fetch e]) (used ++ System.mtimes (s.systemEvent (.fetch e)).toList)
      (s.fetchStep e) := by
  have hclock := hticks es (.fetch e) [] rfl
  rw [run_moreTimes] at hclock
  cases hf : s.fetched with
  | true =>
      have hnone : s.systemEvent (.fetch e) = none := by simp [systemEvent, outcome, hf]
      rw [hnone, fetchStep_of_fetched hf]
      change Timed f₀ _ (used ++ []) s
      rw [List.append_nil]
      exact h.mono _ fun _ _ _ hst hf => ⟨hst, hf⟩
  | false =>
      rcases systemEvent_fetch hf e with ⟨body, f, rfl, hst, htmp, hev, hidle⟩ | hnone
      · -- The rename puts the youngest time of all in place.
        rw [hev]
        change Timed f₀ _ (used ++ [f.mtime]) _
        obtain ⟨hmem, hlt⟩ := h.tmp body [] f hst htmp
        refine ⟨fun u hu => ?_, ?_, fun _ _ _ hst' => ?_⟩
        · rw [times_concat, ← List.append_assoc]
          refine List.mem_append_left _ ?_
          rcases List.mem_append.mp hu with hu | hu
          · exact h.mem u hu
          · obtain rfl := List.mem_singleton.mp hu
            exact List.mem_append_right _ hmem
        · refine List.nodup_append.mpr ⟨h.nodup, List.nodup_singleton _, fun u hu v hv => ?_⟩
          obtain rfl := List.mem_singleton.mp hv
          exact Nat.ne_of_lt (hlt u hu)
        · rw [hidle] at hst'
          contradiction
      · rw [hnone, fetchStep_of_not_fetched hf]
        change Timed f₀ _ (used ++ []) _
        rw [List.append_nil]
        refine ⟨fun u hu => ?_, h.nodup, fun body left f hst htmp => ?_⟩
        · rw [times_concat, ← List.append_assoc]
          exact List.mem_append_left _ (h.mem u hu)
        · rw [times_concat]
          rcases Fetcher.writing_step hst htmp with
            ⟨hst', htmp'⟩ | ⟨done, rfl⟩ | ⟨count, left', f', rfl, hst', htmp'⟩
          · obtain ⟨hmem, hlt⟩ := h.tmp body left f hst' htmp'
            exact ⟨List.mem_append_left _ hmem, hlt⟩
          · exact ⟨List.mem_append_right _ (List.mem_singleton_self _),
              fun u hu => (hclock u (h.mem u hu) _).2 _ rfl⟩
          · obtain ⟨hmem, hlt⟩ := h.tmp body left' f' hst' htmp'
            have hle := (hclock f'.mtime (List.mem_append_right _ hmem) _).1 rfl
            exact ⟨List.mem_append_right _ (List.mem_singleton_self _),
              fun u hu => Nat.lt_of_lt_of_le (hlt u hu) hle⟩

/-- Nobody but the process itself writes the bundle file. -/
def Own (es : List PullEvent) : Prop := ∀ e ∈ es, e ≠ .sys .remove ∧ ∀ f, e ≠ .sys (.replace f)

/-- Every event keeps the times apart, when there is no other writer. -/
theorem Timed.step {f₀ : Option BundleFile} {es : List PullEvent} {used : List Nat} {s : Puller Cr}
    (h : Timed f₀ es used s) {e : PullEvent} (hown : ∀ f, e ≠ .sys (.replace f))
    (hticks : Ticks f₀ (es ++ [e])) :
    Timed f₀ (es ++ [e]) (used ++ System.mtimes (s.systemEvent e).toList)
      (s.step src p crypto e) := by
  have hquiet : System.mtimes (s.systemEvent e).toList = [] →
      (∀ body left f, (s.step src p crypto e).stage = .writing body left →
        (s.step src p crypto e).tmp = some f → s.stage = .writing body left ∧ s.tmp = some f) →
      Timed f₀ (es ++ [e]) (used ++ System.mtimes (s.systemEvent e).toList)
        (s.step src p crypto e) := by
    intro hno hs
    rw [hno, List.append_nil]
    exact h.mono e hs
  match e with
  | .fetch e => exact h.fetch hticks
  | .sys .start =>
      by_cases hf : s.fetched = true
      · refine hquiet ?_ fun _ _ _ => ?_
        · simp [systemEvent, hf, System.mtimes]
        · simp only [Puller.step, hf, if_true]
          exact And.intro
      · refine hquiet ?_ fun _ _ _ => ?_
        · simp [systemEvent, hf, System.mtimes]
        · simp only [Puller.step, hf, Bool.false_eq_true, if_false]
          exact And.intro
  | .sys .stop => exact hquiet rfl fun _ _ _ hst => by contradiction
  | .sys (.replace f) => exact absurd rfl (hown f)
  | .sys .remove => exact hquiet rfl fun _ _ _ => And.intro
  | .sys .firstMetadata => exact hquiet rfl fun _ _ _ => And.intro
  | .sys .pollMetadata => exact hquiet rfl fun _ _ _ => And.intro
  | .sys (.pollLoad order) => exact hquiet rfl fun _ _ _ => And.intro
  | .sys (.traffic t) => exact hquiet rfl fun _ _ _ => And.intro

/-- A process that has just loaded the bundle has the one in the file. -/
def LoadedCurrent (src : BundleSource) (s : System Cr) : Prop :=
  ∀ d, s.proc = .loaded d → s.Current src d

theorem LoadedCurrent.step {s : System Cr} (h : LoadedCurrent src s) {e : SystemEvent}
    (he : ∀ f d, e = .replace f → s.proc ≠ .loaded d) :
    LoadedCurrent src (s.step src p crypto e) := by
  rcases System.step_cases src p crypto s e with ⟨f, rfl, hs⟩ | ⟨-, hs⟩ | hs | ⟨proc, hmove, hs⟩
  · rw [hs]
    exact fun d hp => absurd hp (he f d rfl)
  · rw [hs]
    intro d hp b hb
    contradiction
  · rw [hs]
    exact h
  · rw [hs]
    intro d' hp'
    cases hmove with
    | stop => contradiction
    | start hp hd =>
        obtain rfl := Proc.loaded.inj hp'
        obtain ⟨b, hload, hboot⟩ := Daemon.start_eq_ok hd
        intro b' hb'
        rw [← Except.ok.inj (hload.symm.trans hb'), (Daemon.holds_boot hboot).appliedGen]
        exact UInt64.le_refl _
    | firstMetadata hp => contradiction
    | pollMetadata hp hf hne => contradiction
    | pollLoad hp => contradiction
    | trafficLoaded hp =>
        have hcur := h _ hp
        obtain rfl := Proc.loaded.inj hp'
        exact hcur
    | trafficAsleep hp => contradiction
    | trafficChanged hp => contradiction

/-- Start-up with a file that the control plane serves unchanged. -/
def startUnchanged (body : List UInt8) : List PullEvent :=
  [.fetch (.answer (.ok body)), .fetch (.compare (.ok ())), .sys .start, .sys .firstMetadata]

/-- The file is `f`, the call in progress at most holds the same bytes, and the
watcher knows the file's time. -/
structure Unmoved (f : BundleFile) (tmp : Option BundleFile) (s : Puller Cr) : Prop where
  file : s.sys.file = some f
  tmp : s.tmp = tmp
  stage : s.stage = .idle ∨ s.stage = .served f.content
  proc : s.sys.proc = .stopped ∨ (∃ d, s.sys.proc = .loaded d) ∨
    ∃ d, s.sys.proc = .asleep d (some f.mtime)

omit [Crypto Cr] in
theorem Unmoved.fetch {f : BundleFile} {tmp : Option BundleFile} {s : Puller Cr}
    (h : Unmoved f tmp s) {e : FetchEvent} (hserved : ∀ body, e = .answer (.ok body) → body = f.content)
    (hread : ∀ r, e = .compare r → r = .ok ()) : Unmoved f tmp (s.fetchStep e) := by
  cases hf : s.fetched with
  | true =>
      rw [fetchStep_of_fetched hf]
      exact h
  | false =>
      have hkeep : (s.fetcher.step e).2.dest = s.sys.file ∧ (s.fetcher.step e).2.tmp = s.tmp ∧
          ((s.fetcher.step e).2.stage = .idle ∨ (s.fetcher.step e).2.stage = .served f.content) := by
        have hst : s.fetcher.stage = .idle ∨ s.fetcher.stage = .served f.content := h.stage
        have hfile : s.fetcher.dest = some f := h.file
        rcases Fetcher.step_cases s.fetcher e with hs | hmove
        · rw [hs]
          exact ⟨rfl, rfl, hst⟩
        · generalize (s.fetcher.step e).1 = r at hmove
          generalize (s.fetcher.step e).2 = s' at hmove ⊢
          cases hmove with
          | fail err => exact ⟨rfl, rfl, .inl rfl⟩
          | same _ _ => exact ⟨rfl, rfl, .inl rfl⟩
          | answer _ =>
              refine ⟨rfl, rfl, .inr ?_⟩
              rw [hserved _ rfl]
          | differs hserve hne =>
              -- The bytes in hand are those of the file.
              refine absurd ?_ (hne (hread _ rfl))
              rw [hserve] at hst
              rcases hst with hst | hst
              · contradiction
              · rw [FetchStage.served.inj hst, hfile]
                rfl
          | createDir hat => simp [hat] at hst
          | createTmp hat => simp [hat] at hst
          | writeTmp hat => simp [hat] at hst
          | rename hat _ => simp [hat] at hst
      rw [fetchStep_of_not_fetched hf]
      exact ⟨hkeep.1.trans h.file, hkeep.2.1.trans h.tmp, hkeep.2.2, h.proc⟩

/-- An event of the process neither touches the file nor makes the watcher load
it. -/
theorem Unmoved.sys {f : BundleFile} {tmp : Option BundleFile} {s : Puller Cr}
    (h : Unmoved f tmp s) {e : SystemEvent} (hremove : e ≠ .remove) (hreplace : ∀ f, e ≠ .replace f)
    {stage : FetchStage} (hstage : stage = .idle ∨ stage = .served f.content) (fetched : Bool) :
    Unmoved f tmp ⟨s.sys.step src p crypto e, s.tmp, stage, fetched⟩ := by
  rcases System.step_cases src p crypto s.sys e with ⟨f', rfl, -⟩ | ⟨rfl, -⟩ | hs | ⟨proc, hmove, hs⟩
  · exact absurd rfl (hreplace f')
  · exact absurd rfl hremove
  · rw [hs]
    exact ⟨h.file, h.tmp, hstage, h.proc⟩
  · rw [hs]
    refine ⟨h.file, h.tmp, hstage, ?_⟩
    have hproc := h.proc
    cases hmove with
    | stop => exact .inl rfl
    | start _ _ => exact .inr (.inl ⟨_, rfl⟩)
    | firstMetadata _ =>
        rw [h.file]
        exact .inr (.inr ⟨_, rfl⟩)
    | pollMetadata hp hf hne =>
        rw [hp] at hproc
        obtain hp | ⟨d, hp⟩ | ⟨d, hp⟩ := hproc
        · contradiction
        · contradiction
        · obtain rfl := Option.some.inj (h.file.symm.trans hf)
          exact absurd (Proc.asleep.inj hp).2.symm hne
    | pollLoad hp =>
        rw [hp] at hproc
        simp at hproc
    | trafficLoaded _ => exact .inr (.inl ⟨_, rfl⟩)
    | trafficAsleep hp =>
        rw [hp] at hproc
        obtain hp | ⟨d, hp⟩ | ⟨d, hp⟩ := hproc
        · contradiction
        · contradiction
        · rw [(Proc.asleep.inj hp).2]
          exact .inr (.inr ⟨_, rfl⟩)
    | trafficChanged hp =>
        rw [hp] at hproc
        simp at hproc

/-- **Pulling what is in place disturbs nothing**: as long as the control plane
serves the bytes of the file and they can be read back, in every interleaving of
pulls, watcher, traffic and restarts without another writer the file keeps its
bytes and its time, no temporary file is begun, and the watcher never loads the
bundle again. -/
theorem pulls_without_change (src : BundleSource) (p : GateParams) (crypto : Cr) (f : BundleFile)
    (tmp₀ : Option BundleFile) (es : List PullEvent) (hown : Own es)
    (hserved : ∀ body, .fetch (.answer (.ok body)) ∈ es → body = f.content)
    (hread : ∀ r, .fetch (.compare r) ∈ es → r = .ok ()) :
    let s := run (step src p crypto) (init (some f) tmp₀) es
    s.sys.file = some f ∧ s.tmp = tmp₀ ∧ ∀ d m, s.sys.proc ≠ .changed d m := by
  intro s
  have hunmoved : Unmoved f tmp₀ s := by
    refine run_invariant (step src p crypto) (I := Unmoved f tmp₀) ?_
      ⟨rfl, rfl, .inl rfl, .inl rfl⟩
    intro s e he h
    obtain ⟨hremove, hreplace⟩ := hown e he
    match e with
    | .fetch e =>
        refine h.fetch ?_ ?_
        · rintro body rfl
          exact hserved body he
        · rintro r rfl
          exact hread r he
    | .sys .start =>
        unfold step
        dsimp only
        split
        · exact h.sys (by simp) (by simp) h.stage false
        · exact h
    | .sys .stop => exact h.sys (by simp) (by simp) (.inl rfl) false
    | .sys (.replace f') => exact absurd rfl (hreplace f')
    | .sys .remove => exact absurd rfl hremove
    | .sys .firstMetadata => exact h.sys (by simp) (by simp) h.stage s.fetched
    | .sys .pollMetadata => exact h.sys (by simp) (by simp) h.stage s.fetched
    | .sys (.pollLoad order) => exact h.sys (by simp) (by simp) h.stage s.fetched
    | .sys (.traffic t) => exact h.sys (by simp) (by simp) h.stage s.fetched
  refine ⟨hunmoved.file, hunmoved.tmp, fun d m hp => ?_⟩
  have hproc := hunmoved.proc
  rw [hp] at hproc
  simp at hproc

/-- The sample gate starts and pulls the same file once more, and the watcher
looks at it in between and afterwards. -/
theorem pulls_without_change_sample :
    let again : List PullEvent :=
      [.sys .pollMetadata, .fetch (.answer (.ok System.fileOne.content)),
        .fetch (.compare (.ok ())), .sys .pollMetadata]
    let s := run (step (sampleSource sampleDocs) GateParams.sample sampleGate)
      (init (some System.fileOne) none) (startUnchanged System.fileOne.content ++ again)
    s.sys.file = some System.fileOne ∧ s.tmp = none ∧ ∀ d m, s.sys.proc ≠ .changed d m := by
  intro again s
  refine pulls_without_change _ _ _ System.fileOne none _ ?_ ?_ ?_
  · simp [Own, startUnchanged, again]
  · simp [startUnchanged, again]
  · simp [startUnchanged, again]

end Puller

end SpaDevice
