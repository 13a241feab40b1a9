import SpaDevice.Provision
import SpaDevice.Replay

/-!
# SpaDevice.Cache

The replay cache as its recent history.  The cache is pruned by every call,
also by calls for other nonces, and a rejected call does not touch the time
it was rejected for.  So what it holds is a function of the calls it
answered with `true`: `MemReplay.Recalls` is the invariant that says which.

The second half is the window start-up gives the cache.  It is computed from
`skew_seconds` beside the freshness window, in other units and with other
rules for overflow; on every configuration that loads it covers it.
-/

namespace SpaDevice

namespace MemReplay

/-! ## Runs of the cache -/

/-- One call: the time it reads and the nonce it asks for. -/
abbrev Call := Nat × Nonce

def step (m : MemReplay) (c : Call) : MemReplay := (m.admitNonce c.1 c.2).2

/-- The call, if it was answered with `true`. -/
def taken (m : MemReplay) (c : Call) : Option Call :=
  if (m.admitNonce c.1 c.2).1 = true then some c else none

/-- The calls of a run that were answered with `true`, from an empty cache. -/
def accepted (window : Nat) (calls : List Call) : List Call :=
  record step taken (new window) calls

/-- The times of the calls do not decrease. -/
def Monotone (calls : List Call) : Prop := calls.Pairwise fun c c' => c.1 ≤ c'.1

/-- At every time from the last call on, the entries inside the window are
exactly the accepted calls inside the window. -/
structure Recalls (window : Nat) (calls : List Call) (m : MemReplay) : Prop where
  window_eq : m.window = window
  lookup_iff : Monotone calls → ∀ now, (∀ c ∈ calls, c.1 ≤ now) → ∀ k t, now - t < window →
    (m.seen.lookup k = some t ↔ (t, k) ∈ accepted window calls)

theorem accepted_concat (window : Nat) (calls : List Call) (c : Call) :
    accepted window (calls ++ [c]) =
      accepted window calls ++ (taken (run step (new window) calls) c).toList :=
  record_concat step taken (new window) calls c

/-- The times of a monotone run extended by one call. -/
theorem monotone_concat {calls : List Call} {c : Call} :
    Monotone (calls ++ [c]) ↔ Monotone calls ∧ ∀ c' ∈ calls, c'.1 ≤ c.1 := by
  unfold Monotone
  rw [List.pairwise_append]
  simp

/-- Under the invariant a nonce is remembered exactly when it was accepted
inside the window. -/
theorem Recalls.live_iff {window : Nat} {calls : List Call} {m : MemReplay}
    (h : Recalls window calls m) (hmono : Monotone calls) {now : Nat}
    (hnow : ∀ c ∈ calls, c.1 ≤ now) (nonce : Nonce) :
    m.Live now nonce ↔ ∃ u, (u, nonce) ∈ accepted window calls ∧ now - u < window := by
  unfold Live
  rw [h.window_eq]
  constructor
  · rintro ⟨t, ht, hlt⟩
    exact ⟨t, (h.lookup_iff hmono now hnow nonce t hlt).mp ht, hlt⟩
  · rintro ⟨u, hu, hlt⟩
    exact ⟨u, (h.lookup_iff hmono now hnow nonce u hlt).mpr hu, hlt⟩

/-- The invariant survives one more call. -/
theorem Recalls.step {window : Nat} {calls : List Call} (c : Call)
    (h : Recalls window calls (run step (new window) calls)) :
    Recalls window (calls ++ [c]) (MemReplay.step (run MemReplay.step (new window) calls) c) := by
  obtain ⟨u, n⟩ := c
  generalize hm : run MemReplay.step (new window) calls = m at h
  have hwindow := h.window_eq
  refine ⟨(window_admitNonce m u n).trans hwindow, ?_⟩
  intro hmono now hnow k t hlt
  obtain ⟨hcalls, hlast⟩ := monotone_concat.mp hmono
  have hu : u ≤ now := hnow (u, n) (by simp)
  have hbefore : ∀ c ∈ calls, c.1 ≤ now := fun c hc => hnow c (by simp [hc])
  have hih := h.lookup_iff hcalls now hbefore k t hlt
  change (m.admitNonce u n).2.seen.lookup k = some t ↔ _
  rw [lookup_admitNonce, accepted_concat, hm, List.mem_append, Option.mem_toList]
  by_cases htaken : (m.admitNonce u n).1 = true
  · rw [taken, if_pos htaken, Option.some.injEq, Prod.mk.injEq]
    by_cases hk : k = n
    · -- an earlier accepted call for `n` inside the window would have been live
      have hnot : (t, k) ∉ accepted window calls := by
        intro hmem
        refine (admitNonce_fst_iff m u n).mp htaken ?_
        refine (h.live_iff hcalls hlast n).mpr ⟨t, ?_, by omega⟩
        rw [← hk]
        exact hmem
      rw [if_pos ⟨hk, htaken⟩, Option.some.injEq]
      simp only [hnot, hk.symm, false_or, and_true]
    · have hkeep : decide (u - t < m.window) = true := decide_eq_true (by omega)
      rw [if_neg fun hc => hk hc.1, Option.filter_eq_some_iff, hih]
      simp only [hkeep, and_true]
      constructor
      · exact .inl
      · rintro (hmem | ⟨-, hn⟩)
        · exact hmem
        · exact absurd hn.symm hk
  · have hkeep : decide (u - t < m.window) = true := decide_eq_true (by omega)
    rw [taken, if_neg htaken, if_neg fun hc => htaken hc.2, Option.filter_eq_some_iff, hih]
    simp [hkeep]

/-- The invariant holds along every run from an empty cache. -/
theorem recalls_run (window : Nat) (calls : List Call) :
    Recalls window calls (run step (new window) calls) := by
  refine run_history step ⟨rfl, ?_⟩ (fun es e => Recalls.step e) calls
  intro _ now _ k t _
  simp [accepted, new]

/-- What a call leaves behind is inside the window at the time of the call. -/
theorem lookup_admitNonce_lt {m : MemReplay} {now t : Nat} {nonce k : Nonce} (hw : 0 < m.window)
    (h : (m.admitNonce now nonce).2.seen.lookup k = some t) : now - t < m.window := by
  rw [lookup_admitNonce] at h
  split at h
  · rw [← Option.some.inj h, Nat.sub_self]
    exact hw
  · exact of_decide_eq_true (Option.filter_eq_some_iff.mp h).2

end MemReplay

/-! ## The window of a start-up -/

namespace GateParams

theorem toNat_satMul (a b : UInt64) : (satMul a b).toNat = min (a.toNat * b.toNat) (2 ^ 64 - 1) := by
  unfold satMul
  split
  · next h =>
      rw [UInt64.toNat_mul, Nat.mod_eq_of_lt h]
      omega
  · next h =>
      have hmax : (0xFFFFFFFFFFFFFFFF : UInt64).toNat = 2 ^ 64 - 1 := rfl
      rw [hmax]
      omega

/-- The window is an odd number of seconds, also where the arithmetic wraps. -/
theorem replayWindow_pos (p : GateParams) : 0 < p.replayWindow := by
  have hodd : (p.skewSeconds * 2 + 1).toNat = (p.skewSeconds.toNat * 2 + 1) % 2 ^ 64 := by
    simp [UInt64.toNat_add, UInt64.toNat_mul]
  unfold replayWindow
  rw [hodd]
  omega

end GateParams

/-- **Recent history**: a nonce is refused exactly when it was accepted inside
the window, and the cache holds what was accepted inside the window, each
nonce at its time.  The second part needs a window, which every start-up
gives. -/
theorem MemReplay.recent_history (window : Nat) (calls : List MemReplay.Call) (now : Nat)
    (nonce : Nonce) (hmono : MemReplay.Monotone (calls ++ [(now, nonce)])) :
    let m := run MemReplay.step (MemReplay.new window) calls
    ((m.admitNonce now nonce).1 = false ↔
      ∃ u, (u, nonce) ∈ MemReplay.accepted window calls ∧ now - u < window) ∧
    (0 < window → ∀ k t, (m.admitNonce now nonce).2.seen.lookup k = some t ↔
      (t, k) ∈ MemReplay.accepted window (calls ++ [(now, nonce)]) ∧ now - t < window) ∧
    (∀ p : GateParams, 0 < p.replayWindow) := by
  intro m
  obtain ⟨hcalls, hlast⟩ := MemReplay.monotone_concat.mp hmono
  have hbefore := MemReplay.recalls_run window calls
  refine ⟨?_, ?_, GateParams.replayWindow_pos⟩
  · rw [← hbefore.live_iff hcalls hlast nonce, ← not_iff_not, ← MemReplay.admitNonce_fst_iff]
    simp [m]
  · intro hw k t
    have hafter := MemReplay.recalls_run window (calls ++ [(now, nonce)])
    rw [run_append] at hafter
    have hnow : ∀ c ∈ calls ++ [(now, nonce)], c.1 ≤ now := by
      intro c hc
      rcases List.mem_append.mp hc with hc | hc
      · exact hlast c hc
      · rw [List.mem_singleton.mp hc]
    constructor
    · intro hlookup
      have hwindow : m.window = window := hbefore.window_eq
      have hlt : now - t < window := by
        rw [← hwindow]
        exact MemReplay.lookup_admitNonce_lt (by rw [hwindow]; exact hw) hlookup
      exact ⟨(hafter.lookup_iff hmono now hnow k t hlt).mp hlookup, hlt⟩
    · rintro ⟨hmem, hlt⟩
      exact (hafter.lookup_iff hmono now hnow k t hlt).mpr hmem

/-- A nonce asked for three times with a window of five: the second call is
refused, and the third finds the first one's time run out. -/
theorem MemReplay.recent_history_sample :
    MemReplay.accepted 5 [(0, beArr 16 0), (4, beArr 16 0)] = [(0, beArr 16 0)] ∧
      ((run MemReplay.step (MemReplay.new 5) [(0, beArr 16 0), (4, beArr 16 0)]).admitNonce 5
        (beArr 16 0)).1 = true := by
  have hfirst : MemReplay.accepted 5 [(0, beArr 16 0)] = [(0, beArr 16 0)] := rfl
  have hsecond := (MemReplay.recent_history 5 [(0, beArr 16 0)] 4 (beArr 16 0)
    (by simp [MemReplay.Monotone])).1.mpr ⟨0, by simp [hfirst], by decide⟩
  have hrun : MemReplay.accepted 5 [(0, beArr 16 0), (4, beArr 16 0)] = [(0, beArr 16 0)] := by
    have hconcat := MemReplay.accepted_concat 5 [(0, beArr 16 0)] (4, beArr 16 0)
    rw [MemReplay.taken, if_neg (by rw [hsecond]; simp)] at hconcat
    exact hconcat
  refine ⟨hrun, ?_⟩
  have hthird := (MemReplay.recent_history 5 [(0, beArr 16 0), (4, beArr 16 0)] 5 (beArr 16 0)
    (by simp [MemReplay.Monotone])).1
  rw [hrun] at hthird
  simpa using hthird

/-! ## The window covers the skew -/

/-- TOML integers are signed 64-bit: what `toml::from_str` reads into a `u64`
field was one of them, or the field's default. -/
def ConfigDecoders.SignedIntegers (dec : ConfigDecoders) : Prop :=
  ∀ text raw, dec.configFromStr text = .ok raw → ∃ i : Int64, i.toInt = raw.skewSeconds.toNat

/-- What of the skew fits a signed word leaves room for the window's arithmetic. -/
theorem GateParams.replayWindow_eq {p : GateParams} (h : p.skewSeconds.toNat < 2 ^ 63) :
    p.replayWindow = (p.skewSeconds.toNat * 2 + 1) * 1000000000 := by
  have hsecs : (p.skewSeconds * 2 + 1).toNat = p.skewSeconds.toNat * 2 + 1 := by
    simp only [UInt64.toNat_add, UInt64.toNat_mul, UInt64.reduceToNat]
    omega
  rw [replayWindow, hsecs]

/-- **Coverage**: on every configuration that loads, neither derivation
overflows and the replay window exceeds twice the skew; so two clock readings
at which one timestamp is accepted are less than the window apart. -/
theorem replayWindow_covers_skew {dec : ConfigDecoders} (hdec : dec.SignedIntegers) {path : String}
    {file : Except String String} {cfg : GatedConfig} (hload : dec.load path file = .ok cfg)
    (gateId : GateId) :
    let p := cfg.params gateId
    cfg.skewSeconds.toNat * 2 + 1 < 2 ^ 64 ∧
      p.replayWindow = (cfg.skewSeconds.toNat * 2 + 1) * 1000000000 ∧
      p.config.skewNanos.toNat = min (cfg.skewSeconds.toNat * 1000000000) (2 ^ 64 - 1) ∧
      2 * p.config.skewNanos.toNat < p.replayWindow ∧
      ∀ ts w w' : UInt64, absDiff w ts ≤ p.config.skewNanos → absDiff w' ts ≤ p.config.skewNanos →
        (absDiff w w').toNat < p.replayWindow := by
  intro p
  obtain ⟨text, raw, -, hraw, hd⟩ := ConfigDecoders.load_eq_ok_iff.mp hload
  obtain ⟨i, hi⟩ := hdec text raw hraw
  have hskew : cfg.skewSeconds.toNat < 2 ^ 63 := by
    have hmax := i.toInt_lt
    rw [hd.skewSeconds]
    omega
  have hwindow : p.replayWindow = (cfg.skewSeconds.toNat * 2 + 1) * 1000000000 :=
    GateParams.replayWindow_eq hskew
  have hnanos : p.config.skewNanos.toNat = min (cfg.skewSeconds.toNat * 1000000000) (2 ^ 64 - 1) :=
    GateParams.toNat_satMul cfg.skewSeconds 1000000000
  have hcovers : 2 * p.config.skewNanos.toNat < p.replayWindow := by
    rw [hwindow, hnanos]
    omega
  refine ⟨by omega, hwindow, hnanos, hcovers, ?_⟩
  intro ts w w' h h'
  have hle := Gatekeeper.wall_sub_le h h'
  have hle' := Gatekeeper.wall_sub_le h' h
  have hdiff := toNat_absDiff w w'
  split at hdiff <;> omega

/-- Decoders that know one file: the sample configuration with the longest skew
TOML can write. -/
def longestSkew : ConfigDecoders :=
  { sampleOutside.dec with
    configFromStr := fun text =>
      if text = "skew_seconds = 9223372036854775807\n" ++ sampleToml then
        .ok { sampleRaw with skewSeconds := 9223372036854775807 }
      else .error "TOML parse error" }

theorem longestSkew_signedIntegers : longestSkew.SignedIntegers := by
  intro text raw h
  change (if text = _ then _ else _) = _ at h
  split at h
  · rw [← Except.ok.inj h]
    exact ⟨Int64.maxValue, rfl⟩
  · contradiction

theorem load_longestSkew :
    longestSkew.load "/etc/spa/gated.toml" (.ok ("skew_seconds = 9223372036854775807\n" ++ sampleToml)) =
      .ok { sampleGated none with skewSeconds := 9223372036854775807 } := by
  refine ConfigDecoders.load_eq_ok_iff.mpr
    ⟨_, { sampleRaw with skewSeconds := 9223372036854775807 }, rfl, ?_, ?_⟩
  · simp [longestSkew]
  · exact ⟨rfl, .none, hexDecode_hexEncode (beArr 32 7).val,
      .some (hexDecode_hexEncode (beArr 16 1).val), .nil, .nil, .some ⟨rfl, rfl, rfl, rfl⟩, rfl, rfl,
      rfl, rfl, rfl, rfl, rfl⟩

/-- The longest skew still fits: its window is the largest number of seconds
there is. -/
theorem replayWindow_covers_longestSkew :
    let p := GatedConfig.params { sampleGated none with skewSeconds := 9223372036854775807 } (beArr 16 1)
    p.replayWindow = (2 ^ 64 - 1) * 1000000000 ∧ 2 * p.config.skewNanos.toNat < p.replayWindow := by
  obtain ⟨-, hwindow, -, hcovers, -⟩ :=
    replayWindow_covers_skew longestSkew_signedIntegers load_longestSkew (beArr 16 1)
  exact ⟨hwindow, hcovers⟩

end SpaDevice
