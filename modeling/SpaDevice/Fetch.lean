import SpaDevice.Lifecycle
import SpaDevice.Provision

/-!
# SpaDevice.Fetch

`cp::fetch_bundle` at the grain of its file operations: the answer of the
control plane, the comparison with the file in place, the temporary file written
chunk by chunk, and the rename.  `Puller` runs it beside the process of
`SpaDevice.Lifecycle`: once in `main` before the bundle is loaded, and then on
the thread that pulls again and again.  The process may die between any two
operations.

Whatever the interleaving, the bundle file behaves as if it were only ever
replaced as a whole, by bodies that the control plane served
(`pulls_replace_whole_files`).
-/

namespace SpaDevice

/-! ## One call of `fetch_bundle` -/

/-- Where a call of `fetch_bundle` stands. -/
inductive FetchStage where
  | idle
  /-- The body of the answer is in hand. -/
  | served (body : List UInt8)
  /-- The body is not what the file in place holds. -/
  | differs (body : List UInt8)
  /-- The parent directory is there. -/
  | prepared (body : List UInt8)
  /-- The temporary file is open; `left` is still to be written to it. -/
  | writing (body left : List UInt8)
deriving DecidableEq

/-- The body in hand. -/
def FetchStage.body : FetchStage → Option (List UInt8)
  | .idle => none
  | .served body => some body
  | .differs body => some body
  | .prepared body => some body
  | .writing body _ => some body

/-- One operation of `fetch_bundle` with what the world outside answers.  A file
that is created or written to gets the time `now`. -/
inductive FetchEvent where
  /-- The client, the request, its status and the body. -/
  | answer (body : Except String (List UInt8))
  /-- `std::fs::read(dest)` goes through or not. -/
  | compare (read : Except String Unit)
  | createDir (done : Except String Unit)
  /-- `std::fs::write` opens the file, which empties it. -/
  | createTmp (done : Except String Unit) (now : Nat)
  /-- One `write` of its `write_all`: how many bytes were taken. -/
  | writeTmp (count : Except String Nat) (now : Nat)
  | rename (done : Except String Unit)

/-- The file in place, the temporary file beside it, to which nobody else
writes, and the call. -/
structure Fetcher where
  dest : Option BundleFile
  tmp : Option BundleFile
  stage : FetchStage

namespace Fetcher

/-- One operation, and what the call returns if this was its last one.  An
operation that the call is not at does nothing. -/
def step (s : Fetcher) (e : FetchEvent) : Option (Except String Bool) × Fetcher :=
  match s.stage, e with
  | .idle, .answer (.ok body) => (none, { s with stage := .served body })
  | .idle, .answer (.error err) => (some (.error err), { s with stage := .idle })
  | .served body, .compare (.ok ()) =>
      if s.dest.map BundleFile.content = some body then (some (.ok false), { s with stage := .idle })
      else (none, { s with stage := .differs body })
  | .served body, .compare (.error _) => (none, { s with stage := .differs body })
  | .differs body, .createDir (.ok ()) => (none, { s with stage := .prepared body })
  | .differs _, .createDir (.error err) => (some (.error err), { s with stage := .idle })
  | .prepared body, .createTmp (.ok ()) now =>
      (none, { s with tmp := some ⟨[], now⟩, stage := .writing body body })
  | .prepared _, .createTmp (.error err) _ => (some (.error err), { s with stage := .idle })
  | .writing body (b :: left), .writeTmp (.ok n) now =>
      if n = 0 then (some (.error "failed to write whole buffer"), { s with stage := .idle })
      else
        (none, { s with
          tmp := s.tmp.map fun f => ⟨f.content ++ (b :: left).take n, now⟩
          stage := .writing body ((b :: left).drop n) })
  | .writing _ (_ :: _), .writeTmp (.error err) _ => (some (.error err), { s with stage := .idle })
  | .writing _ [], .rename (.ok ()) =>
      match s.tmp with
      | some f => (some (.ok true), ⟨some f, none, .idle⟩)
      | none => (some (.error "No such file or directory (os error 2)"), { s with stage := .idle })
  | .writing _ [], .rename (.error err) => (some (.error err), { s with stage := .idle })
  | _, _ => (none, s)

/-- How an operation moves the call, when it does. -/
inductive Moves (s : Fetcher) : FetchEvent → Option (Except String Bool) → Fetcher → Prop where
  | fail {e : FetchEvent} (err : String) : Moves s e (some (.error err)) { s with stage := .idle }
  | answer {body : List UInt8} : s.stage = .idle →
      Moves s (.answer (.ok body)) none { s with stage := .served body }
  | same {body : List UInt8} : s.stage = .served body →
      s.dest.map BundleFile.content = some body →
      Moves s (.compare (.ok ())) (some (.ok false)) { s with stage := .idle }
  | differs {body : List UInt8} {read : Except String Unit} : s.stage = .served body →
      (read = .ok () → s.dest.map BundleFile.content ≠ some body) →
      Moves s (.compare read) none { s with stage := .differs body }
  | createDir {body : List UInt8} : s.stage = .differs body →
      Moves s (.createDir (.ok ())) none { s with stage := .prepared body }
  | createTmp {body : List UInt8} {now : Nat} : s.stage = .prepared body →
      Moves s (.createTmp (.ok ()) now) none
        { s with tmp := some ⟨[], now⟩, stage := .writing body body }
  | writeTmp {body left : List UInt8} {n now : Nat} : s.stage = .writing body left →
      Moves s (.writeTmp (.ok n) now) none
        { s with
          tmp := s.tmp.map fun f => ⟨f.content ++ left.take n, now⟩
          stage := .writing body (left.drop n) }
  | rename {body : List UInt8} {f : BundleFile} : s.stage = .writing body [] → s.tmp = some f →
      Moves s (.rename (.ok ())) (some (.ok true)) ⟨some f, none, .idle⟩

/-- **Everything an operation can do.** -/
theorem step_cases (s : Fetcher) (e : FetchEvent) :
    s.step e = (none, s) ∨ Moves s e (s.step e).1 (s.step e).2 := by
  unfold step
  split
  · next hs => exact .inr (.answer hs)
  · exact .inr (.fail _)
  · next body hs =>
      split
      · next hdest => exact .inr (.same hs hdest)
      · next hdest => exact .inr (.differs hs fun _ => hdest)
  · next body err hs => exact .inr (.differs hs fun h => by contradiction)
  · next hs => exact .inr (.createDir hs)
  · exact .inr (.fail _)
  · next hs => exact .inr (.createTmp hs)
  · exact .inr (.fail _)
  · next body b left n now hs =>
      split
      · exact .inr (.fail _)
      · exact .inr (.writeTmp hs)
  · exact .inr (.fail _)
  · next hs =>
      split
      · next f hf => exact .inr (.rename hs hf)
      · exact .inr (.fail _)
  · exact .inr (.fail _)
  · exact .inl rfl

/-- The operations of a call that nothing interferes with, as the world outside
answers them, with the whole body taken by one `write`. -/
def aloneEvents (out : Outside) (cp : ControlPlane) (dest : String) (now : Nat) : List FetchEvent :=
  let body : Except String (List UInt8) := do
    out.client cp
    (out.http cp.bundleRequest).bytes "fetch bundle"
  [.answer body, .compare ((out.disk.read dest).map fun _ => ()),
    .createDir (out.disk.createParent dest), .createTmp (out.disk.write (dest ++ ".tmp")) now,
    .writeTmp (body.map List.length) now, .rename (out.disk.rename (dest ++ ".tmp") dest)]

def next (s : Fetcher) (e : FetchEvent) : Fetcher := (s.step e).2

def returns (s : Fetcher) (e : FetchEvent) : Option (Except String Bool) := (s.step e).1

/-- One `write` that takes everything completes the file. -/
theorem step_writeTmp_length (f : Option BundleFile) (body : List UInt8) (now : Nat) :
    Fetcher.step ⟨f, some ⟨[], now⟩, .writing body body⟩ (.writeTmp (.ok body.length) now) =
      (none, ⟨f, some ⟨body, now⟩, .writing body []⟩) := by
  cases body with
  | nil => rfl
  | cons b left => simp [step]

/-- Alone, the operations are `Outside.fetchBundle`: they return what it returns
and leave the same bytes in place. -/
theorem alone_eq_fetchBundle (out : Outside) (cp : ControlPlane) (dest : String) (now : Nat)
    {f tmp : Option BundleFile} (hf : f.map BundleFile.content = (out.disk.read dest).toOption) :
    record next returns ⟨f, tmp, .idle⟩ (aloneEvents out cp dest now) =
      [(out.fetchBundle cp dest).map Prod.fst] ∧
    ∀ r, out.fetchBundle cp dest = .ok r →
      (run next ⟨f, tmp, .idle⟩ (aloneEvents out cp dest now)).dest.map BundleFile.content =
        (r.2.read dest).toOption := by
  have hread : ∀ r, out.fetchBundle cp dest = .ok r → ∃ bytes,
      out.http cp.bundleRequest = .body bytes ∧ r.2.read dest = .ok bytes :=
    fun r hr => Outside.read_of_fetchBundle hr
  unfold aloneEvents
  unfold Outside.fetchBundle Disk.writeFile Disk.renameFile at hread ⊢
  cases hc : out.client cp with
  | error e => exact ⟨rfl, fun r hr => by contradiction⟩
  | ok u =>
  cases hb : (out.http cp.bundleRequest).bytes "fetch bundle" with
  | error e => exact ⟨rfl, fun r hr => by contradiction⟩
  | ok body =>
  have hserved : next ⟨f, tmp, .idle⟩ (.answer (.ok body)) = ⟨f, tmp, .served body⟩ := rfl
  simp only [hc, hb, except_ok_bind] at hread ⊢
  rw [record_cons, record_cons, run_cons, run_cons, hserved]
  by_cases hsame : (out.disk.read dest).toOption = some body
  · have hcmp : Fetcher.step ⟨f, tmp, .served body⟩
        (.compare ((out.disk.read dest).map fun _ => ())) = (some (.ok false), ⟨f, tmp, .idle⟩) := by
      rw [toOption_eq_some.mp hsame]
      exact if_pos (hf.trans hsame)
    rw [next, returns, returns, hcmp, if_pos hsame]
    refine ⟨rfl, fun r hr => ?_⟩
    rw [← Except.ok.inj hr]
    exact hf
  · have hcmp : Fetcher.step ⟨f, tmp, .served body⟩
        (.compare ((out.disk.read dest).map fun _ => ())) = (none, ⟨f, tmp, .differs body⟩) := by
      cases hr : out.disk.read dest with
      | error e => rfl
      | ok content => exact if_neg (by rw [hf]; exact hsame)
    rw [next, returns, returns, hcmp]
    simp only [if_neg hsame] at hread ⊢
    cases hdir : out.disk.createParent dest with
    | error e => exact ⟨rfl, fun r hr => by contradiction⟩
    | ok u =>
    cases hwrite : out.disk.write (dest ++ ".tmp") with
    | error e => exact ⟨rfl, fun r hr => by contradiction⟩
    | ok u =>
    have hcreated : next (next ⟨f, tmp, .differs body⟩ (.createDir (.ok ())))
        (.createTmp (.ok ()) now) = ⟨f, some ⟨[], now⟩, .writing body body⟩ := rfl
    have hwritten : next ⟨f, some ⟨[], now⟩, .writing body body⟩
        (.writeTmp (Except.map List.length (.ok body)) now) =
          ⟨f, some ⟨body, now⟩, .writing body []⟩ :=
      congrArg Prod.snd (step_writeTmp_length f body now)
    have hsilent : returns ⟨f, some ⟨[], now⟩, .writing body body⟩
        (.writeTmp (Except.map List.length (.ok body)) now) = none :=
      congrArg Prod.fst (step_writeTmp_length f body now)
    simp only [hdir, hwrite, except_ok_bind, pure_bind] at hread ⊢
    simp only [record_cons, run_cons, hcreated, hwritten, hsilent]
    cases hren : out.disk.rename (dest ++ ".tmp") dest with
    | error e =>
        exact ⟨rfl, fun r hr => by contradiction⟩
    | ok u =>
        simp only [hren, except_ok_bind, pure_bind] at hread
        refine ⟨rfl, fun r hr => ?_⟩
        obtain ⟨bytes, hbytes, hr'⟩ := hread r hr
        rw [hbytes] at hb
        rw [hr', Except.ok.inj hb]
        rfl

/-- A call touches the file in place only when it returns `Ok(true)`: it then
renames the temporary file over it. -/
theorem dest_step (s : Fetcher) (e : FetchEvent) :
    (∃ body f, e = .rename (.ok ()) ∧ s.stage = .writing body [] ∧ s.tmp = some f ∧
      s.step e = (some (.ok true), ⟨some f, none, .idle⟩)) ∨
    ((s.step e).1 ≠ some (.ok true) ∧ (s.step e).2.dest = s.dest) := by
  rcases step_cases s e with hs | hmove
  · rw [hs]
    exact .inr ⟨by simp, rfl⟩
  · have heta : s.step e = ((s.step e).1, (s.step e).2) := rfl
    rw [heta]
    generalize (s.step e).1 = r at hmove ⊢
    generalize (s.step e).2 = s' at hmove ⊢
    cases hmove with
    | rename hst hf => exact .inl ⟨_, _, rfl, hst, hf, rfl⟩
    | fail err => exact .inr ⟨by simp, rfl⟩
    | same _ _ => exact .inr ⟨by simp, rfl⟩
    | answer _ => exact .inr ⟨by simp, rfl⟩
    | differs _ _ => exact .inr ⟨by simp, rfl⟩
    | createDir _ => exact .inr ⟨by simp, rfl⟩
    | createTmp _ => exact .inr ⟨by simp, rfl⟩
    | writeTmp _ => exact .inr ⟨by simp, rfl⟩

/-- Where the time of a file in progress comes from. -/
theorem writing_step {s : Fetcher} {e : FetchEvent} {body left : List UInt8} {f : BundleFile}
    (hs : (s.step e).2.stage = .writing body left) (hf : (s.step e).2.tmp = some f) :
    (s.stage = .writing body left ∧ s.tmp = some f) ∨
    (∃ done, e = .createTmp done f.mtime) ∨
    ∃ count left' f', e = .writeTmp count f.mtime ∧ s.stage = .writing body left' ∧
      s.tmp = some f' := by
  rcases step_cases s e with hstep | hmove
  · rw [hstep] at hs hf
    exact .inl ⟨hs, hf⟩
  · generalize (s.step e).1 = r at hmove
    generalize (s.step e).2 = s' at hmove hs hf
    cases hmove with
    | createTmp hst =>
        obtain rfl := Option.some.inj hf
        exact .inr (.inl ⟨_, rfl⟩)
    | writeTmp hst =>
        obtain ⟨f', hf', rfl⟩ := Option.map_eq_some_iff.mp hf
        obtain ⟨rfl, -⟩ := FetchStage.writing.inj hs
        exact .inr (.inr ⟨_, _, f', rfl, hst, hf'⟩)
    | fail err => contradiction
    | same _ _ => contradiction
    | answer _ => contradiction
    | differs _ _ => contradiction
    | createDir _ => contradiction
    | rename _ _ => contradiction

/-- What a call knows, given the bodies served so far: the body in hand is one of
them, and the temporary file holds what has been written of it. -/
structure Writes (bodies : List (List UInt8)) (s : Fetcher) : Prop where
  body : ∀ body, s.stage.body = some body → body ∈ bodies
  tmp : ∀ body left, s.stage = .writing body left →
    ∃ f, s.tmp = some f ∧ f.content ++ left = body

/-- A call that is not at work knows nothing. -/
theorem writes_idle (bodies : List (List UInt8)) (s : Fetcher) :
    Writes bodies { s with stage := .idle } :=
  ⟨fun _ h => by contradiction, fun _ _ h => by contradiction⟩

theorem Writes.mono {bodies bodies' : List (List UInt8)} {s : Fetcher} (h : Writes bodies s)
    (hsub : bodies ⊆ bodies') : Writes bodies' s :=
  ⟨fun body hb => hsub (h.body body hb), h.tmp⟩

/-- The body that an operation brings in. -/
def servedBy : FetchEvent → List (List UInt8)
  | .answer (.ok body) => [body]
  | _ => []

theorem Writes.step {bodies : List (List UInt8)} {s : Fetcher} (h : Writes bodies s)
    (e : FetchEvent) : Writes (bodies ++ servedBy e) (s.step e).2 := by
  have hold : ∀ body, s.stage.body = some body → body ∈ bodies ++ servedBy e :=
    fun body hb => List.mem_append_left _ (h.body body hb)
  rcases step_cases s e with hs | hmove
  · rw [hs]
    exact ⟨hold, h.tmp⟩
  · generalize (s.step e).1 = r at hmove
    generalize (s.step e).2 = s' at hmove
    cases hmove with
    | fail err => exact writes_idle _ s
    | same _ _ => exact writes_idle _ s
    | answer _ =>
        refine ⟨fun body hb => ?_, fun _ _ hst => by contradiction⟩
        rw [← Option.some.inj hb]
        simp [servedBy]
    | differs hst _ =>
        refine ⟨fun body hb => hold body ?_, fun _ _ hst => by contradiction⟩
        rw [hst]
        exact hb
    | createDir hst =>
        refine ⟨fun body hb => hold body ?_, fun _ _ hst => by contradiction⟩
        rw [hst]
        exact hb
    | createTmp hst =>
        refine ⟨fun body hb => hold body ?_, fun body left hw => ?_⟩
        · rw [hst]
          exact hb
        · obtain ⟨rfl, rfl⟩ := FetchStage.writing.inj hw
          exact ⟨_, rfl, rfl⟩
    | writeTmp hst =>
        refine ⟨fun body hb => hold body ?_, fun body left hw => ?_⟩
        · rw [hst]
          exact hb
        · obtain ⟨rfl, rfl⟩ := FetchStage.writing.inj hw
          obtain ⟨f, hf, hcontent⟩ := h.tmp _ _ hst
          refine ⟨_, by rw [hf]; rfl, ?_⟩
          rw [List.append_assoc, List.take_append_drop]
          exact hcontent
    | rename hst hf => exact writes_idle _ ⟨_, none, .idle⟩

/-- A completed file is the whole body. -/
theorem Writes.content {bodies : List (List UInt8)} {s : Fetcher} (h : Writes bodies s)
    {body : List UInt8} {f : BundleFile} (hs : s.stage = .writing body []) (hf : s.tmp = some f) :
    f.content = body ∧ body ∈ bodies := by
  obtain ⟨f', hf', hcontent⟩ := h.tmp body [] hs
  rw [List.append_nil] at hcontent
  rw [Option.some.inj (hf.symm.trans hf')]
  exact ⟨hcontent, h.body body (by rw [hs]; rfl)⟩

end Fetcher

namespace System

variable {Cr : Type} [Crypto Cr] {src : BundleSource} {p : GateParams} {crypto : Cr}

/-- The file in place is the first one, or one that was put there. -/
theorem file_run {f₀ : Option BundleFile} {proc : Proc Cr} {es : List SystemEvent} {f : BundleFile}
    (h : (run (step src p crypto) ⟨f₀, proc⟩ es).file = some f) : f₀ = some f ∨ .replace f ∈ es := by
  revert h
  refine run_history (step src p crypto) (s := ⟨f₀, proc⟩)
    (I := fun es s => s.file = some f → f₀ = some f ∨ .replace f ∈ es) .inl ?_ es
  intro es e ih h
  have hold : (run (step src p crypto) ⟨f₀, proc⟩ es).file = some f →
      f₀ = some f ∨ .replace f ∈ es ++ [e] :=
    fun hf => (ih hf).imp_right (List.mem_append_left _)
  rcases step_cases src p crypto (run (step src p crypto) ⟨f₀, proc⟩ es) e with
    ⟨f', rfl, hs⟩ | ⟨-, hs⟩ | hs | ⟨proc', -, hs⟩
  · rw [hs] at h
    obtain rfl := Option.some.inj h
    exact .inr (List.mem_append_right _ (List.mem_singleton_self _))
  · rw [hs] at h
    contradiction
  · rw [hs] at h
    exact hold h
  · rw [hs] at h
    exact hold h

end System

/-! ## The process and its pulls -/

/-- The process and the bundle file, with the temporary file and the call of
`fetch_bundle` that the process is in.  `fetched` says that the call which
`main` makes has returned `Ok`, and `main` is about to load the bundle. -/
structure Puller (Cr : Type) where
  sys : System Cr
  tmp : Option BundleFile
  stage : FetchStage
  fetched : Bool

inductive PullEvent where
  | fetch (e : FetchEvent)
  /-- Everything else; `replace` and `remove` are other writers. -/
  | sys (e : SystemEvent)

/-- The time that an operation gives to the temporary file. -/
def PullEvent.time : PullEvent → Option Nat
  | .fetch (.createTmp _ now) => some now
  | .fetch (.writeTmp _ now) => some now
  | _ => none

namespace Puller

/-- No process runs; an earlier one may have left a temporary file behind. -/
def init {Cr : Type} (f₀ tmp₀ : Option BundleFile) : Puller Cr :=
  ⟨⟨f₀, .stopped⟩, tmp₀, .idle, false⟩

section

variable {Cr : Type}

def fetcher (s : Puller Cr) : Fetcher := ⟨s.sys.file, s.tmp, s.stage⟩

/-- What the call of `fetch_bundle` returns at this event. -/
def outcome (s : Puller Cr) : PullEvent → Option (Except String Bool)
  | .fetch e => if s.fetched then none else (s.fetcher.step e).1
  | .sys _ => none

/-- An operation of `fetch_bundle`.  Between the call of `main` and the start of
the threads there is none. -/
def fetchStep (s : Puller Cr) (e : FetchEvent) : Puller Cr :=
  if s.fetched then s else
  let (outcome, f) := s.fetcher.step e
  { sys := { s.sys with file := f.dest }
    tmp := f.tmp
    stage := f.stage
    fetched :=
      match s.sys.proc, outcome with
      | .stopped, some (.ok _) => true
      | _, _ => false }

end

variable {Cr : Type} [Crypto Cr] (src : BundleSource) (p : GateParams) (crypto : Cr)

/-- One step.  `main` loads the bundle after its own call has returned `Ok`, and a
process that stops takes its call along. -/
def step (s : Puller Cr) : PullEvent → Puller Cr
  | .fetch e => s.fetchStep e
  | .sys .start =>
      if s.fetched then { s with sys := s.sys.step src p crypto .start, fetched := false } else s
  | .sys .stop =>
      { s with sys := s.sys.step src p crypto .stop, stage := .idle, fetched := false }
  | .sys e => { s with sys := s.sys.step src p crypto e }

/-- What an event means for the process and the file of
`SpaDevice.Lifecycle`. -/
def systemEvent (s : Puller Cr) : PullEvent → Option SystemEvent
  | .fetch e =>
      match s.outcome (.fetch e), s.tmp with
      | some (.ok true), some f => some (.replace f)
      | _, _ => none
  | .sys .start => if s.fetched then some .start else none
  | .sys e => some e

/-- The events of a run as the process and the file see them. -/
def systemEvents (s : Puller Cr) (es : List PullEvent) : List SystemEvent :=
  record (step src p crypto) systemEvent s es

/-! ## What one event does -/

section

omit [Crypto Cr]

/-- An operation of a call, when there may be one. -/
theorem fetchStep_of_not_fetched {s : Puller Cr} (h : s.fetched = false) (e : FetchEvent) :
    s.fetchStep e =
      { sys := { s.sys with file := (s.fetcher.step e).2.dest }
        tmp := (s.fetcher.step e).2.tmp
        stage := (s.fetcher.step e).2.stage
        fetched :=
          match s.sys.proc, s.outcome (.fetch e) with
          | .stopped, some (.ok _) => true
          | _, _ => false } := by
  simp [fetchStep, outcome, h]

theorem fetchStep_of_fetched {s : Puller Cr} (h : s.fetched = true) (e : FetchEvent) :
    s.fetchStep e = s := by
  simp [fetchStep, h]

/-- What an operation of a call means outside. -/
theorem systemEvent_fetch {s : Puller Cr} (h : s.fetched = false) (e : FetchEvent) :
    (∃ body f, e = .rename (.ok ()) ∧ s.stage = .writing body [] ∧ s.tmp = some f ∧
      s.systemEvent (.fetch e) = some (.replace f) ∧ (s.fetchStep e).stage = .idle) ∨
    s.systemEvent (.fetch e) = none := by
  have hev : s.systemEvent (.fetch e) =
      match (s.fetcher.step e).1, s.tmp with
      | some (.ok true), some f => some (.replace f)
      | _, _ => none := by
    simp [systemEvent, outcome, h]
  rw [hev, fetchStep_of_not_fetched h]
  rcases Fetcher.dest_step s.fetcher e with ⟨body, f, rfl, hst, htmp, hstep⟩ | ⟨hno, -⟩
  · rw [hstep, show s.tmp = some f from htmp]
    exact .inl ⟨body, f, rfl, hst, rfl, rfl, rfl⟩
  · right
    split
    · next heq _ => exact absurd heq hno
    · rfl

end

variable {src p crypto}

/-- **A pull is a replacement of the file or invisible**: every event moves the
process and the file as `systemEvent` says. -/
theorem sys_step (s : Puller Cr) (e : PullEvent) :
    (s.step src p crypto e).sys = (s.systemEvent e).elim s.sys (s.sys.step src p crypto) := by
  match e with
  | .fetch e =>
      cases hf : s.fetched with
      | true =>
          rw [step, fetchStep_of_fetched hf]
          simp [systemEvent, outcome, hf]
      | false =>
          have hout : s.outcome (.fetch e) = (s.fetcher.step e).1 := by simp [outcome, hf]
          rw [step, fetchStep_of_not_fetched hf, systemEvent, hout]
          rcases Fetcher.dest_step s.fetcher e with ⟨body, f, -, -, htmp, hstep⟩ | ⟨hno, hdest⟩
          · rw [hstep, show s.tmp = some f from htmp]
            rfl
          · dsimp only
            rw [hdest]
            split
            · next heq _ => exact absurd heq hno
            · rfl
  | .sys .start =>
      by_cases hf : s.fetched = true
      · simp [step, systemEvent, hf]
      · simp [step, systemEvent, hf]
  | .sys .stop => rfl
  | .sys (.replace f) => rfl
  | .sys .remove => rfl
  | .sys .firstMetadata => rfl
  | .sys .pollMetadata => rfl
  | .sys (.pollLoad order) => rfl
  | .sys (.traffic t) => rfl

/-- A run of the puller is a run of the process and the file. -/
theorem sys_run (s : Puller Cr) (es : List PullEvent) :
    (run (step src p crypto) s es).sys =
      run (System.step src p crypto) s.sys (s.systemEvents src p crypto es) :=
  run_record sys sys_step s es

/-! ## Whole files only -/

/-- The bodies that the control plane has served. -/
def bodies (es : List PullEvent) : List (List UInt8) :=
  es.flatMap fun
    | .fetch e => Fetcher.servedBy e
    | .sys _ => []

theorem mem_bodies_iff {es : List PullEvent} {body : List UInt8} :
    body ∈ bodies es ↔ .fetch (.answer (.ok body)) ∈ es := by
  rw [bodies, List.mem_flatMap]
  constructor
  · rintro ⟨e, he, hbody⟩
    match e with
    | .fetch (.answer (.ok b)) =>
        obtain rfl := List.mem_singleton.mp hbody
        exact he
  · exact fun he => ⟨_, he, List.mem_singleton_self body⟩

/-- What the call in progress knows survives every event. -/
theorem writes_step {bs : List (List UInt8)} {s : Puller Cr} (h : s.fetcher.Writes bs)
    (e : PullEvent) : (s.step src p crypto e).fetcher.Writes (bs ++ bodies [e]) := by
  have hold : s.fetcher.Writes (bs ++ bodies [e]) := h.mono (List.subset_append_left _ _)
  match e with
  | .fetch e =>
      cases hf : s.fetched with
      | true =>
          rw [step, fetchStep_of_fetched hf]
          exact hold
      | false =>
          rw [step, fetchStep_of_not_fetched hf]
          have hstep := h.step e
          rw [show bodies [.fetch e] = Fetcher.servedBy e from List.append_nil _]
          exact hstep
  | .sys .start =>
      unfold step
      dsimp only
      split
      · exact ⟨hold.body, hold.tmp⟩
      · exact hold
  | .sys .stop => exact Fetcher.writes_idle _ ⟨_, s.tmp, .idle⟩
  | .sys (.replace f) => exact ⟨hold.body, hold.tmp⟩
  | .sys .remove => exact ⟨hold.body, hold.tmp⟩
  | .sys .firstMetadata => exact ⟨hold.body, hold.tmp⟩
  | .sys .pollMetadata => exact ⟨hold.body, hold.tmp⟩
  | .sys (.pollLoad order) => exact ⟨hold.body, hold.tmp⟩
  | .sys (.traffic t) => exact ⟨hold.body, hold.tmp⟩

theorem writes_run (f₀ tmp₀ : Option BundleFile) (es : List PullEvent) :
    (run (step src p crypto) (init f₀ tmp₀) es).fetcher.Writes (bodies es) := by
  refine run_history (step src p crypto) (s := init f₀ tmp₀)
    (I := fun es s => s.fetcher.Writes (bodies es)) ?_ ?_ es
  · exact Fetcher.writes_idle _ ⟨f₀, tmp₀, .idle⟩
  · intro es e h
    rw [show bodies (es ++ [e]) = bodies es ++ bodies [e] from List.flatMap_append]
    exact writes_step h e

omit [Crypto Cr] in
/-- A replacement is another writer's, or the rename of a complete body. -/
theorem systemEvent_eq_replace {bs : List (List UInt8)} {s : Puller Cr} (h : s.fetcher.Writes bs)
    {e : PullEvent} {f : BundleFile} (he : s.systemEvent e = some (.replace f)) :
    e = .sys (.replace f) ∨
      (e = .fetch (.rename (.ok ())) ∧ s.stage = .writing f.content [] ∧ f.content ∈ bs) := by
  match e with
  | .fetch e =>
      cases hf : s.fetched with
      | true => simp [systemEvent, outcome, hf] at he
      | false =>
          rcases systemEvent_fetch hf e with ⟨body, f', rfl, hst, htmp, hev, -⟩ | hnone
          · rw [hev] at he
            obtain rfl := SystemEvent.replace.inj (Option.some.inj he)
            obtain ⟨hcontent, hmem⟩ := h.content hst htmp
            rw [hcontent]
            exact .inr ⟨rfl, hst, hmem⟩
          · rw [hnone] at he
            contradiction
  | .sys .start =>
      unfold systemEvent at he
      dsimp only at he
      split at he
      · simp at he
      · contradiction
  | .sys (.replace f') => exact .inl (congrArg PullEvent.sys (Option.some.inj he))

/-- **The bundle file is only ever replaced as a whole**: in every interleaving of
pulls with the watcher, the traffic, other writers and stops of the process,
also in the middle of a write, the process and the file behave as in a run of
the process alone in which each pull is one atomic replacement or nothing; every
such replacement puts a body in place that the control plane served, and so the
file that any reader meets is the first one, another writer's, or a complete
body. -/
theorem pulls_replace_whole_files (src : BundleSource) (p : GateParams) (crypto : Cr)
    (f₀ tmp₀ : Option BundleFile) (es : List PullEvent) :
    let s := run (step src p crypto) (init f₀ tmp₀) es
    let events := (init f₀ tmp₀).systemEvents src p crypto es
    s.sys = run (System.step src p crypto) ⟨f₀, .stopped⟩ events ∧
    (∀ f, .replace f ∈ events →
      .sys (.replace f) ∈ es ∨ .fetch (.answer (.ok f.content)) ∈ es) ∧
    (∀ f, s.sys.file = some f →
      f₀ = some f ∨ .sys (.replace f) ∈ es ∨ .fetch (.answer (.ok f.content)) ∈ es) := by
  intro s events
  have hsys : s.sys = run (System.step src p crypto) ⟨f₀, .stopped⟩ events :=
    sys_run (init f₀ tmp₀) es
  have hwhole : ∀ f, .replace f ∈ events →
      .sys (.replace f) ∈ es ∨ .fetch (.answer (.ok f.content)) ∈ es := by
    intro f hf
    obtain ⟨before, e, after, rfl, he⟩ := mem_record_iff.mp hf
    rcases systemEvent_eq_replace (writes_run f₀ tmp₀ before) he with rfl | ⟨-, -, hbody⟩
    · exact .inl (List.mem_append_right _ List.mem_cons_self)
    · exact .inr (List.mem_append_left _ (mem_bodies_iff.mp hbody))
  refine ⟨hsys, hwhole, fun f hf => ?_⟩
  rw [hsys] at hf
  rcases System.file_run hf with h | h
  · exact .inl h
  · exact .inr (hwhole f h)

end Puller

end SpaDevice
