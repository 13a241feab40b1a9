import SpaDevice.Wire

/-!
# SpaDevice.Malformed

Which error the decoder gives to which malformed input.

`malformed` reads the verdict off the bytes alone: the version byte, the
count byte at offset 73 and the length that count calls for.  The decoder
gets there through nine reads, any of which can be the one that fails;
`Reader.Consumes` says what all of them have in common, so that the reads
between two checks count as one.
-/

namespace SpaDevice

namespace Reader

/-! ## Reads of a fixed width -/

/-- `x` reads exactly `n` bytes: with fewer left it is too short, otherwise
it moves past them. -/
structure Consumes (x : M α) (n : Nat) : Prop where
  short : ∀ r : Reader, r.rest.length < n → x r = .error .tooShort
  moves : ∀ r : Reader, n ≤ r.rest.length → ∃ a r', x r = .ok (a, r') ∧ r'.rest = r.rest.drop n

theorem bind_of_error {x : M α} {f : α → M β} {r : Reader} {e : WireError} (h : x r = .error e) :
    (x >>= f) r = .error e := by
  change (x r >>= fun p => f p.1 p.2) = .error e
  rw [h]; rfl

theorem consumes_pure (a : α) : Consumes (pure a : M α) 0 where
  short _ h := absurd h (Nat.not_lt_zero _)
  moves r _ := ⟨a, r, rfl, rfl⟩

theorem consumes_take (n : Nat) : Consumes (take n) n where
  short _ h := take_of_lt h
  moves r h := by
    obtain ⟨b, r', htake, hrest⟩ := take_of_le h
    refine ⟨b, r', htake, ?_⟩
    rw [hrest, List.drop_append_of_le_length (by rw [b.property]), List.drop_of_length_le
      (by rw [b.property]), List.nil_append]

/-- Two reads in a row are one read of both widths. -/
theorem Consumes.bind {x : M α} {f : α → M β} (hx : Consumes x n) (hf : ∀ a, Consumes (f a) m) :
    Consumes (x >>= f) (n + m) where
  short r h := by
    rcases Nat.lt_or_ge r.rest.length n with hlt | hle
    · exact bind_of_error (hx.short r hlt)
    · obtain ⟨a, r', hr', hrest⟩ := hx.moves r hle
      rw [bind_of_ok hr']
      apply (hf a).short
      rw [hrest, List.length_drop]
      omega
  moves r h := by
    obtain ⟨a, r', hr', hrest⟩ := hx.moves r (by omega)
    obtain ⟨b, r'', hr'', hrest'⟩ := (hf a).moves r' (by rw [hrest, List.length_drop]; omega)
    refine ⟨b, r'', ?_, ?_⟩
    · rw [bind_of_ok hr', hr'']
    · rw [hrest', hrest, List.drop_drop]

theorem consumes_u16 : Consumes u16 2 := (consumes_take 2).bind fun _ => consumes_pure _

theorem consumes_u64 : Consumes u64 8 := (consumes_take 8).bind fun _ => consumes_pure _

/-- The port loop reads two bytes a port. -/
theorem consumes_ports (n : Nat) : Consumes (ports n) (2 * n) := by
  induction n with
  | zero => exact consumes_pure []
  | succ n ih =>
      have hwidth : 2 * (n + 1) = 2 + (2 * n + 0) := by omega
      rw [hwidth]
      exact consumes_u16.bind fun p => ih.bind fun ps => consumes_pure (p :: ps)

/-- A byte is the head of what is left. -/
theorem u8_of_rest {r : Reader} :
    (r.rest = [] ∧ u8 r = .error .tooShort) ∨
      ∃ b r', r.rest = b :: r'.rest ∧ u8 r = .ok (b, r') := by
  cases hrest : r.rest with
  | nil =>
      refine .inl ⟨rfl, bind_of_error (take_of_lt ?_)⟩
      rw [hrest]
      exact Nat.zero_lt_one
  | cons b tl =>
      obtain ⟨r', hr', htl⟩ := u8_append (v := b) hrest
      exact .inr ⟨b, r', by rw [htl], hr'⟩

end Reader

namespace Authorization

/-! ## The decoder in three parts -/

/-- The fields between the version and the port count. -/
def headM : Reader.M (Nonce × UInt64 × GateId × Thumbprint) := do
  let nonce ← Reader.array nonceLen
  let timestampNanos ← Reader.u64
  let gateId ← Reader.array gateIdLen
  let keyThumbprint ← Reader.array thumbprintLen
  return (nonce, timestampNanos, gateId, keyThumbprint)

/-- The fields after the port count. -/
def tailM (count : Nat) : Reader.M (List UInt16 × Sig) := do
  let ports ← Reader.ports count
  let signature ← Reader.array sigLen
  return (ports, signature)

/-- The decoder after the port count: the last fields, and the check that
nothing is left. -/
def endM (count : Nat) (f : List UInt16 × Sig → Authorization) : Reader.M Authorization := do
  let tail ← tailM count
  let left ← Reader.remaining
  if left ≠ 0 then throw .trailingBytes else return f tail

/-- The decoder from the port count on. -/
def countM (f : List UInt16 × Sig → Authorization) : Reader.M Authorization := do
  let count ← Reader.u8
  if count.toNat = 0 ∨ count.toNat > maxPorts then throw (.badPortCount count.toNat)
  else endM count.toNat f

theorem consumes_headM : Reader.Consumes headM 72 :=
  (Reader.consumes_take 16).bind (m := 56) fun _ =>
    Reader.consumes_u64.bind (m := 48) fun _ =>
      (Reader.consumes_take 16).bind (m := 32) fun _ =>
        (Reader.consumes_take 32).bind (m := 0) fun _ => Reader.consumes_pure _

theorem consumes_tailM (count : Nat) : Reader.Consumes (tailM count) (2 * count + 64) :=
  (Reader.consumes_ports count).bind fun _ =>
    (Reader.consumes_take 64).bind (m := 0) fun _ => Reader.consumes_pure _

/-- `decodeM` is two checked bytes, each followed by a read of fixed width,
and the check that nothing is left. -/
theorem decodeM_eq : decodeM = (do
    let v ← Reader.u8
    if v ≠ version then throw (.badVersion v) else do
    let head ← headM
    countM fun tail =>
      { nonce := head.1, timestampNanos := head.2.1, gateId := head.2.2.1,
        keyThumbprint := head.2.2.2, ports := tail.1, signature := tail.2 }) := by
  simp only [decodeM, headM, countM, endM, tailM, bind_assoc, pure_bind]

/-! ## The error of a malformed input -/

/-- What is wrong with a byte string, if anything: the first check it fails
in the order of the format. -/
def malformed (buf : List UInt8) : Option WireError :=
  match buf[0]? with
  | none => some .tooShort
  | some v =>
      if v ≠ version then some (.badVersion v)
      else match buf[73]? with
        | none => some .tooShort
        | some c =>
            if c.toNat = 0 ∨ c.toNat > maxPorts then some (.badPortCount c.toNat)
            else if buf.length < 138 + 2 * c.toNat then some .tooShort
            else if 138 + 2 * c.toNat < buf.length then some .trailingBytes
            else none

/-- The result is the error that is named, or a success when none is. -/
def Answers (verdict : Option WireError) (result : Except WireError (Authorization × Reader)) :
    Prop :=
  match verdict with
  | some e => result = .error e
  | none => ∃ a r, result = .ok (a, r)

/-- After the port count the decoder only measures what is left. -/
theorem endM_spec (r : Reader) (n : Nat) (f : List UInt16 × Sig → Authorization) :
    Answers (if r.rest.length < 2 * n + 64 then some .tooShort
      else if 2 * n + 64 < r.rest.length then some .trailingBytes else none) (endM n f r) := by
  have htail := consumes_tailM n
  unfold endM
  split
  · next hlt => exact Reader.bind_of_error (htail.short r hlt)
  · obtain ⟨p, r', hr', hrest⟩ := htail.moves r (by omega)
    have hleft : r'.buf.length - r'.pos = r.rest.length - (2 * n + 64) := by
      rw [← Reader.length_rest, hrest, List.length_drop]
    rw [Reader.bind_of_ok hr', Reader.bind_of_ok rfl, hleft]
    split
    · next hgt =>
        rw [if_pos (by omega)]
        rfl
    · rw [if_neg (by omega)]
      exact ⟨f p, r', rfl⟩

/-- What is wrong with the bytes from the port count on. -/
def malformedFrom (rest : List UInt8) : Option WireError :=
  match rest[0]? with
  | none => some .tooShort
  | some c =>
      if c.toNat = 0 ∨ c.toNat > maxPorts then some (.badPortCount c.toNat)
      else if rest.length < 2 * c.toNat + 65 then some .tooShort
      else if 2 * c.toNat + 65 < rest.length then some .trailingBytes
      else none

theorem malformed_of_version {buf : List UInt8} (h : buf[0]? = some version) :
    malformed buf = malformedFrom (buf.drop 73) := by
  have hindex : (buf.drop 73)[0]? = buf[73]? := by rw [List.getElem?_drop]
  simp only [malformed, malformedFrom, h, hindex, ne_eq, not_true, if_false, List.length_drop]
  cases hcount : buf[73]? with
  | none => rfl
  | some c =>
      obtain ⟨hlt, -⟩ := List.getElem?_eq_some_iff.mp hcount
      have hshort : buf.length - 73 < 2 * c.toNat + 65 ↔ buf.length < 138 + 2 * c.toNat := by omega
      have hlong : 2 * c.toNat + 65 < buf.length - 73 ↔ 138 + 2 * c.toNat < buf.length := by omega
      simp only [hshort, hlong]

theorem malformedFrom_cons (c : UInt8) (rest : List UInt8) :
    malformedFrom (c :: rest) =
      if c.toNat = 0 ∨ c.toNat > maxPorts then some (.badPortCount c.toNat)
      else if rest.length < 2 * c.toNat + 64 then some .tooShort
      else if 2 * c.toNat + 64 < rest.length then some .trailingBytes
      else none := by
  have hlong : 2 * c.toNat + 65 < rest.length + 1 ↔ 2 * c.toNat + 64 < rest.length := by omega
  simp [malformedFrom, hlong]

theorem countM_spec (r : Reader) (f : List UInt16 × Sig → Authorization) :
    Answers (malformedFrom r.rest) (countM f r) := by
  unfold countM
  rcases Reader.u8_of_rest (r := r) with ⟨hnil, herr⟩ | ⟨c, r', hcons, hok⟩
  · rw [hnil]
    exact Reader.bind_of_error herr
  · rw [hcons, malformedFrom_cons, Reader.bind_of_ok hok]
    by_cases hbad : c.toNat = 0 ∨ c.toNat > maxPorts
    · rw [if_pos hbad, if_pos hbad]
      rfl
    · rw [if_neg hbad, if_neg hbad]
      exact endM_spec r' c.toNat f

/-- The decoder fails with the error `malformed` names, and succeeds when it
names none. -/
theorem decodeM_spec (buf : List UInt8) : Answers (malformed buf) (decodeM (Reader.new buf)) := by
  have hnew : (Reader.new buf).rest = buf := rfl
  rw [decodeM_eq]
  rcases Reader.u8_of_rest (r := Reader.new buf) with ⟨hnil, herr⟩ | ⟨v, r1, hcons, hok⟩
  · -- not even a version byte
    rw [hnew] at hnil
    have hmal : malformed buf = some .tooShort := by rw [hnil]; rfl
    rw [hmal]
    exact Reader.bind_of_error herr
  rw [hnew] at hcons
  have hfirst : buf[0]? = some v := by rw [hcons]; rfl
  rw [Reader.bind_of_ok hok]
  by_cases hv : v = version
  case neg =>
    simp only [malformed, hfirst, if_pos hv]
    rfl
  rw [if_neg (not_not.mpr hv), malformed_of_version (by rw [hfirst, hv])]
  have hdrop : buf.drop 73 = r1.rest.drop 72 := by rw [hcons]; rfl
  rw [hdrop]
  rcases Nat.lt_or_ge r1.rest.length 72 with hlt | hle
  · -- the buffer ends before the count byte
    rw [Reader.bind_of_error (consumes_headM.short r1 hlt), List.drop_eq_nil_of_le (by omega)]
    rfl
  · obtain ⟨head, r2, hhead, hrest⟩ := consumes_headM.moves r1 hle
    rw [Reader.bind_of_ok hhead, ← hrest]
    exact countM_spec r2 _

/-- **Classification**: the decoder's error is the one `malformed` names. -/
theorem decode_eq_error_iff (buf : List UInt8) (e : WireError) :
    decode buf = .error e ↔ malformed buf = some e := by
  have hspec := decodeM_spec buf
  unfold decode
  cases hmal : malformed buf with
  | some e' =>
      rw [hmal] at hspec
      rw [show decodeM (Reader.new buf) = .error e' from hspec, Option.some.injEq]
      exact Except.error.injEq (α := Authorization) e' e ▸ Iff.rfl
  | none =>
      rw [hmal] at hspec
      obtain ⟨a, r, hr⟩ := hspec
      rw [hr]
      constructor
      · intro h; contradiction
      · intro h; contradiction

/-! ## Cuts and extensions of an encoding -/

theorem malformed_eq_badVersion_iff (buf : List UInt8) (v : UInt8) :
    malformed buf = some (.badVersion v) ↔ buf[0]? = some v ∧ v ≠ version := by
  cases hfirst : buf[0]? with
  | none => simp [malformed, hfirst]
  | some w =>
      by_cases hw : w = version
      · have hne : malformed buf ≠ some (.badVersion v) := by
          simp only [malformed, hfirst, if_neg (not_not.mpr hw)]
          repeat' split
          all_goals simp
        simp only [hne, false_iff, not_and, not_not, Option.some.injEq]
        rintro rfl
        exact hw
      · simp only [malformed, hfirst, if_pos hw, Option.some.injEq, WireError.badVersion.injEq]
        constructor
        · rintro rfl; exact ⟨rfl, hw⟩
        · intro h; exact h.1

theorem malformed_eq_badPortCount_iff (buf : List UInt8) (n : Nat) :
    malformed buf = some (.badPortCount n) ↔
      buf[0]? = some version ∧ ∃ c, buf[73]? = some c ∧ c.toNat = n ∧ (n = 0 ∨ maxPorts < n) := by
  cases hfirst : buf[0]? with
  | none => simp [malformed, hfirst]
  | some w =>
      by_cases hw : w = version
      case neg => simp [malformed, hfirst, hw]
      simp only [malformed, hfirst, hw, ne_eq, not_true, if_false, true_and]
      cases hcount : buf[73]? with
      | none => simp
      | some c =>
          by_cases hc : c.toNat = 0 ∨ c.toNat > maxPorts
          · simp only [if_pos hc, Option.some.injEq, WireError.badPortCount.injEq]
            constructor
            · rintro rfl; exact ⟨c, rfl, rfl, hc⟩
            · rintro ⟨_, rfl, hn, -⟩; exact hn
          · simp only [if_neg hc, Option.some.injEq]
            constructor
            · intro h; split_ifs at h <;> simp at h
            · rintro ⟨_, rfl, rfl, hn⟩; exact absurd hn hc

/-- What the checks of the decoder see of an encoding. -/
theorem encode_checked {a : Authorization} {b : List UInt8} (h : a.encode = .ok b) :
    b[0]? = some version ∧ b[73]? = some (UInt8.ofNat a.ports.length) ∧
      b.length = 138 + 2 * a.ports.length := by
  obtain ⟨-, rfl⟩ := (encode_eq_ok_iff a b).mp h
  refine ⟨by simp [signingRegion], ?_, ?_⟩
  · have hhead : ([version] ++ a.nonce.val ++ u64Bytes a.timestampNanos ++ a.gateId.val ++
        a.keyThumbprint.val).length = 73 := by
      simp [a.nonce.property, a.gateId.property, a.keyThumbprint.property, nonceLen, gateIdLen,
        thumbprintLen]
    rw [signingRegion, List.append_assoc, List.append_assoc, List.getElem?_append_right (by omega),
      hhead]
    rfl
  · have hsig : a.signature.val.length = 64 := a.signature.property
    rw [List.length_append, length_signingRegion, hsig]
    omega

theorem count_toNat {a : Authorization} (h : a.ports.length ≤ maxPorts) :
    (UInt8.ofNat a.ports.length).toNat = a.ports.length := by
  have h8 : a.ports.length ≤ 8 := h
  simp only [UInt8.toNat_ofNat']
  omega

/-- **Truncation**: a proper prefix of an encoding is too short. -/
theorem malformed_of_cut {a : Authorization} {b p : List UInt8} (h : a.encode = .ok b)
    (hp : p <+: b) (hne : p ≠ b) : malformed p = some .tooShort := by
  obtain ⟨hports, -⟩ := (encode_eq_ok_iff a b).mp h
  obtain ⟨hfirst, hcount, hlen⟩ := encode_checked h
  have hlt : p.length < b.length :=
    Nat.lt_of_le_of_ne hp.length_le fun heq => hne (hp.eq_of_length heq)
  have hread : ∀ i, i < p.length → p[i]? = b[i]? := by
    intro i hi
    obtain ⟨t, rfl⟩ := hp
    exact (List.getElem?_append_left hi).symm
  rcases Nat.eq_zero_or_pos p.length with hzero | hpos
  · rw [List.eq_nil_of_length_eq_zero hzero]; rfl
  have hp0 : p[0]? = some version := by rw [hread 0 hpos, hfirst]
  rcases Nat.lt_or_ge 73 p.length with h73 | h73
  · have hp73 : p[73]? = some (UInt8.ofNat a.ports.length) := by rw [hread 73 h73, hcount]
    have hbounds : ¬ (a.ports.length = 0 ∨ a.ports.length > maxPorts) := by omega
    simp only [malformed, hp0, hp73, count_toNat hports.2, ne_eq, not_true, if_false,
      if_neg hbounds]
    rw [if_pos (by omega)]
  · have hp73 : p[73]? = none := List.getElem?_eq_none h73
    simp only [malformed, hp0, hp73, ne_eq, not_true, if_false]

/-- **Extension**: an encoding with anything after it has trailing bytes. -/
theorem malformed_of_append {a : Authorization} {b t : List UInt8} (h : a.encode = .ok b)
    (ht : t ≠ []) : malformed (b ++ t) = some .trailingBytes := by
  obtain ⟨hports, -⟩ := (encode_eq_ok_iff a b).mp h
  obtain ⟨hfirst, hcount, hlen⟩ := encode_checked h
  have hpos : 0 < t.length := List.length_pos_iff.mpr ht
  have h0 : (b ++ t)[0]? = some version := by rw [List.getElem?_append_left (by omega), hfirst]
  have h73 : (b ++ t)[73]? = some (UInt8.ofNat a.ports.length) := by
    rw [List.getElem?_append_left (by omega), hcount]
  have hbounds : ¬ (a.ports.length = 0 ∨ a.ports.length > maxPorts) := by omega
  simp only [malformed, h0, h73, count_toNat hports.2, ne_eq, not_true, if_false, if_neg hbounds,
    List.length_append]
  rw [if_neg (by omega), if_pos (by omega)]

/-- **Decode errors**: cutting an encoding anywhere makes it too short and
adding to it leaves trailing bytes; a version or a port count is reported
exactly when it is the first thing wrong. -/
theorem decode_error_classes :
    (∀ a : Authorization, 1 ≤ a.ports.length → a.ports.length ≤ maxPorts →
      ∃ b, a.encode = .ok b ∧
        (∀ p, p <+: b → p ≠ b → decode p = .error .tooShort) ∧
        (∀ t, t ≠ [] → decode (b ++ t) = .error .trailingBytes)) ∧
      (∀ (buf : List UInt8) (v : UInt8),
        decode buf = .error (.badVersion v) ↔ buf[0]? = some v ∧ v ≠ version) ∧
      (∀ (buf : List UInt8) (n : Nat),
        decode buf = .error (.badPortCount n) ↔
          buf[0]? = some version ∧
            ∃ c, buf[73]? = some c ∧ c.toNat = n ∧ (n = 0 ∨ maxPorts < n)) := by
  refine ⟨?_, ?_, ?_⟩
  · intro a hlo hhi
    have henc := (encode_eq_ok_iff a _).mpr ⟨⟨hlo, hhi⟩, rfl⟩
    refine ⟨_, henc, ?_, ?_⟩
    · intro p hp hne
      exact (decode_eq_error_iff p _).mpr (malformed_of_cut henc hp hne)
    · intro t ht
      exact (decode_eq_error_iff _ _).mpr (malformed_of_append henc ht)
  · intro buf v
    rw [decode_eq_error_iff, malformed_eq_badVersion_iff]
  · intro buf n
    rw [decode_eq_error_iff, malformed_eq_badPortCount_iff]

/-- A knock for port 22 cut to nothing, and one with a byte too many. -/
theorem decode_error_classes_sample :
    let a : Authorization :=
      { nonce := beArr 16 0, timestampNanos := 0, gateId := beArr 16 1,
        keyThumbprint := beArr 32 0, ports := [22], signature := beArr 64 0 }
    decode [] = .error .tooShort ∧
      ∃ b, a.encode = .ok b ∧ decode (b ++ [0]) = .error .trailingBytes := by
  intro a
  obtain ⟨b, henc, hcut, hadd⟩ := decode_error_classes.1 a (by decide) (by decide)
  refine ⟨hcut [] List.nil_prefix ?_, b, henc, hadd [0] (by simp)⟩
  rintro rfl
  have hlen := (encode_checked henc).2.2
  simp at hlen

end Authorization

end SpaDevice
