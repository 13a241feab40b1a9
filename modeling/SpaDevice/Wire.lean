import SpaDevice.Bytes

/-!
# SpaDevice.Wire

The wire format of `spa-common`: the `Authorization` that travels inside a
knock, its encoder and its bounds-checked decoder.

```
version(1) | nonce(16) | timestamp(8, BE ns) | gate_id(16)
  | key_thumbprint(32) | port_count(1) | ports(2*count, BE) | signature(64)
```

The decoder is written over a forward-only `Reader` as in the source.  Each
of its operations gets a pair of lemmas: what it returned was the front of
the unread bytes (`_sound`), and it succeeds whenever an encoding is in front
(`_append`).  `decode_sound` and `decode_encode` thread them through the
whole format.
-/

namespace SpaDevice

/-- Wire-format version (`VERSION`). -/
def version : UInt8 := 1

abbrev nonceLen : Nat := 16
abbrev gateIdLen : Nat := 16
abbrev thumbprintLen : Nat := 32
abbrev sigLen : Nat := 64

/-- Upper bound on the ports of one knock (`MAX_PORTS`). -/
def maxPorts : Nat := 8

abbrev Nonce := ByteArr nonceLen
abbrev GateId := ByteArr gateIdLen
abbrev Thumbprint := ByteArr thumbprintLen
abbrev Sig := ByteArr sigLen

/-- Errors from decoding untrusted input. -/
inductive WireError where
  | tooShort
  | badVersion (v : UInt8)
  | badSuite (b : UInt8)
  | badPortCount (n : Nat)
  | trailingBytes
deriving DecidableEq, Repr

/-- Cipher suite selector, carried in the outer envelope. -/
inductive Suite where
  | fips
  | modern
deriving DecidableEq, Repr

namespace Suite

def toByte : Suite → UInt8
  | .fips => 0x01
  | .modern => 0x02

def fromByte (b : UInt8) : Except WireError Suite :=
  if b = 0x01 then .ok .fips
  else if b = 0x02 then .ok .modern
  else .error (.badSuite b)

@[simp] theorem fromByte_toByte (s : Suite) : fromByte s.toByte = .ok s := by
  cases s <;> rfl

/-- Only a suite's own byte reads as that suite. -/
theorem toByte_of_fromByte {b : UInt8} {s : Suite} (h : fromByte b = .ok s) : b = s.toByte := by
  unfold fromByte at h
  split at h
  · next hb => rw [← Except.ok.inj h]; exact hb
  · split at h
    · next hb => rw [← Except.ok.inj h]; exact hb
    · contradiction

end Suite

/-- The authorization carried inside the encrypted knock. -/
structure Authorization where
  nonce : Nonce
  timestampNanos : UInt64
  gateId : GateId
  keyThumbprint : Thumbprint
  ports : List UInt16
  signature : Sig
deriving DecidableEq

/-! ## Encoding -/

/-- The ports in wire order. -/
def portsBytes (ports : List UInt16) : List UInt8 := ports.flatMap u16Bytes

@[simp] theorem length_portsBytes (ports : List UInt16) :
    (portsBytes ports).length = 2 * ports.length := by
  induction ports with
  | nil => rfl
  | cons p ports ih =>
      have hcons : portsBytes (p :: ports) = u16Bytes p ++ portsBytes ports := rfl
      rw [hcons, List.length_append, ih, length_u16Bytes, List.length_cons]
      omega

/-- The port section determines the ports. -/
theorem portsBytes_inj {ps qs : List UInt16} (h : portsBytes ps = portsBytes qs) : ps = qs := by
  have hlen : ps.length = qs.length := by
    have := congrArg List.length h
    rw [length_portsBytes, length_portsBytes] at this
    omega
  induction ps generalizing qs with
  | nil => exact (List.eq_nil_of_length_eq_zero hlen.symm).symm
  | cons p ps ih =>
      cases qs with
      | nil => exact absurd hlen (Nat.succ_ne_zero _)
      | cons q qs =>
          have hcons : u16Bytes p ++ portsBytes ps = u16Bytes q ++ portsBytes qs := h
          obtain ⟨hp, hps⟩ := List.append_inj hcons (by simp)
          have hpq : p = q := by rw [← u16OfBe_u16Bytes p, hp, u16OfBe_u16Bytes]
          rw [hpq, ih hps (Nat.succ.inj hlen)]

namespace Authorization

/-- The bytes of the signing region, whatever the number of ports. -/
def signingRegion (a : Authorization) : List UInt8 :=
  [version] ++ a.nonce.val ++ u64Bytes a.timestampNanos ++ a.gateId.val ++
    a.keyThumbprint.val ++ [UInt8.ofNat a.ports.length] ++ portsBytes a.ports

/-- The exact bytes a signer signs and a verifier checks: the full encoding
minus the trailing signature. -/
def signingBytes (a : Authorization) : Except WireError (List UInt8) :=
  if a.ports.length = 0 ∨ a.ports.length > maxPorts then
    .error (.badPortCount a.ports.length)
  else
    .ok a.signingRegion

/-- Full plaintext encoding: the signing region followed by the signature. -/
def encode (a : Authorization) : Except WireError (List UInt8) := do
  let out ← a.signingBytes
  return out ++ a.signature.val

end Authorization

/-! ## The reader -/

/-- A forward-only reader; the position never passes the end. -/
structure Reader where
  buf : List UInt8
  pos : Nat
  pos_le : pos ≤ buf.length

namespace Reader

/-- Operations of the reader: they advance it or fail. -/
abbrev M := StateT Reader (Except WireError)

def new (buf : List UInt8) : Reader := ⟨buf, 0, Nat.zero_le _⟩

/-- The bytes not read yet. -/
def rest (r : Reader) : List UInt8 := r.buf.drop r.pos

/-- The slice of the next `n` bytes.  The source's `checked_add` cannot fail
here: a position is at most the length of a buffer in memory. -/
def take (n : Nat) : M (ByteArr n) := fun r =>
  if h : r.pos + n ≤ r.buf.length then
    .ok (⟨r.rest.take n, by rw [rest, List.length_take, List.length_drop]; omega⟩,
      ⟨r.buf, r.pos + n, h⟩)
  else
    .error .tooShort

def u8 : M UInt8 := do
  let b ← take 1
  return b.val.headD 0

def u16 : M UInt16 := do
  let b ← take 2
  return u16OfBe b.val

def u64 : M UInt64 := do
  let b ← take 8
  return u64OfBe b.val

def array (n : Nat) : M (ByteArr n) := take n

def remaining : M Nat := fun r => .ok (r.buf.length - r.pos, r)

/-- The `for _ in 0..count` loop of the decoder. -/
def ports : Nat → M (List UInt16)
  | 0 => return []
  | n + 1 => do
      let p ← u16
      let ps ← ports n
      return p :: ps

end Reader

namespace Authorization

/-- The body of `decode`, as a program of the reader. -/
def decodeM : Reader.M Authorization := do
  let v ← Reader.u8
  if v ≠ version then throw (.badVersion v) else do
  let nonce ← Reader.array nonceLen
  let timestampNanos ← Reader.u64
  let gateId ← Reader.array gateIdLen
  let keyThumbprint ← Reader.array thumbprintLen
  let count ← Reader.u8
  if count.toNat = 0 ∨ count.toNat > maxPorts then throw (.badPortCount count.toNat) else do
  let ports ← Reader.ports count.toNat
  let signature ← Reader.array sigLen
  let left ← Reader.remaining
  if left ≠ 0 then throw .trailingBytes else
  return { nonce, timestampNanos, gateId, keyThumbprint, ports, signature }

/-- Parse a decrypted plaintext, rejecting any malformed, truncated or
over-long input. -/
def decode (buf : List UInt8) : Except WireError Authorization := do
  let (a, _) ← decodeM (Reader.new buf)
  return a

end Authorization

/-! ## The reader's operations -/

namespace Reader

/-- A successful sequence splits at its first operation. -/
theorem bind_eq_ok {x : M α} {f : α → M β} {r r'' : Reader} {b : β}
    (h : (x >>= f) r = .ok (b, r'')) :
    ∃ a r', x r = .ok (a, r') ∧ f a r' = .ok (b, r'') := by
  change (x r >>= fun p => f p.1 p.2) = .ok (b, r'') at h
  cases hx : x r with
  | error e => rw [hx] at h; contradiction
  | ok p => rw [hx] at h; exact ⟨p.1, p.2, rfl, h⟩

/-- Running a sequence whose first operation succeeds. -/
theorem bind_of_ok {x : M α} {f : α → M β} {r r' : Reader} {a : α} (h : x r = .ok (a, r')) :
    (x >>= f) r = f a r' := by
  change (x r >>= fun p => f p.1 p.2) = f a r'
  rw [h]; rfl

theorem length_rest (r : Reader) : r.rest.length = r.buf.length - r.pos := by
  rw [rest, List.length_drop]

/-- `take` succeeds exactly when enough bytes are left. -/
theorem take_of_le {r : Reader} (h : n ≤ r.rest.length) :
    ∃ b r', take n r = .ok (b, r') ∧ r.rest = b.val ++ r'.rest := by
  have hle := r.pos_le
  have hn : r.pos + n ≤ r.buf.length := by rw [length_rest] at h; omega
  refine ⟨_, _, dif_pos hn, ?_⟩
  change r.rest = r.rest.take n ++ r.buf.drop (r.pos + n)
  rw [← List.drop_drop]
  exact (List.take_append_drop n r.rest).symm

theorem take_of_lt {r : Reader} (h : r.rest.length < n) : take n r = .error .tooShort := by
  have hn : ¬ r.pos + n ≤ r.buf.length := by rw [length_rest] at h; have := r.pos_le; omega
  exact dif_neg hn

/-- What `take` returned was the front of the unread bytes. -/
theorem take_sound {r r' : Reader} {b : ByteArr n} (h : take n r = .ok (b, r')) :
    r.rest = b.val ++ r'.rest := by
  rcases Nat.lt_or_ge r.rest.length n with hlt | hle
  · rw [take_of_lt hlt] at h; contradiction
  · obtain ⟨b', r'', htake, hrest⟩ := take_of_le hle
    rw [htake] at h
    obtain ⟨rfl, rfl⟩ := Prod.mk.inj (Except.ok.inj h)
    exact hrest

/-- `take` reads back what is in front of the buffer. -/
theorem take_append {r : Reader} {b : ByteArr n} (h : r.rest = b.val ++ tl) :
    ∃ r', take n r = .ok (b, r') ∧ r'.rest = tl := by
  have hle : n ≤ r.rest.length := by rw [h, List.length_append, b.property]; omega
  obtain ⟨b', r', htake, hrest⟩ := take_of_le hle
  rw [h] at hrest
  obtain ⟨hb, htl⟩ := List.append_inj hrest (by rw [b.property, b'.property])
  refine ⟨r', ?_, htl.symm⟩
  rw [htake, Subtype.ext hb]

theorem array_sound {r r' : Reader} {b : ByteArr n} (h : array n r = .ok (b, r')) :
    r.rest = b.val ++ r'.rest := take_sound h

theorem array_append {r : Reader} {b : ByteArr n} (h : r.rest = b.val ++ tl) :
    ∃ r', array n r = .ok (b, r') ∧ r'.rest = tl := take_append h

theorem u8_sound {r r' : Reader} {v : UInt8} (h : u8 r = .ok (v, r')) : r.rest = [v] ++ r'.rest := by
  obtain ⟨b, r1, hb, hv⟩ := bind_eq_ok h
  obtain ⟨w, hw⟩ := List.length_eq_one_iff.mp b.property
  obtain ⟨rfl, rfl⟩ := Prod.mk.inj (Except.ok.inj hv)
  rw [take_sound hb, hw, List.headD_cons]

theorem u8_append {r : Reader} {v : UInt8} (h : r.rest = [v] ++ tl) :
    ∃ r', u8 r = .ok (v, r') ∧ r'.rest = tl := by
  obtain ⟨r', hr', htl⟩ := take_append (b := (⟨[v], rfl⟩ : ByteArr 1)) h
  exact ⟨r', bind_of_ok hr', htl⟩

theorem u16_sound {r r' : Reader} {p : UInt16} (h : u16 r = .ok (p, r')) :
    r.rest = u16Bytes p ++ r'.rest := by
  obtain ⟨b, r1, hb, hp⟩ := bind_eq_ok h
  obtain ⟨rfl, rfl⟩ := Prod.mk.inj (Except.ok.inj hp)
  rw [take_sound hb, u16Bytes_u16OfBe b.property]

theorem u16_append {r : Reader} {p : UInt16} (h : r.rest = u16Bytes p ++ tl) :
    ∃ r', u16 r = .ok (p, r') ∧ r'.rest = tl := by
  obtain ⟨r', hr', htl⟩ := take_append (b := (⟨u16Bytes p, length_u16Bytes p⟩ : ByteArr 2)) h
  refine ⟨r', ?_, htl⟩
  rw [u16, bind_of_ok hr', u16OfBe_u16Bytes]
  rfl

theorem u64_sound {r r' : Reader} {v : UInt64} (h : u64 r = .ok (v, r')) :
    r.rest = u64Bytes v ++ r'.rest := by
  obtain ⟨b, r1, hb, hv⟩ := bind_eq_ok h
  obtain ⟨rfl, rfl⟩ := Prod.mk.inj (Except.ok.inj hv)
  rw [take_sound hb, u64Bytes_u64OfBe b.property]

theorem u64_append {r : Reader} {v : UInt64} (h : r.rest = u64Bytes v ++ tl) :
    ∃ r', u64 r = .ok (v, r') ∧ r'.rest = tl := by
  obtain ⟨r', hr', htl⟩ := take_append (b := (⟨u64Bytes v, length_u64Bytes v⟩ : ByteArr 8)) h
  refine ⟨r', ?_, htl⟩
  rw [u64, bind_of_ok hr', u64OfBe_u64Bytes]
  rfl

/-- The port loop reads exactly `n` ports. -/
theorem ports_sound {r r' : Reader} {ps : List UInt16} (h : ports n r = .ok (ps, r')) :
    ps.length = n ∧ r.rest = portsBytes ps ++ r'.rest := by
  induction n generalizing r r' ps with
  | zero =>
      obtain ⟨rfl, rfl⟩ := Prod.mk.inj (Except.ok.inj h)
      exact ⟨rfl, rfl⟩
  | succ n ih =>
      obtain ⟨p, r1, hp, h⟩ := bind_eq_ok h
      obtain ⟨ps', r2, hps, h⟩ := bind_eq_ok h
      obtain ⟨hlen, hrest⟩ := ih hps
      obtain ⟨rfl, rfl⟩ := Prod.mk.inj (Except.ok.inj h)
      have hcons : portsBytes (p :: ps') = u16Bytes p ++ portsBytes ps' := rfl
      rw [hcons, u16_sound hp, hrest, List.append_assoc]
      exact ⟨by rw [List.length_cons, hlen], rfl⟩

theorem ports_append {r : Reader} {ps : List UInt16} (h : r.rest = portsBytes ps ++ tl) :
    ∃ r', ports ps.length r = .ok (ps, r') ∧ r'.rest = tl := by
  induction ps generalizing r with
  | nil => exact ⟨r, rfl, h⟩
  | cons p ps ih =>
      have hcons : portsBytes (p :: ps) = u16Bytes p ++ portsBytes ps := rfl
      rw [hcons, List.append_assoc] at h
      obtain ⟨r1, hr1, htl1⟩ := u16_append h
      obtain ⟨r2, hr2, htl2⟩ := ih htl1
      refine ⟨r2, ?_, htl2⟩
      rw [List.length_cons, ports, bind_of_ok hr1, bind_of_ok hr2]
      rfl

end Reader

/-! ## The format as a whole -/

namespace Authorization

theorem signingBytes_eq_ok_iff (a : Authorization) (bs : List UInt8) :
    a.signingBytes = .ok bs ↔
      (1 ≤ a.ports.length ∧ a.ports.length ≤ maxPorts) ∧ bs = a.signingRegion := by
  unfold signingBytes
  split
  · next h => simp only [reduceCtorEq, false_iff]; omega
  · next h =>
      simp only [Except.ok.injEq, eq_comm]
      constructor
      · intro hbs; exact ⟨by omega, hbs⟩
      · intro hbs; exact hbs.2

theorem encode_eq_ok_iff (a : Authorization) (bs : List UInt8) :
    a.encode = .ok bs ↔
      (1 ≤ a.ports.length ∧ a.ports.length ≤ maxPorts) ∧ bs = a.signingRegion ++ a.signature.val := by
  unfold encode
  cases hs : a.signingBytes with
  | error e =>
      have hn : ¬ (1 ≤ a.ports.length ∧ a.ports.length ≤ maxPorts) := by
        intro hok
        rw [(signingBytes_eq_ok_iff a a.signingRegion).mpr ⟨hok, rfl⟩] at hs
        contradiction
      constructor
      · intro h; contradiction
      · intro h; exact absurd h.1 hn
  | ok out =>
      obtain ⟨hok, hout⟩ := (signingBytes_eq_ok_iff a out).mp hs
      constructor
      · intro h
        have hb : out ++ a.signature.val = bs := Except.ok.inj h
        exact ⟨hok, by rw [← hb, hout]⟩
      · intro h
        rw [h.2, ← hout]; rfl

/-- The signing region is 74 bytes and the ports. -/
theorem length_signingRegion (a : Authorization) :
    a.signingRegion.length = 74 + 2 * a.ports.length := by
  simp only [signingRegion, List.length_append, List.length_singleton, length_u64Bytes,
    length_portsBytes, a.nonce.property, a.gateId.property, a.keyThumbprint.property,
    nonceLen, gateIdLen, thumbprintLen]

/-- **Injectivity**: the signing region determines every field it covers. -/
theorem signingRegion_inj {a b : Authorization} (h : a.signingRegion = b.signingRegion) :
    a.nonce = b.nonce ∧ a.timestampNanos = b.timestampNanos ∧ a.gateId = b.gateId ∧
      a.keyThumbprint = b.keyThumbprint ∧ a.ports = b.ports := by
  simp only [signingRegion, List.append_assoc] at h
  obtain ⟨-, h⟩ := List.append_inj h rfl
  obtain ⟨hnonce, h⟩ := List.append_inj h (by rw [a.nonce.property, b.nonce.property])
  obtain ⟨hts, h⟩ := List.append_inj h (by simp)
  obtain ⟨hgate, h⟩ := List.append_inj h (by rw [a.gateId.property, b.gateId.property])
  obtain ⟨hthumb, h⟩ := List.append_inj h
    (by rw [a.keyThumbprint.property, b.keyThumbprint.property])
  obtain ⟨-, hports⟩ := List.append_inj h rfl
  have hts' : a.timestampNanos = b.timestampNanos := by
    rw [← u64OfBe_u64Bytes a.timestampNanos, hts, u64OfBe_u64Bytes]
  exact ⟨Subtype.ext hnonce, hts', Subtype.ext hgate, Subtype.ext hthumb, portsBytes_inj hports⟩

theorem decode_eq_ok {buf : List UInt8} {a : Authorization} (h : decode buf = .ok a) :
    ∃ r', decodeM (Reader.new buf) = .ok (a, r') := by
  unfold decode at h
  cases hm : decodeM (Reader.new buf) with
  | error e => rw [hm] at h; contradiction
  | ok p =>
      rw [hm] at h
      have ha : p.1 = a := Except.ok.inj h
      exact ⟨p.2, by rw [← ha]⟩

/-- A guard that lets the decoder go on did not fire. -/
theorem guard_eq_ok {c : Prop} [Decidable c] {e : WireError} {f : Reader.M α} {r r' : Reader} {a : α}
    (h : (if c then throw e else f) r = .ok (a, r')) : ¬ c ∧ f r = .ok (a, r') := by
  by_cases hc : c
  · rw [if_pos hc] at h
    contradiction
  · rw [if_neg hc] at h
    exact ⟨hc, h⟩

/-- **Soundness**: whatever the decoder accepts is the encoding of its
result. -/
theorem decode_sound {buf : List UInt8} {a : Authorization} (h : decode buf = .ok a) :
    a.encode = .ok buf := by
  obtain ⟨r', h⟩ := decode_eq_ok h
  obtain ⟨v, r1, hv, h⟩ := Reader.bind_eq_ok h
  obtain ⟨hver, h⟩ := guard_eq_ok h
  obtain ⟨nonce, r2, hnonce, h⟩ := Reader.bind_eq_ok h
  obtain ⟨ts, r3, hts, h⟩ := Reader.bind_eq_ok h
  obtain ⟨gate, r4, hgate, h⟩ := Reader.bind_eq_ok h
  obtain ⟨thumb, r5, hthumb, h⟩ := Reader.bind_eq_ok h
  obtain ⟨count, r6, hcount, h⟩ := Reader.bind_eq_ok h
  obtain ⟨hbounds, h⟩ := guard_eq_ok h
  obtain ⟨ports, r7, hports, h⟩ := Reader.bind_eq_ok h
  obtain ⟨sig, r8, hsig, h⟩ := Reader.bind_eq_ok h
  obtain ⟨left, r9, hleft, h⟩ := Reader.bind_eq_ok h
  obtain ⟨hzero, h⟩ := guard_eq_ok h
  obtain ⟨rfl, rfl⟩ := Prod.mk.inj (Except.ok.inj h)
  obtain ⟨rfl, rfl⟩ := Prod.mk.inj (Except.ok.inj hleft)
  obtain ⟨hlen, hportsRest⟩ := Reader.ports_sound hports
  have hend : r8.rest = [] := by
    apply List.eq_nil_of_length_eq_zero
    rw [Reader.length_rest]
    exact not_not.mp hzero
  have hcountByte : UInt8.ofNat ports.length = count := by
    rw [hlen]; exact UInt8.ofNat_toNat
  have hbuf : buf = (Reader.new buf).rest := rfl
  rw [encode_eq_ok_iff]
  refine ⟨by dsimp only; omega, ?_⟩
  rw [hbuf, Reader.u8_sound hv, not_not.mp hver, Reader.array_sound hnonce, Reader.u64_sound hts,
    Reader.array_sound hgate, Reader.array_sound hthumb, Reader.u8_sound hcount, hportsRest,
    Reader.array_sound hsig, hend]
  simp [signingRegion, hcountByte]

/-- **Roundtrip**: decoding undoes encoding. -/
theorem decode_encode {buf : List UInt8} {a : Authorization} (h : a.encode = .ok buf) :
    decode buf = .ok a := by
  obtain ⟨hports, hbuf⟩ := (encode_eq_ok_iff a buf).mp h
  have hrest : (Reader.new buf).rest = [version] ++ (a.nonce.val ++ (u64Bytes a.timestampNanos ++
      (a.gateId.val ++ (a.keyThumbprint.val ++ ([UInt8.ofNat a.ports.length] ++
        (portsBytes a.ports ++ (a.signature.val ++ []))))))) := by
    change buf = _
    rw [hbuf]
    simp [signingRegion]
  have hmax : a.ports.length ≤ 8 := hports.2
  have hbounds : ¬ (a.ports.length = 0 ∨ a.ports.length > maxPorts) := by omega
  have hcount : (UInt8.ofNat a.ports.length).toNat = a.ports.length := by
    simp only [UInt8.toNat_ofNat']
    omega
  obtain ⟨r1, h1, t1⟩ := Reader.u8_append hrest
  obtain ⟨r2, h2, t2⟩ := Reader.array_append t1
  obtain ⟨r3, h3, t3⟩ := Reader.u64_append t2
  obtain ⟨r4, h4, t4⟩ := Reader.array_append t3
  obtain ⟨r5, h5, t5⟩ := Reader.array_append t4
  obtain ⟨r6, h6, t6⟩ := Reader.u8_append t5
  obtain ⟨r7, h7, t7⟩ := Reader.ports_append t6
  obtain ⟨r8, h8, t8⟩ := Reader.array_append t7
  have hleft : r8.buf.length - r8.pos = 0 := by rw [← Reader.length_rest, t8]; rfl
  have hM : decodeM (Reader.new buf) = .ok (a, r8) := by
    unfold decodeM
    rw [Reader.bind_of_ok h1, if_neg (by simp), Reader.bind_of_ok h2, Reader.bind_of_ok h3,
      Reader.bind_of_ok h4, Reader.bind_of_ok h5, Reader.bind_of_ok h6, hcount,
      if_neg hbounds, Reader.bind_of_ok h7, Reader.bind_of_ok h8, Reader.bind_of_ok rfl,
      if_neg (not_not.mpr hleft)]
    rfl
  unfold decode
  rw [hM]; rfl

/-- **Canonicity**: the decoder accepts a byte string exactly as the encoding
of its result.  So every authorization with 1 to 8 ports, and no other, makes
the roundtrip, and it is decoded from one byte string only. -/
theorem decode_ok_iff_encode_ok (buf : List UInt8) (a : Authorization) :
    (decode buf = .ok a ↔ a.encode = .ok buf) ∧
      ((1 ≤ a.ports.length ∧ a.ports.length ≤ maxPorts) ↔
        ∃ b, a.encode = .ok b ∧ decode b = .ok a) ∧
      (∀ b₁ b₂, decode b₁ = .ok a → decode b₂ = .ok a → b₁ = b₂) := by
  refine ⟨⟨decode_sound, decode_encode⟩, ⟨?_, ?_⟩, ?_⟩
  · intro hports
    have henc := (encode_eq_ok_iff a _).mpr ⟨hports, rfl⟩
    exact ⟨_, henc, decode_encode henc⟩
  · intro ⟨b, henc, _⟩
    exact ((encode_eq_ok_iff a b).mp henc).1
  · intro b₁ b₂ h₁ h₂
    have h : Except.ok b₁ = Except.ok b₂ := (decode_sound h₁).symm.trans (decode_sound h₂)
    exact Except.ok.inj h

end Authorization

end SpaDevice
