import Mathlib.Data.List.Induction
import Mathlib.Tactic.Ring

/-!
# SpaDevice.Bytes

Byte-list plumbing: fixed-size byte arrays and big-endian numbers of a fixed
width.

Nothing here knows about knocks, bundles or frames; the wire format, the
envelope and the packet parser all read and write through these lemmas, so
none of them redoes list arithmetic.
-/

namespace SpaDevice

/-- A byte array of known length, the model of `[u8; N]`. -/
abbrev ByteArr (n : Nat) := { bs : List UInt8 // bs.length = n }

/-- The array of `n` copies of one byte (`[b; N]`). -/
def ByteArr.fill (n : Nat) (b : UInt8) : ByteArr n := ⟨List.replicate n b, by simp⟩

/-! ## Big-endian numbers -/

/-- The `w` low-order bytes of `v`, most significant first. -/
def toBe : Nat → Nat → List UInt8
  | 0, _ => []
  | w + 1, v => toBe w (v / 256) ++ [UInt8.ofNat v]

/-- The number a big-endian byte list denotes. -/
def ofBe (bs : List UInt8) : Nat := bs.foldl (fun acc b => acc * 256 + b.toNat) 0

@[simp] theorem length_toBe (w v : Nat) : (toBe w v).length = w := by
  induction w generalizing v with
  | zero => rfl
  | succ w ih => simp [toBe, ih]

@[simp] theorem ofBe_nil : ofBe [] = 0 := rfl

@[simp] theorem ofBe_concat (bs : List UInt8) (b : UInt8) :
    ofBe (bs ++ [b]) = ofBe bs * 256 + b.toNat := by
  simp [ofBe]

/-- A `w`-byte list denotes a number below `256 ^ w`. -/
theorem ofBe_lt (bs : List UInt8) : ofBe bs < 256 ^ bs.length := by
  induction bs using List.reverseRecOn with
  | nil => simp
  | append_singleton bs b ih =>
      have hb : b.toNat < 256 := b.toNat_lt
      rw [ofBe_concat, List.length_append, List.length_singleton, Nat.pow_succ]
      omega

/-- Writing `w` bytes keeps the number modulo `256 ^ w`. -/
theorem ofBe_toBe_mod (w v : Nat) : ofBe (toBe w v) = v % 256 ^ w := by
  induction w generalizing v with
  | zero => simp [toBe, Nat.mod_one]
  | succ w ih =>
      have hb : (UInt8.ofNat v).toNat = v % 256 := by simp
      rw [toBe, ofBe_concat, ih, hb, Nat.pow_succ, Nat.mul_comm (256 ^ w) 256,
        Nat.mod_mul]
      ring

/-- Reading back a number that fits its width. -/
theorem ofBe_toBe (h : v < 256 ^ w) : ofBe (toBe w v) = v := by
  rw [ofBe_toBe_mod, Nat.mod_eq_of_lt h]

/-- Re-encoding the number of a byte list gives the list back. -/
theorem toBe_ofBe (bs : List UInt8) : toBe bs.length (ofBe bs) = bs := by
  induction bs using List.reverseRecOn with
  | nil => rfl
  | append_singleton bs b ih =>
      have hb : b.toNat < 256 := b.toNat_lt
      have hdiv : (ofBe bs * 256 + b.toNat) / 256 = ofBe bs := by omega
      have hlow : UInt8.ofNat (ofBe bs * 256 + b.toNat) = b := by
        apply UInt8.toNat_inj.mp
        simp only [UInt8.toNat_ofNat']
        omega
      rw [ofBe_concat, List.length_append, List.length_singleton, toBe, hdiv, ih, hlow]

/-- A number as a fixed-size array. -/
def beArr (w v : Nat) : ByteArr w := ⟨toBe w v, length_toBe w v⟩

/-- Distinct numbers that fit their width give distinct arrays. -/
theorem beArr_inj (hv : v < 256 ^ w) (hv' : v' < 256 ^ w) (h : beArr w v = beArr w v') : v = v' := by
  have hb : toBe w v = toBe w v' := congrArg Subtype.val h
  rw [← ofBe_toBe hv, hb, ofBe_toBe hv']

/-! ## Machine words -/

/-- `u16::to_be_bytes`. -/
def u16Bytes (p : UInt16) : List UInt8 := toBe 2 p.toNat

/-- `u16::from_be_bytes`. -/
def u16OfBe (bs : List UInt8) : UInt16 := UInt16.ofNat (ofBe bs)

/-- `u64::to_be_bytes`. -/
def u64Bytes (v : UInt64) : List UInt8 := toBe 8 v.toNat

/-- `u64::from_be_bytes`. -/
def u64OfBe (bs : List UInt8) : UInt64 := UInt64.ofNat (ofBe bs)

@[simp] theorem length_u16Bytes (p : UInt16) : (u16Bytes p).length = 2 := length_toBe 2 _

@[simp] theorem length_u64Bytes (v : UInt64) : (u64Bytes v).length = 8 := length_toBe 8 _

@[simp] theorem u16OfBe_u16Bytes (p : UInt16) : u16OfBe (u16Bytes p) = p := by
  have hp : p.toNat < 256 ^ 2 := p.toNat_lt
  simp [u16OfBe, u16Bytes, ofBe_toBe hp]

@[simp] theorem u64OfBe_u64Bytes (v : UInt64) : u64OfBe (u64Bytes v) = v := by
  have hv : v.toNat < 256 ^ 8 := v.toNat_lt
  simp [u64OfBe, u64Bytes, ofBe_toBe hv]

/-- Two bytes are the encoding of the word they denote. -/
theorem u16Bytes_u16OfBe (h : bs.length = 2) : u16Bytes (u16OfBe bs) = bs := by
  have hlt : ofBe bs < 2 ^ 16 := by simpa [h] using ofBe_lt bs
  have hn : (u16OfBe bs).toNat = ofBe bs := by
    simp only [u16OfBe, UInt16.toNat_ofNat']
    exact Nat.mod_eq_of_lt hlt
  rw [u16Bytes, hn, ← h]
  exact toBe_ofBe bs

/-- Eight bytes are the encoding of the word they denote. -/
theorem u64Bytes_u64OfBe (h : bs.length = 8) : u64Bytes (u64OfBe bs) = bs := by
  have hlt : ofBe bs < 2 ^ 64 := by simpa [h] using ofBe_lt bs
  have hn : (u64OfBe bs).toNat = ofBe bs := by
    simp only [u64OfBe, UInt64.toNat_ofNat']
    exact Nat.mod_eq_of_lt hlt
  rw [u64Bytes, hn, ← h]
  exact toBe_ofBe bs

/-! ## Text -/

/-- Decoding the UTF-8 bytes of a string, as a list, gives the string back. -/
theorem fromUTF8?_toUTF8_toList (s : String) :
    String.fromUTF8? s.toUTF8.data.toList.toByteArray = some s := by
  have hlist : s.toUTF8.data.toList.toByteArray = s.toByteArray := by
    apply ByteArray.ext
    rw [List.data_toByteArray, Array.toArray_toList]
    rfl
  unfold String.fromUTF8?
  rw [hlist, dif_pos s.isValidUTF8]
  rfl

end SpaDevice
