import Mathlib.Data.List.Induction
import SpaDevice.Bytes

/-!
# SpaDevice.Grant

The allow-list entry shared by the daemon and the XDP program
(`spa-ebpf-common`), and the loop that packs a port list into it.  The
explicit padding of the C layout carries no meaning and is left out.

The point of the module is `allowsPort_make`: the kernel's scan over the
packed array answers exactly membership in the ports that were packed, the
zeros of the unused slots included.
-/

namespace SpaDevice

/-- Maximum ports a single grant may cover (`MAX_GRANT_PORTS`). -/
def maxGrantPorts : Nat := 8

/-- A source may reach `ports` until `expiryNs`; only the first `portCount`
slots are valid. -/
structure Grant where
  expiryNs : UInt64
  ports : { ps : List UInt16 // ps.length = maxGrantPorts }
  portCount : UInt8
deriving DecidableEq

namespace Grant

/-- True if `port` is in one of the valid slots. -/
def allowsPort (g : Grant) (port : UInt16) : Bool :=
  let n := if g.portCount.toNat > maxGrantPorts then maxGrantPorts else g.portCount.toNat
  (List.range n).any fun i => g.ports.val[i]? == some port

/-- A grant with no ports yet. -/
def blank (expiryNs : UInt64) : Grant :=
  ⟨expiryNs, ⟨List.replicate maxGrantPorts 0, by simp⟩, 0⟩

/-- One round of the packing loop: fill slot `i`, count it. -/
def push (g : Grant) (i : Nat) (p : UInt16) : Grant :=
  { g with ports := ⟨g.ports.val.set i p, by simp [g.ports.property]⟩, portCount := g.portCount + 1 }

/-- Pack the first `maxGrantPorts` ports of a list. -/
def make (expiryNs : UInt64) (ports : List UInt16) : Grant :=
  (ports.take maxGrantPorts).zipIdx.foldl (fun g pi => g.push pi.2 pi.1) (blank expiryNs)

/-! ## The packing loop -/

/-- After packing `qs` the first slots hold exactly `qs`. -/
theorem foldl_push (expiryNs : UInt64) (qs : List UInt16) (h : qs.length ≤ maxGrantPorts) :
    let g := qs.zipIdx.foldl (fun g pi => g.push pi.2 pi.1) (blank expiryNs)
    g.expiryNs = expiryNs ∧ g.ports.val.take qs.length = qs ∧ g.portCount.toNat = qs.length := by
  induction qs using List.reverseRecOn with
  | nil => exact ⟨rfl, rfl, rfl⟩
  | append_singleton qs p ih =>
      have hmax : qs.length < 8 := by
        rw [List.length_append, List.length_singleton] at h; exact h
      obtain ⟨hexp, hports, hcount⟩ := ih (by simp only [maxGrantPorts]; omega)
      rw [List.zipIdx_append, List.foldl_append]
      generalize qs.zipIdx.foldl (fun g pi => g.push pi.2 pi.1) (blank expiryNs) = g at *
      have hlen : g.ports.val.length = 8 := g.ports.property
      refine ⟨hexp, ?_, ?_⟩
      · -- The new slot is the one right after those filled so far.
        have hset : (g.ports.val.set qs.length p).take (qs.length + 1) =
            g.ports.val.take qs.length ++ [p] := by
          rw [List.take_add_one, List.take_set_of_le (Nat.le_refl _),
            List.getElem?_set_self (by omega)]
          rfl
        simpa [push, hports] using hset
      · have hadd : (g.portCount + 1).toNat = qs.length + 1 := by
          rw [UInt8.toNat_add, hcount]
          simp only [UInt8.toNat_one]
          omega
        simpa [push] using hadd

@[simp] theorem expiryNs_make (expiryNs : UInt64) (ports : List UInt16) :
    (make expiryNs ports).expiryNs = expiryNs :=
  (foldl_push expiryNs (ports.take maxGrantPorts) (List.length_take_le _ _)).1

/-- Scanning the first slots of an array is searching its prefix. -/
theorem any_range_getElem? (l : List UInt16) (port : UInt16) (n : Nat) :
    ((List.range n).any fun i => l[i]? == some port) = true ↔ port ∈ l.take n := by
  rw [List.any_eq_true, List.mem_iff_getElem?]
  simp only [List.mem_range, beq_iff_eq, List.getElem?_take]
  constructor
  · rintro ⟨i, hi, h⟩
    exact ⟨i, by rw [if_pos hi]; exact h⟩
  · rintro ⟨i, h⟩
    split at h
    · next hi => exact ⟨i, hi, h⟩
    · contradiction

/-- **The packed grant means its port list**: the scan finds exactly the
ports that were packed. -/
theorem allowsPort_make (expiryNs : UInt64) (ports : List UInt16) (p : UInt16) :
    (make expiryNs ports).allowsPort p = true ↔ p ∈ ports.take maxGrantPorts := by
  have hle : (ports.take maxGrantPorts).length ≤ maxGrantPorts := List.length_take_le _ _
  obtain ⟨-, hports, hcount⟩ := foldl_push expiryNs (ports.take maxGrantPorts) hle
  change (make expiryNs ports).ports.val.take _ = _ at hports
  change (make expiryNs ports).portCount.toNat = _ at hcount
  unfold allowsPort
  rw [hcount, if_neg (by omega), any_range_getElem?, hports]

end Grant

end SpaDevice
