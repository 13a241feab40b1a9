import Mathlib.Data.Finmap
import Mathlib.Data.Finset.Sort
import Mathlib.Data.List.Forall2

/-!
# SpaDevice.Dict

Finite maps, as hash tables use them: `Dict` is Mathlib's `Finmap` at a
constant value type, with the operations a hash table adds to it (`retain`,
building from a list of entries), and `BoundedDict` is a finite map that
carries the proof that it never exceeds its capacity.

Every operation is characterised by what it does to `lookup` and `keys`;
later proofs use those equations and never look at the entries.
-/

namespace SpaDevice

/-- A finite map from `K` to `V`. -/
abbrev Dict (K V : Type) := Finmap (fun _ : K => V)

namespace Dict

variable {K V : Type} [DecidableEq K]

/-- `lookup` after `insert`, at any key. -/
theorem lookup_insert_eq (m : Dict K V) (k k' : K) (v : V) :
    (m.insert k v).lookup k' = if k' = k then some v else m.lookup k' := by
  by_cases h : k' = k
  · rw [if_pos h, h, Finmap.lookup_insert]
  · rw [if_neg h, Finmap.lookup_insert_of_ne _ h]

/-- `lookup` after `erase`, at any key. -/
theorem lookup_erase_eq (m : Dict K V) (k k' : K) :
    (m.erase k).lookup k' = if k' = k then none else m.lookup k' := by
  by_cases h : k' = k
  · rw [if_pos h, h, Finmap.lookup_erase]
  · rw [if_neg h, Finmap.lookup_erase_ne h]

theorem mem_keys_iff (m : Dict K V) (k : K) : k ∈ m.keys ↔ ∃ v, m.lookup k = some v := by
  rw [Finmap.mem_keys, Finmap.mem_iff]

theorem keys_insert (m : Dict K V) (k : K) (v : V) : (m.insert k v).keys = insert k m.keys := by
  ext k'
  rw [Finmap.mem_keys, Finmap.mem_insert, Finset.mem_insert, Finmap.mem_keys]

/-! ## retain -/

/-- Keep only the entries that satisfy `p` (`HashMap::retain`). -/
def retain (m : Dict K V) (p : K → V → Bool) : Dict K V where
  entries := m.entries.filter fun e => p e.1 e.2
  nodupKeys := Multiset.nodup_keys.mp
    (Multiset.nodup_of_le (Multiset.map_le_map (Multiset.filter_le _ _))
      (Multiset.nodup_keys.mpr m.nodupKeys))

/-- `retain` filters each key's value. -/
@[simp] theorem lookup_retain (m : Dict K V) (p : K → V → Bool) (k : K) :
    (m.retain p).lookup k = (m.lookup k).filter (p k) := by
  ext v
  rw [Finmap.lookup_eq_some_iff, Option.filter_eq_some_iff, Finmap.lookup_eq_some_iff]
  simp [retain]

/-! ## Building a map from a list of entries -/

/-- Insert a list of entries one after the other into an empty map. -/
def ofEntries (es : List (K × V)) : Dict K V :=
  es.foldl (fun m e => m.insert e.1 e.2) ∅

theorem ofEntries_concat (es : List (K × V)) (e : K × V) :
    ofEntries (es ++ [e]) = (ofEntries es).insert e.1 e.2 := by
  simp [ofEntries]

/-- The last entry of a key wins. -/
theorem lookup_ofEntries (es : List (K × V)) (k : K) :
    (ofEntries es).lookup k = (es.reverse.find? (·.1 = k)).map Prod.snd := by
  induction es using List.reverseRecOn with
  | nil => rfl
  | append_singleton es e ih =>
      rw [ofEntries_concat, lookup_insert_eq, ih, List.reverse_concat, List.find?_cons]
      by_cases h : k = e.1
      · simp [h]
      · have h' : ¬ e.1 = k := fun he => h he.symm
        simp [h, h']

/-- An entry whose key does not come again is found. -/
theorem lookup_ofEntries_append_cons (es : List (K × V)) {e : K × V} {es' : List (K × V)}
    (h : ∀ e' ∈ es', e'.1 ≠ e.1) : (ofEntries (es ++ e :: es')).lookup e.1 = some e.2 := by
  have hnone : es'.reverse.find? (fun e' => e'.1 = e.1) = none := by
    rw [List.find?_eq_none]
    exact fun e' he' => by simpa using h e' (List.mem_reverse.mp he')
  rw [lookup_ofEntries, List.reverse_append, List.reverse_cons, List.append_assoc,
    List.find?_append, hnone]
  simp

end Dict

/-! ## Maps of lists that correspond -/

section

variable {α β γ : Type} {R : α → β → Prop} {S : β → γ → Prop}

theorem forall₂_comp {xs : List α} {ys : List β} {zs : List γ} (h : List.Forall₂ R xs ys)
    (h' : List.Forall₂ S ys zs) : List.Forall₂ (fun x z => ∃ y, R x y ∧ S y z) xs zs := by
  induction h generalizing zs with
  | nil => cases h'; exact .nil
  | cons hxy _ ih =>
      cases h' with
      | cons hyz htail => exact .cons ⟨_, hxy, hyz⟩ (ih htail)

theorem exists_left_of_forall₂ {xs : List α} {ys : List β} (h : List.Forall₂ R xs ys) {y : β}
    (hy : y ∈ ys) : ∃ x ∈ xs, R x y := by
  induction h with
  | nil => contradiction
  | cons hxy _ ih =>
      rcases List.mem_cons.mp hy with rfl | hy
      · exact ⟨_, List.mem_cons_self, hxy⟩
      · obtain ⟨x, hx, hxy⟩ := ih hy
        exact ⟨x, List.mem_cons_of_mem _ hx, hxy⟩

/-- A member in the middle has its counterpart there. -/
theorem forall₂_append_cons {xs : List α} {x : α} {xs' : List α} {ys : List β}
    (h : List.Forall₂ R (xs ++ x :: xs') ys) :
    ∃ ys₁ y ys₂, ys = ys₁ ++ y :: ys₂ ∧ R x y ∧ List.Forall₂ R xs' ys₂ := by
  induction xs generalizing ys with
  | nil =>
      cases h with
      | cons hxy htail => exact ⟨[], _, _, rfl, hxy, htail⟩
  | cons a xs ih =>
      cases h with
      | cons hab htail =>
          obtain ⟨ys₁, y, ys₂, rfl, hxy, hrest⟩ := ih htail
          exact ⟨_ :: ys₁, y, ys₂, rfl, hxy, hrest⟩

/-- The map of a list that corresponds to another one: the entry of a member is found
when no later member has its key. -/
theorem Dict.lookup_of_forall₂ {K V : Type} [DecidableEq K] {entry : β → K × V} {xs xs' : List α}
    {x : α} {ys : List β} (h : List.Forall₂ R (xs ++ x :: xs') ys) {k : K} {v : V}
    (hx : ∀ y, R x y → entry y = (k, v)) (hlater : ∀ x' ∈ xs', ∀ y, R x' y → (entry y).1 ≠ k) :
    (ofEntries (ys.map entry)).lookup k = some v := by
  obtain ⟨ys₁, y, ys₂, rfl, hxy, hrest⟩ := forall₂_append_cons h
  have hnot : ∀ e ∈ ys₂.map entry, e.1 ≠ (entry y).1 := by
    intro e he
    obtain ⟨y', hy', rfl⟩ := List.mem_map.mp he
    obtain ⟨x', hx', hxy'⟩ := exists_left_of_forall₂ hrest hy'
    rw [hx y hxy]
    exact hlater x' hx' y' hxy'
  have hfound := lookup_ofEntries_append_cons (ys₁.map entry) hnot
  rw [hx y hxy] at hfound
  rwa [List.map_append, List.map_cons, hx y hxy]

end

/-! ## Iterating over a hash set -/

/-- An order in which a hash set of `α` may be walked: every set is listed
without repetition, in no particular order. -/
structure IterOrder (α : Type) [DecidableEq α] where
  list : Finset α → List α
  nodup : ∀ s, (list s).Nodup
  toFinset_list : ∀ s, (list s).toFinset = s

/-- Walking the set in the order of a numeric key. -/
def IterOrder.sortedBy {α : Type} [DecidableEq α] (key : α → Nat) (hkey : Function.Injective key) :
    IterOrder α :=
  let _ : LinearOrder α := LinearOrder.lift' key hkey
  { list := fun s => s.sort (· ≤ ·)
    nodup := fun s => s.sort_nodup (· ≤ ·)
    toFinset_list := fun s => s.sort_toFinset (· ≤ ·) }

/-! ## Maps of bounded capacity -/

/-- A finite map that holds at most `cap` keys. -/
structure BoundedDict (K V : Type) (cap : Nat) where
  toDict : Dict K V
  card_le : toDict.keys.card ≤ cap

namespace BoundedDict

variable {K V : Type} [DecidableEq K] {cap : Nat}

def empty : BoundedDict K V cap := ⟨∅, by simp⟩

def get (m : BoundedDict K V cap) (k : K) : Option V := m.toDict.lookup k

def keys (m : BoundedDict K V cap) : Finset K := m.toDict.keys

/-- There is room to write key `k`: it is present already, or the map is
not full. -/
def Fits (m : BoundedDict K V cap) (k : K) : Prop := k ∈ m.keys ∨ m.keys.card < cap

instance (m : BoundedDict K V cap) (k : K) : Decidable (m.Fits k) :=
  inferInstanceAs (Decidable (_ ∨ _))

theorem card_insert_le {m : BoundedDict K V cap} {k : K} (h : m.Fits k) (v : V) :
    (m.toDict.insert k v).keys.card ≤ cap := by
  rw [Dict.keys_insert]
  rcases h with h | h
  · have hk : k ∈ m.toDict.keys := h
    rw [Finset.insert_eq_of_mem hk]
    exact m.card_le
  · exact (Finset.card_insert_le _ _).trans h

/-- Write `k`; `none` when `k` is a new key of a full map. -/
def insert? (m : BoundedDict K V cap) (k : K) (v : V) : Option (BoundedDict K V cap) :=
  if h : m.Fits k then some ⟨m.toDict.insert k v, card_insert_le h v⟩ else none

/-- Write `k` and ignore a failure. -/
def insertOrKeep (m : BoundedDict K V cap) (k : K) (v : V) : BoundedDict K V cap :=
  (m.insert? k v).getD m

/-- Remove `k`; removing an absent key changes nothing. -/
def erase (m : BoundedDict K V cap) (k : K) : BoundedDict K V cap :=
  ⟨m.toDict.erase k, by
    rw [Finmap.keys_erase]
    exact (Finset.card_erase_le).trans m.card_le⟩

theorem mem_keys_iff (m : BoundedDict K V cap) (k : K) : k ∈ m.keys ↔ ∃ v, m.get k = some v :=
  Dict.mem_keys_iff m.toDict k

@[simp] theorem get_empty (k : K) : (empty : BoundedDict K V cap).get k = none := rfl

omit [DecidableEq K] in
@[simp] theorem keys_empty : (empty : BoundedDict K V cap).keys = ∅ := rfl

theorem insert?_eq_some {m : BoundedDict K V cap} {k : K} (h : m.Fits k) (v : V) :
    ∃ m' : BoundedDict K V cap, m.insert? k v = some m' ∧ m'.keys = insert k m.keys ∧
      ∀ k', m'.get k' = if k' = k then some v else m.get k' := by
  refine ⟨⟨m.toDict.insert k v, card_insert_le h v⟩, ?_, ?_, ?_⟩
  · rw [insert?, dif_pos h]
  · exact Dict.keys_insert m.toDict k v
  · intro k'
    exact Dict.lookup_insert_eq m.toDict k k' v

theorem insert?_eq_none_iff (m : BoundedDict K V cap) (k : K) (v : V) :
    m.insert? k v = none ↔ ¬ m.Fits k := by
  unfold insert?
  split <;> simp_all

/-- A write that has no room leaves the map as it was. -/
theorem insertOrKeep_of_not_fits {m : BoundedDict K V cap} {k : K} (h : ¬ m.Fits k) (v : V) :
    m.insertOrKeep k v = m := by
  rw [insertOrKeep, (insert?_eq_none_iff m k v).mpr h, Option.getD_none]

/-- `get` after a write that may fail. -/
theorem get_insertOrKeep (m : BoundedDict K V cap) (k k' : K) (v : V) :
    (m.insertOrKeep k v).get k' = if m.Fits k ∧ k' = k then some v else m.get k' := by
  by_cases h : m.Fits k
  · obtain ⟨m', hm', -, hget⟩ := insert?_eq_some h v
    rw [insertOrKeep, hm', Option.getD_some, hget]
    simp [h]
  · rw [insertOrKeep_of_not_fits h]
    simp [h]

/-- The keys after a write that may fail. -/
theorem keys_insertOrKeep (m : BoundedDict K V cap) (k : K) (v : V) :
    (m.insertOrKeep k v).keys = if m.Fits k then insert k m.keys else m.keys := by
  by_cases h : m.Fits k
  · obtain ⟨m', hm', hkeys, -⟩ := insert?_eq_some h v
    rw [insertOrKeep, hm', Option.getD_some, hkeys, if_pos h]
  · rw [insertOrKeep_of_not_fits h, if_neg h]

theorem keys_erase (m : BoundedDict K V cap) (k : K) : (m.erase k).keys = m.keys.erase k :=
  Finmap.keys_erase k m.toDict

/-! ### Bulk writes and removals -/

/-- Write one value at every key of a list, ignoring failures. -/
def insertAll (m : BoundedDict K V cap) (ks : List K) (v : V) : BoundedDict K V cap :=
  ks.foldl (fun m k => m.insertOrKeep k v) m

/-- Remove every key of a list. -/
def eraseAll (m : BoundedDict K V cap) (ks : List K) : BoundedDict K V cap :=
  ks.foldl (fun m k => m.erase k) m

theorem keys_eraseAll (m : BoundedDict K V cap) (ks : List K) :
    (m.eraseAll ks).keys = m.keys \ ks.toFinset := by
  induction ks generalizing m with
  | nil => simp [eraseAll]
  | cons k ks ih =>
      have hstep : m.eraseAll (k :: ks) = (m.erase k).eraseAll ks := rfl
      rw [hstep, ih, keys_erase]
      ext k'
      simp only [Finset.mem_sdiff, Finset.mem_erase, List.mem_toFinset, List.mem_cons]
      tauto

/-- Writing never removes a key. -/
theorem keys_subset_insertAll (m : BoundedDict K V cap) (ks : List K) (v : V) :
    m.keys ⊆ (m.insertAll ks v).keys := by
  induction ks generalizing m with
  | nil => exact Finset.Subset.refl _
  | cons k ks ih =>
      refine Finset.Subset.trans ?_ (ih (m.insertOrKeep k v))
      rw [keys_insertOrKeep]
      split
      · exact Finset.subset_insert k m.keys
      · exact Finset.Subset.refl _

/-- Writing a list of keys adds no key outside the list. -/
theorem keys_insertAll_subset (m : BoundedDict K V cap) (ks : List K) (v : V) :
    (m.insertAll ks v).keys ⊆ m.keys ∪ ks.toFinset := by
  induction ks generalizing m with
  | nil => simp [insertAll]
  | cons k ks ih =>
      refine Finset.Subset.trans (ih (m.insertOrKeep k v)) ?_
      rw [keys_insertOrKeep]
      intro k'
      split <;> simp only [Finset.mem_union, Finset.mem_insert, List.mem_toFinset,
        List.mem_cons] <;> tauto

theorem fits_of_card_insert_le {m : BoundedDict K V cap} {k : K}
    (h : (insert k m.keys).card ≤ cap) : m.Fits k := by
  by_cases hk : k ∈ m.keys
  · exact Or.inl hk
  · rw [Finset.card_insert_of_notMem hk] at h
    exact Or.inr h

/-- When everything fits together, every key of the list is written. -/
theorem keys_insertAll_of_le (m : BoundedDict K V cap) (ks : List K) (v : V)
    (h : (m.keys ∪ ks.toFinset).card ≤ cap) :
    (m.insertAll ks v).keys = m.keys ∪ ks.toFinset := by
  induction ks generalizing m with
  | nil => simp [insertAll]
  | cons k ks ih =>
      have hunion : m.keys ∪ (k :: ks).toFinset = insert k m.keys ∪ ks.toFinset := by
        rw [List.toFinset_cons, Finset.union_insert, Finset.insert_union]
      have hins : (insert k m.keys).card ≤ cap := by
        rw [hunion] at h
        exact (Finset.card_le_card Finset.subset_union_left).trans h
      have hfits : m.Fits k := fits_of_card_insert_le hins
      have hkeys : (m.insertOrKeep k v).keys = insert k m.keys := by
        rw [keys_insertOrKeep, if_pos hfits]
      have hstep : m.insertAll (k :: ks) v = (m.insertOrKeep k v).insertAll ks v := rfl
      rw [hstep, ih, hkeys, hunion]
      rw [hkeys, ← hunion]
      exact h

/-- Every key of the list is written exactly when everything fits
together. -/
theorem keys_insertAll_eq_iff (m : BoundedDict K V cap) (ks : List K) (v : V) :
    (m.insertAll ks v).keys = m.keys ∪ ks.toFinset ↔ (m.keys ∪ ks.toFinset).card ≤ cap := by
  constructor
  · intro h
    rw [← h]
    exact (m.insertAll ks v).card_le
  · exact keys_insertAll_of_le m ks v

/-- Write one value at every key of a list; `none` as soon as a write
fails. -/
def insertEach? (m : BoundedDict K V cap) (ks : List K) (v : V) : Option (BoundedDict K V cap) :=
  ks.foldlM (fun m k => m.insert? k v) m

/-- When every write succeeded, every key is there. -/
theorem keys_of_insertEach? {m m' : BoundedDict K V cap} {ks : List K} {v : V}
    (h : m.insertEach? ks v = some m') : m'.keys = m.keys ∪ ks.toFinset := by
  induction ks generalizing m with
  | nil =>
      rw [← Option.some.inj h]
      simp
  | cons k ks ih =>
      rw [insertEach?, List.foldlM_cons, Option.bind_eq_bind, Option.bind_eq_some_iff] at h
      obtain ⟨m₁, hm₁, htail⟩ := h
      have hfits : m.Fits k := by
        by_contra hn
        rw [(insert?_eq_none_iff m k v).mpr hn] at hm₁
        contradiction
      obtain ⟨m₂, hm₂, hkeys, -⟩ := insert?_eq_some hfits v
      have hm : m₂ = m₁ := Option.some.inj (hm₂.symm.trans hm₁)
      rw [ih htail, ← hm, hkeys, List.toFinset_cons, Finset.union_insert, Finset.insert_union]

/-- All writes succeed when everything fits together. -/
theorem insertEach?_eq_some {m : BoundedDict K V cap} {ks : List K} {v : V}
    (h : (m.keys ∪ ks.toFinset).card ≤ cap) : ∃ m', m.insertEach? ks v = some m' := by
  induction ks generalizing m with
  | nil => exact ⟨m, rfl⟩
  | cons k ks ih =>
      have hunion : m.keys ∪ (k :: ks).toFinset = insert k m.keys ∪ ks.toFinset := by
        rw [List.toFinset_cons, Finset.union_insert, Finset.insert_union]
      rw [hunion] at h
      obtain ⟨m₁, hm₁, hkeys, -⟩ := insert?_eq_some (fits_of_card_insert_le
        ((Finset.card_le_card Finset.subset_union_left).trans h)) v
      rw [← hkeys] at h
      obtain ⟨m', hm'⟩ := ih h
      refine ⟨m', ?_⟩
      rw [insertEach?, List.foldlM_cons, hm₁]
      exact hm'

end BoundedDict

end SpaDevice
