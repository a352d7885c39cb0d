import Mathlib.Data.List.Nodup

/-!
The `std::collections::HashMap` both services keep behind their locks
(`stored_files` in file_transfer.rs, `entries` in relay_registry.rs), as its
live entries. Buckets, hashing and capacity are absent. Key uniqueness is a
field, so no map with two entries for one key can be built.

A `HashMap` promises no iteration order, so neither does this model: `insert`
puts the new entry first, and every statement proved about `values` holds for
any order of the entries.
-/

set_option autoImplicit false
set_option relaxedAutoImplicit false

namespace ChiralNetwork.Map

/-- The live entries of a map, one per key. -/
structure HashMap (κ ν : Type) where
  entries : List (κ × ν)
  nodup : (entries.map Prod.fst).Nodup

variable {κ ν : Type}

namespace HashMap

/-- `HashMap::new()`. -/
def empty : HashMap κ ν := ⟨[], List.nodup_nil⟩

/-- `HashMap::len`. -/
def len (m : HashMap κ ν) : Nat := m.entries.length

/-- `HashMap::values`, in the map's own order. -/
def values (m : HashMap κ ν) : List ν := m.entries.map Prod.snd

/-- `HashMap::clear`. -/
def clear (_ : HashMap κ ν) : HashMap κ ν := empty

/-- `HashMap::retain`: keep the entries the predicate accepts. -/
def retain (m : HashMap κ ν) (p : κ → ν → Bool) : HashMap κ ν :=
  ⟨m.entries.filter (fun e => p e.1 e.2),
    m.nodup.sublist ((List.filter_sublist m.entries).map Prod.fst)⟩

@[simp] theorem entries_empty : (empty : HashMap κ ν).entries = [] := rfl

@[simp] theorem clear_eq (m : HashMap κ ν) : m.clear = empty := rfl

@[simp] theorem entries_retain (m : HashMap κ ν) (p : κ → ν → Bool) :
    (m.retain p).entries = m.entries.filter (fun e => p e.1 e.2) := rfl

theorem len_retain_le (m : HashMap κ ν) (p : κ → ν → Bool) : (m.retain p).len ≤ m.len :=
  List.length_filter_le _ _

variable [DecidableEq κ]

/-- `HashMap::get`. -/
def get? (m : HashMap κ ν) (k : κ) : Option ν := m.entries.lookup k

/-- `HashMap::contains_key`. -/
def containsKey (m : HashMap κ ν) (k : κ) : Bool := (m.get? k).isSome

private theorem not_mem_keys_retain_ne (m : HashMap κ ν) (k : κ) :
    k ∉ (m.retain (fun k' _ => k' != k)).entries.map Prod.fst := by
  simp [retain]

/-- `HashMap::insert`: the entry under `k` is replaced, or a new one added. -/
def insert (m : HashMap κ ν) (k : κ) (v : ν) : HashMap κ ν :=
  ⟨(k, v) :: (m.retain (fun k' _ => k' != k)).entries,
    List.nodup_cons.mpr ⟨not_mem_keys_retain_ne m k, (m.retain _).nodup⟩⟩

/-- `HashMap::remove`: the value that was under `k`, and the map without it. -/
def remove (m : HashMap κ ν) (k : κ) : Option ν × HashMap κ ν :=
  (m.get? k, m.retain (fun k' _ => k' != k))

@[simp] theorem get?_empty (k : κ) : (empty : HashMap κ ν).get? k = none := rfl

@[simp] theorem remove_fst (m : HashMap κ ν) (k : κ) : (m.remove k).1 = m.get? k := rfl

private theorem lookup_cons_ne {l : List (κ × ν)} {k k₀ : κ} (v₀ : ν) (hk : k ≠ k₀) :
    ((k₀, v₀) :: l).lookup k = l.lookup k := by
  rw [List.lookup_cons, beq_false_of_ne hk]

private theorem lookup_of_not_mem {l : List (κ × ν)} {k : κ} (h : k ∉ l.map Prod.fst) :
    l.lookup k = none := by
  simp only [List.lookup_eq_none_iff, bne_iff_ne]
  rintro ⟨k', v⟩ hm rfl
  exact h (List.mem_map_of_mem Prod.fst hm)

private theorem lookup_filter (p : κ → ν → Bool) :
    ∀ (l : List (κ × ν)), (l.map Prod.fst).Nodup → ∀ k : κ,
      (l.filter (fun e => p e.1 e.2)).lookup k = (l.lookup k).filter (p k)
  | [], _, _ => rfl
  | (k₀, v₀) :: l, hl, k => by
    obtain ⟨fresh, hl⟩ := List.nodup_cons.mp hl
    by_cases hk : k = k₀
    · subst hk
      have gone : (l.filter (fun e => p e.1 e.2)).lookup k = none :=
        lookup_of_not_mem fun hm =>
          fresh ((List.filter_sublist l).map Prod.fst |>.subset hm)
      by_cases hp : p k v₀ <;> simp [List.filter_cons, hp, gone, Option.filter]
    · have ih := lookup_filter p l hl k
      by_cases hp : p k₀ v₀ <;> simp [List.filter_cons, hp, lookup_cons_ne _ hk, ih]

theorem get?_retain (m : HashMap κ ν) (p : κ → ν → Bool) (k : κ) :
    (m.retain p).get? k = (m.get? k).filter (p k) :=
  lookup_filter p m.entries m.nodup k

@[simp] theorem get?_insert (m : HashMap κ ν) (k k' : κ) (v : ν) :
    (m.insert k v).get? k' = if k' = k then some v else m.get? k' := by
  have rest := get?_retain m (fun k'' _ => k'' != k) k'
  simp only [get?, retain] at rest
  by_cases hk : k' = k
  · simp [insert, get?, List.lookup_cons, hk]
  · simp only [insert, get?, retain, lookup_cons_ne _ hk, rest, if_neg hk]
    cases m.entries.lookup k' <;> simp [Option.filter, hk]

@[simp] theorem get?_remove (m : HashMap κ ν) (k k' : κ) :
    (m.remove k).2.get? k' = if k' = k then none else m.get? k' := by
  rw [remove, get?_retain]
  cases m.get? k' <;> by_cases hk : k' = k <;> simp [Option.filter, hk]

theorem get?_eq_some_iff (m : HashMap κ ν) (k : κ) (v : ν) :
    m.get? k = some v ↔ (k, v) ∈ m.entries := by
  rcases m with ⟨l, hl⟩
  simp only [get?]
  induction l with
  | nil => simp
  | cons e l ih =>
    obtain ⟨fresh, rest⟩ := List.nodup_cons.mp hl
    rcases e with ⟨k₀, v₀⟩
    by_cases hk : k = k₀
    · subst hk
      have absent : (k, v) ∉ l := fun hm => fresh (List.mem_map.mpr ⟨_, hm, rfl⟩)
      simp [absent, eq_comm]
    · simp [lookup_cons_ne _ hk, ih rest, hk]

theorem containsKey_iff (m : HashMap κ ν) (k : κ) :
    m.containsKey k = true ↔ ∃ v, m.get? k = some v := by
  simp [containsKey, Option.isSome_iff_exists]

theorem containsKey_iff_mem (m : HashMap κ ν) (k : κ) :
    m.containsKey k = true ↔ k ∈ m.entries.map Prod.fst := by
  simp only [containsKey_iff, get?_eq_some_iff, List.mem_map]
  exact ⟨fun ⟨v, hv⟩ => ⟨(k, v), hv, rfl⟩, fun ⟨⟨k', v⟩, hv, hk⟩ => ⟨v, hk ▸ hv⟩⟩

private theorem length_filter_ne (k : κ) :
    ∀ l : List (κ × ν), (l.map Prod.fst).Nodup →
      (l.filter (fun e => e.1 != k)).length + (if k ∈ l.map Prod.fst then 1 else 0) = l.length
  | [], _ => rfl
  | (k₀, v₀) :: l, hl => by
    obtain ⟨fresh, hl⟩ := List.nodup_cons.mp hl
    have ih := length_filter_ne k l hl
    by_cases hk : k₀ = k
    · subst hk
      rw [if_neg fresh, Nat.add_zero] at ih
      have here : k₀ ∈ ((k₀, v₀) :: l).map Prod.fst := List.mem_cons_self _ _
      rw [if_pos here, List.filter_cons_of_neg (by simp), ih, List.length_cons]
    · rw [List.filter_cons_of_pos (by simpa using hk), List.length_cons, List.length_cons]
      by_cases hm : k ∈ l.map Prod.fst
      · rw [if_pos hm] at ih
        have later : k ∈ ((k₀, v₀) :: l).map Prod.fst := List.mem_cons_of_mem _ hm
        rw [if_pos later]
        omega
      · rw [if_neg hm] at ih
        have absent : k ∉ ((k₀, v₀) :: l).map Prod.fst := by simpa [Ne.symm hk] using hm
        rw [if_neg absent]
        omega

theorem len_remove (m : HashMap κ ν) (k : κ) :
    (m.remove k).2.len + (if m.containsKey k then 1 else 0) = m.len := by
  have := length_filter_ne k m.entries m.nodup
  simp only [← containsKey_iff_mem] at this
  exact this

theorem len_insert (m : HashMap κ ν) (k : κ) (v : ν) :
    (m.insert k v).len = m.len + (if m.containsKey k then 0 else 1) := by
  have := len_remove m k
  show (m.remove k).2.len + 1 = _
  cases hc : m.containsKey k <;> simp [hc] at this ⊢ <;> omega

end HashMap

end ChiralNetwork.Map
