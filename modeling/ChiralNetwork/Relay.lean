import ChiralNetwork.Map
import ChiralNetwork.Float32

/-!
`RelayRegistry` of relay_registry.rs: a `HashMap` from peer id to `RelayInfo`
behind a reader/writer lock. Each operation holds the lock for its whole body,
so a run of the registry is a sequence of whole operations. `register` takes the
clock reading `SystemTime::now()` as `now`; what it logs is left out.
-/

set_option autoImplicit false
set_option relaxedAutoImplicit false

namespace ChiralNetwork.Relay

open ChiralNetwork.Map ChiralNetwork.Float32

/-- `RelayInfo`. -/
structure RelayInfo where
  peerId : String
  addrs : List String
  «alias» : Option String
  lastSeen : Nat
  healthScore : F32
  deriving DecidableEq, Repr

/-- `RelayRegistry`, the map its lock guards. -/
structure RelayRegistry where
  entries : HashMap String RelayInfo

/-- One step of `insertion_sort_shift_left`, on the prefix sorted so far kept
last element first: `x` moves left past every element it is less than. -/
def insertTail {α : Type} (isLess : α → α → Bool) (x : α) : List α → List α
  | [] => [x]
  | y :: ys => if isLess x y then y :: insertTail isLess x ys else x :: y :: ys

/-- `slice::sort_by`, with `is_less(a, b)` meaning `compare(a, b) == Less`. The
standard library sorts up to 20 elements by `insertion_sort_shift_left`, as
here. Longer slices go to its stable merge sort, here `List.mergeSort`, which
gives the same result whenever `compare` is a total preorder. -/
def sortBy {α : Type} (compare : α → α → Ordering) (xs : List α) : List α :=
  if xs.length ≤ 20 then
    (xs.foldl (fun sorted x => insertTail (fun a b => compare a b == .lt) x sorted) []).reverse
  else xs.mergeSort (fun a b => compare a b != .gt)

namespace RelayRegistry

/-- `RelayRegistry::new`. -/
def new : RelayRegistry := ⟨HashMap.empty⟩

/-- The entry `register` writes. -/
def relayInfo (peerId : String) (addrs : List String) («alias» : Option String)
    (healthScore : F32) (now : Nat) : RelayInfo :=
  ⟨peerId, addrs, «alias», now, healthScore.clamp F32.zero F32.one (by decide)⟩

/-- `RelayRegistry::register`. -/
def register (r : RelayRegistry) (peerId : String) (addrs : List String) («alias» : Option String)
    (healthScore : F32) (now : Nat) : RelayRegistry :=
  ⟨r.entries.insert peerId (relayInfo peerId addrs «alias» healthScore now)⟩

/-- The comparator of `list`: `b.health_score.partial_cmp(&a.health_score).unwrap_or(Equal)`. -/
def healthCmp (a b : RelayInfo) : Ordering :=
  (b.healthScore.partialCmp a.healthScore).getD .eq

/-- `RelayRegistry::list`. -/
def list (r : RelayRegistry) : List RelayInfo := sortBy healthCmp r.entries.values

/-- `RelayRegistry::get`. -/
def get (r : RelayRegistry) (peerId : String) : Option RelayInfo := r.entries.get? peerId

/-- `RelayRegistry::contains`. -/
def contains (r : RelayRegistry) (peerId : String) : Bool := r.entries.containsKey peerId

/-- `RelayRegistry::count`. -/
def count (r : RelayRegistry) : Nat := r.entries.len

/-- Whether `prune_stale` drops an entry: `now.saturating_sub(last_seen) > max_age_secs`. -/
def isStale (now maxAgeSecs : Nat) (relay : RelayInfo) : Bool :=
  now - relay.lastSeen > maxAgeSecs

/-- `RelayRegistry::prune_stale`: the number removed, and the registry after. -/
def pruneStale (r : RelayRegistry) (now maxAgeSecs : Nat) : Nat × RelayRegistry :=
  let beforeCount := r.entries.len
  let entries := r.entries.retain (fun _ relay => !isStale now maxAgeSecs relay)
  (beforeCount - entries.len, ⟨entries⟩)

/-- `RelayRegistry::remove`: whether the peer was there, and the registry after. -/
def remove (r : RelayRegistry) (peerId : String) : Bool × RelayRegistry :=
  ((r.entries.remove peerId).1.isSome, ⟨(r.entries.remove peerId).2⟩)

/-- `RelayRegistry::clear`. -/
def clear (r : RelayRegistry) : RelayRegistry := ⟨r.entries.clear⟩

end RelayRegistry

namespace RelayRegistry

variable (r : RelayRegistry) (k : String)

@[simp] theorem get_new : new.get k = none := rfl

@[simp] theorem get_register (peerId : String) (addrs : List String) («alias» : Option String)
    (healthScore : F32) (now : Nat) :
    (r.register peerId addrs «alias» healthScore now).get k =
      if k = peerId then some (relayInfo peerId addrs «alias» healthScore now) else r.get k :=
  HashMap.get?_insert _ _ _ _

@[simp] theorem get_remove (peerId : String) :
    (r.remove peerId).2.get k = if k = peerId then none else r.get k :=
  HashMap.get?_remove _ _ _

@[simp] theorem get_pruneStale (now maxAgeSecs : Nat) :
    (r.pruneStale now maxAgeSecs).2.get k = (r.get k).filter (fun v => !isStale now maxAgeSecs v) :=
  HashMap.get?_retain _ _ _

@[simp] theorem get_clear : r.clear.get k = none := rfl

end RelayRegistry

/-- A mutating call on the registry. -/
inductive Op
  | register (peerId : String) (addrs : List String) («alias» : Option String) (healthScore : F32)
      (now : Nat)
  | remove (peerId : String)
  | pruneStale (now maxAgeSecs : Nat)
  | clear

/-- The registry after one call. -/
def Op.apply (r : RelayRegistry) : Op → RelayRegistry
  | .register peerId addrs «alias» healthScore now => r.register peerId addrs «alias» healthScore now
  | .remove peerId => (r.remove peerId).2
  | .pruneStale now maxAgeSecs => (r.pruneStale now maxAgeSecs).2
  | .clear => r.clear

/-- The registry a sequence of calls leaves, from `RelayRegistry::new()`. -/
def run (ops : List Op) : RelayRegistry := ops.foldl Op.apply RelayRegistry.new

open RelayRegistry

/-- Whether a later call leaves the entry `v` of peer `k` in place: a `register`
or `remove` of another peer, or a `prune_stale` that does not find it stale. -/
def Survives (k : String) (v : RelayInfo) : Op → Prop
  | .register peerId .. => peerId ≠ k
  | .remove peerId => peerId ≠ k
  | .pruneStale now maxAgeSecs => isStale now maxAgeSecs v = false
  | .clear => False

theorem apply_get_some {r : RelayRegistry} {op : Op} {k : String} {v : RelayInfo}
    (h : (op.apply r).get k = some v) :
    r.get k = some v ∧ Survives k v op ∨ ∃ addrs «alias» healthScore now,
      op = .register k addrs «alias» healthScore now ∧ v = relayInfo k addrs «alias» healthScore now := by
  cases op with
  | register peerId addrs «alias» healthScore now =>
    simp only [Op.apply, get_register] at h
    split at h
    · subst k
      exact .inr ⟨addrs, «alias», healthScore, now, rfl, (Option.some.inj h).symm⟩
    · exact .inl ⟨h, Ne.symm ‹_›⟩
  | remove peerId =>
    simp only [Op.apply, get_remove] at h
    split at h
    · cases h
    · exact .inl ⟨h, Ne.symm ‹_›⟩
  | pruneStale now maxAgeSecs =>
    simp only [Op.apply, get_pruneStale, Option.filter_eq_some] at h
    exact .inl ⟨h.1, by simpa using h.2⟩
  | clear => simp [Op.apply] at h

theorem apply_get_of_survives {r : RelayRegistry} {k : String} {v : RelayInfo} {op : Op}
    (h : r.get k = some v) (hs : Survives k v op) : (op.apply r).get k = some v := by
  cases op with
  | register peerId => simp [Op.apply, h, Ne.symm hs]
  | remove peerId => simp [Op.apply, h, Ne.symm hs]
  | pruneStale now maxAgeSecs =>
    simp only [Survives] at hs
    simp [Op.apply, h, Option.filter, hs]
  | clear => exact hs.elim

theorem run_entries {P : String → RelayInfo → Prop} (ops : List Op)
    (fresh : ∀ k addrs «alias» healthScore now, Op.register k addrs «alias» healthScore now ∈ ops →
      P k (relayInfo k addrs «alias» healthScore now)) :
    ∀ k v, (run ops).get k = some v → P k v := by
  suffices ∀ (r : RelayRegistry) (pre : List Op), (∀ k v, r.get k = some v → P k v) →
      (∀ op ∈ pre, op ∈ ops) → ∀ k v, (pre.foldl Op.apply r).get k = some v → P k v from
    this new ops (by simp) (fun _ h => h)
  intro r pre
  induction pre generalizing r with
  | nil => exact fun hr _ => hr
  | cons op pre ih =>
    intro hr sub
    refine ih (op.apply r) (fun k v h => ?_) (fun op' h' => sub op' (List.mem_cons_of_mem _ h'))
    rcases apply_get_some h with ⟨old, -⟩ | ⟨addrs, «alias», healthScore, now, rfl, rfl⟩
    · exact hr k v old
    · exact fresh k addrs «alias» healthScore now (sub _ (List.mem_cons_self _ _))

theorem run_append_single (ops : List Op) (op : Op) : run (ops ++ [op]) = op.apply (run ops) := by
  simp [run, List.foldl_append]

theorem foldl_get_of_survives {k : String} {v : RelayInfo} :
    ∀ (post : List Op) (r : RelayRegistry), r.get k = some v → (∀ op ∈ post, Survives k v op) →
      (post.foldl Op.apply r).get k = some v
  | [], _, h, _ => h
  | op :: post, _, h, hs =>
    foldl_get_of_survives post _ (apply_get_of_survives h (hs op (List.mem_cons_self _ _)))
      fun op' h' => hs op' (List.mem_cons_of_mem _ h')

/-- For every run of calls from `new()`, `get(k)` returns `v` exactly when the
last `register` of `k` built `v` and every later call left it: no later
`register` or `remove` of `k`, no `clear`, and no `prune_stale` that found it
stale. -/
theorem get_run_iff (ops : List Op) (k : String) (v : RelayInfo) :
    (run ops).get k = some v ↔
      ∃ pre addrs «alias» healthScore now post,
        ops = pre ++ Op.register k addrs «alias» healthScore now :: post ∧
        v = relayInfo k addrs «alias» healthScore now ∧ ∀ op ∈ post, Survives k v op := by
  constructor
  · induction ops using List.reverseRecOn with
    | nil => simp [run]
    | append_singleton ops op ih =>
      intro h
      rw [run_append_single] at h
      rcases apply_get_some h with ⟨old, hs⟩ | ⟨addrs, «alias», healthScore, now, rfl, rfl⟩
      · obtain ⟨pre, addrs, «alias», healthScore, now, post, rfl, hv, hpost⟩ := ih old
        refine ⟨pre, addrs, «alias», healthScore, now, post ++ [op], by simp, hv, ?_⟩
        simpa [or_imp, forall_and] using ⟨hpost, hs⟩
      · exact ⟨ops, addrs, «alias», healthScore, now, [], by simp, rfl, by simp⟩
  · rintro ⟨pre, addrs, «alias», healthScore, now, post, rfl, rfl, hpost⟩
    have built : (run (pre ++ [Op.register k addrs «alias» healthScore now])).get k =
        some (relayInfo k addrs «alias» healthScore now) := by
      simp [run_append_single, Op.apply]
    have split : pre ++ Op.register k addrs «alias» healthScore now :: post =
        (pre ++ [Op.register k addrs «alias» healthScore now]) ++ post := by simp
    rw [split, run, List.foldl_append]
    exact foldl_get_of_survives post _ built hpost

/-- `0.0 <= health_score && health_score <= 1.0`. -/
def inUnitInterval (x : F32) : Bool := F32.zero.le x && x.le F32.one

theorem relayInfo_healthScore (peerId : String) (addrs : List String) («alias» : Option String)
    (healthScore : F32) (now : Nat) :
    (relayInfo peerId addrs «alias» healthScore now).healthScore =
        healthScore ∧ healthScore.isNan = true ∨
      inUnitInterval (relayInfo peerId addrs «alias» healthScore now).healthScore = true := by
  cases hn : healthScore.isNan
  · have := F32.clamp_between healthScore F32.zero F32.one (by decide) hn
    exact .inr (by simpa [inUnitInterval, relayInfo] using this)
  · exact .inl ⟨F32.clamp_nan _ _ _ (by decide) hn, rfl⟩

/-- In every reachable registry each score is NaN or in the unit interval, and
only NaN if some `register` of the run was passed NaN. -/
theorem run_scores (ops : List Op) (k : String) (v : RelayInfo) (h : (run ops).get k = some v) :
    inUnitInterval v.healthScore = true ∨
      v.healthScore.isNan = true ∧ ∃ addrs «alias» now,
        Op.register k addrs «alias» v.healthScore now ∈ ops := by
  refine run_entries (P := fun k v => inUnitInterval v.healthScore = true ∨
    v.healthScore.isNan = true ∧ ∃ addrs «alias» now, Op.register k addrs «alias» v.healthScore now ∈ ops)
    ops (fun k addrs «alias» healthScore now mem => ?_) k v h
  rcases relayInfo_healthScore k addrs «alias» healthScore now with ⟨same, nan⟩ | unit
  · rw [same]
    exact .inr ⟨nan, addrs, «alias», now, mem⟩
  · exact .inl unit

/-- A peer registered with score 2.0 is stored at 1.0, in range. -/
theorem registered_score_in_range :
    inUnitInterval F32.one = true ∨
      F32.one.isNan = true ∧ ∃ addrs «alias» now,
        Op.register "peer1" addrs «alias» F32.one now ∈ [Op.register "peer1" [] none ⟨0x40000000⟩ 0] :=
  run_scores [.register "peer1" [] none ⟨0x40000000⟩ 0] "peer1" ⟨"peer1", [], none, 0, F32.one⟩
    (by decide)

/-- `register` with a NaN score stores NaN, which is not in `[0.0, 1.0]`. -/
theorem register_stores_nan :
    (run [.register "peer1" [] none F32.nan 0]).get "peer1" =
        some ⟨"peer1", [], none, 0, F32.nan⟩ ∧
      inUnitInterval F32.nan = false := by
  decide

section InsertionSort

variable {α : Type} (isLess : α → α → Bool)

theorem insertTail_perm (x : α) : ∀ l, (insertTail isLess x l).Perm (x :: l)
  | [] => List.Perm.refl _
  | y :: ys => by
    unfold insertTail
    split
    · exact ((insertTail_perm x ys).cons y).trans (List.Perm.swap x y ys)
    · exact List.Perm.refl _

theorem foldl_insertTail_perm :
    ∀ (xs acc : List α), (xs.foldl (fun sorted x => insertTail isLess x sorted) acc).Perm (xs ++ acc)
  | [], _ => List.Perm.refl _
  | x :: xs, acc =>
    ((foldl_insertTail_perm xs _).trans ((insertTail_perm isLess x acc).append_left xs)).trans
      List.perm_middle

variable {P : α → Prop}
  (asymm : ∀ a b, P a → P b → isLess a b = true → isLess b a = false)
  (trans : ∀ a b c, P a → P b → P c → isLess a b = false → isLess b c = false → isLess a c = false)
include asymm trans

end InsertionSort

theorem sortBy_perm {α : Type} (compare : α → α → Ordering) (xs : List α) :
    (sortBy compare xs).Perm xs := by
  unfold sortBy
  split
  · simpa using (List.reverse_perm _).trans (foldl_insertTail_perm _ xs [])
  · exact List.mergeSort_perm _ _

private theorem pairwise_related {α : Type} {R : α → α → Prop} {x y : α} (hxy : x ≠ y) :
    ∀ {l : List α}, l.Pairwise R → x ∈ l → y ∈ l → R x y ∨ R y x
  | [], _, hx, _ => absurd hx (List.not_mem_nil x)
  | z :: l, hl, hx, hy => by
    rw [List.pairwise_cons] at hl
    rw [List.mem_cons] at hx hy
    rcases hx with hx | hx <;> rcases hy with hy | hy
    · exact absurd (hx.trans hy.symm) hxy
    · exact .inl (hx ▸ hl.1 y hy)
    · exact .inr (hy ▸ hl.1 x hx)
    · exact pairwise_related hxy hl.2 hx hy

/-- A NaN score next to any other entry breaks the order `list` is said to return. -/
theorem list_unordered_with_nan :
    ¬ (run [.register "peer1" [] none F32.nan 0, .register "peer2" [] none F32.one 0]).list.Pairwise
      (fun a b => a.healthScore.ge b.healthScore = true) := by
  intro sorted
  have mem : ∀ v ∈ [relayInfo "peer2" [] none F32.one 0, relayInfo "peer1" [] none F32.nan 0],
      v ∈ (run [.register "peer1" [] none F32.nan 0, .register "peer2" [] none F32.one 0]).list :=
    fun v hv => (sortBy_perm _ _).mem_iff.mpr (by revert v; decide)
  rcases pairwise_related (by decide) sorted (mem _ (List.mem_cons_self _ _))
      (mem _ (List.mem_cons_of_mem _ (List.mem_singleton_self _))) with h | h <;>
    revert h <;> decide

/-- The order `sort_by` leaves once a NaN is stored: with `values()` yielding
scores 0.2, NaN, 0.9, every insertion step meets the NaN and stops, so 0.2 stays
before 0.9. -/
example :
    (run [.register "b" [] none ⟨0x3f666666⟩ 0, .register "n" [] none F32.nan 0,
      .register "a" [] none ⟨0x3e4ccccd⟩ 0]).list.map RelayInfo.peerId = ["a", "n", "b"] := by
  decide

/-- `prune_stale` keeps exactly the entries whose age `now - last_seen`
(saturating) is at most `max_age_secs`, unchanged, and returns how many it
dropped: the count before minus the count after, which never underflows, and
the number of entries older than `max_age_secs`. An entry last seen at or after
`now` has age 0 and stays. -/
theorem prune_stale_exact (r : RelayRegistry) (now maxAgeSecs : Nat) :
    (∀ k, (r.pruneStale now maxAgeSecs).2.get k =
      (r.get k).filter (fun v => decide (now - v.lastSeen ≤ maxAgeSecs))) ∧
    (r.pruneStale now maxAgeSecs).1 = r.count - (r.pruneStale now maxAgeSecs).2.count ∧
    (r.pruneStale now maxAgeSecs).2.count ≤ r.count ∧
    (r.pruneStale now maxAgeSecs).1 =
      (r.entries.entries.filter (fun e => decide (now - e.2.lastSeen > maxAgeSecs))).length ∧
    ∀ k v, r.get k = some v → now ≤ v.lastSeen → (r.pruneStale now maxAgeSecs).2.get k = some v := by
  have kept : (fun v => !isStale now maxAgeSecs v) = fun v => decide (now - v.lastSeen ≤ maxAgeSecs) :=
    funext fun v => Bool.eq_iff_iff.mpr (by simp [isStale])
  refine ⟨fun k => kept ▸ get_pruneStale r k now maxAgeSecs, rfl, HashMap.len_retain_le _ _, ?_,
    fun k v hv late => ?_⟩
  · have split := List.length_eq_length_filter_add (l := r.entries.entries)
      (fun e => isStale now maxAgeSecs e.2)
    simp only [pruneStale, HashMap.len, HashMap.entries_retain, isStale] at split ⊢
    omega
  · have fresh : isStale now maxAgeSecs v = false := by
      simp [isStale, Nat.sub_eq_zero_of_le late]
    simp [hv, fresh, Option.filter]

/-- What the other mutating calls do, on every registry: `register` adds one
entry exactly when the peer is new (the `is_new` it logs by) and leaves every
other peer's entry; `remove` reports whether the peer was there, takes one entry
exactly then, and leaves every other peer's entry, so removing a missing peer
changes nothing; `clear` leaves none. -/
theorem count_accounting (r : RelayRegistry) (peerId : String) (addrs : List String)
    («alias» : Option String) (healthScore : F32) (now : Nat) :
    (r.register peerId addrs «alias» healthScore now).count =
        r.count + (if r.contains peerId then 0 else 1) ∧
      (∀ k, k ≠ peerId → (r.register peerId addrs «alias» healthScore now).get k = r.get k) ∧
      (r.remove peerId).1 = r.contains peerId ∧
      (r.remove peerId).2.count + (if (r.remove peerId).1 then 1 else 0) = r.count ∧
      (r.remove peerId).2.contains peerId = false ∧
      (∀ k, k ≠ peerId → (r.remove peerId).2.get k = r.get k) ∧
      r.clear.count = 0 :=
  ⟨HashMap.len_insert _ _ _, fun k hk => by simp [hk], rfl, HashMap.len_remove _ _,
    by simp [contains, HashMap.containsKey, RelayRegistry.remove], fun k hk => by simp [hk], rfl⟩

end ChiralNetwork.Relay
