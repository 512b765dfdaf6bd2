import Mathlib.Data.List.Pairwise
import Framehop.UnwindRule

/-!
# `binary_search_by_key`

The module registry keeps its modules sorted by start address and finds positions with
`slice::binary_search_by_key` of Rust's standard library. The library promises, on a sorted
slice, that `Ok(i)` names a match and `Err(i)` the insertion point (`SearchResult`), but not
which of several equal keys `Ok` names, and its loop changed in Rust 1.82 so that the answer
among equal keys differs. `BinarySearch` is any search that keeps the promise and answers a
position of the slice; the registry's results are stated for every one of them.

The loop of Rust 1.52 to 1.81 is one (`loopBinarySearch`), with a `fuel` argument: each round
shrinks `right - left`, so `length + 1` rounds always suffice. Concrete registries are computed
with it.
-/

namespace Framehop

def binarySearchLoop (keys : List UInt64) (key : UInt64) : Nat → Nat → Nat → Except Nat Nat
  | 0, left, _ => .error left
  | fuel + 1, left, right =>
    if left < right then
      let mid := left + (right - left) / 2
      if keys[mid]! < key then binarySearchLoop keys key fuel (mid + 1) right
      else if key < keys[mid]! then binarySearchLoop keys key fuel left mid
      else .ok mid
    else .error left

/-- What `binary_search_by_key` promises: `Ok(i)` is a match, and `Err(i)` is the index where
the key would be inserted, every key before it smaller and every key from it on larger. -/
def SearchResult (keys : List UInt64) (key : UInt64) : Except Nat Nat → Prop
  | .ok i => ∃ h : i < keys.length, keys[i] = key
  | .error i => i ≤ keys.length ∧ (∀ j (h : j < keys.length), j < i → keys[j] < key) ∧
      ∀ j (h : j < keys.length), i ≤ j → key < keys[j]

/-- An answer of the search that names a position of a slice of length `n`: an index for
`Ok`, an insertion point for `Err`. -/
def InBounds (n : Nat) : Except Nat Nat → Prop
  | .ok i => i < n
  | .error i => i ≤ n

/-- A `binary_search_by_key` on `u64` keys that keeps the documented promise on sorted slices,
and whose answers, sorted or not, never make the registry's indexing, `Vec::remove` or
`Vec::insert` panic. -/
class BinarySearch where
  binarySearchByKey {α : Type} (xs : List α) (key : UInt64) (f : α → UInt64) : Except Nat Nat
  binarySearchByKey_spec {α : Type} {xs : List α} {f : α → UInt64} (key : UInt64)
    (hs : (xs.map f).Pairwise (· ≤ ·)) : SearchResult (xs.map f) key (binarySearchByKey xs key f)
  binarySearchByKey_inBounds {α : Type} (xs : List α) (key : UInt64) (f : α → UInt64) :
    InBounds xs.length (binarySearchByKey xs key f)

export BinarySearch (binarySearchByKey binarySearchByKey_spec binarySearchByKey_inBounds)

section Loop

variable {keys : List UInt64} {key : UInt64}

theorem sorted_getElem_le (hs : keys.Pairwise (· ≤ ·)) {i j : Nat} (hi : i < keys.length)
    (hj : j < keys.length) (hij : i ≤ j) : keys[i] ≤ keys[j] := by
  rcases Nat.eq_or_lt_of_le hij with rfl | hlt
  · exact Nat.le_refl _
  · exact List.pairwise_iff_getElem.mp hs i j (by omega) hj hlt

/-- The loop invariant: keys left of `left` are below the key, keys from `right` on above it. -/
theorem binarySearchLoop_spec (hs : keys.Pairwise (· ≤ ·)) :
    ∀ fuel left right, right - left < fuel → left ≤ right → right ≤ keys.length →
      (∀ j (h : j < keys.length), j < left → keys[j] < key) →
      (∀ j (h : j < keys.length), right ≤ j → key < keys[j]) →
      SearchResult keys key (binarySearchLoop keys key fuel left right)
  | 0, _, _, hf, _, _, _, _ => absurd hf (Nat.not_lt_zero _)
  | fuel + 1, left, right, hf, hlr, hr, hlow, hhigh => by
    unfold binarySearchLoop
    split
    · rename_i hlt
      have hmid : left + (right - left) / 2 < keys.length := by omega
      have hget : keys[left + (right - left) / 2]! = keys[left + (right - left) / 2] :=
        getElem!_pos keys _ hmid
      dsimp only
      rw [hget]
      split
      · rename_i hless
        refine binarySearchLoop_spec hs fuel _ right (by omega) (by omega) hr ?_ hhigh
        intro j hj hjm
        by_cases hjl : j < left
        · exact hlow j hj hjl
        · exact Nat.lt_of_le_of_lt (sorted_getElem_le hs hj hmid (by omega)) hless
      · split
        · rename_i _ hgreater
          refine binarySearchLoop_spec hs fuel left _ (by omega) (by omega) (by omega) hlow ?_
          intro j hj hjm
          exact Nat.lt_of_lt_of_le hgreater (sorted_getElem_le hs hmid hj hjm)
        · rename_i hnlt hngt
          exact ⟨hmid, UInt64.toNat.inj (Nat.le_antisymm (Nat.not_lt.mp hngt) (Nat.not_lt.mp hnlt))⟩
    · exact ⟨by omega, hlow, fun j hj hij => hhigh j hj (by omega)⟩

end Loop

/-- Whatever the keys, sorted or not, the loop answers a position of the slice. -/
theorem binarySearchLoop_inBounds {keys : List UInt64} {key : UInt64} :
    ∀ fuel left right, left ≤ right → right ≤ keys.length →
      InBounds keys.length (binarySearchLoop keys key fuel left right)
  | 0, _, _, hlr, hr => Nat.le_trans hlr hr
  | fuel + 1, left, right, hlr, hr => by
    rw [binarySearchLoop]
    split
    · dsimp only
      split
      · exact binarySearchLoop_inBounds fuel _ right (by omega) hr
      · split
        · exact binarySearchLoop_inBounds fuel left _ (by omega) (by omega)
        · show _ < _; omega
    · exact Nat.le_trans hlr hr

/-- The loop of Rust 1.52 to 1.81 over the whole slice. -/
def loopBinarySearchByKey {α : Type} (xs : List α) (key : UInt64) (f : α → UInt64) :
    Except Nat Nat :=
  binarySearchLoop (xs.map f) key (xs.length + 1) 0 xs.length

instance loopBinarySearch : BinarySearch where
  binarySearchByKey := loopBinarySearchByKey
  binarySearchByKey_spec key hs :=
    binarySearchLoop_spec hs _ 0 _ (by omega) (Nat.zero_le _) (by simp)
      (fun _ _ h => absurd h (Nat.not_lt_zero _)) (fun j hj h => absurd hj (by simp; omega))
  binarySearchByKey_inBounds xs key f := by
    have := @binarySearchLoop_inBounds (xs.map f) key (xs.length + 1) 0 xs.length
      (Nat.zero_le _) (by simp)
    rwa [List.length_map] at this

end Framehop
