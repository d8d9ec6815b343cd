import Mathlib

/-!
# Totals kept in words

A counter is a word that goes on by some number at every step, so it is the sum of these
numbers as a word.  It is the sum itself as long as that is less than the number of words.
-/

namespace CacheTier

/-- A word that goes on by a share at every step is the total of the shares. -/
theorem foldl_total {γ α : Type} {word : γ → UInt64} {share : α → Nat} {step : γ → α → γ}
    (hstep : ∀ c a, word (step c a) = word c + UInt64.ofNat (share a)) (c : γ) (xs : List α) :
    word (xs.foldl step c) = word c + UInt64.ofNat (xs.map share).sum := by
  induction xs generalizing c with
  | nil => exact (UInt64.add_zero (word c)).symm
  | cons x rest ih =>
      rw [List.foldl_cons, ih, hstep, List.map_cons, List.sum_cons, UInt64.ofNat_add,
        UInt64.add_assoc]

theorem sum_map_toNat {α : Type} (p : α → Bool) (xs : List α) :
    (xs.map fun x => (p x).toNat).sum = xs.countP p := by
  induction xs with
  | nil => rfl
  | cons x rest ih =>
      rw [List.map_cons, List.sum_cons, ih, List.countP_cons, Nat.add_comm]
      cases p x
      · rfl
      · rfl

end CacheTier
