/-
**The order of floats is the order of the numbers that they denote.**

Unpacked floats are compared by sign, exponent and mantissa. A canonical mantissa is as long as it
can be, so the larger exponent belongs to the larger number, and the comparison is that of the
numbers. The total order in which values are sorted tells all floats apart.

* `Rounding.compare_value`: comparing canonical floats;
* `Rounding.Denotes.lt_iff`, `Rounding.Denotes.le_iff`: comparing floats;
* `Rounding.denotes_of_between`: what lies between two finite floats is finite;
* `Rounding.sort_congr`: sorting depends only on how often each value occurs.
-/

import LoadTest.Proofs.Float.Whole

namespace LoadTest.Rounding

open Float.Model Float.Model.UnpackedFloat

/-! ### Comparing unpacked floats -/

section Magnitudes

variable {m n : ℕ} {e f : ℤ}

theorem magnitude_pos (positive : 0 < m) : (0 : ℚ) < m * 2 ^ e := by
  have cast : (0 : ℚ) < m := by exact_mod_cast positive
  positivity

theorem magnitude_lt (bits : m < 2 ^ 53) (normal : 2 ^ 52 ≤ n) (order : e < f) :
    (m : ℚ) * 2 ^ e < n * 2 ^ f := by
  have short : (m : ℚ) < 2 ^ 53 := by exact_mod_cast bits
  have long : (2 : ℚ) ^ 52 ≤ n := by exact_mod_cast normal
  have power : (0 : ℚ) < 2 ^ e := by positivity
  have next : (2 : ℚ) ^ (e + 1) ≤ 2 ^ f := zpow_le_zpow_right₀ one_le_two (by omega)
  calc (m : ℚ) * 2 ^ e < 2 ^ 53 * 2 ^ e := mul_lt_mul_of_pos_right short power
    _ = 2 ^ 52 * 2 ^ (e + 1) := by rw [zpow_add_one₀ two_ne_zero]; ring
    _ ≤ n * 2 ^ f := mul_le_mul long next (by positivity) (by positivity)

/-- Canonical magnitudes are compared by their exponents first. -/
theorem compare_magnitude (bits : m < 2 ^ 53) (least : -1074 ≤ e) (normal : 2 ^ 52 ≤ m ∨ e = -1074)
    (bits' : n < 2 ^ 53) (least' : -1074 ≤ f) (normal' : 2 ^ 52 ≤ n ∨ f = -1074) :
    (compare e f).then (compare m n) = compare ((m : ℚ) * 2 ^ e) (n * 2 ^ f) := by
  rcases lt_trichotomy e f with order | same | order
  · have long : 2 ^ 52 ≤ n := normal'.resolve_right (by omega)
    rw [compare_lt_iff_lt.mpr order, compare_lt_iff_lt.mpr (magnitude_lt bits long order)]
    rfl
  · subst same
    have power : (0 : ℚ) < 2 ^ e := by positivity
    rw [compare_eq_iff_eq.mpr rfl]
    rcases lt_trichotomy m n with less | equal | more
    · have product := mul_lt_mul_of_pos_right (Nat.cast_lt (α := ℚ).mpr less) power
      rw [compare_lt_iff_lt.mpr less, compare_lt_iff_lt.mpr product]
      rfl
    · subst equal
      rw [compare_eq_iff_eq.mpr rfl, compare_eq_iff_eq.mpr rfl]
      rfl
    · have product := mul_lt_mul_of_pos_right (Nat.cast_lt (α := ℚ).mpr more) power
      rw [compare_gt_iff_gt.mpr more, compare_gt_iff_gt.mpr product]
      rfl
  · have long : 2 ^ 52 ≤ m := normal.resolve_right (by omega)
    rw [compare_gt_iff_gt.mpr order, compare_gt_iff_gt.mpr (magnitude_lt bits' long order)]
    rfl

end Magnitudes

/-- **Canonical floats are compared as the numbers that they stand for.** -/
theorem compare_value {a b : UnpackedFloat} (first : Canonical a) (second : Canonical b) :
    a.compare b = some (compare (valueOf a) (valueOf b)) := by
  cases a with
  | infinity _ => exact first.elim
  | notANumber => exact first.elim
  | zero s =>
    cases b with
    | infinity _ => exact second.elim
    | notANumber => exact second.elim
    | zero t =>
      show some .eq = some (compare (0 : ℚ) 0)
      rw [compare_eq_iff_eq.mpr rfl]
    | finite t n f positive =>
      have size : (0 : ℚ) < n * 2 ^ f := magnitude_pos positive
      cases t with
      | positive =>
        show some .lt = some (compare (0 : ℚ) (n * 2 ^ f))
        rw [compare_lt_iff_lt.mpr size]
      | negative =>
        show some .gt = some (compare (0 : ℚ) (-(n * 2 ^ f)))
        rw [compare_gt_iff_gt.mpr (neg_lt_zero.mpr size)]
  | finite s m e positive =>
    have size : (0 : ℚ) < m * 2 ^ e := magnitude_pos positive
    cases b with
    | infinity _ => exact second.elim
    | notANumber => exact second.elim
    | zero t =>
      cases s with
      | positive =>
        show some .gt = some (compare ((m : ℚ) * 2 ^ e) 0)
        rw [compare_gt_iff_gt.mpr size]
      | negative =>
        show some .lt = some (compare (-((m : ℚ) * 2 ^ e)) 0)
        rw [compare_lt_iff_lt.mpr (neg_lt_zero.mpr size)]
    | finite t n f positive' =>
      have size' : (0 : ℚ) < n * 2 ^ f := magnitude_pos positive'
      have magnitudes :=
        compare_magnitude first.1 first.2.1 first.2.2 second.1 second.2.1 second.2.2
      cases s with
      | positive =>
        cases t with
        | positive => exact congrArg some magnitudes
        | negative =>
          show some .gt = some (compare ((m : ℚ) * 2 ^ e) (-(n * 2 ^ f)))
          rw [compare_gt_iff_gt.mpr ((neg_lt_zero.mpr size').trans size)]
      | negative =>
        cases t with
        | positive =>
          show some .lt = some (compare (-((m : ℚ) * 2 ^ e)) (n * 2 ^ f))
          rw [compare_lt_iff_lt.mpr ((neg_lt_zero.mpr size).trans size')]
        | negative =>
          show some ((compare e f).then (compare m n)).swap =
            some (compare (-((m : ℚ) * 2 ^ e)) (-(n * 2 ^ f)))
          rw [magnitudes]
          rcases lt_trichotomy ((m : ℚ) * 2 ^ e) (n * 2 ^ f) with less | equal | more
          · rw [compare_lt_iff_lt.mpr less, compare_gt_iff_gt.mpr (neg_lt_neg less)]
            rfl
          · rw [equal, compare_eq_iff_eq.mpr rfl, compare_eq_iff_eq.mpr rfl]
            rfl
          · rw [compare_gt_iff_gt.mpr more, compare_lt_iff_lt.mpr (neg_lt_neg more)]
            rfl

/-! ### Comparing floats -/

section Floats

variable {x y : Float} {p q : ℚ}

theorem Denotes.lt_iff (first : Denotes x p) (second : Denotes y q) : x < y ↔ p < q := by
  have order := compare_value first.canonical second.canonical
  rw [first.value, second.value] at order
  show decide ((x.toModel.unpack.compare y.toModel.unpack == some .lt) = true) = true ↔ p < q
  rw [order, decide_eq_true_iff, beq_iff_eq, Option.some.injEq]
  exact compare_lt_iff_lt

theorem le_iff_compare :
    x ≤ y ↔ (x.toModel.unpack.compare y.toModel.unpack).any (·.isLE) = true := by
  show decide (_ = true) = true ↔ _
  exact decide_eq_true_iff

theorem Denotes.le_iff (first : Denotes x p) (second : Denotes y q) : x ≤ y ↔ p ≤ q := by
  have order := compare_value first.canonical second.canonical
  rw [first.value, second.value] at order
  rw [le_iff_compare, order, Option.any_some, ← compare_le_iff_le]
  exact Ordering.isLE_iff_ne_gt

/-- The bits of a float are those of no number, of an infinite one, or canonical. -/
theorem canonical_unpack (x : Float) : x.toModel.unpack = .notANumber ∨
    (∃ sign, x.toModel.unpack = .infinity sign) ∨ Canonical x.toModel.unpack := by
  change UnpackedFloat.unpack .binary64 x.toBits.toBitVec = .notANumber ∨
    (∃ sign, UnpackedFloat.unpack .binary64 x.toBits.toBitVec = .infinity sign) ∨
    Canonical (UnpackedFloat.unpack .binary64 x.toBits.toBitVec)
  have bound := (@unpackMantissa .binary64 x.toBits.toBitVec).isLt
  have width : (2 : ℕ) ^ Format.binary64.mantissaBitsWithoutImplicit = 2 ^ 52 := by decide
  rw [width] at bound
  rcases @unpack_cases _ _ _ x.toBits.toBitVec rfl rfl rfl with missing | infinite | ⟨-, -, read⟩ |
    ⟨-, _, read⟩ | ⟨later, _, read⟩
  · exact .inl missing
  · exact .inr (.inl ⟨_, infinite⟩)
  · rw [read]
    exact .inr (.inr trivial)
  · rw [read]
    exact .inr (.inr ⟨bound.trans (by decide), le_rfl, .inr rfl⟩)
  · have power : (@unpackExponent .binary64 x.toBits.toBitVec).toNat ≠ 0 := by
      intro none
      exact later (BitVec.eq_of_toNat_eq none)
    have digits : (1#1 ++ @unpackMantissa .binary64 x.toBits.toBitVec).toNat =
        0x10000000000000 + (@unpackMantissa .binary64 x.toBits.toBitVec).toNat := by
      rw [BitVec.toNat_append, ← Nat.shiftLeft_add_eq_or_of_lt (BitVec.isLt _)]
      rfl
    rw [read]
    refine .inr (.inr ⟨?_, ?_, .inl ?_⟩)
    · rw [digits]
      omega
    · omega
    · rw [digits]
      omega

/-- **What lies between two finite floats is finite.** -/
theorem denotes_of_between {low high : Float} {l h : ℚ} (below : Denotes low l)
    (above : Denotes high h) (least : low ≤ x) (most : x ≤ high) :
    ∃ q, Denotes x q ∧ l ≤ q ∧ q ≤ h := by
  have lower := le_iff_compare.mp least
  have upper := le_iff_compare.mp most
  rcases canonical_unpack x with missing | ⟨sign, infinite⟩ | canonical
  · rw [missing] at lower
    cases unpacked : low.toModel.unpack <;> rw [unpacked] at lower <;> contradiction
  · cases sign with
    | positive =>
      have finite := above.canonical
      rw [infinite] at upper
      cases unpacked : high.toModel.unpack <;> rw [unpacked] at upper finite <;> contradiction
    | negative =>
      have finite := below.canonical
      rw [infinite] at lower
      cases unpacked : low.toModel.unpack <;> rw [unpacked] at lower finite <;> contradiction
  · have number : Denotes x (valueOf x.toModel.unpack) := ⟨canonical, rfl⟩
    exact ⟨_, number, (below.le_iff number).mp least, (number.le_iff above).mp most⟩

end Floats

/-! ### The total order -/

theorem toBits_injective {x y : Float} (same : x.toBits = y.toBits) : x = y := by
  rcases x with ⟨⟨bits⟩⟩
  rcases y with ⟨⟨others⟩⟩
  obtain rfl : bits = others := same
  rfl

theorem sortKey_injective {x y : Float} (same : sortKey x = sortKey y) : x = y := by
  apply toBits_injective
  apply UInt64.toNat_inj.mp
  have bound := x.toBits.toNat_lt
  have bound' := y.toBits.toNat_lt
  unfold sortKey at same
  dsimp only at same
  split_ifs at same <;> omega

/-- In a total order in which only equal values are on a level, sorting depends only on how often
each value occurs. -/
theorem sort_of_perm {α : Type} [Scalar α]
    (total : ∀ x y : α, (Scalar.sortLE x y || Scalar.sortLE y x) = true)
    (trans : ∀ x y z : α, Scalar.sortLE x y = true → Scalar.sortLE y z = true →
      Scalar.sortLE x z = true)
    (antisymm : ∀ x y : α, Scalar.sortLE x y = true → Scalar.sortLE y x = true → x = y)
    {values others : List α} (same : values.Perm others) :
    Scalar.sort values = Scalar.sort others := by
  unfold Scalar.sort
  refine @List.Perm.eq_of_pairwise _ (fun x y => Scalar.sortLE x y = true) _ _ ?_
    (List.pairwise_mergeSort trans total _) (List.pairwise_mergeSort trans total _) ?_
  · exact fun x y _ _ low high => antisymm x y low high
  · exact (List.mergeSort_perm _ _).trans (same.trans (List.mergeSort_perm _ _).symm)

theorem sortLE_total (x y : Float) : (Scalar.sortLE x y || Scalar.sortLE y x) = true := by
  rw [Bool.or_eq_true]
  exact (le_total (sortKey x) (sortKey y)).imp decide_eq_true decide_eq_true

theorem sortLE_trans (x y z : Float) (low : Scalar.sortLE x y = true)
    (high : Scalar.sortLE y z = true) : Scalar.sortLE x z = true :=
  decide_eq_true ((of_decide_eq_true low).trans (of_decide_eq_true high))

/-- **Sorting depends only on how often each value occurs.** -/
theorem sort_congr {values others : List Float} (same : values.Perm others) :
    Scalar.sort values = Scalar.sort others :=
  sort_of_perm sortLE_total sortLE_trans (fun _ _ low high =>
    sortKey_injective (le_antisymm (of_decide_eq_true low) (of_decide_eq_true high))) same

theorem sortLE_total_exact (x y : ℚ) : (Scalar.sortLE x y || Scalar.sortLE y x) = true := by
  rw [Bool.or_eq_true]
  exact (le_total x y).imp decide_eq_true decide_eq_true

theorem sortLE_trans_exact (x y z : ℚ) (low : Scalar.sortLE x y = true)
    (high : Scalar.sortLE y z = true) : Scalar.sortLE x z = true :=
  decide_eq_true ((of_decide_eq_true low).trans (of_decide_eq_true high))

/-- The same for the exact reading of values. -/
theorem sort_congr_exact {values others : List ℚ} (same : values.Perm others) :
    Scalar.sort values = Scalar.sort others :=
  sort_of_perm sortLE_total_exact sortLE_trans_exact (fun _ _ low high =>
    le_antisymm (of_decide_eq_true low) (of_decide_eq_true high)) same

end LoadTest.Rounding
