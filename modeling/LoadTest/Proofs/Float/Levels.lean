/-
**The order of all floats.**

A float stands at the number that it denotes, or beyond all numbers on one side, or it is no number
and stands nowhere. Floats are compared by where they stand, so their order is transitive. A result
that is too large to be finite stands beyond all numbers: whole numbers keep their order when they
become floats, and adding what is not negative never lowers a float.

* `Rounding.level`: where a float stands;
* `Rounding.le_iff_level`, `Rounding.lt_iff_level`: comparing floats;
* `Rounding.level_pack`: where a result stands that may be too large;
* `Rounding.ofNat_le_ofNat`: whole numbers as floats;
* `Rounding.level_add`, `Rounding.add_le_add_finite`: sums.
-/

import Mathlib.Order.WithBot
import LoadTest.Proofs.Float.Finite

namespace LoadTest.Rounding

open Float.Model Float.Model.UnpackedFloat

/-! ### Where a float stands -/

/-- The numbers, with a place beyond them on each side. -/
abbrev Level : Type := WithBot (WithTop ℚ)

/-- A number among the levels. -/
def Level.of (q : ℚ) : Level := ((q : WithTop ℚ) : WithBot (WithTop ℚ))

theorem Level.of_le {p q : ℚ} : Level.of p ≤ Level.of q ↔ p ≤ q :=
  WithBot.coe_le_coe.trans WithTop.coe_le_coe

theorem Level.of_lt {p q : ℚ} : Level.of p < Level.of q ↔ p < q :=
  WithBot.coe_lt_coe.trans WithTop.coe_lt_coe

theorem Level.bot_lt_of (q : ℚ) : ⊥ < Level.of q := WithBot.bot_lt_coe _

theorem Level.of_lt_top (q : ℚ) : Level.of q < ⊤ := WithBot.coe_lt_coe.mpr (WithTop.coe_lt_top q)

/-- The place beyond all numbers on a side. -/
def Level.beyond : Sign → Level
  | .positive => ⊤
  | .negative => ⊥

/-- Where an unpacked float stands. -/
def levelOf : UnpackedFloat → Option Level
  | .notANumber => none
  | .infinity sign => some (Level.beyond sign)
  | other => some (Level.of (valueOf other))

/-- **Where a float stands**, if it is a number. -/
def level (x : Float) : Option Level := levelOf x.toModel.unpack

theorem levelOf_canonical {a : UnpackedFloat} (canonical : Canonical a) :
    levelOf a = some (Level.of (valueOf a)) := by
  cases a with
  | notANumber | infinity => exact canonical.elim
  | zero | finite => rfl

theorem Denotes.level {x : Float} {p : ℚ} (denotes : Denotes x p) :
    Rounding.level x = some (Level.of p) := by
  rw [Rounding.level, levelOf_canonical denotes.canonical, denotes.value]

/-- What stands somewhere is infinite or denotes a number. -/
theorem level_cases {x : Float} {k : Level} (stands : level x = some k) :
    (∃ sign, x.toModel.unpack = .infinity sign ∧ k = Level.beyond sign) ∨
      ∃ p, Denotes x p ∧ k = Level.of p := by
  rcases canonical_unpack x with missing | ⟨sign, infinite⟩ | canonical
  · rw [level, missing] at stands
    contradiction
  · rw [level, infinite] at stands
    exact .inl ⟨sign, infinite, (Option.some.inj stands).symm⟩
  · have number : Denotes x (valueOf x.toModel.unpack) := ⟨canonical, rfl⟩
    rw [number.level] at stands
    exact .inr ⟨_, number, (Option.some.inj stands).symm⟩

theorem Level.of_inj {p q : ℚ} : Level.of p = Level.of q ↔ p = q :=
  ⟨fun same => le_antisymm (Level.of_le.1 same.le) (Level.of_le.1 same.ge), congrArg Level.of⟩

/-- **A float denotes a number if it stands there.** -/
theorem denotes_iff_level {x : Float} {p : ℚ} : Denotes x p ↔ level x = some (Level.of p) := by
  refine ⟨Denotes.level, fun stands => ?_⟩
  rcases level_cases stands with ⟨sign, -, apart⟩ | ⟨q, denotes, same⟩
  · cases sign with
    | positive => exact absurd apart (Level.of_lt_top _).ne
    | negative => exact absurd apart (Level.bot_lt_of _).ne'
  · rwa [Level.of_inj.1 same]

/-! ### Comparing -/

/-- What unpacked floats there are. -/
def Sound (a : UnpackedFloat) : Prop :=
  a = .notANumber ∨ (∃ sign, a = .infinity sign) ∨ Canonical a

/-- **Unpacked floats are compared by where they stand.** -/
theorem compare_levels {a b : UnpackedFloat} (first : Sound a) (second : Sound b) :
    a.compare b = (levelOf a).bind fun k => (levelOf b).map (compare k) := by
  have least (q : ℚ) : compare ⊥ (Level.of q) = .lt := compare_lt_iff_lt.mpr (Level.bot_lt_of q)
  have most (q : ℚ) : compare (Level.of q) ⊤ = .lt := compare_lt_iff_lt.mpr (Level.of_lt_top q)
  have least' (q : ℚ) : compare (Level.of q) ⊥ = .gt := compare_gt_iff_gt.mpr (Level.bot_lt_of q)
  have most' (q : ℚ) : compare ⊤ (Level.of q) = .gt := compare_gt_iff_gt.mpr (Level.of_lt_top q)
  have ends : compare (⊥ : Level) ⊤ = .lt := compare_lt_iff_lt.mpr bot_lt_top
  have ends' : compare (⊤ : Level) ⊥ = .gt := compare_gt_iff_gt.mpr bot_lt_top
  have same (k : Level) : compare k k = .eq := compare_eq_iff_eq.mpr rfl
  rcases first with rfl | ⟨sign, rfl⟩ | first
  · cases b <;> rfl
  · rcases second with rfl | ⟨other, rfl⟩ | second
    · cases sign <;> rfl
    · cases sign <;> cases other
      · exact congrArg some (same ⊥).symm
      · exact congrArg some ends.symm
      · exact congrArg some ends'.symm
      · exact congrArg some (same ⊤).symm
    · rw [levelOf_canonical second]
      cases b with
      | notANumber | infinity => exact second.elim
      | zero | finite =>
        cases sign with
        | positive => exact congrArg some (most' _).symm
        | negative => exact congrArg some (least _).symm
  · rcases second with rfl | ⟨other, rfl⟩ | second
    · rw [levelOf_canonical first]
      cases a <;> rfl
    · rw [levelOf_canonical first]
      cases a with
      | notANumber | infinity => exact first.elim
      | zero | finite =>
        cases other with
        | positive => exact congrArg some (most _).symm
        | negative => exact congrArg some (least' _).symm
    · rw [levelOf_canonical first, levelOf_canonical second, compare_value first second]
      show some _ = some (compare (Level.of (valueOf a)) (Level.of (valueOf b)))
      congr 1
      rcases lt_trichotomy (valueOf a) (valueOf b) with less | equal | more
      · rw [compare_lt_iff_lt.mpr less, compare_lt_iff_lt.mpr (Level.of_lt.mpr less)]
      · rw [equal, same, compare_eq_iff_eq.mpr rfl]
      · rw [compare_gt_iff_gt.mpr more, compare_gt_iff_gt.mpr (Level.of_lt.mpr more)]

section Floats

variable {x y z : Float}

theorem compare_level (x y : Float) : x.toModel.unpack.compare y.toModel.unpack =
    (level x).bind fun k => (level y).map (compare k) :=
  compare_levels (canonical_unpack x) (canonical_unpack y)

theorem lt_iff_level : x < y ↔ ∃ k l, level x = some k ∧ level y = some l ∧ k < l := by
  have order : x < y ↔ (x.toModel.unpack.compare y.toModel.unpack == some .lt) = true := by
    show decide (_ = true) = true ↔ _
    exact decide_eq_true_iff
  rw [order, compare_level, beq_iff_eq]
  cases level x with
  | none => simp
  | some k =>
    cases level y with
    | none => simp
    | some l => simp [compare_lt_iff_lt]

theorem le_iff_level : x ≤ y ↔ ∃ k l, level x = some k ∧ level y = some l ∧ k ≤ l := by
  rw [le_iff_compare, compare_level]
  cases level x with
  | none => simp
  | some k =>
    cases level y with
    | none => simp
    | some l => simp [Ordering.isLE_iff_ne_gt, compare_le_iff_le]

/-- **What is below a float is below all that the float is below.** -/
theorem below_of_le (order : x ≤ y) : (y < z → x < z) ∧ (y ≤ z → x ≤ z) := by
  obtain ⟨k, l, first, second, below⟩ := le_iff_level.1 order
  constructor
  · intro less
    obtain ⟨_, m, same, third, above⟩ := lt_iff_level.1 less
    obtain rfl := Option.some.inj (second.symm.trans same)
    exact lt_iff_level.2 ⟨k, m, first, third, below.trans_lt above⟩
  · intro less
    obtain ⟨_, m, same, third, above⟩ := le_iff_level.1 less
    obtain rfl := Option.some.inj (second.symm.trans same)
    exact le_iff_level.2 ⟨k, m, first, third, below.trans above⟩

/-- **What is above a float is above all that the float is above.** -/
theorem above_of_le (order : x ≤ y) : (z < x → z < y) ∧ (z ≤ x → z ≤ y) := by
  obtain ⟨k, l, first, second, below⟩ := le_iff_level.1 order
  constructor
  · intro less
    obtain ⟨m, _, third, same, above⟩ := lt_iff_level.1 less
    obtain rfl := Option.some.inj (first.symm.trans same)
    exact lt_iff_level.2 ⟨m, l, third, second, above.trans_le below⟩
  · intro less
    obtain ⟨m, _, third, same, above⟩ := le_iff_level.1 less
    obtain rfl := Option.some.inj (first.symm.trans same)
    exact le_iff_level.2 ⟨m, l, third, second, above.trans below⟩

end Floats

/-! ### Results that are too large -/

/-- Where a number is rounded to. -/
def reach (q : ℚ) : Level :=
  if 2 ^ (1024 : ℤ) ≤ q then ⊤ else if q ≤ -2 ^ (1024 : ℤ) then ⊥ else Level.of q

theorem reach_of_abs_lt {q : ℚ} (small : |q| < 2 ^ (1024 : ℤ)) : reach q = Level.of q := by
  obtain ⟨below, above⟩ := abs_lt.1 small
  rw [reach, if_neg above.not_ge, if_neg below.not_ge]

/-- A number is rounded to itself, if it is not too large. -/
theorem reach_eq_of_iff {p q : ℚ} : reach q = Level.of p ↔ q = p ∧ |p| < 2 ^ (1024 : ℤ) := by
  constructor
  · intro same
    unfold reach at same
    split_ifs at same with above below
    · exact absurd same (Level.of_lt_top _).ne'
    · exact absurd same (Level.bot_lt_of _).ne
    · obtain rfl := Level.of_inj.1 same
      exact ⟨rfl, abs_lt.2 ⟨not_le.1 below, not_le.1 above⟩⟩
  · rintro ⟨rfl, small⟩
    exact reach_of_abs_lt small

theorem reach_mono {p q : ℚ} (order : p ≤ q) : reach p ≤ reach q := by
  unfold reach
  by_cases top : 2 ^ (1024 : ℤ) ≤ q
  · rw [if_pos top]
    exact le_top
  rw [if_neg top, if_neg fun above => top (above.trans order)]
  by_cases bottom : p ≤ -2 ^ (1024 : ℤ)
  · rw [if_pos bottom]
    exact bot_le
  rw [if_neg bottom, if_neg fun below => bottom (order.trans below)]
  exact Level.of_le.mpr order

/-- A float that is too large is packed as an infinite one. -/
theorem unpack_pack_large {s : Sign} {m : ℕ} {e : ℤ} {positive : 0 < m} (bits : m < 2 ^ 53)
    (large : (2 : ℚ) ^ (1024 : ℤ) ≤ m * 2 ^ e) :
    (Float.Model.pack (.finite s m e positive)).unpack = .infinity s := by
  have power : 971 < e := by
    by_contra low
    have small := magnitude_lt_top bits (not_lt.1 low)
    exact absurd (large.trans (le_abs_self _)) small.not_ge
  have packed : UnpackedFloat.pack .binary64 (.finite s m e positive) =
      packedInfinity .binary64 s := by
    unfold UnpackedFloat.pack
    dsimp only
    rw [if_pos]
    show 2 ^ 11 ≤ (e + 1023 + 52).toNat + 1
    omega
  show UnpackedFloat.unpack .binary64 (UnpackedFloat.pack .binary64 (.finite s m e positive)) = _
  rw [packed]
  cases s <;> rfl

/-- **Where a result stands** that is rounded and packed. -/
theorem level_pack {a : UnpackedFloat} {x : ℚ} (result : Canonical a ∧ valueOf a = near x) :
    level (.ofModel (Float.Model.pack a)) = some (reach (near x)) := by
  obtain ⟨canonical, value⟩ := result
  show levelOf (Float.Model.pack a).unpack = _
  by_cases small : |near x| < 2 ^ (1024 : ℤ)
  · rw [unpack_pack canonical (value ▸ small), levelOf_canonical canonical, value,
      reach_of_abs_lt small]
  · rw [not_lt] at small
    cases a with
    | notANumber | infinity => exact canonical.elim
    | zero s =>
      rw [← value] at small
      exact absurd (two_zpow_pos 1024) (small.trans_eq abs_zero).not_gt
    | finite s m e positive =>
      rw [valueOf_finite] at value
      rw [← value, abs_signed, abs_of_nonneg (by positivity)] at small
      rw [unpack_pack_large canonical.1 small, ← value]
      unfold reach
      cases s with
      | positive => exact congrArg some (if_pos small).symm
      | negative =>
        have below : -((m : ℚ) * 2 ^ e) ≤ -2 ^ (1024 : ℤ) := neg_le_neg small
        have low : ¬ (2 : ℚ) ^ (1024 : ℤ) ≤ -(m * 2 ^ e) :=
          ((neg_nonpos.2 (by positivity)).trans_lt (two_zpow_pos 1024)).not_ge
        exact congrArg some ((if_neg low).trans (if_pos below)).symm

/-- **Whole numbers keep their order as floats.** -/
theorem ofNat_le_ofNat {m n : ℕ} (order : m ≤ n) : Float.ofNat m ≤ Float.ofNat n := by
  have stands (n : ℕ) : level (Float.ofNat n) = some (reach (near n)) := by
    by_cases small : n < 2 ^ 53
    · have number := denotes_natCast (n := n) (by omega)
      rw [number.level, reach_of_abs_lt number.abs_lt]
    · obtain ⟨a, result, read⟩ := ofNat_large small
      rw [read, level_pack result]
  exact le_iff_level.2 ⟨_, _, stands m, stands n, reach_mono (near_mono (by exact_mod_cast order))⟩

/-! ### Sums -/

/-- Where a sum stands whose first part stands on a level. -/
def Level.add : Level → ℚ → Level
  | none, _ => ⊥
  | some none, _ => ⊤
  | some (some p), q => reach (near (p + q))

theorem Level.add_mono {k l : Level} (order : k ≤ l) (q : ℚ) : k.add q ≤ l.add q := by
  rcases k with _ | _ | p
  · exact bot_le
  · obtain rfl : l = ⊤ := top_le_iff.mp order
    exact le_rfl
  · rcases l with _ | _ | r
    · exact absurd order (Level.bot_lt_of p).not_ge
    · exact le_top
    · exact reach_mono (near_mono (add_le_add_left (Level.of_le.mp order) q))

section Sums

variable {x y z : Float} {k : Level} {q : ℚ}

/-- **Where a sum stands** whose second part is finite. -/
theorem level_add (first : level x = some k) (second : Denotes z q) :
    level (x + z) = some (k.add q) := by
  have canonical := second.canonical
  show levelOf (Float.Model.pack (UnpackedFloat.add .binary64 x.toModel.unpack
    z.toModel.unpack)).unpack = _
  rcases level_cases first with ⟨sign, infinite, rfl⟩ | ⟨p, number, rfl⟩
  · have sum : UnpackedFloat.add .binary64 x.toModel.unpack z.toModel.unpack = .infinity sign := by
      rw [infinite]
      cases other : z.toModel.unpack with
      | notANumber | infinity =>
        rw [other] at canonical
        exact canonical.elim
      | zero | finite => rfl
    rw [sum]
    cases sign <;> rfl
  · have sum := level_pack (add_near number.canonical canonical)
    rw [number.value, second.value] at sum
    exact sum

/-- **Adding a finite float keeps the order.** -/
theorem add_le_add_finite (order : x ≤ y) (finite : z.isFinite = true) : x + z ≤ y + z := by
  obtain ⟨k, l, first, second, below⟩ := le_iff_level.1 order
  obtain ⟨q, number⟩ := isFinite_iff.1 finite
  exact le_iff_level.2
    ⟨_, _, level_add first number, level_add second number, Level.add_mono below q⟩

/-- **Adding what is not negative does not lower a float.** -/
theorem le_add_finite (first : level x = some k) (finite : z.isFinite = true)
    (nonneg : Float.ofNat 0 ≤ z) : x ≤ x + z := by
  obtain ⟨q, number⟩ := isFinite_iff.1 finite
  have zero := denotes_natCast (n := 0) (by decide)
  rw [Nat.cast_zero, near_zero] at zero
  have positive : 0 ≤ q := (zero.le_iff number).1 nonneg
  refine le_iff_level.2 ⟨_, _, first, level_add first number, ?_⟩
  rcases level_cases first with ⟨sign, -, rfl⟩ | ⟨p, own, rfl⟩
  · cases sign <;> exact le_rfl
  · have order : near p ≤ near (p + q) := near_mono (le_add_of_nonneg_right positive)
    show Level.of p ≤ reach (near (p + q))
    rw [← reach_of_abs_lt own.abs_lt]
    rw [own.near] at order
    exact reach_mono order

end Sums

end LoadTest.Rounding
