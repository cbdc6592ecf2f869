/-
**The least, the greatest and the sum of some floats.**

Values are sorted by their bits. For finite floats this is the order of the numbers that they
denote, so the ends of the sorted list are the least and the greatest of them. A sum is rounded at
every step, and it may become infinite; still it does not fall when values are added that are not
negative, at its end or, with the values sorted, among the others.

* `Rounding.le_of_sortKey`: finite floats are sorted as their numbers;
* `Rounding.least_le`, `Rounding.le_greatest`: the ends of some sorted values;
* `Rounding.foldl_add_mono`, `Rounding.le_foldl_add`: sums, value by value;
* `Rounding.sum_sort_le`: the sum of some sorted values.
-/

import LoadTest.Proofs.Float.Levels

namespace LoadTest.Rounding

open Float.Model Float.Model.UnpackedFloat Decimal

/-! ### The total order and the numbers -/

/-- The size that bits stand for, without their sign. -/
def bitsSize (bits : UInt64) : ℚ :=
  (Binary.ofBits bits).significand * 2 ^ (Binary.ofBits bits).exponent

theorem bitsSize_nonneg (bits : UInt64) : 0 ≤ bitsSize bits := by
  unfold bitsSize
  positivity

/-- The size by the number that the bits are without their sign. -/
theorem bitsSize_fields (bits : UInt64) : ∃ m : ℕ, ∃ e : ℤ, bitsSize bits = m * 2 ^ e ∧
    m < 2 ^ 53 ∧ e = ((max (bits.toNat % 2 ^ 63 / 2 ^ 52) 1 : ℕ) : ℤ) - 1075 ∧
    m = min (bits.toNat % 2 ^ 63 / 2 ^ 52) 1 * 2 ^ 52 + bits.toNat % 2 ^ 52 := by
  have power : ((bits >>> 52) &&& 0x7FF).toNat = bits.toNat % 2 ^ 63 / 2 ^ 52 := by
    have field : ((bits >>> 52) &&& 0x7FF).toNat = bits.toNat >>> 52 % 2 ^ 11 := by
      rw [UInt64.toNat_and, UInt64.toNat_shiftRight]
      exact Nat.and_two_pow_sub_one_eq_mod _ 11
    rw [field, Nat.shiftRight_eq_div_pow]
    omega
  have digits : (bits &&& 0xFFFFFFFFFFFFF).toNat = bits.toNat % 2 ^ 52 := by
    rw [UInt64.toNat_and]
    exact Nat.and_two_pow_sub_one_eq_mod _ 52
  refine ⟨_, _, rfl, ?_⟩
  by_cases none : ((bits >>> 52) &&& 0x7FF).toNat = 0
  · rw [ofBits_of_eq_zero none, digits]
    dsimp only
    omega
  · rw [ofBits_of_ne_zero none, digits, power]
    dsimp only
    omega

/-- Without their signs, floats are in the order of their bits. -/
theorem bitsSize_strictMono {bits other : UInt64}
    (order : bits.toNat % 2 ^ 63 < other.toNat % 2 ^ 63) : bitsSize bits < bitsSize other := by
  obtain ⟨m, e, size, few, power, digits⟩ := bitsSize_fields bits
  obtain ⟨n, f, size', -, power', digits'⟩ := bitsSize_fields other
  rw [size, size']
  rcases (show e < f ∨ e = f by omega) with less | same
  · exact magnitude_lt few (by omega) less
  · have mantissa : (m : ℚ) < n := by exact_mod_cast (by omega : m < n)
    rw [same]
    exact mul_lt_mul_of_pos_right mantissa (by positivity)

theorem bitsSize_mono {bits other : UInt64} (order : bits.toNat % 2 ^ 63 ≤ other.toNat % 2 ^ 63) :
    bitsSize bits ≤ bitsSize other := by
  rcases order.lt_or_eq with less | same
  · exact (bitsSize_strictMono less).le
  · obtain ⟨m, e, size, -, power, digits⟩ := bitsSize_fields bits
    obtain ⟨n, f, size', -, power', digits'⟩ := bitsSize_fields other
    rw [size, size', show m = n by omega, show e = f by omega]

theorem Denotes.bitsSize_eq {x : Float} {p : ℚ} (denotes : Denotes x p) :
    (x.toBits.toNat < 2 ^ 63 → p = bitsSize x.toBits) ∧
      (2 ^ 63 ≤ x.toBits.toNat → p = -bitsSize x.toBits) := by
  have value := valueOf_bits denotes.canonical
  have bound := x.toBits.toNat_lt
  have sign : x.toBits >>> 63 = 1 ↔ 2 ^ 63 ≤ x.toBits.toNat := by
    rw [← UInt64.toNat_inj, UInt64.toNat_shiftRight, Nat.shiftRight_eq_div_pow]
    show x.toBits.toNat / 2 ^ 63 = 1 ↔ _
    omega
  rw [denotes.value] at value
  constructor
  · intro plus
    rw [if_neg (mt sign.mp plus.not_ge)] at value
    exact value
  · intro minus
    rw [if_pos (sign.mpr minus)] at value
    exact value

/-- **Floats that denote one number are the same**, unless it is zero. -/
theorem Denotes.eq_of_ne_zero {x y : Float} {p : ℚ} (first : Denotes x p) (second : Denotes y p)
    (apart : p ≠ 0) : x = y := by
  have bound := x.toBits.toNat_lt
  have bound' := y.toBits.toNat_lt
  have size := bitsSize_nonneg x.toBits
  have size' := bitsSize_nonneg y.toBits
  have same (equal : bitsSize x.toBits = bitsSize y.toBits) :
      x.toBits.toNat % 2 ^ 63 = y.toBits.toNat % 2 ^ 63 := by
    rcases lt_trichotomy (x.toBits.toNat % 2 ^ 63) (y.toBits.toNat % 2 ^ 63) with less | done | more
    · exact absurd equal (bitsSize_strictMono less).ne
    · exact done
    · exact absurd equal (bitsSize_strictMono more).ne'
  apply toBits_injective
  apply UInt64.toNat_inj.mp
  rcases lt_or_ge x.toBits.toNat (2 ^ 63) with plus | minus
  · have value := first.bitsSize_eq.1 plus
    rcases lt_or_ge y.toBits.toNat (2 ^ 63) with plus' | minus'
    · have rest := same (value.symm.trans (second.bitsSize_eq.1 plus'))
      omega
    · have value' := second.bitsSize_eq.2 minus'
      exact absurd (by linarith) apart
  · have value := first.bitsSize_eq.2 minus
    rcases lt_or_ge y.toBits.toNat (2 ^ 63) with plus' | minus'
    · have value' := second.bitsSize_eq.1 plus'
      exact absurd (by linarith) apart
    · have rest := same (neg_inj.mp (value.symm.trans (second.bitsSize_eq.2 minus')))
      omega

/-- A float without digits is one of the two zeros. -/
theorem eq_zero_of_significand {x : Float} (none : (Binary.ofBits x.toBits).significand = 0) :
    x = Float.ofBits 0 ∨ x = Float.ofBits 0x8000000000000000 := by
  have bound := x.toBits.toNat_lt
  obtain ⟨m, e, size, -, -, digits⟩ := bitsSize_fields x.toBits
  have zero : bitsSize x.toBits = 0 := by rw [bitsSize, none, Nat.cast_zero, zero_mul]
  rw [size, mul_eq_zero, or_iff_left (two_zpow_pos e).ne', Nat.cast_eq_zero] at zero
  have either : x.toBits.toNat = 0 ∨ x.toBits.toNat = 2 ^ 63 := by omega
  rcases either with plus | minus
  · exact .inl (toBits_injective (UInt64.toNat_inj.mp plus))
  · exact .inr (toBits_injective (UInt64.toNat_inj.mp minus))

/-- **Finite floats are sorted as the numbers that they denote.** -/
theorem Denotes.le_of_sortKey {x y : Float} {p q : ℚ} (first : Denotes x p) (second : Denotes y q)
    (order : sortKey x ≤ sortKey y) : p ≤ q := by
  have bound := x.toBits.toNat_lt
  have bound' := y.toBits.toNat_lt
  have size := bitsSize_nonneg x.toBits
  have size' := bitsSize_nonneg y.toBits
  unfold sortKey at order
  dsimp only at order
  rcases lt_or_ge x.toBits.toNat (2 ^ 63) with plus | minus
  · have plus' : y.toBits.toNat < 2 ^ 63 := by
      split_ifs at order <;> omega
    rw [first.bitsSize_eq.1 plus, second.bitsSize_eq.1 plus']
    refine bitsSize_mono ?_
    split_ifs at order <;> omega
  · rw [first.bitsSize_eq.2 minus]
    rcases lt_or_ge y.toBits.toNat (2 ^ 63) with plus' | minus'
    · rw [second.bitsSize_eq.1 plus']
      linarith
    · rw [second.bitsSize_eq.2 minus']
      refine neg_le_neg (bitsSize_mono ?_)
      split_ifs at order <;> omega

/-! ### The ends of sorted values -/

theorem pairwise_sort (values : List Float) :
    (Scalar.sort values).Pairwise fun x y => sortKey x ≤ sortKey y :=
  (List.pairwise_mergeSort sortLE_trans sortLE_total values).imp of_decide_eq_true

theorem mem_sort {values : List Float} {x : Float} : x ∈ Scalar.sort values ↔ x ∈ values :=
  (List.mergeSort_perm ..).mem_iff

section Ends

variable {values : List Float} {x y : Float}

theorem le_of_sortKey (first : x.isFinite = true) (second : y.isFinite = true)
    (order : sortKey x ≤ sortKey y) : x ≤ y := by
  obtain ⟨p, first⟩ := isFinite_iff.1 first
  obtain ⟨q, second⟩ := isFinite_iff.1 second
  exact (first.le_iff second).2 (first.le_of_sortKey second order)

/-- **The first of some sorted values is below every one of them.** -/
theorem least_le (finite : ∀ value ∈ values, value.isFinite = true)
    (least : (Scalar.sort values).head? = some x) (member : y ∈ values) : x ≤ y := by
  obtain ⟨rest, sorted⟩ := List.head?_eq_some_iff.1 least
  have order := pairwise_sort values
  have among := mem_sort.2 member
  refine le_of_sortKey (finite x (mem_sort.1 (List.mem_of_head? least))) (finite y member) ?_
  rw [sorted] at order among
  rcases List.mem_cons.1 among with rfl | later
  · exact le_rfl
  · exact List.rel_of_pairwise_cons order later

/-- **The last of some sorted values is above every one of them.** -/
theorem le_greatest (finite : ∀ value ∈ values, value.isFinite = true)
    (greatest : (Scalar.sort values).getLast? = some y) (member : x ∈ values) : x ≤ y := by
  obtain ⟨rest, sorted⟩ := List.getLast?_eq_some_iff.1 greatest
  have order := pairwise_sort values
  have among := mem_sort.2 member
  refine le_of_sortKey (finite x member) (finite y (mem_sort.1 (List.mem_of_getLast? greatest))) ?_
  rw [sorted] at order among
  rcases List.mem_append.1 among with earlier | last
  · exact (List.pairwise_append.1 order).2.2 x earlier y List.mem_cons_self
  · rw [List.mem_singleton.1 last]

end Ends

/-! ### Sums -/

section Sums

variable {values more : List Float} {x y : Float} {k : Level}

/-- A sum of finite floats is a number, which may be an infinite one. -/
theorem exists_level_foldl (finite : ∀ value ∈ values, value.isFinite = true)
    (number : level x = some k) : ∃ l, level (values.foldl (· + ·) x) = some l := by
  induction values generalizing x k with
  | nil => exact ⟨k, number⟩
  | cons value values ih =>
    obtain ⟨own, finite⟩ := List.forall_mem_cons.1 finite
    obtain ⟨q, denotes⟩ := isFinite_iff.1 own
    exact ih finite (level_add number denotes)

/-- **What starts lower has the lower sum.** -/
theorem foldl_add_mono (finite : ∀ value ∈ values, value.isFinite = true) (order : x ≤ y) :
    values.foldl (· + ·) x ≤ values.foldl (· + ·) y := by
  induction values generalizing x y with
  | nil => exact order
  | cons value values ih =>
    obtain ⟨own, finite⟩ := List.forall_mem_cons.1 finite
    exact ih finite (add_le_add_finite order own)

/-- **What is not negative does not lower a sum.** -/
theorem le_foldl_add (finite : ∀ value ∈ values, value.isFinite = true)
    (nonneg : ∀ value ∈ values, Float.ofNat 0 ≤ value) (number : level x = some k) :
    x ≤ values.foldl (· + ·) x := by
  induction values generalizing x k with
  | nil => exact le_iff_level.2 ⟨k, k, number, number, le_rfl⟩
  | cons value values ih =>
    obtain ⟨own, finite⟩ := List.forall_mem_cons.1 finite
    obtain ⟨above, nonneg⟩ := List.forall_mem_cons.1 nonneg
    obtain ⟨q, denotes⟩ := isFinite_iff.1 own
    have rest := ih finite nonneg (level_add number denotes)
    exact (above_of_le rest).2 (le_add_finite number own above)

/-- One more value stands somewhere among the sorted ones. -/
theorem exists_sort_concat (values : List Float) (x : Float) : ∃ front back,
    Scalar.sort values = front ++ back ∧ Scalar.sort (values ++ [x]) = front ++ x :: back := by
  obtain ⟨front, back, sorted⟩ := List.append_of_mem
    (mem_sort.2 (List.mem_append_right values (List.mem_singleton_self x)))
  refine ⟨front, back, ?_, sorted⟩
  have order := pairwise_sort (values ++ [x])
  have same : (Scalar.sort (values ++ [x])).Perm (values ++ [x]) := List.mergeSort_perm ..
  rw [sorted] at order same
  have rest : (front ++ back).Perm values :=
    (List.perm_middle.symm.trans (same.trans List.perm_append_comm)).cons_inv
  refine List.Perm.eq_of_pairwise (fun a b _ _ low high => sortKey_injective (le_antisymm low high))
    (pairwise_sort values) (order.sublist ?_) ((List.mergeSort_perm ..).trans rest.symm)
  exact List.Sublist.append_left (List.sublist_cons_self x back) front

/-- **What is not negative does not lower the sum of sorted values.** -/
theorem sum_sort_le (finite : ∀ value ∈ values ++ more, value.isFinite = true)
    (nonneg : ∀ value ∈ more, Float.ofNat 0 ≤ value) :
    Scalar.sum (Scalar.sort values) ≤ Scalar.sum (Scalar.sort (values ++ more)) := by
  have start : (Scalar.nothing : Float).isFinite = true := by decide +kernel
  obtain ⟨p, start⟩ := isFinite_iff.1 start
  induction more using List.reverseRecOn with
  | nil =>
    rw [List.append_nil] at finite ⊢
    obtain ⟨k, number⟩ := exists_level_foldl
      (fun value member => finite value (mem_sort.1 member)) start.level
    exact le_iff_level.2 ⟨k, k, number, number, le_rfl⟩
  | append_singleton more value ih =>
    rw [← List.append_assoc] at finite ⊢
    obtain ⟨before, own⟩ := List.forall_mem_append.1 finite
    obtain ⟨earlier, above⟩ := List.forall_mem_append.1 nonneg
    refine (below_of_le (ih before earlier)).2 ?_
    obtain ⟨front, back, old, new⟩ := exists_sort_concat (values ++ more) value
    have split : ∀ value ∈ front ++ back, value.isFinite = true := by
      intro value member
      rw [← old] at member
      exact before value (mem_sort.1 member)
    obtain ⟨ahead, behind⟩ := List.forall_mem_append.1 split
    obtain ⟨k, number⟩ := exists_level_foldl ahead start.level
    unfold Scalar.sum
    rw [old, new, List.foldl_append, List.foldl_append, List.foldl_cons]
    exact foldl_add_mono behind (le_add_finite number
      (own value (List.mem_singleton_self value)) (above value (List.mem_singleton_self value)))

end Sums

end LoadTest.Rounding
