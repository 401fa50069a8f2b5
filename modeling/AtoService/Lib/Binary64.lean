/-
Rounding of non-negative rationals: to integers with halves to even, and to binary64.

`halfEven` and `nearest` are executable. A rounded value is compared with a value of the target format by one criterion
(`le_halfEven_iff`), from which both roundings are monotone (`halfEven_mono`, `nearest_mono`) and keep the values that the
format has (`halfEven_intCast`, `nearest_natCast`). Overflow is left out: `nearest` is about magnitudes below the largest
double.
-/
import Mathlib.Data.Int.Log
import Mathlib.Tactic

namespace AtoService.Binary64

/-- the nearest integer, halves to even -/
def halfEven (q : ℚ) : ℤ := if 2 * Int.fract q < 1 ∨ 2 * Int.fract q = 1 ∧ Even ⌊q⌋ then ⌊q⌋ else ⌊q⌋ + 1

/-- the exponent of the last place of the doubles around `q` -/
def lastPlace (q : ℚ) : ℤ := max (Int.log 2 q - 52) (-1074)

/-- the nearest double, halves to even -/
def nearest (q : ℚ) : ℚ := halfEven (q / 2 ^ lastPlace q) * 2 ^ lastPlace q

/-! ## Integers -/

/-- an integer is at most the rounded value when it is less than one half above, or a half and even -/
theorem le_halfEven_iff {n : ℤ} {q : ℚ} : n ≤ halfEven q ↔ n - 1 / 2 < q ∨ n - 1 / 2 = q ∧ Even n := by
  have hsum : q = ⌊q⌋ + Int.fract q := (Int.floor_add_fract q).symm
  have hpos := Int.fract_nonneg q
  have hlt := Int.fract_lt_one q
  unfold halfEven
  generalize Int.fract q = r at hsum hpos hlt ⊢
  generalize ⌊q⌋ = f at hsum ⊢
  subst hsum
  split_ifs with hdown
  · constructor
    · intro hle
      have hle' : (n : ℚ) ≤ f := Int.cast_le.2 hle
      left
      linarith
    · intro h
      by_contra hgt
      have hge : ((f + 1 : ℤ) : ℚ) ≤ n := Int.cast_le.2 (by omega)
      push_cast at hge
      rcases hdown with hsmall | ⟨hhalf, heven⟩
      · rcases h with h | ⟨h, -⟩ <;> linarith
      · rcases h with h | ⟨h, hn⟩
        · linarith
        · have hnext : ((f + 1 : ℤ) : ℚ) = n := by
            push_cast
            linarith
          rw [← Int.cast_inj.1 hnext] at hn
          exact (Int.not_even_iff_odd.2 (heven.add_one)) hn
  · rw [not_or, not_lt, not_and] at hdown
    obtain ⟨hlarge, hodd⟩ := hdown
    constructor
    · intro hle
      have hle' : (n : ℚ) ≤ ((f + 1 : ℤ) : ℚ) := Int.cast_le.2 hle
      push_cast at hle'
      rcases lt_or_eq_of_le (show (n : ℚ) - 1 / 2 ≤ f + r by linarith) with h | h
      · exact Or.inl h
      · refine Or.inr ⟨h, ?_⟩
        have hhalf : 2 * r = 1 := by linarith
        have hnext : (n : ℚ) = ((f + 1 : ℤ) : ℚ) := by
          push_cast
          linarith
        rw [Int.cast_inj.1 hnext]
        exact (Int.not_even_iff_odd.1 (hodd hhalf)).add_one
    · intro h
      by_contra hgt
      have hge : ((f + 2 : ℤ) : ℚ) ≤ n := Int.cast_le.2 (by omega)
      push_cast at hge
      rcases h with h | ⟨h, -⟩ <;> linarith

theorem halfEven_mono {q q' : ℚ} (h : q ≤ q') : halfEven q ≤ halfEven q' := by
  have hself := le_halfEven_iff.1 (le_refl (halfEven q))
  apply le_halfEven_iff.2
  rcases hself with hlt | ⟨heq, heven⟩
  · exact Or.inl (hlt.trans_le h)
  · rcases (heq.trans_le h).lt_or_eq with hlt | heq'
    · exact Or.inl hlt
    · exact Or.inr ⟨heq', heven⟩

theorem halfEven_intCast (n : ℤ) : halfEven n = n := by
  simp [halfEven]

theorem le_halfEven_of_le {n : ℤ} {q : ℚ} (h : n ≤ q) : n ≤ halfEven q := by
  have hmono := halfEven_mono h
  rwa [halfEven_intCast] at hmono

theorem halfEven_le_of_le {n : ℤ} {q : ℚ} (h : q ≤ n) : halfEven q ≤ n := by
  have hmono := halfEven_mono h
  rwa [halfEven_intCast] at hmono

/-! ## Doubles -/

theorem two_zpow_pos (e : ℤ) : (0 : ℚ) < 2 ^ e := zpow_pos (by norm_num) e

/-- a multiple of the last place is kept below -/
theorem le_nearest {m : ℤ} {q : ℚ} (h : m * 2 ^ lastPlace q ≤ q) : m * 2 ^ lastPlace q ≤ nearest q := by
  have hplace := two_zpow_pos (lastPlace q)
  have hround : m ≤ halfEven (q / 2 ^ lastPlace q) := le_halfEven_of_le ((le_div_iff₀ hplace).2 h)
  exact mul_le_mul_of_nonneg_right (Int.cast_le.2 hround) hplace.le

/-- and above -/
theorem nearest_le {m : ℤ} {q : ℚ} (h : q ≤ m * 2 ^ lastPlace q) : nearest q ≤ m * 2 ^ lastPlace q := by
  have hplace := two_zpow_pos (lastPlace q)
  have hround : halfEven (q / 2 ^ lastPlace q) ≤ m := halfEven_le_of_le ((div_le_iff₀ hplace).2 h)
  exact mul_le_mul_of_nonneg_right (Int.cast_le.2 hround) hplace.le

theorem nearest_zero : nearest 0 = 0 := by
  have hzero : halfEven 0 = 0 := by
    have h := halfEven_intCast 0
    rwa [Int.cast_zero] at h
  rw [nearest, zero_div, hzero, Int.cast_zero, zero_mul]

theorem nearest_nonneg {q : ℚ} (h : 0 ≤ q) : 0 ≤ nearest q := by
  have hle := le_nearest (m := 0) (q := q) (by simpa using h)
  simpa using hle

theorem lastPlace_mono {q q' : ℚ} (hq : 0 < q) (h : q ≤ q') : lastPlace q ≤ lastPlace q' :=
  max_le_max (Int.sub_le_sub_right (Int.log_mono_right hq h) 52) le_rfl

/-- where the last places differ, a power of two lies between the two values -/
theorem nearest_mono {q q' : ℚ} (hq : 0 ≤ q) (h : q ≤ q') : nearest q ≤ nearest q' := by
  rcases hq.eq_or_lt with rfl | hpos
  · rw [nearest_zero]
    exact nearest_nonneg h
  have hplaces := lastPlace_mono hpos h
  rcases hplaces.lt_or_eq with hlt | heq
  · have htop : q ≤ ((2 ^ 53 : ℤ) : ℚ) * 2 ^ lastPlace q := by
      have hlog : q < 2 ^ (Int.log 2 q + 1) := by
        have hbelow := Int.lt_zpow_succ_log_self (b := 2) (by norm_num) q
        simpa using hbelow
      have hexp : Int.log 2 q + 1 ≤ 53 + lastPlace q := by
        have hle : Int.log 2 q - 52 ≤ lastPlace q := le_max_left _ _
        omega
      calc q ≤ 2 ^ (Int.log 2 q + 1) := hlog.le
        _ ≤ 2 ^ (53 + lastPlace q) := zpow_le_zpow_right₀ (by norm_num) hexp
        _ = ((2 ^ 53 : ℤ) : ℚ) * 2 ^ lastPlace q := by
          rw [zpow_add₀ (by norm_num)]
          norm_num
    have hbottom : ((2 ^ 52 : ℤ) : ℚ) * 2 ^ lastPlace q' ≤ q' := by
      have hlog : 2 ^ Int.log 2 q' ≤ q' := by
        have habove := Int.zpow_log_le_self (b := 2) (by norm_num) (hpos.trans_le h)
        simpa using habove
      have hexp : Int.log 2 q' = 52 + lastPlace q' := by
        have hlow : -1074 ≤ lastPlace q := le_max_right _ _
        unfold lastPlace at hlt hlow ⊢
        omega
      rw [hexp, zpow_add₀ (by norm_num)] at hlog
      calc ((2 ^ 52 : ℤ) : ℚ) * 2 ^ lastPlace q' = 2 ^ (52 : ℤ) * 2 ^ lastPlace q' := by norm_num
        _ ≤ q' := hlog
    calc nearest q ≤ ((2 ^ 53 : ℤ) : ℚ) * 2 ^ lastPlace q := nearest_le htop
      _ = ((2 ^ 52 : ℤ) : ℚ) * 2 ^ (lastPlace q + 1) := by
        rw [zpow_add₀ (by norm_num)]
        norm_num
        ring
      _ ≤ ((2 ^ 52 : ℤ) : ℚ) * 2 ^ lastPlace q' :=
        mul_le_mul_of_nonneg_left (zpow_le_zpow_right₀ (by norm_num) hlt) (by norm_num)
      _ ≤ nearest q' := le_nearest hbottom
  · have hplace := two_zpow_pos (lastPlace q')
    rw [nearest, nearest, heq]
    exact mul_le_mul_of_nonneg_right (Int.cast_le.2 (halfEven_mono (div_le_div_of_nonneg_right h hplace.le))) hplace.le

/-- whole numbers of up to 53 bits are doubles -/
theorem nearest_natCast {n : ℕ} (h : n < 2 ^ 53) : nearest n = n := by
  rcases n.eq_zero_or_pos with rfl | hpos
  · simpa using nearest_zero
  have hlog : Nat.log 2 n < 53 := Nat.log_lt_of_lt_pow hpos.ne' h
  have hplace : lastPlace n = -((52 - Nat.log 2 n : ℕ) : ℤ) := by
    rw [lastPlace, Int.log_natCast]
    omega
  have hwhole : (n : ℚ) / 2 ^ lastPlace n = ((n * 2 ^ (52 - Nat.log 2 n) : ℤ) : ℚ) := by
    rw [hplace, zpow_neg, div_inv_eq_mul, zpow_natCast]
    norm_num
  have hne : (2 : ℚ) ^ lastPlace (n : ℚ) ≠ 0 := (two_zpow_pos _).ne'
  rw [nearest, hwhole, halfEven_intCast, ← hwhole, div_mul_cancel₀ _ hne]

end AtoService.Binary64
