import JsonApi.Query.Parameters
import Mathlib.Data.Nat.Cast.Order.Ring
import Mathlib.Data.Rat.Floor

/-!
# Resolved pages

A page is resolved unless its number is below one (`Page.resolve_eq_ok_iff`),
and a resolved page has a number and a size.  Then its offset and the number of
the last page are those of exact arithmetic.
-/

namespace JsonApi.Page

open JsonApi.Text

variable {settings : PageSettings} {request : PageRequest} {page : Page}

theorem resolve_eq_error_iff {error : ValidationError} :
    resolve settings request = .error error ↔
      ∃ number, request.number = some number ∧ number < 1 ∧
        error = .invalidPageNumber number := by
  rw [resolve]
  cases request.number with
  | none => simp
  | some number =>
      dsimp only [Option.getD_some]
      split <;> simp [*, eq_comm]

theorem resolve_eq_ok_iff :
    resolve settings request = .ok page ↔
      1 ≤ request.number.getD 1 ∧
        (page.number : Int) = request.number.getD 1 ∧
        (page.size : Int) =
          min (max
              (request.size.getD (min (settings.defaultSize : Int) int64Max)) 1)
            (max (settings.maxSize : Int) 1) := by
  obtain ⟨number, size⟩ := page
  rw [resolve]
  dsimp only
  split
  · simp only [reduceCtorEq, false_iff]
    omega
  · rw [Except.ok.injEq, Page.mk.injEq]
    omega

/-- Resolved pages have a number and a size, and the size is not too great. -/
theorem bounds_of_resolve (resolved : resolve settings request = .ok page) :
    1 ≤ page.number ∧ 1 ≤ page.size ∧ page.size ≤ max 1 settings.maxSize := by
  rcases resolve_eq_ok_iff.mp resolved with ⟨counted, number, size⟩
  omega

/-- The size of a resolved page is resolved again as it is, with any number of a
page. -/
theorem resolve_number
    {number : Nat}
    (positive : 1 ≤ number)
    (resolved : resolve settings request = .ok page) :
    resolve settings ⟨some number, some page.size⟩ =
      .ok ⟨number, page.size⟩ := by
  rcases bounds_of_resolve resolved with ⟨_, sized, small⟩
  refine resolve_eq_ok_iff.mpr ⟨Int.ofNat_le.mpr positive, rfl, ?_⟩
  rw [Option.getD_some]
  dsimp only
  omega

/-! ## Exact arithmetic -/

/-- The number of items before a page is the exact product, or the greatest
count. -/
theorem offset_eq (counted : 1 ≤ page.number) :
    (page.offset : Int) =
      min (((page.number : Int) - 1) * page.size) (2 ^ 64 - 1) := by
  have greatest : ((wordLimit - 1 : Nat) : Int) = 2 ^ 64 - 1 := by decide
  rw [offset, saturatingMul, Nat.cast_min, greatest, Nat.cast_mul,
    Nat.cast_sub counted, Nat.cast_one]

/-- The last page is the exact quotient rounded up, or one. -/
theorem lastNumber_eq
    (sized : 1 ≤ page.size)
    (total : Nat) :
    page.lastNumber total = max 1 ⌈(total : ℚ) / page.size⌉₊ := by
  have positive : (0 : ℚ) < page.size := by exact_mod_cast sized
  rw [lastNumber, max_comm]
  congr 1
  apply eq_of_forall_ge_iff
  intro bound
  rw [Nat.div_le_iff_le_mul_add_pred sized, Nat.ceil_le, div_le_iff₀ positive]
  norm_cast
  rw [Nat.mul_comm bound]
  omega

end JsonApi.Page
