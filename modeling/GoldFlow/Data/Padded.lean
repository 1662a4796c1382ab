import Mathlib.Data.Nat.Digits.Defs

/-! # Zero-padded numbers

Numbers written with a fixed number of decimal digits.
-/

namespace GoldFlow

/-- `f"{number:0{width}d}"` -/
def zeroPadded (width number : Nat) : String :=
  String.ofList (List.leftpad width '0' (Nat.toDigits 10 number))

/-- `int(text)`, for a text of decimal digits. -/
def digitsValue? (text : String) : Option Nat :=
  if text ≠ "" ∧ text.toList.all Char.isDigit then some (Nat.ofDigitChars 10 text.toList 0) else none

section Padded

variable {width number other : Nat}

theorem isDigit_of_mem_zeroPadded {char : Char} (member : char ∈ (zeroPadded width number).toList) :
    char.isDigit = true := by
  simp only [zeroPadded, String.toList_ofList, List.leftpad, List.mem_append] at member
  rcases member with padding | digit
  · rw [List.eq_of_mem_replicate padding]
    decide
  · exact Nat.isDigit_of_mem_toDigits (by decide) (by decide) digit

theorem ofDigitChars_zeroPadded (width number : Nat) :
    Nat.ofDigitChars 10 (zeroPadded width number).toList 0 = number := by
  simp [zeroPadded, Nat.ofDigitChars_append]

@[simp] theorem digitsValue?_zeroPadded (width number : Nat) :
    digitsValue? (zeroPadded width number) = some number := by
  have nonempty : zeroPadded width number ≠ "" := by
    intro empty
    have digits := congrArg String.toList empty
    simp [zeroPadded] at digits
  have all : (zeroPadded width number).toList.all Char.isDigit = true :=
    List.all_eq_true.mpr fun _ member => isDigit_of_mem_zeroPadded member
  rw [digitsValue?, if_pos ⟨nonempty, all⟩, ofDigitChars_zeroPadded]

theorem zeroPadded_injective (width : Nat) : Function.Injective (zeroPadded width) := by
  intro number other same
  rw [← ofDigitChars_zeroPadded width number, same, ofDigitChars_zeroPadded]

theorem length_zeroPadded (positive : 0 < width) (small : number < 10 ^ width) :
    (zeroPadded width number).toList.length = width := by
  have short := (Nat.length_toDigits_le_iff (b := 10) (by decide) positive).mpr small
  simp only [zeroPadded, String.toList_ofList, List.length_leftpad]
  omega

end Padded

/-! ## Order -/

theorem Char.digit_le_nine {char : Char} (digit : char.isDigit = true) :
    '0'.toNat ≤ char.toNat ∧ char.toNat ≤ '9'.toNat := by
  simp only [Char.isDigit, Bool.and_eq_true, decide_eq_true_eq] at digit
  exact digit

theorem ofDigitChars_lt {digits : List Char} (all : ∀ char ∈ digits, char.isDigit = true) :
    Nat.ofDigitChars 10 digits 0 < 10 ^ digits.length := by
  induction digits with
  | nil => simp
  | cons char digits ih =>
    have rest := ih fun other member => all other (List.mem_cons_of_mem _ member)
    have first := Char.digit_le_nine (all char (by simp))
    have value : char.toNat - '0'.toNat ≤ 9 := by
      have nine : '9'.toNat = '0'.toNat + 9 := rfl
      omega
    rw [Nat.ofDigitChars_cons, Nat.ofDigitChars_eq_ofDigitChars_zero, List.length_cons, pow_succ]
    have leading : 10 ^ digits.length * (10 * 0 + (char.toNat - '0'.toNat)) ≤ 10 ^ digits.length * 9 :=
      Nat.mul_le_mul_left _ (by omega)
    omega

theorem ofDigitChars_lt_of_lt {first second : List Char} (firstDigits : ∀ char ∈ first, char.isDigit = true)
    (secondDigits : ∀ char ∈ second, char.isDigit = true) (same : first.length = second.length)
    (smaller : first < second) : Nat.ofDigitChars 10 first 0 < Nat.ofDigitChars 10 second 0 := by
  induction first generalizing second with
  | nil =>
    obtain rfl : second = [] := List.length_eq_zero_iff.mp same.symm
    exact absurd smaller (List.lt_irrefl _)
  | cons char first ih =>
    cases second with
    | nil => cases same
    | cons other second =>
      simp only [List.length_cons, Nat.add_right_cancel_iff] at same
      rw [Nat.ofDigitChars_cons, Nat.ofDigitChars_cons, Nat.ofDigitChars_eq_ofDigitChars_zero,
        @Nat.ofDigitChars_eq_ofDigitChars_zero second, same]
      have firstRest : ∀ char ∈ first, char.isDigit = true :=
        fun char member => firstDigits char (List.mem_cons_of_mem _ member)
      have secondRest : ∀ char ∈ second, char.isDigit = true :=
        fun char member => secondDigits char (List.mem_cons_of_mem _ member)
      rcases List.cons_lt_cons_iff.mp smaller with less | ⟨rfl, less⟩
      · -- the first digits differ
        have below := ofDigitChars_lt firstRest
        rw [same] at below
        have charDigit := Char.digit_le_nine (firstDigits char (by simp))
        have less : char.toNat < other.toNat := less
        have leading : 10 ^ second.length * (char.toNat - '0'.toNat + 1) ≤
            10 ^ second.length * (other.toNat - '0'.toNat) :=
          Nat.mul_le_mul_left _ (by omega)
        rw [Nat.mul_add] at leading
        simp only [Nat.mul_zero, Nat.zero_add] at leading ⊢
        omega
      · have rest := ih firstRest secondRest same less
        omega

theorem zeroPadded_lt_iff {width number other : Nat} (positive : 0 < width) (small : number < 10 ^ width)
    (small' : other < 10 ^ width) : zeroPadded width number < zeroPadded width other ↔ number < other := by
  have forward : ∀ {first second : Nat}, first < 10 ^ width → second < 10 ^ width →
      zeroPadded width first < zeroPadded width second → first < second := by
    intro first second fits fits' smaller
    have less := ofDigitChars_lt_of_lt (fun _ => isDigit_of_mem_zeroPadded) (fun _ => isDigit_of_mem_zeroPadded)
      ((length_zeroPadded positive fits).trans (length_zeroPadded positive fits').symm) (String.lt_iff.mp smaller)
    rwa [ofDigitChars_zeroPadded, ofDigitChars_zeroPadded] at less
  refine ⟨forward small small', fun less => ?_⟩
  by_contra unordered
  have unordered' : ¬ zeroPadded width other < zeroPadded width number := by
    intro greater
    have reversed := forward small' small greater
    omega
  have same := zeroPadded_injective width (String.le_antisymm unordered' unordered)
  omega

end GoldFlow
