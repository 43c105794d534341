import Mathlib.Data.List.Basic

/-! Unsigned decimal numbers, as `from_str` reads them and as they are written. -/

namespace Decimal

inductive IntErrorKind
  | empty
  | invalidDigit
  | posOverflow
deriving DecidableEq, Repr

def parseDigits (max acc : Nat) : List Char → Except IntErrorKind Nat
  | [] => .ok acc
  | c :: rest =>
    if c.isDigit then
      if max < 10 * acc then .error .posOverflow
      else if max < 10 * acc + (c.toNat - '0'.toNat) then .error .posOverflow
      else parseDigits max (10 * acc + (c.toNat - '0'.toNat)) rest
    else .error .invalidDigit

def fromStr (max : Nat) : List Char → Except IntErrorKind Nat
  | [] => .error .empty
  | ['+'] => .error .invalidDigit
  | ['-'] => .error .invalidDigit
  | '+' :: rest => parseDigits max 0 rest
  | digits => parseDigits max 0 digits

theorem le_ofDigitChars (digits : List Char) (acc : Nat) :
    acc ≤ Nat.ofDigitChars 10 digits acc := by
  induction digits generalizing acc with
  | nil => exact Nat.le_of_eq Nat.ofDigitChars_nil.symm
  | cons c rest ih =>
    rw [Nat.ofDigitChars_cons]
    have hrest := ih (10 * acc + (c.toNat - '0'.toNat))
    omega

theorem parseDigits_eq {max acc : Nat} {digits : List Char}
    (hdigits : ∀ c ∈ digits, c.isDigit = true)
    (hmax : Nat.ofDigitChars 10 digits acc ≤ max) :
    parseDigits max acc digits = .ok (Nat.ofDigitChars 10 digits acc) := by
  induction digits generalizing acc with
  | nil => rw [Nat.ofDigitChars_nil, parseDigits]
  | cons c rest ih =>
    rw [Nat.ofDigitChars_cons] at hmax ⊢
    have hrest := le_ofDigitChars rest (10 * acc + (c.toNat - '0'.toNat))
    have hsum : ¬ max < 10 * acc + (c.toNat - '0'.toNat) := by omega
    have hmul : ¬ max < 10 * acc := by omega
    rw [parseDigits, if_pos (hdigits c List.mem_cons_self), if_neg hmul, if_neg hsum]
    exact ih (fun d hd => hdigits d (List.mem_cons_of_mem _ hd)) hmax

theorem isDigit_toDigits {n : Nat} {c : Char} (hc : c ∈ Nat.toDigits 10 n) : c.isDigit = true :=
  Nat.isDigit_of_mem_toDigits (by decide) (by decide) hc

theorem fromStr_digits {max : Nat} {digits : List Char} (hne : digits ≠ [])
    (hdigits : ∀ c ∈ digits, c.isDigit = true) :
    fromStr max digits = parseDigits max 0 digits := by
  cases digits with
  | nil => exact absurd rfl hne
  | cons c rest =>
    have hplus : c ≠ '+' := by
      rintro rfl
      exact absurd (hdigits '+' List.mem_cons_self) (by decide)
    have hminus : c ≠ '-' := by
      rintro rfl
      exact absurd (hdigits '-' List.mem_cons_self) (by decide)
    unfold fromStr
    split
    next heq => cases heq
    next heq => exact absurd (List.cons.inj heq).1 hplus
    next heq => exact absurd (List.cons.inj heq).1 hminus
    next heq => exact absurd (List.cons.inj heq).1 hplus
    next => rfl

theorem fromStr_toDigits {max n : Nat} (h : n ≤ max) :
    fromStr max (Nat.toDigits 10 n) = .ok n := by
  have hvalue : Nat.ofDigitChars 10 (Nat.toDigits 10 n) 0 = n := Nat.ofDigitChars_ten_toDigits
  rw [fromStr_digits Nat.toDigits_ne_nil fun _ => isDigit_toDigits,
    parseDigits_eq (fun _ => isDigit_toDigits) (hvalue.symm ▸ h), hvalue]

theorem toDigits_inj {m n : Nat} (h : Nat.toDigits 10 m = Nat.toDigits 10 n) : m = n := by
  rw [← Nat.ofDigitChars_ten_toDigits (n := m), h, Nat.ofDigitChars_ten_toDigits]

end Decimal
