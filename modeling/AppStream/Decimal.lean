import Mathlib.Tactic.IntervalCases

namespace AppStream

/-- The ASCII digit for `d < 10`. -/
def digitChar (d : Nat) : Char := Char.ofNat (48 + d)

def isCDigit (c : Char) : Bool := 48 ≤ c.toNat && c.toNat ≤ 57

/-- C's `isspace`: blank, tab, newline, vertical tab, form feed, carriage return. -/
def isCSpace (c : Char) : Bool := c.toNat = 32 || (9 ≤ c.toNat && c.toNat ≤ 13)

/-- Positional value of a digit run, read left to right as `strtol` does. -/
def digitsValue (cs : List Char) : Nat :=
  cs.foldl (fun acc c => 10 * acc + (c.toNat - 48)) 0

/-- The digits `printf` writes for an unsigned value (`G_GUINT64_FORMAT`). -/
def decimalDigits (n : Nat) : List Char :=
  if n < 10 then [digitChar n] else decimalDigits (n / 10) ++ [digitChar (n % 10)]
termination_by n
decreasing_by omega

/-- Zero-padded two-digit field, as `%m`, `%d`, `%H`, `%M`, `%S` and `%y` print it. -/
def twoDigits (n : Nat) : List Char := [digitChar (n / 10 % 10), digitChar (n % 10)]

/-- `LONG_MAX` and `LONG_MIN` of a C `long` of 64 bits, as on the LP64 targets (64-bit Linux and
BSD) AppStream is built for; on a target with a 32-bit `long` the bounds are `2 ^ 31 - 1` and
`-2 ^ 31`. -/
def longMax : Int := 2 ^ 63 - 1

def longMin : Int := -2 ^ 63

/-- The optional sign `strtol` reads before the digits. -/
def strtolSign : List Char → Bool × List Char
  | '-' :: r => (true, r)
  | '+' :: r => (false, r)
  | r => (false, r)

/-- `atol` of glibc: `strtol (nptr, NULL, 10)`, which skips blanks, reads an optional
sign and the longest digit run, and saturates at the bounds of `long`, taken to be 64 bits wide
(LP64, see `longMax`). -/
def atol (s : String) : Int :=
  let (negative, rest) := strtolSign (s.toList.dropWhile isCSpace)
  let v : Int := digitsValue (rest.takeWhile isCDigit)
  if negative then max (-v) longMin else min v longMax

/-- `atol` never leaves the range of `long`. -/
theorem atol_bounds (s : String) : longMin ≤ atol s ∧ atol s ≤ longMax := by
  unfold atol
  split
  split <;> simp only [longMin, longMax] <;> omega

theorem digitChar_toNat {d : Nat} (h : d < 10) : (digitChar d).toNat = 48 + d := by
  interval_cases d <;> rfl

theorem isCDigit_digitChar {d : Nat} (h : d < 10) : isCDigit (digitChar d) = true := by
  simp [isCDigit, digitChar_toNat h]
  omega

theorem digitsValue_append_digit (cs : List Char) {d : Nat} (h : d < 10) :
    digitsValue (cs ++ [digitChar d]) = 10 * digitsValue cs + d := by
  simp [digitsValue, List.foldl_append, digitChar_toNat h]

theorem decimalDigits_eq (n : Nat) :
    decimalDigits n = if n < 10 then [digitChar n] else decimalDigits (n / 10) ++ [digitChar (n % 10)] := by
  rw [decimalDigits]

theorem digitsValue_decimalDigits (n : Nat) : digitsValue (decimalDigits n) = n := by
  induction n using Nat.strong_induction_on with
  | _ n ih =>
    rw [decimalDigits_eq]
    split
    · simp [digitsValue, digitChar_toNat ‹n < 10›]
    · rw [digitsValue_append_digit _ (Nat.mod_lt _ (by omega)), ih _ (by omega)]
      omega

theorem decimalDigits_all_digits (n : Nat) : ∀ c ∈ decimalDigits n, isCDigit c = true := by
  induction n using Nat.strong_induction_on with
  | _ n ih =>
    rw [decimalDigits_eq]
    split
    · simpa using isCDigit_digitChar ‹n < 10›
    · intro c hc
      rcases List.mem_append.mp hc with hc | hc
      · exact ih _ (by omega) c hc
      · simpa [List.mem_singleton.mp hc] using isCDigit_digitChar (Nat.mod_lt n (by omega))

theorem decimalDigits_ne_nil (n : Nat) : decimalDigits n ≠ [] := by
  rw [decimalDigits_eq]
  split <;> simp

theorem atol_digits {c : Char} {cs : List Char} (h : ∀ x ∈ c :: cs, isCDigit x = true) :
    atol (String.mk (c :: cs)) = min (digitsValue (c :: cs) : Int) longMax := by
  have hc : 48 ≤ c.toNat ∧ c.toNat ≤ 57 := by simpa [isCDigit] using h c (List.mem_cons_self _ _)
  have hspace : isCSpace c = false := by simp [isCSpace]; omega
  have hsign : strtolSign (c :: cs) = (false, c :: cs) := by
    have hm : c ≠ '-' := fun he => by subst he; simp at hc
    have hp : c ≠ '+' := fun he => by subst he; simp at hc
    simp [strtolSign, hm, hp]
  simp [atol, String.toList, hspace, hsign, List.takeWhile_eq_self_iff.mpr h]

/-- Reading back what `printf` wrote: exact below `longMax`, saturated above it. -/
theorem atol_decimalDigits (n : Nat) :
    atol (String.mk (decimalDigits n)) = min (n : Int) longMax := by
  obtain ⟨c, cs, he⟩ := List.exists_cons_of_ne_nil (decimalDigits_ne_nil n)
  have hd := decimalDigits_all_digits n
  rw [he] at hd ⊢
  rw [atol_digits hd, ← he, digitsValue_decimalDigits]

end AppStream
