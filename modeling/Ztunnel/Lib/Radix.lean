/-
  Ztunnel.Lib.Radix

  Unsigned integers written in a radix, as Rust's core reads and writes
  them.  `from_str_radix` is `uN::from_str_radix` for an unsigned type of
  `w` bits: an optional '+', then at least one digit of the radix, read
  from the most significant one, with an error as soon as a character is
  no digit or the value passes the type.  `fmt_hex width n` is
  `format!("{:0width$x}", n)`: the lowercase hexadecimal digits of `n`,
  padded on the left with '0' to `width` characters.

  The round trip reads a padded hexadecimal text back to its number for
  every width, and every character written is a hexadecimal digit, so
  that texts joined by a separator that is no digit split back apart.
-/

import Mathlib

namespace Ztunnel

namespace Radix

/-- `IntErrorKind`, for an unsigned type. -/
inductive IntErrorKind where
  | Empty
  | InvalidDigit
  | PosOverflow
  deriving DecidableEq, Repr

/-- The text `ParseIntError` displays. -/
def IntErrorKind.description : IntErrorKind → String
  | .Empty => "cannot parse integer from empty string"
  | .InvalidDigit => "invalid digit found in string"
  | .PosOverflow => "number too large to fit in target type"

/-- `char::to_digit` for a radix of at most 36: '0' to '9' are 0 to 9, a
    letter of either case is 10 to 35, and a digit is below the radix.
    The source reaches the letters by setting the case bit and a
    saturating subtraction; this is what that computes. -/
def to_digit (c : Char) (radix : Nat) : Option Nat :=
  let digit :=
    if '0' ≤ c ∧ c ≤ '9' then c.toNat - '0'.toNat
    else if 'a' ≤ c ∧ c ≤ 'z' then c.toNat - 'a'.toNat + 10
    else if 'A' ≤ c ∧ c ≤ 'Z' then c.toNat - 'A'.toNat + 10
    else 36
  if digit < radix then some digit else none

/-- The digits' loop of `from_str_radix` for an unsigned type of `w`
    bits: each digit multiplies the value by the radix and adds itself.  A
    character that is no digit is reported before the product is checked,
    and a product or a sum past the type is an overflow. -/
def digits_loop (w radix : Nat) : Nat → List Char → Except IntErrorKind Nat
  | result, [] => .ok result
  | result, c :: cs =>
    match to_digit c radix with
    | none => .error .InvalidDigit
    | some x =>
      if 2 ^ w ≤ result * radix + x then .error .PosOverflow
      else digits_loop w radix (result * radix + x) cs

/-- `uN::from_str_radix`: a lone sign is an invalid digit, a '+' before
    the digits is dropped (a '-' is not, and is then no digit), and an
    empty text has no digit. -/
def from_str_radix (w radix : Nat) (src : String) : Except IntErrorKind (BitVec w) :=
  BitVec.ofNat w <$>
    match src.toList with
    | [] => .error .Empty
    | ['+'] | ['-'] => .error .InvalidDigit
    | '+' :: digits => digits_loop w radix 0 digits
    | digits => digits_loop w radix 0 digits

/-- `format!("{:0width$x}", n)`: the lowercase hexadecimal digits of `n`,
    padded on the left with '0' to `width` characters. -/
def fmt_hex (width n : Nat) : String :=
  let digits := Nat.toDigits 16 n
  String.ofList (List.replicate (width - digits.length) '0' ++ digits)

/-! ## Digits -/

theorem to_digit_digitChar {d : Nat} (h : d < 16) : to_digit (Nat.digitChar d) 16 = some d := by
  have hall : ∀ e ∈ List.range 16, to_digit (Nat.digitChar e) 16 = some e := by decide
  exact hall d (List.mem_range.mpr h)

theorem to_digit_zero {radix : Nat} (h : 0 < radix) : to_digit '0' radix = some 0 := by
  simp [to_digit, h]

/-- Every character of `toDigits b` is the digit of a value below `b`. -/
theorem mem_toDigits {b : Nat} (hb : 1 < b) {c : Char} :
    ∀ n, c ∈ Nat.toDigits b n → ∃ d < b, c = Nat.digitChar d := by
  intro n
  induction n using Nat.strongRecOn with
  | _ n ih =>
    rw [Nat.toDigits_eq_if hb]
    split
    · -- a single digit
      intro hc
      exact ⟨n, by omega, List.mem_singleton.mp hc⟩
    · -- the digits of `n / b`, then that of `n % b`
      intro hc
      rcases List.mem_append.mp hc with hc | hc
      · exact ih (n / b) (Nat.div_lt_self (by omega) hb) hc
      · exact ⟨n % b, Nat.mod_lt _ (by omega), List.mem_singleton.mp hc⟩

/-- Every character `fmt_hex` writes is a hexadecimal digit. -/
theorem mem_fmt_hex {width n : Nat} {c : Char} (hc : c ∈ (fmt_hex width n).toList) :
    ∃ d < 16, c = Nat.digitChar d := by
  simp only [fmt_hex, String.toList_ofList, List.mem_append, List.mem_replicate] at hc
  rcases hc with ⟨-, rfl⟩ | hc
  · exact ⟨0, by decide, rfl⟩
  · exact mem_toDigits (by decide) n hc

/-- A number below `16 ^ width` fills exactly `width` digits. -/
theorem length_fmt_hex {width n : Nat} (hw : 0 < width) (h : n < 16 ^ width) :
    (fmt_hex width n).length = width := by
  have hlen : (Nat.toDigits 16 n).length ≤ width :=
    (Nat.length_toDigits_le_iff (by decide) hw).mpr h
  simp only [fmt_hex, String.length_ofList, List.length_append, List.length_replicate]
  omega

/-- A text of one-byte characters has as many bytes as characters. -/
theorem utf8ByteSize_ofList_of_ascii {l : List Char} (h : ∀ c ∈ l, c.utf8Size = 1) :
    (String.ofList l).utf8ByteSize = l.length := by
  induction l with
  | nil => rfl
  | cons c l ih =>
    rw [String.ofList_cons, String.utf8ByteSize_append, String.utf8ByteSize_singleton,
      h c List.mem_cons_self, ih fun c hc => h c (List.mem_cons_of_mem _ hc), List.length_cons,
      Nat.add_comm]

/-- The hexadecimal digits are ASCII: `width` characters are `width`
    bytes. -/
theorem utf8ByteSize_fmt_hex {width n : Nat} (hw : 0 < width) (h : n < 16 ^ width) :
    (fmt_hex width n).utf8ByteSize = width := by
  have hascii : ∀ c ∈ (fmt_hex width n).toList, c.utf8Size = 1 := by
    intro c hc
    obtain ⟨d, hd, rfl⟩ := mem_fmt_hex hc
    have hall : ∀ e ∈ List.range 16, (Nat.digitChar e).utf8Size = 1 := by decide
    exact hall d (List.mem_range.mpr hd)
  rw [← String.ofList_toList (s := fmt_hex width n), utf8ByteSize_ofList_of_ascii hascii,
    String.length_toList, length_fmt_hex hw h]

/-! ## Reading digits back -/

section Loop

variable {w radix : Nat}

theorem digits_loop_append (acc : Nat) (l₁ l₂ : List Char) :
    digits_loop w radix acc (l₁ ++ l₂) =
      (digits_loop w radix acc l₁).bind fun v => digits_loop w radix v l₂ := by
  induction l₁ generalizing acc with
  | nil => rfl
  | cons c cs ih =>
    simp only [List.cons_append, digits_loop]
    split
    · rfl
    · split
      · rfl
      · exact ih _

/-- Leading zeros leave the value at zero. -/
theorem digits_loop_replicate_zero (h : 0 < radix) (k : Nat) (l : List Char) :
    digits_loop w radix 0 (List.replicate k '0' ++ l) = digits_loop w radix 0 l := by
  induction k with
  | zero => rfl
  | succ k ih =>
    have hpos : 0 < 2 ^ w := Nat.two_pow_pos w
    simp only [List.replicate_succ, List.cons_append, digits_loop, to_digit_zero h, Nat.zero_mul,
      Nat.add_zero, Nat.not_le.mpr hpos, if_false]
    exact ih

/-- The hexadecimal digits of a number that fits the type read back to it:
    by strong induction, the digits of `n / 16` give `n / 16`, and the last
    digit then gives `n`. -/
theorem digits_loop_toDigits : ∀ n, n < 2 ^ w → digits_loop w 16 0 (Nat.toDigits 16 n) = .ok n := by
  intro n
  induction n using Nat.strongRecOn with
  | _ n ih =>
    intro hn
    rw [Nat.toDigits_eq_if (by decide)]
    split
    · rename_i hlt
      simp [digits_loop, to_digit_digitChar hlt, Nat.not_le.mpr hn]
    · rename_i hge
      have hdiv : n / 16 * 16 + n % 16 = n := Nat.div_add_mod' n 16
      rw [digits_loop_append, ih (n / 16) (by omega) (by omega)]
      simp [Except.bind, digits_loop, to_digit_digitChar (Nat.mod_lt n (by decide)), hdiv,
        Nat.not_le.mpr hn]

end Loop

/-- A text that starts with a digit is read by the digits' loop alone. -/
theorem from_str_radix_of_digit {w radix : Nat} {c : Char} {cs : List Char} (hplus : c ≠ '+')
    (hminus : c ≠ '-') :
    from_str_radix w radix (String.ofList (c :: cs)) =
      BitVec.ofNat w <$> digits_loop w radix 0 (c :: cs) := by
  cases cs <;> simp [from_str_radix, hplus, hminus]

/-- A text of zeros reads as zero. -/
theorem from_str_radix_zeros {w radix n : Nat} (h : 0 < radix) (hn : 0 < n) :
    from_str_radix w radix (String.ofList (List.replicate n '0')) = .ok 0 := by
  obtain ⟨k, rfl⟩ : ∃ k, n = k + 1 := ⟨n - 1, by omega⟩
  have hzeros : List.replicate (k + 1) '0' = '0' :: (List.replicate k '0' ++ []) := by
    rw [List.append_nil, List.replicate_succ]
  rw [hzeros, from_str_radix_of_digit (by decide) (by decide), ← List.cons_append,
    ← List.replicate_succ, digits_loop_replicate_zero h]
  rfl

/-- `from_str_radix` reads back what `{:0width$x}` writes, for every width. -/
theorem from_str_radix_fmt_hex {w : Nat} (width : Nat) (x : BitVec w) :
    from_str_radix w 16 (fmt_hex width x.toNat) = .ok x := by
  obtain ⟨c, cs, hcs⟩ : ∃ c cs, (fmt_hex width x.toNat).toList = c :: cs :=
    List.exists_cons_of_ne_nil (by simp [fmt_hex])
  obtain ⟨d, hd, rfl⟩ := mem_fmt_hex (hcs ▸ List.mem_cons_self)
  have hdigit : Nat.digitChar d ≠ '+' ∧ Nat.digitChar d ≠ '-' := by
    have hall : ∀ e ∈ List.range 16, Nat.digitChar e ≠ '+' ∧ Nat.digitChar e ≠ '-' := by decide
    exact hall d (List.mem_range.mpr hd)
  have hloop : digits_loop w 16 0 (fmt_hex width x.toNat).toList = .ok x.toNat := by
    simp only [fmt_hex, String.toList_ofList]
    rw [digits_loop_replicate_zero (by decide), digits_loop_toDigits _ x.isLt]
  rw [← String.ofList_toList (s := fmt_hex width x.toNat), hcs,
    from_str_radix_of_digit hdigit.1 hdigit.2, ← hcs, hloop]
  show (Except.ok (BitVec.ofNat w x.toNat) : Except IntErrorKind (BitVec w)) = .ok x
  rw [BitVec.ofNat_toNat, BitVec.setWidth_eq]

end Radix

end Ztunnel
