/-
  Ztunnel.Lib.Str

  Rust's `str` methods that test and trim text, on the characters of a
  string: `char::is_whitespace`, `str::trim`, which drops whitespace at
  both ends, `str::strip_suffix` and `str::is_ascii`.  Splitting, prefixes
  and `strip_prefix` are in `Ztunnel.Identity.Identity`.

  `is_whitespace` is the Unicode White_Space property: six ASCII
  characters and eleven past ASCII.  A text whose two ends are no
  whitespace is its own `trim`, whatever it holds inside.
-/

import Mathlib.Data.List.DropRight

namespace Ztunnel

/-- Unicode's White_Space property, of a code point. -/
def white_space (n : Nat) : Bool :=
  (0x09 ≤ n && n ≤ 0x0d) || n == 0x20 || n == 0x85 || n == 0xa0 || n == 0x1680 ||
    (0x2000 ≤ n && n ≤ 0x200a) || n == 0x2028 || n == 0x2029 || n == 0x202f ||
    n == 0x205f || n == 0x3000

/-- Rust's `char::is_whitespace`: the space and tab to carriage return,
    and past ASCII the White_Space property. -/
def is_whitespace (c : Char) : Bool :=
  c.toNat == 0x20 || (0x09 ≤ c.toNat && c.toNat ≤ 0x0d) || (0x7f < c.toNat && white_space c.toNat)

/-- Rust's `str::trim`. -/
def trim (s : String) : String :=
  String.ofList ((s.toList.dropWhile is_whitespace).rdropWhile is_whitespace)

/-- Rust's `str::strip_suffix(suf)`: the text before `suf` when `s` ends
    with it. -/
def stripSuffix (s suf : String) : Option String :=
  if suf.toList <:+ s.toList then some (String.ofList (s.toList.take (s.length - suf.length)))
  else none

/-- Rust's `str::is_ascii`. -/
def is_ascii (s : String) : Bool :=
  s.toList.all fun c => c.toNat < 128

/-- A text that starts and ends with no whitespace is its own `trim`. -/
theorem trim_of_ends {s : String} (hhead : ∀ c ∈ s.toList.head?, is_whitespace c = false)
    (hlast : ∀ c ∈ s.toList.getLast?, is_whitespace c = false) : trim s = s := by
  have hfront : s.toList.dropWhile is_whitespace = s.toList := by
    cases h : s.toList with
    | nil => rfl
    | cons c l =>
      rw [h] at hhead
      rw [List.dropWhile_cons_of_neg (by simpa using hhead c rfl)]
  have hback : s.toList.rdropWhile is_whitespace = s.toList := by
    refine List.rdropWhile_eq_self_iff.mpr fun hl => ?_
    rw [hlast _ (List.getLast?_eq_some_getLast hl)]
    decide
  rw [trim, hfront, hback, String.ofList_toList]

theorem stripSuffix_of_not_suffix {s suf : String} (h : ¬ suf.toList <:+ s.toList) :
    stripSuffix s suf = none :=
  if_neg h

theorem is_ascii_append (s t : String) : is_ascii (s ++ t) = (is_ascii s && is_ascii t) := by
  simp only [is_ascii, String.toList_append, List.all_append]

end Ztunnel
