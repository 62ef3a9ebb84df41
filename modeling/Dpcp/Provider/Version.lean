import Dpcp.Api
import Dpcp.Text.Scan

/-!
# The version of the library

`provider::get_instance` is called with the version that the caller was built for, a text of the
form `MAJOR.MINOR.PATCH`, and compares it with the version of the library.  Both are read with
`sscanf`.  The format for the version of the caller ends in `%c`: a conversion that succeeds there
is one too many, and so there must be nothing after the patch number.

What is accepted is what `%d` makes of it.  There may be white space and a sign before each of the
three numbers, and a number that is too large for an `int` counts as the `int` that is stored.
-/

namespace Dpcp

open Text

namespace Provider

/-- `dpcp_version`. -/
def dpcpVersion : List Char := "1.1.52".toList

/-- `"%d.%d.%d"`. -/
def selfFormat : List Directive := [.int, .lit '.', .int, .lit '.', .int]

/-- `"%d.%d.%d%c"`. -/
def userFormat : List Directive := selfFormat ++ [.char]

/-- The `int` that `%d` stores: the number is read as a `long`, the nearest one if it is none, and
that is cut to an `int`. -/
def storedInt (v : Int) : Int :=
  (BitVec.ofInt 32 (max (-2 ^ 63) (min v (2 ^ 63 - 1)))).toInt

/-- The part of `get_instance` that checks the version; none is a null pointer. -/
def checkVersion (version : Option (List Char)) : Status :=
  match version with
  | none => .errInvalidParam
  | some version =>
      match sscanf selfFormat dpcpVersion with
      | [.int selfMajor, .int selfMinor, .int _] =>
          match sscanf userFormat version with
          | [.int userMajor, .int userMinor, .int _] =>
              if storedInt userMajor ≠ storedInt selfMajor
                  ∨ storedInt userMinor > storedInt selfMinor then
                .errNoSupport
              else
                .ok
          | _ => .errInvalidParam
      | _ => .errInvalidParam

theorem noDigit_dot (s : List Char) :
  NoDigit ('.' :: s)
  := by
  rintro c ⟨⟩
  rfl

/-- What the format takes in full. -/
theorem sscanf_userFormat_iff {s : List Char} {x y z : Int} :
  sscanf userFormat s = [.int x, .int y, .int z]
    ↔ ∃ major minor patch, s = major ++ '.' :: (minor ++ '.' :: patch)
      ∧ IsNumeral major x ∧ IsNumeral minor y ∧ IsNumeral patch z
  := by
  simp only [userFormat, selfFormat, List.cons_append, List.nil_append, sscanf_int_eq,
    sscanf_lit_eq, sscanf_char_eq_nil]
  constructor
  · rintro ⟨major, _, rfl, hmajor, -, _, rfl, minor, _, rfl, hminor, -, _, rfl, patch, _, rfl,
      hpatch, -, rfl⟩
    rw [List.append_nil]
    exact ⟨major, minor, patch, rfl, hmajor, hminor, hpatch⟩
  · rintro ⟨major, minor, patch, rfl, hmajor, hminor, hpatch⟩
    refine ⟨major, _, rfl, hmajor, noDigit_dot _, _, rfl, minor, _, rfl, hminor, noDigit_dot _, _,
      rfl, patch, [], (List.append_nil patch).symm, hpatch, ?_, rfl⟩
    rintro c ⟨⟩

theorem checkVersion_eq_ok_iff (version : List Char) :
  checkVersion (some version) = .ok ↔ ∃ x y z, sscanf userFormat version = [.int x, .int y, .int z]
    ∧ storedInt x = 1 ∧ storedInt y ≤ 1
  := by
  have hself : sscanf selfFormat dpcpVersion = [.int 1, .int 1, .int 52] := by decide
  have hone : storedInt 1 = 1 := by decide
  simp only [checkVersion, hself, hone]
  split
  case h_1 x y z heq =>
    rw [heq]
    split
    case isTrue h =>
      refine iff_of_false (by decide) ?_
      rintro ⟨x', y', z', heq', hx, hy⟩
      cases heq'
      omega
    case isFalse h =>
      refine iff_of_true rfl ⟨x, y, z, rfl, ?_⟩
      omega
  case h_2 hne =>
    refine iff_of_false (by decide) ?_
    rintro ⟨x, y, z, heq, -⟩
    apply hne x y z heq

/-- The version of a caller is accepted just if it is made of three numerals with points between
them, the first of which is stored as the major number of the library, and the second as a number
that is at most the minor number. -/
theorem version_accepted_iff (version : List Char) :
  checkVersion (some version) = .ok
    ↔ ∃ major minor patch x y z, version = major ++ '.' :: (minor ++ '.' :: patch)
      ∧ IsNumeral major x ∧ IsNumeral minor y ∧ IsNumeral patch z
      ∧ storedInt x = 1 ∧ storedInt y ≤ 1
  := by
  simp only [checkVersion_eq_ok_iff, sscanf_userFormat_iff]
  constructor
  · rintro ⟨x, y, z, ⟨major, minor, patch, heq, hmajor, hminor, hpatch⟩, hx, hy⟩
    exact ⟨major, minor, patch, x, y, z, heq, hmajor, hminor, hpatch, hx, hy⟩
  · rintro ⟨major, minor, patch, x, y, z, heq, hmajor, hminor, hpatch, hx, hy⟩
    exact ⟨x, y, z, ⟨major, minor, patch, heq, hmajor, hminor, hpatch⟩, hx, hy⟩

theorem storedInt_eq {v : Int} (hlo : -2 ^ 31 ≤ v) (hhi : v < 2 ^ 31) :
  storedInt v = v
  := by
  rw [storedInt, min_eq_left (by omega), max_eq_right (by omega), BitVec.toInt_ofInt]
  apply Int.bmod_eq_of_le <;> omega

/-- Of the versions that are printed without anything else, those with the major number of the
library and at most its minor number are accepted. -/
theorem checkVersion_printed {major minor : Nat} (hmajor : major < 2 ^ 31) (hminor : minor < 2 ^ 31)
    (patch : Nat) :
  checkVersion (some (Nat.toDigits 10 major ++ '.' :: (Nat.toDigits 10 minor
      ++ '.' :: Nat.toDigits 10 patch))) = .ok
    ↔ major = 1 ∧ minor ≤ 1
  := by
  have hscan := sscanf_userFormat_iff.mpr ⟨_, _, _, rfl, isNumeral_toDigits major,
    isNumeral_toDigits minor, isNumeral_toDigits patch⟩
  rw [checkVersion_eq_ok_iff, hscan]
  constructor
  · rintro ⟨x, y, z, heq, hx, hy⟩
    cases heq
    rw [storedInt_eq (by omega) (by omega)] at hx hy
    omega
  · rintro ⟨hx, hy⟩
    refine ⟨_, _, _, rfl, ?_⟩
    rw [storedInt_eq (by omega) (by omega), storedInt_eq (by omega) (by omega)]
    omega

end Provider

end Dpcp
