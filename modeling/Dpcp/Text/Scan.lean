import Mathlib.Data.List.TakeWhile
import Mathlib.Tactic.Common

/-!
# Formatted input

`sscanf` of C on a string that is given as a list of characters, for formats made of `%d`, `%c` and
characters that stand for themselves.  A conversion `%d` skips white space, and then takes a sign,
if there is one, and as many digits as it can; it fails if there is no digit.  The first directive
that fails ends the input.

`IsNumeral` is the grammar of what `%d` takes, and `scanInt_eq_some_iff` says that it takes the
longest numeral.
-/

namespace Text

/-- `isspace` in the C locale. -/
def isSpace (c : Char) : Bool :=
  c.toNat = 32 || (9 ≤ c.toNat && c.toNat ≤ 13)

/-- The sign of a number, and what follows it. -/
def splitSign : List Char → Int × List Char
  | '-' :: s => (-1, s)
  | '+' :: s => (1, s)
  | s => (1, s)

/-- The conversion `%d`: the number, and what follows it. -/
def scanInt (s : List Char) : Option (Int × List Char) :=
  let (sign, s) := splitSign (s.dropWhile isSpace)
  let digits := s.takeWhile Char.isDigit
  if digits = [] then none
  else some (sign * (Nat.ofDigitChars 10 digits 0 : Nat), s.dropWhile Char.isDigit)

/-- A directive of a format. -/
inductive Directive where
  | int
  | char
  | lit (c : Char)

/-- What a conversion gives. -/
inductive Conversion where
  | int (v : Int)
  | char (c : Char)
deriving DecidableEq

/-- The conversions that `sscanf` makes. -/
def sscanf : List Directive → List Char → List Conversion
  | .int :: ds, s =>
      match scanInt s with
      | some (v, s) => .int v :: sscanf ds s
      | none => []
  | .char :: ds, c :: s => .char c :: sscanf ds s
  | .lit c :: ds, c' :: s => if c = c' then sscanf ds s else []
  | _, _ => []

/-- The signs of a number. -/
def signs : List (List Char × Int) :=
  [([], 1), (['+'], 1), (['-'], -1)]

/-- The characters are a numeral of the number `v`, with white space before it. -/
def IsNumeral (s : List Char) (v : Int) : Prop :=
  ∃ spaces sign digits, s = spaces ++ (sign.1 ++ digits)
    ∧ (∀ c ∈ spaces, isSpace c = true) ∧ sign ∈ signs
    ∧ digits ≠ [] ∧ (∀ c ∈ digits, c.isDigit = true)
    ∧ v = sign.2 * (Nat.ofDigitChars 10 digits 0 : Nat)

/-- There is no digit at the front. -/
def NoDigit (s : List Char) : Prop :=
  ∀ c, s.head? = some c → c.isDigit = false

theorem splitSign_spec (s : List Char) :
  ∃ sign ∈ signs, s = sign.1 ++ (splitSign s).2 ∧ sign.2 = (splitSign s).1
  := by
  unfold splitSign
  split
  · exact ⟨(['-'], -1), by simp [signs], rfl, rfl⟩
  · exact ⟨(['+'], 1), by simp [signs], rfl, rfl⟩
  · exact ⟨([], 1), by simp [signs], rfl, rfl⟩

theorem toNat_of_isDigit {c : Char} (h : c.isDigit = true) :
  48 ≤ c.toNat ∧ c.toNat ≤ 57
  := by
  rw [Char.isDigit, Bool.and_eq_true, decide_eq_true_iff, decide_eq_true_iff] at h
  exact h

/-- A digit is neither white space nor a sign. -/
theorem isSpace_of_isDigit {c : Char} (h : c.isDigit = true) :
  isSpace c = false
  := by
  have hc := toNat_of_isDigit h
  rw [isSpace, Bool.or_eq_false_iff, decide_eq_false_iff_not, Bool.and_eq_false_iff,
    decide_eq_false_iff_not, decide_eq_false_iff_not]
  omega

theorem splitSign_of_isDigit {c : Char} (h : c.isDigit = true) (s : List Char) :
  splitSign (c :: s) = (1, c :: s)
  := by
  unfold splitSign
  split
  case h_1 heq =>
    cases heq
    cases h
  case h_2 heq =>
    cases heq
    cases h
  case h_3 => rfl

section Numeral

variable {sign : List Char × Int} (hsign : sign ∈ signs) {c : Char} (hc : c.isDigit = true)
  (s : List Char)

include hsign hc

theorem splitSign_append :
  splitSign (sign.1 ++ c :: s) = (sign.2, c :: s)
  := by
  simp only [signs, List.mem_cons, List.not_mem_nil, or_false] at hsign
  rcases hsign with rfl | rfl | rfl
  · apply splitSign_of_isDigit hc
  · rfl
  · rfl

/-- White space ends before a sign or a digit. -/
theorem dropWhile_isSpace_append :
  (sign.1 ++ c :: s).dropWhile isSpace = sign.1 ++ c :: s
  := by
  simp only [signs, List.mem_cons, List.not_mem_nil, or_false] at hsign
  rcases hsign with rfl | rfl | rfl
  · apply List.dropWhile_cons_of_neg
    rw [isSpace_of_isDigit hc]
    exact Bool.false_ne_true
  · rfl
  · rfl

end Numeral

theorem takeWhile_isDigit_append {digits rest : List Char}
    (hdigits : ∀ c ∈ digits, c.isDigit = true) (hrest : NoDigit rest) :
  (digits ++ rest).takeWhile Char.isDigit = digits ∧ (digits ++ rest).dropWhile Char.isDigit = rest
  := by
  rw [List.takeWhile_append_of_pos hdigits, List.dropWhile_append_of_pos hdigits]
  cases rest with
  | nil => exact ⟨List.append_nil digits, rfl⟩
  | cons c rest =>
      have hc : ¬ c.isDigit = true := by rw [hrest c rfl]; exact Bool.false_ne_true
      rw [List.takeWhile_cons_of_neg hc, List.dropWhile_cons_of_neg hc]
      exact ⟨List.append_nil digits, rfl⟩

/-- `%d` takes the longest numeral. -/
theorem scanInt_eq_some_iff {s rest : List Char} {v : Int} :
  scanInt s = some (v, rest) ↔ ∃ numeral, s = numeral ++ rest ∧ IsNumeral numeral v ∧ NoDigit rest
  := by
  constructor
  · intro h
    obtain ⟨sign, hsign, happend, hvalue⟩ := splitSign_spec (s.dropWhile isSpace)
    simp only [scanInt] at h
    split at h
    · cases h
    case isFalse hdigits =>
      cases h
      generalize hrest : (splitSign (s.dropWhile isSpace)).2 = t at *
      refine ⟨s.takeWhile isSpace ++ (sign.1 ++ t.takeWhile Char.isDigit), ?_,
        ⟨_, sign, _, rfl, ?_, hsign, hdigits, ?_, ?_⟩, ?_⟩
      · rw [List.append_assoc, List.append_assoc, List.takeWhile_append_dropWhile, ← happend,
          List.takeWhile_append_dropWhile]
      · intro c hc
        apply List.mem_takeWhile_imp hc
      · intro c hc
        apply List.mem_takeWhile_imp hc
      · rw [hvalue]
      · intro c hc
        have hnot := List.head?_dropWhile_not Char.isDigit t
        rw [hc] at hnot
        apply hnot
  · rintro ⟨_, rfl, ⟨spaces, sign, digits, rfl, hspaces, hsign, hne, hdigits, rfl⟩, hrest⟩
    obtain ⟨c, digits, rfl⟩ := List.exists_cons_of_ne_nil hne
    have hc : c.isDigit = true := hdigits c List.mem_cons_self
    obtain ⟨htake, hdrop⟩ := takeWhile_isDigit_append hdigits hrest
    rw [scanInt, List.append_assoc, List.dropWhile_append_of_pos hspaces, List.append_assoc,
      List.cons_append, dropWhile_isSpace_append hsign hc, splitSign_append hsign hc]
    simp only [← List.cons_append, htake, hdrop, if_neg hne]

/-! ### Formats -/

theorem sscanf_int_eq {ds : List Directive} {s : List Char} {v : Int} {vs : List Conversion} :
  sscanf (.int :: ds) s = .int v :: vs ↔ ∃ numeral rest, s = numeral ++ rest ∧ IsNumeral numeral v
    ∧ NoDigit rest ∧ sscanf ds rest = vs
  := by
  have hscan : sscanf (.int :: ds) s = .int v :: vs
      ↔ ∃ rest, scanInt s = some (v, rest) ∧ sscanf ds rest = vs := by
    rw [sscanf]
    cases scanInt s with
    | none => simp
    | some r =>
        obtain ⟨v', rest⟩ := r
        simp [and_assoc]
  simp only [hscan, scanInt_eq_some_iff]
  constructor
  · rintro ⟨rest, ⟨numeral, heq, hnumeral, hrest⟩, hvs⟩
    exact ⟨numeral, rest, heq, hnumeral, hrest, hvs⟩
  · rintro ⟨numeral, rest, heq, hnumeral, hrest, hvs⟩
    exact ⟨rest, ⟨numeral, heq, hnumeral, hrest⟩, hvs⟩

theorem sscanf_lit_eq {c : Char} {ds : List Directive} {s : List Char} {v : Conversion}
    {vs : List Conversion} :
  sscanf (.lit c :: ds) s = v :: vs ↔ ∃ rest, s = c :: rest ∧ sscanf ds rest = v :: vs
  := by
  cases s with
  | nil => simp [sscanf]
  | cons c' s =>
      rw [sscanf]
      by_cases h : c = c'
      · simp [h]
      · simp [h, Ne.symm h]

theorem sscanf_char_eq_nil {s : List Char} :
  sscanf [.char] s = [] ↔ s = []
  := by
  cases s with
  | nil => simp [sscanf]
  | cons c s => simp [sscanf]

/-- The digits of a number are a numeral of it. -/
theorem isNumeral_toDigits (n : Nat) :
  IsNumeral (Nat.toDigits 10 n) n
  := by
  refine ⟨[], ([], 1), Nat.toDigits 10 n, rfl, by simp, by simp [signs], Nat.toDigits_ne_nil, ?_,
    ?_⟩
  · intro c hc
    apply Nat.isDigit_of_mem_toDigits _ _ hc <;> decide
  · rw [Nat.ofDigitChars_ten_toDigits, Int.one_mul]

end Text
