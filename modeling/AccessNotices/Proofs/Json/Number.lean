import AccessNotices.Json.Reader
import AccessNotices.Proofs.Number.Rounding
import AccessNotices.Proofs.Text.Blank
/-!
Numbers in JSON texts.

An integer in decimal and the text of a finite floating-point number are both read back in front of
any text that no number goes on with (`readNumber_intText`, `readNumber_finiteText`). The digits of
a decimal are laid out with a point or with an exponent; either way they are read as the same
decimal.
-/

namespace AccessNotices

open Number Text

namespace Json

/-! ### Parts of numbers -/

/-- No number goes on with this text. -/
def EndsNumber (rest : List Char) : Prop :=
  ∀ c ∈ rest.head?, c.isDigit = false ∧ c ≠ '.' ∧ c ≠ 'e' ∧ c ≠ 'E'

/-- All characters are decimal digits of ASCII, and there is at least one. -/
structure IsDigits (s : List Char) : Prop where
  digits : ∀ c ∈ s, c.isDigit = true
  ne_nil : s ≠ []

section Parts

variable {s places rest : List Char} {negative : Bool}

theorem isDigits_zero : IsDigits ['0'] where
  digits := by
    intro c mem
    cases List.mem_singleton.mp mem
    rfl
  ne_nil := List.cons_ne_nil _ _

/-- Digits are taken up to the first character that is none. -/
theorem takeDigits_append (digits : IsDigits s) (ends : ∀ c ∈ rest.head?, c.isDigit = false) :
    takeDigits (s ++ rest) = some (s, rest) := by
  have stays : rest.dropWhile Char.isDigit = rest := dropWhile_eq_self ends
  have nothing : rest.takeWhile Char.isDigit = [] := by
    cases rest with
    | nil => rfl
    | cons c rest => rw [List.takeWhile_cons, ends c rfl, if_neg Bool.false_ne_true]
  rw [takeDigits, List.takeWhile_append_of_pos digits.digits,
    List.dropWhile_append_of_pos digits.digits, stays, nothing, List.append_nil,
    if_neg (by simp [digits.ne_nil])]

/-- A fraction is taken with its point. -/
theorem takeFraction_of_point (digits : IsDigits places)
    (ends : ∀ c ∈ rest.head?, c.isDigit = false) :
    takeFraction ('.' :: (places ++ rest)) = some (some places, rest) := by
  rw [takeFraction, takeDigits_append digits ends]
  rfl

/-- Without a point there is no fraction. -/
theorem takeFraction_of_none (ends : ∀ c ∈ rest.head?, c ≠ '.') :
    takeFraction rest = some (none, rest) := by
  unfold takeFraction
  split
  · exact absurd rfl (ends _ rfl)
  · rfl

/-- Where a number ends there is no exponent. -/
theorem takeExponent_of_none (ends : EndsNumber rest) : takeExponent rest = some (none, rest) := by
  cases rest with
  | nil => rfl
  | cons c rest =>
    obtain ⟨-, -, small, capital⟩ := ends c rfl
    rw [takeExponent, if_neg (not_or.mpr ⟨small, capital⟩)]

/-- A natural number is written in digits. -/
theorem isDigits_natText (n : Nat) : IsDigits (natText n) where
  digits := fun _ mem => Nat.isDigit_of_mem_toDigits (by decide) (by decide) mem
  ne_nil := Finite64.natText_ne_nil n

theorem isDigits_padded (width n : Nat) : IsDigits (padded width n) where
  digits := by
    intro c mem
    rcases List.mem_append.mp mem with zero | digit
    · rw [List.eq_of_mem_replicate zero]
      rfl
    · exact (isDigits_natText n).digits c digit
  ne_nil := by simp [padded, Finite64.natText_ne_nil]

theorem ofDigitChars_padded (width n : Nat) : Nat.ofDigitChars 10 (padded width n) 0 = n := by
  rw [padded, Nat.ofDigitChars_append, Nat.ofDigitChars_replicate_zero, Nat.mul_zero,
    ofDigitChars_natText]

/-- A written exponent is read back. -/
theorem takeExponent_of_written (width : Nat) (exponent : Int) (ends : EndsNumber rest) :
    takeExponent ('e' :: (if exponent < 0 then '-' else '+') ::
      (padded width exponent.natAbs ++ rest)) = some (some exponent, rest) := by
  have noDigit : ∀ c ∈ rest.head?, c.isDigit = false := fun c mem => (ends c mem).1
  have taken := takeDigits_append (isDigits_padded width exponent.natAbs) noDigit
  rw [takeExponent, if_pos (.inl rfl)]
  by_cases negative : exponent < 0
  · rw [if_pos negative]
    simp only [takeSign, taken, Option.bind_eq_bind, Option.bind_some, ofDigitChars_padded, if_true]
    rw [show -(exponent.natAbs : Int) = exponent by omega]
  · rw [if_neg negative]
    simp only [takeSign, taken, Option.bind_eq_bind, Option.bind_some, ofDigitChars_padded,
      Bool.false_eq_true, if_false]
    rw [show (exponent.natAbs : Int) = exponent by omega]

/-- A number is read from its parts. -/
theorem readMagnitude_of_parts {whole next last : List Char} {fraction : Option (List Char)}
    {exponent : Option Int} (digits : IsDigits whole)
    (noZero : whole.head? = some '0' → whole.length = 1)
    (ends : ∀ c ∈ next.head?, c.isDigit = false)
    (fractionEq : takeFraction next = some (fraction, last))
    (exponentEq : takeExponent last = some (exponent, rest)) :
    readMagnitude negative (whole ++ next) =
      (numberOf negative whole fraction exponent).map (·, rest) := by
  have fits : ¬ (whole.head? = some '0' ∧ whole.length ≠ 1) := fun h => h.2 (noZero h.1)
  rw [readMagnitude, takeDigits_append digits ends]
  simp only [Option.bind_eq_bind, Option.bind_some, if_neg fits, fractionEq, exponentEq]

/-- What is read without a sign is a number. -/
theorem readNumber_of_readMagnitude {read : Json × List Char}
    (unsigned : readMagnitude false s = some read) : readNumber s = some read := by
  unfold readNumber
  split
  case h_1 rest =>
    have noDigits : takeDigits ('-' :: rest) = none := rfl
    rw [readMagnitude, noDigits] at unsigned
    cases unsigned
  case h_2 => exact unsigned

end Parts

/-! ### Integers -/

/-- A natural number does not start with a zero, unless it is zero. -/
theorem head?_natText {n : Nat} (pos : 0 < n) : (natText n).head? ≠ some '0' := by
  -- All digits but the last are those of the tenth part.
  induction n using Nat.strongRecOn with
  | ind n ih =>
    by_cases small : n < 10
    · have single : ∀ d < 10, 0 < d → [d.digitChar].head? ≠ some '0' := by decide
      rw [natText, Nat.toDigits_of_lt_base small]
      exact single n small pos
    · have shorter := ih (n / 10) (by omega) (by omega)
      rw [natText, Nat.toDigits_of_base_le (by decide) (not_lt.mp small),
        List.head?_append_of_ne_nil]
      · exact shorter
      · exact Nat.toDigits_ne_nil

/-- Only zero starts with a zero. -/
theorem length_natText_of_zero {n : Nat} (zero : (natText n).head? = some '0') :
    (natText n).length = 1 := by
  rcases Nat.eq_zero_or_pos n with rfl | pos
  · rfl
  · exact absurd zero (head?_natText pos)

/-- An integer is read back. -/
theorem readNumber_intText (n : Int) {rest : List Char} (ends : EndsNumber rest) :
    readNumber (intText n ++ rest) = some (.int n, rest) := by
  have noDigit : ∀ c ∈ rest.head?, c.isDigit = false := fun c mem => (ends c mem).1
  have fraction : takeFraction rest = some (none, rest) :=
    takeFraction_of_none fun c mem => (ends c mem).2.1
  have read (negative : Bool) (m : Nat) : readMagnitude negative (natText m ++ rest) =
      (numberOf negative (natText m) none none).map (·, rest) :=
    readMagnitude_of_parts (isDigits_natText m) length_natText_of_zero noDigit fraction
      (takeExponent_of_none ends)
  cases n with
  | ofNat m =>
    refine readNumber_of_readMagnitude ?_
    rw [intText, read, numberOf, ofDigitChars_natText]
    rfl
  | negSucc m =>
    change readMagnitude true (natText (m + 1) ++ rest) = _
    rw [read, numberOf, ofDigitChars_natText]
    rfl

/-! ### Digits of decimals -/

open Shortest Finite64

/-- The significant digits of a decimal: with some zeros behind them they are all of its digits, and
they start with a zero only if there is nothing else. -/
structure Significant (d : Scaled) (digits : List Char) : Prop where
  isDigits : IsDigits digits
  whole : ∃ zeros, natText d.digits = digits ++ List.replicate zeros '0'
  noZero : digits.head? = some '0' → digits = ['0'] ∧ d.digits = 0

/-- Every decimal has significant digits. -/
theorem significant_significantDigits (d : Scaled) : Significant d (significantDigits d) := by
  unfold significantDigits
  split
  case isTrue zero =>
    exact {
      isDigits := isDigits_zero
      whole := ⟨0, by rw [zero]; rfl⟩
      noZero := fun _ => ⟨rfl, zero⟩ }
  case isFalse nonzero =>
    have lead := head?_natText (Nat.pos_of_ne_zero nonzero)
    have whole : natText d.digits = dropTrailing (· == '0') (natText d.digits) ++
        List.rtakeWhile (· == '0') (natText d.digits) := List.rdropWhile_append_rtakeWhile.symm
    have zeros : List.rtakeWhile (· == '0') (natText d.digits) =
        List.replicate (List.rtakeWhile (· == '0') (natText d.digits)).length '0' :=
      List.eq_replicate_of_mem fun c mem => by simpa using List.mem_rtakeWhile_imp mem
    have noLead : (dropTrailing (· == '0') (natText d.digits)).head? ≠ some '0' := by
      intro zero
      rw [whole, List.head?_append, zero] at lead
      exact lead rfl
    refine ⟨⟨?_, ?_⟩, ⟨_, whole.trans (congrArg _ zeros)⟩, fun zero => absurd zero noLead⟩
    · intro c mem
      exact (isDigits_natText d.digits).digits c ((List.rdropWhile_prefix _ _).subset mem)
    · intro nothing
      rw [nothing, List.nil_append] at whole
      rw [whole, zeros] at lead
      have some := natText_ne_nil d.digits
      rw [whole] at some
      rw [List.head?_replicate, if_neg (by simpa using some)] at lead
      exact lead rfl

/-- Where the point stands in a decimal, counted from its first significant digit. -/
def pointOf (d : Scaled) : Int :=
  if d.digits = 0 then 1 else (natText d.digits).length + d.exponent

/-- The significant digits with the point in its place are the decimal. -/
theorem Significant.nearestDecimal_eq {d : Scaled} {digits : List Char} (h : Significant d digits) :
    nearestDecimal (Nat.ofDigitChars 10 digits 0) (pointOf d - digits.length) =
      nearestDecimal d.digits d.exponent := by
  obtain ⟨zeros, whole⟩ := h.whole
  have value : Nat.ofDigitChars 10 digits 0 * 10 ^ zeros = d.digits := by
    rw [← ofDigitChars_natText d.digits, whole, Nat.ofDigitChars_append,
      Nat.ofDigitChars_replicate_zero, Nat.mul_comm]
  unfold pointOf
  split
  case isTrue zero =>
    have none : Nat.ofDigitChars 10 digits 0 = 0 := by
      rw [zero] at value
      exact (Nat.mul_eq_zero.mp value).resolve_right (Nat.pow_pos (by decide)).ne'
    rw [none, zero, nearestDecimal_zero, nearestDecimal_zero]
  case isFalse nonzero =>
    have length : (natText d.digits).length = digits.length + zeros := by
      rw [whole, List.length_append, List.length_replicate]
    rw [← nearestDecimal_shift _ zeros, value, length, Nat.cast_add]
    congr 1
    omega

/-! ### Floating-point numbers -/

section Layouts

variable {x : Finite64} {whole rest digits : List Char} {d : Scaled}

/-- A number with a fraction or an exponent is the one that is nearest to its decimal. -/
theorem numberOf_of_nearest {fraction : Option (List Char)} {exponent : Option Int}
    (given : fraction ≠ none ∨ exponent ≠ none)
    (nearest : nearestDecimal (Nat.ofDigitChars 10 (whole ++ fraction.getD []) 0)
      (exponent.getD 0 - (fraction.getD []).length) = x.ordinal) :
    numberOf x.negative whole fraction exponent = some (.float x) := by
  have inRange : ofDecimal? x.negative (Nat.ofDigitChars 10 (whole ++ fraction.getD []) 0)
      (exponent.getD 0 - (fraction.getD []).length) = some x := by
    unfold ofDecimal?
    simp only [nearest]
    exact dif_pos x.ordinal_lt
  unfold numberOf
  split
  · simp at given
  · simp only [inRange, Option.map_some]

/-- Digits with a point behind some of them, and digits behind it. -/
theorem readMagnitude_of_point {places : List Char} (isWhole : IsDigits whole)
    (noZero : whole.head? = some '0' → whole.length = 1) (isPlaces : IsDigits places)
    (ends : EndsNumber rest)
    (nearest : nearestDecimal (Nat.ofDigitChars 10 (whole ++ places) 0) (-places.length) =
      x.ordinal) :
    readMagnitude x.negative (whole ++ '.' :: (places ++ rest)) = some (.float x, rest) := by
  have noDigit : ∀ c ∈ rest.head?, c.isDigit = false := fun c mem => (ends c mem).1
  have point : ∀ c ∈ ('.' :: (places ++ rest)).head?, c.isDigit = false := by simp
  rw [readMagnitude_of_parts isWhole noZero point (takeFraction_of_point isPlaces noDigit)
    (takeExponent_of_none ends), numberOf_of_nearest (.inl (Option.some_ne_none places))]
  · rfl
  · rw [Option.getD_some, Option.getD_none, Int.zero_sub]
    exact nearest

theorem IsDigits.zeros_append (h : IsDigits digits) (zeros : Nat) :
    IsDigits (List.replicate zeros '0' ++ digits) where
  digits := by
    intro c mem
    rcases List.mem_append.mp mem with zero | digit
    · rw [List.eq_of_mem_replicate zero]
      rfl
    · exact h.digits c digit
  ne_nil := by simp [h.ne_nil]

theorem IsDigits.append_zeros (h : IsDigits digits) (zeros : Nat) :
    IsDigits (digits ++ List.replicate zeros '0') where
  digits := by
    intro c mem
    rcases List.mem_append.mp mem with digit | zero
    · exact h.digits c digit
    · rw [List.eq_of_mem_replicate zero]
      rfl
  ne_nil := by simp [h.ne_nil]

theorem IsDigits.of_subset (h : IsDigits digits) {part : List Char} (sub : part ⊆ digits)
    (ne_nil : part ≠ []) : IsDigits part :=
  ⟨fun c mem => h.digits c (sub mem), ne_nil⟩

/-- A point in front of the digits has a zero in front of it. -/
theorem plain_of_le_zero {point : Int} (front : point ≤ 0) :
    plain digits point = ['0'] ++ '.' :: (List.replicate (-point).toNat '0' ++ digits) := by
  rw [plain, if_pos front]
  rfl

/-- A point behind the digits has zeros up to it, and a zero behind it. -/
theorem plain_of_length_le {n : Nat} (pos : 0 < n) (past : digits.length ≤ n) :
    plain digits n = digits ++ List.replicate (n - digits.length) '0' ++ '.' :: ['0'] := by
  rw [plain, if_neg (by omega), Int.toNat_natCast]
  simp only [List.take_of_length_le past, List.drop_of_length_le past, List.isEmpty_nil, if_true]

/-- A point between the digits. -/
theorem plain_of_lt_length {n : Nat} (pos : 0 < n) (parted : n < digits.length) :
    plain digits n = digits.take n ++ '.' :: digits.drop n := by
  have behind : (digits.drop n).isEmpty = false := by simpa using parted
  rw [plain, if_neg (by omega), Int.toNat_natCast]
  simp only [List.length_take_of_le parted.le, Nat.sub_self, List.replicate_zero, List.append_nil,
    behind, Bool.false_eq_true, if_false]

/-- A decimal that is written plainly is read as the number nearest to it. -/
theorem readMagnitude_plain (h : Significant d digits) (ends : EndsNumber rest)
    (nearest : nearestDecimal d.digits d.exponent = x.ordinal) :
    readMagnitude x.negative (plain digits (pointOf d) ++ rest) = some (.float x, rest) := by
  have same := h.nearestDecimal_eq.trans nearest
  have zeroPoint : digits.head? = some '0' → digits = ['0'] ∧ pointOf d = 1 := fun zero =>
    ⟨(h.noZero zero).1, if_pos (h.noZero zero).2⟩
  have some := List.length_pos_of_ne_nil h.isDigits.ne_nil
  generalize pointOf d = point at *
  by_cases front : point ≤ 0
  · rw [plain_of_le_zero front, List.append_assoc]
    refine readMagnitude_of_point isDigits_zero (fun _ => rfl)
      (h.isDigits.zeros_append _) ends ?_
    rw [Nat.ofDigitChars_append, Nat.ofDigitChars_append, Nat.ofDigitChars_replicate_zero,
      show Nat.ofDigitChars 10 ['0'] 0 = 0 from rfl, Nat.mul_zero, List.length_append,
      List.length_replicate, ← same]
    congr 1
    omega
  obtain ⟨n, rfl⟩ := Int.eq_ofNat_of_zero_le (show 0 ≤ point by omega)
  by_cases past : digits.length ≤ n
  · rw [plain_of_length_le (by omega) past, List.append_assoc]
    refine readMagnitude_of_point (h.isDigits.append_zeros _) ?_ isDigits_zero ends ?_
    · intro zero
      rw [List.head?_append_of_ne_nil _ h.isDigits.ne_nil] at zero
      obtain ⟨rfl, one⟩ := zeroPoint zero
      obtain rfl : n = 1 := by omega
      rfl
    · have shifted := nearestDecimal_shift (Nat.ofDigitChars 10 digits 0) (n - digits.length + 1)
        (n - digits.length)
      rw [show (n - digits.length - (n - digits.length + 1 : Nat) : Int) = -(1 : Nat) by omega]
        at shifted
      rw [List.append_assoc, ← List.replicate_succ', Nat.ofDigitChars_append,
        Nat.ofDigitChars_replicate_zero, Nat.mul_comm]
      exact shifted.trans same
  · rw [not_le] at past
    rw [plain_of_lt_length (by omega) past, List.append_assoc]
    refine readMagnitude_of_point ?_ ?_ ?_ ends ?_
    · exact h.isDigits.of_subset (List.take_subset n digits)
        (List.ne_nil_of_length_pos (by rw [List.length_take]; omega))
    · intro zero
      rw [List.head?_take, if_neg (by omega)] at zero
      obtain ⟨rfl, -⟩ := zeroPoint zero
      rw [List.length_singleton] at past
      omega
    · exact h.isDigits.of_subset (List.drop_subset n digits)
        (List.ne_nil_of_length_pos (by rw [List.length_drop]; omega))
    · rw [List.take_append_drop, List.length_drop, ← same]
      congr 1
      omega

/-- An exponent as it is written behind the digits. -/
def exponentPart (exponent : Int) : List Char :=
  'e' :: (if exponent < 0 then '-' else '+') :: padded layout.exponentDigits exponent.natAbs

/-- Digits, maybe with a point behind some of them, and an exponent. -/
theorem readMagnitude_of_exponent {next : List Char} {fraction : Option (List Char)}
    {exponent : Int} (isWhole : IsDigits whole)
    (noZero : whole.head? = some '0' → whole.length = 1)
    (noDigit : ∀ c ∈ next.head?, c.isDigit = false)
    (fractionEq : takeFraction next = some (fraction, exponentPart exponent ++ rest))
    (ends : EndsNumber rest)
    (nearest : nearestDecimal (Nat.ofDigitChars 10 (whole ++ fraction.getD []) 0)
      (exponent - (fraction.getD []).length) = x.ordinal) :
    readMagnitude x.negative (whole ++ next) = some (.float x, rest) := by
  rw [readMagnitude_of_parts isWhole noZero noDigit fractionEq
    (takeExponent_of_written layout.exponentDigits exponent ends),
    numberOf_of_nearest (.inr (Option.some_ne_none exponent)) nearest]
  rfl

/-- A decimal that is written with an exponent is read as the number nearest to it. -/
theorem readMagnitude_scientific (h : Significant d digits) (ends : EndsNumber rest)
    (nearest : nearestDecimal d.digits d.exponent = x.ordinal) :
    readMagnitude x.negative (scientific layout digits (pointOf d - 1) ++ rest) =
      some (.float x, rest) := by
  have same := h.nearestDecimal_eq.trans nearest
  obtain ⟨lead, fraction, rfl⟩ := List.exists_cons_of_ne_nil h.isDigits.ne_nil
  have single : IsDigits [lead] := h.isDigits.of_subset (by simp) (List.cons_ne_nil lead [])
  have noDigit : ∀ c ∈ (exponentPart (pointOf d - 1) ++ rest).head?, c.isDigit = false := by
    simp [exponentPart]
  rw [List.length_cons, Nat.cast_succ, Int.add_comm, ← Int.sub_sub] at same
  cases fraction with
  | nil =>
    have noPoint : takeFraction (exponentPart (pointOf d - 1) ++ rest) =
        some (none, exponentPart (pointOf d - 1) ++ rest) :=
      takeFraction_of_none (by simp [exponentPart])
    have text : scientific layout [lead] (pointOf d - 1) ++ rest =
        [lead] ++ (exponentPart (pointOf d - 1) ++ rest) := rfl
    rw [text]
    exact readMagnitude_of_exponent single (fun _ => rfl) noDigit noPoint ends same
  | cons c others =>
    have isPlaces : IsDigits (c :: others) :=
      h.isDigits.of_subset (List.subset_cons_self lead _) (List.cons_ne_nil c others)
    have point := takeFraction_of_point isPlaces noDigit
    have text : scientific layout (lead :: c :: others) (pointOf d - 1) ++ rest =
        [lead] ++ '.' :: (c :: others ++ (exponentPart (pointOf d - 1) ++ rest)) := by
      rw [← List.append_assoc]
      rfl
    rw [text]
    exact readMagnitude_of_exponent single (fun _ => rfl) (by simp) point ends same

/-- The text of a magnitude is read as the number nearest to its decimal. -/
theorem readMagnitude_magnitudeText (ends : EndsNumber rest)
    (nearest : nearestDecimal d.digits d.exponent = x.ordinal) :
    readMagnitude x.negative (magnitudeText layout d ++ rest) = some (.float x, rest) := by
  have h := significant_significantDigits d
  have lead : (if d.digits = 0 then 0 else ((natText d.digits).length + d.exponent - 1 : Int)) =
      pointOf d - 1 := by
    unfold pointOf
    split <;> rfl
  unfold magnitudeText
  simp only [lead, Int.sub_add_cancel]
  split
  · exact readMagnitude_plain h ends nearest
  · exact readMagnitude_scientific h ends nearest

/-- The text of a finite number is read back. -/
theorem readNumber_finiteText (x : Finite64) (ends : EndsNumber rest) :
    readNumber (finiteText x ++ rest) = some (.float x, rest) := by
  have read := readMagnitude_magnitudeText (x := x) ends (nearestDecimal_decimal x.ordinal_lt)
  unfold finiteText
  cases sign : x.negative with
  | true =>
    rw [sign] at read
    exact read
  | false =>
    rw [sign] at read
    exact readNumber_of_readMagnitude read

end Layouts

end Json

end AccessNotices
