import RefactorGateway.Json.Reader
/-!
# Numerals and strings read back

A numeral that stands for a finite number and a string of any characters are read back from their
spelling, whatever follows them.

## Main Definitions

* `EndsNumeral`: what may follow a numeral without becoming a part of it

## Main Statements

* `readNumeral_chars`: a finite numeral is read back from its spelling
* `readString_quote`: a string is read back from between its quotation marks

## Design Notes

A reader of digits takes as many as there are, so a numeral comes back only if no further digit,
point or exponent stands behind it.  A string carries its own end, so nothing is asked of what
follows.  Of escaped characters only those below a blank are written by their code, and those are
never halves of a surrogate pair.
-/

namespace RefactorGateway.Json

/-! ### Digits -/

/-- What may follow a numeral: nothing, or a character that no numeral goes on with. -/
def EndsNumeral (rest : List Char) : Prop :=
  ∀ c ∈ rest.head?, digit? c = none ∧ c ≠ '.' ∧ c ≠ 'e' ∧ c ≠ 'E'

@[simp] theorem endsNumeral_nil : EndsNumeral [] := by simp [EndsNumeral]

@[simp] theorem endsNumeral_cons {c : Char} {rest : List Char} :
    EndsNumeral (c :: rest) ↔ digit? c = none ∧ c ≠ '.' ∧ c ≠ 'e' ∧ c ≠ 'E' := by
  simp [EndsNumeral]

/-- Digits come back up to the first character that is none. -/
theorem readDigits_map (ds : List (Fin 10)) {rest : List Char}
    (stops : ∀ c ∈ rest.head?, digit? c = none) :
    readDigits (ds.map digitChar ++ rest) = (ds, rest) := by
  induction ds with
  | nil =>
    cases rest with
    | nil => rfl
    | cons c cs =>
      have none_c : digit? c = none := stops c rfl
      simp only [List.map_nil, List.nil_append, readDigits, none_c]
  | cons d ds ih =>
    simp only [List.map_cons, List.cons_append, readDigits, digit?_digitChar, ih]

theorem digitsValue_append (ds : List (Fin 10)) (d : Fin 10) :
    digitsValue (ds ++ [d]) = 10 * digitsValue ds + d.val := by
  simp only [digitsValue, List.foldl_append, List.foldl_cons, List.foldl_nil]

/-- A natural number is spelled by its decimal digits, of which the first is zero only if it is the
only one. -/
theorem exists_toDigits (n : Nat) :
    ∃ (d : Fin 10) (ds : List (Fin 10)),
      Nat.toDigits 10 n = digitChar d :: ds.map digitChar ∧ digitsValue (d :: ds) = n ∧
        (d.val = 0 → ds = []) := by
  induction n using Nat.strongRecOn with
  | ind n ih =>
    by_cases small : n < 10
    · refine ⟨⟨n, small⟩, [], ?_, ?_, fun _ => rfl⟩
      · exact Nat.toDigits_of_lt_base small
      · simp [digitsValue]
    · obtain ⟨d, ds, spelled, value, leading⟩ := ih (n / 10) (by omega)
      have last : n % 10 < 10 := Nat.mod_lt n (by omega)
      refine ⟨d, ds ++ [⟨n % 10, last⟩], ?_, ?_, ?_⟩
      · rw [Nat.toDigits_of_base_le (by omega) (by omega), spelled, List.map_append]
        rfl
      · rw [← List.cons_append, digitsValue_append, value]
        show 10 * (n / 10) + n % 10 = n
        omega
      · -- a leading zero would make all but the last digit worth nothing
        intro zero
        rw [leading zero] at value
        have worthless : digitsValue [d] = 0 := by simp [digitsValue, zero]
        omega

/-! ### Numerals -/

theorem readWhole_toDigits (n : Nat) {rest : List Char}
    (stops : ∀ c ∈ rest.head?, digit? c = none) :
    readWhole (Nat.toDigits 10 n ++ rest) = .ok (n, rest) := by
  obtain ⟨d, ds, spelled, value, leading⟩ := exists_toDigits n
  rw [spelled, List.cons_append]
  simp only [readWhole, digit?_digitChar, readDigits_map ds stops]
  by_cases zero : d.val = 0
  · -- a leading zero is the whole number, so the reader may stop behind it
    have alone := leading zero
    subst alone
    have n_zero : n = 0 := by rw [← value]; simp [digitsValue, zero]
    simp [zero, n_zero]
  · simp [zero, value]

theorem readFraction_chars (ds : List (Fin 10)) {rest : List Char}
    (stops : ∀ c ∈ rest.head?, digit? c = none) (no_point : ∀ c ∈ rest.head?, c ≠ '.') :
    readFraction (fractionChars ds ++ rest) = .ok (ds, rest) := by
  cases ds with
  | nil =>
    show readFraction rest = .ok ([], rest)
    cases rest with
    | nil => rfl
    | cons c cs =>
      have other : c ≠ '.' := no_point c rfl
      unfold readFraction
      split
      · next h => exact absurd (List.cons.inj h).1 other
      · rfl
  | cons d ds =>
    have digits := readDigits_map (d :: ds) stops
    simp only [List.map_cons, List.cons_append] at digits
    simp only [fractionChars, List.cons_append, readFraction, digits]

theorem digitChar_ne_sign (d : Fin 10) : digitChar d ≠ '+' ∧ digitChar d ≠ '-' := by
  revert d
  decide

theorem readExponentSign_chars (sign : ExponentSign) (d : Fin 10) (cs : List Char) :
    readExponentSign (sign.chars ++ digitChar d :: cs) = (sign, digitChar d :: cs) := by
  obtain ⟨no_plus, no_minus⟩ := digitChar_ne_sign d
  cases sign with
  | absent =>
    simp only [ExponentSign.chars, List.nil_append]
    unfold readExponentSign
    split
    · next h => exact absurd (List.cons.inj h).1 no_plus
    · next h => exact absurd (List.cons.inj h).1 no_minus
    · rfl
  | plus => rfl
  | minus => rfl

theorem readExponentTail_chars (e : Exponent) {rest : List Char}
    (stops : ∀ c ∈ rest.head?, digit? c = none) :
    readExponentTail e.capital
        (e.sign.chars ++ digitChar e.first :: (e.rest.map digitChar ++ rest)) =
      .ok (some e, rest) := by
  have digits := readDigits_map (e.first :: e.rest) stops
  simp only [List.map_cons, List.cons_append] at digits
  simp only [readExponentTail, readExponentSign_chars, digits]

theorem readExponent_chars (e : Option Exponent) {rest : List Char} (ends : EndsNumeral rest) :
    readExponent ((e.map Exponent.chars).getD [] ++ rest) = .ok (e, rest) := by
  have stops : ∀ c ∈ rest.head?, digit? c = none := fun c h => (ends c h).1
  cases e with
  | none =>
    show readExponent rest = .ok (none, rest)
    cases rest with
    | nil => rfl
    | cons c cs =>
      obtain ⟨-, -, no_e, no_E⟩ := endsNumeral_cons.1 ends
      unfold readExponent
      split
      · next h => exact absurd (List.cons.inj h).1 no_e
      · next h => exact absurd (List.cons.inj h).1 no_E
      · rfl
  | some e =>
    have tail := readExponentTail_chars e stops
    cases capital : e.capital <;> rw [capital] at tail <;>
      simpa [Exponent.chars, capital, readExponent] using tail

/-- The spelling of a numeral without its sign. -/
def Numeral.unsigned (n : Numeral) : List Char :=
  Nat.toDigits 10 n.whole ++ (fractionChars n.fraction ++ (n.exponent.map Exponent.chars).getD [])

theorem Numeral.chars_eq (n : Numeral) :
    n.chars = (if n.negative then ['-'] else []) ++ n.unsigned := by
  simp only [Numeral.chars, Numeral.unsigned, List.append_assoc]

/-- An exponent begins with its letter. -/
theorem head?_exponentChars (e : Option Exponent) (rest : List Char) :
    ∀ c ∈ ((e.map Exponent.chars).getD [] ++ rest).head?,
      c = 'e' ∨ c = 'E' ∨ c ∈ rest.head? := by
  intro c hc
  cases e with
  | none => exact .inr (.inr hc)
  | some e =>
    have letter : (if e.capital then 'E' else 'e') = c := by
      simpa [Exponent.chars] using hc
    cases capital : e.capital <;> rw [capital] at letter
    · exact .inl letter.symm
    · exact .inr (.inl letter.symm)

/-- A fraction begins with its point. -/
theorem head?_fractionChars (ds : List (Fin 10)) (rest : List Char) :
    ∀ c ∈ (fractionChars ds ++ rest).head?, c = '.' ∨ c ∈ rest.head? := by
  intro c hc
  cases ds with
  | nil => exact .inr hc
  | cons d ds =>
    have point : '.' = c := by simpa [fractionChars] using hc
    exact .inl point.symm

theorem readSpelling_unsigned (n : Numeral) {rest : List Char} (ends : EndsNumeral rest) :
    readSpelling n.negative (n.unsigned ++ rest) = .ok (n, rest) := by
  -- each part must stop where the next one that is there begins, so the stops are found backwards
  let exponent := (n.exponent.map Exponent.chars).getD []
  have exponent_stops : ∀ c ∈ (exponent ++ rest).head?, digit? c = none ∧ c ≠ '.' := by
    intro c hc
    rcases head?_exponentChars n.exponent rest c hc with rfl | rfl | hc
    · decide
    · decide
    · exact ⟨(ends c hc).1, (ends c hc).2.1⟩
  have fraction_stops :
      ∀ c ∈ (fractionChars n.fraction ++ (exponent ++ rest)).head?, digit? c = none := by
    intro c hc
    rcases head?_fractionChars n.fraction (exponent ++ rest) c hc with rfl | hc
    · decide
    · exact (exponent_stops c hc).1
  have whole := readWhole_toDigits n.whole fraction_stops
  have fraction := readFraction_chars n.fraction (fun c hc => (exponent_stops c hc).1)
    (fun c hc => (exponent_stops c hc).2)
  simp only [Numeral.unsigned, List.append_assoc, readSpelling, bind, Except.bind, whole, fraction,
    readExponent_chars n.exponent ends, exponent]
  rfl

/-- A finite numeral is read back from its spelling. -/
theorem readNumeral_chars (n : Numeral) (finite : n.isFinite) {rest : List Char}
    (ends : EndsNumeral rest) :
    readNumeral n.negative (n.unsigned ++ rest) = .ok (n, rest) := by
  simp only [readNumeral, readSpelling_unsigned n ends, bind, Except.bind, finite]
  rfl

/-- A numeral begins with a digit or with a minus. -/
theorem exists_unsigned_eq_cons (n : Numeral) : ∃ d cs, n.unsigned = digitChar d :: cs := by
  obtain ⟨d, ds, spelled, -, -⟩ := exists_toDigits n.whole
  exact ⟨d, _, by rw [Numeral.unsigned, spelled, List.cons_append]⟩

/-! ### Strings -/

theorem hexValue?_hexDigit {n : Nat} (small : n < 16) : hexValue? (hexDigit n) = some n := by
  have all : ∀ d : Fin 16, hexValue? (hexDigit d) = some d.val := by decide
  exact all ⟨n, small⟩

/-- The code of a control character is read back. -/
theorem readCoded_control {c : Char} (control : c.toNat < 0x20) (cs : List Char) :
    readCoded ('0' :: '0' :: hexDigit (c.toNat / 16) :: hexDigit (c.toNat % 16) :: cs) =
      .ok (c, cs) := by
  have zero : hexValue? '0' = some 0 := by decide
  have high := hexValue?_hexDigit (n := c.toNat / 16) (by omega)
  have low := hexValue?_hexDigit (n := c.toNat % 16) (by omega)
  have code : 4096 * 0 + 256 * 0 + 16 * (c.toNat / 16) + c.toNat % 16 = c.toNat := by omega
  -- a code below a blank is no half of a pair, so the reader asks for no second code
  have no_low : isLowSurrogate c.toNat = false := by simp [isLowSurrogate]; omega
  have no_high : isHighSurrogate c.toNat = false := by simp [isHighSurrogate]; omega
  simp only [readCoded, readCode, zero, high, low, code, bind, Except.bind, no_low, no_high]
  simp [pure, Except.pure, Char.ofNat_toNat]

/-- A character stands for itself, or it is escaped and its escape is read back. -/
theorem escape_cases (c : Char) :
    (escape c = [c] ∧ c ≠ '"' ∧ c ≠ '\\' ∧ ¬ c.toNat < 0x20) ∨
      ∃ tail, escape c = '\\' :: tail ∧ ∀ cs, readEscape (tail ++ cs) = .ok (c, cs) := by
  unfold escape
  split
  · next h => exact .inr ⟨['"'], rfl, fun cs => by rw [h]; rfl⟩
  split
  · next h => exact .inr ⟨['\\'], rfl, fun cs => by rw [h]; rfl⟩
  split
  · next h => exact .inr ⟨['b'], rfl, fun cs => by rw [h]; rfl⟩
  split
  · next h => exact .inr ⟨['f'], rfl, fun cs => by rw [h]; rfl⟩
  split
  · next h => exact .inr ⟨['n'], rfl, fun cs => by rw [h]; rfl⟩
  split
  · next h => exact .inr ⟨['r'], rfl, fun cs => by rw [h]; rfl⟩
  split
  · next h => exact .inr ⟨['t'], rfl, fun cs => by rw [h]; rfl⟩
  split
  · next control => exact .inr ⟨_, rfl, fun cs => readCoded_control control cs⟩
  · next no_quote no_backslash _ _ _ _ _ printable =>
    exact .inl ⟨rfl, no_quote, no_backslash, printable⟩

theorem readChars_quote (cs : List Char) {steps : Nat} (enough : cs.length < steps)
    (rest : List Char) :
    readChars steps (cs.flatMap escape ++ '"' :: rest) = .ok (cs, rest) := by
  induction cs generalizing steps with
  | nil =>
    obtain ⟨steps, rfl⟩ : ∃ k, steps = k + 1 := ⟨steps - 1, by simp at enough; omega⟩
    rfl
  | cons c cs ih =>
    obtain ⟨steps, rfl⟩ : ∃ k, steps = k + 1 := ⟨steps - 1, by simp at enough; omega⟩
    have shorter : cs.length < steps := by simpa using enough
    have later := ih shorter
    rw [List.flatMap_cons, List.append_assoc]
    -- an escape is read whole, so it costs one step just as a character that stands for itself
    rcases escape_cases c with ⟨plain, no_quote, no_backslash, printable⟩ | ⟨tail, escaped, read⟩
    · simp only [plain, List.cons_append, List.nil_append, readChars, no_quote, no_backslash,
        printable, if_false, later, bind, Except.bind]
      rfl
    · have backslash : ('\\' : Char) ≠ '"' := by decide
      simp only [escaped, List.cons_append, readChars, backslash, if_false, if_true, read, later,
        bind, Except.bind]
      rfl

theorem length_le_length_flatMap_escape (cs : List Char) :
    cs.length ≤ (cs.flatMap escape).length := by
  induction cs with
  | nil => exact Nat.le_refl _
  | cons c cs ih =>
    have some_char : 1 ≤ (escape c).length := by
      rcases escape_cases c with ⟨plain, -⟩ | ⟨tail, escaped, -⟩
      · simp [plain]
      · simp [escaped]
    simp only [List.length_cons, List.flatMap_cons, List.length_append]
    omega

/-- A string is read back from between its quotation marks. -/
theorem readString_quote (s : String) (rest : List Char) :
    readString (s.toList.flatMap escape ++ '"' :: rest) = .ok (s, rest) := by
  have enough : s.toList.length < (s.toList.flatMap escape ++ '"' :: rest).length + 1 := by
    have := length_le_length_flatMap_escape s.toList
    simp only [List.length_append, List.length_cons]
    omega
  simp only [readString, readChars_quote s.toList enough, bind, Except.bind]
  simp [pure, Except.pure, String.ofList_toList]

end RefactorGateway.Json
