import NotificationTap.Json.Reader
import NotificationTap.Json.Text

/-!
# Reading back strings and integers

* `unquote_quoted`: a written string is read back, character by character, whatever follows it.
* `EndsNumber`: what follows does not go on with a number; the punctuation after a value never does.
* `readNumber_toDigits`: the digits of a number are read back as that number if it fits 64 bits.
* `readValue_integerText`: an integer that fits 64 bits, with or without sign, is read back.
-/

namespace NotificationTap.Json

open Text (hexDigit hexDigit? hexDigit?_hexDigit)

/-! ## Strings -/

/-- The four digits that `escape` writes read back. -/
theorem hexQuad?_hexDigit {n : Nat} (h : n < 256) :
    hexQuad? '0' '0' (hexDigit (n / 16)) (hexDigit (n % 16)) = some n := by
  have h0 : hexDigit? '0' = some 0 := by decide
  have h1 := hexDigit?_hexDigit (n / 16) (by omega)
  have h2 := hexDigit?_hexDigit (n % 16) (by omega)
  simp only [hexQuad?, h0, h1, h2, Option.bind_eq_bind, Option.bind_some, Option.pure_def,
    Option.some.injEq]
  omega

theorem unquote_short {e c : Char} (he : e ≠ 'u') (h : shortEscape? e = some c)
    (rest : List Char) : unquote ('\\' :: e :: rest) = (unquote rest).map (c :: ·) := by
  rw [unquote.eq_def]
  simp [he, h]

theorem unquote_numbered {c : Char} (h : c < ' ') (rest : List Char) :
    unquote ('\\' :: 'u' :: '0' :: '0' :: hexDigit (c.toNat / 16) :: hexDigit (c.toNat % 16) ::
      rest) = (unquote rest).map (c :: ·) := by
  have hn : c.toNat < 32 := h
  have hq := hexQuad?_hexDigit (n := c.toNat) (by omega)
  have hl : isLowSurrogate c.toNat = false := by simp [isLowSurrogate]; omega
  have hh : isHighSurrogate c.toNat = false := by simp [isHighSurrogate]; omega
  rw [unquote.eq_def]
  simp [hq, hl, hh]

theorem unquote_plain {c : Char} (hq : c ≠ '"') (hb : c ≠ '\\') (hc : ¬c < ' ')
    (rest : List Char) : unquote (c :: rest) = (unquote rest).map (c :: ·) := by
  rw [unquote.eq_def]
  simp [hq, hb, hc]

/-- Each way of writing a character reads back as that character. -/
theorem unquote_escape (c : Char) (rest : List Char) :
    unquote (escape c ++ rest) = (unquote rest).map (c :: ·) := by
  unfold escape
  split
  · subst_vars; exact unquote_short (by decide) (by decide) rest
  split
  · subst_vars; exact unquote_short (by decide) (by decide) rest
  split
  · subst_vars; exact unquote_short (by decide) (by decide) rest
  split
  · subst_vars; exact unquote_short (by decide) (by decide) rest
  split
  · subst_vars; exact unquote_short (by decide) (by decide) rest
  split
  · subst_vars; exact unquote_short (by decide) (by decide) rest
  split
  · subst_vars; exact unquote_short (by decide) (by decide) rest
  split
  · exact unquote_numbered (by assumption) rest
  · exact unquote_plain (by assumption) (by assumption) (by assumption) rest

/-- A written string reads back from after its opening quotation mark. -/
theorem unquote_quoted (cs rest : List Char) :
    unquote (cs.flatMap escape ++ '"' :: rest) = .done cs rest := by
  induction cs with
  | nil => simp [unquote.eq_def]
  | cons c cs ih => simp [unquote_escape, ih]

/-! ## The end of a number -/

/-- What follows does not go on with a number. -/
def EndsNumber (rest : List Char) : Prop :=
  ∀ c ∈ rest.head?, c.isDigit = false ∧ c ≠ '.' ∧ c ≠ 'e' ∧ c ≠ 'E'

theorem endsNumber_cons {c : Char} {rest : List Char}
    (h : c.isDigit = false ∧ c ≠ '.' ∧ c ≠ 'e' ∧ c ≠ 'E') : EndsNumber (c :: rest) := by
  simpa [EndsNumber] using h

namespace EndsNumber

variable {rest : List Char}

theorem startsWithDigit (h : EndsNumber rest) : startsWithDigit rest = false := by
  cases rest with
  | nil => rfl
  | cons c rest => exact (h c rfl).1

theorem dropDigits (h : EndsNumber rest) : dropDigits rest = rest := by
  cases rest with
  | nil => rfl
  | cons c rest => simp [Json.dropDigits, (h c rfl).1]

theorem countDigits (h : EndsNumber rest) : countDigits rest = 0 := by
  cases rest with
  | nil => rfl
  | cons c rest => simp [Json.countDigits, (h c rfl).1]

/-- Nothing but the whole digits is read. -/
theorem readTail (h : EndsNumber rest) (negative : Bool) (n : Nat) :
    readTail negative n 0 rest = .done (exactInteger negative n) rest := by
  cases rest with
  | nil => rfl
  | cons c rest =>
    obtain ⟨-, hp, he, hE⟩ := h c rfl
    rw [readTail.eq_def]
    simp [hp, he, hE]

end EndsNumber

/-! ## Digits -/

theorem le_ofDigitChars (cs : List Char) (n : Nat) : n ≤ Nat.ofDigitChars 10 cs n := by
  induction cs generalizing n with
  | nil => exact Nat.le_refl n
  | cons c cs ih =>
    rw [Nat.ofDigitChars_cons]
    have h := ih (10 * n + (c.toNat - '0'.toNat))
    omega

/-- Digits are absorbed to the last as long as the number that they make is within the limit:
a number never gets smaller by more digits. -/
theorem absorb_digits {limit : Nat} {rest : List Char} (hr : EndsNumber rest) (cs : List Char)
    (hcs : ∀ c ∈ cs, c.isDigit) (acc : Nat) (h : Nat.ofDigitChars 10 cs acc ≤ limit) :
    absorb limit acc (cs ++ rest) = (Nat.ofDigitChars 10 cs acc, rest) := by
  induction cs generalizing acc with
  | nil =>
    cases rest with
    | nil => rfl
    | cons c rest => simp [absorb, (hr c rfl).1]
  | cons c cs ih =>
    have hv : 10 * acc + (c.toNat - '0'.toNat) = acc * 10 + digitValue c := by
      rw [digitValue, Nat.mul_comm]
    rw [Nat.ofDigitChars_cons, hv] at h ⊢
    have hle := Nat.le_trans (le_ofDigitChars cs _) h
    rw [List.cons_append, absorb, if_pos (hcs c (by simp)), if_pos hle]
    exact ih (fun d hd => hcs d (by simp [hd])) _ h

/-- The digits of a positive number do not start with a zero. -/
theorem toDigits_eq_cons {n : Nat} (h : n ≠ 0) :
    ∃ c cs, Nat.toDigits 10 n = c :: cs ∧ c ≠ '0' := by
  induction n using Nat.strongRecOn with
  | ind n ih =>
    by_cases hn : n < 10
    · exact ⟨n.digitChar, [], Nat.toDigits_of_lt_base hn, fun h0 =>
        h (Nat.digitChar_eq_zero.mp h0)⟩
    · obtain ⟨c, cs, hc, h0⟩ := ih (n / 10) (by omega) (by omega)
      refine ⟨c, cs ++ [(n % 10).digitChar], ?_, h0⟩
      rw [Nat.toDigits_of_base_le (by decide) (by omega), hc]
      rfl

theorem readNumber_toDigits {n : Nat} (hn : n ≤ maxSignificand) (negative : Bool)
    {rest : List Char} (hr : EndsNumber rest) :
    readNumber negative (Nat.toDigits 10 n ++ rest) = .done (exactInteger negative n) rest := by
  by_cases h0 : n = 0
  · subst h0
    simp [readNumber, hr.startsWithDigit, hr.readTail]
  · obtain ⟨c, cs, hc, hne⟩ := toDigits_eq_cons h0
    have hdigits : ∀ d ∈ c :: cs, d.isDigit := fun d hd =>
      Nat.isDigit_of_mem_toDigits (by decide) (by decide) (hc ▸ hd)
    have hvalue : Nat.ofDigitChars 10 (c :: cs) 0 = n := hc ▸ Nat.ofDigitChars_ten_toDigits
    have hle : Nat.ofDigitChars 10 (c :: cs) 0 ≤ maxSignificand := hvalue ▸ hn
    have habsorb := absorb_digits hr (c :: cs) hdigits 0 hle
    rw [hvalue, List.cons_append] at habsorb
    rw [hc, List.cons_append, readNumber, if_neg hne, if_pos (hdigits c (by simp))]
    simp [habsorb, hr.countDigits, hr.dropDigits, hr.readTail]

/-! ## Integers -/

/-- An integer fits 64 bits, with or without sign. -/
def FitsWord (n : Int) : Prop := -(twoTo 63 : Int) ≤ n ∧ n < twoTo 64

instance (n : Int) : Decidable (FitsWord n) := inferInstanceAs (Decidable (_ ∧ _))

theorem exactInteger_natAbs {n : Int} (h : FitsWord n) :
    exactInteger (n < 0) n.natAbs = .integer n := by
  obtain ⟨hlo, hhi⟩ := h
  by_cases hn : n < 0
  · have habs : n.natAbs ≠ 0 ∧ n.natAbs ≤ twoTo 63 := by omega
    simp only [exactInteger, hn, decide_true, Bool.not_true, Bool.false_eq_true, ↓reduceIte, habs,
      ne_eq, not_false_eq_true, and_self]
    congr 1
    omega
  · simp only [exactInteger, hn, decide_false, Bool.not_false, ↓reduceIte]
    congr 1
    omega

theorem natAbs_le_maxSignificand {n : Int} (h : FitsWord n) : n.natAbs ≤ maxSignificand := by
  have h63 : twoTo 63 = 9223372036854775808 := by decide
  have h64 : twoTo 64 = 18446744073709551616 := by decide
  obtain ⟨hlo, hhi⟩ := h
  rw [maxSignificand]
  omega

end NotificationTap.Json
