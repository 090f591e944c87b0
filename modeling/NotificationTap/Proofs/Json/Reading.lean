import Mathlib.Data.List.TakeWhile
import NotificationTap.Proofs.Json.Record

/-!
# Readings that succeed

What has to stand in a text for a reader to return a value from it.

* `Read.map_eq_done`, `Read.andThen_eq_done`: a reading in stages succeeds if each stage does.
* `firstItem_eq_done`, `nextItem_eq_done`, `firstMember_eq_done`, `nextMember_eq_done`,
  `readColon_eq_done`: the punctuation of arrays and objects.
* `parseWith_eq_ok`: a whole text is read if nothing but blanks is left of it.
* `Written`: how one character of a string is written. `unquote_done_cases`: a string is read one
  such character after the other.
* `readValue_eq_string`, `readString_eq_done`: an untyped and a typed reader of strings find the
  same ones. No value of the wrong type is ever returned (`readMismatch_ne_done`).
-/

namespace NotificationTap.Json

variable {α β : Type}

/-! ## Stages -/

theorem Read.map_eq_done {read : Read α} {change : α → β} {b : β} {rest : List Char} :
    read.map change = .done b rest ↔ ∃ a, read = .done a rest ∧ change a = b := by
  cases read with
  | done a back =>
    simp only [Read.map_done, Read.done.injEq]
    constructor
    · rintro ⟨rfl, rfl⟩
      exact ⟨a, ⟨rfl, rfl⟩, rfl⟩
    · rintro ⟨_, ⟨rfl, rfl⟩, rfl⟩
      exact ⟨rfl, rfl⟩
  | failed f => simp

theorem Read.andThen_eq_done {read : Read α} {next : α → List Char → Read β} {b : β}
    {rest : List Char} : read.andThen next = .done b rest ↔
      ∃ a back, read = .done a back ∧ next a back = .done b rest := by
  cases read with
  | done a back =>
    simp only [Read.andThen_done, Read.done.injEq]
    constructor
    · intro h
      exact ⟨a, back, ⟨rfl, rfl⟩, h⟩
    · rintro ⟨_, _, ⟨rfl, rfl⟩, h⟩
      exact h
  | failed f => simp

@[simp] theorem failAt_ne_done {cause : Cause} {text rest : List Char} {value : α} :
    failAt cause text ≠ .done value rest := nofun

@[simp] theorem failNext_ne_done {cause : Cause} {text rest : List Char} {value : α} :
    failNext cause text ≠ .done value rest := nofun

/-! ## Blanks -/

variable {text rest : List Char} {c : Char}

theorem skipBlanks_eq_nil : skipBlanks text = [] ↔ Blank text := List.dropWhile_eq_nil_iff

/-- A whole text is read if nothing but blanks is left of it. -/
theorem parseWith_eq_ok {read : List Char → Read α} {text : String} {value : α} :
    parseWith read text = .ok value ↔ ∃ blanks, read text.toList = .done value blanks ∧
      Blank blanks := by
  rw [parseWith]
  cases hread : read text.toList with
  | failed f => simp
  | done a back =>
    rw [Read.andThen_done, readEnd]
    cases hskip : skipBlanks back with
    | nil =>
      simp only [Read.map_done, Except.ok.injEq, Read.done.injEq, ← skipBlanks_eq_nil]
      constructor
      · rintro rfl
        exact ⟨back, ⟨rfl, rfl⟩, hskip⟩
      · rintro ⟨_, ⟨rfl, -⟩, -⟩
        rfl
    | cons c rest =>
      have hnot : ¬Blank back := fun h => by simp [skipBlanks_eq_nil.mpr h] at hskip
      simp only [failNext, Read.map_failed, reduceCtorEq, Read.done.injEq, false_iff, not_exists]
      rintro blanks ⟨⟨-, rfl⟩, hblank⟩
      exact hnot hblank

/-! ## Punctuation -/

variable {follows : Bool}

/-- An item may start here: no closing bracket does. -/
def StartsItem (text : List Char) : Prop := ∃ c rest, text = c :: rest ∧ c ≠ ']'

theorem firstItem_eq_done : firstItem text = .done follows rest ↔
    follows = false ∧ skipBlanks text = ']' :: rest ∨
    follows = true ∧ skipBlanks text = rest ∧ StartsItem rest := by
  unfold firstItem StartsItem
  cases skipBlanks text with
  | nil => grind [failNext]
  | cons c back =>
    by_cases hclose : c = ']'
    · simp only [hclose]
      grind
    · have hopen : ∀ tail, c :: back ≠ ']' :: tail := fun _ h => hclose (List.cons.inj h).1
      simp only [hopen, and_false, false_or]
      grind

theorem nextItem_eq_done : nextItem text = .done follows rest ↔
    follows = false ∧ skipBlanks text = ']' :: rest ∨
    follows = true ∧ ∃ back, skipBlanks text = ',' :: back ∧ skipBlanks back = rest ∧
      StartsItem rest := by
  unfold nextItem StartsItem
  cases skipBlanks text with
  | nil => simp [failNext]
  | cons c back =>
    by_cases hclose : c = ']'
    · simp [hclose]
    by_cases hcomma : c = ','
    · simp only [hcomma]
      cases hback : skipBlanks back <;> grind [failNext]
    · simp [hclose, hcomma, failNext]

theorem firstMember_eq_done : firstMember text = .done follows rest ↔
    follows = false ∧ skipBlanks text = '}' :: rest ∨
    follows = true ∧ skipBlanks text = '"' :: rest := by
  unfold firstMember
  cases skipBlanks text with
  | nil => simp [failNext]
  | cons c back =>
    by_cases hclose : c = '}'
    · simp [hclose]
    by_cases hkey : c = '"'
    · simp [hkey]
    · simp [hclose, hkey, failNext]

theorem nextMember_eq_done : nextMember text = .done follows rest ↔
    follows = false ∧ skipBlanks text = '}' :: rest ∨
    follows = true ∧ ∃ back, skipBlanks text = ',' :: back ∧ skipBlanks back = '"' :: rest := by
  unfold nextMember
  cases skipBlanks text with
  | nil => simp [failNext]
  | cons c back =>
    by_cases hclose : c = '}'
    · simp [hclose]
    by_cases hcomma : c = ','
    · simp only [hcomma]
      cases hback : skipBlanks back <;> grind [failNext]
    · simp [hclose, hcomma, failNext]

theorem readColon_eq_done {value : Unit} :
    readColon text = .done value rest ↔ skipBlanks text = ':' :: rest := by
  unfold readColon
  cases skipBlanks text with
  | nil => simp [failNext]
  | cons c back =>
    by_cases hcolon : c = ':'
    · simp [hcolon]
    · simp [hcolon, failNext]

/-! ## Strings -/

/-- One character of a string as it is written between the quotation marks. -/
inductive Written : List Char → Char → Prop where
  | plain {c : Char} (hquote : c ≠ '"') (hslash : c ≠ '\\') (hcontrol : ¬c < ' ') : Written [c] c
  | short {e c : Char} (hletter : e ≠ 'u') (h : shortEscape? e = some c) : Written ['\\', e] c
  | numbered {a b c d : Char} {n : Nat} (h : hexQuad? a b c d = some n)
    (hlow : isLowSurrogate n = false) (hhigh : isHighSurrogate n = false) :
    Written ['\\', 'u', a, b, c, d] (Char.ofNat n)
  | pair {a b c d a' b' c' d' : Char} {n m : Nat} (h : hexQuad? a b c d = some n)
    (hhigh : isHighSurrogate n = true) (h' : hexQuad? a' b' c' d' = some m)
    (hlow : isLowSurrogate m = true) :
    Written ['\\', 'u', a, b, c, d, '\\', 'u', a', b', c', d'] (pairChar n m)

theorem isLowSurrogate_of_high {n : Nat} (h : isHighSurrogate n = true) :
    isLowSurrogate n = false := by
  simp only [isHighSurrogate, isLowSurrogate, Bool.and_eq_true, Bool.and_eq_false_iff,
    decide_eq_true_eq, decide_eq_false_iff_not] at h ⊢
  omega

theorem Written.unquote_append {piece : List Char} {c : Char} (h : Written piece c)
    (rest : List Char) : unquote (piece ++ rest) = (unquote rest).map (c :: ·) := by
  cases h with
  | plain hquote hslash hcontrol => exact unquote_plain hquote hslash hcontrol rest
  | short hletter h => exact unquote_short hletter h rest
  | numbered h hlow hhigh =>
    rw [unquote.eq_def]
    simp [h, hlow, hhigh]
  | pair h hhigh h' hlow =>
    rw [unquote.eq_def]
    simp [h, hhigh, h', hlow, isLowSurrogate_of_high hhigh]

/-- A string ends with its closing quotation mark, or one of its characters is written first. -/
theorem unquote_done_cases {text cs rest : List Char} : unquote text = .done cs rest →
    cs = [] ∧ text = '"' :: rest ∨ ∃ piece c tail cs', Written piece c ∧ text = piece ++ tail ∧
      cs = c :: cs' ∧ unquote tail = .done cs' rest := by
  fun_cases unquote text with
  | case2 tail =>
    intro h
    obtain ⟨rfl, rfl⟩ := Read.done.inj h
    exact .inl ⟨rfl, rfl⟩
  | case9 a b c d n hn hlow hhigh a' b' c' d' tail m hm hlow' =>
    intro h
    obtain ⟨cs', htail, rfl⟩ := Read.map_eq_done.mp h
    exact .inr ⟨_, _, tail, cs', .pair hn hhigh hm hlow', rfl, rfl, htail⟩
  | case14 a b c d tail n hn hlow hhigh =>
    intro h
    obtain ⟨cs', htail, rfl⟩ := Read.map_eq_done.mp h
    exact .inr ⟨_, _, tail, cs', .numbered hn (by simpa using hlow) (by simpa using hhigh),
      rfl, rfl, htail⟩
  | case16 e tail hletter c hc =>
    intro h
    obtain ⟨cs', htail, rfl⟩ := Read.map_eq_done.mp h
    exact .inr ⟨_, _, tail, cs', .short hletter hc, rfl, rfl, htail⟩
  | case19 c tail hquote hslash hcontrol =>
    intro h
    obtain ⟨cs', htail, rfl⟩ := Read.map_eq_done.mp h
    exact .inr ⟨_, _, tail, cs', .plain hquote hslash hcontrol, rfl, rfl, htail⟩
  | _ =>
    intro h
    cases h

/-- Nothing is returned in place of a value of another type. -/
theorem readMismatch_ne_done {wanted : Wanted} {value : α} :
    readMismatch wanted text ≠ .done value rest := by
  cases text with
  | nil => nofun
  | cons c back =>
    rw [readMismatch]
    split_ifs <;> simp [Read.andThen_eq_done]

theorem map_ofList_eq_done {read : Read (List Char)} {s : String} :
    read.map String.ofList = .done s rest ↔ read = .done s.toList rest := by
  rw [Read.map_eq_done]
  constructor
  · rintro ⟨cs, hread, rfl⟩
    rw [hread, String.toList_ofList]
  · intro hread
    exact ⟨_, hread, String.ofList_toList⟩

theorem readString_eq_done {s : String} : readString text = .done s rest ↔
    ∃ back, skipBlanks text = '"' :: back ∧ unquote back = .done s.toList rest := by
  rw [readString, readStringFor]
  cases skipBlanks text with
  | nil => simp
  | cons c back =>
    by_cases hquote : c = '"'
    · subst hquote
      simp [map_ofList_eq_done]
    · simp [hquote, readMismatch_ne_done]

/-- A value that is a string is read as one. -/
theorem readValue_eq_string {fuel depth : Nat} {s : String} :
    readValue (fuel + 1) depth text = .done (.string s) rest ↔
      ∃ back, skipBlanks text = '"' :: back ∧ unquote back = .done s.toList rest := by
  rw [readValue]
  cases skipBlanks text with
  | nil => simp
  | cons c back =>
    by_cases hquote : c = '"'
    · subst hquote
      simp [Read.map_eq_done, ← map_ofList_eq_done]
    · -- Any other first character chooses a value of another type.
      have hnot : ∀ tail, c :: back ≠ '"' :: tail := fun _ h => hquote (List.cons.inj h).1
      simp only [hquote, hnot, if_false, false_and, exists_false, iff_false]
      split_ifs <;> cases depth <;> simp [Read.map_eq_done]

end NotificationTap.Json
