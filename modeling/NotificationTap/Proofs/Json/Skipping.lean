import NotificationTap.Json.Skipped
import NotificationTap.Proofs.Json.Reading
import NotificationTap.Proofs.Json.WholeNumbers

/-!
# Passing over written values

A value without doubles is passed over from its text, however deep it is nested, and whatever
follows it.

* `skipQuoted_of_unquote`: a string that could be read is passed over.
* `skipNumber_toDigits`: so are the digits of a number, whatever its size.
* `SkipsBack`: what has to hold of a value for its text to be passed over in any place.
  `skipItems_itemsChars`, `skipMembers_membersChars`: then so are the items and members that are
  left.
* `WholeNumbers.skipsBack`: every value without doubles is passed over.
-/

namespace NotificationTap.Json

variable {text rest : List Char}

/-! ## Strings -/

theorem Written.skipQuoted_append {piece : List Char} {c : Char} (h : Written piece c)
    (rest : List Char) : skipQuoted (piece ++ rest) = skipQuoted rest := by
  cases h with
  | plain hquote hslash hcontrol =>
    rw [List.singleton_append, skipQuoted.eq_def]
    simp [hquote, hslash, hcontrol]
  | short hletter h =>
    rw [List.cons_append, List.cons_append, List.nil_append, skipQuoted.eq_def]
    simp [hletter, h]
  | numbered h _ _ =>
    rw [skipQuoted.eq_def]
    simp [h]
  | pair h _ h' _ =>
    -- Each half of the pair is four digits of its own.
    rw [skipQuoted.eq_def]
    simp only [List.cons_append, List.nil_append, Char.reduceEq, if_false, if_true, h]
    rw [skipQuoted.eq_def]
    simp [h']

/-- A string that could be read is passed over. -/
theorem skipQuoted_of_unquote {cs : List Char} (h : unquote text = .done cs rest) :
    skipQuoted text = .done () rest := by
  induction cs generalizing text with
  | nil =>
    rcases unquote_done_cases h with ⟨-, rfl⟩ | ⟨_, _, _, _, -, -, hcons, -⟩
    · rw [skipQuoted.eq_def]
      rfl
    · cases hcons
  | cons c cs ih =>
    rcases unquote_done_cases h with ⟨hnil, -⟩ | ⟨piece, d, tail, cs', hpiece, rfl, hcons, htail⟩
    · cases hnil
    · obtain ⟨rfl, rfl⟩ := List.cons.inj hcons
      rw [hpiece.skipQuoted_append, ih htail]

/-! ## Numbers -/

theorem EndsNumber.skipTail (h : EndsNumber rest) : skipTail rest = .done () rest := by
  cases rest with
  | nil => rfl
  | cons c rest =>
    obtain ⟨-, hp, he, hE⟩ := h c rfl
    rw [Json.skipTail.eq_def]
    simp [hp, he, hE]

/-- The digits of a number are passed over, whatever its size. -/
theorem skipNumber_toDigits (n : Nat) (hr : EndsNumber rest) :
    skipNumber (Nat.toDigits 10 n ++ rest) = .done () rest := by
  by_cases h0 : n = 0
  · subst h0
    simp [skipNumber, hr.startsWithDigit, hr.skipTail]
  · obtain ⟨c, cs, hc, hne⟩ := toDigits_eq_cons h0
    have hdigits : ∀ d ∈ c :: cs, d.isDigit := fun d hd =>
      Nat.isDigit_of_mem_toDigits (by decide) (by decide) (hc ▸ hd)
    have hdropped : dropDigits (cs ++ rest) = rest := by
      rw [dropDigits, List.dropWhile_append_of_pos fun d hd =>
        hdigits d (List.mem_cons_of_mem _ hd)]
      exact hr.dropDigits
    rw [hc, List.cons_append, skipNumber, if_neg hne, if_pos (hdigits c List.mem_cons_self),
      hdropped, hr.skipTail]

theorem skipValue_integerText (n : Int) (fuel : Nat) (hr : EndsNumber rest) :
    skipValue (fuel + 1) (integerText n ++ rest) = .done () rest := by
  have hskip := skipNumber_toDigits n.natAbs hr
  obtain ⟨c, cs, hc, ⟨hn, rfl⟩ | ⟨hn, hdigit⟩⟩ := integerText_eq_cons n
  · rw [integerText, if_pos hn, List.cons_append, skipValue, skipBlanks_of_not_blank (by decide)]
    simp [hskip]
  · obtain ⟨hb, -, hnull, htrue, hfalse, hquote, hminus⟩ := isDigit_ne hdigit
    rw [integerText, if_neg hn] at hc
    rw [hc] at hskip
    rw [integerText, if_neg hn, hc, List.cons_append, skipValue, skipBlanks_of_not_blank hb]
    rw [List.cons_append] at hskip
    simp [hnull, htrue, hfalse, hquote, hminus, hdigit, hskip]

/-! ## Items and members -/

/-- The value is passed over from its text, whatever follows it. The text starts with neither a
blank nor a closing bracket. -/
structure SkipsBack (value : Json) : Prop where
  starts : ∃ c cs, value.chars = c :: cs ∧ isBlank c = false ∧ c ≠ ']'
  skip : ∀ {fuel : Nat} {rest : List Char}, 2 * value.chars.length ≤ fuel → EndsNumber rest →
    skipValue fuel (value.chars ++ rest) = .done () rest

variable {x : Json} {fuel : Nat}

theorem skipItems_comma (h : SkipsBack x) (rest : List Char) (hf : 2 * x.chars.length ≤ fuel) :
    skipItems (fuel + 1) (x.chars ++ ',' :: rest) = skipItems fuel rest := by
  rw [skipItems, h.skip hf (endsNumber_cons (by decide)), Read.andThen_done,
    skipBlanks_of_not_blank (by decide)]
  rfl

theorem skipItems_bracket (h : SkipsBack x) (rest : List Char) (hf : 2 * x.chars.length ≤ fuel) :
    skipItems (fuel + 1) (x.chars ++ ']' :: rest) = .done () rest := by
  rw [skipItems, h.skip hf (endsNumber_cons (by decide)), Read.andThen_done,
    skipBlanks_of_not_blank (by decide)]
  rfl

/-- The items that are left are passed over, one at least. -/
theorem skipItems_itemsChars {xs : List Json} (h : SkipsBack x) (hxs : ∀ y ∈ xs, SkipsBack y)
    (rest : List Char) (hf : 2 * (x.chars.length + (itemsChars xs).length) ≤ fuel) :
    skipItems fuel (x.chars ++ (itemsChars xs ++ rest)) = .done () rest := by
  induction xs generalizing x fuel with
  | nil =>
    simp only [itemsChars, List.length_cons] at hf
    obtain ⟨fuel, rfl⟩ := Nat.exists_eq_add_one_of_ne_zero (n := fuel) (by omega)
    exact skipItems_bracket h rest (by omega)
  | cons y ys ih =>
    simp only [itemsChars, List.length_cons, List.length_append] at hf
    obtain ⟨fuel, rfl⟩ := Nat.exists_eq_add_one_of_ne_zero (n := fuel) (by omega)
    rw [itemsChars, List.cons_append, List.cons_append, List.append_assoc,
      skipItems_comma h _ (by omega)]
    exact ih (hxs y List.mem_cons_self) (fun z hz => hxs z (List.mem_cons_of_mem _ hz)) (by omega)

theorem skipMembers_comma (h : SkipsBack x) (key : String) (rest : List Char)
    (hf : 2 * x.chars.length ≤ fuel) :
    skipMembers (fuel + 1) (quote key ++ ':' :: (x.chars ++ ',' :: rest)) =
      skipMembers fuel rest := by
  have hkey := skipQuoted_of_unquote
    (unquote_quoted key.toList (':' :: (x.chars ++ ',' :: rest)))
  rw [skipMembers, quote, List.cons_append, List.cons_append, List.append_assoc,
    skipBlanks_of_not_blank (by decide)]
  simp only [List.singleton_append, hkey, Read.andThen_done, readColon,
    skipBlanks_of_not_blank (show isBlank ':' = false by decide),
    h.skip hf (endsNumber_cons (show Char.isDigit ',' = false ∧ _ by decide)),
    skipBlanks_of_not_blank (show isBlank ',' = false by decide)]

theorem skipMembers_brace (h : SkipsBack x) (key : String) (rest : List Char)
    (hf : 2 * x.chars.length ≤ fuel) :
    skipMembers (fuel + 1) (quote key ++ ':' :: (x.chars ++ '}' :: rest)) = .done () rest := by
  have hkey := skipQuoted_of_unquote
    (unquote_quoted key.toList (':' :: (x.chars ++ '}' :: rest)))
  rw [skipMembers, quote, List.cons_append, List.cons_append, List.append_assoc,
    skipBlanks_of_not_blank (by decide)]
  simp only [List.singleton_append, hkey, Read.andThen_done, readColon,
    skipBlanks_of_not_blank (show isBlank ':' = false by decide),
    h.skip hf (endsNumber_cons (show Char.isDigit '}' = false ∧ _ by decide)),
    skipBlanks_of_not_blank (show isBlank '}' = false by decide)]

/-- The members that are left are passed over, one at least. -/
theorem skipMembers_membersChars {ms : Members} (h : SkipsBack x) (key : String)
    (hms : ∀ m ∈ ms, SkipsBack m.2) (rest : List Char)
    (hf : 2 * (x.chars.length + (membersChars ms).length) ≤ fuel) :
    skipMembers fuel (quote key ++ ':' :: (x.chars ++ (membersChars ms ++ rest))) =
      .done () rest := by
  induction ms generalizing key x fuel with
  | nil =>
    simp only [membersChars, List.length_cons] at hf
    obtain ⟨fuel, rfl⟩ := Nat.exists_eq_add_one_of_ne_zero (n := fuel) (by omega)
    exact skipMembers_brace h key rest (by omega)
  | cons m ms ih =>
    obtain ⟨k, y⟩ := m
    simp only [membersChars, List.length_cons, List.length_append] at hf
    obtain ⟨fuel, rfl⟩ := Nat.exists_eq_add_one_of_ne_zero (n := fuel) (by omega)
    have htext : membersChars ((k, y) :: ms) ++ rest =
        ',' :: (quote k ++ ':' :: (y.chars ++ (membersChars ms ++ rest))) := by simp [membersChars]
    rw [htext, skipMembers_comma h key _ (by omega)]
    exact ih (show SkipsBack y from hms (k, y) List.mem_cons_self) k
      (fun m hm => hms m (List.mem_cons_of_mem _ hm)) (by omega)

/-! ## Values -/

/-- A scalar needs one call, however long its text is. -/
theorem SkipsBack.of_scalar {value : Json}
    (starts : ∃ c cs, value.chars = c :: cs ∧ isBlank c = false ∧ c ≠ ']')
    (skip : ∀ {fuel : Nat} {rest : List Char}, EndsNumber rest →
      skipValue (fuel + 1) (value.chars ++ rest) = .done () rest) : SkipsBack value := by
  refine ⟨starts, fun {fuel rest} hf hr => ?_⟩
  obtain ⟨c, cs, hc, -⟩ := starts
  rw [hc, List.length_cons] at hf
  obtain ⟨fuel, rfl⟩ := Nat.exists_eq_add_one_of_ne_zero (n := fuel) (by omega)
  exact skip hr

theorem SkipsBack.array {items : List Json} (h : ∀ x ∈ items, SkipsBack x) :
    SkipsBack (.array items) := by
  refine ⟨by cases items <;> exact ⟨'[', _, rfl, by decide, by decide⟩, fun {fuel rest} hf _ => ?_⟩
  cases items with
  | nil =>
    simp only [chars, List.length_cons] at hf
    obtain ⟨fuel, rfl⟩ := Nat.exists_eq_add_one_of_ne_zero (n := fuel) (by omega)
    rfl
  | cons x xs =>
    have hx := h x List.mem_cons_self
    simp only [chars, List.length_cons, List.length_append] at hf
    obtain ⟨fuel, rfl⟩ := Nat.exists_eq_add_one_of_ne_zero (n := fuel) (by omega)
    have hitems := skipItems_itemsChars hx (fun y hy => h y (List.mem_cons_of_mem _ hy)) rest
      (show 2 * (x.chars.length + (itemsChars xs).length) ≤ fuel by omega)
    obtain ⟨c, cs, hc, hb, hne⟩ := hx.starts
    rw [hc, List.cons_append] at hitems
    rw [chars, hc, List.cons_append, List.cons_append, List.cons_append, List.cons_append,
      List.append_assoc, skipValue, skipBlanks_of_not_blank (by decide)]
    simp only [Char.reduceEq, Char.reduceIsDigit, Bool.false_eq_true, if_false, if_true,
      skipBlanks_of_not_blank hb]
    split
    · contradiction
    · rename_i heq
      exact absurd (List.cons.inj heq).1 hne
    · exact hitems

theorem SkipsBack.object {members : Members} (h : ∀ m ∈ members, SkipsBack m.2) :
    SkipsBack (.object members) := by
  refine ⟨⟨'{', _, chars_object members, by decide, by decide⟩, fun {fuel rest} hf _ => ?_⟩
  rw [chars_object, List.length_cons] at hf
  obtain ⟨fuel, rfl⟩ := Nat.exists_eq_add_one_of_ne_zero (n := fuel) (by omega)
  cases members with
  | nil => rfl
  | cons m ms =>
    obtain ⟨k, x⟩ := m
    simp only [bodyChars, List.length_cons, List.length_append] at hf
    have hmembers := skipMembers_membersChars (h (k, x) List.mem_cons_self) k
      (fun m hm => h m (List.mem_cons_of_mem _ hm)) rest
      (show 2 * (x.chars.length + (membersChars ms).length) ≤ fuel by omega)
    rw [quote, List.cons_append, List.cons_append] at hmembers
    rw [chars_object, bodyChars, quote, List.cons_append, skipValue,
      skipBlanks_of_not_blank (by decide)]
    simp only [Char.reduceEq, if_false, if_true, List.cons_append,
      skipBlanks_of_not_blank (show isBlank '"' = false by decide)]
    simpa using hmembers

/-- Every value without doubles is passed over. -/
theorem WholeNumbers.skipsBack {value : Json} (h : WholeNumbers value) : SkipsBack value := by
  induction h with
  | null => exact .of_scalar ⟨'n', _, rfl, by decide, by decide⟩ fun _ => rfl
  | bool value => cases value <;> exact .of_scalar ⟨_, _, rfl, by decide, by decide⟩ fun _ => rfl
  | integer n =>
    refine .of_scalar ?_ fun hr => skipValue_integerText n _ hr
    obtain ⟨c, cs, hc, ⟨-, rfl⟩ | ⟨-, hdigit⟩⟩ := integerText_eq_cons n
    · exact ⟨'-', cs, hc, by decide, by decide⟩
    · exact ⟨c, cs, hc, (isDigit_ne hdigit).1, (isDigit_ne hdigit).2.1⟩
  | string value =>
    refine .of_scalar ⟨'"', _, rfl, by decide, by decide⟩ fun {fuel rest} _ => ?_
    have hquote : chars (.string value) ++ rest =
        '"' :: (value.toList.flatMap escape ++ '"' :: rest) := by simp [chars, quote]
    rw [hquote, skipValue, skipBlanks_of_not_blank (by decide)]
    simp [skipQuoted_of_unquote (unquote_quoted _ _)]
  | array _ ih => exact .array ih
  | object _ ih => exact .object ih

end NotificationTap.Json
