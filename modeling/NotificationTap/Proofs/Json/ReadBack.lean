import NotificationTap.Proofs.Json.Canonical

/-!
# Reading back values

The text of a canonical value reads back as that value, whatever follows it.

* `ReadsBack`: what has to hold of a value for its text to be read back in any place.
* `readItems_next`, `readMembers_next`: one item or member is read back, and reading goes on after
  it. `readItems_itemsChars`, `readMembers_membersChars`: so are all that are left.
* `Canonical.readsBack`: every canonical value reads back.
* `parseObject_compact`: the text of a canonical object is read back as a whole text.
-/

namespace NotificationTap.Json

/-! ## First characters -/

theorem skipBlanks_of_not_blank {c : Char} (h : isBlank c = false) (rest : List Char) :
    skipBlanks (c :: rest) = c :: rest := by
  simp [skipBlanks, h]

/-- A digit starts nothing but a number. -/
theorem isDigit_ne {c : Char} (h : c.isDigit) : isBlank c = false ∧ c ≠ ']' ∧ c ≠ 'n' ∧ c ≠ 't' ∧
    c ≠ 'f' ∧ c ≠ '"' ∧ c ≠ '-' := by
  have hne : ∀ d : Char, d.isDigit = false → c ≠ d := by
    rintro d hd rfl
    exact Bool.false_ne_true (hd.symm.trans h)
  refine ⟨?_, hne _ (by decide), hne _ (by decide), hne _ (by decide), hne _ (by decide),
    hne _ (by decide), hne _ (by decide)⟩
  simp [isBlank, hne ' ' (by decide), hne '\t' (by decide), hne '\n' (by decide),
    hne '\r' (by decide)]

/-! ## Integers -/

theorem readValue_digit {c : Char} (h : c.isDigit) (fuel depth : Nat) (rest : List Char) :
    readValue (fuel + 1) depth (c :: rest) = (readNumber false (c :: rest)).map .number := by
  obtain ⟨hb, -, hn, ht, hf, hq, hm⟩ := isDigit_ne h
  rw [readValue, skipBlanks_of_not_blank hb]
  simp [hn, ht, hf, hq, hm, h]

theorem readValue_minus (fuel depth : Nat) (rest : List Char) :
    readValue (fuel + 1) depth ('-' :: rest) = (readNumber true rest).map .number := by
  rw [readValue, skipBlanks_of_not_blank (by decide)]
  simp

theorem integerText_eq_cons (n : Int) :
    ∃ c cs, integerText n = c :: cs ∧ (n < 0 ∧ c = '-' ∨ ¬n < 0 ∧ c.isDigit) := by
  unfold integerText
  split
  · exact ⟨'-', _, rfl, .inl ⟨by assumption, rfl⟩⟩
  · obtain ⟨c, cs, hc⟩ := List.exists_cons_of_ne_nil (Nat.toDigits_ne_nil (n := n.natAbs) (b := 10))
    exact ⟨c, cs, hc, .inr ⟨by assumption,
      Nat.isDigit_of_mem_toDigits (by decide) (by decide) (hc ▸ List.mem_cons_self)⟩⟩

theorem readValue_integerText {n : Int} (h : FitsWord n) (fuel depth : Nat) {rest : List Char}
    (hr : EndsNumber rest) :
    readValue (fuel + 1) depth (integerText n ++ rest) = .done (.number (.integer n)) rest := by
  have hread := readNumber_toDigits (natAbs_le_maxSignificand h) (n < 0) hr
  rw [exactInteger_natAbs h] at hread
  obtain ⟨c, cs, hc, ⟨hn, rfl⟩ | ⟨hn, hdigit⟩⟩ := integerText_eq_cons n
  · rw [integerText, if_pos hn, List.cons_append, readValue_minus]
    rw [decide_eq_true hn] at hread
    rw [hread, Read.map_done]
  · rw [hc, List.cons_append, readValue_digit hdigit, ← List.cons_append, ← hc, integerText,
      if_neg hn]
    rw [decide_eq_false hn] at hread
    rw [hread, Read.map_done]

/-! ## Items and members -/

/-- The reader returns the value from its text, whatever follows it. The text starts with neither a
blank nor a closing bracket, so that it is seen to follow in an array. -/
structure ReadsBack (depth : Nat) (value : Json) : Prop where
  starts : ∃ c cs, value.chars = c :: cs ∧ isBlank c = false ∧ c ≠ ']'
  read : ∀ {fuel : Nat} {rest : List Char}, 2 * value.chars.length ≤ fuel → EndsNumber rest →
    readValue fuel depth (value.chars ++ rest) = .done value rest

theorem endsNumber_itemsChars (xs : List Json) (rest : List Char) :
    EndsNumber (itemsChars xs ++ rest) := by
  cases xs <;> exact endsNumber_cons (by decide)

theorem endsNumber_membersChars (ms : Members) (rest : List Char) :
    EndsNumber (membersChars ms ++ rest) := by
  cases ms <;> exact endsNumber_cons (by decide)

variable {depth fuel : Nat}

theorem firstItem_chars {x : Json} (h : ReadsBack depth x) (rest : List Char) :
    firstItem (x.chars ++ rest) = .done true (x.chars ++ rest) := by
  obtain ⟨c, cs, hc, hb, hne⟩ := h.starts
  rw [hc, List.cons_append, firstItem, skipBlanks_of_not_blank hb]
  split
  · contradiction
  · rename_i heq
    exact absurd (List.cons.inj heq).1 hne
  · rfl

theorem nextItem_comma_chars {x : Json} (h : ReadsBack depth x) (rest : List Char) :
    nextItem (',' :: (x.chars ++ rest)) = .done true (x.chars ++ rest) := by
  obtain ⟨c, cs, hc, hb, hne⟩ := h.starts
  rw [hc, List.cons_append, nextItem, skipBlanks_of_not_blank (by decide)]
  simp only [skipBlanks_of_not_blank hb]
  split
  · contradiction
  · rename_i heq
    exact absurd (List.cons.inj heq).1 hne
  · rfl

/-- One item is read back, and reading goes on after it. -/
theorem readItems_next {x : Json} (h : ReadsBack depth x) {rest : List Char}
    (hr : EndsNumber rest) (hf : 2 * x.chars.length ≤ fuel) :
    readItems (fuel + 1) depth (.done true (x.chars ++ rest)) =
      (readItems fuel depth (nextItem rest)).map (x :: ·) := by
  rw [readItems, Read.andThen_done, if_pos rfl, h.read hf hr, Read.andThen_done]

/-- The items that are left are read back. -/
theorem readItems_itemsChars {xs : List Json} (h : ∀ x ∈ xs, ReadsBack depth x)
    (rest : List Char) (hf : 2 * (itemsChars xs).length ≤ fuel) :
    readItems fuel depth (nextItem (itemsChars xs ++ rest)) = .done xs rest := by
  induction xs generalizing fuel with
  | nil =>
    simp only [itemsChars, List.length_cons] at hf
    obtain ⟨fuel, rfl⟩ := Nat.exists_eq_add_one_of_ne_zero (n := fuel) (by omega)
    rfl
  | cons x xs ih =>
    have hx := h x List.mem_cons_self
    simp only [itemsChars, List.length_cons, List.length_append] at hf
    obtain ⟨fuel, rfl⟩ := Nat.exists_eq_add_one_of_ne_zero (n := fuel) (by omega)
    rw [itemsChars, List.cons_append, List.cons_append, List.append_assoc,
      nextItem_comma_chars hx, readItems_next hx (endsNumber_itemsChars xs rest) (by omega),
      ih (fun y hy => h y (List.mem_cons_of_mem _ hy)) (by omega), Read.map_done]

/-- One member is read back and stored, and reading goes on after it. -/
theorem readMembers_next {x : Json} (h : ReadsBack depth x) {rest : List Char}
    (hr : EndsNumber rest) (hf : 2 * x.chars.length ≤ fuel) (key : String) (before : Members) :
    readMembers (fuel + 1) depth
        (.done true (key.toList.flatMap escape ++ '"' :: ':' :: (x.chars ++ rest))) before =
      readMembers fuel depth (nextMember rest) (insert key x before) := by
  have hcolon : readColon (':' :: (x.chars ++ rest)) = .done () (x.chars ++ rest) := rfl
  rw [readMembers, Read.andThen_done, if_pos rfl, unquote_quoted, Read.andThen_done, hcolon,
    Read.andThen_done, h.read hf hr, Read.andThen_done, String.ofList_toList]

/-- The members that are left are read back, after those already read. -/
theorem readMembers_membersChars {ms before : Members} (h : ∀ m ∈ ms, ReadsBack depth m.2)
    (hs : Sorted (before ++ ms)) (rest : List Char) (hf : 2 * (membersChars ms).length ≤ fuel) :
    readMembers fuel depth (nextMember (membersChars ms ++ rest)) before =
      .done (before ++ ms) rest := by
  induction ms generalizing fuel before with
  | nil =>
    simp only [membersChars, List.length_cons] at hf
    obtain ⟨fuel, rfl⟩ := Nat.exists_eq_add_one_of_ne_zero (n := fuel) (by omega)
    rw [List.append_nil]
    rfl
  | cons m ms ih =>
    obtain ⟨k, x⟩ := m
    have hx : ReadsBack depth x := h (k, x) List.mem_cons_self
    simp only [membersChars, quote, List.length_cons, List.length_append] at hf
    obtain ⟨fuel, rfl⟩ := Nat.exists_eq_add_one_of_ne_zero (n := fuel) (by omega)
    have hnext : nextMember (membersChars ((k, x) :: ms) ++ rest) = .done true
        (k.toList.flatMap escape ++ '"' :: ':' :: (x.chars ++ (membersChars ms ++ rest))) := by
      simp [membersChars, quote, nextMember, skipBlanks, isBlank]
    rw [hnext, readMembers_next hx (endsNumber_membersChars ms rest) (by omega) k before,
      insert_of_sorted hs]
    have hs' : Sorted (before ++ [(k, x)] ++ ms) := by simpa using hs
    rw [ih (fun m hm => h m (List.mem_cons_of_mem _ hm)) hs' (by omega)]
    simp

/-! ## Values -/

/-- The text of an object after its opening brace. -/
def bodyChars : Members → List Char
  | [] => ['}']
  | (k, x) :: ms => quote k ++ ':' :: chars x ++ membersChars ms

theorem chars_object (ms : Members) : chars (.object ms) = '{' :: bodyChars ms := by
  cases ms <;> rfl

theorem readMembers_bodyChars {ms : Members} (h : ∀ m ∈ ms, ReadsBack depth m.2)
    (hs : Sorted ms) (rest : List Char) (hf : 2 * (bodyChars ms).length ≤ fuel) :
    readMembers fuel depth (firstMember (bodyChars ms ++ rest)) [] = .done ms rest := by
  cases ms with
  | nil =>
    simp only [bodyChars, List.length_cons] at hf
    obtain ⟨fuel, rfl⟩ := Nat.exists_eq_add_one_of_ne_zero (n := fuel) (by omega)
    rfl
  | cons m ms =>
    obtain ⟨k, x⟩ := m
    have hx : ReadsBack depth x := h (k, x) List.mem_cons_self
    simp only [bodyChars, quote, List.length_cons, List.length_append] at hf
    obtain ⟨fuel, rfl⟩ := Nat.exists_eq_add_one_of_ne_zero (n := fuel) (by omega)
    have hfirst : firstMember (bodyChars ((k, x) :: ms) ++ rest) = .done true
        (k.toList.flatMap escape ++ '"' :: ':' :: (x.chars ++ (membersChars ms ++ rest))) := by
      simp [bodyChars, quote, firstMember, skipBlanks, isBlank]
    rw [hfirst, readMembers_next hx (endsNumber_membersChars ms rest) (by omega) k []]
    exact readMembers_membersChars (fun m hm => h m (List.mem_cons_of_mem _ hm)) hs rest (by omega)

/-- A scalar needs one call, however long its text is. -/
theorem ReadsBack.of_scalar {value : Json}
    (starts : ∃ c cs, value.chars = c :: cs ∧ isBlank c = false ∧ c ≠ ']')
    (read : ∀ {fuel : Nat} {rest : List Char}, EndsNumber rest →
      readValue (fuel + 1) depth (value.chars ++ rest) = .done value rest) :
    ReadsBack depth value := by
  refine ⟨starts, fun {fuel rest} hf hr => ?_⟩
  obtain ⟨c, cs, hc, -⟩ := starts
  rw [hc, List.length_cons] at hf
  obtain ⟨fuel, rfl⟩ := Nat.exists_eq_add_one_of_ne_zero (n := fuel) (by omega)
  exact read hr

theorem ReadsBack.array {items : List Json} (h : ∀ x ∈ items, ReadsBack depth x) :
    ReadsBack (depth + 1) (.array items) := by
  refine ⟨?_, fun {fuel rest} hf hr => ?_⟩
  · cases items <;> exact ⟨'[', _, rfl, by decide, by decide⟩
  · cases items with
    | nil =>
      simp only [chars, List.length_cons] at hf
      obtain ⟨fuel, rfl⟩ := Nat.exists_eq_add_of_le' (show 2 ≤ fuel by omega)
      rfl
    | cons x xs =>
      have hx := h x List.mem_cons_self
      simp only [chars, List.length_cons, List.length_append] at hf
      obtain ⟨fuel, rfl⟩ := Nat.exists_eq_add_of_le' (show 2 ≤ fuel by omega)
      have hitems := readItems_itemsChars (fun y hy => h y (List.mem_cons_of_mem _ hy)) rest
        (show 2 * (itemsChars xs).length ≤ fuel by omega)
      rw [chars, List.cons_append, List.cons_append, List.append_assoc, readValue,
        skipBlanks_of_not_blank (by decide)]
      simp only [Char.reduceEq, ↓reduceIte, firstItem_chars hx]
      rw [readItems_next hx (endsNumber_itemsChars xs rest) (by omega), hitems]
      rfl

theorem ReadsBack.object {members : Members} (hs : Sorted members)
    (h : ∀ m ∈ members, ReadsBack depth m.2) : ReadsBack (depth + 1) (.object members) := by
  refine ⟨⟨'{', _, chars_object members, by decide, by decide⟩, fun {fuel rest} hf hr => ?_⟩
  rw [chars_object, List.length_cons] at hf
  obtain ⟨fuel, rfl⟩ := Nat.exists_eq_add_one_of_ne_zero (n := fuel) (by omega)
  have hbody := readMembers_bodyChars h hs rest (show 2 * (bodyChars members).length ≤ fuel by omega)
  rw [chars_object, List.cons_append, readValue, skipBlanks_of_not_blank (by decide)]
  simp [hbody]

/-- Every canonical value reads back. -/
theorem Canonical.readsBack {limit : Nat} {value : Json} (h : Canonical limit value) :
    ReadsBack limit value := by
  induction h with
  | null => exact .of_scalar ⟨'n', _, rfl, by decide, by decide⟩ fun _ => rfl
  | bool value => cases value <;> exact .of_scalar ⟨_, _, rfl, by decide, by decide⟩ fun _ => rfl
  | @integer _ n fits =>
    refine .of_scalar ?_ fun hr => readValue_integerText fits _ _ hr
    obtain ⟨c, cs, hc, ⟨-, rfl⟩ | ⟨-, hdigit⟩⟩ := integerText_eq_cons n
    · exact ⟨'-', cs, hc, by decide, by decide⟩
    · exact ⟨c, cs, hc, (isDigit_ne hdigit).1, (isDigit_ne hdigit).2.1⟩
  | string value =>
    refine .of_scalar ⟨'"', _, rfl, by decide, by decide⟩ fun {fuel rest} _ => ?_
    have hquote : chars (.string value) ++ rest =
        '"' :: (value.toList.flatMap escape ++ '"' :: rest) := by simp [chars, quote]
    rw [hquote, readValue, skipBlanks_of_not_blank (by decide)]
    simp [unquote_quoted]
  | array _ ih => exact .array ih
  | object sorted _ ih => exact .object sorted ih

/-! ## Whole texts -/

/-- The text of a canonical object is read back as a whole text. -/
theorem parseObject_compact {members : Members} (h : Canonical maxDepth (.object members)) :
    parseObject (compact (.object members)) = .ok members := by
  have hread : readObject (chars (.object members)) = .done members [] := by
    cases h with
    | object hs hc =>
      have hbody := readMembers_bodyChars (fun m hm => (hc m hm).readsBack) hs []
        (show 2 * (bodyChars members).length ≤ enoughFuel (bodyChars members) by
          simp only [enoughFuel]; omega)
      rw [List.append_nil] at hbody
      rw [chars_object, readObject, skipBlanks_of_not_blank (by decide)]
      exact hbody
  rw [parseObject, parseWith, compact, String.toList_ofList, hread]
  rfl

end NotificationTap.Json
