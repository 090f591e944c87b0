import NotificationTap.Proofs.Json.Reading

/-!
# What is read stays read

What a reader has taken from a text it takes from a longer one, too. Only the end of a number shows
in what follows it, so this holds of a number if something does.

* `Persists`, `PersistsInside`: a value is read from a longer text as it was read from its front, in
  any case or if something was left of the front. `PersistsInside.andThen`: what needs something
  behind it may stand in front of a reader that takes nothing from an empty text.
* `persists_firstMember`, `persists_nextItem` and the like: punctuation.
* `persists_unquote`: strings.
* `persistsInside_readNumber`: numbers, from what is absorbed of their digits up to their exponent.
-/

namespace NotificationTap.Json

variable {α β : Type}

/-- What `read` takes from a text, `read'` takes from it whatever more follows. -/
def Persists (read read' : List Char → Read α) : Prop :=
  ∀ ⦃text value rest⦄, read text = .done value rest →
    ∀ more, read' (text ++ more) = .done value (rest ++ more)

/-- What `read` takes from a text without using it up, `read'` takes from it whatever more
follows. -/
def PersistsInside (read read' : List Char → Read α) : Prop :=
  ∀ ⦃text value rest⦄, read text = .done value rest → rest ≠ [] →
    ∀ more, read' (text ++ more) = .done value (rest ++ more)

variable {read read' : List Char → Read α} {next next' : α → List Char → Read β}

theorem persists_done (value : α) : Persists (Read.done value) (Read.done value) := by
  intro text value' rest h more
  obtain ⟨rfl, rfl⟩ := Read.done.inj h
  rfl

theorem Persists.map (h : Persists read read') (change : α → β) :
    Persists (fun text => (read text).map change) fun text => (read' text).map change := by
  intro text value rest hread more
  obtain ⟨a, ha, rfl⟩ := Read.map_eq_done.mp hread
  exact Read.map_eq_done.mpr ⟨a, h ha more, rfl⟩

theorem PersistsInside.map (h : PersistsInside read read') (change : α → β) :
    PersistsInside (fun text => (read text).map change) fun text => (read' text).map change := by
  intro text value rest hread hne more
  obtain ⟨a, ha, rfl⟩ := Read.map_eq_done.mp hread
  exact Read.map_eq_done.mpr ⟨a, h ha hne more, rfl⟩

theorem Persists.andThen (h : Persists read read') (hnext : ∀ a, Persists (next a) (next' a)) :
    Persists (fun text => (read text).andThen next) fun text => (read' text).andThen next' := by
  intro text value rest hread more
  obtain ⟨a, back, ha, hb⟩ := Read.andThen_eq_done.mp hread
  exact Read.andThen_eq_done.mpr ⟨a, back ++ more, h ha more, hnext a hb more⟩

/-- What has to be followed by something may stand inside. -/
theorem PersistsInside.andThen (h : PersistsInside read read')
    (hnext : ∀ a, Persists (next a) (next' a))
    (hend : ∀ a value rest, next a [] ≠ .done value rest) :
    Persists (fun text => (read text).andThen next) fun text => (read' text).andThen next' := by
  intro text value rest hread more
  obtain ⟨a, back, ha, hb⟩ := Read.andThen_eq_done.mp hread
  have hne : back ≠ [] := by
    rintro rfl
    exact hend a value rest hb
  exact Read.andThen_eq_done.mpr ⟨a, back ++ more, h ha hne more, hnext a hb more⟩

/-! ## Punctuation and words -/

variable {text rest : List Char} {c : Char}

/-- What comes behind the blanks is there whatever more follows. -/
theorem skipBlanks_append_of_cons (h : skipBlanks text = c :: rest) (more : List Char) :
    skipBlanks (text ++ more) = c :: (rest ++ more) := by
  rw [skipBlanks] at h ⊢
  rw [List.dropWhile_append, h]
  rfl

theorem persists_readColon : Persists readColon readColon := by
  intro text value rest h more
  rw [readColon_eq_done] at h ⊢
  exact skipBlanks_append_of_cons h more

theorem persists_firstMember : Persists firstMember firstMember := by
  intro text follows rest h more
  rw [firstMember_eq_done] at h ⊢
  exact h.imp (.imp_right (skipBlanks_append_of_cons · more))
    (.imp_right (skipBlanks_append_of_cons · more))

theorem persists_nextMember : Persists nextMember nextMember := by
  intro text follows rest h more
  rw [nextMember_eq_done] at h ⊢
  rcases h with ⟨hfollows, hclose⟩ | ⟨hfollows, back, hcomma, hkey⟩
  · exact .inl ⟨hfollows, skipBlanks_append_of_cons hclose more⟩
  · exact .inr ⟨hfollows, back ++ more, skipBlanks_append_of_cons hcomma more,
      skipBlanks_append_of_cons hkey more⟩

theorem persists_firstItem : Persists firstItem firstItem := by
  intro text follows rest h more
  rw [firstItem_eq_done] at h ⊢
  rcases h with ⟨hfollows, hclose⟩ | ⟨hfollows, hitem, c, tail, rfl, hne⟩
  · exact .inl ⟨hfollows, skipBlanks_append_of_cons hclose more⟩
  · exact .inr ⟨hfollows, skipBlanks_append_of_cons hitem more, c, tail ++ more, rfl, hne⟩

theorem persists_nextItem : Persists nextItem nextItem := by
  intro text follows rest h more
  rw [nextItem_eq_done] at h ⊢
  rcases h with ⟨hfollows, hclose⟩ | ⟨hfollows, back, hcomma, hitem, c, tail, rfl, hne⟩
  · exact .inl ⟨hfollows, skipBlanks_append_of_cons hclose more⟩
  · exact .inr ⟨hfollows, back ++ more, skipBlanks_append_of_cons hcomma more,
      skipBlanks_append_of_cons hitem more, c, tail ++ more, rfl, hne⟩

theorem persists_readWord (word : List Char) : Persists (readWord word) (readWord word) := by
  induction word with
  | nil =>
    intro text value rest h more
    cases h
    rfl
  | cons w word ih =>
    intro text value rest h more
    cases text with
    | nil => exact absurd h failAt_ne_done
    | cons c text =>
      rw [readWord] at h
      split at h
      · rename_i hc
        rw [List.cons_append, readWord, if_pos hc]
        exact ih h more
      · exact absurd h failNext_ne_done

/-! ## Strings -/

/-- A string is read to its closing quotation mark, whatever follows that. -/
theorem persists_unquote : Persists unquote unquote := by
  intro text cs rest h more
  induction cs generalizing text with
  | nil =>
    rcases unquote_done_cases h with ⟨-, rfl⟩ | ⟨_, _, _, _, -, -, hcons, -⟩
    · rw [List.cons_append, unquote.eq_def]
      rfl
    · cases hcons
  | cons c cs ih =>
    rcases unquote_done_cases h with ⟨hnil, -⟩ | ⟨piece, d, tail, cs', hpiece, rfl, hcons, htail⟩
    · cases hnil
    · obtain ⟨rfl, rfl⟩ := List.cons.inj hcons
      rw [List.append_assoc, hpiece.unquote_append, ih htail, Read.map_done]

/-! ## Digits -/

variable {more : List Char} {limit acc : Nat}

/-- Another first character is not made by what follows. -/
theorem append_ne_cons {d : Char} (hne : text ≠ []) (h : ∀ tail, text = d :: tail → False)
    (more tail : List Char) : text ++ more = d :: tail → False := by
  obtain ⟨c, front, rfl⟩ := List.exists_cons_of_ne_nil hne
  intro heq
  exact h front (congrArg (· :: front) (List.cons.inj heq).1)

theorem startsWithDigit_append (h : text ≠ []) (more : List Char) :
    startsWithDigit (text ++ more) = startsWithDigit text := by
  obtain ⟨c, tail, rfl⟩ := List.exists_cons_of_ne_nil h
  rfl

theorem ne_nil_of_dropDigits (h : dropDigits text ≠ []) : text ≠ [] := by
  rintro rfl
  exact h rfl

theorem dropDigits_append (h : dropDigits text ≠ []) (more : List Char) :
    dropDigits (text ++ more) = dropDigits text ++ more := by
  rw [dropDigits, dropDigits, List.dropWhile_append, if_neg]
  simpa [dropDigits] using h

theorem countDigits_append (h : dropDigits text ≠ []) (more : List Char) :
    countDigits (text ++ more) = countDigits text := by
  have hlength := congrArg List.length
    (List.takeWhile_append_dropWhile (p := Char.isDigit) (l := text))
  have hpos := List.length_pos_iff.mpr h
  rw [List.length_append] at hlength
  rw [dropDigits] at hpos
  rw [countDigits, countDigits, List.takeWhile_append, if_neg]
  omega

theorem absorb_append (h : (absorb limit acc text).2 ≠ []) (more : List Char) :
    absorb limit acc (text ++ more) =
      ((absorb limit acc text).1, (absorb limit acc text).2 ++ more) := by
  fun_induction absorb limit acc text with
  | case1 acc => exact absurd rfl h
  | case2 acc c tail hdigit hle ih => rw [List.cons_append, absorb, if_pos hdigit, if_pos hle, ih h]
  | case3 acc c tail hdigit hle => rw [List.cons_append, absorb, if_pos hdigit, if_neg hle]
  | case4 acc c tail hdigit => rw [List.cons_append, absorb, if_neg hdigit]

/-- What is absorbed are digits. -/
theorem dropDigits_absorb (text : List Char) :
    dropDigits (absorb limit acc text).2 = dropDigits text := by
  fun_induction absorb limit acc text with
  | case1 acc => rfl
  | case2 acc c tail hdigit hle ih =>
    rw [ih, dropDigits, dropDigits, List.dropWhile_cons_of_pos hdigit]
  | case3 acc c tail hdigit hle => rfl
  | case4 acc c tail hdigit => rfl

variable {value : Number}

theorem finishDouble_eq_done {negative : Bool} {significand : Nat} {exponent : Int} :
    finishDouble negative significand exponent text = .done value rest ↔
      finishDouble negative significand exponent [] = .done value [] ∧ rest = text := by
  unfold finishDouble
  split
  · simp [eq_comm]
  · simp

theorem persists_finishDouble (negative : Bool) (significand : Nat) (exponent : Int) :
    Persists (finishDouble negative significand exponent)
      (finishDouble negative significand exponent) := by
  intro text value rest h more
  obtain ⟨hvalue, rfl⟩ := finishDouble_eq_done.mp h
  exact finishDouble_eq_done.mpr ⟨hvalue, rfl⟩

variable {negative down : Bool} {significand : Nat} {exponent : Int}

/-- What follows the digits of an exponent, as far as they were absorbed. -/
def endExponent (negative : Bool) (significand : Nat) (exponent : Int) (down : Bool) (power : Nat)
    (text : List Char) : Read Number :=
  if startsWithDigit text then
    if significand ≠ 0 ∧ !down then failNext .numberOutOfRange text
    else .done (.double (if negative then -0.0 else 0.0)) (dropDigits text)
  else
    finishDouble negative significand (if down then exponent - power else exponent + power) text

/-- An exponent, from after its sign. -/
def readPower (negative : Bool) (significand : Nat) (exponent : Int) (down : Bool)
    (text : List Char) : Read Number :=
  match text with
  | [] => failAt .eofValue []
  | c :: _ =>
    if c.isDigit then
      endExponent negative significand exponent down (absorb maxExponent 0 text).1
        (absorb maxExponent 0 text).2
    else failNext .invalidNumber text

/-- Whether an exponent is negative, and what follows its sign. -/
def exponentSign : List Char → Bool × List Char
  | '+' :: rest => (false, rest)
  | '-' :: rest => (true, rest)
  | text => (false, text)

theorem readExponent_eq (text : List Char) : readExponent negative significand exponent text =
    readPower negative significand exponent (exponentSign text).1 (exponentSign text).2 := rfl

theorem exponentSign_append (h : text ≠ []) (more : List Char) :
    exponentSign (text ++ more) = ((exponentSign text).1, (exponentSign text).2 ++ more) := by
  fun_cases exponentSign text with
  | case1 tail => rfl
  | case2 tail => rfl
  | case3 _ hplus hminus =>
    exact exponentSign.eq_3 _ (append_ne_cons h hplus more) (append_ne_cons h hminus more)

theorem persistsInside_endExponent {power : Nat} :
    PersistsInside (endExponent negative significand exponent down power)
      (endExponent negative significand exponent down power) := by
  intro text value rest h hne more
  have hleft : text ≠ [] := by
    rintro rfl
    exact hne (finishDouble_eq_done.mp h).2
  rw [endExponent] at h ⊢
  rw [startsWithDigit_append hleft]
  split at h
  · split at h
    · cases h
    · rename_i hlong hzero
      obtain ⟨rfl, rfl⟩ := Read.done.inj h
      rw [if_pos hlong, if_neg hzero, dropDigits_append hne]
  · rename_i hshort
    rw [if_neg hshort]
    exact persists_finishDouble _ _ _ h more

theorem persistsInside_readPower : PersistsInside (readPower negative significand exponent down)
    (readPower negative significand exponent down) := by
  intro text value rest h hne more
  cases text with
  | nil => cases h
  | cons c tail =>
    simp only [readPower] at h
    split at h
    · rename_i hdigit
      have hleft : (absorb maxExponent 0 (c :: tail)).2 ≠ [] := by
        intro hnil
        rw [hnil] at h
        exact hne (finishDouble_eq_done.mp h).2
      have hmore := absorb_append hleft more
      rw [List.cons_append] at hmore ⊢
      simp only [readPower, hdigit, if_true, hmore]
      exact persistsInside_endExponent h hne more
    · cases h

theorem persistsInside_readExponent : PersistsInside (readExponent negative significand exponent)
    (readExponent negative significand exponent) := by
  intro text value rest h hne more
  have hleft : text ≠ [] := by
    rintro rfl
    cases h
  rw [readExponent_eq] at h ⊢
  rw [exponentSign_append hleft]
  exact persistsInside_readPower h hne more

theorem persistsInside_readScale : PersistsInside (readScale negative significand exponent)
    (readScale negative significand exponent) := by
  intro text value rest h hne more
  revert h
  fun_cases readScale negative significand exponent text with
  | case1 tail =>
    intro h
    exact persistsInside_readExponent h hne more
  | case2 tail =>
    intro h
    exact persistsInside_readExponent h hne more
  | case3 _ he hE =>
    intro h
    obtain ⟨hvalue, rfl⟩ := finishDouble_eq_done.mp h
    rw [readScale.eq_3 _ _ _ _ (append_ne_cons hne he more) (append_ne_cons hne hE more)]
    exact persists_finishDouble _ _ _ h more

theorem persistsInside_readFraction : PersistsInside (readFraction negative significand exponent)
    (readFraction negative significand exponent) := by
  intro text value rest h hne more
  rw [readFraction] at h
  split at h
  · rename_i hdigit
    dsimp only at h
    have hdropped : dropDigits (absorb maxSignificand significand text).2 ≠ [] := by
      intro hnil
      rw [hnil] at h
      exact hne (finishDouble_eq_done.mp h).2
    have htext : text ≠ [] := by
      rintro rfl
      cases hdigit
    have hdigits : dropDigits text ≠ [] := by rwa [← dropDigits_absorb]
    rw [readFraction, startsWithDigit_append htext, if_pos hdigit,
      absorb_append (ne_nil_of_dropDigits hdropped)]
    dsimp only
    rw [countDigits_append hdigits, countDigits_append hdropped, dropDigits_append hdropped]
    exact persistsInside_readScale h hne more
  · cases h

theorem persistsInside_readTail {extra : Nat} : PersistsInside (readTail negative significand extra)
    (readTail negative significand extra) := by
  intro text value rest h hne more
  revert h
  -- The first character tells what comes, and in the last two cases it is left.
  fun_cases readTail negative significand extra text with
  | case1 tail =>
    intro h
    exact persistsInside_readFraction h hne more
  | case2 tail =>
    intro h
    exact persistsInside_readExponent h hne more
  | case3 tail =>
    intro h
    exact persistsInside_readExponent h hne more
  | case4 _ hp he hE hextra =>
    intro h
    obtain ⟨rfl, rfl⟩ := Read.done.inj h
    rw [readTail.eq_4 _ _ _ _ (append_ne_cons hne hp more) (append_ne_cons hne he more)
      (append_ne_cons hne hE more), if_pos hextra]
  | case5 _ hp he hE hextra =>
    intro h
    obtain ⟨-, rfl⟩ := finishDouble_eq_done.mp h
    rw [readTail.eq_4 _ _ _ _ (append_ne_cons hne hp more) (append_ne_cons hne he more)
      (append_ne_cons hne hE more), if_neg hextra]
    exact persists_finishDouble _ _ _ h more

/-- Nothing is left of nothing. -/
theorem rest_of_readTail_nil {extra : Nat}
    (h : readTail negative significand extra [] = .done value rest) : rest = [] := by
  rw [readTail] at h
  · split at h
    · exact (Read.done.inj h).2.symm
    · exact (finishDouble_eq_done.mp h).2
  all_goals
    intro tail heq
    cases heq

theorem persistsInside_readNumber (negative : Bool) :
    PersistsInside (readNumber negative) (readNumber negative) := by
  intro text value rest h hne more
  cases text with
  | nil => cases h
  | cons c tail =>
    rw [List.cons_append, readNumber] at *
    -- A leading zero stands alone in front of the tail; other digits are absorbed first.
    split at h
    · rename_i hzero
      split at h
      · cases h
      · rename_i hsingle
        have hleft : tail ≠ [] := by
          rintro rfl
          exact hne (rest_of_readTail_nil h)
        rw [if_pos hzero, startsWithDigit_append hleft, if_neg hsingle]
        exact persistsInside_readTail h hne more
    · rename_i hzero
      split at h
      · rename_i hdigit
        dsimp only at h
        have hdropped : dropDigits (absorb maxSignificand 0 (c :: tail)).2 ≠ [] := by
          intro hnil
          rw [hnil] at h
          exact hne (rest_of_readTail_nil h)
        have hmore := absorb_append (ne_nil_of_dropDigits hdropped) more
        rw [List.cons_append] at hmore
        rw [if_neg hzero, if_pos hdigit, hmore]
        dsimp only
        rw [countDigits_append hdropped, dropDigits_append hdropped]
        exact persistsInside_readTail h hne more
      · cases h

end NotificationTap.Json
