import NotificationTap.Json.Record
import NotificationTap.Proofs.Json.ReadBack

/-!
# Reading records back

A typed reader finds a value behind blanks, and leaves what follows it.

* `Reads`: a reader takes one text for one value, in any place.
* `readFields_left`, `readFields_right`, `readFields_end`: one field of a record is read, and reading
  goes on after it; at the closing brace the record is complete.
* `Reads.record`: a record that is written with one field to a line is read back.
* `parseWith_of_reads`: so is a whole text, with blanks at its end.
-/

namespace NotificationTap.Json

variable {α β : Type}

/-! ## Blanks -/

/-- Nothing but blanks. -/
def Blank (cs : List Char) : Prop := ∀ c ∈ cs, isBlank c

variable {blanks : List Char}

theorem blank_lineBreak (level : Nat) : Blank (lineBreak level) := by
  simp [Blank, lineBreak, isBlank]

theorem skipBlanks_append (h : Blank blanks) (rest : List Char) :
    skipBlanks (blanks ++ rest) = skipBlanks rest :=
  List.dropWhile_append_of_pos h

/-- Behind blanks, what is no blank itself comes next. -/
theorem skipBlanks_append_cons (h : Blank blanks) {c : Char} (hc : isBlank c = false)
    (rest : List Char) : skipBlanks (blanks ++ c :: rest) = c :: rest := by
  rw [skipBlanks_append h, skipBlanks_of_not_blank hc]

/-! ## Single values -/

/-- A reader takes a text for a value, behind any blanks and whatever follows it. -/
def Reads (read : List Char → Read α) (text : List Char) (value : α) : Prop :=
  ∀ blanks rest, Blank blanks → read (blanks ++ (text ++ rest)) = .done value rest

theorem reads_readBool (value : Bool) : Reads readBool (chars (.bool value)) value := by
  intro blanks rest hb
  rw [readBool, skipBlanks_append hb]
  cases value <;> rfl

theorem reads_readString (value : String) : Reads readString (chars (.string value)) value := by
  intro blanks rest hb
  have hquote : chars (.string value) ++ rest =
      '"' :: (value.toList.flatMap escape ++ '"' :: rest) := by
    simp [chars, quote]
  rw [readString, readStringFor, hquote, skipBlanks_append_cons hb (by decide)]
  simp only [unquote_quoted, Read.map_done, String.ofList_toList]

theorem reads_readNullable_null (read : List Char → Read α) :
    Reads (readNullable read) (chars .null) none := by
  intro blanks rest hb
  rw [readNullable, skipBlanks_append hb]
  rfl

namespace Reads

variable {read : List Char → Read α} {text : List Char} {value : α}

theorem map (h : Reads read text value) (change : α → β) :
    Reads (fun text => (read text).map change) text (change value) := by
  intro blanks rest hb
  dsimp only
  rw [h blanks rest hb, Read.map_done]

/-- A value that does not look like null is read where null might be. -/
theorem nullable (h : Reads read text value) {c : Char} {cs : List Char} (htext : text = c :: cs)
    (hc : isBlank c = false) (hn : c ≠ 'n') : Reads (readNullable read) text (some value) := by
  intro blanks rest hb
  have hread : read (c :: (cs ++ rest)) = .done value rest := by
    rw [← List.cons_append, ← htext]
    exact h [] rest (List.forall_mem_nil _)
  rw [htext, List.cons_append, readNullable, skipBlanks_append_cons hb hc]
  split
  · rename_i heq
    exact absurd (List.cons.inj heq).1 hn
  · rw [hread, Read.map_done]

end Reads

/-! ## Fields -/

theorem firstMember_key (h : Blank blanks) (rest : List Char) :
    firstMember (blanks ++ '"' :: rest) = .done true rest := by
  rw [firstMember, skipBlanks_append_cons h (by decide)]
  rfl

theorem nextMember_key (h : Blank blanks) (rest : List Char) :
    nextMember (',' :: (blanks ++ '"' :: rest)) = .done true rest := by
  rw [nextMember, skipBlanks_of_not_blank (by decide)]
  simp only [skipBlanks_append_cons h (show isBlank '"' = false by decide)]

theorem nextMember_end (h : Blank blanks) (rest : List Char) :
    nextMember (blanks ++ '}' :: rest) = .done false rest := by
  rw [nextMember, skipBlanks_append_cons h (by decide)]
  rfl

section

variable {f : Field α} {g : Field β} {text : List Char} {x : α} {y : β}

/-- The first field is read, from after the opening quotation mark of its name. -/
theorem readFields_left (hx : Reads f.read text x) (hb : Blank blanks) (fuel : Nat) (y? : Option β)
    (rest : List Char) :
    readFields (fuel + 1) f g (.done true
      (f.name.toList.flatMap escape ++ '"' :: ':' :: (blanks ++ (text ++ rest)))) none y? =
    readFields fuel f g (nextMember rest) (some x) y? := by
  rw [readFields]
  simp [unquote_quoted, readColon, skipBlanks_of_not_blank, isBlank, hx blanks rest hb]

/-- The second field is read, from after the opening quotation mark of its name. -/
theorem readFields_right (hne : g.name ≠ f.name) (hy : Reads g.read text y) (hb : Blank blanks)
    (fuel : Nat) (x? : Option α) (rest : List Char) :
    readFields (fuel + 1) f g (.done true
      (g.name.toList.flatMap escape ++ '"' :: ':' :: (blanks ++ (text ++ rest)))) x? none =
    readFields fuel f g (nextMember rest) x? (some y) := by
  rw [readFields]
  simp [unquote_quoted, readColon, skipBlanks_of_not_blank, isBlank, hne, hy blanks rest hb]

/-- At the closing brace both fields are there. -/
theorem readFields_end (f : Field α) (g : Field β) (fuel : Nat) (x : α) (y : β)
    (rest : List Char) :
    readFields (fuel + 1) f g (.done false rest) (some x) (some y) = .done (x, y) rest := by
  rw [readFields]
  rfl

end

/-! ## Records -/

/-- A record that is written with one field to a line is read back. -/
theorem Reads.record {f : Field α} {g : Field β} {x : α} {y : β} {a b : Json} {level : Nat}
    (record : String) (hne : g.name ≠ f.name) (hx : Reads f.read (indentedChars (level + 1) a) x)
    (hy : Reads g.read (indentedChars (level + 1) b) y) :
    Reads (readRecord record f g) (indentedChars level (.object [(f.name, a), (g.name, b)]))
      (x, y) := by
  intro blanks rest hb
  have hspace : Blank [' '] := by simp [Blank, isBlank]
  have hline := blank_lineBreak (level + 1)
  let second := lineBreak (level + 1) ++ '"' :: (g.name.toList.flatMap escape ++ '"' :: ':' ::
    ([' '] ++ (indentedChars (level + 1) b ++ (lineBreak level ++ '}' :: rest))))
  let first := lineBreak (level + 1) ++ '"' :: (f.name.toList.flatMap escape ++ '"' :: ':' ::
    ([' '] ++ (indentedChars (level + 1) a ++ ',' :: second)))
  have htext : indentedChars level (.object [(f.name, a), (g.name, b)]) ++ rest =
      '{' :: first := by
    simp [first, second, indentedChars, indentedMembers, quote]
  -- One call for each field and one for the closing brace.
  obtain ⟨fuel, hfuel⟩ : ∃ fuel, enoughFuel first = fuel + 3 := by
    refine ⟨enoughFuel first - 3, ?_⟩
    simp only [enoughFuel, first, lineBreak, List.cons_append, List.length_cons]
    omega
  rw [htext, readRecord, skipBlanks_append_cons hb (by decide)]
  change readFields (enoughFuel first) f g (firstMember first) none none = .done (x, y) rest
  rw [hfuel, firstMember_key hline, readFields_left hx hspace, nextMember_key hline,
    readFields_right hne hy hspace, nextMember_end (blank_lineBreak level), readFields_end]

/-! ## Whole texts -/

/-- A text is read as a whole if nothing but blanks follows it. -/
theorem parseWith_of_reads {read : List Char → Read α} {text : List Char} {value : α}
    (h : Reads read text value) (hb : Blank blanks) :
    parseWith read (String.ofList (text ++ blanks)) = .ok value := by
  have hread : read (text ++ blanks) = .done value blanks := h [] blanks (List.forall_mem_nil _)
  have hskip : skipBlanks blanks = [] := by
    have happend := skipBlanks_append hb []
    rwa [List.append_nil] at happend
  rw [parseWith, String.toList_ofList, hread, Read.andThen_done, readEnd, hskip]
  rfl

end NotificationTap.Json
