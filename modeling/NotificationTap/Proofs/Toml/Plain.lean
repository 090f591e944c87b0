import NotificationTap.Text.Truth
import NotificationTap.Toml.Document

/-!
# Plain documents

A plain document has one assignment to a line at most, of a truth value or a string without escapes
to a key without quotation marks. Blanks, comments and line ends may stand where they like.

* `Plain.Document`: such a document as it is laid out. `Document.text` is its text, and
  `Document.entries` what it assigns.
* `Plain.Ends`: what ends a line, and what is left after it.
* `Plain.endLine?_comment?`, `key?_chars`, `topValue?_chars`: the parts of a line are read.
* `Plain.readLines?_line`: one line is read. `readLines?_chars`: so are all lines of a document.
* `Plain.parse?_text`: the table of a document is what it assigns, and there is none if a key is
  assigned twice.
-/

namespace NotificationTap.Toml.Plain

/-! ## Layout -/

/-- Control characters. -/
def IsControl (c : Char) : Prop := c < ' ' ∨ c = '\x7f'

/-- Spaces and tabs. -/
structure Blanks where
  chars : List Char
  blank : ∀ c ∈ chars, c = ' ' ∨ c = '\t'

/-- A key without quotation marks. -/
structure Key where
  chars : List Char
  ne_nil : chars ≠ []
  bare : ∀ c ∈ chars, c.isAlphanum ∨ c = '_' ∨ c = '-'

/-- The name that a key stands for. -/
def Key.name (key : Key) : String := String.ofList key.chars

/-- A truth value, or a string without escapes. -/
inductive Literal where
  | truth (value : Bool)
  | string (chars : List Char) (plain : ∀ c ∈ chars, ¬IsControl c ∧ c ≠ '"' ∧ c ≠ '\\')

namespace Literal

/-- The text of a literal. -/
def chars : Literal → List Char
  | truth value => (Text.truthName value).toList
  | string chars _ => '"' :: (chars ++ ['"'])

/-- The value that a literal stands for. -/
def value : Literal → Value
  | truth value => .boolean value
  | string chars _ => .string (String.ofList chars)

end Literal

/-- An assignment, with the blanks around its parts. -/
structure Assignment where
  key : Key
  beforeSign : Blanks
  afterSign : Blanks
  literal : Literal
  trailing : Blanks

/-- The text of an assignment. -/
def Assignment.chars (a : Assignment) : List Char :=
  a.key.chars ++ (a.beforeSign.chars ++ '=' ::
    (a.afterSign.chars ++ (a.literal.chars ++ a.trailing.chars)))

/-- A comment, without its sign. -/
structure Comment where
  text : List Char
  plain : ∀ c ∈ text, c = '\t' ∨ ¬IsControl c

/-- The text of a comment. -/
def Comment.chars (comment : Comment) : List Char := '#' :: comment.text

/-- A line without its end: blanks, an assignment if there is one, and a comment if there is one. -/
structure Line where
  indent : Blanks
  assignment? : Option Assignment
  comment? : Option Comment

namespace Line

/-- The text of a line from after the blanks in front. -/
def body (line : Line) : List Char :=
  line.assignment?.elim [] Assignment.chars ++ line.comment?.elim [] Comment.chars

/-- The text of a line. -/
def chars (line : Line) : List Char := line.indent.chars ++ line.body

/-- What a line assigns, if anything. -/
def assigned? (line : Line) : Option (String × Value) :=
  line.assignment?.map fun a => (a.key.name, a.literal.value)

end Line

/-- How a line ends. -/
inductive LineEnd where
  | lineFeed
  | carriageReturn

/-- The text of a line end. -/
def LineEnd.chars : LineEnd → List Char
  | lineFeed => ['\n']
  | carriageReturn => ['\r', '\n']

/-- The text of lines with their ends and a last line without one. -/
def linesChars : List (Line × LineEnd) → Line → List Char
  | [], last => last.chars
  | (line, lineEnd) :: lines, last => line.chars ++ (lineEnd.chars ++ linesChars lines last)

/-- A document: a byte order mark or none, lines with their ends, and a last line without one, which
may be empty. -/
structure Document where
  hasMark : Bool
  lines : List (Line × LineEnd)
  last : Line

namespace Document

/-- The text of a document. -/
def text (document : Document) : String :=
  String.ofList ((if document.hasMark then ['\uFEFF'] else []) ++
    linesChars document.lines document.last)

/-- What a document assigns, line by line. -/
def entries (document : Document) : Table :=
  (document.lines.map Prod.fst ++ [document.last]).filterMap Line.assigned?

/-- The keys that a document assigns something to. -/
def keys (document : Document) : List String := document.entries.map Prod.fst

end Document

/-! ## Characters -/

variable {c : Char} {cs rest ending : List Char}

theorem isCommentChar_iff : isCommentChar c = true ↔ c = '\t' ∨ ¬IsControl c := by
  simp [isCommentChar, IsControl]

theorem isBareKeyChar_iff : isBareKeyChar c = true ↔ c.isAlphanum ∨ c = '_' ∨ c = '-' := by
  simp [isBareKeyChar, or_assoc]

theorem skipBlanks_blanks (blanks : Blanks) (rest : List Char) :
    skipBlanks (blanks.chars ++ rest) = skipBlanks rest :=
  List.dropWhile_append_of_pos fun c hc => by simpa [isBlank] using blanks.blank c hc

theorem skipBlanks_of_not_blank (hc : isBlank c = false) (rest : List Char) :
    skipBlanks (c :: rest) = c :: rest :=
  List.dropWhile_cons_of_neg (by simp [hc])

/-- What comes next behind blanks is one of them, or what comes next after them. -/
theorem Blanks.forall_head {P : Char → Prop} (blanks : Blanks) (hspace : P ' ') (htab : P '\t')
    (h : ∀ c ∈ rest.head?, P c) : ∀ c ∈ (blanks.chars ++ rest).head?, P c := by
  cases hchars : blanks.chars with
  | nil => exact h
  | cons b bs =>
    intro c hc
    obtain rfl : b = c := by simpa using hc
    obtain rfl | rfl := blanks.blank b (by simp [hchars])
    · exact hspace
    · exact htab

theorem dropWhile_append_stop {p : Char → Bool} (hall : ∀ c ∈ cs, p c = true)
    (hstop : ∀ c ∈ rest.head?, p c = false) :
    (cs ++ rest).takeWhile p = cs ∧ (cs ++ rest).dropWhile p = rest := by
  rw [List.takeWhile_append_of_pos hall, List.dropWhile_append_of_pos hall]
  cases rest with
  | nil => simp
  | cons c rest => simp [hstop c rfl]

/-! ## The end of a line -/

/-- What ends a line, and what is left after it: a line end, or the end of the text. -/
inductive Ends : List Char → List Char → Prop
  | lineEnd (e : LineEnd) (rest : List Char) : Ends (e.chars ++ rest) rest
  | text : Ends [] []

namespace Ends

theorem head_cases (h : Ends ending rest) : ∀ c ∈ ending.head?, c = '\n' ∨ c = '\r' := by
  cases h with
  | lineEnd e => cases e <;> simp [LineEnd.chars]
  | text => simp

theorem skipBlanks_eq (h : Ends ending rest) : skipBlanks ending = ending := by
  cases h with
  | lineEnd e => cases e <;> rfl
  | text => rfl

theorem lineEndOrEnd? (h : Ends ending rest) : lineEndOrEnd? ending = some rest := by
  cases h with
  | lineEnd e => cases e <;> rfl
  | text => rfl

/-- Without a comment, the line is over. -/
theorem endLine? (h : Ends ending rest) : endLine? ending = some rest := by
  cases h with
  | lineEnd e => cases e <;> rfl
  | text => rfl

end Ends

theorem endLine?_blanks (blanks : Blanks) (rest : List Char) :
    endLine? (blanks.chars ++ rest) = endLine? rest := by
  rw [endLine?, endLine?, skipBlanks_blanks]

theorem endLine?_comment (comment : Comment) (h : Ends ending rest) :
    endLine? (comment.chars ++ ending) = some rest := by
  have hstop : ∀ c ∈ ending.head?, isCommentChar c = false := by
    intro c hc
    obtain rfl | rfl := h.head_cases c hc <;> rfl
  obtain ⟨-, hdrop⟩ := dropWhile_append_stop
    (fun c hc => isCommentChar_iff.mpr (comment.plain c hc)) hstop
  rw [Comment.chars, List.cons_append, endLine?, skipBlanks_of_not_blank (by decide)]
  change lineEndOrEnd? ((comment.text ++ ending).dropWhile isCommentChar) = some rest
  rw [hdrop, h.lineEndOrEnd?]

theorem head_comment? (comment? : Option Comment) (h : Ends ending rest) :
    ∀ c ∈ (comment?.elim [] Comment.chars ++ ending).head?, c = '#' ∨ c = '\n' ∨ c = '\r' := by
  cases comment? with
  | none => exact fun c hc => .inr (h.head_cases c hc)
  | some comment => simp [Comment.chars]

/-- What may stand at the end of a line: a comment if there is one. -/
theorem endLine?_comment? (comment? : Option Comment) (h : Ends ending rest) :
    endLine? (comment?.elim [] Comment.chars ++ ending) = some rest := by
  cases comment? with
  | none => exact h.endLine?
  | some comment => exact endLine?_comment comment h

/-! ## Keys -/

/-- The first character of a key. -/
theorem Key.exists_cons (key : Key) : ∃ c cs, key.chars = c :: cs ∧ isBareKeyChar c = true := by
  obtain ⟨c, cs, hchars⟩ := List.exists_cons_of_ne_nil key.ne_nil
  exact ⟨c, cs, hchars, isBareKeyChar_iff.mpr (key.bare c (hchars ▸ List.mem_cons_self))⟩

theorem ne_of_isBareKeyChar {d : Char} (hc : isBareKeyChar c = true)
    (hd : isBareKeyChar d = false) : c ≠ d := by
  rintro rfl
  rw [hc] at hd
  cases hd

/-- A text that starts like a key does not start with any other character. -/
theorem cons_ne_of_isBareKeyChar (hc : isBareKeyChar c = true) {d : Char}
    (hd : isBareKeyChar d = false) (cs rest : List Char) : c :: cs ≠ d :: rest :=
  fun heq => ne_of_isBareKeyChar hc hd (List.cons.inj heq).1

theorem isBlank_of_isBareKeyChar (hc : isBareKeyChar c = true) : isBlank c = false := by
  simp [isBlank, ne_of_isBareKeyChar hc (d := ' ') rfl, ne_of_isBareKeyChar hc (d := '\t') rfl]

theorem simpleKey?_chars (key : Key) (hstop : ∀ c ∈ rest.head?, isBareKeyChar c = false) :
    simpleKey? (key.chars ++ rest) = some (key.chars, rest) := by
  obtain ⟨htake, hdrop⟩ := dropWhile_append_stop
    (fun c hc => isBareKeyChar_iff.mpr (key.bare c hc)) hstop
  obtain ⟨c, cs, hchars, hc⟩ := key.exists_cons
  rw [hchars, List.cons_append] at htake hdrop ⊢
  have hne {d : Char} (hd : isBareKeyChar d = false) := cons_ne_of_isBareKeyChar hc hd
  rw [simpleKey?.eq_3 _ (hne rfl _) (hne rfl _), htake, hdrop]

theorem key?_chars (key : Key) (blanks : Blanks) (rest : List Char) :
    key? (key.chars ++ (blanks.chars ++ '=' :: rest)) = some (([], key.name), '=' :: rest) := by
  have hsign : ∀ c ∈ ('=' :: rest).head?, isBareKeyChar c = false := by simp [isBareKeyChar]
  have hsimple := simpleKey?_chars key (blanks.forall_head rfl rfl hsign)
  have hblanks : skipBlanks (blanks.chars ++ '=' :: rest) = '=' :: rest := by
    rw [skipBlanks_blanks, skipBlanks_of_not_blank (by decide)]
  have hfront : skipBlanks (key.chars ++ (blanks.chars ++ '=' :: rest)) =
      key.chars ++ (blanks.chars ++ '=' :: rest) := by
    obtain ⟨c, cs, hchars, hc⟩ := key.exists_cons
    rw [hchars, List.cons_append, skipBlanks_of_not_blank (isBlank_of_isBareKeyChar hc)]
  have hparts (fuel : Nat) : keyParts? (fuel + 1) (key.chars ++ (blanks.chars ++ '=' :: rest)) =
      some ([key.name], '=' :: rest) := by
    rw [keyParts?, hfront, hsimple]
    simp [hblanks, Key.name]
  rw [key?, hparts]
  rfl

/-! ## Literals -/

theorem basicString?_chars (hplain : ∀ c ∈ cs, ¬IsControl c ∧ c ≠ '"' ∧ c ≠ '\\')
    (rest : List Char) : basicString? (cs ++ '"' :: rest) = some (cs, rest) := by
  induction cs with
  | nil =>
    rw [List.nil_append, basicString?.eq_def]
    exact if_pos rfl
  | cons c cs ih =>
    obtain ⟨⟨hcontrol, hquote, hbackslash⟩, hplain⟩ := List.forall_mem_cons.mp hplain
    rw [List.cons_append, basicString?.eq_def]
    dsimp only
    rw [if_neg hquote, if_neg hbackslash,
      if_pos (show isStringChar c = true from isCommentChar_iff.mpr (.inr hcontrol)), ih hplain]
    rfl

theorem string?_chars (hplain : ∀ c ∈ cs, ¬IsControl c ∧ c ≠ '"' ∧ c ≠ '\\')
    (h : ∀ c ∈ rest.head?, c ≠ '"') : string? ('"' :: (cs ++ '"' :: rest)) = some (cs, rest) := by
  have hread := basicString?_chars hplain rest
  unfold string?
  split
  · next heq =>
    obtain ⟨-, heq⟩ := List.cons.inj heq
    cases cs with
    | nil => exact absurd rfl (h '"' (by simp [(List.cons.inj heq).2]))
    | cons c cs => exact absurd (List.cons.inj heq).1 (hplain c List.mem_cons_self).2.1
  · next heq => rw [← (List.cons.inj heq).2, hread]
  · next heq => exact absurd (List.cons.inj heq).1 (by decide)
  · next heq => exact absurd (List.cons.inj heq).1 (by decide)
  · next hnot _ _ => exact absurd rfl (hnot _)

/-- A literal is read, unless one more quotation mark follows it. -/
theorem topValue?_chars (literal : Literal) (h : ∀ c ∈ rest.head?, c ≠ '"') :
    topValue? (literal.chars ++ rest) = some (literal.value, rest) := by
  cases literal with
  | truth value => cases value <;> rfl
  | string cs hplain =>
    have hchars : (Literal.string cs hplain).chars ++ rest = '"' :: (cs ++ '"' :: rest) := by
      simp [Literal.chars]
    rw [hchars, topValue?, value?.eq_def]
    dsimp only
    rw [if_pos (.inl rfl), string?_chars hplain h]
    rfl

/-! ## Assignments -/

theorem entry?_chars (a : Assignment) (comment? : Option Comment) (h : Ends ending rest) :
    entry? (a.chars ++ (comment?.elim [] Comment.chars ++ ending)) =
      some ((([], a.key.name), a.literal.value), rest) := by
  -- What follows must not make an empty string the start of a string over several lines.
  have hcomment : ∀ c ∈ (comment?.elim [] Comment.chars ++ ending).head?, c ≠ '"' := by
    intro c hc
    obtain rfl | rfl | rfl := head_comment? comment? h c hc <;> decide
  have hafter := a.trailing.forall_head (P := (· ≠ '"')) (by decide) (by decide) hcomment
  have hfront : skipBlanks (a.literal.chars ++ (a.trailing.chars ++
      (comment?.elim [] Comment.chars ++ ending))) = a.literal.chars ++ (a.trailing.chars ++
      (comment?.elim [] Comment.chars ++ ending)) := by
    rcases hliteral : a.literal with (_ | _) | _ <;> exact skipBlanks_of_not_blank (by decide) _
  have hsign (text : List Char) : expect? '=' ('=' :: text) = some text := rfl
  simp only [Assignment.chars, List.append_assoc, List.cons_append]
  unfold entry?
  rw [key?_chars]
  simp only [Option.bind_eq_bind, Option.bind_some, hsign, skipBlanks_blanks, hfront,
    topValue?_chars a.literal hafter, endLine?_blanks, endLine?_comment? comment? h]
  rfl

/-! ## Lines -/

/-- What a line adds to a draft. -/
def Line.addTo? (line : Line) (draft : Draft) : Option Draft :=
  match line.assigned? with
  | none => some draft
  | some (key, value) => draft.assign? [] key value

theorem Assignment.exists_cons (a : Assignment) :
    ∃ c cs, a.chars = c :: cs ∧ isBareKeyChar c = true := by
  obtain ⟨c, cs, hchars, hc⟩ := a.key.exists_cons
  exact ⟨c, _, by rw [Assignment.chars, hchars, List.cons_append], hc⟩

theorem Line.skipBlanks_chars (line : Line) (h : Ends ending rest) :
    skipBlanks (line.chars ++ ending) = line.body ++ ending := by
  rw [chars, List.append_assoc, skipBlanks_blanks, body, List.append_assoc]
  cases line.assignment? with
  | some a =>
    obtain ⟨c, cs, hchars, hc⟩ := a.exists_cons
    rw [Option.elim_some, hchars, List.cons_append,
      skipBlanks_of_not_blank (isBlank_of_isBareKeyChar hc)]
  | none =>
    cases line.comment? with
    | some comment => exact skipBlanks_of_not_blank (by decide) _
    | none => exact h.skipBlanks_eq

/-- A line that starts like a key is read as an assignment. -/
theorem readLine?_of_isBareKeyChar (hc : isBareKeyChar c = true) (draft : Draft) (cs : List Char) :
    readLine? draft (c :: cs) = (do
      let (((path, key), value), rest) ← entry? (c :: cs)
      return (← draft.assign? path key value, rest)) := by
  have hne {d : Char} (hd : isBareKeyChar d = false) := cons_ne_of_isBareKeyChar hc hd
  exact readLine?.eq_5 draft _ (hne rfl _) (hne rfl _) (hne rfl _) (hne rfl _)

theorem readLine?_comment (comment : Comment) (draft : Draft) (h : Ends ending rest) :
    readLine? draft (comment.chars ++ ending) = some (draft, rest) := by
  change (endLine? (comment.chars ++ ending)).map (fun rest => (draft, rest)) = some (draft, rest)
  rw [endLine?_comment comment h]
  rfl

theorem readLine?_ends (draft : Draft) (h : Ends ending rest) (hne : ending ≠ []) :
    readLine? draft ending = some (draft, rest) := by
  cases h with
  | lineEnd e => cases e <;> rfl
  | text => exact absurd rfl hne

/-- A line is read, unless it is empty at the end of the text. -/
theorem readLine?_body (line : Line) (draft : Draft) (h : Ends ending rest)
    (hne : line.body ++ ending ≠ []) :
    readLine? draft (line.body ++ ending) = (line.addTo? draft).map (·, rest) := by
  cases hassignment : line.assignment? with
  | some a =>
    obtain ⟨c, cs, hchars, hc⟩ := a.exists_cons
    have hentry := entry?_chars a line.comment? h
    have hadd : line.addTo? draft = draft.assign? [] a.key.name a.literal.value := by
      rw [Line.addTo?, Line.assigned?, hassignment]
      rfl
    rw [Line.body, hassignment, Option.elim_some, List.append_assoc]
    rw [hchars, List.cons_append] at hentry ⊢
    rw [readLine?_of_isBareKeyChar hc, hentry, hadd, Option.map_eq_bind]
    rfl
  | none =>
    have hadd : line.addTo? draft = some draft := by simp [Line.addTo?, Line.assigned?, hassignment]
    rw [Line.body, hassignment, Option.elim_none, List.nil_append] at hne ⊢
    rw [hadd, Option.map_some]
    cases hcomment : line.comment? with
    | some comment => exact readLine?_comment comment draft h
    | none =>
      rw [hcomment] at hne
      exact readLine?_ends draft h hne

/-- Where no text is left, a line is empty, and the text ends with it. -/
theorem addTo?_of_nil (line : Line) (draft : Draft) (h : Ends ending rest)
    (hnil : line.body ++ ending = []) : line.addTo? draft = some draft ∧ rest = [] := by
  obtain ⟨hbody, rfl⟩ := List.append_eq_nil_iff.mp hnil
  have hassignment : line.assignment? = none := by
    cases hassignment : line.assignment? with
    | none => rfl
    | some a =>
      obtain ⟨c, cs, hchars, -⟩ := a.exists_cons
      simp [Line.body, hassignment, hchars] at hbody
  refine ⟨by simp [Line.addTo?, Line.assigned?, hassignment], ?_⟩
  generalize hending : ([] : List Char) = ending at h
  cases h with
  | lineEnd e => cases e <;> cases hending
  | text => rfl

/-- A line is read, with a call for it and one for what follows. -/
theorem readLines?_line (line : Line) (draft : Draft) (h : Ends ending rest) (fuel : Nat) :
    readLines? (fuel + 2) draft (line.chars ++ ending) =
      (line.addTo? draft).bind fun draft => readLines? (fuel + 1) draft rest := by
  rw [readLines?, line.skipBlanks_chars h]
  split
  · next hnil =>
    obtain ⟨hadd, rfl⟩ := addTo?_of_nil line draft h hnil
    rw [hadd]
    rfl
  · next hne =>
    rw [readLine?_body line draft h hne, Option.bind_map]
    rfl

/-! ## Documents -/

theorem LineEnd.length_pos (e : LineEnd) : 0 < e.chars.length := by
  cases e <;> simp [chars]

/-- The last line is read. An empty one takes a call, any other one also the call for the end. -/
theorem readLines?_last (last : Line) (draft : Draft) {fuel : Nat}
    (hfuel : last.chars.length < fuel) :
    readLines? fuel draft last.chars = last.addTo? draft := by
  have hskip := last.skipBlanks_chars .text
  rw [List.append_nil] at hskip
  cases hchars : last.chars with
  | nil =>
    obtain ⟨fuel, rfl⟩ : ∃ n, fuel = n + 1 := ⟨fuel - 1, by omega⟩
    rw [hchars] at hskip
    rw [(addTo?_of_nil last draft .text hskip.symm).1]
    rfl
  | cons c cs =>
    obtain ⟨fuel, rfl⟩ : ∃ n, fuel = n + 2 := by
      rw [hchars, List.length_cons] at hfuel
      exact ⟨fuel - 2, by omega⟩
    have hread := readLines?_line last draft .text fuel
    rw [List.append_nil, hchars] at hread
    rw [hread]
    exact Option.bind_fun_some _

/-- The lines of a document are read one after the other. -/
theorem readLines?_chars (lines : List (Line × LineEnd)) (last : Line) (draft : Draft) {fuel : Nat}
    (hfuel : (linesChars lines last).length < fuel) :
    readLines? fuel draft (linesChars lines last) =
      (lines.map Prod.fst ++ [last]).foldlM (fun draft line => line.addTo? draft) draft := by
  -- Each line takes a character at least, and with it a call.
  induction lines generalizing draft fuel with
  | nil =>
    rw [linesChars, readLines?_last last draft hfuel]
    exact (Option.bind_fun_some _).symm
  | cons entry lines ih =>
    obtain ⟨line, e⟩ := entry
    have hlength := e.length_pos
    simp only [linesChars, List.length_append] at hfuel
    obtain ⟨fuel, rfl⟩ : ∃ n, fuel = n + 2 := ⟨fuel - 2, by omega⟩
    have hrest : (linesChars lines last).length < fuel + 1 := by omega
    rw [linesChars, readLines?_line line draft (.lineEnd e _)]
    simp only [List.map_cons, List.cons_append, List.foldlM_cons]
    exact Option.bind_congr fun draft _ => ih draft hrest

/-! ## Entries -/

theorem contains_iff (table : Table) (key : String) :
    table.contains key ↔ key ∈ table.map Prod.fst := by
  simp [Table.contains, List.lookup_isSome_iff]

theorem assign?_eq (draft : Draft) (key : String) (value : Value) :
    draft.assign? [] key value = if key ∈ draft.entries.map Prod.fst then none
      else some { draft with entries := draft.entries ++ [(key, value)] } := by
  by_cases hkey : key ∈ draft.entries.map Prod.fst
  · have hcontains : draft.entries.contains key = true := (contains_iff _ _).mpr hkey
    rw [Draft.assign?, Table.assign, if_pos hcontains, if_pos hkey]
    rfl
  · have hcontains : ¬draft.entries.contains key = true := mt (contains_iff _ _).mp hkey
    rw [Draft.assign?, Table.assign, if_neg hcontains, if_neg hkey]
    rfl

/-- Lines are added to a draft if no key is assigned twice, there or here. -/
theorem foldlM_addTo? (lines : List Line) (draft : Draft)
    (hdraft : (draft.entries.map Prod.fst).Nodup) :
    lines.foldlM (fun draft line => line.addTo? draft) draft =
      if ((draft.entries ++ lines.filterMap Line.assigned?).map Prod.fst).Nodup then
        some { draft with entries := draft.entries ++ lines.filterMap Line.assigned? }
      else none := by
  induction lines generalizing draft with
  | nil => simp [hdraft]
  | cons line lines ih =>
    rw [List.foldlM_cons, Line.addTo?]
    cases hentry : line.assigned? with
    | none =>
      rw [List.filterMap_cons_none hentry]
      exact ih draft hdraft
    | some entry =>
      obtain ⟨key, value⟩ := entry
      rw [List.filterMap_cons_some hentry]
      dsimp only
      rw [assign?_eq]
      by_cases hkey : key ∈ draft.entries.map Prod.fst
      · have htwice : ¬((draft.entries ++ (key, value) :: lines.filterMap Line.assigned?).map
            Prod.fst).Nodup := by
          rw [List.map_append, List.map_cons, List.nodup_append]
          exact fun h => h.2.2 key hkey key List.mem_cons_self rfl
        rw [if_pos hkey, if_neg htwice]
        rfl
      · have hnext : ((draft.entries ++ [(key, value)]).map Prod.fst).Nodup := by
          rw [List.map_append, List.nodup_append]
          exact ⟨hdraft, by simp, by grind⟩
        have hnow := ih { draft with entries := draft.entries ++ [(key, value)] } hnext
        rw [List.append_assoc, List.singleton_append] at hnow
        rw [if_neg hkey]
        exact hnow

/-! ## Whole texts -/

/-- A line does not start with a byte order mark. -/
theorem Line.head_chars (line : Line) (h : Ends ending rest) :
    ∀ c ∈ (line.chars ++ ending).head?, c ≠ '\uFEFF' := by
  rw [chars, List.append_assoc]
  refine line.indent.forall_head (by decide) (by decide) fun c hc => ?_
  rw [body, List.append_assoc] at hc
  cases hassignment : line.assignment? with
  | none =>
    rw [hassignment] at hc
    obtain rfl | rfl | rfl := head_comment? line.comment? h c hc <;> decide
  | some a =>
    obtain ⟨k, cs, hchars, hk⟩ := a.exists_cons
    obtain rfl : k = c := by simpa [hassignment, hchars] using hc
    exact ne_of_isBareKeyChar hk (by decide)

theorem linesChars_head (lines : List (Line × LineEnd)) (last : Line) :
    ∀ c ∈ (linesChars lines last).head?, c ≠ '\uFEFF' := by
  cases lines with
  | nil =>
    have hlast := last.head_chars .text
    rwa [List.append_nil] at hlast
  | cons entry lines => exact entry.1.head_chars (.lineEnd entry.2 _)

theorem skipByteOrderMark_text (document : Document) :
    skipByteOrderMark document.text.toList = linesChars document.lines document.last := by
  rw [Document.text, String.toList_ofList]
  by_cases hmark : document.hasMark
  · rw [if_pos hmark]
    rfl
  · rw [if_neg hmark, List.nil_append]
    unfold skipByteOrderMark
    split
    · next heq => exact absurd rfl (linesChars_head document.lines document.last '\uFEFF' (by
        rw [heq]
        rfl))
    · rfl

/-- The table of a document is what it assigns, and there is none if a key is assigned twice. -/
theorem parse?_text (document : Document) :
    parse? document.text = if document.keys.Nodup then some document.entries else none := by
  have hadd := foldlM_addTo? (document.lines.map Prod.fst ++ [document.last]) {} List.nodup_nil
  rw [List.nil_append] at hadd
  rw [parse?, skipByteOrderMark_text, readLines?_chars _ _ _ (Nat.lt_succ_self _), hadd,
    apply_ite (Option.bind · Draft.close?)]
  rfl

end NotificationTap.Toml.Plain
