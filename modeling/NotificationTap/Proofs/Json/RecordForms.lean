import Mathlib.Data.List.Induction
import NotificationTap.Proofs.Json.Record
import NotificationTap.Proofs.Json.Skipping

/-!
# The forms of a record

A record may come as an array of its fields, or as an object of its fields in any order with other
members between them.

* `Interleaved`: the members of such an object. `Admits`: a member that may be among them.
* `DecodesForms`: a record is decoded from all its forms, and none of them may repeat a field.
* `readFields_step`, `readFields_run`: one admitted member is read, and any number of them.
  `readFields_again`, `readFields_repeated`: a field that comes again is refused.
* `readRecord_row`, `readRecord_object`: a record is read from an array and from an object.
* `decodesForms`: all of this for a record of two fields.
-/

namespace NotificationTap.Json

variable {α β γ : Type}

/-! ## Forms -/

/-- The members of a value that is an object. -/
def ownMembers (value : Json) : Members := value.object?.getD []

/-- The names of fields. -/
def names (fields : Members) : List String := fields.map Prod.fst

/-- A member that may stand in a record's object: one of its fields, or a member of another name,
whose value is of no interest but may have no doubles in it. -/
def Admits (fields : Members) (m : String × Json) : Prop :=
  m ∈ fields ∨ m.1 ∉ names fields ∧ WholeNumbers m.2

/-- The fields of a record in any order, with members of other names between them. -/
structure Interleaved (fields members : Members) : Prop where
  /-- The members with names of fields are the fields, each once. -/
  complete : (members.filter (·.1 ∈ names fields)).Perm fields
  admitted : ∀ m ∈ members, Admits fields m

/-- A value that is written as a record is decoded from all forms of the record. -/
structure DecodesForms (decode : String → Except Error γ) (written : Json) (value : γ) : Prop where
  /-- From the text that the value itself is written as. -/
  own : decode (compact written) = .ok value
  /-- From an array of the fields. -/
  row : decode (compact (.array (written.ownMembers.map Prod.snd))) = .ok value
  /-- From an object of the fields and other members. -/
  object : ∀ members, Interleaved written.ownMembers members →
    decode (compact (.object members)) = .ok value
  /-- A field that comes again, with whatever value, is refused as such. -/
  repeated : ∀ front key x back, (∀ m ∈ front, Admits written.ownMembers m) →
    key ∈ names written.ownMembers → key ∈ front.map Prod.fst →
    ∃ e, decode (compact (.object (front ++ (key, x) :: back))) = .error e ∧
      e.cause.category = .data ∧ ∃ name ∈ names written.ownMembers, e.cause = .duplicateField name

/-! ## Members without repetition -/

/-- No field comes twice. -/
def Unrepeated (fields members : Members) : Prop :=
  ((members.filter (·.1 ∈ names fields)).map Prod.fst).Nodup

variable {fields members front back : Members} {m : String × Json} {blanks : List Char}

theorem unrepeated_append : Unrepeated fields (front ++ [m]) ↔
    Unrepeated fields front ∧ (m.1 ∈ names fields → m.1 ∉ front.map Prod.fst) := by
  by_cases hm : m.1 ∈ names fields
  · have hlast : (front ++ [m]).filter (·.1 ∈ names fields) =
        front.filter (·.1 ∈ names fields) ++ [m] := by
      simp [List.filter_append, hm]
    have hmem : m.1 ∈ (front.filter (·.1 ∈ names fields)).map Prod.fst ↔
        m.1 ∈ front.map Prod.fst := by
      simp [hm]
    rw [Unrepeated, hlast, List.map_append, List.map_singleton,
      (List.perm_append_singleton _ _).nodup_iff, List.nodup_cons, hmem, forall_prop_of_true hm,
      and_comm]
    rfl
  · have hlast : (front ++ [m]).filter (·.1 ∈ names fields) =
        front.filter (·.1 ∈ names fields) := by
      simp [List.filter_append, hm]
    rw [Unrepeated, hlast, forall_prop_of_false hm, and_true]
    rfl

theorem Interleaved.unrepeated (h : Interleaved fields members) (hfields : (names fields).Nodup) :
    Unrepeated fields members :=
  (h.complete.map Prod.fst).nodup_iff.mpr hfields

theorem Interleaved.mem_of_name (h : Interleaved fields members) {name : String}
    (hname : name ∈ names fields) : name ∈ members.map Prod.fst := by
  obtain ⟨m, hm, rfl⟩ := List.mem_map.mp hname
  exact List.mem_map_of_mem (List.mem_filter.mp (h.complete.mem_iff.mpr hm)).1

theorem Interleaved.refl (fields : Members) : Interleaved fields fields where
  complete := by
    have hall : fields.filter (·.1 ∈ names fields) = fields :=
      List.filter_eq_self.mpr fun m hm => decide_eq_true (List.mem_map_of_mem hm)
    rw [hall]
  admitted _ hm := .inl hm

/-! ## Text after punctuation -/

/-- What punctuation finds where members are left. -/
def ahead (members : Members) (rest : List Char) : Read Bool :=
  match members with
  | [] => .done false rest
  | (k, x) :: ms =>
    .done true (k.toList.flatMap escape ++ '"' :: ':' :: (x.chars ++ (membersChars ms ++ rest)))

theorem firstMember_bodyChars (members : Members) (rest : List Char) :
    firstMember (bodyChars members ++ rest) = ahead members rest := by
  cases members with
  | nil => rfl
  | cons m ms => simp [bodyChars, quote, firstMember, skipBlanks, isBlank, ahead]

theorem nextMember_membersChars (members : Members) (rest : List Char) :
    nextMember (membersChars members ++ rest) = ahead members rest := by
  cases members with
  | nil => rfl
  | cons m ms => simp [membersChars, quote, nextMember, skipBlanks, isBlank, ahead]

theorem length_lt_membersChars (members : Members) :
    members.length < (membersChars members).length := by
  induction members with
  | nil => simp [membersChars]
  | cons m ms ih =>
    simp only [membersChars, List.length_cons, List.length_append]
    omega

theorem length_lt_bodyChars (members : Members) : members.length < (bodyChars members).length := by
  cases members with
  | nil => simp [bodyChars]
  | cons m ms =>
    have := length_lt_membersChars ms
    simp only [bodyChars, List.length_cons, List.length_append]
    omega

/-! ## Reading fields -/

/-- Both fields of a record are read from the texts of their values. -/
structure ReadsFields (f : Field α) (g : Field β) (a b : Json) (x : α) (y : β) : Prop where
  ne : g.name ≠ f.name
  left : Reads f.read (chars a) x
  right : Reads g.read (chars b) y

/-- The value of a field once members have been read. -/
def given (name : String) (front : Members) (x : α) : Option α :=
  if name ∈ front.map Prod.fst then some x else none

theorem given_append (name : String) (x : α) :
    given name (front ++ [m]) x = if m.1 = name then some x else given name front x := by
  by_cases hm : m.1 = name
  · simp [given, hm]
  · have hmem : name ∈ (front ++ [m]).map Prod.fst ↔ name ∈ front.map Prod.fst := by
      rw [List.map_append, List.map_singleton, List.mem_append, List.mem_singleton,
        or_iff_left (Ne.symm hm)]
    rw [given, given, if_neg hm, if_congr hmem rfl rfl]

section

variable {f : Field α} {g : Field β} {a b v : Json} {x : α} {y : β}

/-- A member of another name is passed over. -/
theorem readFields_other {key : String} (hf : key ≠ f.name) (hg : key ≠ g.name)
    (hv : WholeNumbers v) (fuel : Nat) (x? : Option α) (y? : Option β) (back : Members)
    (rest : List Char) :
    readFields (fuel + 1) f g (ahead ((key, v) :: back) rest) x? y? =
      readFields fuel f g (ahead back rest) x? y? := by
  have hcolon (tail : List Char) : readColon (':' :: tail) = .done () tail := rfl
  have hskip := hv.skipsBack.skip
    (show 2 * v.chars.length ≤ enoughFuel (v.chars ++ (membersChars back ++ rest)) by
      simp only [enoughFuel, List.length_append]
      omega) (endsNumber_membersChars back rest)
  rw [ahead, readFields, Read.andThen_done, if_pos rfl, unquote_quoted, Read.andThen_done,
    String.ofList_toList, if_neg hf, if_neg hg, hcolon, Read.andThen_done, hskip,
    Read.andThen_done, nextMember_membersChars]

/-- One admitted member is read, if it is no field that was there before. -/
theorem readFields_step (h : ReadsFields f g a b x y)
    (hm : Admits [(f.name, a), (g.name, b)] m)
    (hnew : m.1 ∈ names [(f.name, a), (g.name, b)] → m.1 ∉ front.map Prod.fst) (fuel : Nat)
    (back : Members) (rest : List Char) :
    readFields (fuel + 1) f g (ahead (m :: back) rest) (given f.name front x)
        (given g.name front y) =
      readFields fuel f g (ahead back rest) (given f.name (front ++ [m]) x)
        (given g.name (front ++ [m]) y) := by
  have hblank : Blank [] := List.forall_mem_nil _
  rw [given_append, given_append]
  rcases hm with hm | ⟨hother, hv⟩
  · obtain rfl | rfl : m = (f.name, a) ∨ m = (g.name, b) := by simpa using hm
    · have hnone : given f.name front x = none := if_neg (hnew (by simp [names]))
      rw [hnone, if_pos rfl, if_neg (Ne.symm h.ne), ← nextMember_membersChars back]
      exact readFields_left h.left hblank fuel _ _
    · have hnone : given g.name front y = none := if_neg (hnew (by simp [names]))
      rw [hnone, if_pos rfl, if_neg h.ne, ← nextMember_membersChars back]
      exact readFields_right h.ne h.right hblank fuel _ _
  · obtain ⟨hf, hg⟩ : m.1 ≠ f.name ∧ m.1 ≠ g.name := by simpa [names] using hother
    rw [if_neg hf, if_neg hg]
    exact readFields_other hf hg hv fuel _ _ back rest

/-- Any number of admitted members are read, if no field comes twice. -/
theorem readFields_run (h : ReadsFields f g a b x y)
    (hadmitted : ∀ m ∈ front, Admits [(f.name, a), (g.name, b)] m)
    (hfront : Unrepeated [(f.name, a), (g.name, b)] front) (fuel : Nat) (back : Members)
    (rest : List Char) :
    readFields (fuel + front.length) f g (ahead (front ++ back) rest) none none =
      readFields fuel f g (ahead back rest) (given f.name front x) (given g.name front y) := by
  -- The fields that are there are those of the members so far, so that the last one is split off.
  induction front using List.reverseRecOn generalizing fuel back with
  | nil => rfl
  | append_singleton front m ih =>
    obtain ⟨hfront, hnew⟩ := unrepeated_append.mp hfront
    have hrun := ih (fun n hn => hadmitted n (List.mem_append_left _ hn)) hfront (fuel + 1)
      (m :: back)
    rw [List.append_assoc, List.singleton_append, List.length_append, List.length_singleton,
      Nat.add_comm front.length, ← Nat.add_assoc, hrun]
    exact readFields_step h (hadmitted m (by simp)) hnew fuel back rest

/-- A field that was there before is refused, whatever its value. -/
theorem readFields_again {key : String} (hkey : key ∈ names [(f.name, a), (g.name, b)])
    (hfront : key ∈ front.map Prod.fst) (fuel : Nat) (back : Members) (rest : List Char) :
    ∃ tail, readFields (fuel + 1) f g (ahead ((key, v) :: back) rest) (given f.name front x)
      (given g.name front y) = failAt (.duplicateField key) tail := by
  rw [ahead, readFields, Read.andThen_done, if_pos rfl, unquote_quoted, Read.andThen_done,
    String.ofList_toList]
  by_cases hf : key = f.name
  · have hsome : given f.name front x = some x := if_pos (hf ▸ hfront)
    rw [if_pos hf, hsome, ← hf]
    exact ⟨_, rfl⟩
  · have hg : key = g.name := by simpa [names, hf] using hkey
    have hsome : given g.name front y = some y := if_pos (hg ▸ hfront)
    rw [if_neg hf, if_pos hg, hsome, ← hg]
    exact ⟨_, rfl⟩

/-- Admitted members are refused if a field comes twice. -/
theorem readFields_repeated (h : ReadsFields f g a b x y)
    (hadmitted : ∀ m ∈ front, Admits [(f.name, a), (g.name, b)] m)
    (hfront : ¬Unrepeated [(f.name, a), (g.name, b)] front) (fuel : Nat) (back : Members)
    (rest : List Char) :
    ∃ name ∈ names [(f.name, a), (g.name, b)], ∃ tail,
      readFields (fuel + front.length) f g (ahead (front ++ back) rest) none none =
        failAt (.duplicateField name) tail := by
  induction front using List.reverseRecOn generalizing fuel back with
  | nil => exact absurd List.nodup_nil hfront
  | append_singleton front m ih =>
    have hbefore (n : String × Json) (hn : n ∈ front) : Admits [(f.name, a), (g.name, b)] n :=
      hadmitted n (List.mem_append_left _ hn)
    rw [List.append_assoc, List.singleton_append, List.length_append, List.length_singleton,
      Nat.add_comm front.length, ← Nat.add_assoc]
    by_cases hunrepeated : Unrepeated [(f.name, a), (g.name, b)] front
    · obtain ⟨hkey, hmem⟩ : m.1 ∈ names [(f.name, a), (g.name, b)] ∧ m.1 ∈ front.map Prod.fst := by
        by_contra hnew
        exact hfront (unrepeated_append.mpr ⟨hunrepeated, not_and.mp hnew⟩)
      obtain ⟨tail, hagain⟩ := readFields_again (v := m.2) hkey hmem fuel back rest
      exact ⟨m.1, hkey, tail, (readFields_run h hbefore hunrepeated _ _ rest).trans hagain⟩
    · exact ih hbefore hunrepeated (fuel + 1) (m :: back)

/-! ## Reading records -/

/-- A record is read from an array of its fields. -/
theorem readRecord_row (h : ReadsFields f g a b x y) (ha : Canonical 0 a) (hb : Canonical 0 b)
    (record : String) : Reads (readRecord record f g) (chars (.array [a, b])) (x, y) := by
  intro blanks rest hblanks
  have hblank : Blank [] := List.forall_mem_nil _
  have htext : chars (.array [a, b]) ++ rest =
      '[' :: (chars a ++ ',' :: (chars b ++ ']' :: rest)) := by simp [chars, itemsChars]
  have hfirst := firstItem_chars ha.readsBack (',' :: (chars b ++ ']' :: rest))
  have hnext := nextItem_comma_chars hb.readsBack (']' :: rest)
  have hx : f.read (chars a ++ ',' :: (chars b ++ ']' :: rest)) = _ := h.left [] _ hblank
  have hy : g.read (chars b ++ ']' :: rest) = _ := h.right [] _ hblank
  have hend : endRow (']' :: rest) = .done () rest := rfl
  rw [htext, readRecord, skipBlanks_append_cons hblanks (by decide)]
  change readRow record f g _ = _
  rw [readRow, hfirst, Read.andThen_done, if_pos rfl, hx, Read.andThen_done, hnext,
    Read.andThen_done, if_pos rfl, hy, Read.andThen_done, hend, Read.map_done]

/-- The text of an object is read field by field from after its brace, with a call for each member
and one for the closing brace. -/
theorem readRecord_chars (record : String) (hback : front.length ≤ members.length)
    (hb : Blank blanks) (rest : List Char) : ∃ fuel,
    readRecord record f g (blanks ++ (chars (.object members) ++ rest)) =
      readFields (fuel + 1 + front.length) f g (ahead members rest) none none := by
  have hlength := length_lt_bodyChars members
  refine ⟨enoughFuel (bodyChars members ++ rest) - 1 - front.length, ?_⟩
  have hfuel : enoughFuel (bodyChars members ++ rest) - 1 - front.length + 1 + front.length =
      enoughFuel (bodyChars members ++ rest) := by
    simp only [enoughFuel, List.length_append]
    omega
  rw [hfuel, chars_object, List.cons_append, readRecord, skipBlanks_append_cons hb (by decide),
    ← firstMember_bodyChars]
  rfl

/-- A record is read from an object of its fields and other members. -/
theorem readRecord_object (h : ReadsFields f g a b x y)
    (hmembers : Interleaved [(f.name, a), (g.name, b)] members) (record : String) :
    Reads (readRecord record f g) (chars (.object members)) (x, y) := by
  intro blanks rest hblanks
  have hunrepeated := hmembers.unrepeated (by simpa [names] using h.ne.symm)
  have hx : given f.name members x = some x := if_pos (hmembers.mem_of_name (by simp [names]))
  have hy : given g.name members y = some y := if_pos (hmembers.mem_of_name (by simp [names]))
  obtain ⟨fuel, hread⟩ := readRecord_chars (f := f) (g := g) record (Nat.le_refl members.length)
    hblanks rest
  have hrun := readFields_run h hmembers.admitted hunrepeated (fuel + 1) [] rest
  rw [List.append_nil, hx, hy] at hrun
  rw [hread, hrun, ahead, readFields_end]

/-- A record is refused if a field comes again. -/
theorem readRecord_repeated (h : ReadsFields f g a b x y)
    (hadmitted : ∀ m ∈ front, Admits [(f.name, a), (g.name, b)] m) {key : String}
    (hkey : key ∈ names [(f.name, a), (g.name, b)]) (hfront : key ∈ front.map Prod.fst)
    (record : String) (v : Json) (back : Members) :
    ∃ name ∈ names [(f.name, a), (g.name, b)], ∃ tail,
      readRecord record f g (chars (.object (front ++ (key, v) :: back))) =
        failAt (.duplicateField name) tail := by
  obtain ⟨fuel, hread⟩ := readRecord_chars (f := f) (g := g) record
    (show front.length ≤ (front ++ (key, v) :: back).length by simp)
    (show Blank [] from List.forall_mem_nil _) []
  rw [List.nil_append, List.append_nil] at hread
  rw [hread]
  by_cases hunrepeated : Unrepeated [(f.name, a), (g.name, b)] front
  · obtain ⟨tail, hagain⟩ := readFields_again (x := x) (y := y) (v := v) hkey hfront fuel back []
    exact ⟨key, hkey, tail, (readFields_run h hadmitted hunrepeated _ _ []).trans hagain⟩
  · exact readFields_repeated h hadmitted hunrepeated _ _ []

end

/-! ## Whole texts -/

theorem parseWith_compact {read : List Char → Read γ} {written : Json} {value : γ}
    (h : Reads read (chars written) value) : parseWith read (compact written) = .ok value := by
  have hwhole := parseWith_of_reads h (show Blank [] from List.forall_mem_nil _)
  rwa [List.append_nil] at hwhole

theorem parseWith_of_failed {read : List Char → Read γ} {text : String} {cause : Cause}
    (h : ∃ tail, read text.toList = failAt cause tail) :
    ∃ e, parseWith read text = .error e ∧ e.cause = cause := by
  obtain ⟨tail, htail⟩ := h
  rw [parseWith, htail]
  exact ⟨_, rfl, rfl⟩

/-- A record of two fields is decoded from all its forms, and refused if a field comes again. -/
theorem decodesForms {f : Field α} {g : Field β} {a b : Json} {x : α} {y : β}
    (h : ReadsFields f g a b x y) (ha : Canonical 0 a) (hb : Canonical 0 b) (record : String)
    (make : α × β → γ) :
    DecodesForms (parseWith fun text => (readRecord record f g text).map make)
      (.object [(f.name, a), (g.name, b)]) (make (x, y)) where
  own := parseWith_compact ((readRecord_object h (.refl _) record).map make)
  row := parseWith_compact ((readRecord_row h ha hb record).map make)
  object _ hmembers := parseWith_compact ((readRecord_object h hmembers record).map make)
  repeated front key v back hadmitted hkey hfront := by
    obtain ⟨name, hname, tail, hread⟩ :=
      readRecord_repeated h hadmitted hkey hfront record v back
    obtain ⟨e, he, hcause⟩ : ∃ e, parseWith (fun text => (readRecord record f g text).map make)
        (compact (.object (front ++ (key, v) :: back))) = .error e ∧
          e.cause = .duplicateField name := by
      refine parseWith_of_failed ⟨tail, ?_⟩
      rw [compact, String.toList_ofList, hread]
      rfl
    exact ⟨e, he, by rw [hcause]; rfl, name, hname, hcause⟩

end NotificationTap.Json
