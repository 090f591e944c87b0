import NotificationTap.Proofs.Json.Persistence

/-!
# Texts that go on

What has been read as a value is read again from a text that goes on after it.

* `PersistsWith`: this holds of all values read with some fuel, if the text that goes on is read
  with other fuel. `PersistsWith.value_succ`, `items_succ`, `members_succ`: so it does with one more
  of each. `persistsWith`: it does if there is at least as much fuel.
* `persists_readObject`: an object is read from a text that goes on.
* `parseObject_append`: if a text and a longer one are both objects, they are the same one, and
  blanks are all that the longer text adds.
-/

namespace NotificationTap.Json

/-! ## Values -/

/-- What is read with some fuel is read with other fuel from a text that goes on. -/
structure PersistsWith (fuel fuel' : Nat) : Prop where
  value : ∀ depth, PersistsInside (readValue fuel depth) (readValue fuel' depth)
  items : ∀ depth {ahead : List Char → Read Bool}, Persists ahead ahead →
    Persists (fun text => readItems fuel depth (ahead text))
      fun text => readItems fuel' depth (ahead text)
  members : ∀ depth {ahead : List Char → Read Bool} (before : Members), Persists ahead ahead →
    Persists (fun text => readMembers fuel depth (ahead text) before)
      fun text => readMembers fuel' depth (ahead text) before

variable {fuel fuel' depth : Nat} {text rest : List Char}

/-- What follows an item is not at the end of the text. -/
theorem readItems_nextItem_nil {items : List Json} :
    readItems fuel depth (nextItem []) ≠ .done items rest := by
  cases fuel <;> nofun

/-- What follows a member is not at the end of the text. -/
theorem readMembers_nextMember_nil {before members : Members} :
    readMembers fuel depth (nextMember []) before ≠ .done members rest := by
  cases fuel <;> nofun

theorem PersistsWith.zero (fuel' : Nat) : PersistsWith 0 fuel' where
  value _ _ _ _ h := absurd h failNext_ne_done
  items _ _ _ _ _ _ h := absurd h failNext_ne_done
  members _ _ _ _ _ _ _ h := absurd h failNext_ne_done

theorem PersistsWith.items_succ (h : PersistsWith fuel fuel') (depth : Nat)
    {ahead : List Char → Read Bool} (hahead : Persists ahead ahead) :
    Persists (fun text => readItems (fuel + 1) depth (ahead text))
      fun text => readItems (fuel' + 1) depth (ahead text) := by
  simp only [readItems]
  refine hahead.andThen fun follows => ?_
  cases follows with
  | false => exact persists_done []
  | true =>
    exact (h.value depth).andThen (fun x => (h.items depth persists_nextItem).map (x :: ·))
      fun x items rest hread => by
        obtain ⟨_, hread, -⟩ := Read.map_eq_done.mp hread
        exact readItems_nextItem_nil hread

theorem PersistsWith.members_succ (h : PersistsWith fuel fuel') (depth : Nat)
    {ahead : List Char → Read Bool} (before : Members) (hahead : Persists ahead ahead) :
    Persists (fun text => readMembers (fuel + 1) depth (ahead text) before)
      fun text => readMembers (fuel' + 1) depth (ahead text) before := by
  simp only [readMembers]
  refine hahead.andThen fun follows => ?_
  cases follows with
  | false => exact persists_done before
  | true =>
    exact persists_unquote.andThen fun key => persists_readColon.andThen fun _ =>
      (h.value depth).andThen (fun x => h.members depth _ persists_nextMember)
        fun x members rest => readMembers_nextMember_nil

theorem PersistsWith.value_succ (h : PersistsWith fuel fuel') (depth : Nat) :
    PersistsInside (readValue (fuel + 1) depth) (readValue (fuel' + 1) depth) := by
  intro text value rest hread hne more
  rw [readValue] at hread ⊢
  cases hskip : skipBlanks text with
  | nil =>
    rw [hskip] at hread
    exact absurd hread failNext_ne_done
  | cons c back =>
    rw [hskip] at hread
    rw [skipBlanks_append_of_cons hskip]
    dsimp only at hread ⊢
    split_ifs at hread ⊢
    · exact (persists_readWord _).map _ hread more
    · exact (persists_readWord _).map _ hread more
    · exact (persists_readWord _).map _ hread more
    · exact persists_unquote.map _ hread more
    · exact (persistsInside_readNumber true).map _ hread hne more
    · exact (persistsInside_readNumber false).map _ hread hne more
    · cases depth with
      | zero => exact absurd hread failNext_ne_done
      | succ depth => exact (h.items depth persists_firstItem).map _ hread more
    · cases depth with
      | zero => exact absurd hread failNext_ne_done
      | succ depth => exact (h.members depth [] persists_firstMember).map _ hread more
    · exact absurd hread failNext_ne_done

/-- With as much fuel or more, everything is read again: one more of fuel on both sides leaves the
difference as it was. -/
theorem persistsWith (h : fuel ≤ fuel') : PersistsWith fuel fuel' := by
  induction fuel generalizing fuel' with
  | zero => exact .zero fuel'
  | succ fuel ih =>
    obtain ⟨fuel', rfl⟩ := Nat.exists_eq_add_one_of_ne_zero (n := fuel') (by omega)
    have hless := ih (Nat.le_of_succ_le_succ h)
    exact ⟨hless.value_succ, hless.items_succ, hless.members_succ⟩

/-! ## Objects -/

theorem readObject_eq_done {members : Members} : readObject text = .done members rest ↔
    ∃ back, skipBlanks text = '{' :: back ∧
      readMembers (enoughFuel back) (maxDepth - 1) (firstMember back) [] = .done members rest := by
  rw [readObject]
  cases skipBlanks text with
  | nil => simp
  | cons c back =>
    by_cases hbrace : c = '{'
    · simp [hbrace]
    · simp [hbrace, readMismatch_ne_done]

/-- An object is read to its closing brace, whatever follows that. A longer text is read with more
fuel. -/
theorem persists_readObject : Persists readObject readObject := by
  intro text members rest h more
  rw [readObject_eq_done] at h ⊢
  obtain ⟨back, hbrace, hread⟩ := h
  have hfuel : enoughFuel back ≤ enoughFuel (back ++ more) := by
    simp only [enoughFuel, List.length_append]
    omega
  exact ⟨back ++ more, skipBlanks_append_of_cons hbrace more,
    (persistsWith hfuel).members _ [] persists_firstMember hread more⟩

/-- If a text and a longer one are both objects, they are the same one, and blanks are all that the
longer text adds. -/
theorem parseObject_append {front whole : String} {members others : Members} {more : List Char}
    (hfront : parseObject front = .ok members) (hwhole : parseObject whole = .ok others)
    (h : whole.toList = front.toList ++ more) : others = members ∧ Blank more := by
  obtain ⟨blanks, hread, -⟩ := parseWith_eq_ok.mp hfront
  obtain ⟨blanks', hread', hblank⟩ := parseWith_eq_ok.mp hwhole
  rw [h, persists_readObject hread more] at hread'
  obtain ⟨rfl, rfl⟩ := Read.done.inj hread'
  exact ⟨rfl, fun c hc => hblank c (List.mem_append_right _ hc)⟩

end NotificationTap.Json
