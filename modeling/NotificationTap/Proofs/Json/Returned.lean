import NotificationTap.Proofs.Json.Continuation
import NotificationTap.Proofs.Json.WholeNumbers

/-!
# What readers return

Whatever the text, a value that a reader returns is canonical, but for doubles in it.

* `readNumber_integer`: an integer that is read fits 64 bits.
* `ReturnsCanonical`: this holds of all values, items and members read with some fuel.
  `ReturnsCanonical.value_succ`, `items_succ`, `members_succ`: so it does with one more of it.
* `parseObject_canonical`: the members of an object that is read are canonical if there are no
  doubles among them. A double that another member has taken the place of does not count.
-/

namespace NotificationTap.Json

/-! ## Integers -/

section

variable {negative : Bool} {significand : Nat} {exponent n : Int} {text rest : List Char}

theorem finishDouble_ne_integer :
    finishDouble negative significand exponent text ≠ .done (.integer n) rest := by
  unfold finishDouble
  split <;> simp

theorem readExponent_ne_integer :
    readExponent negative significand exponent text ≠ .done (.integer n) rest := by
  rw [readExponent_eq]
  unfold readPower
  split
  · simp
  · split
    · rw [endExponent]
      split_ifs <;> simp [finishDouble_ne_integer]
    · simp

theorem readFraction_ne_integer :
    readFraction negative significand exponent text ≠ .done (.integer n) rest := by
  rw [readFraction]
  split
  · dsimp only
    unfold readScale
    split
    · exact readExponent_ne_integer
    · exact readExponent_ne_integer
    · exact finishDouble_ne_integer
  · simp

/-- A number that goes on after its whole digits is a double. -/
theorem readTail_integer {extra : Nat}
    (h : readTail negative significand extra text = .done (.integer n) rest) :
    exactInteger negative significand = .integer n := by
  revert h
  fun_cases readTail negative significand extra text with
  | case1 tail => exact fun h => absurd h readFraction_ne_integer
  | case2 tail => exact fun h => absurd h readExponent_ne_integer
  | case3 tail => exact fun h => absurd h readExponent_ne_integer
  | case4 => exact fun h => (Read.done.inj h).1
  | case5 => exact fun h => absurd h finishDouble_ne_integer

theorem absorb_le {limit acc : Nat} (h : acc ≤ limit) (text : List Char) :
    (absorb limit acc text).1 ≤ limit := by
  fun_induction absorb limit acc text with
  | case1 acc => exact h
  | case2 acc c tail hdigit hle ih => exact ih hle
  | case3 acc c tail hdigit hle => exact h
  | case4 acc c tail hdigit => exact h

theorem fitsWord_of_exactInteger (hle : significand ≤ maxSignificand)
    (h : exactInteger negative significand = .integer n) : FitsWord n := by
  have h63 : twoTo 63 = 9223372036854775808 := by decide
  have h64 : twoTo 64 = 18446744073709551616 := by decide
  rw [maxSignificand] at hle
  unfold exactInteger at h
  split at h
  · obtain rfl := Number.integer.inj h
    exact ⟨by omega, by omega⟩
  · split at h
    · rename_i hsmall
      obtain rfl := Number.integer.inj h
      exact ⟨by omega, by omega⟩
    · cases h

/-- An integer that is read fits 64 bits: no more digits are absorbed than that. -/
theorem readNumber_integer (h : readNumber negative text = .done (.integer n) rest) :
    FitsWord n := by
  cases text with
  | nil => cases h
  | cons c tail =>
    rw [readNumber] at h
    split at h
    · split at h
      · cases h
      · exact fitsWord_of_exactInteger (Nat.zero_le _) (readTail_integer h)
    · split at h
      · dsimp only at h
        exact fitsWord_of_exactInteger (absorb_le (Nat.zero_le _) _) (readTail_integer h)
      · cases h

theorem canonical_number {depth : Nat} {number : Number}
    (h : readNumber negative text = .done number rest) (hwhole : WholeNumbers (.number number)) :
    Canonical depth (.number number) := by
  cases hwhole
  exact .integer (readNumber_integer h)

end

/-! ## Values -/

/-- What is read with some fuel is canonical, but for doubles. Members are stored after those
already read, and sorted if these are. -/
structure ReturnsCanonical (fuel : Nat) : Prop where
  value : ∀ {depth text value rest}, readValue fuel depth text = .done value rest →
    WholeNumbers value → Canonical depth value
  items : ∀ {depth ahead items rest}, readItems fuel depth ahead = .done items rest →
    ∀ x ∈ items, WholeNumbers x → Canonical depth x
  members : ∀ {depth ahead before members rest},
    readMembers fuel depth ahead before = .done members rest → Sorted before →
    (∀ m ∈ before, WholeNumbers m.2 → Canonical depth m.2) →
    Sorted members ∧ ∀ m ∈ members, WholeNumbers m.2 → Canonical depth m.2

namespace ReturnsCanonical

variable {fuel depth : Nat} {ahead : Read Bool} {text rest : List Char}

theorem zero : ReturnsCanonical 0 where
  value h := absurd h failNext_ne_done
  items h := absurd h failNext_ne_done
  members h := absurd h failNext_ne_done

theorem items_succ (h : ReturnsCanonical fuel) {items : List Json}
    (hread : readItems (fuel + 1) depth ahead = .done items rest) :
    ∀ x ∈ items, WholeNumbers x → Canonical depth x := by
  rw [readItems] at hread
  obtain ⟨follows, back, -, hread⟩ := Read.andThen_eq_done.mp hread
  cases follows with
  | false =>
    obtain ⟨rfl, -⟩ := Read.done.inj hread
    exact List.forall_mem_nil _
  | true =>
    obtain ⟨x, tail, hx, hread⟩ := Read.andThen_eq_done.mp hread
    obtain ⟨xs, hxs, rfl⟩ := Read.map_eq_done.mp hread
    exact List.forall_mem_cons.mpr ⟨h.value hx, h.items hxs⟩

theorem members_succ (h : ReturnsCanonical fuel) {before members : Members}
    (hread : readMembers (fuel + 1) depth ahead before = .done members rest)
    (hsorted : Sorted before) (hbefore : ∀ m ∈ before, WholeNumbers m.2 → Canonical depth m.2) :
    Sorted members ∧ ∀ m ∈ members, WholeNumbers m.2 → Canonical depth m.2 := by
  rw [readMembers] at hread
  obtain ⟨follows, back, -, hread⟩ := Read.andThen_eq_done.mp hread
  cases follows with
  | false =>
    obtain ⟨rfl, -⟩ := Read.done.inj hread
    exact ⟨hsorted, hbefore⟩
  | true =>
    obtain ⟨key, _, -, hread⟩ := Read.andThen_eq_done.mp hread
    obtain ⟨_, _, -, hread⟩ := Read.andThen_eq_done.mp hread
    obtain ⟨x, tail, hx, hread⟩ := Read.andThen_eq_done.mp hread
    refine h.members hread (hsorted.insert _ x) fun m hm => ?_
    rcases mem_insert hm with rfl | hm
    · exact h.value hx
    · exact hbefore m hm

theorem value_succ (h : ReturnsCanonical fuel) {value : Json}
    (hread : readValue (fuel + 1) depth text = .done value rest) (hwhole : WholeNumbers value) :
    Canonical depth value := by
  rw [readValue] at hread
  cases hskip : skipBlanks text with
  | nil =>
    rw [hskip] at hread
    exact absurd hread failNext_ne_done
  | cons c back =>
    rw [hskip] at hread
    dsimp only at hread
    -- The first character tells what was read.
    split_ifs at hread
    · obtain ⟨_, -, rfl⟩ := Read.map_eq_done.mp hread
      exact .null
    · obtain ⟨_, -, rfl⟩ := Read.map_eq_done.mp hread
      exact .bool true
    · obtain ⟨_, -, rfl⟩ := Read.map_eq_done.mp hread
      exact .bool false
    · obtain ⟨s, -, rfl⟩ := Read.map_eq_done.mp hread
      exact .string _
    · obtain ⟨number, hnumber, rfl⟩ := Read.map_eq_done.mp hread
      exact canonical_number hnumber hwhole
    · obtain ⟨number, hnumber, rfl⟩ := Read.map_eq_done.mp hread
      exact canonical_number hnumber hwhole
    · cases depth with
      | zero => exact absurd hread failNext_ne_done
      | succ depth =>
        obtain ⟨items, hitems, rfl⟩ := Read.map_eq_done.mp hread
        rw [wholeNumbers_array_iff] at hwhole
        exact .array fun x hx => h.items hitems x hx (hwhole x hx)
    · cases depth with
      | zero => exact absurd hread failNext_ne_done
      | succ depth =>
        obtain ⟨members, hmembers, rfl⟩ := Read.map_eq_done.mp hread
        obtain ⟨hsorted, hcanonical⟩ :=
          h.members hmembers List.Pairwise.nil (List.forall_mem_nil _)
        rw [wholeNumbers_object_iff] at hwhole
        exact .object hsorted fun m hm => hcanonical m hm (hwhole m hm)
    · exact absurd hread failNext_ne_done

end ReturnsCanonical

theorem returnsCanonical (fuel : Nat) : ReturnsCanonical fuel := by
  induction fuel with
  | zero => exact .zero
  | succ fuel ih => exact ⟨ih.value_succ, ih.items_succ, ih.members_succ⟩

/-! ## Objects -/

/-- The members of an object that is read are canonical if there are no doubles among them. -/
theorem parseObject_canonical {text : String} {members : Members}
    (h : parseObject text = .ok members) (hwhole : ∀ m ∈ members, WholeNumbers m.2) :
    Canonical maxDepth (.object members) := by
  obtain ⟨blanks, hread, -⟩ := parseWith_eq_ok.mp h
  obtain ⟨back, -, hmembers⟩ := readObject_eq_done.mp hread
  obtain ⟨hsorted, hcanonical⟩ :=
    (returnsCanonical _).members hmembers List.Pairwise.nil (List.forall_mem_nil _)
  exact .object hsorted fun m hm => hcanonical m hm (hwhole m hm)

end NotificationTap.Json
