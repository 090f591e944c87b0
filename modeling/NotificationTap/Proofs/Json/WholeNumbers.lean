import NotificationTap.Json.Basic

/-!
# Values without doubles

* `WholeNumbers`: every number in a value is an integer, at any depth. Of objects nothing else is
  asked: a key may be there twice, and in any order.
* `WholeNumbers.beq_iff_eq`, `beqMembers_iff_eq`: where there are no doubles, equality is identity.
-/

namespace NotificationTap.Json

/-- Every number in the value is an integer, whatever its size. -/
inductive WholeNumbers : Json → Prop where
  | null : WholeNumbers .null
  | bool (value : Bool) : WholeNumbers (.bool value)
  | integer (n : Int) : WholeNumbers (.number (.integer n))
  | string (value : String) : WholeNumbers (.string value)
  | array {items : List Json} (whole : ∀ x ∈ items, WholeNumbers x) : WholeNumbers (.array items)
  | object {members : Members} (whole : ∀ m ∈ members, WholeNumbers m.2) :
    WholeNumbers (.object members)

theorem wholeNumbers_array_iff {items : List Json} :
    WholeNumbers (.array items) ↔ ∀ x ∈ items, WholeNumbers x :=
  ⟨fun | .array whole => whole, .array⟩

theorem wholeNumbers_object_iff {members : Members} :
    WholeNumbers (.object members) ↔ ∀ m ∈ members, WholeNumbers m.2 :=
  ⟨fun | .object whole => whole, .object⟩

/-! ## Equality -/

theorem beqItems_iff_eq {xs : List Json} (h : ∀ x ∈ xs, ∀ y, beq x y = true ↔ x = y)
    (ys : List Json) : beqItems xs ys = true ↔ xs = ys := by
  induction xs generalizing ys with
  | nil => cases ys <;> simp [beqItems]
  | cons x xs ih =>
    cases ys with
    | nil => simp [beqItems]
    | cons y ys =>
      simp only [beqItems, Bool.and_eq_true, List.cons.injEq]
      rw [h x List.mem_cons_self y, ih fun z hz => h z (List.mem_cons_of_mem x hz)]

theorem beqMembers_iff_eq_of_forall {ms : Members} (h : ∀ m ∈ ms, ∀ y, beq m.2 y = true ↔ m.2 = y)
    (ns : Members) : beqMembers ms ns = true ↔ ms = ns := by
  induction ms generalizing ns with
  | nil => cases ns <;> simp [beqMembers]
  | cons m ms ih =>
    obtain ⟨k, x⟩ := m
    cases ns with
    | nil => simp [beqMembers]
    | cons n ns =>
      obtain ⟨l, y⟩ := n
      simp only [beqMembers, Bool.and_eq_true, beq_iff_eq, List.cons.injEq, Prod.mk.injEq]
      rw [h (k, x) List.mem_cons_self y, ih fun n hn => h n (List.mem_cons_of_mem _ hn)]

/-- Without doubles, equality is identity. -/
theorem WholeNumbers.beq_iff_eq {x : Json} (h : WholeNumbers x) (y : Json) :
    beq x y = true ↔ x = y := by
  induction h generalizing y with
  | null => cases y <;> simp [beq]
  | bool value => cases y <;> simp [beq]
  | integer n =>
    cases y with
    | number m => cases m <;> simp [beq, Number.beq]
    | _ => simp [beq]
  | string value => cases y <;> simp [beq]
  | array _ ih =>
    cases y with
    | array ys => simp only [beq, Json.array.injEq, beqItems_iff_eq ih]
    | _ => simp [beq]
  | object _ ih =>
    cases y with
    | object ns => simp only [beq, Json.object.injEq, beqMembers_iff_eq_of_forall ih]
    | _ => simp [beq]

theorem beqMembers_iff_eq {ms : Members} (h : ∀ m ∈ ms, WholeNumbers m.2) (ns : Members) :
    beqMembers ms ns = true ↔ ms = ns :=
  beqMembers_iff_eq_of_forall (fun m hm => (h m hm).beq_iff_eq) ns

end NotificationTap.Json
