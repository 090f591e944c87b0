import NotificationTap.Proofs.Json.Scalar

/-!
# Sorted members and canonical values

* `Sorted`: the keys of members increase, as those of every object that is read do.
* `lookup_insert_self`, `lookup_insert_of_ne`, `Sorted.insert`: storing a member changes what is found under its key only, and
  keeps members sorted.
* `insert_eq_append`: a key above all others is stored at the end.
* `Canonical limit`: values as a reader returns them, doubles excepted. Integers fit 64 bits,
  objects are sorted, and at most `limit` arrays and objects are nested in each other.
-/

namespace NotificationTap.Json

/-! ## Sorted members -/

/-- The keys increase. -/
def Sorted (members : Members) : Prop := members.Pairwise fun m n => m.1 < n.1

instance (members : Members) : Decidable (Sorted members) :=
  inferInstanceAs (Decidable (members.Pairwise _))

theorem mem_insert {key : String} {value : Json} {members : Members} {m : String × Json}
    (h : m ∈ insert key value members) : m = (key, value) ∨ m ∈ members := by
  induction members with
  | nil => exact .inl (List.mem_singleton.mp h)
  | cons head rest ih =>
    obtain ⟨k, v⟩ := head
    rw [insert] at h
    split at h
    · exact List.mem_cons.mp h
    split at h
    · exact (List.mem_cons.mp h).imp_right (List.mem_cons_of_mem _)
    · rcases List.mem_cons.mp h with rfl | h
      · exact .inr List.mem_cons_self
      · exact (ih h).imp_right (List.mem_cons_of_mem _)

theorem lookup_cons_of_ne {key other : String} (h : other ≠ key) (value : Json) (rest : Members) :
    ((key, value) :: rest).lookup other = rest.lookup other := by
  rw [List.lookup_cons, beq_false_of_ne h]

theorem lookup_insert_self (key : String) (value : Json) (members : Members) :
    (insert key value members).lookup key = some value := by
  induction members with
  | nil => exact List.lookup_cons_self
  | cons head rest ih =>
    obtain ⟨k, v⟩ := head
    rw [Json.insert]
    split
    · exact List.lookup_cons_self
    split
    · exact List.lookup_cons_self
    · rename_i hk
      rw [lookup_cons_of_ne hk, ih]

theorem lookup_insert_of_ne {key other : String} (h : other ≠ key) (value : Json)
    (members : Members) : (insert key value members).lookup other = members.lookup other := by
  induction members with
  | nil => exact lookup_cons_of_ne h value []
  | cons head rest ih =>
    obtain ⟨k, v⟩ := head
    rw [Json.insert]
    split
    · exact lookup_cons_of_ne h value _
    split
    · rename_i hk
      subst hk
      rw [lookup_cons_of_ne h, lookup_cons_of_ne h]
    · rw [List.lookup_cons, List.lookup_cons, ih]

theorem Sorted.insert {members : Members} (h : Sorted members) (key : String) (value : Json) :
    Sorted (Json.insert key value members) := by
  induction members with
  | nil => exact List.pairwise_singleton _ _
  | cons head rest ih =>
    obtain ⟨k, v⟩ := head
    obtain ⟨hk, hrest⟩ := List.pairwise_cons.mp h
    rw [Json.insert]
    split
    · rename_i hlt
      refine List.pairwise_cons.mpr ⟨fun m hm => ?_, h⟩
      rcases List.mem_cons.mp hm with rfl | hm
      · exact hlt
      · exact String.lt_trans hlt (hk m hm)
    split
    · rename_i heq
      subst heq
      exact List.pairwise_cons.mpr ⟨hk, hrest⟩
    · rename_i hlt hne
      refine List.pairwise_cons.mpr ⟨fun m hm => ?_, ih hrest⟩
      rcases mem_insert hm with rfl | hm
      · exact Std.lt_of_le_of_ne (Std.not_lt.mp hlt) (Ne.symm hne)
      · exact hk m hm

/-- A key above all others is stored at the end. -/
theorem insert_eq_append {key : String} {members : Members} (h : ∀ m ∈ members, m.1 < key)
    (value : Json) : insert key value members = members ++ [(key, value)] := by
  induction members with
  | nil => rfl
  | cons head rest ih =>
    obtain ⟨k, v⟩ := head
    have hlt : k < key := h (k, v) List.mem_cons_self
    have hne : key ≠ k := fun heq => String.lt_irrefl k (heq ▸ hlt)
    rw [insert, if_neg (fun hgt => String.lt_irrefl k (String.lt_trans hlt hgt)), if_neg hne,
      ih fun m hm => h m (List.mem_cons_of_mem _ hm)]
    rfl

/-- Sorted members stay the same when the last of the first ones is stored again. -/
theorem insert_of_sorted {front back : Members} {m : String × Json}
    (h : Sorted (front ++ m :: back)) : insert m.1 m.2 front = front ++ [m] :=
  insert_eq_append (fun n hn => (List.pairwise_append.mp h).2.2 n hn m List.mem_cons_self) m.2

/-! ## Canonical values -/

/-- A value as a reader returns it, doubles excepted. Integers fit 64 bits, objects are sorted, and
at most `limit` arrays and objects are nested in each other, the value itself counted. -/
inductive Canonical : Nat → Json → Prop where
  | null {limit : Nat} : Canonical limit .null
  | bool {limit : Nat} (value : Bool) : Canonical limit (.bool value)
  | integer {limit : Nat} {n : Int} (fits : FitsWord n) : Canonical limit (.number (.integer n))
  | string {limit : Nat} (value : String) : Canonical limit (.string value)
  | array {limit : Nat} {items : List Json} (canonical : ∀ x ∈ items, Canonical limit x) :
    Canonical (limit + 1) (.array items)
  | object {limit : Nat} {members : Members} (sorted : Sorted members)
    (canonical : ∀ m ∈ members, Canonical limit m.2) : Canonical (limit + 1) (.object members)

theorem Canonical.mono {limit bound : Nat} {value : Json} (h : Canonical limit value)
    (hle : limit ≤ bound) : Canonical bound value := by
  induction h generalizing bound with
  | null => exact .null
  | bool value => exact .bool value
  | integer fits => exact .integer fits
  | string value => exact .string value
  | array _ ih =>
    obtain ⟨b, rfl⟩ : ∃ b, bound = b + 1 := ⟨bound - 1, by omega⟩
    exact .array fun x hx => ih x hx (by omega)
  | object sorted _ ih =>
    obtain ⟨b, rfl⟩ : ∃ b, bound = b + 1 := ⟨bound - 1, by omega⟩
    exact .object sorted fun m hm => ih m hm (by omega)

theorem canonical_object_iff {limit : Nat} {members : Members} :
    Canonical (limit + 1) (.object members) ↔
      Sorted members ∧ ∀ m ∈ members, Canonical limit m.2 :=
  ⟨fun | .object sorted canonical => ⟨sorted, canonical⟩, fun ⟨hs, hc⟩ => .object hs hc⟩

/-- Storing a canonical value in a canonical object gives a canonical object. -/
theorem Canonical.insert {limit : Nat} {members : Members} {value : Json}
    (hm : Canonical (limit + 1) (.object members)) (key : String) (hv : Canonical limit value) :
    Canonical (limit + 1) (.object (Json.insert key value members)) := by
  obtain ⟨hs, hc⟩ := canonical_object_iff.mp hm
  refine .object (hs.insert key value) fun m hmem => ?_
  rcases mem_insert hmem with rfl | hmem
  · exact hv
  · exact hc m hmem

end NotificationTap.Json
