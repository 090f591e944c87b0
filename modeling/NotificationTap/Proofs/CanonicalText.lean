import NotificationTap.Proofs.Except
import NotificationTap.Proofs.Json.Returned
import NotificationTap.Proofs.Transport

/-!
# The text of a payload as its canonical form

A payload may come in many texts: with blanks, escapes, members in any order, and several members
with one key. It is written in one.

* `Payload.canonical_of_parse`: a payload that was parsed is canonical if it is without doubles.
* `Payload.beq_iff_eq`: such a payload equals itself only.
* `Payload.text_canonical`: it is read back from its text, and two of them are equal exactly if they
  have one text.
-/

namespace NotificationTap.Payload

open Json

variable {text : String} {payload other : Payload}

/-- A payload that was parsed is canonical if there are no doubles in it. -/
theorem canonical_of_parse (h : parse text = .ok payload)
    (whole : ∀ m ∈ payload.members, WholeNumbers m.2) :
    Canonical maxDepth (.object payload.members) := by
  obtain ⟨members, hparse, rfl⟩ := Except.map_eq_ok.mp h
  exact parseObject_canonical hparse whole

/-- A payload without doubles equals itself only. -/
theorem beq_iff_eq (whole : ∀ m ∈ payload.members, WholeNumbers m.2) (other : Payload) :
    (payload == other) = true ↔ payload = other := by
  obtain ⟨members⟩ := payload
  obtain ⟨others⟩ := other
  rw [Payload.mk.injEq]
  exact beqMembers_iff_eq whole others

/-- Canonical payloads with one text are one payload: it is the one that is read from the text. -/
theorem eq_of_text_eq (hp : Canonical maxDepth (.object payload.members))
    (hq : Canonical maxDepth (.object other.members)) (h : payload.text = other.text) :
    payload = other := by
  have hread := parse_text hp
  rw [h, parse_text hq] at hread
  exact (Except.ok.inj hread).symm

/-- A payload that was parsed from any text, without doubles in it, is read back from its own text:
that text is accepted, and what is read is the payload itself, with its custom mapping, its
decisions and its text. Two payloads of that kind are equal exactly if they have one text. -/
theorem text_canonical (accepted : parse text = .ok payload)
    (whole : ∀ m ∈ payload.members, WholeNumbers m.2) :
    parse payload.text = .ok payload ∧
    ∀ otherText other, parse otherText = .ok other → (∀ m ∈ other.members, WholeNumbers m.2) →
      ((payload == other) = true ↔ payload.text = other.text) := by
  have hcanonical := canonical_of_parse accepted whole
  refine ⟨parse_text hcanonical, fun otherText other haccepted hwhole => ?_⟩
  rw [beq_iff_eq whole]
  constructor
  · rintro rfl
    rfl
  · exact eq_of_text_eq hcanonical (canonical_of_parse haccepted hwhole)

/-- A payload's text with blanks, an escape, keys out of order, and a key that is there twice. -/
def looseText : String :=
  " \x7b\"b\" : [1,\x7b\"z\":-5,\"a\":\"\\u00e9\"\x7d],\n\"a\":null, \"a\":18446744073709551615\x7d"

/-- The payload of that text. -/
def loosePayload : Payload :=
  ⟨[("a", .number (.integer 18446744073709551615)),
    ("b", .array [.number (.integer 1),
      .object [("a", .string "é"), ("z", .number (.integer (-5)))]])]⟩

theorem loosePayload_whole : ∀ m ∈ loosePayload.members, WholeNumbers m.2 :=
  List.forall_mem_cons.mpr ⟨.integer _, List.forall_mem_cons.mpr ⟨.array
    (List.forall_mem_cons.mpr ⟨.integer _, List.forall_mem_cons.mpr ⟨.object
      (List.forall_mem_cons.mpr ⟨.string _, List.forall_mem_cons.mpr ⟨.integer _,
        List.forall_mem_nil _⟩⟩), List.forall_mem_nil _⟩⟩), List.forall_mem_nil _⟩⟩

/-- The loose text is accepted, and what is written for its payload is read back as the same. -/
theorem text_canonical_loose :
    parse looseText = .ok loosePayload ∧ loosePayload.text ≠ looseText ∧
    parse loosePayload.text = .ok loosePayload := by
  have haccepted : parse looseText = .ok loosePayload := by
    have hread : (parse looseText).toOption.any (loosePayload == ·) = true := by decide +kernel
    obtain ⟨read, hsome, hbeq⟩ := (Option.any_eq_true _ _).mp hread
    rw [(beq_iff_eq loosePayload_whole read).mp hbeq]
    exact Except.toOption_eq_some.mp hsome
  exact ⟨haccepted, by decide +kernel, (text_canonical haccepted loosePayload_whole).1⟩

end NotificationTap.Payload
