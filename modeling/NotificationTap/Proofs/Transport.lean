import NotificationTap.Proofs.Json.ReadBack
import NotificationTap.Resolver

/-!
# The two transports of a custom mapping

A payload carries its custom mapping as a JSON object or as a string with the text of one.

* `Payload.withCustom`: members of a payload with a `custom` member among them.
* `Payload.parse_text`: the text of a canonical payload is read back.
* `resolve_congr`: a decision depends on the custom mapping and the settings only.
* `transports_agree`: for one mapping, both texts are accepted, and give the same mapping and the
  same decisions.
-/

namespace NotificationTap

open Json

/-- The members of a payload with a `custom` member among them, in place of an earlier one. -/
def Payload.withCustom (rest : Members) (custom : Json) : Payload := ⟨insert customKey custom rest⟩

/-- The text of a canonical payload is read back. -/
theorem Payload.parse_text {payload : Payload} (h : Canonical maxDepth (.object payload.members)) :
    Payload.parse payload.text = .ok payload := by
  rw [Payload.parse, Payload.text, parseObject_compact h]
  rfl

/-- The string with a mapping's text stands for that mapping. -/
theorem CustomData.parse_compact {mapping : Members} (h : Canonical maxDepth (.object mapping)) :
    CustomData.parse (.string (compact (.object mapping))) = .ok ⟨mapping⟩ := by
  rw [CustomData.parse, parseObject_compact h]

theorem Payload.customData_withCustom {custom : Json} {data : CustomData} (rest : Members)
    (h : CustomData.parse custom = .ok data) :
    (Payload.withCustom rest custom).customData = data := by
  rw [Payload.customData, Payload.withCustom, lookup_insert_self]
  simp only [h]

/-- A decision depends on the custom mapping and the settings only. -/
theorem resolve_congr {p q : Payload} (h : p.customData = q.customData) (settings : Settings) :
    resolve settings p = resolve settings q := by
  simp only [resolve, resolveWith, inAppPreview, h]

/-- A mapping carried as an object and the same mapping carried as a string with its text: both
payloads are read back from their texts, both hold the mapping, and they decide alike. The mapping
is nested at most 126 deep, itself counted, and so is each other member of the payload. -/
theorem transports_agree {rest mapping : Members} (hs : Sorted rest)
    (hrest : ∀ m ∈ rest, Canonical 126 m.2) (hm : Canonical 126 (.object mapping)) :
    ∃ p q : Payload,
      Payload.parse (Payload.withCustom rest (.object mapping)).text = .ok p ∧
      Payload.parse (Payload.withCustom rest (.string (compact (.object mapping)))).text = .ok q ∧
      p.customData = ⟨mapping⟩ ∧ q.customData = ⟨mapping⟩ ∧
      ∀ settings, resolve settings p = resolve settings q := by
  have hobject : Canonical maxDepth (.object rest) := .object hs hrest
  have hdata : CustomData.parse (.string (compact (.object mapping))) = .ok ⟨mapping⟩ :=
    CustomData.parse_compact (hm.mono (by decide))
  have hp : (Payload.withCustom rest (.object mapping)).customData = ⟨mapping⟩ :=
    Payload.customData_withCustom rest rfl
  have hq := Payload.customData_withCustom rest hdata
  exact ⟨_, _, Payload.parse_text (hobject.insert customKey hm),
    Payload.parse_text (hobject.insert customKey (.string _)), hp, hq,
    resolve_congr (hp.trans hq.symm)⟩

/-- Members beside the mapping. -/
def sampleRest : Members :=
  [("badge", .number (.integer (-9223372036854775808))), ("title", .string "5 \"new\"\n😀")]

/-- Additional data with a backslash in a key. -/
def sampleData : Members :=
  [("k\\", .array [.null, .number (.integer 18446744073709551615)])]

/-- A mapping with padding around its URL. -/
def sampleMapping : Members :=
  [("a", .object sampleData), ("u", .string "\thttps://example.com/é\x01")]

/-- Integers at both ends of their range, escapes and characters outside the basic plane, in a
mapping with arrays and objects in it. -/
theorem transports_agree_nested :
    ∃ p q : Payload,
      Payload.parse (Payload.withCustom sampleRest (.object sampleMapping)).text = .ok p ∧
      Payload.parse (Payload.withCustom sampleRest
        (.string (compact (.object sampleMapping)))).text = .ok q ∧
      p.customData = ⟨sampleMapping⟩ ∧ q.customData = ⟨sampleMapping⟩ ∧
      ∀ settings, resolve settings p = resolve settings q := by
  have hdata : ∀ m ∈ sampleData, Canonical 124 m.2 :=
    List.forall_mem_cons.mpr ⟨.array (List.forall_mem_cons.mpr ⟨.null,
      List.forall_mem_cons.mpr ⟨.integer (by decide), List.forall_mem_nil _⟩⟩),
      List.forall_mem_nil _⟩
  exact transports_agree (by decide)
    (List.forall_mem_cons.mpr ⟨.integer (by decide),
      List.forall_mem_cons.mpr ⟨.string _, List.forall_mem_nil _⟩⟩)
    (.object (by decide) (List.forall_mem_cons.mpr ⟨.object (by decide) hdata,
      List.forall_mem_cons.mpr ⟨.string _, List.forall_mem_nil _⟩⟩))

end NotificationTap
