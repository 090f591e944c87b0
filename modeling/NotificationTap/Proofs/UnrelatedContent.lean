import NotificationTap.Proofs.CarriedMapping
import NotificationTap.Proofs.HandlerRuns
import NotificationTap.Proofs.Transport
import Mathlib.Logic.Relation

/-!
# Content that makes no difference

A sender may put anything beside what decisions look at.

* `Change`: a member of an object is stored or removed.
* `Transport`: the two ways in which a payload carries a mapping.
* `Edited`: one change of a payload, of its mapping or of the additional data, at a key that no
  decision looks at.
* `CustomData.noticed`: what a decision looks at. `Edited.noticed_eq`: one edit leaves it as it is.
* `edits_unnoticed`: a decision, and what is done for it, stay the same under any number of edits.
-/

namespace NotificationTap

open Json

/-! ## Changes of objects -/

/-- A change of one member of an object. -/
inductive Change where
  /-- A member is stored, in place of an earlier one of its key. -/
  | store (key : String) (value : Json)
  /-- The member of a key is removed, if there is one. -/
  | remove (key : String)

namespace Change

/-- The key of the member that changes. -/
def key : Change → String
  | .store key _ => key
  | .remove key => key

/-- The members after a change. -/
def apply : Change → Members → Members
  | .store key value, members => Json.insert key value members
  | .remove key, members => members.filter (·.1 ≠ key)

/-- What is stored is canonical: its integers fit 64 bits, and at most `limit` arrays and objects
are nested in it. -/
def Fits (limit : Nat) : Change → Prop
  | .store _ value => Canonical limit value
  | .remove _ => True

end Change

theorem Json.lookup_filter_ne {key other : String} (h : other ≠ key) (members : Members) :
    (members.filter (·.1 ≠ key)).lookup other = members.lookup other := by
  induction members with
  | nil => rfl
  | cons head rest ih =>
    obtain ⟨k, v⟩ := head
    by_cases hk : k = key
    · subst hk
      rw [List.filter_cons_of_neg (by simp), ih, lookup_cons_of_ne h]
    · rw [List.filter_cons_of_pos (by simpa using hk), List.lookup_cons, List.lookup_cons, ih]

variable {change : Change} {limit : Nat} {members : Members}

/-- A change is found under its own key only. -/
theorem Change.lookup_apply {key : String} (h : change.key ≠ key) :
    (change.apply members).lookup key = members.lookup key := by
  cases change with
  | store changed value => exact lookup_insert_of_ne h.symm value members
  | remove changed => exact lookup_filter_ne h.symm members

theorem Change.canonical_apply (h : Canonical (limit + 1) (.object members))
    (fits : change.Fits limit) : Canonical (limit + 1) (.object (change.apply members)) := by
  cases change with
  | store key value => exact h.insert key fits
  | remove key =>
    obtain ⟨hs, hc⟩ := canonical_object_iff.mp h
    exact .object (hs.filter _) fun m hm => hc m ((List.mem_filter.mp hm).1)

/-! ## Edits of payloads -/

/-- How a payload carries a mapping. -/
inductive Transport where
  /-- As an object. -/
  | object
  /-- As a string with the text of the object. -/
  | text

/-- The `custom` member for a mapping. -/
def Transport.custom : Transport → Members → Json
  | .object, mapping => .object mapping
  | .text, mapping => .string (compact (.object mapping))

/-- One edit of a payload, at a key that no decision looks at. Its mapping is carried as before; it
is canonical and nested at most 126 deep, before the edit and after it. -/
inductive Edited : Payload → Payload → Prop where
  /-- A member of the payload, other than `custom`. -/
  | member {payload : Payload} (change : Change) (other : change.key ≠ customKey) :
    Edited payload ⟨change.apply payload.members⟩
  /-- A member of the mapping, other than the URL and the additional data. -/
  | mapping {payload : Payload} {mapping : Members} (transport : Transport) (change : Change)
    (carried : payload.members.lookup customKey = some (transport.custom mapping))
    (canonical : Canonical 126 (.object mapping)) (fits : change.Fits 125)
    (notUrl : change.key ≠ launchUrlKey) (notData : change.key ≠ additionalDataKey) :
    Edited payload (.withCustom payload.members (transport.custom (change.apply mapping)))
  /-- A member of the additional data, other than the mark of a preview. -/
  | data {payload : Payload} {mapping data : Members} (transport : Transport) (change : Change)
    (carried : payload.members.lookup customKey = some (transport.custom mapping))
    (canonical : Canonical 126 (.object mapping)) (fits : change.Fits 124)
    (found : mapping.lookup additionalDataKey = some (.object data))
    (notMark : change.key ≠ inAppPreviewKey) :
    Edited payload (.withCustom payload.members
      (transport.custom (Json.insert additionalDataKey (.object (change.apply data)) mapping)))

/-! ## What decisions look at -/

/-- What a decision looks at in a mapping: the URL, and whether there is the mark of a preview. -/
def CustomData.noticed (data : CustomData) : Option LaunchUrl × Bool :=
  (data.launchUrl?, data.isInAppPreview)

theorem resolve_of_noticed {p q : Payload} (h : p.customData.noticed = q.customData.noticed)
    (settings : Settings) : resolve settings p = resolve settings q := by
  obtain ⟨hurl, hpreview⟩ := Prod.mk.inj h
  simp only [resolve, resolveWith, inAppPreview, hurl, hpreview]

/-- What is done for a payload depends on the decision only, whatever the dispatcher. -/
theorem handle_of_resolve {m : Type → Type} [Monad m] {settings : Settings} {p q : Payload}
    (h : resolve settings p = resolve settings q) (dispatcher : Dispatcher m) :
    handle ⟨settings, inAppPreview⟩ dispatcher p =
      handle ⟨settings, inAppPreview⟩ dispatcher q := by
  have hresolve : Resolver.resolve ⟨settings, inAppPreview⟩ p =
      Resolver.resolve ⟨settings, inAppPreview⟩ q := h
  simp only [handle, hresolve]

section

variable {mapping : Members}

/-- A mapping is read as it is, whichever way it is carried. -/
theorem Transport.parse_custom (transport : Transport) (h : Canonical 126 (.object mapping)) :
    CustomData.parse (transport.custom mapping) = .ok ⟨mapping⟩ := by
  cases transport with
  | object => rfl
  | text => exact CustomData.parse_compact (h.mono (by decide))

theorem Transport.customData_of_carried {payload : Payload} (transport : Transport)
    (h : Canonical 126 (.object mapping))
    (carried : payload.members.lookup customKey = some (transport.custom mapping)) :
    payload.customData = ⟨mapping⟩ :=
  (Payload.carries_iff.mpr ⟨_, carried, transport.parse_custom h⟩).customData_eq

/-- Neither the URL nor the mark changes with a member that stands beside them. -/
theorem noticed_apply {change : Change} (notUrl : change.key ≠ launchUrlKey)
    (notData : change.key ≠ additionalDataKey) :
    (CustomData.mk (change.apply mapping)).noticed = (CustomData.mk mapping).noticed := by
  simp only [CustomData.noticed, CustomData.launchUrl?, CustomData.isInAppPreview,
    CustomData.inAppPreview?, CustomData.additionalData?, Change.lookup_apply notUrl,
    Change.lookup_apply notData]

/-- Neither does the mark change with a member of the additional data that stands beside it. -/
theorem noticed_insert_data {data : Members} {change : Change}
    (found : mapping.lookup additionalDataKey = some (.object data))
    (notMark : change.key ≠ inAppPreviewKey) :
    (CustomData.mk (Json.insert additionalDataKey (.object (change.apply data)) mapping)).noticed =
      (CustomData.mk mapping).noticed := by
  have hurl : launchUrlKey ≠ additionalDataKey := by decide
  simp only [CustomData.noticed, CustomData.launchUrl?, CustomData.isInAppPreview,
    CustomData.inAppPreview?, CustomData.additionalData?, lookup_insert_of_ne hurl,
    lookup_insert_self, found, Option.bind_some, object?, Change.lookup_apply notMark]

end

/-- What a decision looks at stays the same under an edit. -/
theorem Edited.noticed_eq {p q : Payload} (h : Edited p q) :
    q.customData.noticed = p.customData.noticed := by
  cases h with
  | member change other =>
    rw [Payload.customData, Payload.customData, Change.lookup_apply other]
  | mapping transport change carried canonical fits notUrl notData =>
    have hafter := transport.parse_custom (Change.canonical_apply canonical fits)
    rw [Payload.customData_withCustom _ hafter, transport.customData_of_carried canonical carried,
      noticed_apply notUrl notData]
  | data transport change carried canonical fits found notMark =>
    obtain ⟨before, after, rfl, -⟩ := List.lookup_eq_some_iff.mp found
    have hdata := (canonical_object_iff.mp canonical).2 _ List.mem_append_cons_self
    have hafter := transport.parse_custom
      (canonical.insert additionalDataKey (Change.canonical_apply hdata fits))
    rw [Payload.customData_withCustom _ hafter, transport.customData_of_carried canonical carried,
      noticed_insert_data found notMark]

/-- A decision does not depend on what stands beside the URL and the mark of a preview, and neither
does what is done for it. After any number of edits at other keys of the payload, of its mapping or
of the additional data, the decision is the same under all settings, and handling the payload does
the same with every dispatcher, in its calls and in its result. -/
theorem edits_unnoticed {p q : Payload} (h : Relation.ReflTransGen Edited p q)
    (settings : Settings) :
    resolve settings q = resolve settings p ∧
    ∀ {m : Type → Type} [Monad m] (dispatcher : Dispatcher m),
      handle ⟨settings, inAppPreview⟩ dispatcher q =
        handle ⟨settings, inAppPreview⟩ dispatcher p := by
  have hnoticed : q.customData.noticed = p.customData.noticed := by
    induction h with
    | refl => rfl
    | tail _ edit ih => exact edit.noticed_eq.trans ih
  have hresolve := resolve_of_noticed hnoticed settings
  exact ⟨hresolve, fun dispatcher => handle_of_resolve hresolve dispatcher⟩

/-- A mapping with a URL, an id and the mark of a preview beside other data. -/
def markedMapping : Members :=
  [("a", .object [("k", .null), (inAppPreviewKey, .null)]), ("i", .string "n-1"),
    ("u", .string "\thttps://example.com")]

/-- A notification that carries the text of this mapping. -/
def markedPayload : Payload :=
  ⟨[("custom", Transport.text.custom markedMapping), ("title", .string "hi")]⟩

/-- The title is removed, another id has quotation marks in it, and then the data beside the mark
are removed. The notification that is left still opens the app and the URL. -/
theorem edits_unnoticed_text :
    let mapping := (Change.store "i" (.string "\"\x7d\"")).apply markedMapping
    let data : Json := .object ((Change.remove "k").apply [("k", .null), (inAppPreviewKey, .null)])
    let edited : Payload := ⟨[("custom", Transport.text.custom (Json.insert "a" data mapping))]⟩
    resolve ⟨false, false⟩ edited = ⟨true, some ⟨"https://example.com"⟩⟩ ∧
    ((handle ⟨⟨false, false⟩, inAppPreview⟩ (recording {}) edited).run []).2 =
      [.openBrowser ⟨"https://example.com"⟩, .openApp] := by
  intro mapping data edited
  have hdata : Canonical 125 (.object [("k", .null), (inAppPreviewKey, .null)]) :=
    .object (by decide) (List.forall_mem_cons.mpr ⟨.null,
      List.forall_mem_cons.mpr ⟨.null, List.forall_mem_nil _⟩⟩)
  have hmarked : Canonical 126 (.object markedMapping) :=
    .object (by decide) (List.forall_mem_cons.mpr ⟨hdata, List.forall_mem_cons.mpr ⟨.string _,
      List.forall_mem_cons.mpr ⟨.string _, List.forall_mem_nil _⟩⟩⟩)
  let untitled : Payload := ⟨[("custom", Transport.text.custom markedMapping)]⟩
  let renamed : Payload := ⟨[("custom", Transport.text.custom mapping)]⟩
  have hremove : Edited markedPayload untitled := .member (.remove "title") (by decide)
  have hrename : Edited untitled renamed :=
    @Edited.mapping untitled markedMapping .text (.store "i" (.string "\"\x7d\"")) rfl hmarked
      (.string _) (by decide) (by decide)
  have hreduce : Edited renamed edited :=
    @Edited.data renamed mapping _ .text (.remove "k") rfl
      (Change.canonical_apply hmarked (.string _)) trivial rfl (by decide)
  obtain ⟨hresolve, hhandle⟩ := edits_unnoticed
    (((Relation.ReflTransGen.single hremove).tail hrename).tail hreduce) ⟨false, false⟩
  have hcustom : markedPayload.customData = ⟨markedMapping⟩ :=
    Transport.text.customData_of_carried hmarked rfl
  have hbefore : resolve ⟨false, false⟩ markedPayload = ⟨true, some ⟨"https://example.com"⟩⟩ := by
    rw [resolve, resolveWith, inAppPreview, hcustom]
    rfl
  obtain ⟨result, hrun, -⟩ :=
    handle_recording ⟨⟨false, false⟩, inAppPreview⟩ markedPayload {} []
  rw [hresolve, hhandle, hrun]
  refine ⟨hbefore, ?_⟩
  change [] ++ (resolve ⟨false, false⟩ markedPayload).recorded {} = _
  rw [hbefore]
  rfl

end NotificationTap
