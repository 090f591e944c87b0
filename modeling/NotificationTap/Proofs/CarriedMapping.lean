import NotificationTap.Proofs.Json.ReadBack
import NotificationTap.Resolver

/-!
# The mapping that a payload carries

A decision looks at a payload through the mapping that it carries. A payload that is malformed
carries none, and is decided on as one without a URL and without the mark of a preview.

* `Payload.Carries`: a payload carries a mapping, as an object or as a text.
* `customData_iff`: what is read from a payload, and cannot be read from an empty mapping, is read
  from the mapping that it carries.
* `launchUrl?_eq_some_iff`, `isInAppPreview_iff`: when a mapping has a URL to open, and when it has
  the mark of a preview.
* `resolveWith_iff`: when a decision opens the app, and which URL it opens.
-/

namespace NotificationTap

open Json

/-- A payload carries a mapping if its `custom` member is that object, or a string that is the text
of that object. -/
inductive Payload.Carries (payload : Payload) (mapping : Members) : Prop where
  | object (custom : payload.members.lookup customKey = some (.object mapping))
  | text {text : String} (custom : payload.members.lookup customKey = some (.string text))
    (accepted : parseObject text = .ok mapping)

variable {payload : Payload} {mapping : Members}

/-! ## Reading a payload -/

theorem CustomData.parse_eq_ok {custom : Json} {data : CustomData} :
    CustomData.parse custom = .ok data ↔ custom = .object data.members ∨
      ∃ text, custom = .string text ∧ parseObject text = .ok data.members := by
  obtain ⟨mapping⟩ := data
  cases custom with
  | string text => cases hparse : parseObject text <;> simp [CustomData.parse, hparse]
  | object members => simp [CustomData.parse]
  | null => simp [CustomData.parse]
  | bool value => simp [CustomData.parse]
  | number value => simp [CustomData.parse]
  | array items => simp [CustomData.parse]

theorem Payload.carries_iff : payload.Carries mapping ↔
    ∃ custom, payload.members.lookup customKey = some custom ∧
      CustomData.parse custom = .ok ⟨mapping⟩ := by
  simp only [CustomData.parse_eq_ok]
  constructor
  · rintro (hcustom | ⟨hcustom, haccepted⟩)
    · exact ⟨_, hcustom, .inl rfl⟩
    · exact ⟨_, hcustom, .inr ⟨_, rfl, haccepted⟩⟩
  · rintro ⟨_, hcustom, rfl | ⟨_, rfl, haccepted⟩⟩
    · exact .object hcustom
    · exact .text hcustom haccepted

theorem Payload.Carries.customData_eq (h : payload.Carries mapping) :
    payload.customData = ⟨mapping⟩ := by
  obtain ⟨custom, hcustom, hparse⟩ := Payload.carries_iff.mp h
  rw [Payload.customData, hcustom]
  simp only [hparse]

/-- A payload that carries nothing is read as one that carries an empty mapping. -/
theorem Payload.customData_of_not_carries (h : ∀ mapping, ¬payload.Carries mapping) :
    payload.customData = ⟨[]⟩ := by
  cases hcustom : payload.members.lookup customKey with
  | none => simp only [Payload.customData, hcustom]
  | some custom =>
    cases hparse : CustomData.parse custom with
    | error e => simp only [Payload.customData, hcustom, hparse]
    | ok data => exact absurd (Payload.carries_iff.mpr ⟨custom, hcustom, hparse⟩) (h data.members)

/-- What is read from a payload, and cannot be read from an empty mapping, is read from the mapping
that the payload carries. -/
theorem Payload.customData_iff (property : CustomData → Prop) (hempty : ¬property ⟨[]⟩) :
    property payload.customData ↔ ∃ mapping, payload.Carries mapping ∧ property ⟨mapping⟩ := by
  constructor
  · intro h
    by_cases hcarries : ∃ mapping, payload.Carries mapping
    · obtain ⟨mapping, hcarries⟩ := hcarries
      exact ⟨mapping, hcarries, hcarries.customData_eq ▸ h⟩
    · rw [Payload.customData_of_not_carries (not_exists.mp hcarries)] at h
      exact absurd h hempty
  · rintro ⟨mapping, hcarries, h⟩
    rwa [hcarries.customData_eq]

/-! ## Reading a mapping -/

@[simp] theorem Json.string?_eq_some {value : Json} {text : String} :
    value.string? = some text ↔ value = .string text := by
  cases value <;> simp [string?]

@[simp] theorem Json.object?_eq_some {value : Json} {members : Members} :
    value.object? = some members ↔ value = .object members := by
  cases value <;> simp [object?]

/-- A mapping has a URL to open if there is a string for it that is not all padding. -/
theorem CustomData.launchUrl?_eq_some_iff {url : LaunchUrl} :
    (CustomData.mk mapping).launchUrl? = some url ↔
      ∃ raw, mapping.lookup launchUrlKey = some (.string raw) ∧ LaunchUrl.parse? raw = some url := by
  simp [launchUrl?, Option.bind_eq_some_iff]

theorem CustomData.inAppPreview?_eq_some_iff {mark : Json} :
    (CustomData.mk mapping).inAppPreview? = some mark ↔
      ∃ data, mapping.lookup additionalDataKey = some (.object data) ∧
        data.lookup inAppPreviewKey = some mark := by
  simp [inAppPreview?, additionalData?, Option.bind_eq_some_iff]

/-- A mapping has the mark of a preview if it has an object of additional data with that key. -/
theorem CustomData.isInAppPreview_iff : (CustomData.mk mapping).isInAppPreview = true ↔
    ∃ data, mapping.lookup additionalDataKey = some (.object data) ∧
      ∃ mark, data.lookup inAppPreviewKey = some mark := by
  simp only [isInAppPreview, Option.isSome_iff_exists, inAppPreview?_eq_some_iff]
  constructor
  · rintro ⟨mark, data, hdata, hmark⟩
    exact ⟨data, hdata, mark, hmark⟩
  · rintro ⟨data, hdata, mark, hmark⟩
    exact ⟨mark, data, hdata, hmark⟩

/-! ## Decisions -/

variable {detector : PreviewDetector} {settings : Settings}

theorem opensApp_resolveWith : (resolveWith detector settings payload).opensApp = true ↔
    detector payload = true ∨ settings.openApp = true := by
  simp [resolveWith]

theorem url?_resolveWith {url : LaunchUrl} :
    (resolveWith detector settings payload).url? = some url ↔
      settings.suppressUrl = false ∧ payload.customData.launchUrl? = some url := by
  cases hsuppress : settings.suppressUrl <;> simp [resolveWith, hsuppress]

/-- A decision opens the app if the payload is a preview or the setting says so. It opens a URL
unless that is suppressed, and then the one that the payload's mapping has; a payload without a
mapping has none, and is no preview by its mark. So whether URLs are suppressed makes no difference
to the app, and what opens the app makes none to the URL. -/
theorem resolveWith_iff (detector : PreviewDetector) (settings : Settings) (payload : Payload) :
    let action := resolveWith detector settings payload
    (action.opensApp = true ↔ detector payload = true ∨ settings.openApp = true) ∧
    (∀ url, action.url? = some url ↔
      settings.suppressUrl = false ∧ ∃ mapping, payload.Carries mapping ∧
        ∃ raw, mapping.lookup launchUrlKey = some (.string raw) ∧
          LaunchUrl.parse? raw = some url) ∧
    (inAppPreview payload = true ↔ ∃ mapping, payload.Carries mapping ∧
      ∃ data, mapping.lookup additionalDataKey = some (.object data) ∧
        ∃ mark, data.lookup inAppPreviewKey = some mark) ∧
    (∀ suppressUrl, (resolveWith detector { settings with suppressUrl } payload).opensApp =
      action.opensApp) ∧
    ∀ detector' openApp, (resolveWith detector' { settings with openApp } payload).url? =
      action.url? := by
  intro action
  refine ⟨opensApp_resolveWith, fun url => ?_, ?_, fun _ => rfl, fun _ _ => rfl⟩
  · have hempty : ¬(CustomData.mk []).launchUrl? = some url := by
      simp [CustomData.launchUrl?]
    rw [url?_resolveWith,
      Payload.customData_iff (fun data => data.launchUrl? = some url) hempty]
    simp only [CustomData.launchUrl?_eq_some_iff]
  · have hempty : ¬(CustomData.mk []).isInAppPreview = true := by decide
    rw [inAppPreview,
      Payload.customData_iff (fun data => data.isInAppPreview = true) hempty]
    simp only [CustomData.isInAppPreview_iff]

/-- A mapping with a blank before its URL and the mark of a preview, carried as its text. -/
theorem resolveWith_iff_text :
    let mapping : Members :=
      [("a", .object [(inAppPreviewKey, .null)]), ("u", .string " https://a.b")]
    let payload : Payload := ⟨[("custom", .string (compact (.object mapping)))]⟩
    payload.Carries mapping ∧ inAppPreview payload = true ∧
    (resolve ⟨false, false⟩ payload).opensApp = true ∧
    (resolve ⟨false, false⟩ payload).url? = some ⟨"https://a.b"⟩ ∧
    (resolve ⟨false, true⟩ payload).url? = none := by
  intro mapping payload
  have hcanonical : Canonical maxDepth (.object mapping) :=
    .object (by decide) (List.forall_mem_cons.mpr ⟨.object (by decide)
      (List.forall_mem_cons.mpr ⟨.null, List.forall_mem_nil _⟩),
      List.forall_mem_cons.mpr ⟨.string _, List.forall_mem_nil _⟩⟩)
  have hcarries : payload.Carries mapping := .text rfl (parseObject_compact hcanonical)
  obtain ⟨happ, hurl, hpreview, -⟩ := resolveWith_iff inAppPreview ⟨false, false⟩ payload
  obtain ⟨-, hsuppressed, -⟩ := resolveWith_iff inAppPreview ⟨false, true⟩ payload
  have hmark : inAppPreview payload = true :=
    hpreview.mpr ⟨mapping, hcarries, _, rfl, .null, rfl⟩
  refine ⟨hcarries, hmark, happ.mpr (.inl hmark),
    (hurl _).mpr ⟨rfl, mapping, hcarries, " https://a.b", rfl, by decide⟩, ?_⟩
  exact Option.eq_none_iff_forall_ne_some.mpr fun url h =>
    absurd ((hsuppressed url).mp h).1 (by decide)

end NotificationTap
