import NotificationTap.Proofs.CarriedMapping
import NotificationTap.Proofs.CommandLine.Decision
import NotificationTap.Proofs.Json.Reading
import NotificationTap.Proofs.LaunchUrl.Trimming

/-!
# Where URLs come from

A URL is parsed from a text, found by a decision, or read from JSON. Parsing drops the padding and
refuses a text of padding alone; reading from JSON does neither.

* `exists_parse?_iff`: the URLs that are parsed are those that are trimmed.
* `trimmed_of_resolveWith`: the URL of a decision on a payload is one of them.
* `ofJsonText_eq_ok`: a JSON text is read as a URL if it is a string, and then as that string.
* `content_by_origin`: which URLs come from where.
* `blank_url_decoded`: a URL of padding alone, in a decision that was read.
-/

namespace NotificationTap.LaunchUrl

variable {url : LaunchUrl}

/-- The URLs that are parsed are those that are trimmed. -/
theorem exists_parse?_iff : (∃ raw, parse? raw = some url) ↔ Trimmed url.text.toList := by
  constructor
  · rintro ⟨raw, hparse⟩
    exact (parse?_eq_some_iff.mp hparse).1
  · intro htrimmed
    exact ⟨url.text, parse?_text htrimmed⟩

/-- The URL of a decision on a payload is trimmed. -/
theorem trimmed_of_resolveWith {detector : PreviewDetector} {settings : Settings}
    {payload : Payload} (h : (resolveWith detector settings payload).url? = some url) :
    Trimmed url.text.toList := by
  obtain ⟨-, hurl⟩ := url?_resolveWith.mp h
  obtain ⟨raw, -, hparse⟩ := CustomData.launchUrl?_eq_some_iff.mp hurl
  exact exists_parse?_iff.mp ⟨raw, hparse⟩

/-- A JSON text is read as a URL if it is a string, and then as that string, padding included. -/
theorem ofJsonText_eq_ok {text : String} :
    ofJsonText text = .ok url ↔ Json.parse text = .ok (.string url.text) := by
  obtain ⟨s⟩ := url
  have hread (cs blanks : List Char) : read cs = .done ⟨s⟩ blanks ↔
      Json.readValue (Json.enoughFuel cs) Json.maxDepth cs = .done (.string s) blanks := by
    rw [Json.enoughFuel, Json.readValue_eq_string, ← Json.readString_eq_done, read,
      Json.Read.map_eq_done]
    simp
  simp only [ofJsonText, Json.parse, Json.parseWith_eq_ok, hread]

end LaunchUrl

/-- A decision on a payload that does something, and does not open the app, has a URL. -/
theorem exists_url_of_resolveWith {action : OpenAction} (hdone : action.isNoop = false)
    (happ : action.opensApp = false) : ∃ url, action.url? = some url := by
  simpa [OpenAction.isNoop, happ, Option.isSome_iff_exists] using hdone

/-- The URLs that are parsed are those with content: neither their first nor their last character is
padding. The URL of a decision on a payload is one of them, and a decision that does something
besides opening the app has one. Reading JSON takes a string for a URL as it stands, and there is
no URL, with or without content, that is not read as part of a decision. -/
theorem content_by_origin (url : LaunchUrl) :
    ((∃ raw, LaunchUrl.parse? raw = some url) ↔ LaunchUrl.Trimmed url.text.toList) ∧
    (∀ detector settings payload, (resolveWith detector settings payload).url? = some url →
      LaunchUrl.Trimmed url.text.toList) ∧
    (∀ detector settings payload, (resolveWith detector settings payload).isNoop = false →
      (resolveWith detector settings payload).opensApp = false →
      ∃ target, (resolveWith detector settings payload).url? = some target ∧
        LaunchUrl.Trimmed target.text.toList) ∧
    (∀ text, LaunchUrl.ofJsonText text = .ok url ↔ Json.parse text = .ok (.string url.text)) ∧
    ∀ opensApp, ∃ text, OpenAction.ofJsonText text = .ok ⟨opensApp, some url⟩ := by
  refine ⟨LaunchUrl.exists_parse?_iff, fun _ _ _ => LaunchUrl.trimmed_of_resolveWith,
    fun detector settings payload hdone happ => ?_, fun _ => LaunchUrl.ofJsonText_eq_ok,
    fun opensApp => ⟨_, CommandLine.ofJsonText_actionText ⟨opensApp, some url⟩⟩⟩
  obtain ⟨target, htarget⟩ := exists_url_of_resolveWith hdone happ
  exact ⟨target, htarget, LaunchUrl.trimmed_of_resolveWith htarget⟩

/-- A notification with a URL between padding. -/
def paddedPayload : Payload := .withCustom [] (.object [("u", .string "\x00 é:x\n")])

/-- What is decided to be opened has lost its padding, and what is read from JSON has not. -/
theorem content_by_origin_padded :
    (resolve ⟨false, false⟩ paddedPayload).isNoop = false ∧
    (∃ target, (resolve ⟨false, false⟩ paddedPayload).url? = some target ∧
      LaunchUrl.Trimmed target.text.toList) ∧
    (∃ raw, LaunchUrl.parse? raw = some ⟨"é:x"⟩) ∧
    Json.parse "\" é:x\\n\"" = .ok (.string " é:x\n") := by
  have hdone : (resolve ⟨false, false⟩ paddedPayload).isNoop = false := by decide
  obtain ⟨hparsed, -, htarget, -, -⟩ := content_by_origin ⟨"é:x"⟩
  obtain ⟨-, -, -, hread, -⟩ := content_by_origin ⟨" é:x\n"⟩
  have hpadded : LaunchUrl.ofJsonText "\" é:x\\n\"" = .ok ⟨" é:x\n"⟩ :=
    Except.toOption_eq_some.mp (by decide +kernel)
  exact ⟨hdone, htarget _ _ _ hdone (by decide), hparsed.mpr (by decide), (hread _).mp hpadded⟩

/-- A URL of padding alone, and one of no characters, each in a decision that does something besides
opening the app. -/
theorem blank_url_decoded :
    LaunchUrl.ofJsonText "\" \"" = .ok ⟨" "⟩ ∧
    OpenAction.ofJsonText "\x7b\"should_open_app\":false,\"browser_url\":\" \"\x7d" =
      .ok ⟨false, some ⟨" "⟩⟩ ∧
    OpenAction.ofJsonText "[false,\"\"]" = .ok ⟨false, some ⟨""⟩⟩ ∧
    (∀ text, OpenAction.isNoop ⟨false, some ⟨text⟩⟩ = false) ∧
    ¬LaunchUrl.Trimmed " ".toList ∧ ¬LaunchUrl.Trimmed "".toList :=
  ⟨Except.toOption_eq_some.mp (by decide +kernel), Except.toOption_eq_some.mp (by decide +kernel),
    Except.toOption_eq_some.mp (by decide +kernel), fun _ => rfl, by decide, by decide⟩

end NotificationTap
