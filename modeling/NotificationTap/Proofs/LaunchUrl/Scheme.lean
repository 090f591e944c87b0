import NotificationTap.Proofs.LaunchUrl.Intent

/-!
# The scheme of a URL

A scheme is what stands before the first delimiter of a URL, if that delimiter is a colon. A URL
whose scheme is `data` is one that starts with `data:`, in capitals or small letters.

* `HasScheme`: a text with a scheme in front. `scheme?_eq_some_iff`: the scheme that is found is the
  one that stands there.
* `StartsWithData`: a text with `data:` in front. `startsWithData_iff`: its scheme is `data`.
* `scheme_and_data`: both for every URL, and who is asked to open it.
-/

namespace NotificationTap.LaunchUrl

/-- The text is the scheme, a colon and some rest. The scheme is not empty, and no delimiter stands
in it. -/
def HasScheme (text scheme : String) : Prop :=
  scheme ≠ "" ∧ (∀ c ∈ scheme.toList, c ∉ [':', '/', '?', '#']) ∧
    ∃ rest, text = scheme ++ ":" ++ rest

/-- The first five characters of the text are those of `data:`, up to the case of ASCII letters. -/
def StartsWithData (text : String) : Prop :=
  (text.toList.take 5).map Char.toLower = "data:".toList

instance (text : String) : Decidable (StartsWithData text) :=
  inferInstanceAs (Decidable (_ = _))

variable {url : LaunchUrl} {text scheme : String} {cs front : List Char} {c : Char}

/-! ## Schemes -/

theorem isDelimiter_eq_false : isDelimiter c = false ↔ c ∉ [':', '/', '?', '#'] := by
  simp [isDelimiter, and_assoc]

/-- What is found in front is all of what stands before the first delimiter. -/
theorem schemeOf_eq_some : schemeOf cs = some front ↔
    front ≠ [] ∧ (∀ c ∈ front, c ∉ [':', '/', '?', '#']) ∧ ∃ rest, cs = front ++ ':' :: rest := by
  constructor
  · intro h
    unfold schemeOf at h
    split at h
    · next c tail rest hfront hrest =>
      cases h
      refine ⟨List.cons_ne_nil c tail, fun d hd => ?_, rest, ?_⟩
      · rw [← hfront] at hd
        exact isDelimiter_eq_false.mp (by simpa using List.mem_takeWhile_imp hd)
      · rw [← hfront, ← hrest, List.takeWhile_append_dropWhile]
    · cases h
  · rintro ⟨hne, hfront, rest, rfl⟩
    have hplain : ∀ c ∈ front, (!isDelimiter c) = true := fun c hc => by
      rw [isDelimiter_eq_false.mpr (hfront c hc)]
      rfl
    have htake : (front ++ ':' :: rest).takeWhile (!isDelimiter ·) = front := by
      rw [List.takeWhile_append_of_pos hplain, List.takeWhile_cons_of_neg (by decide),
        List.append_nil]
    have hdrop : (front ++ ':' :: rest).dropWhile (!isDelimiter ·) = ':' :: rest := by
      rw [List.dropWhile_append_of_pos hplain, List.dropWhile_cons_of_neg (by decide)]
    rw [schemeOf, htake, hdrop]
    obtain ⟨c, tail, rfl⟩ := List.exists_cons_of_ne_nil hne
    rfl

/-- The scheme of a URL is what stands before its first delimiter, if that is a colon. -/
theorem scheme?_eq_some_iff : url.scheme? = some scheme ↔ HasScheme url.text scheme := by
  rw [scheme?, Option.map_eq_some_iff, HasScheme]
  constructor
  · rintro ⟨front, hfront, rfl⟩
    obtain ⟨hne, hplain, rest, htext⟩ := schemeOf_eq_some.mp hfront
    refine ⟨by simpa using hne, by simpa using hplain, String.ofList rest, ?_⟩
    rw [← String.toList_inj, htext]
    simp
  · rintro ⟨hne, hplain, rest, htext⟩
    refine ⟨scheme.toList, schemeOf_eq_some.mpr ⟨by simpa using hne, hplain, rest.toList, ?_⟩,
      String.ofList_toList⟩
    rw [htext]
    simp

/-! ## `data:` -/

/-- A colon is a small letter of nothing but itself. -/
theorem eq_colon_of_toLower (h : c.toLower = ':') : c = ':' := by
  unfold Char.toLower at h
  split at h
  · next hcapital =>
    have hfirst : 65 ≤ c.val.toNat := hcapital.1
    have hlast : c.val.toNat ≤ 90 := hcapital.2
    have hcolon : (c.val.toNat + 32) % 2 ^ 32 = 58 := congrArg Char.toNat h
    omega
  · exact h

/-- No delimiter stands in `data`, in any case. -/
theorem not_mem_delimiters (h : c.toLower ∈ "data".toList) : c ∉ [':', '/', '?', '#'] := by
  have hdelimiters : ∀ d ∈ [':', '/', '?', '#'], d.toLower ∉ "data".toList := by simp
  exact fun hc => hdelimiters c hc h

/-- A text starts with `data:` if that is its scheme. -/
theorem startsWithData_iff :
    StartsWithData text ↔ ∃ scheme, HasScheme text scheme ∧ isDataScheme scheme := by
  have hcut : "data:".toList = "data".toList ++ [':'] := rfl
  rw [StartsWithData, hcut]
  constructor
  · intro h
    obtain ⟨front, last, htake, hfront, hlast⟩ := List.map_eq_append_iff.mp h
    obtain ⟨c, rfl, hc⟩ := List.map_eq_singleton_iff.mp hlast
    obtain rfl := eq_colon_of_toLower hc
    have htext : text.toList = front ++ ':' :: text.toList.drop 5 := by
      rw [← List.singleton_append, ← List.append_assoc, ← htake, List.take_append_drop]
    have hne : front ≠ [] := by
      rintro rfl
      cases hfront
    refine ⟨String.ofList front, ⟨by simpa using hne, fun c hc => ?_,
      String.ofList (text.toList.drop 5), ?_⟩, by simpa [isDataScheme] using hfront⟩
    · rw [String.toList_ofList] at hc
      exact not_mem_delimiters (hfront ▸ List.mem_map_of_mem hc)
    · rw [← String.toList_inj]
      simpa using htext
  · rintro ⟨scheme, ⟨-, -, rest, rfl⟩, hdata⟩
    have hdata : scheme.toList.map Char.toLower = "data".toList := by simpa [isDataScheme] using hdata
    have hlength : scheme.toList.length = 4 := by simpa using congrArg List.length hdata
    rw [String.toList_append, String.toList_append, List.take_left' (by simp [hlength]),
      List.map_append, hdata]
    rfl

/-! ## Both -/

theorem browserIntent_kind_eq_appBrowser : url.browserIntent.kind = .appBrowser ↔
    ∃ scheme, url.scheme? = some scheme ∧ isDataScheme scheme := by
  rcases browserIntent_cases url with ⟨scheme, hscheme, hintent⟩ | ⟨hscheme, -, hintent⟩ |
    ⟨hscheme, -, hintent⟩
  · simp [hscheme, hintent]
  · simp [hscheme, hintent]
  · simp [hscheme, hintent]

/-- A URL names a scheme exactly if it starts with that scheme and a colon, where the scheme is not
empty and has no delimiter in it; there is no second one. A URL goes to the default browser exactly
if it starts with `data:`, up to the case of ASCII letters, and it goes there as it stands. -/
theorem scheme_and_data (url : LaunchUrl) :
    (∀ scheme, url.scheme? = some scheme ↔ HasScheme url.text scheme) ∧
    (∀ scheme other, HasScheme url.text scheme → HasScheme url.text other → scheme = other) ∧
    (url.browserIntent.kind = .appBrowser ↔ StartsWithData url.text) ∧
    (StartsWithData url.text → url.browserIntent = ⟨.appBrowser, url.text⟩) := by
  have hkind : url.browserIntent.kind = .appBrowser ↔ StartsWithData url.text := by
    simp only [browserIntent_kind_eq_appBrowser, startsWithData_iff, scheme?_eq_some_iff]
  refine ⟨fun _ => scheme?_eq_some_iff, fun scheme other hscheme hother => ?_, hkind, fun hdata => ?_⟩
  · have hfound := scheme?_eq_some_iff.mpr hscheme
    exact Option.some.inj (hfound.symm.trans (scheme?_eq_some_iff.mpr hother))
  · rcases browserIntent_kept_or_behindHttp url with hurl | hintent
    · exact BrowserIntent.mk.injEq .. |>.mpr ⟨hkind.mpr hdata, hurl⟩
    · have hview := hkind.mpr hdata
      rw [hintent] at hview
      cases hview

/-- Capitals do not matter, and a second colon does not either. -/
theorem scheme_and_data_capitals :
    (LaunchUrl.mk "dATA:é:,").scheme? = some "dATA" ∧
    (LaunchUrl.mk "dATA:é:,").browserIntent = ⟨.appBrowser, "dATA:é:,"⟩ := by
  obtain ⟨hscheme, -, -, hdata⟩ := scheme_and_data ⟨"dATA:é:,"⟩
  exact ⟨(hscheme "dATA").mpr ⟨by decide, by simp, "é:,", by decide⟩, hdata (by decide)⟩

end NotificationTap.LaunchUrl
