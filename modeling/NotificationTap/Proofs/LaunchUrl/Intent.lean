import NotificationTap.Proofs.LaunchUrl.Trimming

/-!
# What a browser is asked to open

A URL that names a scheme reaches the browser as it is. One that names none is put behind `http://`,
unless `://` stands in it, be it in its path, query or fragment.

* `hasAuthorityMark_iff`: what is looked for is `://`, anywhere in the text.
* `browserIntent_cases`: the three ways to ask a browser for a URL.
  `browserIntent_kept_or_behindHttp`: the URL that is asked for has `http://` in front or nothing.
* `scheme?_behindHttp`, `browserIntent_behindHttp`: what stands behind `http://` has that scheme.
* `schemeless_intent`: when the browser is given a URL without a scheme.
* `unprefixed_redirect`: a URL with another URL in its query is given to it without a scheme.
* `browserIntent_stable`: a URL that was given to a browser is parsed and given to it unchanged.
-/

namespace NotificationTap.LaunchUrl

/-- A URL's text behind `http://`. -/
def behindHttp (text : String) : LaunchUrl := ⟨"http://" ++ text⟩

/-- `://` stands somewhere in the text. -/
def AuthorityMarked (text : String) : Prop := "://".toList <:+: text.toList

instance (text : String) : Decidable (AuthorityMarked text) :=
  inferInstanceAs (Decidable (_ <:+: _))

theorem hasAuthorityMark_iff {cs : List Char} :
    hasAuthorityMark cs = true ↔ "://".toList <:+: cs := by
  induction cs using hasAuthorityMark.induct with
  | case1 rest => exact iff_of_true (by rw [hasAuthorityMark]) ⟨[], rest, rfl⟩
  | case2 c rest hne ih =>
    rw [hasAuthorityMark.eq_2 c rest hne, ih, List.infix_cons_iff]
    constructor
    · exact .inr
    · rintro (⟨tail, htail⟩ | h)
      · obtain ⟨rfl, rfl⟩ := List.cons.inj htail
        exact absurd rfl (hne tail rfl)
      · exact h
  | case3 => decide

/-! ## The three ways -/

/-- A URL is given to a browser as it is if it names a scheme or `://` stands in it, and behind
`http://` if not. -/
theorem browserIntent_cases (url : LaunchUrl) :
    (∃ scheme, url.scheme? = some scheme ∧
      url.browserIntent = ⟨if isDataScheme scheme then .appBrowser else .view, url.text⟩) ∨
    url.scheme? = none ∧ AuthorityMarked url.text ∧ url.browserIntent = ⟨.view, url.text⟩ ∨
    url.scheme? = none ∧ ¬AuthorityMarked url.text ∧
      url.browserIntent = ⟨.view, (behindHttp url.text).text⟩ := by
  unfold browserIntent
  cases hscheme : url.scheme? with
  | some scheme => exact .inl ⟨scheme, rfl, rfl⟩
  | none =>
    by_cases hmark : AuthorityMarked url.text
    · exact .inr (.inl ⟨rfl, hmark, if_pos (hasAuthorityMark_iff.mpr hmark)⟩)
    · exact .inr (.inr ⟨rfl, hmark, if_neg (mt hasAuthorityMark_iff.mp hmark)⟩)

example : browserIntent ⟨"/a://b"⟩ = ⟨.view, "/a://b"⟩ := by decide

/-- Either the browser is given the URL's own text, or it is to view that text behind `http://`. -/
theorem browserIntent_kept_or_behindHttp (url : LaunchUrl) :
    url.browserIntent.url = url.text ∨
      url.browserIntent = ⟨.view, (behindHttp url.text).text⟩ := by
  rcases browserIntent_cases url with ⟨_, -, hintent⟩ | ⟨-, -, hintent⟩ | ⟨-, -, hintent⟩
  · exact .inl (congrArg BrowserIntent.url hintent)
  · exact .inl (congrArg BrowserIntent.url hintent)
  · exact .inr hintent

theorem scheme?_behindHttp (text : String) : (behindHttp text).scheme? = some "http" := by
  have htext : (behindHttp text).text.toList = "http://".toList ++ text.toList :=
    String.toList_append
  rw [scheme?, htext]
  rfl

theorem browserIntent_behindHttp (text : String) :
    (behindHttp text).browserIntent = ⟨.view, (behindHttp text).text⟩ := by
  rw [browserIntent, scheme?_behindHttp]
  rfl

/-! ## URLs without a scheme -/

/-- A URL that names no scheme is viewed, and it is put behind `http://` exactly if `://` does not
stand in it. So the URL that a browser is given names no scheme exactly if the one that was parsed
names none and `://` stands in it. -/
theorem schemeless_intent (url : LaunchUrl) :
    let intent := url.browserIntent
    (url.scheme? = none → intent.kind = .view ∧
      (intent.url = "http://" ++ url.text ↔ ¬AuthorityMarked url.text) ∧
      (intent.url = url.text ↔ AuthorityMarked url.text)) ∧
    ((LaunchUrl.mk intent.url).scheme? = none ↔ url.scheme? = none ∧ AuthorityMarked url.text) := by
  intro intent
  have hlonger : "http://" ++ url.text ≠ url.text := by
    intro hsame
    simpa using congrArg String.length hsame
  rcases browserIntent_cases url with
    ⟨scheme, hscheme, hintent⟩ | ⟨hscheme, hmark, hintent⟩ | ⟨hscheme, hmark, hintent⟩
  · have hkept : LaunchUrl.mk intent.url = url := congrArg (LaunchUrl.mk ·.url) hintent
    simp [hkept, hscheme]
  · have hurl : intent.url = url.text := congrArg BrowserIntent.url hintent
    refine ⟨fun _ => ⟨congrArg BrowserIntent.kind hintent, ?_, iff_of_true hurl hmark⟩, ?_⟩
    · exact iff_of_false (hurl ▸ hlonger.symm) (not_not_intro hmark)
    · rw [hurl]
      exact iff_of_true hscheme ⟨hscheme, hmark⟩
  · have hurl : intent.url = "http://" ++ url.text := congrArg BrowserIntent.url hintent
    have hnamed : (LaunchUrl.mk intent.url).scheme? = some "http" := by
      rw [hurl]
      exact scheme?_behindHttp url.text
    refine ⟨fun _ => ⟨congrArg BrowserIntent.kind hintent, iff_of_true hurl hmark, ?_⟩, ?_⟩
    · exact iff_of_false (hurl ▸ hlonger) hmark
    · simp [hnamed, hmark]

/-- A delimiter before the colon keeps a URL from naming a scheme. -/
theorem schemeless_intent_slash :
    (LaunchUrl.mk "a/b:c").scheme? = none ∧
    (LaunchUrl.mk "a/b:c").browserIntent = ⟨.view, "http://a/b:c"⟩ := by
  have hscheme : (LaunchUrl.mk "a/b:c").scheme? = none := by decide
  obtain ⟨hkind, hprefixed, -⟩ := (schemeless_intent ⟨"a/b:c"⟩).1 hscheme
  have hurl := hprefixed.mpr (by decide)
  exact ⟨hscheme, BrowserIntent.mk.injEq .. |>.mpr ⟨hkind, hurl⟩⟩

/-- A URL without a scheme that has another URL in its query. The browser is given it as it is, so
that it names no scheme there either. -/
theorem unprefixed_redirect :
    ∃ url, parse? "a.example/login?next=https://b.example" = some url ∧ url.scheme? = none ∧
      url.browserIntent = ⟨.view, "a.example/login?next=https://b.example"⟩ ∧
      (LaunchUrl.mk url.browserIntent.url).scheme? = none :=
  ⟨⟨"a.example/login?next=https://b.example"⟩, by decide⟩

/-! ## URLs that were given to a browser -/

/-- A URL that was given to a browser is parsed as it is, and the browser is asked for it in the
same way again. It ends in the URL that it was made of, and has nothing but `http://` in front. -/
theorem browserIntent_stable {raw : String} {url : LaunchUrl} (h : parse? raw = some url) :
    let intent := url.browserIntent
    parse? intent.url = some ⟨intent.url⟩ ∧ (LaunchUrl.mk intent.url).browserIntent = intent ∧
    ∃ front, (front = "" ∨ front = "http://") ∧ intent.url = front ++ url.text := by
  intro intent
  obtain ⟨htrimmed, -⟩ := parse?_eq_some_iff.mp h
  rcases browserIntent_kept_or_behindHttp url with hkept | hbehind
  · have hurl : LaunchUrl.mk intent.url = url := congrArg LaunchUrl.mk hkept
    rw [hurl, show intent.url = url.text from hkept]
    exact ⟨parse?_text htrimmed, rfl, "", .inl rfl, String.empty_append.symm⟩
  · have htrimmed' : Trimmed (behindHttp url.text).text.toList := by
      rw [behindHttp, String.toList_append]
      exact Trimmed.append (by decide) htrimmed
    rw [show intent = _ from hbehind]
    exact ⟨parse?_text htrimmed', browserIntent_behindHttp url.text, "http://", .inr rfl, rfl⟩

/-- A URL without a scheme, with padding around it and a colon in it. -/
theorem browserIntent_stable_schemeless :
    parse? "\té.example/a:b " = some ⟨"é.example/a:b"⟩ ∧
    parse? "http://é.example/a:b" = some ⟨"http://é.example/a:b"⟩ ∧
    (LaunchUrl.mk "http://é.example/a:b").browserIntent = ⟨.view, "http://é.example/a:b"⟩ := by
  have hparse : parse? "\té.example/a:b " = some ⟨"é.example/a:b"⟩ := by decide
  have hintent : (LaunchUrl.mk "é.example/a:b").browserIntent =
      ⟨.view, "http://é.example/a:b"⟩ := by
    decide
  obtain ⟨hagain, hsame, -⟩ := browserIntent_stable hparse
  rw [hintent] at hagain hsame
  exact ⟨hparse, hagain, hsame⟩

end NotificationTap.LaunchUrl
