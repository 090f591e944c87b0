import Mathlib.Data.List.DropRight
import NotificationTap.LaunchUrl

/-!
# Padding around a URL

* `Padding`, `Trimmed`: nothing but padding, and something with no padding at its ends.
* `eq_append_trim`, `trimmed_trim`: what is cut off at the ends is padding, and all of it is cut
  off.
* `trim_append`: what is trimmed comes out of any padding around it as it is.
* `parse?_eq_some_iff`: a text stands for a URL if it is that URL with padding around it.
* `PaddedUrl`: the same as a relation between texts and URLs. `parse?_padded`: parsing decides it,
  and finds the one URL that there is.
-/

namespace NotificationTap.LaunchUrl

/-- Nothing but padding. -/
def Padding (cs : List Char) : Prop := ∀ c ∈ cs, c ≤ ' '

/-- There are characters, and neither the first nor the last of them is padding. -/
def Trimmed (cs : List Char) : Prop := ∃ h : cs ≠ [], ' ' < cs.head h ∧ ' ' < cs.getLast h

instance (cs : List Char) : Decidable (Trimmed cs) := inferInstanceAs (Decidable (∃ _, _))

instance (cs : List Char) : Decidable (Padding cs) := List.decidableBAll (· ≤ ' ') cs

variable {cs front back : List Char} {c : Char}

@[simp] theorem isPadding_eq_true : isPadding c = true ↔ c ≤ ' ' := by simp [isPadding]

@[simp] theorem isPadding_eq_false : isPadding c = false ↔ ' ' < c := by simp [isPadding]

theorem padding_nil : Padding [] := List.forall_mem_nil _

theorem Padding.reverse (h : Padding cs) : Padding cs.reverse :=
  fun c hc => h c (List.mem_reverse.mp hc)

theorem Padding.append (hfront : Padding front) (hback : Padding back) : Padding (front ++ back) :=
  List.forall_mem_append.mpr ⟨hfront, hback⟩

theorem Trimmed.reverse (h : Trimmed cs) : Trimmed cs.reverse := by
  obtain ⟨hne, hhead, hlast⟩ := h
  refine ⟨by simpa using hne, ?_, ?_⟩
  · rwa [List.head_reverse]
  · rwa [List.getLast_reverse]

theorem Trimmed.append (hfront : Trimmed front) (hback : Trimmed back) :
    Trimmed (front ++ back) := by
  obtain ⟨hne, hhead, -⟩ := hfront
  obtain ⟨hne', -, hlast⟩ := hback
  refine ⟨List.append_ne_nil_of_left_ne_nil hne _, ?_, ?_⟩
  · rwa [List.head_append_of_ne_nil hne]
  · rwa [List.getLast_append_of_ne_nil _ hne']

/-! ## Trimming -/

/-- Padding in front is dropped, up to what is trimmed. -/
theorem dropWhile_isPadding (hfront : Padding front) (hcs : Trimmed cs) (back : List Char) :
    (front ++ (cs ++ back)).dropWhile isPadding = cs ++ back := by
  obtain ⟨hne, hhead, -⟩ := hcs
  obtain ⟨c, cs, rfl⟩ := List.exists_cons_of_ne_nil hne
  rw [List.dropWhile_append_of_pos fun c hc => isPadding_eq_true.mpr (hfront c hc)]
  exact List.dropWhile_cons_of_neg (by simpa using hhead)

/-- What is trimmed comes out of any padding around it as it is. -/
theorem trim_append (hfront : Padding front) (hcs : Trimmed cs) (hback : Padding back) :
    trim (front ++ (cs ++ back)) = cs := by
  have hdrop := dropWhile_isPadding hback.reverse hcs.reverse []
  rw [List.append_nil] at hdrop
  rw [trim, dropWhile_isPadding hfront hcs, List.reverse_append, hdrop, List.reverse_reverse]

/-- What is cut off at the ends is padding. -/
theorem eq_append_trim (raw : List Char) :
    ∃ front back, raw = front ++ (trim raw ++ back) ∧ Padding front ∧ Padding back := by
  let body := raw.dropWhile isPadding
  refine ⟨raw.takeWhile isPadding, body.rtakeWhile isPadding, ?_, fun c hc => ?_, fun c hc => ?_⟩
  · calc raw = raw.takeWhile isPadding ++ body := List.takeWhile_append_dropWhile.symm
      _ = raw.takeWhile isPadding ++ (body.rdropWhile isPadding ++ body.rtakeWhile isPadding) := by
        rw [List.rdropWhile_append_rtakeWhile]
  · exact isPadding_eq_true.mp (List.mem_takeWhile_imp hc)
  · exact isPadding_eq_true.mp (List.mem_rtakeWhile_imp hc)

/-- All the padding at the ends is cut off. -/
theorem trimmed_trim {raw : List Char} (h : trim raw ≠ []) : Trimmed (trim raw) := by
  have hback : trim raw <+: raw.dropWhile isPadding := List.rdropWhile_prefix isPadding _
  have hlast : ¬isPadding ((trim raw).getLast h) := List.rdropWhile_last_not isPadding _ h
  refine ⟨h, ?_, by simpa using hlast⟩
  rw [hback.head h]
  exact isPadding_eq_false.mp (List.head_dropWhile_not isPadding _)

theorem mem_of_mem_trim (h : c ∈ trim cs) : c ∈ cs := by
  obtain ⟨front, back, hcs, -, -⟩ := eq_append_trim cs
  rw [hcs]
  exact List.mem_append_right _ (List.mem_append_left _ h)

/-- Nothing is left of padding, and of nothing else. -/
theorem trim_eq_nil_iff : trim cs = [] ↔ Padding cs := by
  constructor
  · intro hnil
    obtain ⟨front, back, hcs, hfront, hback⟩ := eq_append_trim cs
    rw [hcs, hnil]
    exact hfront.append hback
  · intro hpadding
    by_contra hne
    obtain ⟨_, hhead, -⟩ := trimmed_trim hne
    exact Char.not_lt.mpr (hpadding _ (mem_of_mem_trim (List.head_mem hne))) hhead

/-! ## Parsing -/

/-- A text stands for what is left of it when it is trimmed. -/
theorem parse?_eq_some {raw : String} {url : LaunchUrl} :
    parse? raw = some url ↔ trim raw.toList = url.text.toList ∧ url.text.toList ≠ [] := by
  rw [parse?]
  cases htrim : trim raw.toList with
  | nil =>
    constructor
    · nofun
    · rintro ⟨hnil, hne⟩
      exact absurd hnil.symm hne
  | cons c cs =>
    obtain ⟨text⟩ := url
    simp only [Option.some.injEq, LaunchUrl.mk.injEq]
    constructor
    · rintro rfl
      simp
    · rintro ⟨htext, -⟩
      rw [htext, String.ofList_toList]

/-- A text stands for a URL if it is that URL with padding around it. -/
theorem parse?_eq_some_iff {raw : String} {url : LaunchUrl} : parse? raw = some url ↔
    Trimmed url.text.toList ∧ ∃ front back, raw.toList = front ++ (url.text.toList ++ back) ∧
      Padding front ∧ Padding back := by
  rw [parse?_eq_some]
  constructor
  · rintro ⟨htrim, hne⟩
    rw [← htrim] at hne ⊢
    exact ⟨trimmed_trim hne, eq_append_trim raw.toList⟩
  · rintro ⟨htrimmed, front, back, hraw, hfront, hback⟩
    rw [hraw, trim_append hfront htrimmed hback]
    exact ⟨rfl, htrimmed.1⟩

/-- A URL that is trimmed is parsed from its own text. -/
theorem parse?_text {url : LaunchUrl} (h : Trimmed url.text.toList) :
    parse? url.text = some url :=
  parse?_eq_some_iff.mpr ⟨h, [], [], by simp, padding_nil, padding_nil⟩

/-- A text stands for no URL if it is all padding. -/
theorem parse?_eq_none_iff {raw : String} : parse? raw = none ↔ Padding raw.toList := by
  rw [← trim_eq_nil_iff, parse?]
  cases trim raw.toList <;> simp

example : parse? " \n" = none := by decide

/-! ## Padded URLs -/

/-- The text is the URL between two texts of padding, and the URL has no padding at its ends. -/
def PaddedUrl (raw : String) (url : LaunchUrl) : Prop :=
  Trimmed url.text.toList ∧ ∃ front back : String, raw = front ++ url.text ++ back ∧
    Padding front.toList ∧ Padding back.toList

theorem PaddedUrl.append {raw front back : String} {url : LaunchUrl} (h : PaddedUrl raw url)
    (hfront : Padding front.toList) (hback : Padding back.toList) :
    PaddedUrl (front ++ raw ++ back) url := by
  obtain ⟨htrimmed, first, last, rfl, hfirst, hlast⟩ := h
  refine ⟨htrimmed, front ++ first, last ++ back, by simp only [String.append_assoc], ?_, ?_⟩
  · rw [String.toList_append]
    exact hfront.append hfirst
  · rw [String.toList_append]
    exact hlast.append hback

theorem parse?_eq_some_iff_paddedUrl {raw : String} {url : LaunchUrl} :
    parse? raw = some url ↔ PaddedUrl raw url := by
  rw [parse?_eq_some_iff, PaddedUrl]
  refine and_congr_right fun _ => ⟨?_, ?_⟩
  · rintro ⟨front, back, hraw, hfront, hback⟩
    refine ⟨String.ofList front, String.ofList back, ?_, by simpa using hfront, by simpa using hback⟩
    rw [← String.toList_inj]
    simpa using hraw
  · rintro ⟨front, back, rfl, hfront, hback⟩
    exact ⟨front.toList, back.toList, by simp, hfront, hback⟩

/-- Padding around a text makes no difference. -/
theorem parse?_append {front raw back : String} (hfront : Padding front.toList)
    (hback : Padding back.toList) : parse? (front ++ raw ++ back) = parse? raw := by
  cases hparse : parse? raw with
  | none =>
    rw [parse?_eq_none_iff, String.toList_append, String.toList_append]
    exact (hfront.append (parse?_eq_none_iff.mp hparse)).append hback
  | some url =>
    rw [parse?_eq_some_iff_paddedUrl] at hparse ⊢
    exact hparse.append hfront hback

/-- A text of padding alone stands for no URL. Any other text is one URL between two texts of
padding, and stands for that URL; there is no second one. So padding that is put around a text makes
no difference, and a URL stands for itself: whatever is not at its ends is kept. -/
theorem parse?_padded (raw : String) :
    (parse? raw = none ↔ ∀ c ∈ raw.toList, c ≤ ' ') ∧
    (∀ url, parse? raw = some url ↔ PaddedUrl raw url) ∧
    (∀ url other, PaddedUrl raw url → PaddedUrl raw other → url = other) ∧
    (∀ front back, Padding front.toList → Padding back.toList →
      parse? (front ++ raw ++ back) = parse? raw) ∧
    ∀ url, parse? raw = some url → parse? url.text = some url := by
  refine ⟨parse?_eq_none_iff, fun _ => parse?_eq_some_iff_paddedUrl, fun url other hurl hother => ?_,
    fun _ _ => parse?_append, fun url hparse => parse?_text (parse?_eq_some_iff.mp hparse).1⟩
  have hparse := parse?_eq_some_iff_paddedUrl.mpr hurl
  exact Option.some.inj (hparse.symm.trans (parse?_eq_some_iff_paddedUrl.mpr hother))

/-- Blanks and a control character inside a URL are kept, and so is a blank at its end that is no
ASCII character. -/
theorem parse?_padded_inside :
    parse? ("\x00 " ++ "a \x01b\u00a0" ++ "\t\n") = some ⟨"a \x01b\u00a0"⟩ ∧
    ∀ other, PaddedUrl "a \x01b\u00a0" other → other = ⟨"a \x01b\u00a0"⟩ := by
  obtain ⟨-, hsome, hunique, hpadding, -⟩ := parse?_padded "a \x01b\u00a0"
  have hparse : parse? "a \x01b\u00a0" = some ⟨"a \x01b\u00a0"⟩ := by decide
  have hpadded := (hsome _).mp hparse
  refine ⟨?_, fun other hother => hunique _ _ hother hpadded⟩
  rw [hpadding "\x00 " "\t\n" (by decide) (by decide), hparse]

end NotificationTap.LaunchUrl
