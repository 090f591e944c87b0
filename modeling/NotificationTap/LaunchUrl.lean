/-!
# Launch URLs

The URL that a notification asks to open. It is any text: a scheme is looked for, and nothing else
of a URL's grammar is checked.

* `LaunchUrl.parse?`: the URL a raw text stands for; padding around it is dropped, and a text of
  padding alone stands for none.
* `LaunchUrl.scheme?`: the scheme a URL names.
* `LaunchUrl.browserIntent`: how a browser is asked to open a URL.
-/

namespace NotificationTap

/-- A URL to open, as the notification gave it. -/
structure LaunchUrl where
  /-- The URL's text. -/
  text : String
deriving DecidableEq, Repr

/-- How a browser is asked to show a URL. -/
inductive BrowserKind where
  /-- Whatever program views that kind of URL. -/
  | view
  /-- The default browser, by name: viewers do not take `data:` URLs. -/
  | appBrowser
deriving DecidableEq, Repr

/-- A request to a browser. -/
structure BrowserIntent where
  /-- How the URL is shown. -/
  kind : BrowserKind
  /-- The URL as the browser receives it. -/
  url : String
deriving DecidableEq, Repr

namespace LaunchUrl

/-- Padding around a URL: the space and every character below it. -/
def isPadding (c : Char) : Bool := c ≤ ' '

/-- The characters without the padding at both ends. -/
def trim (raw : List Char) : List Char :=
  ((raw.dropWhile isPadding).reverse.dropWhile isPadding).reverse

/-- The URL that a raw text stands for, if the text is not all padding. -/
def parse? (raw : String) : Option LaunchUrl :=
  match trim raw.toList with
  | [] => none
  | c :: cs => some ⟨String.ofList (c :: cs)⟩

/-- The characters that end the search for a scheme. -/
def isDelimiter (c : Char) : Bool := c = ':' || c = '/' || c = '?' || c = '#'

/-- The characters before the first delimiter, if that delimiter is a colon and does not come
first. -/
def schemeOf (url : List Char) : Option (List Char) :=
  match url.takeWhile (!isDelimiter ·), url.dropWhile (!isDelimiter ·) with
  | c :: cs, ':' :: _ => some (c :: cs)
  | _, _ => none

/-- The scheme that a URL names, in the letters it was written in. -/
def scheme? (url : LaunchUrl) : Option String := (schemeOf url.text.toList).map String.ofList

/-- Whether `://` stands anywhere in the text. -/
def hasAuthorityMark : List Char → Bool
  | ':' :: '/' :: '/' :: _ => true
  | _ :: rest => hasAuthorityMark rest
  | [] => false

/-- Whether a scheme is `data`, in any mix of ASCII capitals and small letters. -/
def isDataScheme (scheme : String) : Bool := scheme.toList.map Char.toLower = "data".toList

/-- How a browser is asked to open the URL. A `data:` URL goes to the default browser. Any other
URL is viewed: as it stands if it has a scheme, or at least `://` in it; behind `http://` if not. -/
def browserIntent (url : LaunchUrl) : BrowserIntent :=
  match url.scheme? with
  | some scheme => ⟨if isDataScheme scheme then .appBrowser else .view, url.text⟩
  | none =>
    if hasAuthorityMark url.text.toList then ⟨.view, url.text⟩
    else ⟨.view, "http://" ++ url.text⟩

end LaunchUrl

end NotificationTap
