/-!
# Safe addresses

An address may be followed when it is relative or has one of a few harmless
schemes. Any other address is blanked.
-/

namespace MarkView.Html

/-- The schemes that an address may have, in small letters. -/
def safeSchemes : List String := ["http", "https", "mailto", "tel", "irc", "ircs", "xmpp"]

/-- Characters before which a scheme would have to end: from there on an address
is path, query or fragment. -/
def endsScheme (c : Char) : Bool := c == '/' || c == '?' || c == '#'

/-- Whether an address, given by its characters, is relative or has a safe
scheme. The first colon decides: what precedes it is a scheme, unless it already
holds path, query or fragment. -/
def isSafe (url : List Char) : Bool :=
  let scheme := url.takeWhile (· != ':')
  scheme.length == url.length || scheme.any endsScheme ||
    safeSchemes.contains (String.ofList (scheme.map Char.toLower))

/-- The address itself if it is safe, and the empty one otherwise. -/
def safeUrl (url : String) : String := if isSafe url.toList then url else ""

end MarkView.Html
