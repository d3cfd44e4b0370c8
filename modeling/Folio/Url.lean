import Folio.Text.Occurrence

namespace Folio
namespace Url

/-!
# Addresses of pages

Source pages link to each other by file name, `page.html#place`; the published site serves them as
directories, `/page/#place`.  An address is relative when it has no scheme, does not start at the
root and is not only a place on the same page.
-/

def isSchemeChar (c : Char) : Bool := c.isAlphanum || c == '+' || c == '.' || c == '-'

/-- Whether an address begins with a scheme: a letter, scheme characters and a colon. -/
def hasScheme : List Char → Bool
  | [] => false
  | c :: cs => c.isAlpha && (cs.dropWhile isSchemeChar).head? == some ':'

/-- Whether an address is relative to the page it stands on. -/
def isRelative (url : String) : Bool :=
  match url.toList with
  | [] => false
  | c :: cs => !(c == '/' || c == '#' || hasScheme (c :: cs))

/-- The end of a page's file name, in small letters. -/
def pageSuffix : List Char := ".html".toList

/-- What follows the end of a page's file name at the front of a text, if that is nothing or a
place on the page. -/
def placeAfterSuffix? (cs : List Char) : Option (List Char) :=
  if (cs.take pageSuffix.length).map Char.toLower = pageSuffix then
    match cs.drop pageSuffix.length with
    | [] => some []
    | '#' :: place => some ('#' :: place)
    | _ => none
  else none

/-- Split an address at the last place where a page's file name may end: the page without its
ending, and what follows. -/
def splitPage? : List Char → Option (List Char × List Char)
  | [] => none
  | c :: cs =>
    match splitPage? cs with
    | some (page, place) => some (c :: page, place)
    | none => (placeAfterSuffix? (c :: cs)).map ([], ·)

/-- Split the address of a page; an address with a line feed is none. -/
def pageAndPlace? (url : String) : Option (List Char × List Char) :=
  if '\n' ∈ url.toList then none else splitPage? url.toList

/-- Whether an address is a relative link to another source page. -/
def isInternal (url : String) : Bool := isRelative url && (pageAndPlace? url).isSome

/-- The address at which the site serves a source page. -/
def published (url : String) : String :=
  match pageAndPlace? url with
  | some (page, place) => String.ofList ('/' :: page ++ '/' :: place)
  | none => "/" ++ url

end Url
end Folio
