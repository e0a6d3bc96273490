-- Locales: a language with an optional country and variant, written as a tag such as
-- `en-US`. A tag may use hyphens or underscores; what stands behind the country is
-- the variant.
import WebRequest.Text.Blank
import WebRequest.Text.Ascii

namespace WebRequest

/-- A language, with a country and a variant that are empty when absent. -/
structure Locale where
  language : String
  country : String := ""
  variant : String := ""
  deriving DecidableEq, Repr

namespace Locale

/-- A locale without a variant; the language is written small and the country in capitals. -/
def of (language country : String) : Locale :=
  { language := Text.lower language, country := Text.upper country }

/-- The locale of a site that names none. -/
def standard : Locale := of "en" "US"

/-- The tag: the parts that are not empty, joined by hyphens. The language always leads. -/
def tag (l : Locale) : String :=
  l.language ++ (if l.country.isEmpty then "" else "-" ++ l.country) ++
    (if l.variant.isEmpty then "" else "-" ++ l.variant)

/-- A character that parts a tag. -/
def isSeparator (c : Char) : Bool := c = '-' || c = '_'

/-- Letters and digits of ASCII, and the hyphen. -/
def isSubtag (cs : List Char) : Bool := cs.all fun c => c.isAlphanum || c = '-'

/-- The locale of a tag, over characters. -/
def ofChars? (cs : List Char) : Option Locale :=
  match (Text.strip Text.isBlank cs).splitOnP isSeparator with
  | [] => none
  | language :: rest =>
    let country := rest.head?.getD []
    let variant := ['-'].intercalate (rest.drop 1)
    if language.isEmpty || !language.all Char.isAlpha || !isSubtag country || !isSubtag variant
    then none
    else
      some { of (String.ofList language) (String.ofList country) with
        variant := String.ofList variant }

/-- The locale of a tag; blanks around it do not count. -/
def ofTag? (tag : String) : Option Locale := ofChars? tag.toList

/-- What is said of a tag that names no locale. -/
def invalidTag (tag : String) : String := "invalid locale tag: " ++ tag

example : (ofTag? "sl_IT_nedis").map tag = some "sl-IT-nedis" := by cbv

end Locale

end WebRequest
