import LineCensus.Options
import LineCensus.Path
import LineCensus.Registry

/-!
# Which languages are counted

Extensions can be left out, with the languages that they belong to; or languages can be named, and
only those are counted.
-/

namespace LineCensus

/-- The extensions and languages to leave out, and the languages to count; when none of these are
known, all are counted. -/
structure LanguageChoice where
  excludeExt : List String
  excludeLang : List String
  includeLang : List String
  deriving DecidableEq, Repr

namespace LanguageChoice

/-- The filter for a registry.  An extension stands for the language it is listed with; languages
that the registry does not have are passed over. -/
def make (r : Registry) (excludeExt includeLang : List String) :
    Except LanguageFault LanguageChoice :=
  let excludeExt := (excludeExt.map Options.dropDots).eraseDups
  let languages := excludeExt.filterMap r.extensions.find?
  if !languages.all Value.isHashable then .error .unhashable
  else
    .ok {
      excludeExt
      excludeLang := (languages.filterMap Value.text?).eraseDups
      includeLang := (includeLang.filter r.contains).eraseDups }

def admits (f : LanguageChoice) (path : Path) (language : String) : Bool :=
  !f.excludeExt.contains path.extension && !f.excludeExt.contains language &&
    !f.excludeLang.contains language &&
    (f.includeLang.isEmpty || f.includeLang.contains language)

end LanguageChoice

end LineCensus
