import SourceAudit.Catalog
import SourceAudit.Text.Lowercase
import SourceAudit.Text.Loose

/-!
# Scanning a text

A scan applies the profile of an extension to a text. Findings come in the order of the rules, those
of one rule in ascending order of lines. No rule and no extension of the catalog tells a surrogate from
the replacement character, so a loose text is scanned as it is shown.
-/

namespace SourceAudit

/-- A text in lower case. A surrogate has none, and it ends a word, so that the final sigma rule
looks at each part between surrogates by itself. -/
def LooseText.lower (text : LooseText) : LooseText :=
  text.mapParts fun part => String.ofList (Text.lower part.toList)

/-- The lower case of what follows the last dot of a file name; nothing where there is no dot.
Blanks in it stay, and a dot in a directory name counts like any other. -/
def extensionOf (fileName : LooseText) : LooseText :=
  if fileName.holds '.' then (fileName.afterLast '.').lower else ""

/-- An extension as the catalog spells it: without blanks around it and dots before it, in lower
case. -/
def normalizeExtension (extension : String) : String :=
  String.ofList (Text.lower ((Text.trim extension.toList).dropWhile (· == '.')))

/-- What the profile of an extension finds in a text, rule by rule. An extension without a profile
is no error; nothing is found then. -/
def scan (content extension : String) : List Finding :=
  (Catalog.profileFor (normalizeExtension extension)).flatMap (·.findings content.toList)

end SourceAudit
