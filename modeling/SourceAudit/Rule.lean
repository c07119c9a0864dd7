import SourceAudit.Finding
import SourceAudit.Password
import SourceAudit.Text.Lines
import SourceAudit.Text.Occurrence

/-!
# Rules

A rule is a detector with a severity and texts. Detectors look at a text line by line and report
lines: a sweep reports every line that holds its token, the others the first line only. A token that
spans lines is in the text without being in any line; the detectors that ask the whole text first
report the first line then.
-/

namespace SourceAudit

open Text (lines occurs)

/-- What a rule looks for: the first place of a token, every line with a token, the first place of
any of some tokens, or the first line that assigns a password. -/
inductive Detector
  | substring (token : String)
  | sweep (token : String)
  | anyOf (tokens : List String)
  | hardcodedPassword
  deriving DecidableEq

namespace Detector

/-- The name of a detector's kind, which lists of rules show in place of the detector itself. -/
def kind : Detector → String
  | .substring _ => "substring"
  | .sweep _ => "sweep"
  | .anyOf _ => "any"
  | .hardcodedPassword => "regex"

/-- The first line of a text that satisfies a test. The lines are tested one by one, without the
line feeds between them. -/
def firstLine (test : List Char → Bool) (text : List Char) : Option LineNumber :=
  ((lines text).findIdx? test).map LineNumber.mk

/-- Every line of a text that satisfies a test, in order. -/
def everyLine (test : List Char → Bool) (text : List Char) : List LineNumber :=
  (lines text).zipIdx.filterMap fun (line, before) => if test line then some ⟨before⟩ else none

/-- The first line that satisfies a test, where the text as a whole does. If none of its lines does,
as a token may span several of them, that is the first line of all. -/
def onceIfAny (test : List Char → Bool) (text : List Char) : List LineNumber :=
  if test text then [(firstLine test text).getD .first] else []

/-- Whether one of several tokens occurs in a text. It does not matter which one, or how many of
them do. -/
def occursAny (tokens : List String) (text : List Char) : Bool :=
  tokens.any fun token => occurs token.toList text

/-- Whether a text assigns a password anywhere. Detectors ask this of single lines, so an assignment
that goes over a line break is not seen. -/
def assignsPassword (text : List Char) : Bool :=
  (Password.search text).isSome

/-- The lines that a detector reports, in ascending order and without repetitions. Only a sweep can
report more than one. -/
def detect (detector : Detector) (text : List Char) : List LineNumber :=
  match detector with
  | .substring token => onceIfAny (occurs token.toList) text
  | .sweep token => everyLine (occurs token.toList) text
  | .anyOf tokens => onceIfAny (occursAny tokens) text
  | .hardcodedPassword => (firstLine assignsPassword text).toList

end Detector

/-- A detector with the severity and the texts of what it finds. All findings of a rule agree in
everything but the line. -/
structure Rule where
  id : String
  severity : Severity
  detector : Detector
  message : String
  improvement : String
  deriving DecidableEq

namespace Rule

/-- What a rule says about one line, which is all that a finding adds to the rule. -/
def findingAt (rule : Rule) (line : LineNumber) : Finding :=
  ⟨rule.severity, rule.message, line, rule.id, rule.improvement⟩

/-- What a rule finds in a text. -/
def findings (rule : Rule) (text : List Char) : List Finding :=
  (rule.detector.detect text).map rule.findingAt

end Rule

end SourceAudit
