import SourceAudit.Decimal.Digits
import SourceAudit.Finding

/-!
# Prompts

What a model is asked: the name of the file, the findings it should fix, and last the code itself in
a fence, right after the request for an answer in the same form. A finding is listed with its line, so
there is no prompt where a line number has too many digits to be written.
-/

namespace SourceAudit.Prompt

/-- The instruction that goes with every prompt. It says nothing of the file, so one text does for
all. -/
def system : String := "You are an AI assistant that enhances code."

/-- One finding as the prompt lists it: its severity, the rule, the line, and what the rule says and
suggests. Its texts are put in as they are, line feeds included. -/
def findingLine (finding : Finding) : LooseText :=
  "- [" ++ finding.severity.name ++ "] " ++ finding.rule ++ " (line "
    ++ Decimal.natText finding.line.number ++ "): " ++ finding.message ++ ". Suggested fix: "
    ++ finding.improvement

/-- The findings, a line each. -/
def findingLines : List Finding → LooseText
  | [] => ""
  | finding :: rest => findingLine finding ++ "\n" ++ findingLines rest

/-- The prompt up to the request: the file, and what should be better about it. Without findings it
asks for security and quality in general. -/
def preamble (fileName : LooseText) (findings : List Finding) : LooseText :=
  let task : LooseText :=
    if findings.isEmpty then "Improve its security and code quality.\n"
    else "Fix these issues found by a static scan:\n" ++ findingLines findings
  "Enhance this code from `" ++ fileName ++ "`.\n" ++ task

/-- The request for the form of the answer. It stands right before the code, where a reader of the
prompt can find it again. -/
def request : String := "Reply with the complete updated file in a single code block."

/-- A line feed and a fence, which end a fenced text. -/
def closing : String := "\n```"

/-- A text between two fences. -/
def fenced (code : LooseText) : LooseText :=
  "```\n" ++ code ++ closing

/-- The text of the prompt for a file: the preamble, the request, and the code in a fence. It is
written for any findings; `build` asks whether they can be listed. -/
def text (code fileName : LooseText) (findings : List Finding) : LooseText :=
  preamble fileName findings ++ request ++ "\n" ++ fenced code

/-- The prompt for a file, if its findings can be listed. -/
def build (code fileName : LooseText) (findings : List Finding) : Option LooseText :=
  if findings.all Finding.isWritable then some (text code fileName findings) else none

/-- The request and the opening of the fence that follows it; the code comes right after. A file
name or a finding may hold the same text, which then comes first. -/
def marker : String := request ++ "\n```\n"

end SourceAudit.Prompt
