import SourceAudit.Rule

/-!
# The catalog of rules

Each language has a profile, an ordered list of rules. A profile is chosen by file extension, in
lower case and without a dot; an extension without a profile has no rules.
-/

namespace SourceAudit.Catalog

/-- The rules for JavaScript and TypeScript, the gravest first. They are the only ones that look for
passwords. -/
def javascript : List Rule :=
  [ { id := "no-eval"
      severity := .high
      detector := .substring "eval("
      message := "Use of eval() can be dangerous and lead to code injection vulnerabilities"
      improvement :=
        "Replace eval() with safer alternatives such as Function constructor or "
          ++ "JSON.parse() for JSON data. Consider restructuring your code to avoid dynamic code "
          ++ "execution." },
    { id := "no-dangerous-html"
      severity := .high
      detector := .substring "dangerouslySetInnerHTML"
      message := "dangerouslySetInnerHTML can lead to XSS vulnerabilities"
      improvement :=
        "Use safer alternatives like React components and props. If you must use HTML, "
          ++ "ensure all user input is properly sanitized using a library like DOMPurify." },
    { id := "no-inner-html"
      severity := .medium
      detector := .substring "innerHTML"
      message := "Use of innerHTML can lead to XSS vulnerabilities"
      improvement :=
        "Use safer DOM manipulation methods like textContent or createElement() and "
          ++ "appendChild(). For frameworks like React, use their built-in components and props "
          ++ "system." },
    { id := "no-hardcoded-secrets"
      severity := .medium
      detector := .hardcodedPassword
      message := "Hardcoded password detected"
      improvement :=
        "Use environment variables or a secure vault service to store sensitive "
          ++ "information. Never hardcode secrets in your source code." },
    { id := "no-console"
      severity := .low
      detector := .sweep "console.log"
      message := "Console statements should be removed in production code"
      improvement :=
        "Remove console.log statements or replace with proper logging that can be disabled "
          ++ "in production. Consider using a logging library that supports different log levels." },
    { id := "no-todo-comments"
      severity := .low
      detector := .anyOf ["TODO", "FIXME"]
      message := "TODO or FIXME comment found"
      improvement :=
        "Address the TODO/FIXME comments before deploying to production. If it's a known "
          ++ "limitation, document it properly and create an issue in your project management "
          ++ "system." }]

/-- The rules for Python, the gravest first. Every call for input is reported, the others once a
file. -/
def python : List Rule :=
  [ { id := "no-exec"
      severity := .high
      detector := .substring "exec("
      message := "Use of exec() can lead to code injection vulnerabilities"
      improvement :=
        "Avoid using exec() entirely. Restructure your code to use more specific functions "
          ++ "or modules that perform the required functionality without executing arbitrary "
          ++ "code." },
    { id := "no-unsafe-deserialization"
      severity := .high
      detector := .substring "pickle.loads"
      message := "Unsafe deserialization using pickle can lead to code execution"
      improvement :=
        "Use safer serialization alternatives like JSON, YAML, or MessagePack. If pickle is "
          ++ "necessary, only unpickle data from trusted sources and consider using safer "
          ++ "modules like marshmallow." },
    { id := "validate-input"
      severity := .medium
      detector := .sweep "input("
      message := "Input should be type-checked and sanitized"
      improvement :=
        "Always validate and sanitize user input. Use type conversion functions like int() "
          ++ "or float() with try/except blocks, or use input validation libraries like Pydantic." },
    { id := "no-shell-true"
      severity := .medium
      detector := .substring "shell=True"
      message := "Using shell=True with subprocess can be dangerous"
      improvement :=
        "Avoid using shell=True with subprocess. Instead, pass the command as a list of "
          ++ "arguments and set shell=False (the default). This prevents shell injection attacks." }]

/-- The rules for Java, the gravest first. Comparisons with null are looked for with the blank
before the operator. -/
def java : List Rule :=
  [ { id := "no-runtime-exec"
      severity := .high
      detector := .substring "Runtime.getRuntime().exec("
      message := "Using Runtime.exec() can be dangerous for command execution"
      improvement :=
        "Use ProcessBuilder instead, which has better security features. Always validate "
          ++ "and sanitize any user input that goes into command execution." },
    { id := "no-stacktrace-print"
      severity := .medium
      detector := .substring "printStackTrace"
      message := "printStackTrace exposes implementation details"
      improvement :=
        "Use a proper logging framework like SLF4J or Log4j. Pass exceptions to the logger "
          ++ "rather than printing stack traces directly." },
    { id := "use-logger"
      severity := .low
      detector := .sweep "System.out.println"
      message := "System.out.println should be replaced with proper logging"
      improvement :=
        "Replace System.out.println with a proper logging framework like SLF4J or Log4j. "
          ++ "This provides better control over log levels and output destinations." },
    { id := "use-optional"
      severity := .low
      detector := .anyOf [" == null", " != null"]
      message := "Consider using Optional to handle null values"
      improvement :=
        "Use Java's Optional<T> type to represent optional values instead of null checks. "
          ++ "This makes the API more explicit and helps prevent NullPointerExceptions." }]

/-- The profiles by extension. Four extensions share the profile of JavaScript, and each extension
is listed once. -/
def profiles : List (String × List Rule) :=
  [("js", javascript), ("ts", javascript), ("jsx", javascript), ("tsx", javascript),
    ("py", python), ("java", java)]

/-- The ordered rules for an extension, which must be in normal form. There are none for an unknown
one. -/
def profileFor (extension : String) : List Rule :=
  ((profiles.find? (·.1 == extension)).map (·.2)).getD []

/-- The extensions that have a profile, in alphabetical order. -/
def supportedExtensions : List String :=
  (profiles.map (·.1)).mergeSort fun a b => decide (a ≤ b)

end SourceAudit.Catalog
