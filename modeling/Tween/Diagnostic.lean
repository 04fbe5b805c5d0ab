import Tween.Token.Code
import Tween.Text.Quoted

/-!
# Diagnostics

What is reported to the author of the code: a kind, a message, and the place it is about. The kind
fixes the severity, and the severity how the message reaches the author. An error becomes a
`compile_error!`. No macro raises a warning, so a warning becomes the use of a constant that is
deprecated with the message as its note.
-/

namespace Tween

/-- An error keeps the code from compiling, a warning does not. -/
inductive Severity where
  | error
  | warning
  deriving DecidableEq

/-- What a diagnostic is about. -/
inductive DiagnosticKind where
  | notAStruct
  | unsupportedGenerics
  | missingCapability
  | reservedNameCollision
  | unsupportedType
  | redundantUsage
  | invalidArguments
  | internalInvariant
  deriving DecidableEq

/-- A use that has no effect is worth a warning, all else is an error. -/
def DiagnosticKind.severity : DiagnosticKind → Severity
  | redundantUsage => .warning
  | _ => .error

/-- A message for the author of the code. -/
structure Diagnostic where
  kind : DiagnosticKind
  message : String
  span : Span
  deriving DecidableEq

namespace Diagnostic

open Code

/-- Whether the diagnostic is an error or a warning. -/
def severity (d : Diagnostic) : Severity :=
  d.kind.severity

/-- The diagnostic keeps the code from compiling. -/
def isFatal (d : Diagnostic) : Bool :=
  d.severity = .error

/-- A state that correct code never reaches, or an input that is not even an item. -/
def internal (detail : String) (span : Span) : Diagnostic where
  kind := .internalInvariant
  message := s!"something went wrong: {detail}"
  span

/-- What is written where a reader refuses tokens without giving a reason. -/
def unreadable : String :=
  "<parse error>"

/-- The tokens have no keyword where an item has one. -/
def notAnItem : Diagnostic :=
  internal s!"could not parse item: {unreadable}" .callSite

/-- `:: core :: compile_error ! (message) ;`, all at `span` but the message. -/
def errorTokens (span : Span) (message : TokenTree) : TokenStream :=
  TokenStream.anchoredAt span (segments ["core", "compile_error"] ++ [mark '!']) ++
  [.group .parenthesis span [message]] ++ TokenStream.anchoredAt span [mark ';']

/-- `# [deprecated (note = message)]`, all at `span` but the message. -/
def deprecation (span : Span) (message : TokenTree) : TokenStream :=
  TokenStream.anchoredAt span [mark '#'] ++
  [.group .bracket span (TokenStream.anchoredAt span [word "deprecated"] ++
    [.group .parenthesis span (TokenStream.anchoredAt span [word "note", mark '='] ++ [message])])]

/-- A constant that is deprecated with `message` as its note, and a use of it, in a scope of their
own. All of it is at `span` but the message. -/
def warningTokens (span : Span) (message : TokenTree) : TokenStream :=
  TokenStream.anchoredAt span (words ["const", "_"] ++ [mark ':', parens [], mark '=']) ++
  [.group .brace span (deprecation span message ++ TokenStream.anchoredAt span (
    pounded [word "allow", parens [word "non_upper_case_globals"]] ++
    words ["const", "animatable_warning"] ++ [mark ':', parens [], mark '=', parens [], mark ';'] ++
    pounded [word "allow", parens ([word "clippy"] ++ segments ["let_unit_value"])] ++
    words ["let", "_"] ++ [mark '=', word "animatable_warning", mark ';']))] ++
  TokenStream.anchoredAt span [mark ';']

/-- The code that makes the compiler show the message, anchored at the diagnostic's place. The
literal that holds the message is made here and stays at the call site. -/
def tokens (d : Diagnostic) : TokenStream :=
  let message := literal (Text.Quoted.quote d.message)
  match d.severity with
  | .error => errorTokens d.span message
  | .warning => warningTokens d.span message

end Diagnostic

end Tween
