import RubyLower.Diagnostic.Basic

/-!
# Heredoc errors

The ways reading a heredoc fails: no terminator line before the end of the source, an escape
that cannot be read, an interpolation without its closing brace, and an opener that is not one.
The message of each is the text of its diagnostic.
-/

namespace RubyLower.Heredoc

/-- Why a heredoc cannot be read. -/
inductive HeredocError where
  /-- No terminator line: the span runs from the body to the end of the source. -/
  | unterminated (marker : String) (span : Span)
  /-- An escape that cannot be read, at the span of its first two bytes. -/
  | invalidEscape (text : String) (span : Span)
  /-- An interpolation without closing brace, from its `#` to the end of the source. -/
  | unterminatedInterpolation (span : Span)
  | invalidOpener (text : String)
  deriving DecidableEq, Inhabited

namespace HeredocError

/-- The message that describes the error and its arguments. -/
def message : HeredocError → Message × List String
  | .unterminated marker _ => (.unterminatedHeredoc, [marker])
  | .invalidEscape text _ => (.invalidEscape, [text])
  | .unterminatedInterpolation _ => (.unterminatedInterpolation, [])
  | .invalidOpener text => (.invalidHeredocOpener, [text])

/-- Where the error is, when it is in the body. -/
def span? : HeredocError → Option Span
  | .unterminated _ s | .invalidEscape _ s | .unterminatedInterpolation s => some s
  | .invalidOpener _ => none

/-- The text of the error. -/
def text (e : HeredocError) : String :=
  e.message.1.render e.message.2

/-- The error as a diagnostic about a file. -/
def toDiagnostic (e : HeredocError) (file : String) : Diagnostic :=
  { Diagnostic.ofMessage e.message.1 e.message.2 with file := some file, span := e.span? }

end HeredocError

end RubyLower.Heredoc
