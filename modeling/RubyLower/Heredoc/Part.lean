import RubyLower.Text.Span

/-!
# Heredoc body parts

A scanned body is a list of parts: literal text, the span of interpolated code between `#{` and
`}`, and the span of an interpolated variable `#@ivar`, `#@@cvar` or `#$gvar`, sigil included.
-/

namespace RubyLower.Heredoc

/-- A piece of a heredoc body. -/
inductive Part where
  | literal (text : String)
  | interpolation (span : Span)
  | varRef (span : Span)
  deriving DecidableEq, Inhabited

end RubyLower.Heredoc
