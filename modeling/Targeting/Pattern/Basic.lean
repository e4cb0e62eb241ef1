/-!
# Patterns

A pattern is the text of a regular expression with what it means. Which texts are patterns, and
where they are found, is for a language of patterns to say; conditions are compiled for any such
language.
-/

namespace Targeting

/-- A regular expression. -/
structure Pattern where
  source : String
  /-- Whether the pattern matches anywhere in a text. -/
  isFoundIn : String → Bool

/-- A language of regular expressions. -/
class PatternLanguage where
  /-- The pattern that a text stands for; nothing if the text is malformed. -/
  read? : String → Option Pattern

end Targeting
