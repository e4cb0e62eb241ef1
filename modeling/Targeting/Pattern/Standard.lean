import Targeting.Pattern.Basic
import Targeting.Pattern.Layout.Expression
import Targeting.Pattern.Marked
import Targeting.Pattern.PhraseReader

/-!
# The standard language of patterns

The language of patterns that the program is run with. It has literals, escapes, classes in
brackets, groups with and without names, alternatives, repetitions that prefer more or less,
conditions on positions, and flags; it has neither conditions on the surrounding text nor references
to groups. Classes that are given by a Unicode property, such as all capital letters, are left out,
and so are patterns for bytes; letters match in either case only if they are ASCII letters. A
pattern is refused when it is malformed, nested too deeply, or too large once it is laid out for the
search.
-/

namespace Targeting.Pattern

/-- The greatest depth to which the parts of a pattern may be nested. -/
def depthLimit : Nat := 250

/-- The pattern that a text stands for in the standard language. -/
def ofText? (source : String) : Option Pattern :=
  match readPhrase? source.toList with
  | some phrase =>
      if depthLimit < phrase.depth ∨ phrase.expression.isTooLarge then none
      else some { source, isFoundIn := fun text => phrase.expression.isFoundIn text.toList }
  | none => none

instance standard : PatternLanguage where
  read? := ofText?

end Targeting.Pattern
