import Targeting.Pattern.Expression
import Targeting.Pattern.SetPhrase

/-!
# Patterns as they are written

A phrase is a pattern, or a part of one, as it is written. `Phrase.depth` tells how deeply its parts
are nested; the depth of a pattern is limited. `Phrase.expression` is the regular expression that it
stands for.
-/

namespace Targeting

/-- A pattern or a part of one as it is written. -/
inductive Phrase where
  /-- Nothing. -/
  | empty
  /-- Flags for what follows. -/
  | directive
  /-- One character of a set. -/
  | one (ignoreCase : Bool) (set : SetPhrase)
  /-- A condition on the position. -/
  | hold (boundary : Boundary)
  /-- A part in parentheses, whose match is remembered or not. -/
  | group (remembered : Bool) (body : Phrase)
  /-- Parts one after another. -/
  | sequence (parts : List Phrase)
  /-- One of several parts. -/
  | choice (options : List Phrase)
  /-- A part several times. -/
  | repeated (body : Phrase) (least : Nat) (most : Option Nat) (prefersMore : Bool)

namespace Phrase

/-- Parts one after another: a single one stands for itself. -/
def ofParts : List Phrase → Phrase
  | [] => empty
  | [part] => part
  | parts => sequence parts

/-- One of several parts: a single one stands for itself. -/
def ofOptions : List Phrase → Phrase
  | [option] => option
  | options => choice options

mutual

/-- How deeply the parts of a phrase are nested. -/
def depth : Phrase → Nat
  | empty | directive | hold _ => 0
  | one _ set => set.depth
  | group _ body => 1 + body.depth
  | sequence parts => 1 + greatestDepth parts
  | choice options => 1 + greatestDepth options
  | repeated body _ _ _ => 1 + body.depth

/-- The depth of the deepest of several phrases. -/
def greatestDepth : List Phrase → Nat
  | [] => 0
  | part :: rest => max part.depth (greatestDepth rest)

end

mutual

/-- The regular expression that a phrase stands for. -/
def expression : Phrase → Expression
  | empty | directive => .empty
  | one ignoreCase set => .ofSet (set.set ignoreCase)
  | hold boundary => .hold boundary
  | group true body => .group body.expression
  | group false body => body.expression
  | sequence parts => .ofSequence (expressions parts)
  | choice options => .ofOptions (expressions options)
  | repeated body least most prefersMore =>
      .ofRepeated body.expression least most prefersMore

/-- The regular expressions that several phrases stand for. -/
def expressions : List Phrase → List Expression
  | [] => []
  | part :: rest => part.expression :: expressions rest

end

end Phrase

end Targeting
