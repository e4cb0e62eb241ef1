import Targeting.Pattern.Layout.Basic

/-!
# Words laid out

Words that are alternatives of each other share the states of their common beginnings. Where a word
ends, the words before it in the list are preferred to it and those after it are not, so only words
with no such end between them share the states that follow.
-/

namespace Targeting.Layout

/-- Add the rest of a word to the words that start with the same byte. -/
def addWord (byte : UInt8) (rest : List UInt8) :
    List (UInt8 × List (List UInt8)) → List (UInt8 × List (List UInt8))
  | [] => [(byte, [rest])]
  | (other, words) :: groups =>
      if byte = other then (other, rest :: words) :: groups
      else (other, words) :: addWord byte rest groups

/-- What follows the first byte in the words of a list, for each byte with which a word starts. -/
def byFirstByte (words : List (List UInt8)) : List (UInt8 × List (List UInt8)) :=
  words.foldr
    (fun word groups =>
      match word with
      | [] => groups
      | byte :: rest => addWord byte rest groups)
    []

/-- The words between those that are empty. -/
def betweenEnds : List (List UInt8) → List (List (List UInt8))
  | [] => [[]]
  | [] :: rest => [] :: betweenEnds rest
  | word :: rest =>
      match betweenEnds rest with
      | [] => [[word]]
      | words :: others => (word :: words) :: others

/-- Drop the empty words that follow an empty word at the start. -/
def dropRepeatedEnds : List (List UInt8) → List (List UInt8)
  | [] :: rest => [] :: rest.dropWhile List.isEmpty
  | words => words

/-- Lay out the rests of words, up to a length, that have the same beginning: a fork, which leads to
the end wherever a word ends, and between these ends to the bytes that come next. -/
def addRests : Nat → List (List UInt8) → Layout → Layout
  | 0, _, layout => layout
  | length + 1, words, layout =>
      if words.all List.isEmpty then layout
      else
        let pieces := betweenEnds (dropRepeatedEnds words)
        let layout :=
          pieces.foldl
            (fun layout piece =>
              let groups := byFirstByte piece
              let layout := groups.foldl (fun layout group => addRests length group.2 layout) layout
              match groups.length with
              | 0 => layout
              | 1 => (layout.addStates 1).addForkLinks 1
              | count => (layout.addBranching count).addForkLinks 1)
            layout
        (layout.addStates 1).addForkLinks (pieces.length - 1)

/-- Lay out words of which one is to be read. -/
def addWords (words : List (List UInt8)) (layout : Layout) : Layout :=
  let words :=
    match layout.direction with
    | .forward => words
    | .backward => words.map List.reverse
  addRests ((words.map List.length).foldl max 0 + 1) words (layout.addStates 1)

end Targeting.Layout
