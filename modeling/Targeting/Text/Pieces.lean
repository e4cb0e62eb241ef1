/-!
# Cutting text at a delimiter

`cut` splits a text at the first delimiter and `pieces` at every one. Both lose nothing but the
delimiters: joining the parts with them gives back the text (`join_cut`, `join_pieces`), and the
parts that may not hold the delimiter do not hold it. The other way round, parts without the
delimiter are what their joint text falls into (`cut_append`, `pieces_join`).
-/

namespace Targeting.Text

/-- The text before the first delimiter, and the text after it if there is one. -/
def cut (delimiter : Char) : List Char → List Char × Option (List Char)
  | [] => ([], none)
  | character :: rest =>
      if character = delimiter then ([], some rest)
      else
        let (before, after) := cut delimiter rest
        (character :: before, after)

/-- The parts between delimiters; there is always at least one. -/
def pieces (delimiter : Char) : List Char → List (List Char)
  | [] => [[]]
  | character :: rest =>
      if character = delimiter then [] :: pieces delimiter rest
      else
        match pieces delimiter rest with
        | [] => [[character]]
        | piece :: others => (character :: piece) :: others

/-- Parts with a delimiter between them. -/
def join (delimiter : Char) : List (List Char) → List Char
  | [] => []
  | [piece] => piece
  | piece :: others => piece ++ delimiter :: join delimiter others

theorem cut_eq_of_none {delimiter : Char} {text : List Char}
    (absent : (cut delimiter text).2 = none) : (cut delimiter text).1 = text := by
  induction text with
  | nil => rfl
  | cons character rest ih =>
      simp only [cut] at absent ⊢
      split <;> simp_all

theorem join_cut {delimiter : Char} {text after : List Char}
    (present : (cut delimiter text).2 = some after) :
    (cut delimiter text).1 ++ delimiter :: after = text := by
  induction text with
  | nil => simp [cut] at present
  | cons character rest ih =>
      simp only [cut] at present ⊢
      split <;> simp_all

theorem delimiter_not_mem_cut (delimiter : Char) (text : List Char) :
    delimiter ∉ (cut delimiter text).1 := by
  induction text with
  | nil => simp [cut]
  | cons character rest ih =>
      simp only [cut]
      split
      · simp
      · simp only [List.mem_cons, not_or]
        exact ⟨fun same => by simp_all, ih⟩

theorem cut_of_not_mem {delimiter : Char} {text : List Char} (absent : delimiter ∉ text) :
    cut delimiter text = (text, none) := by
  induction text with
  | nil => rfl
  | cons character rest ih =>
      rw [List.mem_cons, not_or] at absent
      simp only [cut, if_neg (Ne.symm absent.1), ih absent.2]

theorem cut_append {delimiter : Char} {before : List Char} (absent : delimiter ∉ before)
    (after : List Char) : cut delimiter (before ++ delimiter :: after) = (before, some after) := by
  induction before with
  | nil => simp [cut]
  | cons character rest ih =>
      rw [List.mem_cons, not_or] at absent
      simp only [List.cons_append, cut, if_neg (Ne.symm absent.1),
        ih absent.2]

theorem pieces_ne_nil (delimiter : Char) (text : List Char) : pieces delimiter text ≠ [] := by
  cases text with
  | nil => simp [pieces]
  | cons character rest =>
      simp only [pieces]
      split
      · simp
      · split <;> simp

theorem join_cons_of_ne_nil (delimiter : Char) (piece : List Char) {others : List (List Char)}
    (nonempty : others ≠ []) :
    join delimiter (piece :: others) = piece ++ delimiter :: join delimiter others := by
  cases others with
  | nil => exact absurd rfl nonempty
  | cons _ _ => rfl

theorem join_pieces (delimiter : Char) (text : List Char) :
    join delimiter (pieces delimiter text) = text := by
  induction text with
  | nil => rfl
  | cons character rest ih =>
      have nonempty := pieces_ne_nil delimiter rest
      simp only [pieces]
      split
      · rename_i same
        rw [join_cons_of_ne_nil _ _ nonempty, ih, same]
        rfl
      · cases split : pieces delimiter rest with
        | nil => exact absurd split nonempty
        | cons piece others =>
            rw [split] at ih
            cases others with
            | nil => simpa [join] using ih
            | cons _ _ => simpa [join] using ih

theorem delimiter_not_mem_pieces (delimiter : Char) (text : List Char) :
    ∀ piece ∈ pieces delimiter text, delimiter ∉ piece := by
  induction text with
  | nil => simp [pieces]
  | cons character rest ih =>
      simp only [pieces]
      split
      · simpa using ih
      · rename_i different
        cases split : pieces delimiter rest with
        | nil => simpa using fun same : delimiter = character => different same.symm
        | cons piece others =>
            rw [split] at ih
            simp only [List.mem_cons, forall_eq_or_imp, not_or] at ih ⊢
            exact ⟨⟨fun same => different same.symm, ih.1⟩, ih.2⟩

theorem mem_of_mem_pieces {delimiter : Char} {text piece : List Char}
    (member : piece ∈ pieces delimiter text) {character : Char} (inside : character ∈ piece) :
    character ∈ text := by
  induction text generalizing piece with
  | nil =>
      simp only [pieces, List.mem_singleton] at member
      simp [member] at inside
  | cons first rest ih =>
      simp only [pieces] at member
      split at member
      · rcases List.mem_cons.mp member with rfl | later
        · cases inside
        · exact List.mem_cons_of_mem first (ih later inside)
      · cases split : pieces delimiter rest with
        | nil => exact absurd split (pieces_ne_nil delimiter rest)
        | cons next others =>
            rw [split] at member ih
            rcases List.mem_cons.mp member with rfl | later
            · rcases List.mem_cons.mp inside with rfl | deeper
              · exact List.mem_cons_self
              · exact List.mem_cons_of_mem first (ih List.mem_cons_self deeper)
            · exact List.mem_cons_of_mem first (ih (List.mem_cons_of_mem next later) inside)

theorem pieces_of_not_mem {delimiter : Char} {text : List Char} (absent : delimiter ∉ text) :
    pieces delimiter text = [text] := by
  induction text with
  | nil => rfl
  | cons character rest ih =>
      rw [List.mem_cons, not_or] at absent
      simp only [pieces, if_neg (Ne.symm absent.1), ih absent.2]

theorem pieces_append {delimiter : Char} {piece : List Char} (absent : delimiter ∉ piece)
    (rest : List Char) :
    pieces delimiter (piece ++ delimiter :: rest) = piece :: pieces delimiter rest := by
  induction piece with
  | nil => simp [pieces]
  | cons character piece ih =>
      rw [List.mem_cons, not_or] at absent
      simp only [List.cons_append, pieces,
        if_neg (Ne.symm absent.1), ih absent.2]

/-- Parts without a delimiter are what their joint text falls into. -/
theorem pieces_join {delimiter : Char} {parts : List (List Char)} (nonempty : parts ≠ [])
    (absent : ∀ piece ∈ parts, delimiter ∉ piece) :
    pieces delimiter (join delimiter parts) = parts := by
  induction parts with
  | nil => exact absurd rfl nonempty
  | cons piece others ih =>
      rw [List.forall_mem_cons] at absent
      cases others with
      | nil => exact pieces_of_not_mem absent.1
      | cons next others =>
          rw [join_cons_of_ne_nil _ _ (List.cons_ne_nil _ _), pieces_append absent.1,
            ih (List.cons_ne_nil _ _) absent.2]

theorem mem_join {delimiter character : Char} {parts : List (List Char)}
    (member : character ∈ join delimiter parts) :
    character = delimiter ∨ ∃ piece ∈ parts, character ∈ piece := by
  induction parts with
  | nil => cases member
  | cons piece others ih =>
      cases others with
      | nil => exact .inr ⟨piece, List.mem_cons_self, member⟩
      | cons next others =>
          rw [join_cons_of_ne_nil _ _ (List.cons_ne_nil _ _), List.mem_append,
            List.mem_cons] at member
          rcases member with here | here | later
          · exact .inr ⟨piece, List.mem_cons_self, here⟩
          · exact .inl here
          · rcases ih later with same | ⟨other, known, inside⟩
            · exact .inl same
            · exact .inr ⟨other, List.mem_cons_of_mem piece known, inside⟩

end Targeting.Text
