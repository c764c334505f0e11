/-
Module: TallyKeep.Library.CallText
Layer: Library
Purpose: Expressions written as calls, `name(argument,argument)`, with prefixes before a colon and
  pairs in braces; and which calls a text shows to a reader who knows no grammar.
Trusted boundary: none
Main exports: Expr, Expr.print, Expr.heads, Expr.Plain, calls, Delimits, exists_mem_calls,
  mem_calls_iff, calls_print, head_of_mem_calls, mem_calls_of_head, Expr.Spelled, Expr.Spelled.plain,
  Expr.Spelled.print
-/
import Mathlib.Data.List.Basic

namespace CallText

/-! ### Expressions -/

/-- An expression: a text, one behind a prefix, a call, a sequence of two, or a pair in braces. -/
inductive Expr where
  | atom (text : List Char)
  | prefixed (letters : List Char) (body : Expr)
  | call (name : List Char) (argument : Expr)
  | pair (first second : Expr)
  | braces (first second : Expr)
deriving Repr, DecidableEq

namespace Expr

/-- The text of an expression. -/
def print : Expr → List Char
  | atom text => text
  | prefixed letters body => letters ++ ':' :: print body
  | call name argument => name ++ '(' :: (print argument ++ [')'])
  | pair first second => print first ++ ',' :: print second
  | braces first second => '{' :: (print first ++ ',' :: (print second ++ ['}']))

/-- The calls in an expression, from left to right, with their arguments. -/
def heads : Expr → List (List Char × Expr)
  | atom _ => []
  | prefixed _ body => heads body
  | call name argument => (name, argument) :: heads argument
  | pair first second => heads first ++ heads second
  | braces first second => heads first ++ heads second

/-- Names consist of word characters, and no other text opens a parenthesis. -/
def Plain (word : Char → Bool) : Expr → Prop
  | atom text => '(' ∉ text
  | prefixed letters body => '(' ∉ letters ∧ body.Plain word
  | call name argument => (∀ c ∈ name, word c = true) ∧ argument.Plain word
  | pair first second => first.Plain word ∧ second.Plain word
  | braces first second => first.Plain word ∧ second.Plain word

end Expr

/-! ### Reading calls off a text -/

variable (word : Char → Bool)

/-- The word before each opening parenthesis of a text, and what follows; the first argument is the
    word that the text continues, reversed. -/
def calls : List Char → List Char → List (List Char × List Char)
  | _, [] => []
  | pending, c :: rest =>
      if c = '(' then (pending.reverse, rest) :: calls [] rest
      else if word c then calls (c :: pending) rest
      else calls [] rest

/-- What delimits the parts of an expression is no word character. -/
structure Delimits : Prop where
  parenthesis : word '(' = false
  closing : word ')' = false
  comma : word ',' = false
  colon : word ':' = false
  opening : word '{' = false
  brace : word '}' = false

variable {word} {pending name rest tail : List Char}

theorem calls_parenthesis : calls word pending ('(' :: rest) =
    (pending.reverse, rest) :: calls word [] rest := by
  rw [calls, if_pos rfl]

theorem calls_word {c : Char} (other : c ≠ '(') (wordChar : word c = true) :
    calls word pending (c :: rest) = calls word (c :: pending) rest := by
  rw [calls, if_neg other, if_pos wordChar]

theorem calls_delimiter {c : Char} (other : c ≠ '(') (delimiter : word c = false) :
    calls word pending (c :: rest) = calls word [] rest := by
  rw [calls, if_neg other, delimiter, if_neg Bool.false_ne_true]

/-- A text with no parenthesis shows no call of its own. -/
theorem calls_append_delimiter {text : List Char} (silent : '(' ∉ text) {c : Char} (other : c ≠ '(')
    (delimiter : word c = false) :
    calls word pending (text ++ c :: rest) = calls word [] rest := by
  induction text generalizing pending with
  | nil => exact calls_delimiter other delimiter
  | cons d text inductionHypothesis =>
      rw [List.mem_cons, not_or] at silent
      rw [List.cons_append]
      cases letter : word d with
      | true => rw [calls_word (Ne.symm silent.1) letter, inductionHypothesis silent.2]
      | false => rw [calls_delimiter (Ne.symm silent.1) letter, inductionHypothesis silent.2]

theorem calls_of_silent {text : List Char} (silent : '(' ∉ text) : calls word pending text = [] := by
  induction text generalizing pending with
  | nil => rfl
  | cons d text inductionHypothesis =>
      rw [List.mem_cons, not_or] at silent
      cases letter : word d with
      | true => rw [calls_word (Ne.symm silent.1) letter, inductionHypothesis silent.2]
      | false => rw [calls_delimiter (Ne.symm silent.1) letter, inductionHypothesis silent.2]

/-- A name directly before a parenthesis is a call, with the word it continues. -/
theorem calls_name (named : ∀ c ∈ name, word c = true) (delimits : Delimits word) :
    calls word pending (name ++ '(' :: rest) =
      (pending.reverse ++ name, rest) :: calls word [] rest := by
  induction name generalizing pending with
  | nil => rw [List.nil_append, calls_parenthesis, List.append_nil]
  | cons c name inductionHypothesis =>
      obtain ⟨letter, named⟩ := List.forall_mem_cons.mp named
      have other : c ≠ '(' := by
        rintro rfl
        rw [delimits.parenthesis] at letter
        cases letter
      rw [List.cons_append, calls_word other letter, inductionHypothesis named, List.reverse_cons,
        List.append_assoc, List.singleton_append]

/-! ### Calls and places in a text -/

variable (word) in
/-- The word that ends a text, reversed. -/
def continued : List Char → List Char → List Char
  | pending, [] => pending
  | pending, c :: rest =>
      if c = '(' then continued [] rest
      else if word c then continued (c :: pending) rest
      else continued [] rest

theorem continued_append_singleton {c : Char} (delimiter : word c = false) (before : List Char) :
    continued word pending (before ++ [c]) = [] := by
  induction before generalizing pending with
  | nil => simp [continued, delimiter]
  | cons d before inductionHypothesis =>
      rw [List.cons_append, continued]
      split
      · exact inductionHypothesis
      · split
        · exact inductionHypothesis
        · exact inductionHypothesis

theorem mem_calls_append {before : List Char} {call : List Char × List Char}
    (member : call ∈ calls word (continued word pending before) rest) :
    call ∈ calls word pending (before ++ rest) := by
  induction before generalizing pending with
  | nil => exact member
  | cons c before inductionHypothesis =>
      rw [continued] at member
      rw [List.cons_append, calls]
      split at member
      · next parenthesis =>
          rw [if_pos parenthesis]
          exact List.mem_cons_of_mem _ (inductionHypothesis member)
      · next other =>
          rw [if_neg other]
          split at member
          · next letter =>
              rw [if_pos letter]
              exact inductionHypothesis member
          · next delimiter =>
              rw [if_neg delimiter]
              exact inductionHypothesis member

/-- A name before a parenthesis ends the name of a call. -/
theorem exists_mem_calls (delimits : Delimits word) (named : ∀ c ∈ name, word c = true)
    (before : List Char) :
    ∃ whole, name <:+ whole ∧ (whole, rest) ∈ calls word [] (before ++ (name ++ '(' :: rest)) := by
  refine ⟨(continued word [] before).reverse ++ name, List.suffix_append _ _, mem_calls_append ?_⟩
  rw [calls_name named delimits]
  exact List.mem_cons_self

/-- A call is a name before a parenthesis that continues no word. -/
theorem mem_calls_iff (delimits : Delimits word) (named : ∀ c ∈ name, word c = true)
    {text : List Char} :
    (name, rest) ∈ calls word [] text ↔
      ∃ before, text = before ++ (name ++ '(' :: rest) ∧
        ∀ c ∈ before.getLast?, word c = false := by
  constructor
  · have reads : ∀ pending, (name, rest) ∈ calls word pending text →
        ∃ before, pending.reverse ++ text = before ++ (name ++ '(' :: rest) ∧
          ∀ c ∈ before.getLast?, word c = false := by
      induction text with
      | nil =>
          intro pending member
          cases member
      | cons c text inductionHypothesis =>
          intro pending member
          have behind : word c = false → (name, rest) ∈ calls word [] text →
              ∃ before, pending.reverse ++ c :: text = before ++ (name ++ '(' :: rest) ∧
                ∀ d ∈ before.getLast?, word d = false := by
            intro delimiter later
            obtain ⟨before, split, bounded⟩ := inductionHypothesis [] later
            rw [List.reverse_nil, List.nil_append] at split
            refine ⟨pending.reverse ++ c :: before, by rw [split, List.append_assoc]; rfl, ?_⟩
            rw [List.getLast?_append_cons]
            cases before with
            | nil =>
                rintro d ⟨⟩
                exact delimiter
            | cons e before =>
                rw [List.getLast?_cons_cons]
                exact bounded
          rw [calls] at member
          split at member
          · next parenthesis =>
              rcases List.mem_cons.mp member with here | later
              · cases here
                refine ⟨[], ?_, by simp⟩
                rw [parenthesis]
                rfl
              · exact behind (by rw [parenthesis]; exact delimits.parenthesis) later
          · split at member
            · obtain ⟨before, split, bounded⟩ := inductionHypothesis (c :: pending) member
              refine ⟨before, ?_, bounded⟩
              rw [List.reverse_cons, List.append_assoc] at split
              exact split
            · next delimiter => exact behind (Bool.eq_false_iff.mpr delimiter) member
    exact reads []
  · rintro ⟨before, rfl, bounded⟩
    apply mem_calls_append
    have fresh : continued word [] before = [] := by
      rcases List.eq_nil_or_concat' before with rfl | ⟨earlier, c, rfl⟩
      · rfl
      · exact continued_append_singleton (bounded c (by simp)) earlier
    rw [fresh, calls_name named delimits]
    exact List.mem_cons_self

/-! ### Calls of an expression -/

/-- A text that ends an expression, or nothing. -/
def Ends (word : Char → Bool) (tail : List Char) : Prop :=
  ∀ c ∈ tail.head?, c ≠ '(' ∧ word c = false

/-- The calls of an expression, each with the text that follows its parenthesis. -/
def Expr.spots : Expr → List Char → List (List Char × List Char)
  | .atom _, _ => []
  | .prefixed _ body, tail => body.spots tail
  | .call name argument, tail =>
      (name, argument.print ++ ')' :: tail) :: argument.spots (')' :: tail)
  | .pair first second, tail =>
      first.spots (',' :: (second.print ++ tail)) ++ second.spots tail
  | .braces first second, tail =>
      first.spots (',' :: (second.print ++ '}' :: tail)) ++ second.spots ('}' :: tail)

/-- What a text shows is the calls of the expression it prints. -/
theorem calls_print {e : Expr} (plain : e.Plain word) (delimits : Delimits word)
    (ends : Ends word tail) :
    calls word [] (e.print ++ tail) = e.spots tail ++ calls word [] tail := by
  have skips : ∀ {c : Char} {rest : List Char}, c ≠ '(' → word c = false →
      calls word [] (c :: rest) = calls word [] rest := calls_delimiter
  induction e generalizing tail with
  | atom text =>
      cases tail with
      | nil =>
          rw [List.append_nil, Expr.print, calls_of_silent plain]
          rfl
      | cons c tail =>
          obtain ⟨other, delimiter⟩ := ends c rfl
          rw [Expr.print, calls_append_delimiter plain other delimiter, skips other delimiter]
          rfl
  | prefixed letters body inductionHypothesis =>
      rw [Expr.print, List.append_assoc, List.cons_append,
        calls_append_delimiter plain.1 (by decide) delimits.colon,
        inductionHypothesis plain.2 ends]
      rfl
  | call name argument inductionHypothesis =>
      have closed : Ends word (')' :: tail) := by
        rintro c ⟨⟩
        exact ⟨by decide, delimits.closing⟩
      rw [Expr.print, List.append_assoc, List.cons_append, List.append_assoc,
        calls_name plain.1 delimits, List.singleton_append, inductionHypothesis plain.2 closed,
        skips (by decide) delimits.closing]
      rfl
  | pair first second firstHypothesis secondHypothesis =>
      have apart : Ends word (',' :: (second.print ++ tail)) := by
        rintro c ⟨⟩
        exact ⟨by decide, delimits.comma⟩
      rw [Expr.print, List.append_assoc, List.cons_append, firstHypothesis plain.1 apart,
        skips (by decide) delimits.comma, secondHypothesis plain.2 ends, ← List.append_assoc]
      rfl
  | braces first second firstHypothesis secondHypothesis =>
      have apart : Ends word (',' :: (second.print ++ '}' :: tail)) := by
        rintro c ⟨⟩
        exact ⟨by decide, delimits.comma⟩
      have closed : Ends word ('}' :: tail) := by
        rintro c ⟨⟩
        exact ⟨by decide, delimits.brace⟩
      rw [Expr.print, List.cons_append, skips (by decide) delimits.opening, List.append_assoc,
        List.cons_append, List.append_assoc, List.singleton_append, firstHypothesis plain.1 apart,
        skips (by decide) delimits.comma, secondHypothesis plain.2 closed,
        skips (by decide) delimits.brace, ← List.append_assoc]
      rfl

/-- The text behind a call starts with its argument. -/
theorem head_of_mem_spots {e : Expr} :
    (name, rest) ∈ e.spots tail → ∃ argument later, (name, argument) ∈ e.heads ∧
      rest = argument.print ++ ')' :: later := by
  induction e generalizing tail with
  | atom text =>
      intro member
      cases member
  | prefixed letters body inductionHypothesis => exact inductionHypothesis
  | call name' argument inductionHypothesis =>
      intro member
      rcases List.mem_cons.mp member with here | inside
      · cases here
        exact ⟨argument, tail, List.mem_cons_self, rfl⟩
      · obtain ⟨inner, later, head, split⟩ := inductionHypothesis inside
        exact ⟨inner, later, List.mem_cons_of_mem _ head, split⟩
  | pair first second firstHypothesis secondHypothesis
  | braces first second firstHypothesis secondHypothesis =>
      intro member
      rcases List.mem_append.mp member with left | right
      · obtain ⟨inner, later, head, split⟩ := firstHypothesis left
        exact ⟨inner, later, List.mem_append_left _ head, split⟩
      · obtain ⟨inner, later, head, split⟩ := secondHypothesis right
        exact ⟨inner, later, List.mem_append_right _ head, split⟩

theorem exists_mem_spots {e argument : Expr} (head : (name, argument) ∈ e.heads) :
    ∃ later, (name, argument.print ++ ')' :: later) ∈ e.spots tail := by
  induction e generalizing tail with
  | atom text => cases head
  | prefixed letters body inductionHypothesis => exact inductionHypothesis head
  | call name' inner inductionHypothesis =>
      rcases List.mem_cons.mp head with here | inside
      · cases here
        exact ⟨tail, List.mem_cons_self⟩
      · obtain ⟨later, member⟩ : ∃ later,
            (name, argument.print ++ ')' :: later) ∈ inner.spots (')' :: tail) :=
          inductionHypothesis inside
        exact ⟨later, List.mem_cons_of_mem _ member⟩
  | pair first second firstHypothesis secondHypothesis
  | braces first second firstHypothesis secondHypothesis =>
      rcases List.mem_append.mp head with left | right
      · obtain ⟨later, member⟩ := firstHypothesis left
        exact ⟨later, List.mem_append_left _ member⟩
      · obtain ⟨later, member⟩ := secondHypothesis right
        exact ⟨later, List.mem_append_right _ member⟩

/-- Every call that a text shows is one of the expression it prints, with its argument. -/
theorem head_of_mem_calls {e : Expr} (plain : e.Plain word) (delimits : Delimits word)
    (ends : Ends word tail) (silent : '(' ∉ tail)
    (member : (name, rest) ∈ calls word [] (e.print ++ tail)) :
    ∃ argument later, (name, argument) ∈ e.heads ∧ rest = argument.print ++ ')' :: later := by
  rw [calls_print plain delimits ends, calls_of_silent silent, List.append_nil] at member
  exact head_of_mem_spots member

/-- Every call of an expression shows in its text. -/
theorem mem_calls_of_head {e argument : Expr} (plain : e.Plain word) (delimits : Delimits word)
    (ends : Ends word tail) (head : (name, argument) ∈ e.heads) :
    ∃ later, (name, argument.print ++ ')' :: later) ∈ calls word [] (e.print ++ tail) := by
  obtain ⟨later, member⟩ : ∃ later, (name, argument.print ++ ')' :: later) ∈ e.spots tail :=
    exists_mem_spots head
  rw [calls_print plain delimits ends]
  exact ⟨later, List.mem_append_left _ member⟩

/-! ### Characters -/

/-- The characters of names and those of other texts. -/
def Expr.Spelled (nameChar textChar : Char → Prop) : Expr → Prop
  | .atom text => ∀ c ∈ text, textChar c
  | .prefixed letters body => (∀ c ∈ letters, textChar c) ∧ body.Spelled nameChar textChar
  | .call name argument => (∀ c ∈ name, nameChar c) ∧ argument.Spelled nameChar textChar
  | .pair first second => first.Spelled nameChar textChar ∧ second.Spelled nameChar textChar
  | .braces first second => first.Spelled nameChar textChar ∧ second.Spelled nameChar textChar

theorem Expr.Spelled.plain {nameChar textChar : Char → Prop} {e : Expr}
    (letters : ∀ c, nameChar c → word c = true) (silent : ¬textChar '(')
    (spelled : e.Spelled nameChar textChar) : e.Plain word := by
  induction e with
  | atom text => exact fun member => silent (spelled _ member)
  | prefixed letters body inductionHypothesis =>
      exact ⟨fun member => silent (spelled.1 _ member), inductionHypothesis spelled.2⟩
  | call name argument inductionHypothesis =>
      exact ⟨fun c member => letters c (spelled.1 c member), inductionHypothesis spelled.2⟩
  | pair first second firstHypothesis secondHypothesis
  | braces first second firstHypothesis secondHypothesis =>
      exact ⟨firstHypothesis spelled.1, secondHypothesis spelled.2⟩

/-- What holds of the characters of its parts and of the delimiters holds of a whole text. -/
theorem Expr.Spelled.print {nameChar textChar allowed : Char → Prop} {e : Expr}
    (names : ∀ c, nameChar c → allowed c) (texts : ∀ c, textChar c → allowed c)
    (delimiters : ∀ c ∈ ['(', ')', ',', ':', '{', '}'], allowed c)
    (spelled : e.Spelled nameChar textChar) : ∀ c ∈ e.print, allowed c := by
  have delimiter : ∀ {c : Char}, c ∈ ['(', ')', ',', ':', '{', '}'] → allowed c :=
    fun member => delimiters _ member
  induction e with
  | atom text => exact fun c member => texts c (spelled c member)
  | prefixed letters body inductionHypothesis =>
      simp only [Expr.print, List.mem_append, List.mem_cons]
      rintro c (first | rfl | later)
      · exact texts c (spelled.1 c first)
      · exact delimiter (by decide)
      · exact inductionHypothesis spelled.2 c later
  | call name argument inductionHypothesis =>
      simp only [Expr.print, List.mem_append, List.mem_cons, List.not_mem_nil, or_false]
      rintro c (first | rfl | later | rfl)
      · exact names c (spelled.1 c first)
      · exact delimiter (by decide)
      · exact inductionHypothesis spelled.2 c later
      · exact delimiter (by decide)
  | pair first second firstHypothesis secondHypothesis =>
      simp only [Expr.print, List.mem_append, List.mem_cons]
      rintro c (left | rfl | right)
      · exact firstHypothesis spelled.1 c left
      · exact delimiter (by decide)
      · exact secondHypothesis spelled.2 c right
  | braces first second firstHypothesis secondHypothesis =>
      simp only [Expr.print, List.mem_append, List.mem_cons, List.not_mem_nil, or_false]
      rintro c (rfl | left | rfl | right | rfl)
      · exact delimiter (by decide)
      · exact firstHypothesis spelled.1 c left
      · exact delimiter (by decide)
      · exact secondHypothesis spelled.2 c right
      · exact delimiter (by decide)

end CallText
