/-
Module: TallyKeep.Library.Regex
Layer: Library
Purpose: Regular expressions with groups, searched by backtracking: the first match at the first
  position, the alternatives of a match in their order.
Trusted boundary: the classes of characters beyond ASCII are parameters, with what is asked of them
  on the characters of identifiers
Main exports: CharClasses, Pattern, Position, Pattern.run, search, found, matchesAtStart, findAll,
  number, run_seq, run_alt, run_literal, prefix_of_run_literal, searchFrom_isSome_iff, found_iff,
  mem_run_seq, mem_run_alt, mem_run_char, mem_run_literal, mem_run_boundary, mem_run_group,
  mem_run_star_char, mem_run_plus_char, mem_run_of_search, Pattern.Within, takes_of_mem_run
-/
import Mathlib.Data.List.Basic
import Mathlib.Tactic.IntervalCases

namespace Regex

/-! ### Characters -/

/-- The classes `\d`, `\s` and `\w`, and the value of a digit, with their extent beyond ASCII. -/
structure CharClasses where
  digit : Char → Bool
  space : Char → Bool
  word : Char → Bool
  digitValue : Char → Nat
  digit_word : ∀ c, digit c = true → word c = true
  digit_not_space : ∀ c, digit c = true → space c = false
  ascii_digit : ∀ c ∈ ['0', '1', '2', '3', '4', '5', '6', '7', '8', '9'], digit c = true
  ascii_digitValue : ∀ c ∈ ['0', '1', '2', '3', '4', '5', '6', '7', '8', '9'],
    digitValue c = c.toNat - 48
  ascii_letter : ∀ c, c.isAlpha = true ∨ c = '_' → word c = true ∧ digit c = false ∧ space c = false
  ascii_punctuation :
    ∀ c ∈ ['(', ')', ',', ':', '{', '}', '[', ']', '/', '*', '#', '\x27', '<', '>', ';'],
    word c = false ∧ digit c = false ∧ space c = false

/-- The classes with nothing beyond ASCII. -/
def CharClasses.ascii : CharClasses where
  digit := Char.isDigit
  space c := decide (c ∈ [' ', '\t', '\n', '\x0b', '\x0c', '\r'])
  word c := c.isAlphanum || decide (c = '_')
  digitValue c := c.toNat - 48
  digit_word c digit := by simp [Char.isAlphanum, digit]
  digit_not_space c digit := by
    rw [decide_eq_false_iff_not]
    intro space
    simp only [List.mem_cons, List.not_mem_nil, or_false] at space
    rcases space with rfl | rfl | rfl | rfl | rfl | rfl <;> exact absurd digit (by decide)
  ascii_digit := by
    simp only [List.forall_mem_cons, List.not_mem_nil, false_implies, implies_true, and_true]
    decide
  ascii_digitValue _ _ := rfl
  ascii_letter c letter := by
    rcases letter with letter | rfl
    · have notDigit : c.isDigit = false := by
        cases digit : c.isDigit with
        | false => rfl
        | true =>
            obtain ⟨-, atMost⟩ := (Bool.and_eq_true _ _).mp digit
            have nine : c.val.toNat ≤ 57 := UInt32.le_iff_toNat_le.mp (of_decide_eq_true atMost)
            rcases (Bool.or_eq_true _ _).mp letter with upper | lower
            · have least := UInt32.le_iff_toNat_le.mp (of_decide_eq_true upper).1
              change 65 ≤ c.val.toNat at least
              omega
            · obtain ⟨atLeast, -⟩ := (Bool.and_eq_true _ _).mp lower
              have least := UInt32.le_iff_toNat_le.mp (of_decide_eq_true atLeast)
              change 97 ≤ c.val.toNat at least
              omega
      refine ⟨?_, notDigit, ?_⟩
      · change (c.isAlpha || c.isDigit || _) = true
        rw [letter]
        rfl
      rw [decide_eq_false_iff_not]
      intro space
      simp only [List.mem_cons, List.not_mem_nil, or_false] at space
      rcases space with rfl | rfl | rfl | rfl | rfl | rfl <;> exact absurd letter (by decide)
    · decide
  ascii_punctuation := by
    simp only [List.forall_mem_cons, List.not_mem_nil, false_implies, implies_true, and_true]
    decide

/-! ### Patterns -/

/-- A regular expression. -/
inductive Pattern where
  | empty
  | char (accepts : Char → Bool)
  | seq (first second : Pattern)
  | alt (first second : Pattern)
  | star (body : Pattern)
  | boundary
  | atEnd
  | group (body : Pattern)

namespace Pattern

/-- A text, character by character. -/
def literal : List Char → Pattern
  | [] => empty
  | c :: rest => seq (char fun d => decide (d = c)) (literal rest)

/-- One or more. -/
def plus (body : Pattern) : Pattern := seq body (star body)

/-- None or one. -/
def optional (body : Pattern) : Pattern := alt body empty

/-- Up to a number of times. -/
def upTo (body : Pattern) : Nat → Pattern
  | 0 => empty
  | n + 1 => optional (seq body (upTo body n))

/-- At least and at most a number of times. -/
def between (body : Pattern) (least most : Nat) : Pattern :=
  (List.replicate least body).foldr seq (upTo body (most - least))

/-- The first of some alternatives that leads to a match. -/
def anyOf : List Pattern → Pattern
  | [] => char fun _ => false
  | [only] => only
  | first :: rest => alt first (anyOf rest)

/-- One after the other. -/
def sequence (parts : List Pattern) : Pattern := parts.foldr seq empty

/-- A fixed text. -/
def text (chars : String) : Pattern := literal chars.toList

end Pattern

/-! ### Matching -/

/-- A place in a text, what lies before it in reverse, and the groups captured on the way. -/
structure Position where
  before : List Char
  after : List Char
  groups : List (List Char)
deriving DecidableEq

/-- The characters between two places of one text. -/
def Position.taken (start stop : Position) : List Char :=
  start.after.take (start.after.length - stop.after.length)

/-- A greedy repetition: as often as possible first, and never without progress. -/
def iterate (once : Position → List Position) : Nat → Position → List Position
  | 0, position => [position]
  | fuel + 1, position =>
      ((once position).filter fun next => decide (next.after.length < position.after.length)).flatMap
        (iterate once fuel) ++ [position]

variable (classes : CharClasses)

/-- Exactly one of the two neighbours of a place is a word character. -/
def Position.atBoundary (position : Position) : Bool :=
  xor (position.before.head?.any classes.word) (position.after.head?.any classes.word)

/-- The places a match can end at, the preferred one first. -/
def Pattern.run : Pattern → Position → List Position
  | .empty, position => [position]
  | .char accepts, position =>
      match position.after with
      | [] => []
      | c :: rest => if accepts c then [⟨c :: position.before, rest, position.groups⟩] else []
  | .seq first second, position => (first.run position).flatMap second.run
  | .alt first second, position => first.run position ++ second.run position
  | .star body, position => iterate body.run position.after.length position
  | .boundary, position => if position.atBoundary classes then [position] else []
  | .atEnd, position =>
      if position.after = [] ∨ position.after = ['\n'] then [position] else []
  | .group body, position =>
      (body.run position).map fun stop =>
        { stop with groups := stop.groups ++ [position.taken stop] }

/-- The first match from some place on, with the place after it. -/
def searchFrom (pattern : Pattern) : List Char → List Char → Option Position
  | before, [] => (pattern.run classes ⟨before, [], []⟩).head?
  | before, c :: rest =>
      (pattern.run classes ⟨before, c :: rest, []⟩).head?.or (searchFrom pattern (c :: before) rest)

/-- `search`: the first match in a text. -/
def search (pattern : Pattern) (text : String) : Option Position :=
  searchFrom classes pattern [] text.toList

/-- Whether `search` finds a match. -/
def found (pattern : Pattern) (text : String) : Bool := (search classes pattern text).isSome

/-- Whether `match` finds one at the start of a text. -/
def matchesAtStart (pattern : Pattern) (text : String) : Bool :=
  (pattern.run classes ⟨[], text.toList, []⟩) ≠ []

/-- The matches from some place on, each sought behind the one before. -/
def findAllFrom (pattern : Pattern) : Nat → List Char → List Char → List Position
  | 0, _, _ => []
  | fuel + 1, before, after =>
      match searchFrom classes pattern before after with
      | none => []
      | some stop => stop :: findAllFrom pattern fuel stop.before stop.after

/-- `findall`, for patterns that do not match the empty text. -/
def findAll (pattern : Pattern) (text : String) : List Position :=
  findAllFrom classes pattern (text.length + 1) [] text.toList

/-- The number that some digits write. -/
def number (digits : List Char) : Nat :=
  digits.foldl (fun value c => 10 * value + classes.digitValue c) 0

/-! ### Matches, place by place -/

variable {classes}

@[simp] theorem run_empty (position : Position) : Pattern.empty.run classes position = [position] :=
  rfl

theorem run_seq (first second : Pattern) (position : Position) :
    (first.seq second).run classes position =
      (first.run classes position).flatMap (second.run classes) := rfl

theorem run_alt (first second : Pattern) (position : Position) :
    (first.alt second).run classes position =
      first.run classes position ++ second.run classes position := rfl

/-- A text matches itself. -/
theorem run_literal (text before rest : List Char) (groups : List (List Char)) :
    (Pattern.literal text).run classes ⟨before, text ++ rest, groups⟩ =
      [⟨text.reverse ++ before, rest, groups⟩] := by
  induction text generalizing before with
  | nil => rfl
  | cons c text inductionHypothesis =>
      rw [Pattern.literal, run_seq]
      simp only [Pattern.run, List.cons_append, decide_true, if_true, List.flatMap_cons,
        List.flatMap_nil, List.append_nil]
      rw [inductionHypothesis, List.reverse_cons, List.append_assoc]
      rfl

/-- What matches a text starts with it. -/
theorem prefix_of_run_literal {text : List Char} {position stop : Position}
    (member : stop ∈ (Pattern.literal text).run classes position) :
    position.after = text ++ stop.after := by
  induction text generalizing position with
  | nil =>
      rw [Pattern.literal, run_empty, List.mem_singleton] at member
      rw [member, List.nil_append]
  | cons c text inductionHypothesis =>
      rw [Pattern.literal, run_seq, List.mem_flatMap] at member
      obtain ⟨next, first, later⟩ := member
      cases after : position.after with
      | nil => simp [Pattern.run, after] at first
      | cons d rest =>
          simp only [Pattern.run, after, decide_eq_true_eq] at first
          split at first
          · next same =>
              rw [List.mem_singleton] at first
              have tail := inductionHypothesis later
              rw [first] at tail
              rw [same, List.cons_append]
              exact congrArg (c :: ·) tail
          · simp at first

/-- A search succeeds exactly when there is a match at some place. -/
theorem searchFrom_isSome_iff {pattern : Pattern} {before after : List Char} :
    (searchFrom classes pattern before after).isSome = true ↔
      ∃ skipped rest, after = skipped ++ rest ∧
        pattern.run classes ⟨skipped.reverse ++ before, rest, []⟩ ≠ [] := by
  induction after generalizing before with
  | nil =>
      rw [searchFrom, List.isSome_head?]
      constructor
      · intro matched
        exact ⟨[], [], rfl, matched⟩
      · rintro ⟨skipped, rest, split, matched⟩
        obtain ⟨rfl, rfl⟩ := List.append_eq_nil_iff.mp split.symm
        exact matched
  | cons c after inductionHypothesis =>
      rw [searchFrom, Option.isSome_or, Bool.or_eq_true, inductionHypothesis, List.isSome_head?]
      constructor
      · rintro (here | ⟨skipped, rest, split, matched⟩)
        · exact ⟨[], c :: after, rfl, here⟩
        · refine ⟨c :: skipped, rest, by rw [split]; rfl, ?_⟩
          rw [List.reverse_cons, List.append_assoc]
          exact matched
      · rintro ⟨skipped, rest, split, matched⟩
        cases skipped with
        | nil =>
            rw [List.nil_append] at split
            subst split
            exact .inl matched
        | cons d skipped =>
            cases split
            rw [List.reverse_cons, List.append_assoc] at matched
            exact .inr ⟨skipped, rest, rfl, matched⟩

/-- A pattern is found when it matches at some place of the text. -/
theorem found_iff {pattern : Pattern} {text : String} :
    found classes pattern text = true ↔
      ∃ skipped rest, text.toList = skipped ++ rest ∧
        pattern.run classes ⟨skipped.reverse, rest, []⟩ ≠ [] := by
  rw [found, search, searchFrom_isSome_iff]
  simp only [List.append_nil]

/-! ### Where a match can end -/

variable {stop : Position} {before after : List Char} {groups : List (List Char)}

/-- A sequence matches up to where its second part does, from where its first part does. -/
theorem mem_run_seq {first second : Pattern} {position : Position} :
    stop ∈ (first.seq second).run classes position ↔
      ∃ middle ∈ first.run classes position, stop ∈ second.run classes middle := by
  rw [run_seq, List.mem_flatMap]

/-- A match of the first part and one of the second from there are a match of the sequence. -/
theorem exists_mem_run_seq {first second : Pattern} {position middle : Position}
    (early : middle ∈ first.run classes position) (late : ∃ stop, stop ∈ second.run classes middle) :
    ∃ stop, stop ∈ (first.seq second).run classes position := by
  obtain ⟨stop, member⟩ := late
  exact ⟨stop, mem_run_seq.mpr ⟨middle, early, member⟩⟩

/-- An alternative matches where one of its parts does. -/
theorem mem_run_alt {first second : Pattern} {position : Position} :
    stop ∈ (first.alt second).run classes position ↔
      stop ∈ first.run classes position ∨ stop ∈ second.run classes position := by
  rw [run_alt, List.mem_append]

/-- A character pattern takes one accepted character. -/
theorem mem_run_char {accepts : Char → Bool} :
    stop ∈ (Pattern.char accepts).run classes ⟨before, after, groups⟩ ↔
      ∃ c rest, after = c :: rest ∧ accepts c = true ∧ stop = ⟨c :: before, rest, groups⟩ := by
  cases after with
  | nil => simp [Pattern.run]
  | cons c rest =>
      by_cases accepted : accepts c = true
      · simp [Pattern.run, accepted]
      · simp [Pattern.run, accepted]

/-- A literal takes its own text. -/
theorem mem_run_literal {text : List Char} :
    stop ∈ (Pattern.literal text).run classes ⟨before, after, groups⟩ ↔
      ∃ rest, after = text ++ rest ∧ stop = ⟨text.reverse ++ before, rest, groups⟩ := by
  constructor
  · intro member
    have split := prefix_of_run_literal member
    change after = _ at split
    rw [split, run_literal, List.mem_singleton] at member
    exact ⟨stop.after, split, member⟩
  · rintro ⟨rest, rfl, rfl⟩
    rw [run_literal]
    exact List.mem_singleton_self _

/-- A boundary takes nothing. -/
theorem mem_run_boundary {position : Position} :
    stop ∈ Pattern.boundary.run classes position ↔
      position.atBoundary classes = true ∧ stop = position := by
  rw [Pattern.run]
  split
  · next here => simp [here]
  · next here => simp [here]

/-- A group takes what its body does, and remembers it. -/
theorem mem_run_group {body : Pattern} {position : Position} :
    stop ∈ body.group.run classes position ↔
      ∃ inner ∈ body.run classes position,
        stop = { inner with groups := inner.groups ++ [position.taken inner] } := by
  rw [Pattern.run, List.mem_map]
  simp only [eq_comm]

/-- What was taken between two positions. -/
@[simp] theorem taken_append (before before' text rest : List Char)
    (groups groups' : List (List Char)) :
    Position.taken ⟨before, text ++ rest, groups⟩ ⟨before', rest, groups'⟩ = text := by
  rw [Position.taken, List.length_append, Nat.add_sub_cancel, List.take_left']
  rfl

/-- An optional literal takes its text or nothing. -/
theorem mem_run_optional_literal {text : List Char} :
    stop ∈ (Pattern.literal text).optional.run classes ⟨before, after, groups⟩ ↔
      ∃ taken rest, (taken = text ∨ taken = []) ∧ after = taken ++ rest ∧
        stop = ⟨taken.reverse ++ before, rest, groups⟩ := by
  rw [Pattern.optional, mem_run_alt, mem_run_literal, run_empty, List.mem_singleton]
  constructor
  · rintro (⟨rest, split, ends⟩ | ends)
    · exact ⟨text, rest, .inl rfl, split, ends⟩
    · exact ⟨[], after, .inr rfl, rfl, ends⟩
  · rintro ⟨taken, rest, rfl | rfl, split, ends⟩
    · exact .inl ⟨rest, split, ends⟩
    · rw [List.nil_append] at split
      rw [split]
      exact .inr ends

/-- A repetition of one character takes some of those it accepts. -/
theorem mem_run_star_char {accepts : Char → Bool} :
    stop ∈ (Pattern.star (.char accepts)).run classes ⟨before, after, groups⟩ ↔
      ∃ taken rest, after = taken ++ rest ∧ (∀ c ∈ taken, accepts c = true) ∧
        stop = ⟨taken.reverse ++ before, rest, groups⟩ := by
  have repeated : ∀ fuel before after, after.length ≤ fuel →
      (stop ∈ iterate ((Pattern.char accepts).run classes) fuel ⟨before, after, groups⟩ ↔
        ∃ taken rest, after = taken ++ rest ∧ (∀ c ∈ taken, accepts c = true) ∧
          stop = ⟨taken.reverse ++ before, rest, groups⟩) := by
    intro fuel
    induction fuel with
    | zero =>
        intro before after short
        obtain rfl := List.length_eq_zero_iff.mp (Nat.le_zero.mp short)
        simp [iterate]
    | succ fuel inductionHypothesis =>
        intro before after short
        rw [iterate, List.mem_append, List.mem_flatMap, List.mem_singleton]
        constructor
        · rintro (⟨next, first, later⟩ | rfl)
          · obtain ⟨c, rest, rfl, accepted, rfl⟩ := mem_run_char.mp (List.mem_filter.mp first).1
            rw [List.length_cons] at short
            obtain ⟨taken, rest, rfl, accepts, rfl⟩ :=
              (inductionHypothesis _ _ (by omega)).mp later
            refine ⟨c :: taken, rest, rfl, ?_, ?_⟩
            · exact List.forall_mem_cons.mpr ⟨accepted, accepts⟩
            · rw [List.reverse_cons, List.append_assoc]
              rfl
          · exact ⟨[], after, rfl, by simp, rfl⟩
        · rintro ⟨taken, rest, rfl, accepts, rfl⟩
          cases taken with
          | nil => exact .inr rfl
          | cons c taken =>
              obtain ⟨accepted, accepts⟩ := List.forall_mem_cons.mp accepts
              rw [List.cons_append, List.length_cons] at short
              refine .inl ⟨⟨c :: before, taken ++ rest, groups⟩, ?_, ?_⟩
              · refine List.mem_filter.mpr ⟨mem_run_char.mpr ⟨c, _, rfl, accepted, rfl⟩, ?_⟩
                exact decide_eq_true (by simp)
              · refine (inductionHypothesis _ _ (by omega)).mpr ⟨taken, rest, rfl, accepts, ?_⟩
                rw [List.reverse_cons, List.append_assoc]
                rfl
  exact repeated _ _ _ (Nat.le_refl _)

/-- A repeated character takes accepted characters, at least one. -/
theorem mem_run_plus_char {accepts : Char → Bool} :
    stop ∈ (Pattern.plus (.char accepts)).run classes ⟨before, after, groups⟩ ↔
      ∃ taken rest, taken ≠ [] ∧ after = taken ++ rest ∧ (∀ c ∈ taken, accepts c = true) ∧
        stop = ⟨taken.reverse ++ before, rest, groups⟩ := by
  rw [Pattern.plus, mem_run_seq]
  constructor
  · rintro ⟨middle, first, later⟩
    obtain ⟨c, rest, rfl, accepted, rfl⟩ := mem_run_char.mp first
    obtain ⟨taken, rest, rfl, accepts, rfl⟩ := mem_run_star_char.mp later
    refine ⟨c :: taken, rest, List.cons_ne_nil _ _, rfl, ?_, ?_⟩
    · exact List.forall_mem_cons.mpr ⟨accepted, accepts⟩
    · rw [List.reverse_cons, List.append_assoc]
      rfl
  · rintro ⟨taken, rest, nonempty, rfl, accepts, rfl⟩
    obtain ⟨c, taken, rfl⟩ := List.exists_cons_of_ne_nil nonempty
    obtain ⟨accepted, accepts⟩ := List.forall_mem_cons.mp accepts
    refine ⟨_, mem_run_char.mpr ⟨c, _, rfl, accepted, rfl⟩,
      mem_run_star_char.mpr ⟨taken, rest, rfl, accepts, ?_⟩⟩
    rw [List.reverse_cons, List.append_assoc]
    rfl

/-- What a search returns is where a match at some place ends. -/
theorem mem_run_of_searchFrom {pattern : Pattern}
    (result : searchFrom classes pattern before after = some stop) :
    ∃ skipped rest, after = skipped ++ rest ∧
      stop ∈ pattern.run classes ⟨skipped.reverse ++ before, rest, []⟩ := by
  induction after generalizing before with
  | nil =>
      rw [searchFrom] at result
      exact ⟨[], [], rfl, List.mem_of_head? result⟩
  | cons c after inductionHypothesis =>
      rw [searchFrom, Option.or_eq_some_iff] at result
      rcases result with here | ⟨-, later⟩
      · exact ⟨[], c :: after, rfl, List.mem_of_head? here⟩
      · obtain ⟨skipped, rest, split, member⟩ := inductionHypothesis later
        refine ⟨c :: skipped, rest, by rw [split]; rfl, ?_⟩
        rw [List.reverse_cons, List.append_assoc]
        exact member

/-- A search stops where the pattern matches from some place. -/
theorem mem_run_of_search {pattern : Pattern} {text : String}
    (result : search classes pattern text = some stop) :
    ∃ skipped rest, text.toList = skipped ++ rest ∧
      stop ∈ pattern.run classes ⟨skipped.reverse, rest, []⟩ := by
  obtain ⟨skipped, rest, split, member⟩ := mem_run_of_searchFrom result
  rw [List.append_nil] at member
  exact ⟨skipped, rest, split, member⟩

/-! ### Characters a pattern takes -/

/-- Every character a pattern accepts is of one class. -/
def Pattern.Within (allowed : Char → Prop) : Pattern → Prop
  | .empty | .boundary | .atEnd => True
  | .char accepts => ∀ c, accepts c = true → allowed c
  | .seq first second => first.Within allowed ∧ second.Within allowed
  | .alt first second => first.Within allowed ∧ second.Within allowed
  | .star body => body.Within allowed
  | .group body => body.Within allowed

/-- What lies between two places, all of one class. -/
def Position.Takes (allowed : Char → Prop) (start stop : Position) : Prop :=
  ∃ taken, start.after = taken ++ stop.after ∧ ∀ c ∈ taken, allowed c

theorem Position.Takes.refl (allowed : Char → Prop) (position : Position) :
    position.Takes allowed position :=
  ⟨[], rfl, by simp⟩

/-- What is taken in two stretches is taken. -/
theorem Position.Takes.trans {allowed : Char → Prop} {start middle stop : Position}
    (first : start.Takes allowed middle) (second : middle.Takes allowed stop) :
    start.Takes allowed stop := by
  obtain ⟨taken, split, allows⟩ := first
  obtain ⟨later, splitLater, allowsLater⟩ := second
  refine ⟨taken ++ later, by rw [split, splitLater, List.append_assoc], ?_⟩
  intro c member
  rcases List.mem_append.mp member with here | there
  · exact allows c here
  · exact allowsLater c there

/-- A match takes only characters of the class of its pattern. -/
theorem takes_of_mem_run {allowed : Char → Prop} {pattern : Pattern}
    (within : pattern.Within allowed) {start stop : Position}
    (member : stop ∈ pattern.run classes start) : start.Takes allowed stop := by
  induction pattern generalizing start stop with
  | empty =>
      rw [run_empty, List.mem_singleton] at member
      rw [member]
      exact .refl allowed start
  | char accepts =>
      obtain ⟨c, rest, split, accepted, rfl⟩ := mem_run_char.mp member
      exact ⟨[c], split, fun d same => (List.mem_singleton.mp same) ▸ within c accepted⟩
  | seq first second firstHypothesis secondHypothesis =>
      obtain ⟨middle, early, late⟩ := mem_run_seq.mp member
      exact (firstHypothesis within.1 early).trans (secondHypothesis within.2 late)
  | alt first second firstHypothesis secondHypothesis =>
      rcases mem_run_alt.mp member with left | right
      · exact firstHypothesis within.1 left
      · exact secondHypothesis within.2 right
  | star body inductionHypothesis =>
      rw [Pattern.run] at member
      generalize start.after.length = fuel at member
      induction fuel generalizing start with
      | zero =>
          rw [iterate, List.mem_singleton] at member
          rw [member]
          exact .refl allowed start
      | succ fuel again =>
          rw [iterate, List.mem_append, List.mem_singleton, List.mem_flatMap] at member
          rcases member with ⟨next, once, later⟩ | same
          · exact (inductionHypothesis within (List.mem_filter.mp once).1).trans (again later)
          · rw [same]
            exact .refl allowed start
  | boundary =>
      rw [(mem_run_boundary.mp member).2]
      exact .refl allowed start
  | atEnd =>
      rw [Pattern.run] at member
      split at member
      · rw [List.mem_singleton.mp member]
        exact .refl allowed start
      · cases member
  | group body inductionHypothesis =>
      obtain ⟨inner, inside, rfl⟩ := mem_run_group.mp member
      have takes : start.Takes allowed inner := inductionHypothesis within inside
      exact takes

/-- A literal takes letters of its own text. -/
theorem within_literal {allowed : Char → Prop} {text : List Char}
    (letters : ∀ c ∈ text, allowed c) : (Pattern.literal text).Within allowed := by
  induction text with
  | nil => trivial
  | cons c text inductionHypothesis =>
      obtain ⟨first, later⟩ := List.forall_mem_cons.mp letters
      refine ⟨fun d accepted => ?_, inductionHypothesis later⟩
      rw [of_decide_eq_true accepted]
      exact first

/-- A sequence takes what its parts may. -/
theorem within_foldr_seq {allowed : Char → Prop} {parts : List Pattern} {last : Pattern}
    (each : ∀ part ∈ parts, part.Within allowed) (ends : last.Within allowed) :
    (parts.foldr Pattern.seq last).Within allowed := by
  induction parts with
  | nil => exact ends
  | cons part parts inductionHypothesis =>
      obtain ⟨first, later⟩ := List.forall_mem_cons.mp each
      exact ⟨first, inductionHypothesis later⟩

/-- A bounded repetition takes what its body may. -/
theorem within_between {allowed : Char → Prop} {body : Pattern} (within : body.Within allowed)
    (least most : Nat) : (Pattern.between body least most).Within allowed := by
  have few : ∀ n, (Pattern.upTo body n).Within allowed := by
    intro n
    induction n with
    | zero => trivial
    | succ n inductionHypothesis => exact ⟨⟨within, inductionHypothesis⟩, trivial⟩
  apply within_foldr_seq _ (few (most - least))
  intro part member
  rw [List.eq_of_mem_replicate member]
  exact within

/-- A pattern is found when it matches at some place, with a stop to name. -/
theorem found_iff_mem {pattern : Pattern} {text : String} :
    found classes pattern text = true ↔
      ∃ skipped rest, text.toList = skipped ++ rest ∧
        ∃ stop, stop ∈ pattern.run classes ⟨skipped.reverse, rest, []⟩ := by
  have some : ∀ {ends : List Position}, ends ≠ [] ↔ ∃ stop, stop ∈ ends := by
    intro ends
    exact ⟨List.exists_mem_of_ne_nil ends, by rintro ⟨stop, member⟩; exact List.ne_nil_of_mem member⟩
  rw [found_iff]
  simp only [some]

/-! ### Decimal numbers -/

theorem mem_digits_of_isDigit {c : Char} (digit : c.isDigit = true) :
    c ∈ ['0', '1', '2', '3', '4', '5', '6', '7', '8', '9'] := by
  obtain ⟨atLeast, atMost⟩ := (Bool.and_eq_true _ _).mp digit
  have least : 48 ≤ c.toNat := UInt32.le_iff_toNat_le.mp (of_decide_eq_true atLeast)
  have most : c.toNat ≤ 57 := UInt32.le_iff_toNat_le.mp (of_decide_eq_true atMost)
  rw [← Char.ofNat_toNat c]
  generalize c.toNat = n at least most
  interval_cases n <;> decide

/-- Every class of digits has the ten. -/
theorem CharClasses.digit_of_isDigit {c : Char} (digit : c.isDigit = true) :
    classes.digit c = true :=
  classes.ascii_digit c (mem_digits_of_isDigit digit)

/-- The decimal digits of a number are digits. -/
theorem isDigit_of_mem_toDigits {c : Char} {n : Nat} (member : c ∈ Nat.toDigits 10 n) :
    c.isDigit = true :=
  Nat.isDigit_of_mem_toDigits (by decide) (by decide) member

/-- Reading the digits of a number gives it back. -/
theorem number_toDigits (n : Nat) : number classes (Nat.toDigits 10 n) = n := by
  have last : ∀ k < 10, classes.digitValue k.digitChar = k := by
    intro k few
    have digit : k.digitChar.isDigit = true := by
      rw [Nat.isDigit_digitChar]
      exact decide_eq_true few
    rw [classes.ascii_digitValue _ (mem_digits_of_isDigit digit),
      Nat.toNat_digitChar_sub_48_of_lt_ten few]
  induction n using Nat.strongRecOn with
  | ind n inductionHypothesis =>
      rw [Nat.toDigits_eq_if (by decide)]
      split
      · next few => simp [number, last n few]
      · next many =>
          have smaller := inductionHypothesis (n / 10) (by omega)
          rw [number] at smaller
          rw [number, List.foldl_append, smaller, List.foldl_cons, List.foldl_nil,
            last (n % 10) (Nat.mod_lt n (by decide)), Nat.div_add_mod]

end Regex
