/-
Module: TallyKeep.Proofs.TopicGlobs
Layer: Proofs
Purpose: The regular expression of a topic pattern matches what the pattern stands for, whatever was
  cached before.
Trusted boundary: none
Main exports: Obtained, replaceStars_escape, compile_replaceStars, mem_run_expression,
  matchesFrom_iff_obtained, Compiled, matchTopic_eq, topicMatches_iff_obtained
-/
import TallyKeep.Infrastructure.EventBus
import TallyKeep.Infrastructure.TopicPatterns

namespace TallyKeep

open Regex

/-! ### The text of the expression -/

/-- What one character of a pattern becomes. -/
def expressionChar (c : Char) : List Char := if c = '*' then ['.', '*'] else escapeChar c

theorem replaceStars_cons {c : Char} {rest : List Char} (apart : c ≠ '\\' ∨ rest.head? ≠ some '*') :
    replaceStars (c :: rest) = c :: replaceStars rest := by
  rw [replaceStars.eq_def]
  split
  · next starred =>
      cases starred
      rcases apart with other | other
      · exact absurd rfl other
      · exact absurd rfl other
  · next ordinary =>
      cases ordinary
      rfl
  · next ends => cases ends

/-- An escaped text begins with no star: a star has its backslash before it. -/
theorem head_escape_ne_star (pattern : List Char) : (escape pattern).head? ≠ some '*' := by
  cases pattern with
  | nil => exact Option.some_ne_none _ |>.symm
  | cons c pattern =>
      rw [escape, List.flatMap_cons, escapeChar]
      split
      · exact fun starred => absurd (Option.some.inj starred) (by decide)
      · next plain =>
          intro starred
          rw [List.cons_append, List.head?_cons, Option.some.injEq] at starred
          rw [starred] at plain
          exact plain (by decide)

/-- The replacement finds the stars of the pattern and nothing else: the backslash before a star is
    the one the star was escaped with, also where a backslash stands before it in the pattern. -/
theorem replaceStars_escape (pattern : List Char) :
    replaceStars (escape pattern) = pattern.flatMap expressionChar := by
  induction pattern with
  | nil => rfl
  | cons c pattern ih =>
      have step : replaceStars (escapeChar c ++ escape pattern) =
          expressionChar c ++ replaceStars (escape pattern) := by
        rw [expressionChar, escapeChar]
        by_cases star : c = '*'
        · subst star
          rw [if_pos (by decide), if_pos rfl]
          rfl
        · rw [if_neg star]
          split
          · have headed : (c :: escape pattern).head? ≠ some '*' :=
              fun same => star (Option.some.inj same)
            rw [List.cons_append, List.cons_append, List.nil_append, replaceStars_cons (.inr headed),
              replaceStars_cons (.inr (head_escape_ne_star pattern))]
            rfl
          · rw [List.cons_append, List.nil_append,
              replaceStars_cons (.inr (head_escape_ne_star pattern))]
            rfl
      rw [escape, List.flatMap_cons, List.flatMap_cons, ← ih]
      exact step

/-! ### The expression -/

/-- The expression for a pattern. -/
def expression : List Char → Pattern
  | [] => .seq .atEnd .empty
  | c :: pattern =>
      if c = '*' then .seq (.star .anyChar) (expression pattern)
      else .seq (.only c) (expression pattern)

/-- The tokens of a pattern. -/
def topicTokens : List Char → List Token
  | [] => [.atEnd]
  | c :: pattern =>
      if c = '*' then .any :: .star :: topicTokens pattern else .char c :: topicTokens pattern

theorem tokens_expressionChars (pattern : List Char) :
    tokens (pattern.flatMap expressionChar ++ ['$']) = some (topicTokens pattern) := by
  induction pattern with
  | nil => rfl
  | cons c pattern ih =>
      rw [List.flatMap_cons, List.append_assoc, expressionChar, topicTokens]
      split
      · rw [List.cons_append, List.cons_append, List.nil_append, tokens_cons_plain (by decide),
          tokens_cons_plain (by decide), ih]
        rfl
      · rw [tokens_escapeChar, ih]
        rfl

theorem expressionOf_topicTokens (pattern : List Char) :
    expressionOf (topicTokens pattern) = some (expression pattern) := by
  induction pattern with
  | nil => rfl
  | cons c pattern ih =>
      rw [topicTokens, expression]
      split
      · rw [expressionOf, ih]
        rfl
      · -- what follows a character is never a star alone
        rw [expressionOf, ih]
        · rfl
        · intro rest same
          cases pattern with
          | nil => cases same
          | cons d pattern =>
              rw [topicTokens] at same
              split at same <;> cases same

/-- Every pattern compiles. -/
theorem compile_replaceStars (pattern : List Char) :
    compile ('^' :: replaceStars (escape pattern) ++ ['$']) = some (expression pattern) := by
  rw [List.cons_append, compile, replaceStars_escape, tokens_expressionChars, Option.bind_some,
    expressionOf_topicTokens]

/-! ### What it matches -/

theorem mem_afterWildcard {text rest : List Char} :
    rest ∈ afterWildcard text ↔ ∃ taken, text = taken ++ rest ∧ ∀ c ∈ taken, c ≠ '\n' := by
  induction text with
  | nil =>
      rw [afterWildcard, List.mem_singleton]
      constructor
      · rintro rfl
        exact ⟨[], rfl, fun _ member => absurd member List.not_mem_nil⟩
      · rintro ⟨taken, split, -⟩
        exact (List.append_eq_nil_iff.mp split.symm).2
  | cons c text ih =>
      rw [afterWildcard, List.mem_cons]
      constructor
      · rintro (rfl | later)
        · exact ⟨[], rfl, fun _ member => absurd member List.not_mem_nil⟩
        · by_cases line : c = '\n'
          · rw [if_pos line] at later
            exact absurd later List.not_mem_nil
          · rw [if_neg line] at later
            obtain ⟨taken, split, inLine⟩ := ih.mp later
            exact ⟨c :: taken, by rw [split]; rfl, List.forall_mem_cons.mpr ⟨line, inLine⟩⟩
      · rintro ⟨taken, split, inLine⟩
        cases taken with
        | nil => exact .inl split.symm
        | cons d taken =>
            cases split
            obtain ⟨line, inLine⟩ := List.forall_mem_cons.mp inLine
            rw [if_neg line]
            exact .inr (ih.mpr ⟨taken, rfl, inLine⟩)

theorem matchesFrom_star {pattern text : List Char} :
    matchesFrom ('*' :: pattern) text = true ↔
      ∃ taken rest, text = taken ++ rest ∧ (∀ c ∈ taken, c ≠ '\n') ∧
        matchesFrom pattern rest = true := by
  rw [matchesFrom, List.any_eq_true]
  constructor
  · rintro ⟨rest, member, matched⟩
    obtain ⟨taken, split, inLine⟩ := mem_afterWildcard.mp member
    exact ⟨taken, rest, split, inLine, matched⟩
  · rintro ⟨taken, rest, split, inLine, matched⟩
    exact ⟨rest, mem_afterWildcard.mpr ⟨taken, split, inLine⟩, matched⟩

theorem matchesFrom_char {c : Char} (plain : c ≠ '*') {pattern text : List Char} :
    matchesFrom (c :: pattern) text = true ↔
      ∃ rest, text = c :: rest ∧ matchesFrom pattern rest = true := by
  cases text with
  | nil =>
      rw [matchesFrom]
      · simp
      · exact plain
  | cons d text =>
      rw [matchesFrom, Bool.and_eq_true, decide_eq_true_iff]
      · constructor
        · rintro ⟨rfl, matched⟩
          exact ⟨text, rfl, matched⟩
        · rintro ⟨rest, split, matched⟩
          cases split
          exact ⟨rfl, matched⟩
      · exact plain

variable {classes : CharClasses}

/-- The expression matches from a place on when the pattern does. -/
theorem mem_run_expression {pattern before text : List Char} {groups : List (List Char)} :
    (∃ stop, stop ∈ (expression pattern).run classes ⟨before, text, groups⟩) ↔
      matchesFrom pattern text = true := by
  induction pattern generalizing before text with
  | nil =>
      rw [matchesFrom, decide_eq_true_iff, expression]
      by_cases closed : text = [] ∨ text = ['\n']
      · simp [Pattern.run, closed]
      · simp [Pattern.run, closed]
  | cons c pattern ih =>
      rw [expression]
      by_cases star : c = '*'
      · rw [if_pos star, star, matchesFrom_star]
        constructor
        · rintro ⟨stop, member⟩
          obtain ⟨middle, first, later⟩ := mem_run_seq.mp member
          obtain ⟨taken, rest, split, inLine, rfl⟩ := mem_run_star_char.mp first
          exact ⟨taken, rest, split, fun d member => of_decide_eq_true (inLine d member),
            ih.mp ⟨stop, later⟩⟩
        · rintro ⟨taken, rest, split, inLine, matched⟩
          exact exists_mem_run_seq
            (mem_run_star_char.mpr ⟨taken, rest, split,
              fun d member => decide_eq_true (inLine d member), rfl⟩)
            (ih.mpr matched)
      · rw [if_neg star, matchesFrom_char star]
        constructor
        · rintro ⟨stop, member⟩
          obtain ⟨middle, first, later⟩ := mem_run_seq.mp member
          obtain ⟨d, rest, split, same, rfl⟩ := mem_run_char.mp first
          rw [of_decide_eq_true same] at split
          exact ⟨rest, split, ih.mp ⟨stop, later⟩⟩
        · rintro ⟨rest, split, matched⟩
          exact exists_mem_run_seq (mem_run_char.mpr ⟨c, rest, split, decide_eq_true rfl, rfl⟩)
            (ih.mpr matched)

theorem matchesAtStart_expression (topic pattern : String) :
    matchesAtStart classes (expression pattern.toList) topic = topicMatchesPattern topic pattern := by
  have matched : (∃ stop, stop ∈ (expression pattern.toList).run classes ⟨[], topic.toList, []⟩) ↔
      matchesFrom pattern.toList topic.toList = true := mem_run_expression
  rw [Bool.eq_iff_iff, topicMatchesPattern, ← matched, matchesAtStart, decide_eq_true_iff]
  exact ⟨List.exists_mem_of_ne_nil _, by rintro ⟨stop, member⟩; exact List.ne_nil_of_mem member⟩

/-! ### What a pattern stands for -/

/-- The text is the pattern with some text in place of each star. -/
inductive Obtained : List Char → List Char → Prop where
  | done : Obtained [] []
  | star (filling : List Char) {pattern text : List Char} :
      Obtained pattern text → Obtained ('*' :: pattern) (filling ++ text)
  | plain {c : Char} {pattern text : List Char} :
      c ≠ '*' → Obtained pattern text → Obtained (c :: pattern) (c :: text)

/-- In one line, a match is a replacement of the stars. -/
theorem matchesFrom_iff_obtained {pattern text : List Char} (line : '\n' ∉ text) :
    matchesFrom pattern text = true ↔ Obtained pattern text := by
  induction pattern generalizing text with
  | nil =>
      rw [matchesFrom, decide_eq_true_iff]
      constructor
      · rintro (rfl | rfl)
        · exact .done
        · exact absurd List.mem_cons_self line
      · intro obtained
        cases obtained
        exact .inl rfl
  | cons c pattern ih =>
      by_cases star : c = '*'
      · rw [star, matchesFrom_star]
        constructor
        · rintro ⟨taken, rest, rfl, -, matched⟩
          exact .star taken ((ih fun member => line (List.mem_append_right _ member)).mp matched)
        · intro obtained
          cases obtained with
          | @star filling _ rest later =>
              refine ⟨filling, rest, rfl, ?_, ?_⟩
              · rintro d member rfl
                exact line (List.mem_append_left _ member)
              · exact (ih fun member => line (List.mem_append_right _ member)).mpr later
          | plain other => exact absurd rfl other
      · rw [matchesFrom_char star]
        constructor
        · rintro ⟨rest, rfl, matched⟩
          exact .plain star ((ih fun member => line (List.mem_cons_of_mem c member)).mp matched)
        · intro obtained
          cases obtained with
          | star => exact absurd rfl star
          | @plain _ _ rest _ later =>
              exact ⟨rest, rfl, (ih fun member => line (List.mem_cons_of_mem c member)).mpr later⟩

/-! ### The cache -/

/-- What is cached is what would be compiled. -/
def Compiled (cache : PatternCache) : Prop :=
  ∀ pattern compiled, cache.lookup pattern = some compiled → compiled = expression pattern.toList

theorem compilePattern_eq {cache : PatternCache} (compiled : Compiled cache) (pattern : String) :
    ∃ later, compilePattern cache pattern = some (expression pattern.toList, later) ∧
      Compiled later := by
  cases known : cache.lookup pattern with
  | some cached =>
      refine ⟨cache, ?_, compiled⟩
      rw [compilePattern, known, compiled pattern cached known]
  | none =>
      refine ⟨(pattern, expression pattern.toList) :: cache, ?_, ?_⟩
      · simp only [compilePattern, known, compile_replaceStars, Option.map_some]
      · intro other cached found
        rw [List.lookup_cons] at found
        by_cases same : other = pattern
        · rw [same, beq_self_eq_true] at found
          rw [same]
          exact (Option.some.inj found).symm
        · rw [beq_false_of_ne same] at found
          exact compiled other cached found

theorem matchTopic_eq (classes : CharClasses) {cache : PatternCache} (compiled : Compiled cache) (topic pattern : String) :
    ∃ later, matchTopic classes cache topic pattern =
        some (topicMatchesPattern topic pattern, later) ∧ Compiled later := by
  obtain ⟨later, result, kept⟩ := compilePattern_eq compiled pattern
  refine ⟨later, ?_, kept⟩
  rw [matchTopic, result, Option.map_some, matchesAtStart_expression]

theorem matchAll_eq (classes : CharClasses) {cache : PatternCache} (compiled : Compiled cache)
    (questions : List (String × String)) :
    ∃ later, matchAll classes cache questions =
        some (questions.map fun question => topicMatchesPattern question.1 question.2, later) ∧
      Compiled later := by
  induction questions generalizing cache with
  | nil => exact ⟨cache, rfl, compiled⟩
  | cons question questions ih =>
      obtain ⟨middle, first, kept⟩ := matchTopic_eq classes compiled question.1 question.2
      obtain ⟨later, rest, held⟩ := ih kept
      refine ⟨later, ?_, held⟩
      rw [matchAll, first, Option.bind_some, rest]
      rfl

/-- Whatever was asked before, a topic of one line matches a pattern when it is the pattern with
    something in place of each star; and no answer depends on what is cached. -/
theorem topicMatches_iff_obtained (classes : CharClasses) (questions : List (String × String))
    (topic pattern : String) (line : '\n' ∉ topic.toList) :
    ∃ answers cache, matchAll classes [] questions = some (answers, cache) ∧
      ∃ answer later, matchTopic classes cache topic pattern = some (answer, later) ∧
        (answer = true ↔ Obtained pattern.toList topic.toList) ∧
        ∃ alone, matchTopic classes [] topic pattern = some (answer, alone) := by
  have none : Compiled [] := fun _ _ found => by cases found
  obtain ⟨cache, before, compiled⟩ := matchAll_eq classes none questions
  obtain ⟨later, result, -⟩ := matchTopic_eq classes compiled topic pattern
  obtain ⟨alone, same, -⟩ := matchTopic_eq classes none topic pattern
  exact ⟨_, cache, before, _, later, result, matchesFrom_iff_obtained line, alone, same⟩

/-- A backslash before a star stands for itself, and the star for the rest. -/
theorem topicMatches_iff_obtained_backslash :
    ∃ answers cache, matchAll .ascii [] [("a", "a"), ("a.b", "*")] = some (answers, cache) ∧
      ∃ answer later, matchTopic .ascii cache "x\\yz" "x\\*" = some (answer, later) ∧
        (answer = true ↔ Obtained "x\\*".toList "x\\yz".toList) ∧
        ∃ alone, matchTopic .ascii [] "x\\yz" "x\\*" = some (answer, alone) :=
  topicMatches_iff_obtained .ascii [("a", "a"), ("a.b", "*")] "x\\yz" "x\\*" (by decide)

end TallyKeep
