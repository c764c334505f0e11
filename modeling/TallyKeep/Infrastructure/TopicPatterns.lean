/-
Module: TallyKeep.Infrastructure.TopicPatterns
Layer: Infrastructure
Purpose: How a topic pattern becomes a regular expression, and the cache of those that did.
Trusted boundary: translation of the pattern matching of `infrastructure/event_bus.py`
Main exports: replaceStars, PatternCache, compilePattern, matchTopic, matchAll
-/
import TallyKeep.Library.RegexText

namespace TallyKeep

open Regex

/-- `.replace(r"\*", ".*")`. -/
def replaceStars : List Char → List Char
  | '\\' :: '*' :: rest => '.' :: '*' :: replaceStars rest
  | c :: rest => c :: replaceStars rest
  | [] => []

/-- `_PATTERN_CACHE`. -/
abbrev PatternCache := List (String × Pattern)

/-- `_compile_pattern`, with the cache it leaves.  A text that is no regular expression raises. -/
def compilePattern (cache : PatternCache) (pattern : String) : Option (Pattern × PatternCache) :=
  match cache.lookup pattern with
  | some compiled => some (compiled, cache)
  | none =>
      let escaped := replaceStars (escape pattern.toList)
      (compile ('^' :: escaped ++ ['$'])).map fun compiled =>
        (compiled, (pattern, compiled) :: cache)

/-- `topic_matches_pattern`, with the cache it leaves. -/
def matchTopic (classes : CharClasses) (cache : PatternCache) (topic pattern : String) :
    Option (Bool × PatternCache) :=
  (compilePattern cache pattern).map fun compiled =>
    (matchesAtStart classes compiled.1 topic, compiled.2)

/-- The answers to one question after another, and the cache in the end. -/
def matchAll (classes : CharClasses) (cache : PatternCache) :
    List (String × String) → Option (List Bool × PatternCache)
  | [] => some ([], cache)
  | question :: later =>
      (matchTopic classes cache question.1 question.2).bind fun answered =>
        (matchAll classes answered.2 later).map fun answers =>
          (answered.1 :: answers.1, answers.2)

end TallyKeep
