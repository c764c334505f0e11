/-
Module: TallyKeep.Library.RegexPieces
Layer: Library
Purpose: Counting the matches of a pattern in a text that falls into pieces: a pattern that looks at
  nothing but the characters it takes is matched in each piece by itself.
Trusted boundary: none
Main exports: Pattern.unanchored, Position.amid, run_amid, searchFrom_append, matchCount,
  length_findAllFrom, matchCount_append_cons, matchCount_of_no_match, not_accepts_of_head_star
-/
import TallyKeep.Library.Regex

namespace Regex

variable {classes : CharClasses} {pattern : Pattern} {allowed : Char → Prop}
  {before after rest tail : List Char} {position stop : Position}

/-! ### Moving a place -/

/-- The pattern asks for nothing beside the characters it takes. -/
def Pattern.unanchored : Pattern → Bool
  | .empty => true
  | .char _ => true
  | .seq first second => first.unanchored && second.unanchored
  | .alt first second => first.unanchored && second.unanchored
  | .star body => body.unanchored
  | .boundary => false
  | .atEnd => false
  | .group body => body.unanchored

/-- A place of a text, as a place of a longer text: with what stands around, and with groups that
    are captured already. -/
def Position.amid (before tail : List Char) (groups : List (List Char)) (position : Position) :
    Position :=
  ⟨position.before ++ before, position.after ++ tail, groups ++ position.groups⟩

theorem length_amid (before tail : List Char) (groups : List (List Char)) (position : Position) :
    (position.amid before tail groups).after.length = position.after.length + tail.length :=
  List.length_append

/-- A repetition needs no more fuel than there are characters. -/
theorem iterate_eq {once : Position → List Position} {fuel more : Nat}
    (enough : position.after.length ≤ fuel) (enough' : position.after.length ≤ more) :
    iterate once fuel position = iterate once more position := by
  have stuck : ∀ fuel {position : Position}, position.after.length ≤ 0 →
      iterate once fuel position = [position] := by
    intro fuel position short
    cases fuel with
    | zero => rfl
    | succ fuel =>
        have none : ((once position).filter fun next =>
            decide (next.after.length < position.after.length)) = [] := by
          rw [List.filter_eq_nil_iff]
          intro next _ shorter
          have := of_decide_eq_true shorter
          omega
        rw [iterate, none]
        rfl
  induction fuel generalizing more position with
  | zero => rw [stuck 0 enough, stuck more enough]
  | succ fuel inductionHypothesis =>
      cases more with
      | zero => rw [stuck _ enough', stuck 0 enough']
      | succ more =>
          rw [iterate, iterate]
          congr 1
          apply List.flatMap_congr
          intro next member
          have shorter := of_decide_eq_true (List.mem_filter.mp member).2
          exact inductionHypothesis (by omega) (by omega)

/-- What stands around a piece makes no difference to the matches in it. -/
theorem run_amid (unanchored : pattern.unanchored = true) (within : pattern.Within allowed)
    (closed : ∀ c ∈ tail.head?, ¬allowed c) (groups : List (List Char)) (position : Position) :
    pattern.run classes (position.amid before tail groups) =
      (pattern.run classes position).map (Position.amid before tail groups) := by
  induction pattern generalizing position with
  | empty => rfl
  | char accepts =>
      obtain ⟨earlier, here, captured⟩ := position
      cases here with
      | cons c here =>
          cases accepted : accepts c <;> simp [Pattern.run, Position.amid, accepted]
      | nil =>
          cases tail with
          | nil => rfl
          | cons c tail =>
              have refused : accepts c = false :=
                Bool.eq_false_of_not_eq_true fun accepted => closed c rfl (within c accepted)
              simp [Pattern.run, Position.amid, refused]
  | seq first second firstHypothesis secondHypothesis =>
      obtain ⟨first', second'⟩ := (Bool.and_eq_true _ _).mp unanchored
      rw [run_seq, run_seq, firstHypothesis first' within.1, List.flatMap_map, List.map_flatMap]
      congr 1
      funext middle
      exact secondHypothesis second' within.2 middle
  | alt first second firstHypothesis secondHypothesis =>
      obtain ⟨first', second'⟩ := (Bool.and_eq_true _ _).mp unanchored
      rw [run_alt, run_alt, firstHypothesis first' within.1, secondHypothesis second' within.2,
        List.map_append]
  | star body inductionHypothesis =>
      have moved : ∀ fuel position,
          iterate (body.run classes) fuel (position.amid before tail groups) =
            (iterate (body.run classes) fuel position).map (Position.amid before tail groups) := by
        intro fuel
        induction fuel with
        | zero => exact fun _ => rfl
        | succ fuel again =>
            intro position
            have shorter : ∀ next : Position,
                decide ((next.amid before tail groups).after.length <
                    (position.amid before tail groups).after.length) =
                  decide (next.after.length < position.after.length) := by
              intro next
              rw [length_amid, length_amid, decide_eq_decide]
              exact Nat.add_lt_add_iff_right
            rw [iterate, iterate, inductionHypothesis unanchored within, List.filter_map,
              List.flatMap_map, List.map_append, List.map_flatMap, List.map_singleton]
            simp only [Function.comp_def, shorter, again]
      rw [Pattern.run, moved, Pattern.run]
      congr 1
      apply iterate_eq
      · rw [length_amid]
        exact Nat.le_add_right _ _
      · exact Nat.le_refl _
  | boundary => cases unanchored
  | atEnd => cases unanchored
  | group body inductionHypothesis =>
      have taken : ∀ stop, (position.amid before tail groups).taken (stop.amid before tail groups) =
          position.taken stop := by
        intro stop
        rw [Position.taken, length_amid, length_amid, Nat.add_sub_add_right, Position.taken,
          Position.amid, List.take_append_of_le_length (Nat.sub_le _ _)]
      rw [Pattern.run, inductionHypothesis unanchored within, Pattern.run, List.map_map,
        List.map_map]
      congr 1
      funext stop
      rw [Function.comp_apply, Function.comp_apply, taken, Position.amid, Position.amid,
        List.append_assoc]

/-! ### Searching piece by piece -/

theorem within_any (pattern : Pattern) : pattern.Within fun _ => True := by
  induction pattern with
  | empty => trivial
  | boundary => trivial
  | atEnd => trivial
  | char accepts => exact fun _ _ => trivial
  | seq first second firstHypothesis secondHypothesis => exact ⟨firstHypothesis, secondHypothesis⟩
  | alt first second firstHypothesis secondHypothesis => exact ⟨firstHypothesis, secondHypothesis⟩
  | star body inductionHypothesis => exact inductionHypothesis
  | group body inductionHypothesis => exact inductionHypothesis

/-- What stands before makes no difference to a search. -/
theorem searchFrom_before (unanchored : pattern.unanchored = true)
    (earlier before after : List Char) :
    searchFrom classes pattern (earlier ++ before) after =
      (searchFrom classes pattern earlier after).map (Position.amid before [] []) := by
  have here : ∀ earlier after, pattern.run classes ⟨earlier ++ before, after, []⟩ =
      (pattern.run classes ⟨earlier, after, []⟩).map (Position.amid before [] []) := by
    intro earlier after
    have moved := @run_amid classes pattern _ before [] unanchored (within_any pattern)
      (fun _ none => absurd none (by simp)) [] ⟨earlier, after, []⟩
    rw [Position.amid, List.append_nil] at moved
    exact moved
  induction after generalizing earlier with
  | nil => rw [searchFrom, searchFrom, here, List.head?_map]
  | cons c after inductionHypothesis =>
      have later := inductionHypothesis (c :: earlier)
      rw [List.cons_append] at later
      rw [searchFrom, searchFrom, here, List.head?_map, later, Option.map_or]

/-- A search looks through one piece after the other. -/
theorem searchFrom_append (unanchored : pattern.unanchored = true) (within : pattern.Within allowed)
    {c : Char} (delimiter : ¬allowed c) (before after rest : List Char) :
    searchFrom classes pattern before (after ++ c :: rest) =
      ((searchFrom classes pattern before after).map (Position.amid [] (c :: rest) [])).or
        (searchFrom classes pattern (c :: (after.reverse ++ before)) rest) := by
  have here : ∀ before after, pattern.run classes ⟨before, after ++ c :: rest, []⟩ =
      (pattern.run classes ⟨before, after, []⟩).map (Position.amid [] (c :: rest) []) := by
    intro before after
    have moved := @run_amid classes pattern _ [] (c :: rest) unanchored within
      (fun d first => by rw [← Option.mem_some_iff.mp first]; exact delimiter) []
      ⟨before, after, []⟩
    rw [Position.amid, List.append_nil] at moved
    exact moved
  induction after generalizing before with
  | nil =>
      have first := here before []
      rw [List.nil_append] at first
      rw [List.nil_append, searchFrom, searchFrom, first, List.head?_map]
      rfl
  | cons d after inductionHypothesis =>
      have first := here before (d :: after)
      rw [List.cons_append] at first
      rw [List.cons_append, searchFrom, searchFrom, first, List.head?_map, inductionHypothesis,
        Option.map_or, Option.or_assoc, List.reverse_cons, List.append_assoc, List.singleton_append]

/-! ### Counting matches -/

variable (classes pattern) in
/-- The number of matches in a text. -/
def matchCount (text : List Char) : Nat :=
  (findAllFrom classes pattern (text.length + 1) [] text).length

variable (classes pattern) in
/-- A match takes at least one character. -/
def Pattern.Advances : Prop :=
  ∀ position, ∀ stop ∈ pattern.run classes position, stop.after.length < position.after.length

theorem Pattern.Advances.shorter (advances : pattern.Advances classes)
    (result : searchFrom classes pattern before after = some stop) :
    stop.after.length < after.length := by
  obtain ⟨skipped, rest, rfl, member⟩ := mem_run_of_searchFrom result
  have shorter := advances _ stop member
  rw [List.length_append]
  exact Nat.lt_of_lt_of_le shorter (Nat.le_add_left _ _)

/-- How many matches there are depends neither on the fuel nor on what stands before. -/
theorem length_findAllFrom (unanchored : pattern.unanchored = true)
    (advances : pattern.Advances classes) {fuel : Nat} (enough : after.length < fuel) :
    (findAllFrom classes pattern fuel before after).length = matchCount classes pattern after := by
  have same : ∀ fuel more (before before' after : List Char),
      after.length < fuel → after.length < more →
        (findAllFrom classes pattern fuel before after).length =
          (findAllFrom classes pattern more before' after).length := by
    intro fuel
    induction fuel with
    | zero => exact fun _ _ _ _ none => absurd none (Nat.not_lt_zero _)
    | succ fuel inductionHypothesis =>
        intro more before before' after enough enough'
        obtain ⟨more, rfl⟩ := Nat.exists_eq_add_one_of_ne_zero (Nat.ne_zero_of_lt enough')
        have search := @searchFrom_before classes pattern unanchored []
        simp only [List.nil_append] at search
        rw [findAllFrom, findAllFrom, search before, search before']
        cases result : searchFrom classes pattern [] after with
        | none => rfl
        | some stop =>
            have shorter := advances.shorter result
            simp only [Option.map_some, Position.amid, List.append_nil, List.length_cons]
            rw [inductionHypothesis more _ (stop.before ++ before') stop.after (by omega)
              (by omega)]
  exact same fuel _ before [] after enough (Nat.lt_succ_self _)

theorem matchCount_of_none (none : searchFrom classes pattern [] after = none) :
    matchCount classes pattern after = 0 := by
  rw [matchCount, findAllFrom, none]
  rfl

/-- The first match, and those behind it. -/
theorem matchCount_of_some (unanchored : pattern.unanchored = true)
    (advances : pattern.Advances classes)
    (result : searchFrom classes pattern before after = some stop) :
    matchCount classes pattern after = matchCount classes pattern stop.after + 1 := by
  have shorter := advances.shorter result
  have count := @length_findAllFrom classes pattern before after unanchored advances
    (after.length + 1) (Nat.lt_succ_self _)
  rw [findAllFrom, result, List.length_cons,
    length_findAllFrom unanchored advances shorter] at count
  exact count.symm

/-- The matches in two pieces that are kept apart by a character which no match can take. -/
theorem matchCount_append_cons (unanchored : pattern.unanchored = true)
    (within : pattern.Within allowed) (advances : pattern.Advances classes) {c : Char}
    (delimiter : ¬allowed c) (text rest : List Char) :
    matchCount classes pattern (text ++ c :: rest) =
      matchCount classes pattern text + matchCount classes pattern rest := by
  induction length : text.length using Nat.strongRecOn generalizing text with
  | ind n inductionHypothesis =>
      have search := @searchFrom_append classes pattern allowed unanchored within c delimiter []
        text rest
      cases result : searchFrom classes pattern [] text with
      | some stop =>
          have shorter := advances.shorter result
          rw [result, Option.map_some, Option.some_or] at search
          rw [matchCount_of_some unanchored advances search,
            matchCount_of_some unanchored advances result, Position.amid,
            inductionHypothesis _ (length ▸ shorter) stop.after rfl]
          exact Nat.add_right_comm _ _ _
      | none =>
          rw [result, Option.map_none, Option.none_or] at search
          rw [matchCount_of_none result, Nat.zero_add]
          -- The first match of the whole is the first match behind the delimiter.
          cases behind : searchFrom classes pattern (c :: (text.reverse ++ [])) rest with
          | none =>
              rw [behind] at search
              have alone := @searchFrom_before classes pattern unanchored []
                (c :: (text.reverse ++ [])) rest
              rw [List.nil_append, behind, eq_comm, Option.map_eq_none_iff] at alone
              rw [matchCount_of_none search, matchCount_of_none alone]
          | some stop =>
              rw [behind] at search
              rw [matchCount_of_some unanchored advances search,
                matchCount_of_some unanchored advances behind]

theorem matchCount_nil (advances : pattern.Advances classes) :
    matchCount classes pattern [] = 0 := by
  cases result : searchFrom classes pattern [] [] with
  | none => exact matchCount_of_none result
  | some stop => exact absurd (advances.shorter result) (Nat.not_lt_zero _)

/-- A text that a match cannot lie in counts nothing. -/
theorem matchCount_of_no_match
    (none : ∀ skipped rest, after = skipped ++ rest →
      ∀ stop, stop ∉ pattern.run classes ⟨skipped.reverse, rest, []⟩) :
    matchCount classes pattern after = 0 := by
  cases result : searchFrom classes pattern [] after with
  | none => exact matchCount_of_none result
  | some stop =>
      obtain ⟨skipped, rest, split, member⟩ := mem_run_of_searchFrom result
      rw [List.append_nil] at member
      exact absurd member (none skipped rest split stop)

/-! ### Greed -/

theorem run_char_cons {accepts : Char → Bool} {c : Char} (accepted : accepts c = true)
    (before after : List Char) (groups : List (List Char)) :
    (Pattern.char accepts).run classes ⟨before, c :: after, groups⟩ =
      [⟨c :: before, after, groups⟩] := by
  simp only [Pattern.run, accepted, if_true]

theorem run_char_refused {accepts : Char → Bool} {c : Char} (refused : accepts c = false)
    (before after : List Char) (groups : List (List Char)) :
    (Pattern.char accepts).run classes ⟨before, c :: after, groups⟩ = [] := by
  simp only [Pattern.run, refused, Bool.false_eq_true, if_false]

/-- The match that a repetition of one character prefers ends where no more can be taken. -/
theorem not_accepts_of_head_star {accepts : Char → Bool}
    (preferred : stop ∈ ((Pattern.star (.char accepts)).run classes position).head?) :
    ∀ c ∈ stop.after.head?, accepts c = false := by
  have greedy : ∀ fuel (position : Position), position.after.length ≤ fuel →
      stop ∈ (iterate ((Pattern.char accepts).run classes) fuel position).head? →
        ∀ c ∈ stop.after.head?, accepts c = false := by
    intro fuel
    induction fuel with
    | zero =>
        intro position short preferred
        obtain rfl := Option.some_inj.mp preferred
        rw [List.length_eq_zero_iff.mp (Nat.le_zero.mp short)]
        exact fun _ none => absurd none (by simp)
    | succ fuel inductionHypothesis =>
        rintro ⟨before, after, groups⟩ short preferred
        cases after with
        | nil =>
            obtain rfl := Option.some_inj.mp preferred
            exact fun _ none => absurd none (by simp)
        | cons c after =>
            cases accepted : accepts c with
            | false =>
                rw [iterate, run_char_refused accepted] at preferred
                obtain rfl := Option.some_inj.mp preferred
                rintro d ⟨⟩
                exact accepted
            | true =>
                have further : iterate ((Pattern.char accepts).run classes) fuel
                    ⟨c :: before, after, groups⟩ ≠ [] := by
                  cases fuel with
                  | zero => exact List.cons_ne_nil _ _
                  | succ fuel =>
                      rw [iterate]
                      exact List.append_ne_nil_of_right_ne_nil _ (List.cons_ne_nil _ _)
                rw [iterate, run_char_cons accepted,
                  List.filter_cons_of_pos (by exact decide_eq_true (Nat.lt_succ_self _)),
                  List.filter_nil, List.flatMap_cons, List.flatMap_nil, List.append_nil,
                  List.head?_append_of_ne_nil _ further] at preferred
                rw [List.length_cons] at short
                exact inductionHypothesis _ (Nat.le_of_succ_le_succ short) preferred
  exact greedy _ position (Nat.le_refl _) preferred

theorem run_seq_empty (pattern : Pattern) (position : Position) :
    (pattern.seq .empty).run classes position = pattern.run classes position :=
  List.flatMap_singleton' _

/-- The preferred match of a sequence is one of its second part. -/
theorem exists_of_head_seq {first second : Pattern}
    (preferred : stop ∈ ((first.seq second).run classes position).head?) :
    ∃ middle ∈ first.run classes position, stop ∈ (second.run classes middle).head? := by
  rw [run_seq, List.head?_flatMap] at preferred
  obtain ⟨middle, member, same⟩ := List.exists_of_findSome?_eq_some preferred
  exact ⟨middle, member, same⟩

end Regex
