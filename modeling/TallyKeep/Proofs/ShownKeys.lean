/-
Module: TallyKeep.Proofs.ShownKeys
Layer: Proofs
Purpose: How many parts of a descriptor's text look like an extended key: as many as the tree has
  extended keys.
Trusted boundary: none
Main exports: keysIn, keysIn_append_cons, keysIn_extended, keysIn_plain, ShowsKeys,
  Descriptor.showsKeys, keysIn_form, StandardForm.keysIn_text
-/
import TallyKeep.Adapters.MultisigClauses
import TallyKeep.Library.RegexPieces
import TallyKeep.Proofs.ShownIndices

namespace TallyKeep

open CallText Regex DescriptorPatterns

variable {classes : CharClasses}

/-! ### What looks like a key -/

theorem xpub_eq : xpub = .seq (.between (.char Char.isAlpha) 1 4)
    (.seq (.text "pub") (.seq (.plus (.char Char.isAlphanum)) .empty)) := rfl

/-- A match of the key pattern is letters and digits throughout. -/
theorem xpub_within : xpub.Within fun c => c.isAlphanum = true := by
  have letters : (Pattern.char Char.isAlpha).Within fun c => c.isAlphanum = true :=
    fun c letter => (Bool.or_eq_true _ _).mpr (.inl letter)
  rw [xpub_eq]
  refine ⟨within_between letters 1 4, within_literal ?_, ⟨fun _ => id, fun _ => id⟩, trivial⟩
  exact List.all_eq_true.mp (by decide)

/-- A match of the key pattern: letters, `pub`, and the rest. -/
theorem split_of_xpub {position stop : Position} (member : stop ∈ xpub.run classes position) :
    ∃ letters rest, position.after = letters ++ ("pub".toList ++ rest) ∧
      stop.after.length < rest.length := by
  rw [xpub_eq] at member
  obtain ⟨middle, first, member⟩ := mem_run_seq.mp member
  obtain ⟨letters, split, -⟩ := takes_of_mem_run (within_any _) first
  obtain ⟨⟨before, after, groups⟩, second, third⟩ := mem_run_seq.mp member
  rw [prefix_of_run_literal second] at split
  refine ⟨letters, after, split, ?_⟩
  obtain ⟨_, fourth, same⟩ := mem_run_seq.mp third
  obtain ⟨taken, rest, nonempty, rfl, -, rfl⟩ := mem_run_plus_char.mp fourth
  rw [run_empty, List.mem_singleton] at same
  rw [same, List.length_append]
  exact Nat.lt_add_of_pos_left (List.length_pos_of_ne_nil nonempty)

/-- The key pattern consumes something. -/
theorem xpub_advances : xpub.Advances classes := by
  intro position stop member
  obtain ⟨letters, rest, split, shorter⟩ := split_of_xpub member
  rw [split, List.length_append, List.length_append]
  omega

variable (classes) in
/-- How many parts of a text look like an extended key. -/
def keysIn (text : List Char) : Nat := matchCount classes xpub text

section Texts

variable {text rest : List Char}

/-- No key is cut off at a delimiter. -/
theorem keysIn_append_cons {c : Char} (delimiter : c.isAlphanum = false) (text rest : List Char) :
    keysIn classes (text ++ c :: rest) = keysIn classes text + keysIn classes rest :=
  matchCount_append_cons rfl xpub_within xpub_advances (by rw [delimiter]; exact Bool.false_ne_true)
    text rest

theorem keysIn_nil : keysIn classes [] = 0 := matchCount_nil xpub_advances

/-- A delimiter begins no key. -/
theorem keysIn_cons {c : Char} (delimiter : c.isAlphanum = false) (rest : List Char) :
    keysIn classes (c :: rest) = keysIn classes rest := by
  have apart := @keysIn_append_cons classes c delimiter [] rest
  rw [keysIn_nil, Nat.zero_add] at apart
  exact apart

/-- A text without `pub` shows no key. -/
theorem keysIn_of_no_pub (none : ¬"pub".toList <:+: text) : keysIn classes text = 0 := by
  apply matchCount_of_no_match
  intro skipped rest split stop member
  obtain ⟨letters, later, behind, -⟩ := split_of_xpub member
  refine none ⟨skipped ++ letters, later, ?_⟩
  change rest = _ at behind
  rw [split, behind]
  simp

/-- Nothing looks like a key where a letter of `pub` is missing. -/
theorem keysIn_of_absent {c : Char} (listed : c ∈ "pub".toList) (absent : c ∉ text) :
    keysIn classes text = 0 :=
  keysIn_of_no_pub fun inside => absent (inside.subset listed)

/-- A plain key is not an extended one. -/
theorem keysIn_plain (plain : isPlainKey text = true) : keysIn classes text = 0 := by
  refine keysIn_of_absent (show 'p' ∈ "pub".toList by decide) ?_
  intro inside
  exact absurd (List.all_eq_true.mp ((Bool.and_eq_true _ _).mp plain).2 _ inside) (by decide)

/-- An extended key is a letter, `pub`, and letters and digits after it. -/
theorem exists_of_isExtendedKey (extended : isExtendedKey text = true) :
    ∃ letter c rest, text = letter :: ("pub".toList ++ c :: rest) ∧ letter.isAlpha = true ∧
      ∀ d ∈ c :: rest, d.isAlphanum = true := by
  rw [isExtendedKey.eq_def] at extended
  split at extended
  · obtain ⟨isLetter, more⟩ := (Bool.and_eq_true _ _).mp extended
    exact ⟨_, _, _, rfl, isLetter, List.all_eq_true.mp more⟩
  · cases extended

/-- An extended key is letters and digits throughout. -/
theorem alphanum_of_isExtendedKey (extended : isExtendedKey text = true) :
    ∀ d ∈ text, d.isAlphanum = true := by
  obtain ⟨letter, c, rest, rfl, isLetter, more⟩ := exists_of_isExtendedKey extended
  intro d member
  rcases List.mem_cons.mp member with rfl | member
  · exact (Bool.or_eq_true _ _).mpr (.inl isLetter)
  · rcases List.mem_append.mp member with member | member
    · exact List.all_eq_true.mp (show "pub".toList.all Char.isAlphanum = true by decide) d member
    · exact more d member

/-- An extended key looks like one key: the match takes all of it. -/
theorem keysIn_extended (extended : isExtendedKey text = true) : keysIn classes text = 1 := by
  have alphanum := alphanum_of_isExtendedKey extended
  obtain ⟨letter, c, rest, rfl, isLetter, more⟩ := exists_of_isExtendedKey extended
  have matched : ∃ stop,
      stop ∈ xpub.run classes ⟨[], letter :: ("pub".toList ++ c :: rest), []⟩ := by
    rw [xpub_eq]
    refine exists_mem_run_seq (mem_run_seq.mpr ⟨_, mem_run_char.mpr ⟨letter, _, rfl, isLetter, rfl⟩,
      mem_run_alt.mpr (.inr (List.mem_singleton_self _))⟩) ?_
    refine exists_mem_run_seq (mem_run_literal.mpr ⟨_, rfl, rfl⟩) ?_
    exact exists_mem_run_seq (mem_run_plus_char.mpr
      ⟨c :: rest, [], List.cons_ne_nil _ _, (List.append_nil _).symm, more, rfl⟩)
      ⟨_, List.mem_singleton_self _⟩
  obtain ⟨stop, preferred⟩ := Option.isSome_iff_exists.mp
    (List.isSome_head?.mpr (List.ne_nil_of_mem matched.choose_spec))
  have result : searchFrom classes xpub [] (letter :: ("pub".toList ++ c :: rest)) = some stop := by
    rw [searchFrom, preferred]
    rfl
  -- The last part of the pattern is greedy, so that nothing of the key is left.
  have ends : ∀ d ∈ stop.after.head?, d.isAlphanum = false := by
    rw [xpub_eq] at preferred
    obtain ⟨_, -, preferred⟩ := exists_of_head_seq preferred
    obtain ⟨_, -, preferred⟩ := exists_of_head_seq preferred
    rw [run_seq_empty] at preferred
    obtain ⟨_, -, preferred⟩ := exists_of_head_seq preferred
    exact not_accepts_of_head_star preferred
  have left : stop.after = [] := by
    cases after : stop.after with
    | nil => rfl
    | cons d later =>
        obtain ⟨taken, split, -⟩ := takes_of_mem_run (within_any xpub) (List.mem_of_head? preferred)
        change letter :: ("pub".toList ++ c :: rest) = taken ++ stop.after at split
        have inside : d ∈ letter :: ("pub".toList ++ c :: rest) := by
          rw [split, after]
          exact List.mem_append_right _ List.mem_cons_self
        have other := ends d (by rw [after]; rfl)
        rw [alphanum d inside] at other
        cases other
  rw [keysIn, matchCount_of_some rfl xpub_advances result, left]
  exact congrArg (· + 1) keysIn_nil

end Texts

/-! ### Counting keys in a tree -/

variable (classes) in
/-- So many keys show in an expression, and none at its prefixes. -/
structure ShowsKeys (e : Expr) (count : Nat) : Prop where
  keys : keysIn classes e.print = count
  letters : ∀ letters body, e = .prefixed letters body → 'p' ∉ letters

namespace ShowsKeys

variable {e first second : Expr} {name text : List Char} {count many more : Nat}

/-- An atom shows the keys of its text. -/
theorem atom (keys : keysIn classes text = count) : ShowsKeys classes (.atom text) count :=
  ⟨keys, fun _ _ same => by cases same⟩

/-- A pair shows the keys of both. -/
theorem pair (shows : ShowsKeys classes first many) (shows' : ShowsKeys classes second more) :
    ShowsKeys classes (.pair first second) (many + more) := by
  refine ⟨?_, fun _ _ same => by cases same⟩
  rw [Expr.print, keysIn_append_cons (by decide), shows.keys, shows'.keys]

/-- A call shows the keys of its argument. -/
theorem call (silent : ¬"pub".toList <:+: name) (shows : ShowsKeys classes e count) :
    ShowsKeys classes (.call name e) count := by
  refine ⟨?_, fun _ _ same => by cases same⟩
  rw [Expr.print, keysIn_append_cons (by decide), keysIn_of_no_pub silent, Nat.zero_add,
    keysIn_append_cons (by decide), keysIn_nil, Nat.add_zero, shows.keys]

/-- Braces show the keys of both. -/
theorem braces (shows : ShowsKeys classes first many) (shows' : ShowsKeys classes second more) :
    ShowsKeys classes (.braces first second) (many + more) := by
  refine ⟨?_, fun _ _ same => by cases same⟩
  rw [Expr.print, keysIn_cons (by decide), keysIn_append_cons (by decide),
    keysIn_append_cons (by decide), keysIn_nil, Nat.add_zero, shows.keys, shows'.keys]

/-- A wrapper shows the keys of what it wraps. -/
theorem before (wrapper : Wrapper) (shows : ShowsKeys classes e count) :
    ShowsKeys classes (wrapper.before e) count := by
  have letter : 'p' ∉ [wrapper.letter] := by cases wrapper <;> decide
  have silent : ∀ {text : List Char}, 'p' ∉ text → keysIn classes text = 0 :=
    fun absent => keysIn_of_absent (by decide) absent
  have colon : ShowsKeys classes (.prefixed [wrapper.letter] e) count := by
    refine ⟨?_, fun letters body same => ?_⟩
    · rw [Expr.print, keysIn_append_cons (by decide), silent letter, Nat.zero_add, shows.keys]
    · cases same
      exact letter
  cases e with
  | prefixed letters body =>
      have absent : 'p' ∉ wrapper.letter :: letters := by
        rw [List.mem_cons, not_or]
        exact ⟨fun same => letter (List.mem_singleton.mpr same), shows.letters letters body rfl⟩
      have keys := shows.keys
      rw [Expr.print, keysIn_append_cons (by decide), silent (shows.letters letters body rfl),
        Nat.zero_add] at keys
      refine ⟨?_, fun letters body same => ?_⟩
      · rw [Wrapper.before, Expr.print, keysIn_append_cons (by decide), silent absent, Nat.zero_add,
          keys]
      · cases same
        exact absent
  | _ => exact colon

end ShowsKeys

variable (classes) in
/-- How many of some keys look like extended ones. -/
def keysAmong (keys : List Operand) : Nat := (keys.map fun key => keysIn classes key.text).sum

/-- The keys shown among two lists are those of both. -/
theorem keysAmong_append (keys keys' : List Operand) :
    keysAmong classes (keys ++ keys') = keysAmong classes keys + keysAmong classes keys' := by
  rw [keysAmong, List.map_append, List.sum_append]
  rfl

theorem keysAmong_cons (key : Operand) (keys : List Operand) :
    keysAmong classes (key :: keys) = keysIn classes key.text + keysAmong classes keys := by
  rw [keysAmong, List.map_cons, List.sum_cons]
  rfl

theorem keysAmong_singleton (key : Operand) :
    keysAmong classes [key] = keysIn classes key.text := by
  rw [keysAmong_cons]
  exact Nat.add_zero _

/-- Keys between commas are shown one by one. -/
theorem keysIn_intercalate (keys : List Operand) :
    keysIn classes ([','].intercalate (keys.map Operand.text)) = keysAmong classes keys := by
  induction keys with
  | nil => exact keysIn_nil
  | cons key keys inductionHypothesis =>
      cases keys with
      | nil => rw [List.map_singleton, List.intercalate_singleton, keysAmong_singleton]
      | cons other keys =>
          rw [List.map_cons, List.map_cons, List.intercalate_cons_cons, List.append_assoc,
            List.singleton_append, keysIn_append_cons (by decide), ← List.map_cons,
            inductionHypothesis, keysAmong_cons key]

/-- A number shows no key. -/
theorem keysIn_decimal (n : Nat) : keysIn classes (Nat.toDigits 10 n) = 0 := by
  refine keysIn_of_absent (show 'p' ∈ "pub".toList by decide) ?_
  exact fun inside => absurd (isDigit_of_mem_toDigits inside) (by decide)

theorem shows_decimal (n : Nat) : ShowsKeys classes (decimal n) 0 := .atom (keysIn_decimal n)

theorem shows_key (key : Operand) : ShowsKeys classes (.atom key.text) (keysAmong classes [key]) :=
  .atom (keysAmong_singleton key).symm

/-- A list of keys shows the keys of its operands. -/
theorem shows_keyList (threshold : Nat) (keys : List Operand) :
    ShowsKeys classes (keyList threshold keys) (keysAmong classes keys) := by
  have list : ShowsKeys classes (keyList threshold keys) (0 + keysAmong classes keys) :=
    (shows_decimal threshold).pair (.atom (keysIn_intercalate keys))
  rw [Nat.zero_add] at list
  exact list

/-- No fragment name holds `pub`. -/
theorem Fragment.name_no_pub (fragment : Fragment) : ¬"pub".toList <:+: fragment.name.toList := by
  cases fragment with
  | key kind | timelock kind _ | hash kind | multi kind _ | and kind | or kind =>
      cases kind <;> rw [name] <;> decide
  | andor | thresh => decide

variable (classes) in
/-- Digests do not look like keys. -/
def SilentDigests (digests : List Operand) : Prop :=
  ∀ digest ∈ digests, keysIn classes digest.text = 0

/-- Digests are silent when those of both lists are. -/
theorem silentDigests_append {digests digests' : List Operand} :
    SilentDigests classes (digests ++ digests') ↔
      SilentDigests classes digests ∧ SilentDigests classes digests' :=
  List.forall_mem_append

/-- In a script show as many keys as in its keys by themselves. -/
theorem Script.showsKeys (script : Script) (silent : SilentDigests classes script.digests) :
    ShowsKeys classes script.expr (keysAmong classes script.keys) := by
  refine @Script.rec
    (fun script => SilentDigests classes script.digests →
      ShowsKeys classes script.expr (keysAmong classes script.keys))
    (fun subs => SilentDigests classes subs.digests → ∀ e count, ShowsKeys classes e count →
      ShowsKeys classes (subs.behind e) (count + keysAmong classes subs.keys))
    ?_ ?_ ?_ ?_ ?_ ?_ ?_ ?_ ?_ ?_ ?_ ?_ script silent
  · intro value _
    refine .atom (keysIn_of_absent (show 'p' ∈ "pub".toList by decide) ?_)
    cases value <;> decide
  · intro kind key _
    exact ShowsKeys.call (Fragment.name_no_pub _) (shows_key key)
  · intro kind value _
    exact ShowsKeys.call (Fragment.name_no_pub _) (shows_decimal value)
  · intro kind digest silent
    exact ShowsKeys.call (Fragment.name_no_pub _)
      (.atom (silent digest (List.mem_singleton.mpr rfl)))
  · intro kind threshold keys _
    exact ShowsKeys.call (Fragment.name_no_pub _) (shows_keyList threshold keys)
  · intro wrapper body inductionHypothesis silent
    exact (inductionHypothesis silent).before wrapper
  · intro kind first second firstHypothesis secondHypothesis silent
    obtain ⟨silentFirst, silentSecond⟩ := silentDigests_append.mp silent
    rw [Script.keys, keysAmong_append]
    exact ShowsKeys.call (Fragment.name_no_pub _)
      ((firstHypothesis silentFirst).pair (secondHypothesis silentSecond))
  · intro condition first second conditionHypothesis firstHypothesis secondHypothesis silent
    obtain ⟨silentCondition, silent⟩ := silentDigests_append.mp silent
    obtain ⟨silentFirst, silentSecond⟩ := silentDigests_append.mp silent
    rw [Script.keys, keysAmong_append, keysAmong_append]
    exact ShowsKeys.call (Fragment.name_no_pub _) ((conditionHypothesis silentCondition).pair
      ((firstHypothesis silentFirst).pair (secondHypothesis silentSecond)))
  · intro kind first second firstHypothesis secondHypothesis silent
    obtain ⟨silentFirst, silentSecond⟩ := silentDigests_append.mp silent
    rw [Script.keys, keysAmong_append]
    exact ShowsKeys.call (Fragment.name_no_pub _)
      ((firstHypothesis silentFirst).pair (secondHypothesis silentSecond))
  · intro threshold subs inductionHypothesis silent
    have shows := inductionHypothesis silent _ 0 (shows_decimal threshold)
    rw [Nat.zero_add] at shows
    exact ShowsKeys.call (Fragment.name_no_pub _) shows
  · intro _ e count shows
    exact shows
  · intro first rest firstHypothesis restHypothesis silent e count shows
    obtain ⟨silentFirst, silentRest⟩ := silentDigests_append.mp silent
    rw [Scripts.keys, keysAmong_append, ← Nat.add_assoc]
    exact restHypothesis silentRest _ _ (shows.pair (firstHypothesis silentFirst))

/-- The expression of a tree shows its keys, as long as its digests show none. -/
theorem TapTree.showsKeys (tree : TapTree) (silent : SilentDigests classes tree.digests) :
    ShowsKeys classes tree.expr (keysAmong classes tree.keys) := by
  induction tree with
  | leaf script => exact script.showsKeys silent
  | branch left right leftHypothesis rightHypothesis =>
      obtain ⟨silentLeft, silentRight⟩ := silentDigests_append.mp silent
      rw [TapTree.keys, keysAmong_append]
      exact (leftHypothesis silentLeft).braces (rightHypothesis silentRight)

/-- No outer name holds `pub`. -/
theorem outer_no_pub {name : String} (outer : name ∈ outerNames) :
    ¬"pub".toList <:+: name.toList := by
  have all : (outerNames.all fun name => decide (¬"pub".toList <:+: name.toList)) = true := by
    decide
  exact of_decide_eq_true (List.all_eq_true.mp all name outer)

/-- In a descriptor show as many keys as in its keys by themselves. -/
theorem Descriptor.showsKeys (descriptor : Descriptor)
    (silent : SilentDigests classes descriptor.digests) :
    ShowsKeys classes descriptor.expr (keysAmong classes descriptor.keys) := by
  have sh := outer_no_pub (show "sh" ∈ outerNames by decide)
  have wsh := outer_no_pub (show "wsh" ∈ outerNames by decide)
  have wpkh := outer_no_pub (show "wpkh" ∈ outerNames by decide)
  have tr := outer_no_pub (show "tr" ∈ outerNames by decide)
  cases descriptor with
  | pk key => exact .call (Fragment.name_no_pub _) (shows_key key)
  | multi sorted threshold keys =>
      exact .call (Fragment.name_no_pub _) (shows_keyList threshold keys)
  | pkh key => exact .call (Fragment.name_no_pub _) (shows_key key)
  | wpkh key => exact .call wpkh (shows_key key)
  | shWpkh key => exact .call sh (.call wpkh (shows_key key))
  | wsh script => exact .call wsh (script.showsKeys silent)
  | sh script => exact .call sh (script.showsKeys silent)
  | shWsh script => exact .call sh (.call wsh (script.showsKeys silent))
  | tr key tree =>
      cases tree with
      | none => exact .call tr (shows_key key)
      | some tree =>
          have keys : (Descriptor.tr key (some tree)).keys = [key] ++ tree.keys := rfl
          rw [keys, keysAmong_append]
          exact .call tr ((shows_key key).pair (tree.showsKeys silent))

/-! ### Keys of a clause -/

/-- The keys of the clauses are among those of the script. -/
theorem Script.mem_keys_of_clause {script : Script} {clause : MultisigClause}
    (member : clause ∈ script.clauses) : ∀ key ∈ clause.keys, key ∈ script.keys := by
  refine @Script.rec
    (fun script => clause ∈ script.clauses → ∀ key ∈ clause.keys, key ∈ script.keys)
    (fun subs => clause ∈ subs.clauses → ∀ key ∈ clause.keys, key ∈ subs.keys)
    ?_ ?_ ?_ ?_ ?_ ?_ ?_ ?_ ?_ ?_ ?_ ?_ script member
  · exact fun _ none => absurd none List.not_mem_nil
  · exact fun _ _ none => absurd none List.not_mem_nil
  · exact fun _ _ none => absurd none List.not_mem_nil
  · exact fun _ _ none => absurd none List.not_mem_nil
  · intro kind threshold keys member
    rw [List.mem_singleton.mp member]
    exact fun _ => id
  · exact fun _ _ inductionHypothesis => inductionHypothesis
  · intro kind first second firstHypothesis secondHypothesis member key known
    rcases List.mem_append.mp member with left | right
    · exact List.mem_append_left _ (firstHypothesis left key known)
    · exact List.mem_append_right _ (secondHypothesis right key known)
  · intro condition first second conditionHypothesis firstHypothesis secondHypothesis member key
      known
    rcases List.mem_append.mp member with left | right
    · exact List.mem_append_left _ (conditionHypothesis left key known)
    · apply List.mem_append_right
      rcases List.mem_append.mp right with left | right
      · exact List.mem_append_left _ (firstHypothesis left key known)
      · exact List.mem_append_right _ (secondHypothesis right key known)
  · intro kind first second firstHypothesis secondHypothesis member key known
    rcases List.mem_append.mp member with left | right
    · exact List.mem_append_left _ (firstHypothesis left key known)
    · exact List.mem_append_right _ (secondHypothesis right key known)
  · exact fun _ _ inductionHypothesis => inductionHypothesis
  · exact fun none => absurd none List.not_mem_nil
  · intro first rest firstHypothesis restHypothesis member key known
    rcases List.mem_append.mp member with left | right
    · exact List.mem_append_left _ (firstHypothesis left key known)
    · exact List.mem_append_right _ (restHypothesis right key known)

/-- The keys of a clause are keys of its tree. -/
theorem TapTree.mem_keys_of_clause {tree : TapTree} {clause : MultisigClause}
    (member : clause ∈ tree.clauses) : ∀ key ∈ clause.keys, key ∈ tree.keys := by
  induction tree with
  | leaf script => exact Script.mem_keys_of_clause member
  | branch left right leftHypothesis rightHypothesis =>
      intro key known
      rcases List.mem_append.mp member with first | second
      · exact List.mem_append_left _ (leftHypothesis first key known)
      · exact List.mem_append_right _ (rightHypothesis second key known)

/-- The keys of a clause are keys of its descriptor. -/
theorem Descriptor.mem_keys_of_clause {descriptor : Descriptor} {clause : MultisigClause}
    (member : clause ∈ descriptor.clauses) : ∀ key ∈ clause.keys, key ∈ descriptor.keys := by
  cases descriptor with
  | pk key | pkh key | wpkh key | shWpkh key => cases member
  | multi sorted threshold keys =>
      rw [List.mem_singleton.mp member]
      exact fun _ => id
  | wsh script | sh script | shWsh script => exact Script.mem_keys_of_clause member
  | tr key tree =>
      cases tree with
      | none => cases member
      | some tree =>
          intro other known
          exact List.mem_cons_of_mem _ (TapTree.mem_keys_of_clause member other known)

/-! ### Forms of keys -/

/-- The only part of a key's text that can look like a key is the key itself. -/
theorem keysIn_form {mark : Char} (marks : mark = 'h' ∨ mark = '\x27') (form : KeyExpression) :
    keysIn classes (form.text mark) = keysIn classes form.key.text := by
  have noP : isOriginChar mark 'p' = false := by
    rcases marks with rfl | rfl <;> rfl
  have path : ∀ steps : List PathStep, 'p' ∉ steps.flatMap (PathStep.text mark) := by
    intro steps inside
    rw [mem_path_text inside] at noP
    cases noP
  have silent : ∀ {text : List Char}, 'p' ∉ text → keysIn classes text = 0 :=
    fun absent => keysIn_of_absent (by decide) absent
  have behind : keysIn classes
      (form.key.text ++ (form.steps.flatMap (PathStep.text mark) ++ form.wildcardText mark)) =
        keysIn classes form.key.text := by
    have wildcard : 'p' ∉ form.wildcardText mark := by
      rw [KeyExpression.wildcardText]
      rcases marks with rfl | rfl <;> rcases form.wildcard with _ | _ | _ <;> decide
    have absent : 'p' ∉ form.steps.flatMap (PathStep.text mark) ++ form.wildcardText mark := by
      rw [List.mem_append, not_or]
      exact ⟨path form.steps, wildcard⟩
    have slash : ∀ c ∈ (form.steps.flatMap (PathStep.text mark) ++ form.wildcardText mark).head?,
        c = '/' := by
      cases form.steps with
      | nil =>
          rw [List.flatMap_nil, List.nil_append, KeyExpression.wildcardText]
          cases form.wildcard with
          | none => exact fun _ none => absurd none (by simp)
          | some hardened => exact fun c first => (Option.mem_some_iff.mp first).symm
      | cons step steps => exact fun c first => (Option.mem_some_iff.mp first).symm
    cases text : form.steps.flatMap (PathStep.text mark) ++ form.wildcardText mark with
    | nil => rw [List.append_nil]
    | cons c rest =>
        rw [text] at slash absent
        rw [List.mem_cons, not_or] at absent
        have delimiter : c.isAlphanum = false := by
          rw [slash c rfl]
          decide
        rw [keysIn_append_cons delimiter, silent absent.2, Nat.add_zero]
  rw [KeyExpression.text]
  cases form.origin with
  | none => exact behind
  | some origin =>
      have absent : 'p' ∉ origin.fingerprint ++ origin.path.flatMap (PathStep.text mark) := by
        rw [List.mem_append, not_or]
        exact ⟨fun inside => absurd (origin.hex _ inside) (by decide), path origin.path⟩
      have text : ∀ rest, ((some origin).map (KeyOrigin.text mark)).getD [] ++ rest =
          '[' :: ((origin.fingerprint ++ origin.path.flatMap (PathStep.text mark)) ++
            ']' :: rest) := by
        intro rest
        simp [KeyOrigin.text]
      rw [text, keysIn_cons (by decide), keysIn_append_cons (by decide), silent absent,
        Nat.zero_add, behind]

/-- Of the accepted forms of keys the extended ones look like one key, and the plain ones like
    none. -/
theorem sum_keysIn_forms {mark : Char} (marks : mark = 'h' ∨ mark = '\x27')
    {forms : List KeyExpression}
    (accepted : ∀ form ∈ forms,
      isExtendedKey form.key.text = true ∨ isPlainKey form.key.text = true) :
    (forms.map fun form => keysIn classes (form.text mark)).sum =
      forms.countP fun form => isExtendedKey form.key.text := by
  induction forms with
  | nil => rfl
  | cons form forms inductionHypothesis =>
      rw [List.forall_mem_cons] at accepted
      rw [List.map_cons, List.sum_cons, inductionHypothesis accepted.2, keysIn_form marks]
      cases extended : isExtendedKey form.key.text with
      | true =>
          rw [List.countP_cons, if_pos extended, keysIn_extended extended]
          exact Nat.add_comm _ _
      | false =>
          rw [extended] at accepted
          have plain := accepted.1.resolve_left Bool.false_ne_true
          rw [List.countP_cons, if_neg (by rw [extended]; exact Bool.false_ne_true),
            keysIn_plain plain, Nat.zero_add, Nat.add_zero]

namespace StandardForm

variable {descriptor : Descriptor} {checksum : Option Operand} {mark : Char}
  {forms : List KeyExpression}

/-- No key of a standard form is empty. -/
theorem nonempty (standard : StandardForm descriptor checksum mark forms) :
    ∀ key ∈ descriptor.keys, key.text ≠ [] := by
  intro key member empty
  have written := List.mem_map_of_mem (f := Operand.text) member
  rw [standard.keys] at written
  obtain ⟨form, known, same⟩ := List.mem_map.mp written
  rw [empty, KeyExpression.text, List.append_eq_nil_iff, List.append_eq_nil_iff] at same
  rcases standard.accepted form known with extended | plain
  · rw [same.2.1] at extended
    cases extended
  · rw [same.2.1] at plain
    cases plain

/-- As many keys show in the text as there are extended ones. -/
theorem keysIn_text (standard : StandardForm descriptor checksum mark forms) :
    keysIn classes (descriptor.text checksum).toList =
      forms.countP fun form => isExtendedKey form.key.text := by
  have digests : SilentDigests classes descriptor.digests := by
    intro digest member
    refine keysIn_of_absent (show 'p' ∈ "pub".toList by decide) ?_
    exact fun inside => absurd (standard.digests digest member _ inside) (by decide)
  have tree : keysIn classes descriptor.expr.print =
      forms.countP fun form => isExtendedKey form.key.text := by
    have texts : keysAmong classes descriptor.keys =
        ((descriptor.keys.map Operand.text).map (keysIn classes)).sum := by
      rw [List.map_map]
      rfl
    rw [(descriptor.showsKeys digests).keys, texts, standard.keys, List.map_map]
    exact sum_keysIn_forms standard.marks standard.accepted
  rw [Descriptor.text_toList]
  cases given : checksum with
  | none => rw [Descriptor.checksumPart, List.append_nil, tree]
  | some sum =>
      have silent : keysIn classes sum.text = 0 := by
        refine keysIn_of_absent (show 'b' ∈ "pub".toList by decide) ?_
        exact fun inside => absurd (standard.checksum sum given _ inside) (by decide)
      rw [Descriptor.checksumPart, keysIn_append_cons (by decide), silent, Nat.add_zero, tree]

end StandardForm

end TallyKeep
