/-
Module: TallyKeep.Proofs.PassphraseGuessing
Layer: Proofs
Purpose: How many wrong passphrases a client can try, and that no client sees what another sends.
Trusted boundary: none
Main exports: Validates, validates, countP_le_budget, wrongTried_le, wrongSince, Alike,
  guessing_bounded
-/
import Mathlib.Data.List.Forall2
import TallyKeep.Api.PassphraseValidate
import TallyKeep.Proofs.SecretStore

namespace TallyKeep

open Stepwise

section Guessing

variable {Key : Type} {cryptography : Cryptography Key}

/-! ### One request -/

/-- A wrong passphrase was tried on the store. -/
def Handling.wrong (done : Handling Key) : Bool :=
  match done.unlocked with
  | some (.error error) => decide (error.cls = .wrongPassphraseError)
  | _ => false

/-- The store was unlocked. -/
def Handling.succeeded (done : Handling Key) : Bool :=
  match done.unlocked with
  | some (.ok _) => true
  | _ => false

/-- The entry the request finds once the limit is checked. -/
def ValidateRequest.entry (request : ValidateRequest Key) (limits : RateLimits) : RateLimitEntry :=
  checkedEntry (limits request.client) request.created request.now

/-- What a try makes of the failures so far. -/
inductive Counts (failures : Nat) (done : Handling Key) : Nat → Prop where
  | wrong : done.wrong = true → done.succeeded = false → Counts failures done (failures + 1)
  | succeeded : done.wrong = false → done.succeeded = true → Counts failures done 0
  | failed : done.wrong = false → done.succeeded = false → Counts failures done failures

/-- How a request goes. -/
inductive Validates (limits : RateLimits) (request : ValidateRequest Key) (done : Handling Key) :
    Prop where
  | unprocessable (answer : done.answer = .unprocessable) (untried : done.unlocked = none)
      (store : done.store = request.store) (kept : done.limits = limits)
  | refused (answer : done.answer = tooManyAttempts) (untried : done.unlocked = none)
      (store : done.store = request.store) (kept : done.limits = limits)
      (many : rateLimitMaxFailures ≤ (request.entry limits).failures)
  | tried (answer : done.answer ≠ tooManyAttempts) (failures : Nat)
      (counts : Counts (request.entry limits).failures done failures)
      (few : (request.entry limits).failures < rateLimitMaxFailures)
      (limits : done.limits =
        withEntry limits request.client { request.entry limits with failures := failures })

/-- The failures of the entry that was just made are set in it. -/
theorem setFailures_withEntry (limits : RateLimits) (client : String) (entry : RateLimitEntry)
    (failures : Nat → Nat) :
    setFailures (withEntry limits client entry) client failures =
      withEntry limits client { entry with failures := failures entry.failures } := by
  funext other
  by_cases same : other = client
  · simp [setFailures, withEntry, same]
  · simp [setFailures, withEntry, same]

/-- An entry with too many failures is an old one whose window is not over. -/
theorem checkedEntry_of_many {entry : Option RateLimitEntry} {created now : Timestamp}
    (many : rateLimitMaxFailures ≤ (checkedEntry entry created now).failures) :
    entry = some (checkedEntry entry created now) := by
  cases entry with
  | none =>
      rw [checkedEntry] at many
      split at many
      · exact absurd many (Nat.not_succ_le_zero 9)
      · exact absurd many (Nat.not_succ_le_zero 9)
  | some entry =>
      rw [checkedEntry] at many ⊢
      split at many
      · exact absurd many (Nat.not_succ_le_zero 9)
      · next inWindow => rw [if_neg inWindow, Option.getD_some]

theorem withEntry_self {limits : RateLimits} {client : String} {entry : RateLimitEntry}
    (same : limits client = some entry) : withEntry limits client entry = limits := by
  funext other
  rw [withEntry]
  split
  · next here => rw [here, same]
  · rfl

theorem withEntry_apply (limits : RateLimits) (client : String) (entry : RateLimitEntry) :
    withEntry limits client entry client = some entry := if_pos rfl

/-- A passphrase that was tried. -/
theorem validates_tried {limits : RateLimits} {request : ValidateRequest Key}
    (few : (request.entry limits).failures < rateLimitMaxFailures) (store : SecretStore Key)
    (outcome : Except PyError PUnit) :
    let concluded := concludeTry (withEntry limits request.client (request.entry limits))
      request.client outcome
    Validates limits request ⟨concluded.1, some outcome, store, concluded.2⟩ := by
  intro concluded
  cases outcome with
  | ok value =>
      have differs : ValidateAnswer.valid ≠ tooManyAttempts := by decide
      refine .tried differs 0 (.succeeded rfl rfl) few ?_
      exact setFailures_withEntry limits request.client (request.entry limits) fun _ => 0
  | error error =>
      by_cases uninitialized : error.cls = .notInitializedError
      · have other : error.cls ≠ .wrongPassphraseError := by
          rw [uninitialized]
          decide
        have concludes : concluded = (withEntry limits request.client (request.entry limits),
            .httpException 503 error.message) := if_pos uninitialized
        rw [concludes]
        refine .tried ?_ _ (.failed (decide_eq_false other) rfl) few rfl
        exact fun same => absurd (ValidateAnswer.httpException.inj same).1 (by decide)
      by_cases wrong : error.cls = .wrongPassphraseError
      · have concludes : concluded =
            (setFailures (withEntry limits request.client (request.entry limits)) request.client
              (· + 1), .httpException 401 "Wrong passphrase") :=
          (if_neg uninitialized).trans (if_pos wrong)
        have differs : ValidateAnswer.httpException 401 "Wrong passphrase" ≠ tooManyAttempts := by
          decide
        rw [concludes]
        refine .tried differs _ (.wrong (decide_eq_true wrong) rfl) few ?_
        exact setFailures_withEntry limits request.client _ _
      · have concludes : concluded = (withEntry limits request.client (request.entry limits),
            .serverError error) := (if_neg uninitialized).trans (if_neg wrong)
        rw [concludes]
        refine .tried ?_ _ (.failed (decide_eq_false wrong) rfl) few rfl
        exact fun same => by cases same

/-- A refused request leaves the entries alone. -/
theorem validates (cryptography : Cryptography Key) (limits : RateLimits) (request : ValidateRequest Key) :
    Validates limits request (postPassphraseValidate cryptography limits request) := by
  rw [postPassphraseValidate]
  split
  · exact .unprocessable rfl rfl rfl rfl
  rw [checkRateLimit]
  change Validates limits request
    (if decide (rateLimitMaxFailures ≤ (request.entry limits).failures) = true then _ else _)
  split
  · next many =>
      have many := of_decide_eq_true many
      exact .refused rfl rfl rfl (withEntry_self (checkedEntry_of_many many)) many
  · next few =>
      have few := Nat.lt_of_not_le fun many => few (decide_eq_true many)
      exact validates_tried few _ _

/-- The entries of other clients stay. -/
theorem limits_of_other (cryptography : Cryptography Key) {limits : RateLimits} {request : ValidateRequest Key} {client : String}
    (other : request.client ≠ client) :
    (postPassphraseValidate cryptography limits request).limits client = limits client := by
  cases validates cryptography limits request with
  | unprocessable _ _ _ kept => rw [kept]
  | refused _ _ _ kept => rw [kept]
  | tried _ failures _ _ changed => rw [changed, withEntry, if_neg fun same => other same.symm]

/-! ### One window after another -/

/-- The clock goes on, from request to request and within each. -/
structure ClockOrder (requests : List (ValidateRequest Key)) : Prop where
  within : ∀ request ∈ requests, request.created ≤ request.now ∧ request.now ≤ request.tried
  between : requests.Pairwise fun request later => request.tried ≤ later.created

/-- The later requests of an ordered list are ordered. -/
theorem ClockOrder.tail {request : ValidateRequest Key} {later : List (ValidateRequest Key)}
    (ordered : ClockOrder (request :: later)) : ClockOrder later :=
  ⟨fun other member => ordered.within other (List.mem_cons_of_mem _ member),
    (List.pairwise_cons.mp ordered.between).2⟩

/-- Later requests are handled after an earlier one was tried. -/
theorem ClockOrder.head_le {request : ValidateRequest Key} {later : List (ValidateRequest Key)}
    (ordered : ClockOrder (request :: later)) :
    ∀ other ∈ later, request.tried ≤ other.created ∧ other.created ≤ other.now ∧
      other.now ≤ other.tried := by
  intro other member
  exact ⟨(List.pairwise_cons.mp ordered.between).1 other member,
    ordered.within other (List.mem_cons_of_mem _ member)⟩

/-- A passphrase of the client was tried in some interval of time. -/
def triedIn (client : String) (start stop : Timestamp) (done : ValidateRequest Key × Handling Key) :
    Bool :=
  decide (done.1.client = client) && (decide (start ≤ done.1.tried) && decide (done.1.tried ≤ stop))

/-- It was tried, and it was wrong. -/
def wrongIn (client : String) (start stop : Timestamp) (done : ValidateRequest Key × Handling Key) :
    Bool := triedIn client start stop done && done.2.wrong

/-- A request that was tried within a window. -/
theorem triedIn_iff {client : String} {start stop : Timestamp}
    {done : ValidateRequest Key × Handling Key} :
    triedIn client start stop done = true ↔
      done.1.client = client ∧ start ≤ done.1.tried ∧ done.1.tried ≤ stop := by
  rw [triedIn, Bool.and_eq_true, Bool.and_eq_true, decide_eq_true_iff, decide_eq_true_iff,
    decide_eq_true_iff]

/-- A wrong attempt within a window. -/
theorem wrongIn_iff {client : String} {start stop : Timestamp}
    {done : ValidateRequest Key × Handling Key} :
    wrongIn client start stop done = true ↔
      triedIn client start stop done = true ∧ done.2.wrong = true := by
  rw [wrongIn, Bool.and_eq_true]

/-- How many wrong passphrases the entry allows until the end of an interval that is no longer than a
    window: the rest of its window, and another one unless this one began in the interval. -/
def budget (start : Timestamp) : Option RateLimitEntry → Nat
  | none => 2 * rateLimitMaxFailures
  | some entry =>
      (rateLimitMaxFailures - entry.failures) +
        if start ≤ entry.windowStart then 0 else rateLimitMaxFailures

/-- The budget is never more than twice the limit. -/
theorem budget_le (start : Timestamp) (entry : Option RateLimitEntry) :
    budget start entry ≤ 2 * rateLimitMaxFailures := by
  cases entry with
  | none => exact Nat.le_refl _
  | some entry =>
      rw [budget]
      split <;> omega

/-- What is over before an interval of its length ends began before the interval. -/
theorem began_before {start stop now begun length : Nat} (past : length < now - begun)
    (late : now ≤ stop) (short : stop ≤ start + length) : begun < start := by
  omega

/-- The check of the limit makes no more of it: a window that starts anew in the interval began
    before it. -/
theorem budget_checkedEntry {start stop now : Timestamp} (short : stop ≤ start + rateLimitWindow)
    (early : start ≤ now) (late : now ≤ stop) (created : Timestamp) (entry : Option RateLimitEntry) :
    budget start (some (checkedEntry entry created now)) ≤ budget start entry := by
  cases entry with
  | none => exact budget_le start _
  | some entry =>
      rw [checkedEntry, Option.getD_some]
      split
      · next past =>
          have before : ¬ start ≤ entry.windowStart :=
            Nat.not_le_of_lt (began_before past late short)
          simp only [budget, early, before, if_true, if_false]
          omega
      · exact Nat.le_refl _

/-- A wrong passphrase takes one off. -/
theorem budget_wrong {start : Timestamp} {entry : RateLimitEntry}
    (few : entry.failures < rateLimitMaxFailures) :
    budget start (some { entry with failures := entry.failures + 1 }) + 1 = budget start (some entry) := by
  simp only [budget]
  omega

/-- What comes after an interval is not in it. -/
theorem countP_wrongIn_of_later {client : String} {start stop : Timestamp} (limits : RateLimits)
    {requests : List (ValidateRequest Key)} (later : ∀ request ∈ requests, stop < request.tried) :
    (handledAll cryptography limits requests).countP (wrongIn client start stop) = 0 := by
  induction requests generalizing limits with
  | nil => rfl
  | cons request requests ih =>
      obtain ⟨first, later⟩ := List.forall_mem_cons.mp later
      have outside : ¬ wrongIn client start stop
          (request, postPassphraseValidate cryptography limits request) = true := by
        intro wrong
        exact absurd (triedIn_iff.mp (wrongIn_iff.mp wrong).1).2.2 (Nat.not_le_of_lt first)
      rw [handledAll, List.countP_cons_of_neg outside]
      exact ih _ later

/-- No request of the client in the interval unlocked the store. -/
def NoneSucceeds (client : String) (start stop : Timestamp)
    (history : List (ValidateRequest Key × Handling Key)) : Prop :=
  ∀ done ∈ history, triedIn client start stop done = true → done.2.succeeded = false

/-- What one request in the interval takes off. -/
theorem budget_validate {client : String} {start stop : Timestamp}
    (short : stop ≤ start + rateLimitWindow) {limits : RateLimits} {request : ValidateRequest Key}
    (mine : request.client = client) (early : start ≤ request.now) (late : request.now ≤ stop)
    (none : (postPassphraseValidate cryptography limits request).succeeded = false) :
    budget start ((postPassphraseValidate cryptography limits request).limits client) +
        (if (postPassphraseValidate cryptography limits request).wrong = true then 1 else 0) ≤
      budget start (limits client) := by
  have untriedWrong : ∀ {done : Handling Key}, done.unlocked = Option.none → done.wrong = false := by
    intro done untried
    rw [Handling.wrong, untried]
  cases validates cryptography limits request with
  | unprocessable _ untried _ kept =>
      rw [kept, untriedWrong untried]
      exact Nat.le_refl _
  | refused _ untried _ kept =>
      rw [kept, untriedWrong untried]
      exact Nat.le_refl _
  | tried _ failures counts few changed =>
      have checked := budget_checkedEntry short early late request.created (limits request.client)
      rw [changed, mine, withEntry_apply]
      rw [mine] at checked
      cases counts with
      | wrong wrong =>
          rw [if_pos wrong, budget_wrong few, ValidateRequest.entry, mine]
          exact checked
      | succeeded _ succeeded => exact absurd succeeded (by simp [none])
      | failed notWrong =>
          rw [notWrong, ValidateRequest.entry, mine]
          exact checked

/-- From a time in the interval on, the client tries no more wrong passphrases than its entry
    allows. -/
theorem countP_le_budget {client : String} {start stop : Timestamp}
    (short : stop ≤ start + rateLimitWindow) {limits : RateLimits}
    {requests : List (ValidateRequest Key)} (ordered : ClockOrder requests)
    (early : ∀ request ∈ requests, start ≤ request.now)
    (none : NoneSucceeds client start stop (handledAll cryptography limits requests)) :
    (handledAll cryptography limits requests).countP (wrongIn client start stop) ≤
      budget start (limits client) := by
  induction requests generalizing limits with
  | nil => exact Nat.zero_le _
  | cons request requests ih =>
      obtain ⟨now, laterNow⟩ := List.forall_mem_cons.mp early
      have inOrder := ordered.within request List.mem_cons_self
      rw [handledAll] at none
      obtain ⟨here, there⟩ := List.forall_mem_cons.mp none
      have rest := ih ordered.tail laterNow there
      rw [handledAll, List.countP_cons]
      by_cases other : request.client = client
      · by_cases late : request.tried ≤ stop
        · have inside : triedIn client start stop
              (request, postPassphraseValidate cryptography limits request) = true :=
            triedIn_iff.mpr ⟨other, Nat.le_trans now inOrder.2, late⟩
          have taken := budget_validate short other now (Nat.le_trans inOrder.2 late) (here inside)
          rw [wrongIn, inside, Bool.true_and]
          dsimp only
          omega
        · -- nothing that follows is in the interval
          have after : ∀ later ∈ requests, stop < later.tried := by
            intro later member
            obtain ⟨first, second, third⟩ := ordered.head_le later member
            exact Nat.lt_of_lt_of_le (Nat.lt_of_not_le late)
              (Nat.le_trans first (Nat.le_trans second third))
          have outside : ¬ wrongIn client start stop
              (request, postPassphraseValidate cryptography limits request) = true := by
            intro wrong
            exact late (triedIn_iff.mp (wrongIn_iff.mp wrong).1).2.2
          rw [countP_wrongIn_of_later _ after, if_neg outside]
          exact Nat.zero_le _
      · have outside : ¬ wrongIn client start stop
            (request, postPassphraseValidate cryptography limits request) = true := by
          intro wrong
          exact other (triedIn_iff.mp (wrongIn_iff.mp wrong).1).1
        rw [if_neg outside]
        rw [limits_of_other cryptography other] at rest
        exact rest

/-- In no interval of the length of a window does a client try more wrong passphrases than two
    windows allow, unless it unlocks the store. -/
theorem wrongTried_le {client : String} {start stop : Timestamp}
    (short : stop ≤ start + rateLimitWindow) {limits : RateLimits}
    {requests : List (ValidateRequest Key)} (ordered : ClockOrder requests)
    (none : NoneSucceeds client start stop (handledAll cryptography limits requests)) :
    (handledAll cryptography limits requests).countP (wrongIn client start stop) ≤
      2 * rateLimitMaxFailures := by
  induction requests generalizing limits with
  | nil => exact Nat.zero_le _
  | cons request requests ih =>
      rw [handledAll] at none
      obtain ⟨here, there⟩ := List.forall_mem_cons.mp none
      rw [handledAll, List.countP_cons]
      by_cases early : start ≤ request.tried
      · have laterNow : ∀ later ∈ requests, start ≤ later.now := by
          intro later member
          obtain ⟨first, second, -⟩ := ordered.head_le later member
          exact Nat.le_trans early (Nat.le_trans first second)
        have rest := countP_le_budget short ordered.tail laterNow there
        split
        · -- the window may have begun before the interval did
          next wrong =>
            obtain ⟨inside, wrong⟩ := wrongIn_iff.mp wrong
            obtain ⟨mine, -⟩ := triedIn_iff.mp inside
            have spent : budget start ((postPassphraseValidate cryptography limits request).limits
                client) + 1 ≤ 2 * rateLimitMaxFailures := by
              cases validates cryptography limits request with
              | unprocessable _ untried => simp [Handling.wrong, untried] at wrong
              | refused _ untried => simp [Handling.wrong, untried] at wrong
              | tried _ failures counts few changed =>
                  rw [changed, mine, withEntry_apply]
                  cases counts with
                  | wrong =>
                      rw [budget_wrong few]
                      exact budget_le start _
                  | succeeded notWrong => simp [notWrong] at wrong
                  | failed notWrong => simp [notWrong] at wrong
            omega
        · have most := budget_le start
            ((postPassphraseValidate cryptography limits request).limits client)
          omega
      · have outside : ¬ wrongIn client start stop
            (request, postPassphraseValidate cryptography limits request) = true := by
          intro wrong
          exact early (triedIn_iff.mp (wrongIn_iff.mp wrong).1).2.1
        rw [if_neg outside]
        exact ih ordered.tail there

/-! ### Who is refused -/

/-- The wrong passphrases that the client tried since it last unlocked the store, in the window that
    began at some time. -/
def wrongSince (client : String) (windowStart : Timestamp)
    (history : List (ValidateRequest Key × Handling Key)) : Nat :=
  let mine := history.filter fun done => decide (done.1.client = client)
  (mine.reverse.takeWhile fun done => !done.2.succeeded).countP fun done =>
    done.2.wrong && decide ((done.2.limits client).map RateLimitEntry.windowStart = some windowStart)

/-- The handlings of one request more. -/
theorem handledAll_concat (limits : RateLimits) (requests : List (ValidateRequest Key))
    (request : ValidateRequest Key) :
    handledAll cryptography limits (requests ++ [request]) =
      handledAll cryptography limits requests ++
        [(request, postPassphraseValidate cryptography (limitsAfter cryptography limits requests)
          request)] := by
  induction requests generalizing limits with
  | nil => rfl
  | cons first requests ih =>
      rw [List.cons_append, handledAll, ih]
      rfl

/-- The limits after one request more. -/
theorem limitsAfter_concat (limits : RateLimits) (requests : List (ValidateRequest Key))
    (request : ValidateRequest Key) :
    limitsAfter cryptography limits (requests ++ [request]) =
      (postPassphraseValidate cryptography (limitsAfter cryptography limits requests) request).limits := by
  rw [limitsAfter, List.foldl_append]
  rfl

/-- The wrong attempts since a window began, with one request more. -/
theorem wrongSince_concat {client : String} {windowStart : Timestamp}
    {history : List (ValidateRequest Key × Handling Key)} {done : ValidateRequest Key × Handling Key} :
    wrongSince client windowStart (history ++ [done]) =
      if done.1.client = client then
        if done.2.succeeded = true then 0
        else wrongSince client windowStart history +
          if done.2.wrong = true ∧
              (done.2.limits client).map RateLimitEntry.windowStart = some windowStart then 1
          else 0
      else wrongSince client windowStart history := by
  rw [wrongSince, wrongSince, List.filter_append]
  split
  · next mine =>
      have kept : [done].filter (fun done => decide (done.1.client = client)) = [done] :=
        List.filter_cons_of_pos (decide_eq_true mine)
      rw [kept, List.reverse_append]
      split
      · next succeeded => simp [succeeded]
      · next failed => simp [failed, List.countP_cons]
  · next other =>
      have passed : [done].filter (fun done => decide (done.1.client = client)) = [] :=
        List.filter_cons_of_neg (by simp [other])
      rw [passed, List.append_nil]

/-- An entry counts no more than the wrong passphrases of its window since the last success. -/
theorem failures_le_wrongSince (cryptography : Cryptography Key) {client : String} {requests : List (ValidateRequest Key)}
    {entry : RateLimitEntry}
    (found : limitsAfter cryptography (fun _ => none) requests client = some entry) :
    entry.failures ≤ wrongSince client entry.windowStart
      (handledAll cryptography (fun _ => none) requests) := by
  induction requests using List.reverseRecOn generalizing entry with
  | nil => cases found
  | append_singleton requests request ih =>
      rw [handledAll_concat, wrongSince_concat]
      rw [limitsAfter_concat] at found
      generalize limitsAfter cryptography (fun _ => none) requests = limits at ih found ⊢
      split
      · next mine =>
          dsimp only at mine
          have checked : (request.entry limits).failures ≤ wrongSince client
              (request.entry limits).windowStart
              (handledAll cryptography (fun _ => none) requests) := by
            rw [ValidateRequest.entry, mine]
            cases known : limits client with
            | none =>
                rw [checkedEntry]
                split <;> exact Nat.zero_le _
            | some old =>
                rw [checkedEntry]
                split
                · exact Nat.zero_le _
                · exact ih known
          cases validates cryptography limits request with
          | unprocessable _ untried _ kept =>
              rw [kept] at found
              simpa [Handling.succeeded, Handling.wrong, untried] using ih found
          | refused _ untried _ kept =>
              rw [kept] at found
              simpa [Handling.succeeded, Handling.wrong, untried] using ih found
          | tried _ failures counts few changed =>
              rw [changed, mine, withEntry_apply] at found
              obtain rfl := Option.some.inj found
              rw [changed, mine, withEntry_apply]
              cases counts with
              | wrong wrong failed => simpa [wrong, failed] using checked
              | succeeded _ succeeded => exact Nat.zero_le _
              | failed notWrong failed => simpa [notWrong, failed] using checked
      · next other =>
          rw [limits_of_other cryptography other] at found
          exact ih found

/-! ### Other clients -/

/-- The canary is read the same whatever key is held. -/
theorem readCanary_congr (cryptography : Cryptography Key) (passphrase : String) (key other : Option Key) (database : SecretDatabase) :
    (readCanary cryptography passphrase ⟨key, database⟩).2 =
      (readCanary cryptography passphrase ⟨other, database⟩).2 := by
  rw [readCanary, readKdfParameters]
  rw [bind_assoc_eq, read_bind_apply, read_bind_apply]
  dsimp only
  cases loadKdfParameters database with
  | error error => rfl
  | ok parameters =>
      cases parameters with
      | none => rfl
      | some parameters =>
          rw [lift_ok_bind_apply, lift_ok_bind_apply]
          dsimp only
          cases deriveKey cryptography passphrase parameters with
          | error error => rfl
          | ok derived =>
            rw [lift_ok_bind_apply, lift_ok_bind_apply, read_bind_apply, read_bind_apply]
            dsimp only
            cases loadEncrypted database canaryReference with
            | none => rfl
            | some canary => rfl

/-- Whether `unlock` succeeds does not depend on the key in memory. -/
theorem result_unlock_congr (passphrase : String) (key other : Option Key) (database : SecretDatabase) :
    result (unlock cryptography passphrase) ⟨key, database⟩ =
      result (unlock cryptography passphrase) ⟨other, database⟩ := by
  have same := readCanary_congr cryptography passphrase key other database
  rw [unlock]
  cases read : result (readCanary cryptography passphrase) ⟨key, database⟩ with
  | error error =>
    rw [result_bind_of_error read, result_bind_of_error (same.symm.trans read)]
  | ok canary =>
    rw [result_bind_of_ok read, result_bind_of_ok (same.symm.trans read)]
    dsimp only
    cases decrypt cryptography canary.2 canary.1 with
    | error error =>
        dsimp only
        split <;> rfl
    | ok decrypted =>
        dsimp only
        split <;> rfl

/-- Two requests that differ at most in the key that the process holds. -/
structure Alike (request other : ValidateRequest Key) : Prop where
  client : request.client = other.client
  passphrase : request.passphrase = other.passphrase
  created : request.created = other.created
  now : request.now = other.now
  database : request.store.database = other.store.database

theorem Alike.refl (request : ValidateRequest Key) : Alike request request := ⟨rfl, rfl, rfl, rfl, rfl⟩

/-- Alike requests unlock with the same result. -/
theorem Alike.outcome (cryptography : Cryptography Key) {request other : ValidateRequest Key}
    (alike : Alike request other) :
    result (unlock cryptography request.passphrase) request.store =
      result (unlock cryptography other.passphrase) other.store := by
  rw [alike.passphrase]
  exact (result_unlock_congr _ _ other.store.key _).trans
    (by rw [alike.database])

/-- Concluding a try depends on the entry of its client only. -/
theorem concludeTry_congr {limits others : RateLimits} {client : String}
    (same : limits client = others client) (outcome : Except PyError PUnit) :
    (concludeTry limits client outcome).2 = (concludeTry others client outcome).2 ∧
      (concludeTry limits client outcome).1 client = (concludeTry others client outcome).1 client := by
  cases outcome with
  | ok value => exact ⟨rfl, by simp [concludeTry, setFailures, same]⟩
  | error error =>
      rw [concludeTry, concludeTry]
      split
      · exact ⟨rfl, same⟩
      · split
        · exact ⟨rfl, by simp [setFailures, same]⟩
        · exact ⟨rfl, same⟩

/-- What a request is answered, and what it leaves of its client, is a matter of that client. -/
theorem validate_congr (cryptography : Cryptography Key) {limits others : RateLimits}
    {request other : ValidateRequest Key}
    (alike : Alike request other) (same : limits request.client = others request.client) :
    (postPassphraseValidate cryptography limits request).answer =
        (postPassphraseValidate cryptography others other).answer ∧
      (postPassphraseValidate cryptography limits request).limits request.client =
        (postPassphraseValidate cryptography others other).limits request.client := by
  rw [postPassphraseValidate, postPassphraseValidate, ← alike.passphrase]
  split
  · exact ⟨rfl, same⟩
  · rw [checkRateLimit, checkRateLimit, ← alike.client, ← alike.created, ← alike.now, ← same]
    dsimp only
    generalize checkedEntry (limits request.client) request.created request.now = entry
    have checked : withEntry limits request.client entry request.client =
        withEntry others request.client entry request.client := by
      rw [withEntry_apply, withEntry_apply]
    split
    · exact ⟨rfl, checked⟩
    · have outcome := alike.outcome cryptography
      rw [← alike.passphrase] at outcome
      rw [← outcome]
      exact concludeTry_congr checked _

/-- What one client is answered. -/
def answersTo (client : String) (history : List (ValidateRequest Key × Handling Key)) :
    List ValidateAnswer :=
  (history.filter fun done => decide (done.1.client = client)).map fun done => done.2.answer

/-- Its requests alone. -/
def requestsOf (client : String) (requests : List (ValidateRequest Key)) :
    List (ValidateRequest Key) := requests.filter fun request => decide (request.client = client)

/-- A request of the client is among its requests. -/
theorem requestsOf_cons_mine {client : String} {request : ValidateRequest Key}
    (mine : request.client = client) (later : List (ValidateRequest Key)) :
    requestsOf client (request :: later) = request :: requestsOf client later :=
  List.filter_cons_of_pos (decide_eq_true mine)

/-- A request of another client is not. -/
theorem requestsOf_cons_other {client : String} {request : ValidateRequest Key}
    (other : request.client ≠ client) (later : List (ValidateRequest Key)) :
    requestsOf client (request :: later) = requestsOf client later :=
  List.filter_cons_of_neg (by simp [other])

/-- The answers to a client, with one handling before the others. -/
theorem answersTo_cons (client : String) (done : ValidateRequest Key × Handling Key)
    (history : List (ValidateRequest Key × Handling Key)) :
    answersTo client (done :: history) =
      if done.1.client = client then done.2.answer :: answersTo client history
      else answersTo client history := by
  rw [answersTo, List.filter_cons]
  simp only [decide_eq_true_eq]
  split
  · rfl
  · rfl

/-- A client is answered as if it were the only one. -/
theorem answersTo_alone {client : String} {limits : RateLimits} (others : RateLimits)
    (requests : List (ValidateRequest Key)) (same : limits client = others client) :
    answersTo client (handledAll cryptography limits requests) =
      answersTo client (handledAll cryptography others (requestsOf client requests)) := by
  induction requests generalizing limits others with
  | nil => rfl
  | cons request requests ih =>
      by_cases mine : request.client = client
      · have here : limits request.client = others request.client := by rw [mine, same]
        obtain ⟨answer, kept⟩ := validate_congr cryptography (.refl request) here
        rw [mine] at kept
        have rest := ih _ kept
        rw [requestsOf_cons_mine mine, handledAll, handledAll, answersTo_cons, answersTo_cons,
          if_pos mine, if_pos mine, answer, rest]
      · have rest := ih others ((limits_of_other cryptography mine).trans same)
        rw [requestsOf_cons_other mine, handledAll, answersTo_cons, if_neg mine, rest]

/-- Alike requests of one client are answered alike. -/
theorem answersTo_congr {client : String} {limits others : RateLimits}
    {requests alikes : List (ValidateRequest Key)} (alike : List.Forall₂ Alike requests alikes)
    (mine : ∀ request ∈ requests, request.client = client)
    (same : limits client = others client) :
    answersTo client (handledAll cryptography limits requests) =
      answersTo client (handledAll cryptography others alikes) := by
  induction alike generalizing limits others with
  | nil => rfl
  | @cons request other requests alikes first later ih =>
      obtain ⟨here, there⟩ := List.forall_mem_cons.mp mine
      have hereToo : other.client = client := first.client.symm.trans here
      have found : limits request.client = others request.client := by rw [here, same]
      obtain ⟨answer, kept⟩ := validate_congr cryptography first found
      rw [here] at kept
      have rest := ih there kept
      rw [handledAll, handledAll, answersTo_cons, answersTo_cons, if_pos here, if_pos hereToo,
        answer, rest]

/-- However requests come in: within the length of a window a client that does not unlock the store
    tries twenty wrong passphrases at most; who is refused tries none and changes nothing; a client
    with fewer than ten wrong ones since it last unlocked, in its window, is not refused; and a
    client is answered the same whatever the others send. -/
theorem guessing_bounded (cryptography : Cryptography Key) (requests : List (ValidateRequest Key))
    (ordered : ClockOrder requests) (client : String) :
    (∀ start stop, stop ≤ start + rateLimitWindow →
      NoneSucceeds client start stop (handledAll cryptography (fun _ => none) requests) →
      (handledAll cryptography (fun _ => none) requests).countP (wrongIn client start stop) ≤ 20) ∧
    (∀ before request later, requests = before ++ request :: later →
      let limits := limitsAfter cryptography (fun _ => none) before
      let done := postPassphraseValidate cryptography limits request
      (done.answer = tooManyAttempts →
        done.unlocked = none ∧ done.store = request.store ∧ done.limits = limits) ∧
      (request.client = client →
        (∀ entry, limits client = some entry →
          wrongSince client entry.windowStart
            (handledAll cryptography (fun _ => none) before) < 10) →
        done.answer ≠ tooManyAttempts)) ∧
    (∀ others, List.Forall₂ Alike (requestsOf client requests) (requestsOf client others) →
      answersTo client (handledAll cryptography (fun _ => none) requests) =
        answersTo client (handledAll cryptography (fun _ => none) others)) := by
  refine ⟨fun start stop short none => wrongTried_le short ordered none, ?_, ?_⟩
  · intro before request later _ limits done
    have went : Validates limits request done := validates cryptography limits request
    cases went with
    | unprocessable answer =>
        have differs : done.answer ≠ tooManyAttempts := by
          rw [answer]
          decide
        exact ⟨fun refused => absurd refused differs, fun _ _ => differs⟩
    | refused _ untried store kept many =>
        refine ⟨fun _ => ⟨untried, store, kept⟩, fun mine few => ?_⟩
        have found := checkedEntry_of_many many
        rw [mine] at found
        have bound := failures_le_wrongSince cryptography found
        have less := few _ found
        rw [ValidateRequest.entry, mine] at many
        exact absurd (Nat.le_trans many bound) (Nat.not_le_of_lt less)
    | tried differs => exact ⟨fun refused => absurd refused differs, fun _ _ => differs⟩
  · intro others alike
    rw [answersTo_alone (fun _ => none) requests rfl, answersTo_alone (fun _ => none) others rfl]
    refine answersTo_congr alike ?_ rfl
    intro request member
    exact of_decide_eq_true (List.mem_filter.mp member).2

end Guessing

/-- A store that was set up with a passphrase and is locked. -/
def sampleLockedStore : SecretStore Bytes :=
  .start (final (initializeStore sampleCryptography sampleSalt sampleNonce "phrase")
    (.start .empty)).database

/-- A request that is handled at once. -/
def sampleValidateRequest (host : Option String) (passphrase : String) (time : Timestamp) :
    ValidateRequest Bytes :=
  ⟨host, passphrase, time, time, time, sampleLockedStore⟩

/-- One client guesses, and another one knows the passphrase. -/
def sampleGuesses : List (ValidateRequest Bytes) :=
  ((List.range 11).map fun time => sampleValidateRequest (some "10.0.0.7") "a guess" time) ++
    [sampleValidateRequest none "phrase" 11]

/-- The sample requests are in order. -/
theorem sampleGuesses_ordered : ClockOrder sampleGuesses := by
  refine ⟨?_, ?_⟩
  · decide +kernel
  · decide +kernel

/-- Ten guesses are tried, the next one is refused and changes nothing, and the other client is let
    in. -/
theorem guessing_bounded_refusal :
    (handledAll sampleCryptography (fun _ => none) sampleGuesses).map (fun done => done.2.answer) =
        List.replicate 10 (.httpException 401 "Wrong passphrase") ++ [tooManyAttempts, .valid] ∧
      (handledAll sampleCryptography (fun _ => none) sampleGuesses).countP
        (wrongIn "10.0.0.7" 0 rateLimitWindow) ≤ 20 ∧
      ∃ limits done, limits = limitsAfter sampleCryptography (fun _ => none) (sampleGuesses.take 10) ∧
        done = postPassphraseValidate sampleCryptography limits
          (sampleValidateRequest (some "10.0.0.7") "a guess" 10) ∧
        done.unlocked = none ∧ done.limits = limits := by
  have answers : (handledAll sampleCryptography (fun _ => none) sampleGuesses).map
      (fun done => done.2.answer) =
        List.replicate 10 (.httpException 401 "Wrong passphrase") ++ [tooManyAttempts, .valid] := by
    decide +kernel
  obtain ⟨bound, each, _⟩ :=
    guessing_bounded sampleCryptography sampleGuesses sampleGuesses_ordered "10.0.0.7"
  have refused := (each (sampleGuesses.take 10)
    (sampleValidateRequest (some "10.0.0.7") "a guess" 10) (sampleGuesses.drop 11) rfl).1
    (by decide +kernel)
  refine ⟨answers, bound 0 rateLimitWindow (by decide) ?_, _, _, rfl, rfl, refused.1, refused.2.2⟩
  have guesses : ∀ done ∈ handledAll sampleCryptography (fun _ => none) sampleGuesses,
      triedIn "10.0.0.7" 0 rateLimitWindow done = true → done.2.succeeded = false := by
    decide +kernel
  exact guesses

end TallyKeep
