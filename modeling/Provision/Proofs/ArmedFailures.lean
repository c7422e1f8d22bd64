import Provision.Proofs.CredentialListing
import Provision.Proofs.VerbEffects

/-!
# Failures that are armed

A replica is told to produce failures and is asked in between.  A request gives one turn, to the
first failure in the queue that concerns it: the failure fires and leaves the queue, or it lets the
request pass and is counted down.  So each failure fires at most once.

But a failure that is armed for the next request need not fire at it.  The one turn of the request
may go to a failure that was armed earlier and still lets requests pass, and then nothing fires.
This is the only case: otherwise a request for which a failure is armed is refused.
-/

namespace Provision

namespace Replica

/-- What the turn of a request comes to: no failure concerns it, or the first one that does fires or
is counted down. -/
inductive Turn (verb : Verb) (url : String) :
    List Failure → Option Failure × List Failure → Prop where
  | idle {failures : List Failure}
      (unconcerned : ∀ failure ∈ failures, failure.concerns verb url = false) :
      Turn verb url failures (none, failures)
  | fires {before after : List Failure} {first : Failure}
      (unconcerned : ∀ failure ∈ before, failure.concerns verb url = false)
      (concerned : first.concerns verb url = true) (ready : first.skip = 0) :
      Turn verb url (before ++ first :: after) (some first, before ++ after)
  | passes {before after : List Failure} {first : Failure} {skip : Nat}
      (unconcerned : ∀ failure ∈ before, failure.concerns verb url = false)
      (concerned : first.concerns verb url = true) (counting : first.skip = skip + 1) :
      Turn verb url (before ++ first :: after) (none, before ++ { first with skip } :: after)

theorem turn_takeFailure (verb : Verb) (url : String) (failures : List Failure) :
    Turn verb url failures (takeFailure verb url failures) := by
  induction failures with
  | nil => exact .idle (by simp)
  | cons failure failures ih =>
      by_cases concerned : failure.concerns verb url = true
      · cases ready : failure.skip with
        | zero =>
            have taken : takeFailure verb url (failure :: failures) = (some failure, failures) := by
              simp [takeFailure, concerned, ready]
            rw [taken]
            exact @Turn.fires verb url [] failures failure (by simp) concerned ready
        | succ skip =>
            have taken : takeFailure verb url (failure :: failures) =
                (none, { failure with skip } :: failures) := by
              simp [takeFailure, concerned, ready]
            rw [taken]
            exact @Turn.passes verb url [] failures failure skip (by simp) concerned ready
      · have spared : failure.concerns verb url = false := by simpa using concerned
        rcases taken : takeFailure verb url failures with ⟨due, left⟩
        have goesOn : takeFailure verb url (failure :: failures) = (due, failure :: left) := by
          simp [takeFailure, spared, taken]
        have spares {before : List Failure}
            (unconcerned : ∀ other ∈ before, other.concerns verb url = false) :
            ∀ other ∈ failure :: before, other.concerns verb url = false :=
          List.forall_mem_cons.mpr ⟨spared, unconcerned⟩
        rw [taken] at ih
        rw [goesOn]
        cases ih with
        | idle unconcerned => exact .idle (spares unconcerned)
        | @fires before after first unconcerned concerned ready =>
            exact @Turn.fires verb url (failure :: before) after first (spares unconcerned)
              concerned ready
        | @passes before after first skip unconcerned concerned counting =>
            exact @Turn.passes verb url (failure :: before) after first skip (spares unconcerned)
              concerned counting

/-- The first failure in the queue that concerns a request still lets requests pass. -/
def LetsPass (replica : Replica) (request : Request) : Prop :=
  ∃ first, (replica.failures.find? fun failure => failure.concerns request.verb request.url) =
    some first ∧ 0 < first.skip

theorem find?_concerned {verb : Verb} {url : String} {before after : List Failure}
    {first : Failure} (unconcerned : ∀ failure ∈ before, failure.concerns verb url = false)
    (concerned : first.concerns verb url = true) :
    ((before ++ first :: after).find? fun failure => failure.concerns verb url) = some first := by
  have skipped : (before.find? fun failure => failure.concerns verb url) = none := by
    simpa [List.find?_eq_none] using unconcerned
  simp [skipped, concerned]

theorem findIdx_concerned {verb : Verb} {url : String} {before after : List Failure}
    {first : Failure} (unconcerned : ∀ failure ∈ before, failure.concerns verb url = false)
    (concerned : first.concerns verb url = true) :
    ((before ++ first :: after).findIdx fun failure => failure.concerns verb url) =
      before.length := by
  induction before with
  | nil => simp [List.findIdx_cons, concerned]
  | cons other before ih =>
      rw [List.forall_mem_cons] at unconcerned
      simp [List.findIdx_cons, unconcerned.1, ih unconcerned.2]

/-- A failure that is armed for the next request is due, or some failure is, unless the turn goes to
one that lets the request pass. -/
theorem due?_eq_none_iff {replica : Replica} {request : Request} {failure : Failure}
    (queued : failure ∈ replica.failures)
    (concerned : failure.concerns request.verb request.url = true) :
    replica.due? request = none ↔ replica.LetsPass request := by
  have turn := turn_takeFailure request.verb request.url replica.failures
  rw [due?, LetsPass]
  generalize replica.failures = failures at queued turn
  generalize takeFailure request.verb request.url failures = taken at turn
  cases turn with
  | idle unconcerned =>
      rw [unconcerned failure queued] at concerned
      contradiction
  | fires unconcerned isFirst ready =>
      simp [find?_concerned unconcerned isFirst, ready]
  | passes unconcerned isFirst counting =>
      simp [find?_concerned unconcerned isFirst, counting]

theorem failures_answer (replica : Replica) (request : Request) :
    (replica.answer request).2.failures =
      (takeFailure request.verb request.url replica.failures).2 := by
  rw [answer_eq]
  cases replica.due? request with
  | some failure => rfl
  | none =>
      cases handles : (replica.asked request).handle request with
      | error refusal => rfl
      | ok answered => exact (handle_keeps handles).2

end Replica

/-- What happens to a replica: a failure is armed, or a request is answered. -/
inductive Occurrence where
  | arms (failure : Failure)
  | asks (request : Request)

/-- A replica that is watched.  Failures are told apart by the order in which they were armed: these
are the failures as they were armed, the numbers of those in the queue, and the numbers of those
that have fired. -/
structure Watch where
  replica : Replica
  armed : List Failure
  waiting : List Nat
  fired : List Nat

namespace Watch

open Replica (Turn LetsPass takeFailure turn_takeFailure)

/-- A watch over a replica as it stands, in whose queue there may be failures already. -/
def start (replica : Replica) : Watch :=
  ⟨replica, replica.failures, List.range replica.failures.length, []⟩

/-- The watch after an occurrence.  What fires is the first failure that concerns the request. -/
def next (watch : Watch) : Occurrence → Watch
  | .arms failure =>
    { watch with
      replica := watch.replica.withFailure failure
      armed := watch.armed ++ [failure]
      waiting := watch.waiting ++ [watch.armed.length] }
  | .asks request =>
    let later := (watch.replica.answer request).2
    match watch.replica.due? request with
    | none => { watch with replica := later }
    | some _ =>
      let place := watch.replica.failures.findIdx fun failure =>
        failure.concerns request.verb request.url
      { watch with
        replica := later
        waiting := watch.waiting.eraseIdx place
        fired := watch.fired ++ watch.waiting[place]?.toList }

/-- The watch after a history. -/
def after (watch : Watch) (history : List Occurrence) : Watch := history.foldl next watch

/-- A failure in the queue is the one that was armed under its number, perhaps counted down. -/
def Stands (armed : List Failure) (number : Nat) (failure : Failure) : Prop :=
  ∃ told, armed[number]? = some told ∧ failure = { told with skip := failure.skip } ∧
    failure.skip ≤ told.skip

/-- Every failure that was ever armed has fired or is in the queue, and not both. -/
structure Accounted (watch : Watch) : Prop where
  stands : List.Forall₂ (Stands watch.armed) watch.waiting watch.replica.failures
  once : (watch.fired ++ watch.waiting).Perm (List.range watch.armed.length)

variable {watch : Watch} {armed : List Failure} {number : Nat} {failure : Failure}
  {request : Request}

theorem Stands.more (stands : Stands armed number failure) (others : List Failure) :
    Stands (armed ++ others) number failure := by
  obtain ⟨told, isTold, same, fewer⟩ := stands
  obtain ⟨inside, -⟩ := List.getElem?_eq_some_iff.mp isTold
  refine ⟨told, ?_, same, fewer⟩
  rw [List.getElem?_append_left inside, isTold]

theorem Stands.count (stands : Stands armed number failure) {skip : Nat}
    (counting : failure.skip = skip + 1) : Stands armed number { failure with skip } := by
  obtain ⟨told, isTold, same, fewer⟩ := stands
  refine ⟨told, isTold, ?_, ?_⟩
  · rw [same]
  · change skip ≤ told.skip
    omega

theorem accounted_start (replica : Replica) : (start replica).Accounted := by
  refine ⟨?_, ?_⟩
  · apply List.forall₂_iff_get.mpr
    simp only [start, List.length_range, true_and]
    intro place inRange inQueue
    refine ⟨replica.failures[place], ?_, rfl, Nat.le_refl _⟩
    simp
  · simp [start]

theorem Accounted.arm (accounted : watch.Accounted) (failure : Failure) :
    (watch.next (.arms failure)).Accounted := by
  obtain ⟨stands, once⟩ := accounted
  have newest : Stands (watch.armed ++ [failure]) watch.armed.length failure :=
    ⟨failure, by simp, rfl, Nat.le_refl _⟩
  constructor
  · have earlier : List.Forall₂ (Stands (watch.armed ++ [failure])) watch.waiting
        watch.replica.failures := by
      apply stands.imp
      intro number other isOther
      exact isOther.more [failure]
    exact List.rel_append earlier (.cons newest .nil)
  · simp only [next, List.length_append, List.length_singleton, List.range_succ,
      ← List.append_assoc]
    exact once.append_right [watch.armed.length]

/-- What a request comes to: a failure from the queue fires, and its answer is the one it was armed
with, or nothing fires and the replica answers what it can serve. -/
inductive Answers (watch : Watch) (request : Request) : Prop where
  | fires (number : Nat) (told : Failure) (isTold : watch.armed[number]? = some told)
      (concerned : told.concerns request.verb request.url = true) (unfired : number ∉ watch.fired)
      (fired : (watch.next (.asks request)).fired = watch.fired ++ [number])
      (answer : (watch.replica.answer request).1 =
        .error (.refused request.verb request.url told.status told.body))
  | rests (fired : (watch.next (.asks request)).fired = watch.fired)
      (serves : (∃ document, (watch.replica.answer request).1 = .ok document) ↔
        watch.replica.Serves request)

theorem next_of_none (none : watch.replica.due? request = none) :
    watch.next (.asks request) = { watch with replica := (watch.replica.answer request).2 } := by
  simp only [next, none]

theorem answers_of_none (none : watch.replica.due? request = none) : watch.Answers request := by
  have succeeds := Replica.exists_answer_iff watch.replica request
  apply Answers.rests
  · rw [next_of_none none]
  · simpa [none] using succeeds

/-- A request keeps the account: what fires is moved from the queue to what has fired. -/
theorem Accounted.ask (accounted : watch.Accounted) (request : Request) :
    (watch.next (.asks request)).Accounted ∧ watch.Answers request := by
  obtain ⟨stands, once⟩ := accounted
  have left := Replica.failures_answer watch.replica request
  have turn := turn_takeFailure request.verb request.url watch.replica.failures
  generalize taken : takeFailure request.verb request.url watch.replica.failures = outcome
    at left turn
  have due : watch.replica.due? request = outcome.1 := congrArg Prod.fst taken
  generalize queued : watch.replica.failures = failures at stands turn
  cases turn with
  | idle unconcerned =>
      refine ⟨?_, answers_of_none due⟩
      rw [next_of_none due]
      exact ⟨left ▸ stands, once⟩
  | @passes before after first skip unconcerned concerned counting =>
      obtain ⟨numbersBefore, number, numbersAfter, waiting, standsBefore, isFirst, standsAfter⟩ :=
        exists_split_of_forall₂ stands
      refine ⟨?_, answers_of_none due⟩
      rw [next_of_none due]
      refine ⟨?_, once⟩
      rw [left, waiting]
      exact List.rel_append standsBefore (.cons (isFirst.count counting) standsAfter)
  | @fires before after first unconcerned concerned ready =>
      obtain ⟨numbersBefore, number, numbersAfter, waiting, standsBefore, isFirst, standsAfter⟩ :=
        exists_split_of_forall₂ stands
      have place : (watch.replica.failures.findIdx fun failure =>
          failure.concerns request.verb request.url) = numbersBefore.length := by
        rw [queued, Replica.findIdx_concerned unconcerned concerned, standsBefore.length_eq]
      have next_eq : watch.next (.asks request) =
          { watch with
            replica := (watch.replica.answer request).2
            waiting := numbersBefore ++ numbersAfter
            fired := watch.fired ++ [number] } := by
        simp [next, due, place, waiting, List.eraseIdx_append_of_length_le]
      have moved : (watch.fired ++ [number] ++ (numbersBefore ++ numbersAfter)).Perm
          (List.range watch.armed.length) := by
        apply List.Perm.trans _ once
        rw [waiting, List.append_assoc, List.singleton_append]
        exact List.perm_middle.symm.append_left watch.fired
      obtain ⟨told, isTold, same, -⟩ := isFirst
      refine ⟨?_, .fires number told isTold ?_ ?_ ?_ ?_⟩
      · rw [next_eq]
        refine ⟨?_, moved⟩
        rw [left]
        exact List.rel_append standsBefore standsAfter
      · rw [same] at concerned
        exact concerned
      · have distinct := moved.nodup_iff.mpr List.nodup_range
        have firedApart := distinct.sublist (List.sublist_append_left _ _)
        have others := (List.nodup_append.mp firedApart).2.2
        intro isFired
        exact others number isFired number (List.mem_singleton_self number) rfl
      · rw [next_eq]
      · rw [Replica.answer_eq, due, same]

theorem Accounted.after (accounted : watch.Accounted) (history : List Occurrence) :
    (watch.after history).Accounted := by
  induction history generalizing watch with
  | nil => exact accounted
  | cons occurrence history ih =>
      apply ih
      cases occurrence with
      | arms failure => exact accounted.arm failure
      | asks request => exact (accounted.ask request).1

/-- A failure that was armed for the next request and has not fired is in the queue as it was. -/
theorem Accounted.queued (accounted : watch.Accounted)
    (isArmed : watch.armed[number]? = some failure) (ready : failure.skip = 0)
    (unfired : number ∉ watch.fired) : failure ∈ watch.replica.failures := by
  obtain ⟨inside, -⟩ := List.getElem?_eq_some_iff.mp isArmed
  have somewhere : number ∈ watch.fired ++ watch.waiting :=
    accounted.once.mem_iff.mpr (List.mem_range.mpr inside)
  have waits : number ∈ watch.waiting := by
    rcases List.mem_append.mp somewhere with isFired | waits
    · exact absurd isFired unfired
    · exact waits
  obtain ⟨before, after, waiting⟩ := List.append_of_mem waits
  have stands := accounted.stands
  rw [waiting] at stands
  obtain ⟨_, standing, _, queue, -, ⟨told, isTold, same, fewer⟩, -⟩ :=
    exists_split_of_forall₂ stands.flip
  obtain rfl : failure = told := Option.some.inj (isArmed.symm.trans isTold)
  have none_left : standing.skip = 0 := by omega
  have standing_eq : standing = failure := by
    rw [same, none_left, ← ready]
  rw [queue, standing_eq]
  simp

/-- Where all failures were armed for the next request, none lets a request pass. -/
theorem Accounted.not_letsPass (accounted : watch.Accounted)
    (ready : ∀ told ∈ watch.armed, told.concerns request.verb request.url = true →
      told.skip = 0) : ¬LetsPass watch.replica request := by
  rintro ⟨first, found, counting⟩
  have concerned := List.find?_some found
  obtain ⟨before, after, queue⟩ := List.append_of_mem (List.mem_of_find?_eq_some found)
  have stands := accounted.stands
  rw [queue] at stands
  obtain ⟨_, number, _, -, -, ⟨told, isTold, same, fewer⟩, -⟩ := exists_split_of_forall₂ stands
  rw [same] at concerned
  have none_left := ready told (List.mem_of_getElem? isTold) concerned
  omega

/-- Every failure fires at most once, and with the answer that it was armed with.  As long as a
failure that was armed for the next request has not fired, a request that it concerns is refused
unless the turn goes to an earlier failure that still lets requests pass and the replica can serve
the request.  Where all failures were armed for the next request there is no such failure. -/
theorem armed_failure_fires_iff (replica : Replica) (history : List Occurrence)
    (request : Request) :
    let watch := (start replica).after history
    watch.fired.Nodup ∧ watch.Answers request ∧
    (∀ number failure, watch.armed[number]? = some failure → failure.skip = 0 →
      number ∉ watch.fired → failure.concerns request.verb request.url = true →
      ((∃ error, (watch.replica.answer request).1 = .error error) ↔
        ¬LetsPass watch.replica request ∨ ¬watch.replica.Serves request)) ∧
    ((∀ told ∈ watch.armed, told.concerns request.verb request.url = true → told.skip = 0) →
      ¬LetsPass watch.replica request) := by
  intro watch
  have accounted : watch.Accounted := (accounted_start replica).after history
  refine ⟨?_, (accounted.ask request).2, ?_, accounted.not_letsPass⟩
  · have distinct := accounted.once.nodup_iff.mpr List.nodup_range
    exact distinct.sublist (List.sublist_append_left _ _)
  · intro number failure isArmed ready unfired concerned
    have queued := accounted.queued isArmed ready unfired
    have succeeds := Replica.exists_answer_iff watch.replica request
    rw [Replica.due?_eq_none_iff queued concerned] at succeeds
    have failed_iff : (∃ error, (watch.replica.answer request).1 = .error error) ↔
        ¬∃ document, (watch.replica.answer request).1 = .ok document := by
      cases (watch.replica.answer request).1 <;> simp
    rw [failed_iff, succeeds, not_and_or]

/-- A replica with one user. -/
def oneUser : Replica :=
  (Replica.empty ⟨fun _ => "", 0⟩).withDocument "mock://graph/beta/users/u1"
    (.object [("id", .string "u1")])

/-- Two failures are armed for the next request that reads users, and one of them has fired. -/
theorem armed_failure_fires_iff_sample :
    let watch := (start oneUser).after [.arms ⟨.get, "users", 0, 503, "busy"⟩,
      .arms ⟨.get, "u1", 0, 404, "gone"⟩, .asks ⟨.get, "mock://graph/beta/users/u1", none⟩]
    let failure : Failure := ⟨.get, "u1", 0, 404, "gone"⟩
    watch.fired = [0] ∧ watch.armed[1]? = some failure ∧
      ∃ error, (watch.replica.answer ⟨.get, "mock://graph/beta/users/u1", none⟩).1 =
        .error error := by
  obtain ⟨-, -, fires_iff, ready⟩ := armed_failure_fires_iff oneUser
    [.arms ⟨.get, "users", 0, 503, "busy"⟩, .arms ⟨.get, "u1", 0, 404, "gone"⟩,
      .asks ⟨.get, "mock://graph/beta/users/u1", none⟩] ⟨.get, "mock://graph/beta/users/u1", none⟩
  refine ⟨by decide, rfl, ?_⟩
  apply (fires_iff 1 ⟨.get, "u1", 0, 404, "gone"⟩ rfl rfl (by decide) (by decide)).mpr
  exact .inl (ready (by decide))

/-- A failure that was armed for the next request is passed over: the turn goes to the one before
it, which is to let one request pass, and the user is read. -/
theorem armed_failure_passed_over :
    let watch := (start oneUser).after [.arms ⟨.get, "users", 1, 503, "busy"⟩,
      .arms ⟨.get, "users", 0, 404, "gone"⟩]
    let request : Request := ⟨.get, "mock://graph/beta/users/u1", none⟩
    let failure : Failure := ⟨.get, "users", 0, 404, "gone"⟩
    watch.armed[1]? = some failure ∧ failure.skip = 0 ∧ 1 ∉ watch.fired ∧
      failure.concerns request.verb request.url = true ∧
      (watch.replica.answer request).1 = .ok (.object [("id", .string "u1")]) := by
  decide

end Watch

end Provision
