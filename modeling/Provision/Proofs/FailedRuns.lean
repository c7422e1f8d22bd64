import Provision.Command
import Provision.Proofs.Effects
import Provision.Proofs.Postconditions

/-!
# How operations fail

An operation checks its arguments, reads, plans, and writes at last.  Most
operations send one write, and nothing that comes after a write can fail any
more: what the server answers is of the form that is asked of it.  So a failed
run met its failure before it wrote anything, or its only write was refused.

The operations that are not like this are followed elsewhere; the rules here
are about programs of any kind.
-/

namespace Provision

/-- A failure that is met before anything is written. -/
structure EarlyFailure (sent : List Exchange) (failure : OperationError) : Prop where
  onlyReads : ∀ exchange ∈ sent, exchange.isWrite = false
  notWriting : ∀ detail cause, failure ≠ .write detail cause

/-- How a run fails that sends at most one write: before it, or because it is refused. -/
inductive Stopped (described : OperationError → Prop) : List Exchange → OperationError → Prop where
  | early {sent : List Exchange} {failure : OperationError} (isEarly : EarlyFailure sent failure) :
      Stopped described sent failure
  | refused {reads : List Exchange} {request : Request} {cause : RemoteError}
      {failure : OperationError} (onlyReads : ∀ exchange ∈ reads, exchange.isWrite = false)
      (holds : described failure) : Stopped described (reads ++ [⟨request, .error cause⟩]) failure

/-- How a run fails that sends at most one write, with what is said of the write that is refused. -/
inductive StoppedAt (described : Request → WriteFailure → Prop) :
    List Exchange → OperationError → Prop where
  | early {sent : List Exchange} {failure : OperationError} (isEarly : EarlyFailure sent failure) :
      StoppedAt described sent failure
  | refused {reads : List Exchange} {request : Request} {detail : WriteFailure}
      {cause : RemoteError} (onlyReads : ∀ exchange ∈ reads, exchange.isWrite = false)
      (holds : described request detail) :
      StoppedAt described (reads ++ [⟨request, .error cause⟩]) (.write detail cause)

section Failures

variable {reads sent : List Exchange} {failure : OperationError}
  {described accepted : OperationError → Prop}

theorem EarlyFailure.after_reads (isEarly : EarlyFailure sent failure)
    (onlyReads : ∀ exchange ∈ reads, exchange.isWrite = false) :
    EarlyFailure (reads ++ sent) failure where
  onlyReads := List.forall_mem_append.mpr ⟨onlyReads, isEarly.onlyReads⟩
  notWriting := isEarly.notWriting

theorem EarlyFailure.isPartial_eq_false (isEarly : EarlyFailure sent failure) :
    failure.isPartial = false := by
  cases failure with
  | write detail cause => exact absurd rfl (isEarly.notWriting detail cause)
  | _ => rfl

theorem Stopped.refused_first {request : Request} {cause : RemoteError}
    (holds : described failure) : Stopped described [⟨request, .error cause⟩] failure := by
  have noReads : ∀ exchange ∈ ([] : List Exchange), exchange.isWrite = false := by simp
  exact .refused noReads holds

theorem Stopped.weaken (stopped : Stopped described sent failure)
    (weaker : ∀ failure, described failure → accepted failure) : Stopped accepted sent failure := by
  cases stopped with
  | early isEarly => exact .early isEarly
  | refused onlyReads holds => exact .refused onlyReads (weaker _ holds)

theorem Stopped.after_reads (stopped : Stopped described sent failure)
    (onlyReads : ∀ exchange ∈ reads, exchange.isWrite = false) :
    Stopped described (reads ++ sent) failure := by
  cases stopped with
  | early isEarly => exact .early (isEarly.after_reads onlyReads)
  | refused moreReads holds =>
      rw [← List.append_assoc]
      exact .refused (List.forall_mem_append.mpr ⟨onlyReads, moreReads⟩) holds

theorem StoppedAt.after_reads {described : Request → WriteFailure → Prop}
    (stopped : StoppedAt described sent failure)
    (onlyReads : ∀ exchange ∈ reads, exchange.isWrite = false) :
    StoppedAt described (reads ++ sent) failure := by
  cases stopped with
  | early isEarly => exact .early (isEarly.after_reads onlyReads)
  | refused moreReads holds =>
      rw [← List.append_assoc]
      exact .refused (List.forall_mem_append.mpr ⟨onlyReads, moreReads⟩) holds

theorem StoppedAt.stopped {described : Request → WriteFailure → Prop}
    (stopped : StoppedAt described sent failure)
    (weaker : ∀ request detail cause, described request detail → accepted (.write detail cause)) :
    Stopped accepted sent failure := by
  cases stopped with
  | early isEarly => exact .early isEarly
  | refused onlyReads holds => exact .refused onlyReads (weaker _ _ _ holds)

/-- Where nothing is written, no write succeeds. -/
theorem none_written_of_onlyReads (onlyReads : ∀ exchange ∈ reads, exchange.isWrite = false) :
    ∀ exchange ∈ reads, exchange.isWrite = true → exchange.succeeded = false := by
  intro exchange read_mem isWrite
  simp [onlyReads exchange read_mem] at isWrite

theorem Stopped.none_written (stopped : Stopped described sent failure) :
    ∀ exchange ∈ sent, exchange.isWrite = true → exchange.succeeded = false := by
  cases stopped with
  | early isEarly => exact none_written_of_onlyReads isEarly.onlyReads
  | refused onlyReads _ =>
      exact List.forall_mem_append.mpr ⟨none_written_of_onlyReads onlyReads, by simp⟩

theorem Stopped.isPartial_eq_false
    (stopped : Stopped (fun failure => failure.isPartial = false) sent failure) :
    failure.isPartial = false := by
  cases stopped with
  | early isEarly => exact isEarly.isPartial_eq_false
  | refused _ holds => exact holds

end Failures

namespace Program

variable {Failure Other Result Next State : Type} {left : List Exchange → Failure → Prop}
  {program : Program Failure Result} {described : OperationError → Prop}

/-- Whatever a replica answers, a run of a program that fails has certain exchanges and a certain
failure. -/
structure FailsWith (program : Program Failure Result) (left : List Exchange → Failure → Prop) :
    Prop where
  ensures : program.Ensures Replica.MayAnswer fun sent ending =>
    ∀ failure, ending = .failed failure → left sent failure

theorem FailsWith.weaken {accepted : List Exchange → Failure → Prop}
    (fails : program.FailsWith left) (weaker : ∀ sent failure, left sent failure →
      accepted sent failure) : program.FailsWith accepted := by
  refine ⟨fails.ensures.weaken ?_⟩
  intro sent ending holds failure failed
  exact weaker sent failure (holds failure failed)

theorem failsWith_return {result : Result} :
    (pure result : Program Failure Result).FailsWith left := by
  refine ⟨ensures_done ?_⟩
  intro failure failed
  simp at failed

theorem failsWith_fail {failure : Failure} (holds : left [] failure) :
    (fail failure : Program Failure Result).FailsWith left := by
  refine ⟨ensures_fail ?_⟩
  rintro _ ⟨⟩
  exact holds

theorem FailsWith.bind {between : List Exchange → Ending Failure Result → Prop}
    {next : Result → Program Failure Next} (first : program.Ensures Replica.MayAnswer between)
    (failed : ∀ sent failure, between sent (.failed failure) → left sent failure)
    (returned : ∀ sent result, between sent (.returned result) →
      (next result).FailsWith fun sentLater failure => left (sent ++ sentLater) failure) :
    (program >>= next).FailsWith left := by
  refine ⟨first.bind ?_ ?_ ?_⟩
  · intro sent result holds
    exact (returned sent result holds).ensures
  · rintro sent failure holds _ ⟨⟩
    exact failed sent failure holds
  · intro sent _ failure failed
    simp at failed

theorem FailsWith.bind_return {change : Result → Next} (fails : program.FailsWith left) :
    (program >>= fun result => pure (change result)).FailsWith left := by
  apply FailsWith.bind fails.ensures
  · intro sent failure holds
    exact holds failure rfl
  · intro sent result _
    exact failsWith_return

theorem FailsWith.after_progress {message : String} (fails : program.FailsWith left) :
    (progress message >>= fun _ => program).FailsWith left := ⟨ensures_report fails.ensures⟩

theorem FailsWith.after_fresh {next : String → Program Failure Result}
    (fails : ∀ id, (next id).FailsWith left) : (freshId >>= next).FailsWith left :=
  ⟨ensures_fresh fun id => (fails id).ensures⟩

theorem FailsWith.mapFailure {describe : Failure → Other} {left : List Exchange → Other → Prop}
    (fails : program.FailsWith fun sent failure => left sent (describe failure)) :
    (program.mapFailure describe).FailsWith left := by
  refine ⟨Ensures.mapFailure (fails.ensures.weaken ?_)⟩
  intro sent ending holds failure failed
  cases ending with
  | returned result => simp [Ending.mapFailure] at failed
  | exhausted => simp [Ending.mapFailure] at failed
  | failed cause =>
      obtain rfl : describe cause = failure := by simpa [Ending.mapFailure] using failed
      exact holds cause rfl

theorem failsWith_check {left : List Exchange → OperationError → Prop}
    {check : Except PlanError Result} {next : Result → Program OperationError Next}
    (refused : ∀ error, left [] (.plan error))
    (accepted : ∀ result, check = .ok result → (next result).FailsWith left) :
    ((liftM check : Program OperationError Result) >>= next).FailsWith left := by
  cases check with
  | ok result => exact accepted result rfl
  | error error => exact failsWith_fail (refused error)

theorem FailsWith.of_runs {schedule : Nat → Option RemoteError} {now later : Run Replica}
    {sent : List Exchange} {failure : Failure} (fails : program.FailsWith left)
    (runs : program.Runs (Client.interrupted schedule) now sent (.failed failure) later) :
    left sent failure :=
  fails.ensures.of_runs runs (Replica.leads_of_runs runs).mayAnswer failure rfl

/-- A program reads at most, draws no ids, and its failures are not those of a write. -/
inductive Reads : Program OperationError Result → Prop where
  | done {result : Result} : Reads (.done result)
  | fail {failure : OperationError} (notWriting : ∀ detail cause, failure ≠ .write detail cause) :
      Reads (.fail failure)
  | exhausted : Reads .exhausted
  | send {request : Request} {next : Except RemoteError Json → Program OperationError Result}
      (isRead : request.isWrite = false) (further : ∀ answer, Reads (next answer)) :
      Reads (.send request next)
  | report {message : String} {next : Program OperationError Result} (further : Reads next) :
      Reads (.report message next)

theorem reads_return {result : Result} : (pure result : Program OperationError Result).Reads :=
  .done

/-- Whatever answers a program gets that only reads, its exchanges are reads. -/
theorem Reads.ensures {program : Program OperationError Result}
    {admits : Request → Except RemoteError Json → Prop} (reads : program.Reads) :
    program.Ensures admits fun sent ending =>
      (∀ exchange ∈ sent, exchange.isWrite = false) ∧
        ∀ failure, ending = .failed failure → ∀ detail cause, failure ≠ .write detail cause := by
  induction reads with
  | done => exact ensures_done ⟨by simp, by simp⟩
  | exhausted => exact ensures_exhausted ⟨by simp, by simp⟩
  | fail notWriting =>
      refine ensures_fail ⟨by simp, ?_⟩
      rintro _ ⟨⟩
      exact notWriting
  | @send request next isRead further ih =>
      refine ensures_send fun answer _ => (ih answer).weaken ?_
      rintro sent ending ⟨onlyReads, notWriting⟩
      refine ⟨?_, notWriting⟩
      intro exchange exchange_mem
      rcases List.mem_cons.mp exchange_mem with rfl | later_mem
      · exact isRead
      · exact onlyReads exchange later_mem
  | report further ih => exact ensures_report ih

/-- Reading leaves a replica as it was, and does not fail at a write. -/
theorem Reads.unchanged {program : Program OperationError Result}
    {schedule : Nat → Option RemoteError} {now later : Run Replica} {sent : List Exchange}
    {ending : Ending OperationError Result} (reads : program.Reads)
    (runs : program.Runs (Client.interrupted schedule) now sent ending later) :
    later.state.documents = now.state.documents ∧ later.state.ids = now.state.ids ∧
      ∀ failure, ending = .failed failure → ∀ detail cause, failure ≠ .write detail cause := by
  have ensures : program.Ensures (fun _ _ => True) _ := reads.ensures
  obtain ⟨onlyReads, notWriting⟩ := ensures.of_runs runs (by simp)
  obtain ⟨documents, ids⟩ :=
    (Replica.leads_of_runs runs).unchanged (none_written_of_onlyReads onlyReads)
  exact ⟨documents, ids, notWriting⟩

theorem Reads.failsWith {program : Program OperationError Result} (reads : program.Reads) :
    program.FailsWith EarlyFailure := by
  refine ⟨reads.ensures.weaken ?_⟩
  rintro sent ending ⟨onlyReads, notWriting⟩ failure failed
  exact ⟨onlyReads, notWriting failure failed⟩

theorem Reads.bind {program : Program OperationError Result}
    {next : Result → Program OperationError Next} (reads : program.Reads)
    (further : ∀ result, (next result).Reads) : (program >>= next).Reads := by
  induction reads with
  | done => exact further _
  | fail notWriting => exact .fail notWriting
  | exhausted => exact .exhausted
  | send isRead _ ih => exact .send isRead ih
  | report _ ih => exact .report ih

theorem reads_check {check : Except PlanError Result}
    {next : Result → Program OperationError Next}
    (further : ∀ result, check = .ok result → (next result).Reads) :
    ((liftM check : Program OperationError Result) >>= next).Reads := by
  cases check with
  | ok result => exact further result rfl
  | error error => exact .fail (by simp)

theorem reads_document (value? : Json → Option Result) (what url : String) :
    (readDocument value? what url).Reads := by
  refine .send rfl ?_
  intro answer
  cases answer with
  | error cause => exact .fail (by simp)
  | ok document =>
      simp only [ofExcept, mapFailure, bind]
      split
      · exact reads_return
      · exact .fail (by simp)

theorem reads_pages (element? : Json → Option Result) (what : String) (pages : Nat)
    (url : String) : (readPages element? what pages url).Reads := by
  induction pages generalizing url with
  | zero => exact .exhausted
  | succ pages ih =>
      apply (reads_document _ what url).bind
      intro page
      cases page.link? with
      | none => exact reads_return
      | some next =>
          apply (ih next).bind
          intro rest
          exact reads_return

/-- A way to fail that early failures are cases of, and that does not depend on what was read. -/
structure Late (left : List Exchange → OperationError → Prop) : Prop where
  early : ∀ {sent failure}, EarlyFailure sent failure → left sent failure
  afterReads : ∀ {reads sent failure}, (∀ exchange ∈ reads, exchange.isWrite = false) →
    left sent failure → left (reads ++ sent) failure

theorem late_stopped : Late (Stopped described) where
  early isEarly := .early isEarly
  afterReads onlyReads stopped := stopped.after_reads onlyReads

theorem late_stoppedAt {described : Request → WriteFailure → Prop} :
    Late (StoppedAt described) where
  early isEarly := .early isEarly
  afterReads onlyReads stopped := stopped.after_reads onlyReads

section Late

variable {left : List Exchange → OperationError → Prop}

theorem Late.check {check : Except PlanError Result} {next : Result → Program OperationError Next}
    (late : Late left) (accepted : ∀ result, check = .ok result → (next result).FailsWith left) :
    ((liftM check : Program OperationError Result) >>= next).FailsWith left := by
  apply failsWith_check _ accepted
  exact fun error => late.early ⟨by simp, by simp⟩

theorem Late.bind {program : Program OperationError Result}
    {next : Result → Program OperationError Next} (late : Late left) (reads : program.Reads)
    (further : ∀ result, (next result).FailsWith left) : (program >>= next).FailsWith left := by
  apply FailsWith.bind reads.ensures
  · rintro sent failure ⟨onlyReads, notWriting⟩
    exact late.early ⟨onlyReads, notWriting failure rfl⟩
  · rintro sent result ⟨onlyReads, -⟩
    apply (further result).weaken
    intro sentLater failure holds
    exact late.afterReads onlyReads holds

end Late

/-- A program stops at its only write when nothing can fail after it. -/
theorem stopped_send {request : Request}
    {next : Except RemoteError Json → Program OperationError Result}
    (refused : ∀ cause, ∃ failure, next (.error cause) = .fail failure ∧ described failure)
    (answered : ∀ document, Replica.MayAnswer request (.ok document) →
      ∃ result, next (.ok document) = .done result) :
    (send request next).FailsWith (Stopped described) := by
  refine ⟨ensures_send fun answer mayAnswer => ?_⟩
  cases answer with
  | error cause =>
      rcases refused cause with ⟨failure, next_eq, holds⟩
      rw [next_eq]
      apply ensures_fail
      rintro _ ⟨⟩
      exact .refused_first holds
  | ok document =>
      rcases answered document mayAnswer with ⟨result, next_eq⟩
      rw [next_eq]
      apply ensures_done
      intro failure failed
      simp at failed

/-- A write fails itself, or what is done with its answer does. -/
theorem failsWith_request {left : List Exchange → OperationError → Prop} {request : Request}
    {describe : RemoteError → OperationError} {next : Json → Program OperationError Result}
    (refused : ∀ cause, left [⟨request, .error cause⟩] (describe cause))
    (answered : ∀ document, Replica.MayAnswer request (.ok document) →
      (next document).FailsWith fun sent failure =>
        left (⟨request, .ok document⟩ :: sent) failure) :
    ((Program.request request).mapFailure describe >>= next).FailsWith left := by
  refine ⟨ensures_send fun answer mayAnswer => ?_⟩
  cases answer with
  | error cause =>
      apply ensures_fail
      rintro _ ⟨⟩
      exact refused cause
  | ok document => exact (answered document mayAnswer).ensures

/-- A write is the last thing that may fail when its answer always leads to a result. -/
theorem stoppedAt_request {described : Request → WriteFailure → Prop} {request : Request}
    {detail : WriteFailure} {next : Json → Program OperationError Result}
    (holds : described request detail)
    (answered : ∀ document, Replica.MayAnswer request (.ok document) →
      ∃ result, next document = pure result) :
    ((Program.request request).mapFailure (.write detail) >>= next).FailsWith
      (StoppedAt described) := by
  apply failsWith_request
  · intro cause
    have noReads : ∀ exchange ∈ ([] : List Exchange), exchange.isWrite = false := by simp
    exact .refused noReads holds
  · intro document mayAnswer
    rcases answered document mayAnswer with ⟨result, next_eq⟩
    rw [next_eq]
    exact failsWith_return

end Program

end Provision
