import Mathlib.Data.Fintype.Pigeonhole
import Provision.Proofs.Listings

/-!
# Chains of pages

A listing goes from page to page for as long as the pages link to another one,
and nothing keeps it from a page that it has read before.  So whether it ends is
decided by the links alone, unless a failure stops it on the way: a chain that
never leads back to a URL ends after at most one page for each stored document,
since only a stored document can bear a link, and one that leads back is gone
round for ever.

A listing is allowed a number of pages here.  It ends when this number no longer
matters once it is large enough, and it does not end when it is used up however
large it is.
-/

namespace Provision

open Replica (Location takeFailure)

/-- Where so many links lead from a URL, if there are as many of them. -/
def followLinks? (link? : String → Option String) : Nat → String → Option String
  | 0, url => some url
  | links + 1, url => (link? url).bind (followLinks? link? links)

/-- The links lead from a URL to one that they lead to again. -/
def LeadsBack (link? : String → Option String) (url : String) : Prop :=
  ∃ first later again, first < later ∧ followLinks? link? first url = some again ∧
    followLinks? link? later url = some again

/-- A failure is due for one of the requests that are sent while the links are followed. -/
inductive MeetsFailure (link? : String → Option String) : List Failure → String → Prop where
  | now {failures left : List Failure} {url : String} {failure : Failure}
      (due : takeFailure .get url failures = (some failure, left)) : MeetsFailure link? failures url
  | later {failures left : List Failure} {url next : String}
      (passed : takeFailure .get url failures = (none, left)) (linked : link? url = some next)
      (onward : MeetsFailure link? left next) : MeetsFailure link? failures url

section Links

variable {link? : String → Option String} {url : String} {few many : Nat}

theorem followLinks?_add (few many : Nat) (url : String) :
    followLinks? link? (few + many) url =
      (followLinks? link? few url).bind (followLinks? link? many) := by
  induction few generalizing url with
  | zero => simp [followLinks?]
  | succ few ih =>
      rw [Nat.succ_add, followLinks?, followLinks?]
      cases link? url with
      | none => rfl
      | some next => exact ih next

theorem followLinks?_succ (links : Nat) (url : String) :
    followLinks? link? (links + 1) url = (followLinks? link? links url).bind link? := by
  rw [followLinks?_add]
  congr 1
  funext last
  cases linked : link? last <;> simp [followLinks?, linked]

theorem isSome_followLinks?_of_le (le : few ≤ many)
    (reaches : (followLinks? link? many url).isSome) : (followLinks? link? few url).isSome := by
  obtain ⟨more, rfl⟩ := Nat.exists_eq_add_of_le le
  rw [followLinks?_add] at reaches
  cases reached : followLinks? link? few url with
  | none => simp [reached] at reaches
  | some last => rfl

/-- Links that lead back never come to an end. -/
theorem LeadsBack.isSome_followLinks? (leadsBack : LeadsBack link? url) (links : Nat) :
    (followLinks? link? links url).isSome := by
  obtain ⟨first, later, again, earlier, reachedFirst, reachedLater⟩ := leadsBack
  induction links using Nat.strong_induction_on with
  | h links ih =>
      rcases Nat.le_total links later with within | beyond
      · apply isSome_followLinks?_of_le within
        rw [reachedLater]
        rfl
      · -- what lies beyond the second visit was reached after the first one already
        obtain ⟨more, rfl⟩ := Nat.exists_eq_add_of_le beyond
        have same : followLinks? link? (later + more) url =
            followLinks? link? (first + more) url := by
          rw [followLinks?_add, followLinks?_add, reachedFirst, reachedLater]
        rw [same]
        apply ih
        omega

/-- Where no failure is queued none is met. -/
theorem not_meetsFailure_nil : ¬MeetsFailure link? [] url := by
  intro meets
  generalize queued : ([] : List Failure) = failures at meets
  induction meets with
  | now due =>
      subst queued
      simp [takeFailure] at due
  | later passed _ _ ih =>
      subst queued
      exact ih (Prod.mk.inj passed).2

end Links

namespace Replica

variable {Element : Type} {element? : Json → Option Element} {replica : Replica}
  {url other next : String} {document : Json}

/-- The link on the page that is shown at a URL, if a page is shown that can be read. -/
def linkOf? (element? : Json → Option Element) (replica : Replica) (url : String) :
    Option String :=
  match replica.read (.ofUrl url) with
  | .ok document => (Page.decode? element? document).bind Page.link?
  | .error _ => none

/-- A request for which a failure is due is answered with it. -/
theorem send_failing {request : Request} {failure : Failure} {failures : List Failure}
    (taken : takeFailure request.verb request.url replica.failures = (some failure, failures)) :
    Client.replica.send request replica =
      (.error (.refused request.verb request.url failure.status failure.body),
        { replica with requests := replica.requests ++ [request], failures }) := by
  simp only [Client.replica, answer, taken]

/-- Without a failure that is due, what is read is brought. -/
theorem send_reading {failures : List Failure}
    (taken : takeFailure .get url replica.failures = (none, failures)) :
    Client.replica.send ⟨.get, url, none⟩ replica =
      ((replica.read (.ofUrl url)).mapError
          fun refusal => .refused .get url refusal.1 refusal.2.compact,
        { replica with requests := replica.requests ++ [⟨.get, url, none⟩], failures }) := by
  let asking : Replica :=
    { replica with requests := replica.requests ++ [⟨.get, url, none⟩], failures }
  have same : asking.read (.ofUrl url) = replica.read (.ofUrl url) := rfl
  rw [← same]
  cases found : asking.read (.ofUrl url) with
  | error refusal =>
      have refuses : asking.handle ⟨.get, url, none⟩ = .error refusal := by
        simp only [handle, found, bind, Except.bind]
      simp only [Client.replica, answer, taken, asking] at refuses ⊢
      simp only [refuses, Except.mapError]
  | ok document =>
      have handles : asking.handle ⟨.get, url, none⟩ = .ok (document, asking) := by
        simp only [handle, found, bind, Except.bind, pure, Except.pure]
      simp only [Client.replica, answer, taken, asking] at handles ⊢
      simp only [handles, Except.mapError]

theorem linkOf?_of_stored (stored : replica.document? url = some document) :
    replica.linkOf? element? url = (Page.decode? element? document).bind Page.link? := by
  have found : replica.documents.find? (Location.ofUrl url).path = some document := stored
  simp only [linkOf?, read, found]

/-- Only a stored document bears a link: a list of what lies below a path is never split. -/
theorem exists_stored_of_linkOf? (linked : replica.linkOf? element? url = some next) :
    ∃ document, replica.document? url = some document := by
  cases stored : replica.document? url with
  | some document => exact ⟨document, rfl⟩
  | none =>
      have unlinked : replica.linkOf? element? url = none := by
        rcases read_list stored with brought | ⟨⟨refusal, refused⟩, -⟩
        · simp only [linkOf?, brought, Page.decode?_list]
          cases Json.readAll? element? _ <;> rfl
        · simp only [linkOf?, refused]
      simp [unlinked] at linked

/-- URLs for one path bear one link. -/
theorem linkOf?_of_same_path (linked : replica.linkOf? element? url = some next)
    (same : (Location.ofUrl other).path = (Location.ofUrl url).path) :
    replica.linkOf? element? other = some next := by
  obtain ⟨document, stored⟩ := exists_stored_of_linkOf? linked
  have storedOther : replica.document? other = some document := by
    rw [document?, same]
    exact stored
  rw [linkOf?_of_stored storedOther, ← linkOf?_of_stored stored, linked]

theorem mem_paths_of_linkOf? (linked : replica.linkOf? element? url = some next) :
    (Location.ofUrl url).path ∈ (replica.documents.map Prod.fst).toFinset := by
  obtain ⟨document, stored⟩ := exists_stored_of_linkOf? linked
  simp only [List.mem_toFinset, List.mem_map]
  exact ⟨_, Members.mem_of_find? stored, rfl⟩

/-- A chain with more links than there are documents comes by one document twice, and so leads
back. -/
theorem leadsBack_of_long
    (long : (followLinks? (replica.linkOf? element?) (replica.documents.length + 1) url).isSome) :
    LeadsBack (replica.linkOf? element?) url := by
  let paths := (replica.documents.map Prod.fst).toFinset
  have onTheWay : ∀ place : Fin (replica.documents.length + 1), ∃ visited next,
      followLinks? (replica.linkOf? element?) place url = some visited ∧
        replica.linkOf? element? visited = some next := by
    intro place
    have goesOn : (followLinks? (replica.linkOf? element?) (place + 1) url).isSome :=
      isSome_followLinks?_of_le (Nat.succ_le_of_lt place.isLt) long
    rw [followLinks?_succ] at goesOn
    obtain ⟨next, reached⟩ := Option.isSome_iff_exists.mp goesOn
    obtain ⟨visited, visits, linked⟩ := Option.bind_eq_some_iff.mp reached
    exact ⟨visited, next, visits, linked⟩
  choose visited next visits linked using onTheWay
  have fewPaths : Fintype.card paths < Fintype.card (Fin (replica.documents.length + 1)) := by
    rw [Fintype.card_coe, Fintype.card_fin, Nat.lt_succ_iff]
    exact (List.toFinset_card_le _).trans (List.length_map _).le
  obtain ⟨one, two, different, samePath⟩ := Fintype.exists_ne_map_eq_of_card_lt
    (fun place => (⟨_, mem_paths_of_linkOf? (linked place)⟩ : paths)) fewPaths
  -- from the same document the chain goes on to the same URL
  have sameNext : replica.linkOf? element? (visited two) = some (next one) :=
    linkOf?_of_same_path (linked one) (Subtype.mk.inj samePath).symm
  have reachedOne : followLinks? (replica.linkOf? element?) (one + 1) url = some (next one) := by
    rw [followLinks?_succ, visits, Option.bind_some, linked]
  have reachedTwo : followLinks? (replica.linkOf? element?) (two + 1) url = some (next one) := by
    rw [followLinks?_succ, visits, Option.bind_some, sameNext]
  rcases Nat.lt_or_gt_of_ne (Fin.val_ne_of_ne different) with before | after
  · exact ⟨one + 1, two + 1, next one, Nat.succ_lt_succ before, reachedOne, reachedTwo⟩
  · exact ⟨two + 1, one + 1, next one, Nat.succ_lt_succ after, reachedTwo, reachedOne⟩

end Replica

section Listings

open Program

variable {Element : Type} {element? : Json → Option Element} {what url : String}
  {now : Run Replica} {requests more : Nat}

/-- A listing sends at most so many requests, all of which read, and then returns a list or fails:
being allowed more pages changes nothing. -/
def EndsWithin (element? : Json → Option Element) (what url : String) (now : Run Replica)
    (requests : Nat) : Prop :=
  ∃ sent ending later, ending ≠ .exhausted ∧ sent.length ≤ requests ∧
    (∀ exchange ∈ sent, exchange.request.verb = .get) ∧
    ∀ pages, requests ≤ pages →
      (readPages element? what pages url).Runs Client.replica now sent ending later

/-- A listing never ends: it reads as many pages as it is allowed, and would read another. -/
def NeverEnds (element? : Json → Option Element) (what url : String) (now : Run Replica) : Prop :=
  ∀ pages, ∃ sent later, sent.length = pages ∧
    (∀ exchange ∈ sent, exchange.request.verb = .get) ∧
    (readPages element? what pages url).Runs Client.replica now sent .exhausted later

theorem EndsWithin.weaken (ends : EndsWithin element? what url now requests)
    (le : requests ≤ more) : EndsWithin element? what url now more := by
  obtain ⟨sent, ending, later, isEnd, few, onlyReads, runs⟩ := ends
  exact ⟨sent, ending, later, isEnd, few.trans le, onlyReads,
    fun pages enough => runs pages (le.trans enough)⟩

theorem NeverEnds.not_endsWithin (never : NeverEnds element? what url now) :
    ¬EndsWithin element? what url now requests := by
  rintro ⟨sent, ending, later, isEnd, -, -, runs⟩
  obtain ⟨_, _, -, -, exhausts⟩ := never requests
  obtain ⟨-, rfl, -⟩ := (runs requests le_rfl).unique exhausts
  exact isEnd rfl

theorem runs_readDocument {State Value : Type} {client : Client State} {now : Run State}
    {state : State} {document : Json} (value? : Json → Option Value) (what : String)
    (answers : client.send ⟨.get, url, none⟩ now.state = (.ok document, state)) :
    (readDocument value? what url).Runs client now [⟨⟨.get, url, none⟩, .ok document⟩]
      (match value? document with
        | some value => .returned value
        | none => .failed (.decode what)) { now with state } := by
  have requested := (runs_request answers).mapFailure (OperationError.read what)
  rw [← List.append_nil [_]]
  refine requested.bind ?_
  cases value? document with
  | some value => exact runs_done
  | none => exact runs_fail

/-- What the first request of a listing comes to. -/
inductive FirstPage (element? : Json → Option Element) (what url : String) (now : Run Replica) :
    Prop where
  /-- The listing ends with it, since a failure is due or there is no link. -/
  | last (exchange : Exchange) (ending : Ending OperationError (List Element))
      (later : Run Replica) (reads : exchange.request.verb = .get) (isEnd : ending ≠ .exhausted)
      (cause : now.state.linkOf? element? url = none ∨
        ∃ failure left, takeFailure .get url now.state.failures = (some failure, left))
      (runs : ∀ pages, (readPages element? what (pages + 1) url).Runs Client.replica now [exchange]
        ending later)
  /-- The listing goes on at the link, and all links are as before. -/
  | linked (exchange : Exchange) (items : List Element) (next : String) (middle : Run Replica)
      (reads : exchange.request.verb = .get)
      (passed : takeFailure .get url now.state.failures = (none, middle.state.failures))
      (link : now.state.linkOf? element? url = some next)
      (same : middle.state.linkOf? element? = now.state.linkOf? element?)
      (runs : ∀ pages sent ending later,
        (readPages element? what pages next).Runs Client.replica middle sent ending later →
        (readPages element? what (pages + 1) url).Runs Client.replica now (exchange :: sent)
          (ending.map (items ++ ·)) later)

theorem firstPage (element? : Json → Option Element) (what url : String) (now : Run Replica) :
    FirstPage element? what url now := by
  let request : Request := ⟨.get, url, none⟩
  rcases taken : takeFailure .get url now.state.failures with ⟨due, failures⟩
  cases due with
  | some failure =>
      exact .last ⟨request, _⟩ _ _ rfl (by simp) (.inr ⟨failure, failures, taken⟩)
        fun _ => runs_readPages_refused what (Replica.send_failing taken)
  | none =>
      have answers := Replica.send_reading taken
      cases found : now.state.read (.ofUrl url) with
      | error refusal =>
          have unlinked : now.state.linkOf? element? url = none := by
            simp only [Replica.linkOf?, found]
          rw [found] at answers
          exact .last ⟨request, _⟩ _ _ rfl (by simp) (.inl unlinked)
            fun _ => runs_readPages_refused what answers
      | ok document =>
          rw [found] at answers
          have linkOf_eq : now.state.linkOf? element? url =
              (Page.decode? element? document).bind Page.link? := by
            simp only [Replica.linkOf?, found]
          have read := runs_readDocument (Page.decode? element?) what answers
          cases decoded : Page.decode? element? document with
          | none =>
              rw [decoded] at linkOf_eq read
              exact .last ⟨request, .ok document⟩ _ _ rfl (by simp) (.inl linkOf_eq)
                fun _ => read.bind_failed
          | some page =>
              rw [decoded] at linkOf_eq read
              cases link : page.link? with
              | none =>
                  exact .last ⟨request, .ok document⟩ _ _ rfl (by simp)
                    (.inl (linkOf_eq.trans link))
                    fun _ => runs_readPages_single what answers decoded link
              | some next =>
                  let asking : Replica :=
                    { now.state with requests := now.state.requests ++ [request], failures }
                  refine .linked ⟨request, .ok document⟩ page.items next
                    { now with state := asking } rfl taken (linkOf_eq.trans link) rfl ?_
                  intro pages sent ending later goesOn
                  refine read.bind ?_
                  simp only [link]
                  exact goesOn.bind_return

/-- A listing that ends with its first request. -/
theorem endsWithin_one {exchange : Exchange} {ending : Ending OperationError (List Element)}
    {later : Run Replica} (reads : exchange.request.verb = .get) (isEnd : ending ≠ .exhausted)
    (runs : ∀ pages, (readPages element? what (pages + 1) url).Runs Client.replica now [exchange]
      ending later) :
    EndsWithin element? what url now 1 := by
  refine ⟨[exchange], ending, later, isEnd, le_rfl, by simpa using reads, ?_⟩
  intro pages enough
  obtain ⟨fewer, rfl⟩ := Nat.exists_eq_add_of_le' enough
  exact runs fewer

/-- A listing that goes on ends one request later than it does from the next page. -/
theorem EndsWithin.after_link {exchange : Exchange} {items : List Element} {next : String}
    {middle : Run Replica} (ends : EndsWithin element? what next middle requests)
    (reads : exchange.request.verb = .get)
    (runs : ∀ pages sent ending later,
      (readPages element? what pages next).Runs Client.replica middle sent ending later →
      (readPages element? what (pages + 1) url).Runs Client.replica now (exchange :: sent)
        (ending.map (items ++ ·)) later) :
    EndsWithin element? what url now (requests + 1) := by
  obtain ⟨sent, ending, later, isEnd, few, onlyReads, goesOn⟩ := ends
  refine ⟨exchange :: sent, ending.map (items ++ ·), later, ?_, Nat.succ_le_succ few, ?_, ?_⟩
  · cases ending <;> simp_all [Ending.map]
  · exact List.forall_mem_cons.mpr ⟨reads, onlyReads⟩
  · intro pages enough
    obtain ⟨fewer, rfl⟩ := Nat.exists_eq_add_of_le' ((Nat.le_add_left 1 requests).trans enough)
    exact runs fewer sent ending later (goesOn fewer (Nat.le_of_succ_le_succ enough))

/-- A chain that comes to an end is read up to there. -/
theorem endsWithin_of_unlinked {links : Nat}
    (ends : followLinks? (now.state.linkOf? element?) (links + 1) url = none) :
    EndsWithin element? what url now (links + 1) := by
  induction links generalizing now url with
  | zero =>
      cases firstPage element? what url now with
      | last exchange ending later reads isEnd _ runs => exact endsWithin_one reads isEnd runs
      | linked _ _ next _ _ _ link => simp [followLinks?, link] at ends
  | succ links ih =>
      cases firstPage element? what url now with
      | last exchange ending later reads isEnd _ runs =>
          exact (endsWithin_one reads isEnd runs).weaken (Nat.le_add_left 1 _)
      | linked exchange items next middle reads _ link same runs =>
          rw [followLinks?, link, Option.bind_some, ← same] at ends
          exact (ih ends).after_link reads runs

/-- A failure that is due on the way ends the listing. -/
theorem endsWithin_of_meetsFailure {link? : String → Option String} {failures : List Failure}
    (meets : MeetsFailure link? failures url) (links : now.state.linkOf? element? = link?)
    (queued : now.state.failures = failures) :
    ∃ requests, EndsWithin element? what url now requests := by
  induction meets generalizing now with
  | now due =>
      cases firstPage element? what _ now with
      | last exchange ending later reads isEnd _ runs => exact ⟨1, endsWithin_one reads isEnd runs⟩
      | linked _ _ _ _ _ passed =>
          rw [queued, due] at passed
          simp at passed
  | later passed linked _ ih =>
      cases firstPage element? what _ now with
      | last exchange ending later reads isEnd _ runs => exact ⟨1, endsWithin_one reads isEnd runs⟩
      | linked exchange items next middle reads passedHere link same runs =>
          obtain rfl : _ = next := Option.some.inj (linked.symm.trans (links ▸ link))
          rw [queued, passed] at passedHere
          obtain ⟨requests, ends⟩ := ih (same.trans links) (Prod.mk.inj passedHere).2.symm
          exact ⟨requests + 1, ends.after_link reads runs⟩

/-- Links without an end are followed for ever, unless a failure is due. -/
theorem neverEnds_of_endless
    (endless : ∀ links, (followLinks? (now.state.linkOf? element?) links url).isSome)
    (noFailure : ¬MeetsFailure (now.state.linkOf? element?) now.state.failures url) :
    NeverEnds element? what url now := by
  intro pages
  induction pages generalizing now url with
  | zero => exact ⟨[], now, rfl, by simp, rfl, rfl⟩
  | succ pages ih =>
      cases firstPage element? what url now with
      | last _ _ _ _ _ cause =>
          rcases cause with unlinked | ⟨failure, left, due⟩
          · simpa [followLinks?, unlinked] using endless 1
          · exact absurd (.now due) noFailure
      | linked exchange items next middle reads passed link same runs =>
          have endlessNext : ∀ links,
              (followLinks? (middle.state.linkOf? element?) links next).isSome := by
            intro links
            simpa only [followLinks?, link, same, Option.bind_some] using endless (links + 1)
          have noFailureNext :
              ¬MeetsFailure (middle.state.linkOf? element?) middle.state.failures next := by
            rw [same]
            intro meets
            exact noFailure (.later passed link meets)
          obtain ⟨sent, later, count, onlyReads, goesOn⟩ := ih endlessNext noFailureNext
          exact ⟨exchange :: sent, later, congrArg Nat.succ count,
            List.forall_mem_cons.mpr ⟨reads, onlyReads⟩, runs pages sent .exhausted later goesOn⟩

/-- A listing whose links do not lead back reads at most one page more than there are documents, and
then returns a list or fails.  One whose links do lead back ends if a failure is due on the way, and
never otherwise. -/
theorem listing_ends_unless_led_back (element? : Json → Option Element) (what url : String)
    (now : Run Replica) :
    (¬LeadsBack (now.state.linkOf? element?) url →
      EndsWithin element? what url now (now.state.documents.length + 1)) ∧
    (MeetsFailure (now.state.linkOf? element?) now.state.failures url →
      ∃ requests, EndsWithin element? what url now requests) ∧
    (LeadsBack (now.state.linkOf? element?) url →
      ¬MeetsFailure (now.state.linkOf? element?) now.state.failures url →
        NeverEnds element? what url now) := by
  refine ⟨?_, ?_, ?_⟩
  · intro neverBack
    apply endsWithin_of_unlinked
    rw [← Option.not_isSome_iff_eq_none]
    intro long
    exact neverBack (Replica.leadsBack_of_long long)
  · intro meets
    exact endsWithin_of_meetsFailure meets rfl rfl
  · intro leadsBack noFailure
    exact neverEnds_of_endless leadsBack.isSome_followLinks? noFailure

end Listings

/-- A run with two stored pages: the first links to the second, the second where it is told to. -/
def pagedRun (last : String) (failures : List Failure) : Run Replica where
  state :=
    { documents :=
        [("mock://graph/beta/users", .object [("value", .array [.null]),
          ("nextLink", .string "mock://graph/beta/users/more?page=2")]),
         ("mock://graph/beta/users/more", .object [("value", .array [.null]),
          ("nextLink", .string last)])]
      collections := []
      requests := []
      failures
      ids := ⟨fun _ => "unused", 0⟩ }
  ids := ⟨fun _ => "unused", 0⟩
  messages := []

theorem pagedRun_leads_back {failures : List Failure} :
    LeadsBack ((pagedRun "mock://graph/beta/users" failures).state.linkOf? some)
      "mock://graph/beta/users" :=
  ⟨0, 2, "mock://graph/beta/users", by decide, rfl, rfl⟩

/-- Two pages are read with no more than three requests.  If the second links to the first, they are
read over and over until a request is refused, or for ever. -/
theorem listing_ends_unless_led_back_sample :
    EndsWithin some "users" "mock://graph/beta/users" (pagedRun "" []) 3 ∧
    (∃ requests, EndsWithin some "users" "mock://graph/beta/users"
      (pagedRun "mock://graph/beta/users" [⟨.get, "users", 2, 503, "busy"⟩]) requests) ∧
    NeverEnds some "users" "mock://graph/beta/users" (pagedRun "mock://graph/beta/users" []) := by
  refine ⟨?_, ?_, ?_⟩
  · apply (listing_ends_unless_led_back some _ _ _).1
    intro leadsBack
    have endless := leadsBack.isSome_followLinks? 2
    revert endless
    decide
  · apply (listing_ends_unless_led_back some _ _ _).2.1
    have firstPassed : takeFailure .get "mock://graph/beta/users"
        [⟨.get, "users", 2, 503, "busy"⟩] = (none, [⟨.get, "users", 1, 503, "busy"⟩]) := by
      decide
    have secondPassed : takeFailure .get "mock://graph/beta/users/more?page=2"
        [⟨.get, "users", 1, 503, "busy"⟩] = (none, [⟨.get, "users", 0, 503, "busy"⟩]) := by
      decide
    refine .later firstPassed rfl ?_
    refine .later secondPassed rfl ?_
    exact .now rfl
  · apply (listing_ends_unless_led_back some _ _ _).2.2
    · exact pagedRun_leads_back
    · exact not_meetsFailure_nil

/-- Stored pages can keep a listing from ending: the second of two pages links to the first. -/
theorem linked_pages_never_listed :
    ¬∃ requests, EndsWithin some "users" "mock://graph/beta/users"
      (pagedRun "mock://graph/beta/users" []) requests := by
  rintro ⟨requests, ends⟩
  have never : NeverEnds some "users" "mock://graph/beta/users"
      (pagedRun "mock://graph/beta/users" []) :=
    neverEnds_of_endless pagedRun_leads_back.isSome_followLinks? not_meetsFailure_nil
  exact never.not_endsWithin ends

end Provision
