import Provision.Proofs.PageChains

/-!
# Lists that are read along their links

A server whose answers depend on the URL alone lays its pages out in a chain: each
page shows some elements and links to the next one.  A listing goes along that
chain and nowhere else.  It sends one request for each page, in their order, and
ends where the chain does: with all elements that were shown if the last page bears
no link, and with a failure, and none of the elements, if the last request is
refused or its answer is no page.

What a page shows is said here in terms of its members, with both names of the link
and with lists and links that are left out.
-/

namespace Provision

open Program

namespace Page

variable {Element : Type} {element? : Json → Option Element} {fields : List (String × Json)}
  {document : Json} {items : List Element} {next : Option String}

/-- The elements of the list on a page; a page without a list has none. -/
inductive Lists (element? : Json → Option Element) : Option Json → List Element → Prop where
  | missing : Lists element? none []
  | read {elements : List Json} {items : List Element}
      (allRead : List.Forall₂ (fun element item => element? element = some item) elements items) :
      Lists element? (some (.array elements)) items

/-- Where a link leads; one that is missing, null or empty leads nowhere. -/
inductive Links : Option Json → Option String → Prop where
  | missing : Links none none
  | null : Links (some .null) none
  | empty : Links (some (.string "")) none
  | text {link : String} (given : link ≠ "") : Links (some (.string link)) (some link)

/-- A name for the link and the other one. -/
inductive LinkNames : String → String → Prop where
  | long : LinkNames linkName shortLinkName
  | short : LinkNames shortLinkName linkName

/-- A document is a page with certain elements, and links to the next page or is the last one.  The
link stands under one of its names, and nothing under the other one. -/
inductive Shows (element? : Json → Option Element) (document : Json) (items : List Element)
    (next : Option String) : Prop where
  | intro {fields : List (String × Json)} {name other : String}
      (isRecord : document.fields? ["value", linkName] = some fields)
      (lists : Lists element? (Members.find? "value" fields) items)
      (names : LinkNames name other) (noOther : Members.find? other fields = none)
      (links : Links (Members.find? name fields) next)

theorem lists_iff : Lists element? (Members.find? "value" fields) items ↔
    Json.withDefault (Json.list? element?) [] "value" fields = some items := by
  cases found : Members.find? "value" fields with
  | none =>
      rw [Replica.withDefault_of_absent found]
      constructor
      · rintro ⟨⟩
        rfl
      · rintro ⟨⟩
        exact .missing
  | some document =>
      rw [Replica.withDefault_of_find? found]
      constructor
      · intro lists
        cases lists with
        | read allRead => exact readAll?_eq_some_iff.mpr allRead
      · intro listed
        cases document with
        | array elements => exact .read (readAll?_eq_some_iff.mp listed)
        | _ => simp [Json.list?, Json.elements?] at listed

/-- A link is read as a text that may be missing, and followed unless the text is empty. -/
theorem links_iff {name : String} : Links (Members.find? name fields) next ↔
    ∃ link, Json.optional Json.text? name fields = some link ∧ link.filter (· ≠ "") = next := by
  rw [Json.optional]
  cases found : Members.find? name fields with
  | none =>
      constructor
      · rintro ⟨⟩
        exact ⟨none, rfl, rfl⟩
      · rintro ⟨link, ⟨⟩, rfl⟩
        exact .missing
  | some document =>
      constructor
      · rintro (_ | _ | _ | given)
        · exact ⟨none, rfl, rfl⟩
        · exact ⟨some "", rfl, rfl⟩
        · exact ⟨some _, rfl, by simpa using given⟩
      · rintro ⟨link, read, rfl⟩
        cases document with
        | null =>
            obtain rfl := Option.some.inj read
            exact .null
        | string text =>
            obtain rfl := Option.some.inj read
            by_cases given : text = ""
            · subst given
              exact .empty
            · rw [Option.filter_some, if_pos (by simpa using given)]
              exact .text given
        | _ => simp [Json.text?] at read

theorem optional_of_absent {Value : Type} (read? : Json → Option Value) {name : String}
    (absent : Members.find? name fields = none) : Json.optional read? name fields = some none := by
  simp only [Json.optional, absent]

/-- What a document shows is what is read of it. -/
theorem shows_iff : Shows element? document items next ↔
    ∃ page, Page.decode? element? document = some page ∧ page.items = items ∧
      page.link? = next := by
  constructor
  · rintro ⟨isRecord, lists, names, noOther, links⟩
    have listed := lists_iff.mp lists
    obtain ⟨link, read, leads⟩ := links_iff.mp links
    have otherRead := optional_of_absent Json.text? noOther
    refine ⟨⟨items, link⟩, ?_, rfl, leads⟩
    cases names <;> simp [decode?, isRecord, listed, Members.has, noOther, otherRead, read]
  · rintro ⟨page, decoded, rfl, rfl⟩
    simp only [decode?, Option.bind_eq_bind, Option.bind_eq_some_iff] at decoded
    obtain ⟨fields, isRecord, items, listed, decoded⟩ := decoded
    have lists := lists_iff.mpr listed
    split at decoded
    · cases decoded
    · rename_i notBoth
      simp only [Option.bind_eq_some_iff] at decoded
      obtain ⟨long, readLong, short, readShort, ⟨⟩⟩ := decoded
      simp only [Members.has, Bool.and_eq_true, not_and, Option.isSome_iff_ne_none,
        not_not] at notBoth
      by_cases noLong : Members.find? linkName fields = none
      · rw [optional_of_absent Json.text? noLong, Option.some.injEq] at readLong
        subst readLong
        exact ⟨isRecord, lists, .short, noLong, links_iff.mpr ⟨short, readShort, by simp [link?]⟩⟩
      · have noShort := notBoth noLong
        rw [optional_of_absent Json.text? noShort, Option.some.injEq] at readShort
        subst readShort
        exact ⟨isRecord, lists, .long, noShort, links_iff.mpr ⟨long, readLong, by simp [link?]⟩⟩

theorem Shows.unique {otherItems : List Element} {otherNext : Option String}
    (shows : Shows element? document items next)
    (others : Shows element? document otherItems otherNext) :
    items = otherItems ∧ next = otherNext := by
  obtain ⟨page, decoded, rfl, rfl⟩ := shows_iff.mp shows
  obtain ⟨other, otherDecoded, rfl, rfl⟩ := shows_iff.mp others
  obtain rfl := Option.some.inj (decoded.symm.trans otherDecoded)
  exact ⟨rfl, rfl⟩

theorem decode?_eq_none (noPage : ∀ items next, ¬Shows element? document items next) :
    Page.decode? element? document = none := by
  cases decoded : Page.decode? element? document with
  | none => rfl
  | some page => exact absurd (shows_iff.mpr ⟨page, decoded, rfl, rfl⟩) (noPage _ _)

end Page

section Chains

variable {State Element : Type} {element? : Json → Option Element}
  {answer : String → Except RemoteError Json} {client : Client State} {url last : String}
  {visited : List String} {items : List Element} {pages : Nat}

/-- The pages that lead from one URL to another: where they are, and what they show. -/
inductive PagesBetween (element? : Json → Option Element)
    (answer : String → Except RemoteError Json) :
    String → List String → List Element → String → Prop where
  | here {url : String} : PagesBetween element? answer url [] [] url
  | page {url next last : String} {visited : List String} {document : Json}
      {shown items : List Element} (answered : answer url = .ok document)
      (shows : Page.Shows element? document shown (some next))
      (onward : PagesBetween element? answer next visited items last) :
      PagesBetween element? answer url (url :: visited) (shown ++ items) last

/-- What a listing comes to that starts at the end of a chain. -/
inductive EndsAt (element? : Json → Option Element) (answer : String → Except RemoteError Json)
    (what url : String) : Ending OperationError (List Element) → Prop where
  | lastPage {document : Json} {shown : List Element} (answered : answer url = .ok document)
      (shows : Page.Shows element? document shown none) :
      EndsAt element? answer what url (.returned shown)
  | refused {cause : RemoteError} (answered : answer url = .error cause) :
      EndsAt element? answer what url (.failed (.read what cause))
  | noPage {document : Json} (answered : answer url = .ok document)
      (noPage : ∀ shown next, ¬Page.Shows element? document shown next) :
      EndsAt element? answer what url (.failed (.decode what))

/-- The request for a page, with its answer. -/
def pageExchange (answer : String → Except RemoteError Json) (url : String) : Exchange :=
  ⟨⟨.get, url, none⟩, answer url⟩

/-- A page that links to another one is read, and the listing goes on there. -/
theorem runs_readPages_linked {now later : Run State} {state : State}
    {sent : List Exchange} {ending : Ending OperationError (List Element)} {document : Json}
    {next : String} (what : String)
    (sends : client.send ⟨.get, url, none⟩ now.state = (.ok document, state))
    (shows : Page.Shows element? document items (some next))
    (goesOn : (readPages element? what pages next).Runs client { now with state } sent ending
      later) :
    (readPages element? what (pages + 1) url).Runs client now
      (⟨⟨.get, url, none⟩, .ok document⟩ :: sent) (ending.map (items ++ ·)) later := by
  obtain ⟨page, decoded, rfl, link⟩ := Page.shows_iff.mp shows
  have read := runs_readDocument (Page.decode? element?) what sends
  rw [decoded] at read
  refine read.bind ?_
  simp only [link]
  exact goesOn.bind_return

/-- A listing that starts at the end of a chain sends one request. -/
theorem EndsAt.runs {what : String} {ending : Ending OperationError (List Element)}
    (ends : EndsAt element? answer what url ending)
    (byUrl : ∀ url state, (client.send ⟨.get, url, none⟩ state).1 = answer url)
    (now : Run State) :
    ∃ state, (readPages element? what (pages + 1) url).Runs client now [pageExchange answer url]
      ending { now with state } := by
  have sends : client.send ⟨.get, url, none⟩ now.state =
      (answer url, (client.send ⟨.get, url, none⟩ now.state).2) := by rw [← byUrl url now.state]
  refine ⟨(client.send ⟨.get, url, none⟩ now.state).2, ?_⟩
  rw [pageExchange]
  cases ends with
  | lastPage answered shows =>
      rw [answered] at sends ⊢
      obtain ⟨page, decoded, rfl, single⟩ := Page.shows_iff.mp shows
      exact runs_readPages_single what sends decoded single
  | refused answered =>
      rw [answered] at sends ⊢
      exact runs_readPages_refused what sends
  | noPage answered noPage =>
      rw [answered] at sends ⊢
      have read := runs_readDocument (Page.decode? element?) what sends
      rw [Page.decode?_eq_none noPage] at read
      exact read.bind_failed

/-- A listing goes along the pages to the end of the chain, and ends as it would have had it started
there, but with the elements of all pages. -/
theorem PagesBetween.runs {what : String} {ending : Ending OperationError (List Element)}
    (between : PagesBetween element? answer url visited items last)
    (ends : EndsAt element? answer what last ending)
    (byUrl : ∀ url state, (client.send ⟨.get, url, none⟩ state).1 = answer url)
    (enough : visited.length < pages) (now : Run State) :
    ∃ state, (readPages element? what pages url).Runs client now
      ((visited ++ [last]).map (pageExchange answer)) (ending.map (items ++ ·))
      { now with state } := by
  induction between generalizing pages now with
  | here =>
      obtain ⟨fewer, rfl⟩ := Nat.exists_eq_add_of_le' enough
      obtain ⟨state, runs⟩ := ends.runs byUrl now
      refine ⟨state, ?_⟩
      cases ending <;> exact runs
  | @page url next last visited document shown items answered shows onward ih =>
      obtain ⟨fewer, rfl⟩ := Nat.exists_eq_add_of_le' (Nat.zero_lt_of_lt enough)
      have sends : client.send ⟨.get, url, none⟩ now.state =
          (.ok document, (client.send ⟨.get, url, none⟩ now.state).2) := by
        rw [← answered, ← byUrl url now.state]
      obtain ⟨state, goesOn⟩ := ih ends (Nat.lt_of_succ_lt_succ enough)
        { now with state := (client.send ⟨.get, url, none⟩ now.state).2 }
      have runs := runs_readPages_linked what sends shows goesOn
      rw [Ending.map_map] at runs
      refine ⟨state, ?_⟩
      simp only [List.cons_append, List.map_cons, pageExchange, answered, List.append_assoc]
      exact runs

/-- A listing reads a chain of pages one by one.  It returns the elements of all of them if the last
one is shown, and it fails with the last request, whatever it has read, if that is refused or
brings no page. -/
theorem Directory.runs_list_linked (directory : Directory) (what path : String) (now : Run State)
    (byUrl : ∀ url state, (client.send ⟨.get, url, none⟩ state).1 = answer url)
    (between : PagesBetween element? answer (directory.url path) visited items last)
    (enough : visited.length < directory.pageLimit) :
    let sent := (visited ++ [last]).map fun url => (⟨⟨.get, url, none⟩, answer url⟩ : Exchange)
    (∀ document shown, answer last = .ok document → Page.Shows element? document shown none →
      ∃ state, (directory.list element? what path).Runs client now sent
        (.returned (items ++ shown)) { now with state }) ∧
    (∀ cause, answer last = .error cause →
      ∃ state, (directory.list element? what path).Runs client now sent
        (.failed (.read what cause)) { now with state }) ∧
    ∀ document, answer last = .ok document →
      (∀ shown next, ¬Page.Shows element? document shown next) →
      ∃ state, (directory.list element? what path).Runs client now sent
        (.failed (.decode what)) { now with state } := by
  refine ⟨?_, ?_, ?_⟩
  · intro document shown answered shows
    exact between.runs (.lastPage answered shows) byUrl enough now
  · intro cause answered
    exact between.runs (.refused answered) byUrl enough now
  · intro document answered noPage
    exact between.runs (.noPage answered noPage) byUrl enough now

end Chains

/-- The first of three pages, which has two elements. -/
def pageOfTwo : Json :=
  .object [("@odata.nextLink", .string "https://directory/2"),
    ("value", .array [.string "ada", .string "bob"])]

/-- The second of three pages, which has no list and the other name for its link. -/
def pageOfNone : Json := .object [("nextLink", .string "https://directory/3")]

/-- Three pages at certain URLs, the last of which can be chosen. -/
def threePages (third : Except RemoteError Json) : String → Except RemoteError Json
  | "https://directory/users" => .ok pageOfTwo
  | "https://directory/2" => .ok pageOfNone
  | _ => third

/-- A server that lays out three pages and counts the requests. -/
def threePagesClient (third : Except RemoteError Json) : Client Nat where
  send request count := (threePages third request.url, count + 1)

theorem pagesBetween_threePages (third : Except RemoteError Json) :
    PagesBetween Json.text? (threePages third) "https://directory/users"
      ["https://directory/users", "https://directory/2"] ["ada", "bob"] "https://directory/3" := by
  have first : Page.Shows Json.text? pageOfTwo ["ada", "bob"] (some "https://directory/2") :=
    ⟨rfl, .read (.cons rfl (.cons rfl .nil)), .long, rfl, .text (by decide)⟩
  have second : Page.Shows Json.text? pageOfNone [] (some "https://directory/3") :=
    ⟨rfl, .missing, .short, rfl, .text (by decide)⟩
  exact .page rfl first (.page rfl second .here)

/-- Three pages are listed with three requests.  If the third is refused or no page, the listing
fails after three requests. -/
theorem Directory.runs_list_linked_sample :
    let users := "https://directory/users"
    let third := "https://directory/3"
    let sent (answer : Except RemoteError Json) : List Exchange :=
      [⟨⟨.get, users, none⟩, .ok pageOfTwo⟩,
        ⟨⟨.get, "https://directory/2", none⟩, .ok pageOfNone⟩, ⟨⟨.get, third, none⟩, answer⟩]
    let listing : Program OperationError (List String) :=
      (⟨"https://directory", 3⟩ : Directory).list Json.text? "users" "users"
    let now : Run Nat := ⟨0, ⟨fun _ => "", 0⟩, []⟩
    let lastPage : Json :=
      .object [("@odata.nextLink", .string ""), ("value", .array [.string "eve"])]
    let lost : RemoteError := .transport .get third
    (∃ state, listing.Runs (threePagesClient (.ok lastPage)) now (sent (.ok lastPage))
      (.returned ["ada", "bob", "eve"]) { now with state }) ∧
    (∃ state, listing.Runs (threePagesClient (.error lost)) now (sent (.error lost))
      (.failed (.read "users" lost)) { now with state }) ∧
    ∃ state, listing.Runs (threePagesClient (.ok .null)) now (sent (.ok .null))
      (.failed (.decode "users")) { now with state } := by
  have byUrl : ∀ answer url (count : Nat),
      ((threePagesClient answer).send ⟨.get, url, none⟩ count).1 = threePages answer url :=
    fun _ _ _ => rfl
  have between := pagesBetween_threePages
  refine ⟨?_, ?_, ?_⟩
  · exact (Directory.runs_list_linked ⟨"https://directory", 3⟩ "users" "users" _ (byUrl _)
      (between _) (by decide)).1 _ ["eve"] rfl ⟨rfl, .read (.cons rfl .nil), .long, rfl, .empty⟩
  · exact (Directory.runs_list_linked ⟨"https://directory", 3⟩ "users" "users" _ (byUrl _)
      (between _) (by decide)).2.1 _ rfl
  · refine (Directory.runs_list_linked ⟨"https://directory", 3⟩ "users" "users" _ (byUrl _)
      (between _) (by decide)).2.2 .null rfl ?_
    rintro shown next ⟨⟨⟩, -, -, -, -⟩

end Provision
