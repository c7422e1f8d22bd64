import Provision.Proofs.CautiousCreations
import Provision.Proofs.VerbEffects

/-!
# Names that differ in letter case

Before a blueprint is created, its name is compared with those that exist by the letters of ASCII
alone.  The filter of a list compares the lower-case forms of Unicode.  Names that are the same to
the first comparison are the same to the second, but not conversely: beyond ASCII the first one
tells the cases of a letter apart.  So a blueprint is found to exist exactly if its name has the
same lower-case form and, beyond ASCII, the same characters.
-/

namespace Provision

namespace Text

variable {char : Char} {form other before earlier left right : List Char}

/-- What is compared beyond ASCII: the characters stand in the same places, and only in the places
of ASCII characters they may be others of ASCII. -/
def AgreeBeyondAscii (left right : List Char) : Prop :=
  List.Forall₂ (fun first second => first = second ∨ first.toNat < 128 ∧ second.toNat < 128)
    left right

theorem toNat_lowerAscii_lt_iff : (lowerAscii char).toNat < 128 ↔ char.toNat < 128 := by
  rcases lowerAscii_cases char with same | ⟨-, high, moved⟩
  · rw [same]
  · omega

theorem lowerAscii_of_not_ascii (beyond : ¬char.toNat < 128) : lowerAscii char = char := by
  rcases lowerAscii_cases char with same | ⟨-, high, -⟩
  · exact same
  · omega

/-- The capitals of ASCII make up the first run, and all other runs lie beyond ASCII. -/
theorem lowerRuns_eq : ∃ runs, lowerRuns = (0x41, 0x5A, 1, 32) :: runs ∧
    ∀ run ∈ runs, 128 ≤ run.1 :=
  ⟨_, rfl, by decide +kernel⟩

theorem lowerChar_of_ascii (isAscii : char.toNat < 128) : lowerChar char = [lowerAscii char] := by
  have notDotted : char ≠ '\u0130' := by
    rintro rfl
    exact absurd isAscii (by decide)
  obtain ⟨runs, runs_eq, beyond⟩ := lowerRuns_eq
  by_cases capital : 'A' ≤ char ∧ char ≤ 'Z'
  · have inRun : 0x41 ≤ char.toNat ∧ char.toNat ≤ 0x5A := by
      simpa [Char.le_def, UInt32.le_iff_toNat_le] using capital
    have moved : ((char.toNat : Int) + 32).toNat = char.toNat + 32 := rfl
    simp [lowerChar, notDotted, runs_eq, inRun, lowerAscii, capital, Nat.mod_one, moved]
  · have notInRun : ¬(0x41 ≤ char.toNat ∧ char.toNat ≤ 0x5A) := by
      simpa [Char.le_def, UInt32.le_iff_toNat_le] using capital
    rw [lowerChar, if_neg notDotted, List.find?_eq_none.mpr ?noRun]
    case noRun =>
      rw [runs_eq]
      intro run run_mem
      rcases List.mem_cons.mp run_mem with rfl | isOther
      · simp [notInRun]
      · have above := beyond run isOther
        have notReached : ¬run.1 ≤ char.toNat := by omega
        simp [notReached]
    simp [lowerAscii, capital]

theorem lowerChar_lowerAscii (char : Char) : lowerChar (lowerAscii char) = lowerChar char := by
  by_cases isAscii : char.toNat < 128
  · rw [lowerChar_of_ascii isAscii, lowerChar_of_ascii (toNat_lowerAscii_lt_iff.mpr isAscii),
      lowerAscii_lowerAscii]
  · rw [lowerAscii_of_not_ascii isAscii]

theorem inRanges_eq_true {ranges : List (Nat × Nat)} {low high point : Nat}
    (range_mem : (low, high) ∈ ranges) (above : low ≤ point) (below : point ≤ high) :
    inRanges ranges point = true :=
  List.any_eq_true.mpr ⟨_, range_mem, by simp [above, below]⟩

theorem inRanges_eq_false {ranges : List (Nat × Nat)} {point : Nat}
    (apart : ∀ range ∈ ranges, point < range.1 ∨ range.2 < point) :
    inRanges ranges point = false := by
  rw [inRanges, List.any_eq_false]
  intro range range_mem inside
  rw [Bool.and_eq_true, decide_eq_true_eq, decide_eq_true_eq] at inside
  have outside := apart range range_mem
  omega

theorem isCased_lowerAscii (char : Char) : isCased (lowerAscii char) = isCased char := by
  have capitals : (0x41, 0x5A) ∈ casedRanges := by decide
  have letters : (0x61, 0x7A) ∈ casedRanges := by decide
  rcases lowerAscii_cases char with same | ⟨low, high, moved⟩
  · rw [same]
  · have lowered : isCased (lowerAscii char) = true :=
      inRanges_eq_true letters (by omega) (by omega)
    have capital : isCased char = true := inRanges_eq_true capitals low high
    rw [lowered, capital]

/-- No range holds a letter of ASCII. -/
theorem caseIgnorableRanges_apart : ∀ range ∈ caseIgnorableRanges,
    (0x5A < range.1 ∨ range.2 < 0x41) ∧ (0x7A < range.1 ∨ range.2 < 0x61) := by
  decide +kernel

theorem isCaseIgnorable_lowerAscii (char : Char) :
    isCaseIgnorable (lowerAscii char) = isCaseIgnorable char := by
  rcases lowerAscii_cases char with same | ⟨low, high, moved⟩
  · rw [same]
  · have lowered : isCaseIgnorable (lowerAscii char) = false := by
      apply inRanges_eq_false
      intro range range_mem
      obtain ⟨-, apart⟩ := caseIgnorableRanges_apart range range_mem
      omega
    have capital : isCaseIgnorable char = false := by
      apply inRanges_eq_false
      intro range range_mem
      obtain ⟨apart, -⟩ := caseIgnorableRanges_apart range range_mem
      omega
    rw [lowered, capital]

theorem lowerAscii_eq_sigma_iff : lowerAscii char = '\u03A3' ↔ char = '\u03A3' := by
  have sigma : '\u03A3'.toNat = 0x3A3 := rfl
  rcases lowerAscii_cases char with same | ⟨-, high, moved⟩
  · rw [same]
  · constructor
    · intro isSigma
      rw [isSigma] at moved
      omega
    · rintro rfl
      omega

theorem meetsCased_map (text : List Char) :
    meetsCased (text.map lowerAscii) = meetsCased text := by
  have ignored : isCaseIgnorable ∘ lowerAscii = isCaseIgnorable :=
    funext isCaseIgnorable_lowerAscii
  rw [meetsCased, meetsCased, List.dropWhile_map, ignored]
  cases text.dropWhile isCaseIgnorable with
  | nil => rfl
  | cons first rest => exact isCased_lowerAscii first

/-- The lower-case form does not depend on the case of the letters of ASCII. -/
theorem lowerAfter_map (before text : List Char) :
    lowerAfter (before.map lowerAscii) (text.map lowerAscii) = lowerAfter before text := by
  induction text generalizing before with
  | nil => rfl
  | cons char text ih =>
      have rest := ih (char :: before)
      rw [List.map_cons] at rest
      simp only [List.map_cons, lowerAfter, lowerAscii_eq_sigma_iff, meetsCased_map,
        lowerChar_lowerAscii, rest]

/-- What the lower-case form of a text has for one of its characters. -/
inductive FormOf (char : Char) : List Char → Prop where
  | sigma {letter : Char} (isSigma : char = '\u03A3') : FormOf char [letter]
  | plain (notSigma : char ≠ '\u03A3') : FormOf char (lowerChar char)

theorem exists_form (before text : List Char) (char : Char) :
    ∃ form, FormOf char form ∧
      lowerAfter before (char :: text) = form ++ lowerAfter (char :: before) text := by
  by_cases isSigma : char = '\u03A3'
  · refine ⟨[if meetsCased before && !meetsCased text then '\u03C2' else '\u03C3'], .sigma isSigma,
      ?_⟩
    simp only [lowerAfter, isSigma, if_true]
    split <;> rfl
  · refine ⟨lowerChar char, .plain isSigma, ?_⟩
    simp only [lowerAfter, isSigma, if_false]

theorem FormOf.length_eq (isForm : FormOf char form) (isOther : FormOf char other) :
    form.length = other.length := by
  cases isForm with
  | sigma isSigma =>
      cases isOther with
      | sigma => rfl
      | plain notSigma => exact absurd isSigma notSigma
  | plain notSigma =>
      cases isOther with
      | sigma isSigma => exact absurd isSigma notSigma
      | plain => rfl

theorem FormOf.eq_of_ascii (isForm : FormOf char form) (isAscii : char.toNat < 128) :
    form = [lowerAscii char] := by
  cases isForm with
  | sigma isSigma => exact absurd isAscii (by rw [isSigma]; decide)
  | plain => exact lowerChar_of_ascii isAscii

/-- Where two texts agree beyond ASCII, their lower-case forms tell what becomes of each letter. -/
theorem map_lowerAscii_of_lowerAfter (agree : AgreeBeyondAscii left right)
    (same : lowerAfter before left = lowerAfter earlier right) :
    left.map lowerAscii = right.map lowerAscii := by
  induction agree generalizing before earlier with
  | nil => rfl
  | @cons first second left right isPair agree ih =>
      obtain ⟨form, isForm, leftForm⟩ := exists_form before left first
      obtain ⟨other, isOther, rightForm⟩ := exists_form earlier right second
      rw [leftForm, rightForm] at same
      rcases isPair with rfl | ⟨isAscii, otherIsAscii⟩
      · obtain ⟨-, rest⟩ := List.append_inj same (isForm.length_eq isOther)
        rw [List.map_cons, List.map_cons, ih rest]
      · rw [isForm.eq_of_ascii isAscii, isOther.eq_of_ascii otherIsAscii] at same
        obtain ⟨letter, rest⟩ := List.cons.inj same
        rw [List.map_cons, List.map_cons, letter, ih rest]

theorem agreeBeyondAscii_of_map (same : left.map lowerAscii = right.map lowerAscii) :
    AgreeBeyondAscii left right := by
  rw [← List.forall₂_eq_eq_eq, List.forall₂_map_left_iff, List.forall₂_map_right_iff] at same
  apply same.imp
  intro first second folded
  by_cases isAscii : first.toNat < 128
  · have otherIsAscii : second.toNat < 128 := by
      rwa [← toNat_lowerAscii_lt_iff, ← folded, toNat_lowerAscii_lt_iff]
    exact .inr ⟨isAscii, otherIsAscii⟩
  · have otherBeyond : ¬second.toNat < 128 := by
      rwa [← toNat_lowerAscii_lt_iff, ← folded, toNat_lowerAscii_lt_iff]
    rw [lowerAscii_of_not_ascii isAscii, lowerAscii_of_not_ascii otherBeyond] at folded
    exact .inl folded

/-- Two texts are the same to the comparison by the letters of ASCII exactly if they have the same
lower-case form and agree beyond ASCII. -/
theorem sameIgnoringCase_iff_lower {left right : String} :
    sameIgnoringCase left right = true ↔
      lower left = lower right ∧ AgreeBeyondAscii left.toList right.toList := by
  rw [sameIgnoringCase_iff]
  constructor
  · intro same
    refine ⟨?_, agreeBeyondAscii_of_map same⟩
    rw [lower, lower, ← lowerAfter_map [] left.toList, ← lowerAfter_map [] right.toList, same]
  · rintro ⟨same, agree⟩
    exact map_lowerAscii_of_lowerAfter agree (String.ofList_injective same)

end Text

/-- Two names have the same lower-case form: what the filter of a list compares. -/
def SameLowerForm (left right : String) : Prop :=
  Text.lower (Text.trim left) = Text.lower (Text.trim right)

theorem sameName_iff_sameLowerForm {left right : String} : sameName left right = true ↔
    SameLowerForm left right ∧
      Text.AgreeBeyondAscii (Text.trim left).toList (Text.trim right).toList :=
  Text.sameIgnoringCase_iff_lower

namespace Directory

variable {directory : Directory} {displayName : String}
  {sponsorIds ownerIds sponsors owners : List String} {policy : Namesake.Policy}
  {existing : List Blueprint} {sent : List Exchange}
  {ending : Ending OperationError BlueprintCreated}

/-- How the creation of a blueprint ends that finds a namesake: it is refused, or it keeps the
namesake, as its policy says. -/
inductive NamesakeFound (existing : List Blueprint) (displayName : String) :
    Namesake.Policy → Ending OperationError BlueprintCreated → Prop where
  | refused : NamesakeFound existing displayName .fail
      (.failed (.plan (.nameTaken (Text.trim displayName)
        (existing.filter fun blueprint => sameName blueprint.displayName displayName).length)))
  | kept {blueprint : Blueprint} (listed : blueprint ∈ existing)
      (isNamesake : sameName blueprint.displayName displayName = true) :
      NamesakeFound existing displayName .skip
        (.returned ⟨blueprint.id, blueprint.appId, Text.trim displayName, none, true⟩)

/-- Once the blueprints are listed, a creation finds a namesake or sends a write. -/
theorem found_iff_of_lists {State : Type} {client : Client State} {now middle later : Run State}
    {listing : List Exchange} (given : Text.trim displayName ≠ "")
    (sponsored : Argument.each "sponsor_ids" sponsorIds = .ok sponsors)
    (owned : Argument.all "owner_ids" ownerIds = .ok owners) (cautious : policy ≠ .createAnyway)
    (lists : (directory.listBlueprints none).Runs client now listing (.returned existing) middle)
    (runs : (directory.createBlueprint displayName sponsorIds ownerIds policy).Runs client now sent
      ending later) :
    (NamesakeFound existing displayName policy ending ∧
        ∀ exchange ∈ sent, exchange.isWrite = false) ↔
      ∃ blueprint ∈ existing, sameName blueprint.displayName displayName = true := by
  have accepted : Argument.required "display_name" displayName = .ok (Text.trim displayName) :=
    Argument.required_of_trim_ne given
  have checked := ((runs.of_check_ok accepted).of_check_ok sponsored).of_check_ok owned
  obtain ⟨rest, rfl, decides⟩ := lists.of_bind_returned checked
  have reads : (directory.listBlueprints none).Ensures (fun _ _ => True) _ :=
    (directory.reads_listBlueprints none).ensures
  have onlyReads := (reads.of_runs lists (by simp)).1
  simp only [sameName_trim] at decides
  have outcome := Namesake.decided policy (Text.trim displayName)
    (existing.filter fun blueprint => sameName blueprint.displayName displayName) Blueprint.id
  rcases decides.of_check with ⟨error, refused, rfl, rfl, -⟩ | ⟨decision, decided, goesOn⟩
  · rw [refused] at outcome
    cases outcome with
    | refused isFail taken =>
      subst isFail
      obtain ⟨blueprint, blueprint_mem⟩ := List.exists_mem_of_ne_nil _ taken
      obtain ⟨listed, isNamesake⟩ := List.mem_filter.mp blueprint_mem
      refine iff_of_true ⟨.refused, ?_⟩ ⟨blueprint, listed, isNamesake⟩
      simpa using onlyReads
  · rw [decided] at outcome
    cases outcome with
    | @kept first others isSkip taken =>
      subst isSkip
      have first_mem : first ∈ existing.filter fun blueprint =>
          sameName blueprint.displayName displayName := by
        simp [taken]
      obtain ⟨listed, isNamesake⟩ := List.mem_filter.mp first_mem
      have found : ((existing.filter fun blueprint =>
          sameName blueprint.displayName displayName).find? fun blueprint =>
            blueprint.id = first.id) = some first := by
        simp [taken]
      simp only [found] at goesOn
      obtain ⟨rfl, rfl, -⟩ := goesOn.of_progress.unique Program.runs_done
      refine iff_of_true ⟨.kept listed isNamesake, ?_⟩ ⟨first, listed, isNamesake⟩
      simpa using onlyReads
    | free untaken =>
      obtain ⟨answer, others, rfl⟩ := Program.Runs.sent_first goesOn.of_progress
      apply iff_of_false
      · rintro ⟨-, unwritten⟩
        have unwrittenRest := (List.forall_mem_append.mp unwritten).2
        have isRead := (List.forall_mem_cons.mp unwrittenRest).1
        simp [Exchange.isWrite, Request.isWrite] at isRead
      · rintro ⟨blueprint, listed, isNamesake⟩
        have unnamed := List.filter_eq_nil_iff.mp (untaken cautious) blueprint listed
        exact unnamed isNamesake

/-- A replica lists certain blueprints: nothing else is stored where they are listed, all of them
can be read, and no failure is due for the request. -/
structure Lists (directory : Directory) (replica : Replica) (existing : List Blueprint) : Prop where
  noDocument : replica.document? (directory.url blueprintsPath) = none
  decodable : Json.readAll? decode?
    (replica.children (.ofUrl (directory.url blueprintsPath))) = some existing
  calm : replica.due? ⟨.get, directory.url blueprintsPath, none⟩ = none

/-- The list is returned, or there is nothing to list and the list is refused. -/
theorem Lists.runs {now : Run Replica} (lists : directory.Lists now.state existing)
    (paged : directory.pageLimit ≠ 0) :
    ∃ listing middle,
      (directory.listBlueprints none).Runs Client.replica now listing (.returned existing) middle ∨
      existing = [] ∧ ∃ cause, (directory.listBlueprints none).Runs Client.replica now listing
        (.failed (.read "agent identity blueprints" cause)) middle := by
  obtain ⟨pages, paged⟩ := Nat.exists_eq_succ_of_ne_zero paged
  have answers := Replica.send_get lists.calm
  rcases Replica.read_list lists.noDocument with listed | ⟨⟨refusal, refused⟩, nothing⟩
  · have page : Page.decode? decode?
        (.object [("value", .array (now.state.children (.ofUrl (directory.url blueprintsPath))))]) =
        some ⟨existing, none⟩ := by
      rw [Page.decode?_list, lists.decodable]
      rfl
    rw [listed] at answers
    obtain ⟨listing, middle, brought⟩ : ∃ listing middle,
        directory.allBlueprints.Runs Client.replica now listing (.returned existing) middle := by
      rw [allBlueprints, list, paged]
      exact ⟨_, _, runs_readPages_single "agent identity blueprints" answers page rfl⟩
    exact ⟨_, middle, .inl (brought.bind Program.runs_done)⟩
  · have none_listed : existing = [] := by
      simpa [nothing, Json.readAll?, eq_comm] using lists.decodable
    rw [refused] at answers
    obtain ⟨listing, cause, middle, unread⟩ : ∃ listing cause middle,
        directory.allBlueprints.Runs Client.replica now listing
          (.failed (.read "agent identity blueprints" cause)) middle := by
      rw [allBlueprints, list, paged]
      exact ⟨_, _, _, runs_readPages_refused "agent identity blueprints" answers⟩
    exact ⟨listing, middle, .inr ⟨none_listed, cause, unread.bind_failed⟩⟩

/-- Under a policy that is not to create a blueprint anyway, a creation finds a namesake on the list
and sends no write exactly if the name of one that is listed has the same lower-case form and agrees
with the requested name beyond ASCII. -/
theorem namesake_found_iff {now later : Run Replica} (paged : directory.pageLimit ≠ 0)
    (lists : directory.Lists now.state existing) (given : Text.trim displayName ≠ "")
    (sponsored : Argument.each "sponsor_ids" sponsorIds = .ok sponsors)
    (owned : Argument.all "owner_ids" ownerIds = .ok owners) (cautious : policy ≠ .createAnyway)
    (runs : (directory.createBlueprint displayName sponsorIds ownerIds policy).Runs
      Client.replica now sent ending later) :
    (NamesakeFound existing displayName policy ending ∧
        ∀ exchange ∈ sent, exchange.isWrite = false) ↔
      ∃ blueprint ∈ existing, SameLowerForm blueprint.displayName displayName ∧
        Text.AgreeBeyondAscii (Text.trim blueprint.displayName).toList
          (Text.trim displayName).toList := by
  simp only [← sameName_iff_sameLowerForm]
  obtain ⟨listing, middle, returned | ⟨rfl, cause, failed⟩⟩ := lists.runs paged
  · exact found_iff_of_lists given sponsored owned cautious returned runs
  · have accepted : Argument.required "display_name" displayName = .ok (Text.trim displayName) :=
      Argument.required_of_trim_ne given
    have checked := ((runs.of_check_ok accepted).of_check_ok sponsored).of_check_ok owned
    obtain ⟨-, rfl, -⟩ := checked.unique failed.bind_failed
    apply iff_of_false
    · rintro ⟨⟨⟩, -⟩
    · simp

def streetBlueprint : Blueprint := ⟨"b1", "c1", "Straße É", none⟩

/-- A replica with one blueprint. -/
def heldStreet : Run Replica :=
  ⟨(Replica.empty ⟨fun _ => "fresh", 0⟩).withDocument "mock://graph/beta/applications/b1"
    (.object [("@odata.type", .string "#microsoft.graph.agentIdentityBlueprint"),
      ("appId", .string "c1"), ("displayName", .string "Straße É"), ("id", .string "b1")]),
    ⟨fun _ => "fresh", 0⟩, []⟩

theorem lists_heldStreet : sampleGraph.Lists heldStreet.state [streetBlueprint] :=
  ⟨by decide +kernel, by decide +kernel, by decide +kernel⟩

/-- A name in capitals of ASCII is found. -/
theorem namesake_found_iff_sample :
    sampleGraph.Lists heldStreet.state [streetBlueprint] ∧ Text.trim " STRAßE É" ≠ "" ∧
      ∃ sent ending later, (sampleGraph.createBlueprint " STRAßE É" ["u1"] [] .skip).Runs
          Client.replica heldStreet sent ending later ∧
        NamesakeFound [streetBlueprint] " STRAßE É" .skip ending ∧
        ∀ exchange ∈ sent, exchange.isWrite = false := by
  have given : Text.trim " STRAßE É" ≠ "" := by decide +kernel
  have isNamesake : sameName streetBlueprint.displayName " STRAßE É" = true := by decide +kernel
  have sponsored : Argument.each "sponsor_ids" ["u1"] = .ok ["u1"] := by decide +kernel
  have runs := Program.runs_run Client.replica
    (sampleGraph.createBlueprint " STRAßE É" ["u1"] [] .skip) heldStreet
  refine ⟨lists_heldStreet, given, _, _, _, runs, ?_⟩
  apply (namesake_found_iff (by decide) lists_heldStreet given sponsored rfl (by decide) runs).mpr
  exact ⟨streetBlueprint, by simp, sameName_iff_sameLowerForm.mp isNamesake⟩

/-- A name that has the same lower-case form is created next to the one that exists. -/
theorem namesake_of_other_case_created :
    sampleGraph.Lists heldStreet.state [streetBlueprint] ∧ Text.trim "straße é" ≠ "" ∧
      SameLowerForm streetBlueprint.displayName "straße é" ∧
      ∃ sent later, (sampleGraph.createBlueprint "straße é" ["u1"] [] .fail).Runs
        Client.replica heldStreet sent
        (.returned ⟨"fresh", "fresh", "straße é", some "fresh", false⟩) later := by
  have ends : ((sampleGraph.createBlueprint "straße é" ["u1"] [] .fail).run Client.replica
      heldStreet).1 = .returned ⟨"fresh", "fresh", "straße é", some "fresh", false⟩ := by
    decide +kernel
  have sameForm : Text.lower (Text.trim streetBlueprint.displayName) =
      Text.lower (Text.trim "straße é") := by
    decide +kernel
  exact ⟨lists_heldStreet, by decide +kernel, sameForm, _, _, Program.runs_of_ending ends⟩

end Directory

end Provision
