import SignInJourney.Proofs.Session.Record

/-!
Records of the first layout. `Legacy.Style` has the choices of whoever wrote one: former names of
states or the current ones, which of the members to leave out that the layout can do without, and
whether to give the version. Bringing such a session to the current layout settles what was left out
(`upgrade_write`), so every record of it is decoded to the session itself (`decode_legacy`).
-/

namespace SignInJourney.Legacy

open SignInJourney.Tree

/-- How a record of the first layout is written. -/
structure Style where
  /-- The version is given. -/
  versioned : Bool
  /-- States have their former names. -/
  former : Bool
  /-- The names of members that are left out where the layout can do without them. -/
  leavesOut : String → Bool

/-- The name of a state before it was changed. -/
def formerName (name : String) : String :=
  ((renamed.find? fun names => names.2 == name).map Prod.fst).getD name

/-- An absent member is null, and can be left out. -/
def isAbsent : String × Tree → Bool
  | (_, .null) => true
  | _ => false

namespace Style

variable (style : Style)

/-- A record without those of its spare members that are left out. -/
def thin (spare : String × Tree → Bool) (t : Tree) : Tree :=
  .record (t.members.filter fun m => !(style.leavesOut m.1 && spare m))

/-- The requested level is spare where it is the first of the levels. -/
def selection (sel : ProviderSelection) : Tree :=
  let first := sel.levels.head? == some sel.requested
  style.thin (fun m => isAbsent m || first && m.1 == "requested_loa") (toTree sel)

/-- The registering flag of an awaiting user is spare where it is false. -/
def identity (i : Identity) : Tree :=
  style.thin (fun m => !i.registering && m.1 == "registering") (toTree i)

/-- The contents `t` of a state in the first layout. -/
def contents (s : State) (t : Tree) : Tree :=
  match s with
  | .providerSelected sel => style.selection sel
  | .awaitingCycle3 _ i => .record [("identity", style.identity i)]
  | _ => style.thin isAbsent t

def name (kind : StateKind) : String :=
  if style.former then formerName kind.name else kind.name

def state (s : State) : Tree :=
  match s.contents with
  | some t => .record [(style.name s.kind, style.contents s t)]
  | none => .text (style.name s.kind)

/-- A session in the first layout. -/
def write (s : Session) : Tree :=
  .record [("envelope", style.thin isAbsent (toTree s.envelope)), ("state", style.state s.state)]

/-- The version that a record gives, if it gives one. -/
def version : Option Nat :=
  if style.versioned then some 1 else none

end Style

/-! ### What is left out -/

section Thin

variable {style : Style} {spare : String × Tree → Bool} {t : Tree} {levels : Nat}

@[simp] theorem isAbsent_iff {m : String × Tree} : isAbsent m = true ↔ m.2 = .null := by
  obtain ⟨name, value⟩ := m
  cases value <;> simp [isAbsent]

theorem thin_eq_record : style.thin spare t = .record (style.thin spare t).members := by
  rw [Style.thin, members_record]

theorem fits_thin (record : t = .record t.members) (fits : MessagePack.fits t) :
    MessagePack.fits (style.thin spare t) := by
  rw [record, MessagePack.fits_record] at fits
  refine MessagePack.fits_record.mpr ⟨?_, fun m member => ?_⟩
  · exact Nat.lt_of_le_of_lt (List.length_filter_le _ _) fits.1
  · exact fits.2 m (List.mem_filter.mp member).1

theorem gives_thin (once : (t.members.map Prod.fst).Nodup) :
    Gives (style.thin isAbsent t).members t.members := by
  rw [Style.thin, members_record]
  refine Gives.filter once fun m _ left => ?_
  simp only [Bool.not_eq_false', Bool.and_eq_true, isAbsent_iff] at left
  exact left.2

end Thin

/-! ### Names -/

theorem rename_named (names : String × String) (name : String) (contents : Tree) :
    rename (named [(name, contents)]) names =
      named [(if name = names.1 then names.2 else name, contents)] := by
  by_cases same : name = names.1 <;> simp [rename, findName?, dropName, setName, member, same]

theorem foldl_rename (name : String) (contents : Tree) :
    renamed.foldl rename (named [(name, contents)]) = named [(currentName name, contents)] := by
  -- No new name is a former one, so at most one of the renamings applies.
  by_cases first : name = "CountrySelected"
  · subst first; rfl
  by_cases second : name = "CountryAuthnFailedError"
  · subst second; rfl
  by_cases third : name = "CountryUserAccountCreationFailed"
  · subst third; rfl
  have none : renamed.lookup name = none := by
    rw [List.lookup_eq_none_iff]
    simp [renamed, first, second, third]
  rw [currentName, none, Option.getD_none]
  simp only [renamed, List.foldl_cons, List.foldl_nil, rename_named, first, second, third, if_false]

theorem currentName_name (kind : StateKind) : currentName kind.name = kind.name := by
  cases kind <;> rfl

theorem currentName_styled (style : Style) (kind : StateKind) :
    currentName (style.name kind) = kind.name := by
  unfold Style.name
  split
  · cases kind <;> rfl
  · exact currentName_name kind

/-! ### What is settled -/

/-- The kinds of state that may lack a member which is present in the current layout. -/
def lacksMember : StateKind → Bool
  | .idpSelected | .awaitingCycle3Data | .eidasAwaitingCycle3Data => true
  | _ => false

section Settled

variable {name : String} {ms : List (String × Tree)}

theorem settleRegistering_named :
    settleRegistering (named ms) = named (settle "registering" (.bool false) ms) := by
  unfold settleRegistering
  rw [findName?_named]
  cases found : ms.lookup "registering" with
  | some t => rw [settle_of_lookup found]
  | none => rw [settle_of_missing found, setName_named _ (lookup_eq_none_iff.mp found)]

theorem settleRequested?_named {value : Tree}
    (ready : ms.lookup "requested_loa" = none →
      ∃ others, ms.lookup "levels_of_assurance" = some (.list (value :: others))) :
    settleRequested? (named ms) = some (named (settle "requested_loa" value ms)) := by
  unfold settleRequested?
  rw [findName?_named, findName?_named]
  cases found : ms.lookup "requested_loa" with
  | some t => rw [settle_of_lookup found]
  | none =>
    obtain ⟨others, levels⟩ := ready found
    rw [settle_of_missing found, levels, ← setName_named _ (lookup_eq_none_iff.mp found)]

theorem settleIdentity_other {other : String} (different : name ≠ other) (contents : Tree) :
    settleIdentity other (named [(name, contents)]) = named [(name, contents)] := by
  simp [settleIdentity, findName?, different]

theorem settleIdentity_own :
    settleIdentity name (named [(name, .record [("identity", .record ms)])]) =
      named [(name, .record [("identity",
        .record (settle "registering" (.bool false) ms))])] := by
  simp [settleIdentity, record_eq, findName?, setName, member, settleRegistering_named]

theorem currentEntries?_plain {kind : StateKind} (now : currentName name = kind.name)
    (plain : lacksMember kind = false) (contents : Tree) :
    currentEntries? (named [(name, contents)]) = some (named [(kind.name, contents)]) := by
  have different {other : StateKind} (lacks : lacksMember other = true) :
      kind.name ≠ other.name := by
    intro named
    have same : kind = other := Vocabulary.word_injective named
    rw [same, lacks] at plain
    cases plain
  have domestic : settleIdentity "AwaitingCycle3Data" (named [(kind.name, contents)]) = _ :=
    settleIdentity_other (@different .awaitingCycle3Data rfl) contents
  have crossBorder : settleIdentity "EidasAwaitingCycle3Data" (named [(kind.name, contents)]) = _ :=
    settleIdentity_other (@different .eidasAwaitingCycle3Data rfl) contents
  have other : kind.name ≠ "IdpSelected" := @different .idpSelected rfl
  simp only [currentEntries?, foldl_rename, now, domestic, crossBorder, findName?_named,
    lookup_cons, other, if_false, List.lookup_nil]

theorem currentEntries?_selected (now : currentName name = "IdpSelected") {value : Tree}
    (ready : ms.lookup "requested_loa" = none →
      ∃ others, ms.lookup "levels_of_assurance" = some (.list (value :: others))) :
    currentEntries? (named [(name, .record ms)]) =
      some (named [("IdpSelected", .record (settle "requested_loa" value ms))]) := by
  have apart {other : String} (h : "IdpSelected" ≠ other) :
      settleIdentity other (named [("IdpSelected", .record ms)]) = _ :=
    settleIdentity_other h (.record ms)
  simp only [currentEntries?, foldl_rename, now, apart (by decide : _ ≠ "AwaitingCycle3Data"),
    apart (by decide : _ ≠ "EidasAwaitingCycle3Data"), findName?_named]
  have own : [("IdpSelected", record ms)].lookup "IdpSelected" = some (.dict (named ms)) := rfl
  simp only [own, settleRequested?_named ready, Option.map_some]
  rfl

theorem currentEntries?_awaiting {kind : StateKind} (now : currentName name = kind.name)
    (awaiting : kind = .awaitingCycle3Data ∨ kind = .eidasAwaitingCycle3Data) :
    currentEntries? (named [(name, .record [("identity", .record ms)])]) =
      some (named [(kind.name, .record [("identity",
        .record (settle "registering" (.bool false) ms))])]) := by
  simp only [currentEntries?, foldl_rename, now]
  rcases awaiting with rfl | rfl
  · have own := @settleIdentity_own "AwaitingCycle3Data" ms
    rw [StateKind.name, own, settleIdentity_other (by decide)]
    rfl
  · have own := @settleIdentity_own "EidasAwaitingCycle3Data" ms
    rw [StateKind.name, settleIdentity_other (by decide), own]
    rfl

end Settled

/-! ### States and sessions -/

variable {style : Style}

theorem gives_selection (sel : ProviderSelection) :
    Gives (settle "requested_loa" (toTree sel.requested) (style.selection sel).members)
      (toTree sel).members := by
  rw [Style.selection, Style.thin, members_record]
  have there : (toTree sel).members.lookup "requested_loa" = some (toTree sel.requested) := rfl
  refine Gives.settle sel.textual.nodup_members there (fun _ => rfl) fun m _ left => ?_
  simp only [Bool.not_eq_false', Bool.and_eq_true, Bool.or_eq_true, isAbsent_iff,
    beq_iff_eq] at left
  exact left.2.imp_right And.right

/-- A requested level is left out only where the levels tell it. -/
theorem levels_of_missing {sel : ProviderSelection}
    (missing : (style.selection sel).members.lookup "requested_loa" = none) :
    ∃ others, (style.selection sel).members.lookup "levels_of_assurance" =
      some (.list (toTree sel.requested :: others)) := by
  have once := sel.textual.nodup_members
  have requested : (toTree sel).members.lookup "requested_loa" = some (toTree sel.requested) := rfl
  have levels : (toTree sel).members.lookup "levels_of_assurance" = some (toTree sel.levels) := rfl
  rw [Style.selection, Style.thin, members_record, lookup_filter once] at missing ⊢
  rw [requested] at missing
  rw [levels]
  have first : sel.levels.head? = some sel.requested := by
    simp [Option.filter, isAbsent, toTree] at missing
    exact missing.2
  obtain ⟨others, split⟩ := List.head?_eq_some_iff.mp first
  refine ⟨others.map toTree, ?_⟩
  rw [split]
  simp [Option.filter, isAbsent, toTree]

theorem gives_identity (i : Identity) :
    Gives (settle "registering" (.bool false) (style.identity i).members) (toTree i).members := by
  rw [Style.identity, Style.thin, members_record]
  have there : (toTree i).members.lookup "registering" = some (.bool i.registering) := rfl
  refine Gives.settle i.textual.nodup_members there (fun left => ?_) fun m _ left => ?_
  · have unset : i.registering = false := by simp_all
    rw [unset]
  · right
    simp_all

theorem currentEntries?_contents {s : State} {t : Tree} (holds : s.contents = some t) :
    ∃ contents, currentEntries? (named [(style.name s.kind, style.contents s t)]) =
      some (named [(s.kind.name, contents)]) ∧
      State.ofContents? .json contents s.kind = some s := by
  have now := currentName_styled style s.kind
  have gives : Gives (style.thin isAbsent t).members t.members :=
    gives_thin (State.textual_contents holds).nodup_members
  have read : State.ofContents? .json (style.thin isAbsent t) s.kind = some s := by
    rw [thin_eq_record]
    exact State.ofContents?_record holds gives
  -- Selections and awaiting users can lack a member; of every other state the name alone changes.
  cases s with
  | providerSelected sel =>
    obtain rfl := Option.some.inj holds
    have selected := @gives_selection style sel
    have ready := @levels_of_missing style sel
    obtain ⟨ms, given⟩ : ∃ ms, style.selection sel = .record ms := ⟨_, rfl⟩
    rw [given, members_record] at selected ready
    rw [Style.contents, given]
    exact ⟨_, currentEntries?_selected now ready, State.ofContents?_record holds selected⟩
  | awaitingCycle3 family i =>
    have waits := @gives_identity style i
    obtain ⟨ms, given⟩ : ∃ ms, style.identity i = .record ms := ⟨_, rfl⟩
    rw [given, members_record] at waits
    rw [Style.contents, given]
    refine ⟨_, currentEntries?_awaiting now (by cases family <;> simp [State.kind]), ?_⟩
    cases family <;> simp [State.kind, State.ofContents?, State.awaiting?_identity waits]
  | matchRequested family stage request =>
    cases family <;> cases stage <;> exact ⟨_, currentEntries?_plain now rfl _, read⟩
  | matched family outcome =>
    cases family <;> exact ⟨_, currentEntries?_plain now rfl _, read⟩
  | _ => exact ⟨_, currentEntries?_plain now rfl _, read⟩

theorem ofTree?_envelope (envelope : Envelope) :
    (ofTree? .json (style.thin isAbsent (toTree envelope)) : Option Envelope) = some envelope := by
  rw [thin_eq_record]
  exact Envelope.ofTree?_record (gives_thin envelope.textual.nodup_members)

theorem upgrade_text (envelope : Tree) (name : String) :
    upgrade (.record [("envelope", envelope), ("state", .text name)]) =
      .ok (.record [("envelope", envelope), ("state", .text (currentName name))]) := rfl

theorem upgrade_entries {entries current : List (Tree × Tree)}
    (settled : currentEntries? entries = some current) (envelope : Tree) :
    upgrade (.record [("envelope", envelope), ("state", .dict entries)]) =
      .ok (.record [("envelope", envelope), ("state", .dict current)]) := by
  simp [upgrade, record_eq, findName?, setName, member, settled]

/-- What was left out of a session is settled when it is brought to the current layout. -/
theorem upgrade_write (style : Style) (s : Session) :
    ∃ upgraded, upgrade (style.write s) = .ok upgraded ∧ ofTree? .json upgraded = some s := by
  unfold Style.write Style.state
  cases holds : s.state.contents with
  | none =>
    refine ⟨_, upgrade_text _ _, Session.ofTree?_record (ofTree?_envelope s.envelope) ?_⟩
    rw [currentName_styled]
    exact State.ofTree?_name holds
  | some t =>
    obtain ⟨contents, settled, read⟩ := @currentEntries?_contents style _ _ holds
    refine ⟨_, upgrade_entries settled _, Session.ofTree?_record (ofTree?_envelope s.envelope) ?_⟩
    exact (State.ofTree?_entry s.state.kind contents).trans read

theorem currentEntries?_current {s : State} {t : Tree} (holds : s.contents = some t) :
    currentEntries? (named [(s.kind.name, t)]) = some (named [(s.kind.name, t)]) := by
  have now := currentName_name s.kind
  cases s with
  | providerSelected sel =>
    obtain rfl := Option.some.inj holds
    have requested : (toTree sel).members.lookup "requested_loa" = some (toTree sel.requested) :=
      rfl
    have settled := @currentEntries?_selected _ (toTree sel).members now .null
      fun missing => by rw [requested] at missing; cases missing
    rwa [settle_of_lookup requested] at settled
  | awaitingCycle3 family i =>
    obtain rfl := Option.some.inj holds
    have registering : (toTree i).members.lookup "registering" = some (.bool i.registering) := rfl
    have settled := @currentEntries?_awaiting _ (toTree i).members _ now
      (by cases family <;> simp [State.kind])
    rwa [settle_of_lookup registering] at settled
  | matchRequested family stage request =>
    cases family <;> cases stage <;> exact currentEntries?_plain now rfl t
  | matched family outcome =>
    cases family <;> exact currentEntries?_plain now rfl t
  | _ => exact currentEntries?_plain now rfl t

/-- A session in the current layout is left as it is. -/
theorem upgrade_current (s : Session) : upgrade (toTree s) = .ok (toTree s) := by
  have written : toTree s = .record [("envelope", toTree s.envelope), ("state", toTree s.state)] :=
    rfl
  cases holds : s.state.contents with
  | none => rw [written, State.toTree_of_empty holds, upgrade_text, currentName_name]
  | some t =>
    rw [written, State.toTree_of_contents holds]
    exact upgrade_entries (currentEntries?_current holds) (toTree s.envelope)

/-! ### What is stored -/

theorem textual_contents {s : State} {t : Tree} (holds : s.contents = some t) :
    Textual 3 (style.contents s t) := by
  have textual := State.textual_contents holds
  cases s with
  | providerSelected sel => exact (sel.textual.mono (by decide : 2 ≤ 3)).filter _
  | awaitingCycle3 family i =>
    exact .record (by simp) (List.forall_mem_singleton.mpr (i.textual.filter _))
  | _ => exact textual.filter _

theorem textual_write (style : Style) (s : Session) : Textual 5 (style.write s) := by
  have envelope : Textual 1 (style.thin isAbsent (toTree s.envelope)) := s.envelope.textual.filter _
  have state : Textual 4 (style.state s.state) := by
    unfold Style.state
    cases holds : s.state.contents with
    | none => exact .text _
    | some t => exact .record (by simp) (List.forall_mem_singleton.mpr (textual_contents holds))
  refine .record (by simp) ?_
  simp only [List.forall_mem_cons]
  exact ⟨envelope.mono (by decide), state, nofun⟩

theorem fits_name (style : Style) (kind : StateKind) :
    (style.name kind).utf8ByteSize < UInt32.size := by
  unfold Style.name
  split <;> cases kind <;> decide

theorem fits_contents {s : State} {t : Tree} (holds : s.contents = some t)
    (fits : MessagePack.fits t) : MessagePack.fits (style.contents s t) := by
  cases s with
  | providerSelected sel => cases holds; exact fits_thin rfl fits
  | awaitingCycle3 family i =>
    cases holds
    have identity := MessagePack.fits_entry.mp fits
    exact MessagePack.fits_entry.mpr ⟨identity.1, fits_thin rfl identity.2⟩
  | _ => exact fits_thin (State.contents_eq_record holds) fits

theorem fits_state {s : State} (fits : MessagePack.fits (toTree s)) :
    MessagePack.fits (style.state s) := by
  have name := fits_name style s.kind
  unfold Style.state
  cases holds : s.contents with
  | none => simpa [MessagePack.fits] using name
  | some t =>
    rw [State.toTree_of_contents holds, MessagePack.fits_entry] at fits
    exact MessagePack.fits_entry.mpr ⟨name, fits_contents holds fits.2⟩

theorem fits_write {s : Session} (fits : MessagePack.fits (toTree s)) :
    MessagePack.fits (style.write s) := by
  have written : toTree s = .record [("envelope", toTree s.envelope), ("state", toTree s.state)] :=
    rfl
  rw [written, MessagePack.fits_record] at fits
  simp only [List.forall_mem_cons] at fits
  obtain ⟨two, ⟨envelopeName, envelope⟩, ⟨stateName, state⟩, none⟩ := fits
  refine MessagePack.fits_record.mpr ⟨two, ?_⟩
  simp only [List.forall_mem_cons]
  exact ⟨⟨envelopeName, fits_thin rfl envelope⟩, ⟨stateName, fits_state state⟩, nofun⟩

end SignInJourney.Legacy

namespace SignInJourney.Record

open Legacy

/-- A session of the first layout is decoded by being brought to the current one. -/
theorem ofTree_legacy {version : Option Nat} {session upgraded : Tree} {s : Session}
    (first : ∀ n ∈ version, n = 1) (textual : Tree.Textual 5 session)
    (current : upgrade session = .ok upgraded) (read : ofTree? .json upgraded = some s) :
    ofTree (stored version session) = .ok s := by
  have small : ∀ n ∈ version, n < 0x80 := fun n given => by rw [first n given]; decide
  have known : version? (stored version session) = some 1 := by
    rw [version?_stored small]
    cases version with
    | none => rfl
    | some n => rw [first n rfl]; rfl
  have plain : legacy? (stored version session) = some session := by
    rw [legacy?, state_stored]
    exact textual.plain?_eq
  have older : (1 : UInt32) ≠ currentVersion := by decide
  simp only [ofTree, known, older, if_false, if_true, decodeLegacy, plain, current, read]

theorem decode_first {version : Option Nat} {session upgraded : Tree} {s : Session}
    (first : ∀ n ∈ version, n = 1) (textual : Tree.Textual 5 session)
    (fits : MessagePack.fits session) (current : upgrade session = .ok upgraded)
    (read : ofTree? .json upgraded = some s) :
    decode (MessagePack.write (stored version session)) = .ok s := by
  have small : ∀ n ∈ version, n < 0x80 := fun n given => by rw [first n given]; decide
  have decoded := decode_write small textual fits []
  rwa [List.append_nil, ofTree_legacy first textual current read] at decoded

/-- Records of the first layout are decoded to the session that was written, whatever was left out
and whatever the states were called then. In particular the upgrade changes nothing about a current
session, which is read alike under either version. -/
theorem decode_legacy (s : Session) (fits : MessagePack.fits (toTree s)) :
    (∀ style : Style,
      decode (MessagePack.write (stored style.version (style.write s))) = .ok s) ∧
    upgrade (toTree s) = .ok (toTree s) ∧
    decode (MessagePack.write (stored (some 1) (toTree s))) = decode (encode s) := by
  refine ⟨fun style => ?_, upgrade_current s, ?_⟩
  · obtain ⟨upgraded, current, read⟩ := upgrade_write style s
    have first : ∀ n ∈ style.version, n = 1 := by
      unfold Style.version
      split <;> simp
    exact decode_first first (textual_write style s) (fits_write fits) current read
  · have decoded : decode (encode s) = .ok s := by simpa using decode_encode_append fits []
    rw [decoded]
    exact decode_first (by simp) s.textual fits (upgrade_current s) (ofTree?_toTree .json s)

/-- A user who had selected a country, before its matching service was settled at selection. -/
def selectedSession : Session :=
  lastSession.withState (.countrySelected
    { country := "https://country.test", levels := [.two], matchingService := none })

/-- The oldest form of its state: a former name, and no member that can be left out. -/
example : Style.state ⟨false, true, fun _ => true⟩ selectedSession.state =
    .record [("CountrySelected", .record [("country_entity_id", .text "https://country.test"),
      ("levels_of_assurance", .list [.text "LEVEL_2"])])] := rfl

theorem decode_legacy_selectedSession :
    MessagePack.fits (toTree selectedSession) ∧
    (∀ style : Style, decode (MessagePack.write
      (stored style.version (style.write selectedSession))) = .ok selectedSession) ∧
    upgrade (toTree selectedSession) = .ok (toTree selectedSession) ∧
    decode (MessagePack.write (stored (some 1) (toTree selectedSession))) =
      decode (encode selectedSession) := by
  have fits : MessagePack.fits (toTree selectedSession) := by decide +kernel
  exact ⟨fits, decode_legacy selectedSession fits⟩

end SignInJourney.Record
