import SignInJourney.Proofs.Journey.Conduct
import SignInJourney.Proofs.Journey.Refusals

/-!
The order in which handlers do things. Every step that can fail comes before everything that is
reported, committed or sent (`Conduct.Orderly`), so a handler that fails has done nothing; one that
answers has committed at most one state, of its own session, and sent at most one query. A handler
is a chain of checks and then an ending, and its proof goes down the chain: `Sound.check` for each
step that can fail, and `Sound.ending` for the rest, which cannot. With a lookup or a check after
the first report there would be no ending to reach.
-/

namespace SignInJourney

open Failure

namespace Conduct

variable {α β : Type} {room : Prop} {envelope : Envelope}

/-- Nothing has been done by the time that a step fails. What is done after that is at most one
state committed, which is of the session with this envelope, and at most one query sent for it. -/
structure Orderly (envelope : Envelope) (c : Conduct α) : Prop where
  untouched : ∀ f, c.result = .error f → c.acts = []
  committed : ∃ next : Option State,
    c.committed = next.toList.map fun state => { envelope := envelope, state := state }
  sent : ∃ query : Option AttributeQuery, c.sent = query.toList.map (envelope.sessionId, ·)

theorem Orderly.fail (f : Failure) : Orderly envelope (Conduct.fail f : Conduct α) :=
  ⟨fun _ _ => rfl, ⟨none, rfl⟩, ⟨none, rfl⟩⟩

/-- A handler that is orderly, and whose failures are explained. -/
structure Sound (room : Prop) (envelope : Envelope) (c : Conduct α) : Prop
    extends Orderly envelope c where
  explained : Explained room c.result

namespace Sound

theorem mono {room' : Prop} {c : Conduct α} (h : Sound room envelope c) (enough : room' → room) :
    Sound room' envelope c :=
  ⟨h.toOrderly, h.explained.mono enough⟩

theorem fail {r : Refusal} (h : r.OfContent) :
    Sound room envelope (Conduct.fail (.refused r) : Conduct α) :=
  ⟨.fail _, explained_refused h⟩

/-- A step that can fail comes first. -/
theorem check {step : Except Failure α} {f : α → Conduct β} (first : Explained room step)
    (rest : ∀ a, Sound room envelope (f a)) : Sound room envelope (liftM step >>= f) := by
  cases step with
  | ok a => exact rest a
  | error e => exact ⟨.fail e, explained_bind first fun a => (rest a).explained⟩

/-- A step that can fail is all there is. -/
theorem step {step : Except Failure α} (h : Explained room step) :
    Sound room envelope (liftM step : Conduct α) :=
  ⟨⟨fun _ _ => rfl, ⟨none, rfl⟩, ⟨none, rfl⟩⟩, h⟩

/-- The rest cannot fail. -/
theorem ending {c : Conduct α} {answer : α} (answers : c.result = .ok answer)
    (next : Option State) (query : Option AttributeQuery)
    (committed : c.committed =
      next.toList.map fun state => { envelope := envelope, state := state })
    (sent : c.sent = query.toList.map (envelope.sessionId, ·)) : Sound room envelope c := by
  refine ⟨⟨fun f failed => ?_, ⟨next, committed⟩, ⟨query, sent⟩⟩, answers ▸ explained_ok answer⟩
  rw [answers] at failed
  cases failed

theorem map {c : Conduct α} (h : Sound room envelope c) (f : α → β) :
    Sound room envelope (c.map f) := by
  refine ⟨⟨fun e failed => ?_, h.committed, h.sent⟩, explained_map f h.explained⟩
  obtain ⟨acts, result⟩ := c
  cases result with
  | ok a => cases failed
  | error e => exact h.untouched e rfl

end Sound

end Conduct

open Conduct

variable {env : Environment}

namespace Journey

theorem Start.sound_restart {s : Session} : Sound env.HasRoom s.envelope (restart env s) := by
  refine .check Environment.explained_startState fun next => ?_
  split
  · exact .ending rfl (some next) none rfl rfl
  · exact .ending rfl (some next) none rfl rfl

theorem ProviderSelection.sound_select {s : Session} {choice : ProviderChoice} :
    Sound env.HasRoom s.envelope (select env s choice) :=
  .check explained_selection fun _ => .ending rfl (some _) none rfl rfl

namespace ProviderResponse

variable {envelope : Envelope} {sel : ProviderSelection} {r : ProviderResponse}

theorem sound_request : Sound env.HasRoom envelope (request envelope sel) :=
  .ending rfl none none rfl rfl

theorem sound_succeed : Sound env.HasRoom envelope (succeed env envelope sel r) := by
  refine .check explained_checkSuccess fun a => ?_
  refine .check (explained_ofDirectory _) fun t => ?_
  split
  · refine .check explained_matchingService fun service => ?_
    refine .check Environment.explained_query fun query => ?_
    exact .ending rfl (some _) (some query) (committed_reportAll _ _) (sent_reportAll _ _)
  · exact .ending rfl (some _) none (committed_reportAll _ _) (sent_reportAll _ _)

theorem sound_noContext : Sound env.HasRoom envelope (noContext env envelope sel r) := by
  refine .check explained_checkIssuer fun _ => ?_
  exact .check explained_afterNoContext fun _ => .ending rfl (some _) none rfl rfl

theorem sound_authnFailed : Sound env.HasRoom envelope (authnFailed env envelope sel r) :=
  .check explained_checkIssuer fun _ => .ending rfl (some _) none rfl rfl

theorem sound_requesterError : Sound env.HasRoom envelope (requesterError env envelope sel r) :=
  .check explained_checkIssuer fun _ => .ending rfl (some _) none rfl rfl

theorem sound_pause : Sound env.HasRoom envelope (pause env envelope sel r) :=
  .check explained_checkIssuer fun _ => .ending rfl (some _) none rfl rfl

theorem sound_fraud : Sound env.HasRoom envelope (fraud env envelope sel r) := by
  refine .check explained_checkIssuer fun _ => ?_
  refine .check (explained_ofInvalidity _) fun persistentId => ?_
  refine .check (explained_ofInvalidity _) fun eventId => ?_
  exact .check (explained_ofInvalidity _) fun _ => .ending rfl (some _) none rfl rfl

theorem sound_handle : Sound env.HasRoom envelope (handle env envelope sel r) := by
  unfold handle
  split
  · exact sound_fraud.map _
  split
  case h_1 => exact sound_succeed
  case h_2 | h_3 | h_4 => exact sound_noContext.map _
  case h_5 => exact sound_authnFailed.map _
  case h_6 => exact sound_requesterError.map _
  case h_7 => exact sound_pause.map _

end ProviderResponse

namespace Country

variable {envelope : Envelope} {sel : CountrySelection} {r : CountryResponse}

theorem sound_select {s : Session} {country : String} :
    Sound env.HasRoom s.envelope (select env s country) := by
  refine .check explained_checkEnabled fun _ => ?_
  exact .check Environment.explained_matchingServiceFor fun _ => .ending rfl (some _) none rfl rfl

theorem sound_request : Sound env.HasRoom envelope (request env envelope sel) :=
  .ending rfl none none rfl rfl

theorem sound_succeed : Sound env.HasRoom envelope (succeed env envelope sel r) := by
  refine .check explained_checkSuccess fun a => ?_
  refine .check (explained_ofDirectory _) fun t => ?_
  split
  · refine .check explained_matchingService fun service => ?_
    refine .check Environment.explained_query fun query => ?_
    exact .ending rfl (some _) (some query) (committed_reportAll _ _) (sent_reportAll _ _)
  · exact .ending rfl (some _) none (committed_reportAll _ _) (sent_reportAll _ _)

theorem sound_authnFailed : Sound env.HasRoom envelope (authnFailed envelope sel r) :=
  .ending rfl (some _) none rfl rfl

theorem sound_handle : Sound env.HasRoom envelope (handle env envelope sel r) := by
  refine .check explained_checkEnabled fun _ => ?_
  refine .check (explained_ofInvalidity _) fun _ => ?_
  split
  · exact sound_succeed
  all_goals exact sound_authnFailed.map _

end Country

namespace Matching

variable {p : Pending} {r : MatchingResponse}

theorem sound_matched : Sound env.HasRoom p.envelope (matched p r) := by
  refine .check explained_checkResponse fun _ => ?_
  exact .check explained_outcome fun _ => .ending rfl (some _) none rfl rfl

theorem sound_requestAccount {attributes : List String} :
    Sound env.HasRoom p.envelope (requestAccount env p attributes) :=
  .check Environment.explained_query fun _ => .ending rfl (some _) (some _) rfl rfl

theorem sound_unmatched : Sound env.HasRoom p.envelope (unmatched env p r) := by
  refine .check explained_checkResponse fun _ => ?_
  refine .check (explained_ofDirectory _) fun t => ?_
  split
  · exact .ending rfl (some _) none rfl rfl
  unfold createAccountOrEnd
  split
  · exact .ending rfl (some _) none rfl rfl
  · exact sound_requestAccount

theorem sound_accountCreated : Sound env.HasRoom p.envelope (accountCreated p r) := by
  refine .check explained_checkResponse fun _ => ?_
  exact .check explained_outcome fun _ => .ending rfl (some _) none rfl rfl

theorem sound_accountCreationFailed : Sound env.HasRoom p.envelope (accountCreationFailed p) :=
  .ending rfl (some _) none rfl rfl

theorem sound_fail : Sound env.HasRoom p.envelope (fail p) :=
  .ending rfl (some _) none rfl rfl

theorem sound_requesterError : Sound env.HasRoom p.envelope (requesterError p r) :=
  .check explained_checkResponse fun _ => .ending rfl (some _) none rfl rfl

theorem sound_handle : Sound env.HasRoom p.envelope (handle env p r) := by
  unfold handle
  split
  case h_1 | h_2 => exact sound_matched
  case h_3 | h_4 => exact sound_unmatched
  case h_5 => exact sound_accountCreated
  case h_6 => exact sound_accountCreationFailed
  case h_7 => exact sound_requesterError
  case h_8 => exact .fail (.invalid _)

theorem sound_processingDetails :
    Sound ((p.request.sentAt.add? env.policy.waitPeriod).isSome = true) p.envelope
      (processingDetails env p) := by
  refine .check (explained_inRange id) fun deadline => ?_
  dsimp only
  split
  · exact .ending rfl (some _) none rfl rfl
  · exact .ending rfl none none rfl rfl

end Matching

namespace Cycle3

variable {a : Asked}

theorem sound_submit {input : Cycle3Input} : Sound env.HasRoom a.envelope (submit env a input) := by
  refine .check explained_attributeName fun name => ?_
  exact .check Environment.explained_query fun _ => .ending rfl (some _) (some _) rfl rfl

theorem sound_cancel : Sound env.HasRoom a.envelope (cancel a) :=
  .ending rfl (some _) none rfl rfl

end Cycle3

end Journey

end SignInJourney
