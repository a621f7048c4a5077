import ScriptedSql.Proofs.Session.History

/-!
Contract: the steps that write a script, those that call, and the others.

Owns:
- which steps bring nothing to a mock but calls: all but declarations, builder calls,
  switches of the order and the closing of statements;
- which steps prepare, so that the calls of all others are of other kinds;
- which steps write: declarations and builder calls;
- the agreement of all three with the events that steps bring.
-/

namespace ScriptedSql

namespace Event

/-- A call, or the shutting down of a mock that follows one. -/
def isCalling : Event → Bool
  | .call _ => true
  | .shutDown => true
  | _ => false

/-- A call of an allowed kind, or the shutting down of a mock that follows one. -/
def IsCallOf (allowed : CallKind → Prop) : Event → Prop
  | .call made => allowed made.kind
  | .shutDown => True
  | _ => False

private theorem IsCallOf.imp {allowed wider : CallKind → Prop} {event : Event}
    (isCall : event.IsCallOf allowed) (widens : ∀ kind, allowed kind → wider kind) :
    event.IsCallOf wider := by
  cases event with
  | call call => exact widens call.kind isCall
  | _ => exact isCall

theorem IsCallOf.isCalling {allowed : CallKind → Prop} {event : Event}
    (isCall : event.IsCallOf allowed) : event.isCalling = true := by
  cases event with
  | call call => rfl
  | shutDown => rfl
  | _ => exact isCall.elim

private theorem playing_of_calling {event : Event} (calling : event.isCalling = true) :
    event.isScripting = false := by
  cases event with
  | call call => rfl
  | shutDown => rfl
  | _ => contradiction

end Event

namespace Step

def isCalling : Step → Bool
  | .setOrdered _ _ => false
  | .expect _ _ _ _ _ => false
  | .follow _ _ _ _ => false
  | .adjust _ _ => false
  | .closeStatement _ => false
  | _ => true

/-- The connection and the text of a prepare, whichever kind of statement it makes. -/
def prepares? : Step → Option (String × String)
  | .prepare connection sql _ => some (connection, sql)
  | .prepareText connection sql _ => some (connection, sql)
  | _ => none

/-- Declarations and builder calls write the script, all other steps play it. -/
def isScripting : Step → Bool
  | .expect _ _ _ _ _ => true
  | .follow _ _ _ _ => true
  | .adjust _ _ => true
  | _ => false

end Step

namespace Visit

def IsCallOf (visit : Visit) (allowed : CallKind → Prop) : Prop :=
  ∀ event ∈ visit.events, event.IsCallOf allowed

def IsPlaying (visit : Visit) : Prop :=
  ∀ event ∈ visit.events, event.isScripting = false

end Visit

namespace Request

def kind : Request → CallKind
  | .replay _ _ => .query
  | .exec _ _ => .exec
  | .begin => .begin
  | .commit => .commit
  | .rollback => .rollback
  | .ping => .ping
  | .close => .close
  | .fetch _ _ => .query
  | .fetchFirst _ _ => .query
  | .execute _ _ => .exec
  | .insert _ _ => .exec
  | .batch _ => .exec
  | .savepoint _ => .exec
  | .rollbackTo _ => .exec
  | .release _ => .exec

private theorem batchEvents_callOf (statements : List (String × List Value)) (mock : Mock) :
    ∀ event ∈ batchEvents mock statements, event.IsCallOf (· = .exec) := by
  induction statements generalizing mock with
  | nil =>
      intro event isThere
      contradiction
  | cons statement rest inductionHypothesis =>
      obtain ⟨sql, parameters⟩ := statement
      unfold batchEvents
      rcases Exchange.execute sql parameters mock with ⟨error | count, after⟩
      · exact List.forall_mem_singleton.mpr rfl
      · exact List.forall_mem_cons.mpr ⟨rfl, inductionHypothesis after⟩

/-- A request only makes calls of its kind, and shuts the mock down when it is a close. -/
theorem events_callOf (request : Request) (mock : Mock) :
    ∀ event ∈ request.events mock, event.IsCallOf (· = request.kind) := by
  cases request with
  | ping =>
      unfold events
      cases mock.config.monitorPings with
      | true => exact List.forall_mem_singleton.mpr rfl
      | false => exact fun event isThere => absurd isThere List.not_mem_nil
  | close =>
      refine List.forall_mem_cons.mpr ⟨rfl, ?_⟩
      cases Exchange.saysClosed (Exchange.dispatch .close none [] mock).1 with
      | true => exact fun event isThere => absurd isThere List.not_mem_nil
      | false => exact List.forall_mem_singleton.mpr trivial
  | batch statements => exact batchEvents_callOf statements mock
  | _ => exact List.forall_mem_singleton.mpr rfl

private theorem kind_ne_prepare (request : Request) : request.kind ≠ .prepare := by
  cases request <;> exact nofun

end Request

namespace Table

variable {α β : Type}

theorem mem_through_iff {table : Table α} {name : String} {use : α → List β} {item : β} :
    item ∈ table.through name use ↔
      ∃ handle, table.get? name = some handle ∧ item ∈ use handle := by
  unfold through
  cases table.get? name with
  | none => simp
  | some handle => simp

theorem forall_mem_through {table : Table α} {name : String} {use : α → List β}
    {good : β → Prop} (all : ∀ handle, ∀ item ∈ use handle, good item) :
    ∀ item ∈ table.through name use, good item := by
  intro item isThere
  obtain ⟨handle, -, isItem⟩ := mem_through_iff.mp isThere
  exact all handle item isItem

end Table

namespace Session

private theorem requestVisit_callOf (session : Session) (id : MockId) (request : Request)
    {allowed : CallKind → Prop} (isAllowed : ∀ kind, kind ≠ .prepare → allowed kind) :
    ∀ visit ∈ [session.requestVisit id request], visit.IsCallOf allowed := by
  refine List.forall_mem_singleton.mpr fun event isThere => ?_
  refine (request.events_callOf _ event isThere).imp fun kind isKind => isAllowed kind ?_
  rw [isKind]
  exact request.kind_ne_prepare

/-- Steps that only call bring nothing but calls, and only those that prepare bring calls
to prepare. -/
theorem visits_callOf (session : Session) {step : Step} (calling : step.isCalling = true) :
    ∀ visit ∈ session.visits step,
      visit.IsCallOf fun kind => kind = .prepare → step.prepares?.isSome = true := by
  have single (id : MockId) {call : Call} {wanted : Prop} (different : call.kind ≠ .prepare) :
      ∀ visit ∈ [(⟨id, [.call call]⟩ : Visit)],
        visit.IsCallOf fun kind => kind = .prepare → wanted :=
    List.forall_mem_singleton.mpr
      (List.forall_mem_singleton.mpr fun same => absurd same different)
  have asked (id : MockId) (request : Request) {wanted : Prop} :
      ∀ visit ∈ [session.requestVisit id request],
        visit.IsCallOf fun kind => kind = .prepare → wanted :=
    session.requestVisit_callOf id request fun kind different same => absurd same different
  have prepares (id : MockId) (call : Call) :
      ∀ visit ∈ [(⟨id, [.call call]⟩ : Visit)],
        visit.IsCallOf fun kind => kind = .prepare → true = true :=
    List.forall_mem_singleton.mpr (List.forall_mem_singleton.mpr fun _ => rfl)
  have idle {allowed : CallKind → Prop} : ∀ visit ∈ ([] : List Visit), visit.IsCallOf allowed :=
    fun _ isThere => absurd isThere List.not_mem_nil
  cases step with
  | setOrdered mock ordered => contradiction
  | expect mock kind sql adjustments asExpectation => contradiction
  | follow expectation kind adjustments asExpectation => contradiction
  | adjust expectation adjustments => contradiction
  | closeStatement name => contradiction
  | drop kind name =>
      cases kind with
      | transaction => exact Table.forall_mem_through fun id => single id nofun
      | _ => exact idle
  | query channel arguments =>
      cases channel <;> exact Table.forall_mem_through fun _ => asked _ _
  | openCursor channel arguments asCursor =>
      cases channel <;> exact Table.forall_mem_through fun _ => single _ nofun
  | exec channel arguments =>
      cases channel <;> exact Table.forall_mem_through fun _ => asked _ _
  | prepare connection sql asStatement => exact Table.forall_mem_through fun id => prepares id _
  | request connection request => exact Table.forall_mem_through fun id => asked id request
  | isValid connection => exact Table.forall_mem_through fun id => asked id .ping
  | closeConnection connection => exact Table.forall_mem_through fun id => asked id .close
  | prepareText connection sql asPrepared =>
      exact Table.forall_mem_through fun id => prepares id _
  | fetchPrepared connection prepared parameters =>
      exact Table.forall_mem_through fun id => Table.forall_mem_through fun text =>
        asked id (.fetch text.sql parameters)
  | executePrepared connection prepared parameters =>
      exact Table.forall_mem_through fun id => Table.forall_mem_through fun text =>
        asked id (.execute text.sql parameters)
  | beginTransaction connection asTransaction level =>
      apply Table.forall_mem_through
      intro id
      have noPrepare : (Call.plain .begin).kind ≠ .prepare := nofun
      refine List.forall_mem_cons.mpr ⟨single id noPrepare _ List.mem_cons_self, ?_⟩
      cases (Exchange.begin (session.world.mockAt id)).1 with
      | error error => exact idle
      | ok begun => exact Table.forall_mem_through fun former => single former nofun
  | requestWithin transaction request =>
      exact Table.forall_mem_through fun id => asked id request
  | commitTransaction transaction => exact Table.forall_mem_through fun id => asked id .commit
  | rollbackTransaction transaction =>
      exact Table.forall_mem_through fun id => asked id .rollback
  | _ => exact idle

/-- A step that may only call does nothing else to any mock. -/
theorem visits_calling (session : Session) {step : Step} (calling : step.isCalling = true) :
    ∀ visit ∈ session.visits step, ∀ event ∈ visit.events, event.isCalling = true :=
  fun visit isVisit event isEvent =>
    (session.visits_callOf calling visit isVisit event isEvent).isCalling

/-- Steps that play the script bring no event that writes it. -/
theorem visits_playing (session : Session) {step : Step} (playing : step.isScripting = false) :
    ∀ visit ∈ session.visits step, visit.IsPlaying := by
  have single (id : MockId) {event : Event} (eventPlaying : event.isScripting = false) :
      ∀ visit ∈ [(⟨id, [event]⟩ : Visit)], visit.IsPlaying :=
    List.forall_mem_singleton.mpr (List.forall_mem_singleton.mpr eventPlaying)
  by_cases calling : step.isCalling = true
  · intro visit isVisit event isEvent
    exact Event.playing_of_calling (session.visits_calling calling visit isVisit event isEvent)
  · cases step with
    | setOrdered mock ordered => exact Table.forall_mem_through fun id => single id rfl
    | closeStatement name => exact Table.forall_mem_through fun _ => single _ rfl
    | _ => contradiction

theorem mem_eventsAt_iff {session : Session} {step : Step} {id : MockId} {event : Event} :
    event ∈ session.eventsAt step id ↔
      ∃ visit ∈ session.visits step, visit.mock = id ∧ event ∈ visit.events := by
  rw [eventsAt, List.mem_flatMap]
  constructor
  · rintro ⟨visit, isVisit, isEvent⟩
    by_cases here : visit.mock = id
    · rw [if_pos here] at isEvent
      exact ⟨visit, isVisit, here, isEvent⟩
    · rw [if_neg here] at isEvent
      contradiction
  · rintro ⟨visit, isVisit, here, isEvent⟩
    refine ⟨visit, isVisit, ?_⟩
    rw [if_pos here]
    exact isEvent

/-- Calls to prepare come from steps that prepare. -/
theorem prepares_of_mem_eventsAt {session : Session} {step : Step} {id : MockId} {call : Call}
    (isThere : .call call ∈ session.eventsAt step id) (toPrepare : call.kind = .prepare) :
    step.prepares?.isSome = true := by
  obtain ⟨visit, isVisit, -, isEvent⟩ := mem_eventsAt_iff.mp isThere
  have elsewhere {α : Type} {table : Table α} {name : String} {use : α → List Visit}
      (without : ∀ handle, ∀ visit ∈ use handle, .call call ∉ visit.events)
      (isVisit : visit ∈ table.through name use) : False :=
    Table.forall_mem_through without visit isVisit isEvent
  by_cases calling : step.isCalling = true
  · exact session.visits_callOf calling visit isVisit _ isEvent toPrepare
  · cases step with
    | setOrdered mock ordered => exact (elsewhere (by simp) isVisit).elim
    | expect mock kind sql adjustments asExpectation =>
        refine (elsewhere (fun handle => ?_) isVisit).elim
        cases sql.mapM (session.world.mockAt handle).compile with
        | error error => simp
        | ok matcher => simp [declareVisit]
    | follow expectation kind adjustments asExpectation =>
        exact (elsewhere (by simp [declareVisit]) isVisit).elim
    | adjust expectation adjustments => exact (elsewhere (by simp) isVisit).elim
    | closeStatement name => exact (elsewhere (by simp) isVisit).elim
    | _ => exact absurd rfl calling

/-- The script of a mock is written by declarations and builder calls only. -/
theorem eventsAt_playing (session : Session) {step : Step} (playing : step.isScripting = false)
    (id : MockId) : ∀ event ∈ session.eventsAt step id, event.isScripting = false := by
  intro event isThere
  obtain ⟨visit, isVisit, -, isEvent⟩ := mem_eventsAt_iff.mp isThere
  exact session.visits_playing playing visit isVisit event isEvent

end Session

end ScriptedSql
