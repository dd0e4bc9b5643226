import SalesforceTikTok.Concurrency.Refinement
import SalesforceTikTok.EventSet.CRMEventSetManager

/-!
# The event set protocol

The points at which a call of the manager can be suspended, and what each
awaits. The point system has the same runs as the programs (`protocol_refines`).
-/

namespace SalesforceTikTok

open Concurrency

inductive Lister where
  | list
  | provision (eventSetName : Option String)
  | select (eventSetId : String)
  deriving DecidableEq

inductive Creator where
  | create
  | provision
  deriving DecidableEq

/-- Where a call of the manager is suspended. The source of a store tells its caller. -/
inductive EventSetPoint where
  | listing (k : Lister) (a accessToken : String)
  | naming (k : Creator) (a accessToken : String)
  | creating (k : Creator) (a accessToken name : String)
  | timingCreated (k : Creator) (a : String) (response : CRMCreateResponse)
  | timingUpdated (k : Creator) (a : String) (response : CRMCreateResponse) (created : Int)
  | upserting (a : String) (eventSet : CRMEventSet) (source : EventSetSource)
  | caching (a : String) (eventSet : CRMEventSet) (source : EventSetSource)
  | gettingCache (a : String)
  | selecting (a : String)
  | warming (a eventSetId : String)
  | ended (outcome : Except JsError EventSetResult)
  deriving DecidableEq

namespace CRMEventSetManager

variable (M : CRMEventSetManager)

/-! ## The program that remains at a point -/

/-- The `catch` of `provision`. -/
def provisioned (result : EventSetProg ProvisionResult) : EventSetProg EventSetResult :=
  .provisioned <$> tryCatch result fun error => pure (.error error.message)

/-- `provision` with the sets listed. -/
def provisionFrom (a accessToken : String) (eventSetName : Option String) :
    List CRMEventSet → EventSetProg ProvisionResult
  | [] => do
      let created ← M.create a accessToken eventSetName
      store a created .autoCreated
      return .createdNew created
  | [eventSet] => do
      store a eventSet .autoSelected
      return .selectedExisting eventSet
  | existing => return .multipleFound existing

/-- `select` with the sets listed. -/
def selectFrom (a eventSetId : String) (sets : List CRMEventSet) : EventSetProg CRMEventSet :=
  match sets.find? fun eventSet => eventSet.eventSetId = eventSetId with
  | none => throw (notFound a eventSetId)
  | some selected => do
      store a selected .manuallySelected
      return selected

/-- The set `create` returns. -/
def createdSet (a : String) (response : CRMCreateResponse) (created updated : Int) :
    CRMEventSet where
  eventSetId := response.eventSetId
  name := response.name
  advertiserId := a
  createTime := created / 1000
  updateTime := updated / 1000

/-- `resolve` after the cache. -/
def afterCache (a : String) : Option String → EventSetProg String
  | some cached => return cached
  | none => do
      let row : Option String ← manage (.selectId a)
      match row with
      | some id =>
          warmCache a id
          return id
      | none => M.fallback a

/-- Where `resolve` ends without a row. -/
def fallbackPoint (a : String) : EventSetPoint :=
  match M.env.TIKTOK_CRM_EVENT_SET_ID with
  | some id => if id = "" then .ended (.error (noEventSet a)) else .ended (.ok (.resolved id))
  | none => .ended (.error (noEventSet a))

end CRMEventSetManager

open CRMEventSetManager

namespace EventSetSource

def stored (source : EventSetSource) (eventSet : CRMEventSet) : EventSetPoint :=
  match source with
  | .autoCreated => .ended (.ok (.provisioned (.createdNew eventSet)))
  | .autoSelected => .ended (.ok (.provisioned (.selectedExisting eventSet)))
  | .manuallySelected | .envFallback => .ended (.ok (.selected eventSet))

def failed (source : EventSetSource) (error : JsError) : EventSetPoint :=
  match source with
  | .autoCreated | .autoSelected => .ended (.ok (.provisioned (.error error.message)))
  | .manuallySelected | .envFallback => .ended (.error error)

def storing (source : EventSetSource) (eventSet : CRMEventSet) (store : EventSetProg Unit) :
    EventSetProg EventSetResult :=
  match source with
  | .autoCreated => provisioned (store >>= fun _ => return .createdNew eventSet)
  | .autoSelected => provisioned (store >>= fun _ => return .selectedExisting eventSet)
  | .manuallySelected | .envFallback => .selected <$> (store >>= fun _ => return eventSet)

end EventSetSource

namespace Creator

def created (k : Creator) (a : String) (eventSet : CRMEventSet) : EventSetPoint :=
  match k with
  | .create => .ended (.ok (.created eventSet))
  | .provision => .upserting a eventSet .autoCreated

def failed (k : Creator) (error : JsError) : EventSetPoint :=
  match k with
  | .create => .ended (.error error)
  | .provision => .ended (.ok (.provisioned (.error error.message)))

def making (k : Creator) (a : String) (create : EventSetProg CRMEventSet) :
    EventSetProg EventSetResult :=
  match k with
  | .create => .created <$> create
  | .provision =>
      provisioned (create >>= fun created => do
        store a created .autoCreated
        return .createdNew created)

def start (k : Creator) (a accessToken : String) : Option String → EventSetPoint
  | some name => .creating k a accessToken name
  | none => .naming k a accessToken

end Creator

namespace Lister

def listed (k : Lister) (a accessToken : String) (sets : List CRMEventSet) : EventSetPoint :=
  match k with
  | .list => .ended (.ok (.listed sets))
  | .provision eventSetName =>
      match sets with
      | [] => Creator.provision.start a accessToken eventSetName
      | [eventSet] => .upserting a eventSet .autoSelected
      | _ => .ended (.ok (.provisioned (.multipleFound sets)))
  | .select eventSetId =>
      match sets.find? fun eventSet => eventSet.eventSetId = eventSetId with
      | none => .ended (.error (notFound a eventSetId))
      | some selected => .upserting a selected .manuallySelected

def failed (k : Lister) (error : JsError) : EventSetPoint :=
  match k with
  | .list | .select _ => .ended (.error error)
  | .provision _ => .ended (.ok (.provisioned (.error error.message)))

def reading (M : CRMEventSetManager) (k : Lister) (a accessToken : String)
    (list : EventSetProg (List CRMEventSet)) : EventSetProg EventSetResult :=
  match k with
  | .list => .listed <$> list
  | .provision eventSetName =>
      provisioned (list >>= M.provisionFrom a accessToken eventSetName)
  | .select eventSetId => .selected <$> (list >>= selectFrom a eventSetId)

end Lister

namespace EventSetPoint

variable (M : CRMEventSetManager)

def program : EventSetPoint → EventSetProg EventSetResult
  | .listing k a accessToken => k.reading M a accessToken (list a accessToken)
  | .naming k a accessToken => k.making a (M.create a accessToken none)
  | .creating k a accessToken name => k.making a (createNamed a accessToken name)
  | .timingCreated k a response =>
      k.making a (manage .now >>= fun created => manage .now >>= fun updated =>
        return createdSet a response created updated)
  | .timingUpdated k a response created =>
      k.making a (manage .now >>= fun updated => return createdSet a response created updated)
  | .upserting a eventSet source => source.storing eventSet (store a eventSet source)
  | .caching a eventSet source => source.storing eventSet (warmCache a eventSet.eventSetId)
  | .gettingCache a => .resolved <$> M.resolve a
  | .selecting a => .resolved <$> M.afterCache a none
  | .warming a id => .resolved <$> (warmCache a id >>= fun _ => return id)
  | .ended (.ok result) => return result
  | .ended (.error error) => throw error

def view : EventSetPoint →
    View EventSetCmd EventSetCmd.Reply JsError EventSetResult EventSetPoint
  | .listing k a accessToken =>
      .awaits (.listSets a accessToken) fun
        | .ok response =>
            if response.code ≠ 0 then
              k.failed (refused response.code response.message "CRM event set list")
            else k.listed a accessToken (response.list.getD [])
        | .error error => k.failed error
  | .naming k a accessToken =>
      .awaits .now fun
        | .ok now => .creating k a accessToken (M.defaultName now)
        | .error error => k.failed error
  | .creating k a accessToken name =>
      .awaits (.createSet a accessToken name) fun
        | .ok response =>
            if response.code ≠ 0 then
              k.failed (refused response.code response.message "CRM event set create")
            else .timingCreated k a response
        | .error error => k.failed error
  | .timingCreated k a response =>
      .awaits .now fun
        | .ok created => .timingUpdated k a response created
        | .error error => k.failed error
  | .timingUpdated k a response created =>
      .awaits .now fun
        | .ok updated => k.created a (createdSet a response created updated)
        | .error error => k.failed error
  | .upserting a eventSet source =>
      .awaits (.upsertSet (storedRow a eventSet source)) fun
        | .ok _ => .caching a eventSet source
        | .error error => source.failed error
  | .caching a eventSet source =>
      .awaits (.cacheSet (cacheKey a) eventSet.eventSetId EVENT_SET_CACHE_TTL) fun _ =>
        source.stored eventSet
  | .gettingCache a =>
      .awaits (.cacheGet (cacheKey a)) fun
        | .ok (some id) => if id = "" then .selecting a else .ended (.ok (.resolved id))
        | .ok none => .selecting a
        | .error _ => .selecting a
  | .selecting a =>
      .awaits (.selectId a) fun
        | .ok (some id) => .warming a id
        | .ok none => M.fallbackPoint a
        | .error error => .ended (.error error)
  | .warming a id =>
      .awaits (.cacheSet (cacheKey a) id EVENT_SET_CACHE_TTL) fun _ => .ended (.ok (.resolved id))
  | .ended outcome => .ended outcome

end EventSetPoint

def EventSetCall.startPoint : EventSetCall → EventSetPoint
  | .list a accessToken => .listing .list a accessToken
  | .create a accessToken name => Creator.create.start a accessToken name
  | .provision a accessToken name => .listing (.provision name) a accessToken
  | .select a id accessToken => .listing (.select id) a accessToken
  | .resolve a => .gettingCache a

def CRMEventSetManager.protocol (M : CRMEventSetManager) :
    System eventSetRuntime EventSetResult EventSetCall EventSetPoint where
  view := EventSetPoint.view M
  launch call w := some (call.startPoint, w)

/-! ## The points are the programs -/

theorem EventSetSource.storing_await (source : EventSetSource) (eventSet : CRMEventSet)
    (cmd : EventSetCmd) (resume : Except JsError cmd.Reply → EventSetProg Unit) :
    source.storing eventSet (.await cmd resume) =
      .await cmd fun reply => source.storing eventSet (resume reply) := by
  cases source <;> rfl

theorem EventSetSource.stored_program (M : CRMEventSetManager) (source : EventSetSource)
    (eventSet : CRMEventSet) :
    (source.stored eventSet).program M = source.storing eventSet (pure ()) := by
  cases source <;> rfl

theorem EventSetSource.failed_program (M : CRMEventSetManager) (source : EventSetSource)
    (eventSet : CRMEventSet) (error : JsError) :
    (source.failed error).program M = source.storing eventSet (throw error) := by
  cases source <;> rfl

theorem Creator.making_await (k : Creator) (a : String) (cmd : EventSetCmd)
    (resume : Except JsError cmd.Reply → EventSetProg CRMEventSet) :
    k.making a (.await cmd resume) = .await cmd fun reply => k.making a (resume reply) := by
  cases k <;> rfl

theorem Creator.created_program (M : CRMEventSetManager) (k : Creator) (a : String)
    (eventSet : CRMEventSet) :
    (k.created a eventSet).program M = k.making a (pure eventSet) := by
  cases k <;> rfl

theorem Creator.failed_program (M : CRMEventSetManager) (k : Creator) (a : String)
    (error : JsError) : (k.failed error).program M = k.making a (throw error) := by
  cases k <;> rfl

theorem Creator.start_program (M : CRMEventSetManager) (k : Creator) (a accessToken : String)
    (name : Option String) :
    (k.start a accessToken name).program M = k.making a (M.create a accessToken name) := by
  cases name <;> rfl

theorem Lister.reading_await (M : CRMEventSetManager) (k : Lister) (a accessToken : String)
    (cmd : EventSetCmd) (resume : Except JsError cmd.Reply → EventSetProg (List CRMEventSet)) :
    k.reading M a accessToken (.await cmd resume) =
      .await cmd fun reply => k.reading M a accessToken (resume reply) := by
  cases k <;> rfl

theorem Lister.failed_program (M : CRMEventSetManager) (k : Lister) (a accessToken : String)
    (error : JsError) :
    (k.failed error).program M = k.reading M a accessToken (throw error) := by
  cases k <;> rfl

theorem Lister.listed_program (M : CRMEventSetManager) (k : Lister) (a accessToken : String)
    (sets : List CRMEventSet) :
    (k.listed a accessToken sets).program M = k.reading M a accessToken (pure sets) := by
  cases k with
  | list => rfl
  | provision name =>
      match sets with
      | [] => exact Creator.provision.start_program M a accessToken name
      | [eventSet] => rfl
      | _ :: _ :: _ => rfl
  | select id =>
      show EventSetPoint.program M (match sets.find? _ with | none => _ | some _ => _) =
        EventSetResult.selected <$> selectFrom a id sets
      unfold selectFrom
      cases sets.find? fun eventSet => eventSet.eventSetId = id with
      | none => rfl
      | some selected => rfl

theorem CRMEventSetManager.fallback_program (M : CRMEventSetManager) (a : String) :
    (M.fallbackPoint a).program M = EventSetResult.resolved <$> M.fallback a := by
  unfold fallbackPoint fallback
  cases M.env.TIKTOK_CRM_EVENT_SET_ID with
  | none => rfl
  | some id =>
      by_cases empty : id = ""
      · simp only [if_pos empty]
        rfl
      · simp only [if_neg empty]
        rfl

theorem CRMEventSetManager.provision_eq (M : CRMEventSetManager) (a accessToken : String)
    (name : Option String) :
    EventSetResult.provisioned <$> M.provision a accessToken name =
      provisioned (list a accessToken >>= M.provisionFrom a accessToken name) := by
  have same : (fun existing => match existing with
      | [] => do
          let created ← M.create a accessToken name
          store a created .autoCreated
          return .createdNew created
      | [eventSet] => do
          store a eventSet .autoSelected
          return .selectedExisting eventSet
      | _ => return .multipleFound existing) = M.provisionFrom a accessToken name := by
    funext existing
    match existing with
    | [] => rfl
    | [eventSet] => rfl
    | _ :: _ :: _ => rfl
  rw [← same]
  rfl

theorem CRMEventSetManager.program_eq (M : CRMEventSetManager) (call : EventSetCall) :
    M.program call = call.startPoint.program M := by
  cases call with
  | create a accessToken name => exact (Creator.create.start_program M a accessToken name).symm
  | list a accessToken => rfl
  | provision a accessToken name => exact M.provision_eq a accessToken name
  | select a id accessToken => rfl
  | resolve a => rfl

namespace EventSetPoint

variable {M : CRMEventSetManager}

/-- A listing that awaits a command, shown to its scheduler. -/
theorem reading_view {k : Lister} {a accessToken : String} {cmd : EventSetCmd}
    {resume : Except JsError cmd.Reply → EventSetProg (List CRMEventSet)}
    {next : Except JsError cmd.Reply → EventSetPoint}
    (ok : ∀ value, k.reading M a accessToken (resume (.ok value)) = (next (.ok value)).program M)
    (error : ∀ e, k.reading M a accessToken (resume (.error e)) =
      (next (.error e)).program M) :
    (k.reading M a accessToken (.await cmd resume)).view =
      (View.awaits cmd next).map (program M) := by
  rw [Lister.reading_await]
  exact View.awaits_ext ok error

private theorem making_view {k : Creator} {a : String} {cmd : EventSetCmd}
    {resume : Except JsError cmd.Reply → EventSetProg CRMEventSet}
    {next : Except JsError cmd.Reply → EventSetPoint}
    (ok : ∀ value, k.making a (resume (.ok value)) = (next (.ok value)).program M)
    (error : ∀ e, k.making a (resume (.error e)) = (next (.error e)).program M) :
    (k.making a (.await cmd resume)).view = (View.awaits cmd next).map (program M) := by
  rw [Creator.making_await]
  exact View.awaits_ext ok error

theorem storing_view {source : EventSetSource} {eventSet : CRMEventSet} {cmd : EventSetCmd}
    {resume : Except JsError cmd.Reply → EventSetProg Unit}
    {next : Except JsError cmd.Reply → EventSetPoint}
    (ok : ∀ value, source.storing eventSet (resume (.ok value)) = (next (.ok value)).program M)
    (error : ∀ e, source.storing eventSet (resume (.error e)) = (next (.error e)).program M) :
    (source.storing eventSet (.await cmd resume)).view =
      (View.awaits cmd next).map (program M) := by
  rw [EventSetSource.storing_await]
  exact View.awaits_ext ok error

theorem view_program (x : EventSetPoint) : (x.program M).view = (x.view M).map (program M) := by
  cases x with
  | listing k a accessToken =>
      refine reading_view (fun response => ?_) fun e => (k.failed_program M a accessToken e).symm
      show k.reading M a accessToken (assertSuccess response.code _ _ >>= _) = _
      unfold assertSuccess
      by_cases code : response.code ≠ 0
      · simp only [if_pos code]
        exact (k.failed_program M a accessToken _).symm
      · simp only [if_neg code]
        exact (k.listed_program M a accessToken _).symm
  | naming k a accessToken =>
      exact making_view (fun _ => rfl) fun e => (k.failed_program M a e).symm
  | creating k a accessToken name =>
      refine making_view (fun response => ?_) fun e => (k.failed_program M a e).symm
      show k.making a (assertSuccess response.code _ _ >>= _) = _
      unfold assertSuccess
      by_cases code : response.code ≠ 0
      · simp only [if_pos code]
        exact (k.failed_program M a _).symm
      · simp only [if_neg code]
        rfl
  | timingCreated k a response =>
      exact making_view (fun _ => rfl) fun e => (k.failed_program M a e).symm
  | timingUpdated k a response created =>
      exact making_view (fun _ => (k.created_program M a _).symm) fun e =>
        (k.failed_program M a e).symm
  | upserting a eventSet source =>
      exact storing_view (fun _ => rfl) fun e => (source.failed_program M eventSet e).symm
  | caching a eventSet source =>
      exact storing_view (fun _ => (source.stored_program M eventSet).symm) fun _ =>
        (source.stored_program M eventSet).symm
  | gettingCache a =>
      refine View.awaits_ext (fun cached => ?_) fun _ => rfl
      cases cached with
      | none => rfl
      | some id =>
          by_cases empty : id = ""
          · subst empty
            rfl
          · have full : truthy (some id) = true := (truthy_some id).mpr empty
            show EventSetResult.resolved <$> (tryCatch
              (if truthy (some id) = true then pure (some id) else pure none : EventSetProg _)
              (fun _ => pure none) >>= M.afterCache a) = _
            simp only [if_pos full, if_neg empty]
            rfl
  | selecting a =>
      refine View.awaits_ext (fun row => ?_) fun _ => rfl
      cases row with
      | none => exact (M.fallback_program a).symm
      | some id => rfl
  | warming a id => exact View.awaits_ext (fun _ => rfl) fun _ => rfl
  | ended outcome => cases outcome <;> rfl

end EventSetPoint

namespace CRMEventSetManager

theorem protocol_refines (M : CRMEventSetManager) :
    Refines M.protocol M.system (EventSetPoint.program M) where
  view := EventSetPoint.view_program
  launch call w := by
    simp only [protocol, system, M.program_eq]
    rfl

end CRMEventSetManager
end SalesforceTikTok
