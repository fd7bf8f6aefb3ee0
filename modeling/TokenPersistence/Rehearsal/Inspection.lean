import TokenPersistence.Descriptions
import TokenPersistence.Rehearsal.Bench

/-!
# Inspections

An access is looked at together with the hints taken from it and with hints that
were put together on their own. Steps cancel tokens, report levels, change the own
hints, and change the collection of the access; after each step all three are
looked at again.
-/

namespace TokenPersistence.Rehearsal

set_option autoImplicit false

inductive InspectionStep where
  | cancel (token : String)
  | cancelAccess
  | cancelChild
  | report (level : CacheLevel)
  | reportOwn (level : CacheLevel)
  | setLevel (sink : String) (level : CacheLevel)
  | withoutExpiry
  | withSink (sink : String)
  | withMessage (message : String)
  | withToken (token : String)
  | setState (collection : String) (bytes : Bytes)
  | failSerialize (collection : String)
  | rejectLoads (collection : String)
  | load (bytes : Bytes) (clearExisting : Bool)

structure HintsView where
  hints : CallHints
  level : Option CacheLevel
  cancelled : Bool

structure AccessView where
  level : Option CacheLevel
  cancelled : Bool
  serialized : Ending (Except Failure Bytes)
  description : String

structure InspectionViews where
  access : AccessView
  taken : HintsView
  own : HintsView

inductive InspectionReport where
  | views (views : InspectionViews)
  | loaded (outcome : Ending (Except Failure Unit))

structure InspectionState where
  own : CallHints
  context : Context Bench

structure Inspection where
  access : AccessPlan
  own : Option HintsPlan
  steps : List InspectionStep

namespace Inspection

def start (inspection : Inspection) : InspectionState where
  own := hintsOf inspection.own
  context :=
    Context.initial Timestamp.epoch
      { shared := default, collections := fun _ => RecordingCollection.empty, nodes := default }

def accessOf (inspection : Inspection) : Access Bench := inspection.access.toAccess

def viewHints (hints : CallHints) (context : Context Bench) : HintsView :=
  ⟨hints, hints.level context, hints.isCancelled context⟩

def viewAccess (access : Access Bench) (context : Context Bench) : AccessView where
  level := access.level context
  cancelled := access.isCancelled context
  serialized := (access.collection.serialize.run.run context).ending
  description := access.describe context

def views (inspection : Inspection) (state : InspectionState) : InspectionViews where
  access := viewAccess inspection.accessOf state.context
  taken := viewHints inspection.accessOf.hints state.context
  own := viewHints state.own state.context

def changeCollection (name : String) (change : RecordingCollection → RecordingCollection)
    (context : Context Bench) : Context Bench :=
  let cell := Bench.collection name
  { context with data := cell.put (change (cell.get context.data)) context.data }

def change (inspection : Inspection) (state : InspectionState) :
    InspectionStep → InspectionState
  | .cancel token => { state with context := state.context.cancel (namedToken token) }
  | .cancelAccess =>
      { state with context := state.context.cancel inspection.accessOf.cancellation }
  | .cancelChild =>
      { state with
        context := state.context.cancel (inspection.accessOf.cancellation.child "child") }
  | .report level =>
      { state with context := inspection.accessOf.hints.report level state.context }
  | .reportOwn level => { state with context := state.own.report level state.context }
  | .setLevel sink level => { state with context := state.context.setLevel ⟨sink⟩ level }
  | .withoutExpiry => { state with own := { state.own with suggestedExpiry := none } }
  | .withSink sink => { state with own := { state.own with sink := some ⟨sink⟩ } }
  | .withMessage message =>
      { state with own := { state.own with disableMessage := some message } }
  | .withToken token =>
      { state with own := { state.own with cancellation := some (namedToken token) } }
  | .setState name bytes =>
      { state with
        context := changeCollection name
          (fun collection => { collection with state := bytes }) state.context }
  | .failSerialize name =>
      { state with
        context := changeCollection name
          (fun collection => { collection with failsSerialize := true }) state.context }
  | .rejectLoads name =>
      { state with
        context := changeCollection name
          (fun collection => { collection with rejectsLoads := true }) state.context }
  | .load _ _ => state

def perform (inspection : Inspection) (state : InspectionState) (step : InspectionStep) :
    InspectionReport × InspectionState :=
  match step with
  | .load bytes clearExisting =>
      let ran := (inspection.accessOf.collection.load bytes clearExisting).run.run state.context
      (.loaded ran.ending, { state with context := ran.state })
  | step =>
      let changed := inspection.change state step
      (.views (inspection.views changed), changed)

def performAll (inspection : Inspection) :
    List InspectionStep → InspectionState → List InspectionReport × InspectionState
  | [], state => ([], state)
  | step :: steps, state =>
      let performed := inspection.perform state step
      let others := inspection.performAll steps performed.2
      (performed.1 :: others.1, others.2)

def run (inspection : Inspection) : List InspectionReport × InspectionViews :=
  let performed := inspection.performAll inspection.steps inspection.start
  (performed.1, inspection.views performed.2)

def key (inspection : Inspection) (part : KeyPart) : Attempt String :=
  part.toProvider inspection.accessOf

end Inspection

end TokenPersistence.Rehearsal
