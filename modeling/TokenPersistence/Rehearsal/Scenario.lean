import TokenPersistence.Descriptions
import TokenPersistence.Rehearsal.Node

/-!
# Scenarios

A scenario sets up nodes and takes them through steps: hooks, store calls, failures
to come, passing time. Each step is reported with its outcome and with everything
that the recording parts wrote down during it. After each step the caches in memory are
settled.
-/

namespace TokenPersistence.Rehearsal

set_option autoImplicit false

inductive Step where
  | wire (wiring : Wiring)
  | isWired
  | invoke (hook : HookKind) (access : AccessPlan)
  | callHook (hook : HookKind) (access : AccessPlan)
  | clear (account : String)
  | read (key : String) (hints : Option HintsPlan)
  | write (key : String) (bytes : Bytes) (hints : Option HintsPlan)
  | remove (key : String) (hints : Option HintsPlan)
  | failStore (activities : List Activity) (key : Option String)
  | clearStoreFailures
  | storeEntry (key : String)
  | entryCount
  | failShared (operations : List SharedOperation) (key : Option String)
  | failNext (count : Nat)
  | clearSharedFailures
  | script (behaviours : List Behaviour)
  | sharedEntry (key : String)
  | sharedOperations (forget : Bool)
  | cancel (token : String)
  | advance (duration : Duration)
  | setTime (time : Timestamp)
  | sleep (nanos : Nat)
  | drain (latestFirst : Bool) (count : Option Nat)
  | tokens (name : String) (state : Option Bytes) (failsSerialize rejectsLoads : Bool)
  | setLevel (sink : String) (level : CacheLevel)
  | l1Enabled
  | l1Get (key : String)
  | l1Remove (key : String)
  | l1Clear
  | l1Stats
  | l1Expiry (hints : Option HintsPlan)
  | entryOptions (hints : Option HintsPlan)
  | lifetime (hints : Option HintsPlan)
  | describeOptions

inductive Answer where
  | nothing
  | blob (bytes : Option Bytes)
  | flag (value : Bool)
  | count (value : Nat)
  | lifetime (duration : Option Duration)
  | entryOptions (options : EntryOptions)
  | stats (entries weight : Nat)
  | calls (operations : List SharedCall)
  | drained (finished : List Bool)
  | text (value : String)
  | unsupported

structure CollectionChange where
  name : String
  state : Bytes
  newLoads : List (Bytes × Bool)
  deriving DecidableEq, Repr

structure Report where
  outcome : Ending (Except Failure Answer)
  operations : List StoreOperation
  sharedCalls : List SharedCall
  locks : List LockCall
  failures : List HookFailure
  retries : List Activity
  log : List LogEvent
  queued : Nat
  collections : List CollectionChange
  levels : List (String × CacheLevel)

namespace Node

def cell {τ : Type} (node : Node) (part : Cell NodeData τ) : Cell Bench τ :=
  NodeSetup.cell node.index part

def wiredHooks (node : Node) : Wiring → AccessHooks Bench
  | .strict => node.adapter.hooks
  | .safe => node.adapter.safeHooks

def invoke (node : Node) (kind : HookKind) (access : Access Bench) : Call Bench Unit := do
  let wiring ← ExceptT.lift ((node.cell NodeData.wiringCell).look id)
  invokeWired (wiring.map node.wiredHooks) kind access

def l1? (node : Node) : Option (ByteCacheCell Bench) :=
  match node.store with
  | .recording => none
  | .memory store => some store.cache
  | .tiered store => store.l1

def settle (node : Node) (context : Context Bench) : Context Bench :=
  match node.l1? with
  | none => context
  | some cache => (cache.settle.run context).state

end Node

/-- Runs one job of a queue; a job that stalls is dropped. -/
def runJob (node : Node) (job : BackgroundWrite) (context : Context Bench) :
    Run (Context Bench) Unit :=
  match node.store with
  | .tiered store => (store.writeShared job).run context
  | _ => ⟨.returned (), context, []⟩

def drainJobs (node : Node) (latestFirst : Bool) :
    Nat → Context Bench → Run (Context Bench) (List Bool)
  | 0, context => ⟨.returned [], context, []⟩
  | count + 1, context =>
      let queue := (node.cell NodeData.queueCell).get context.data
      let taken := if latestFirst then queue.getLast? else queue.head?
      match taken with
      | none => ⟨.returned [], context, []⟩
      | some job =>
          let rest := if latestFirst then queue.dropLast else queue.tail
          let dequeued :=
            { context with data := (node.cell NodeData.queueCell).put rest context.data }
          let ran := runJob node job dequeued
          match ran.ending with
          | .panicked panic => ⟨.panicked panic, ran.state, ran.log⟩
          | .returned () =>
              let others := drainJobs node latestFirst count ran.state
              ⟨others.ending.map (true :: ·), others.state, ran.log ++ others.log⟩
          | .stalled =>
              let others := drainJobs node latestFirst count ran.state
              ⟨others.ending.map (false :: ·), others.state, ran.log ++ others.log⟩

namespace Step

def quiet (routine : Routine (Context Bench) Unit) : Call Bench Answer :=
  ExceptT.lift (routine.bind fun _ => .done .nothing)

def ask (view : Context Bench → Answer) : Call Bench Answer := ExceptT.lift (Routine.read view)

def recordingCache : Cell Bench RecordingCache :=
  Bench.sharedCell.inside ScriptedCache.recording

def changeCollection (state : Option Bytes) (failsSerialize rejectsLoads : Bool)
    (collection : RecordingCollection) : RecordingCollection :=
  { collection with
    state := state.getD collection.state
    failsSerialize := failsSerialize || collection.failsSerialize
    rejectsLoads := rejectsLoads || collection.rejectsLoads }

def describeNode (node : Node) : Answer :=
  match node.store with
  | .recording => .unsupported
  | .memory store => .text store.options.describe
  | .tiered store => .text (store.options.describe store.retry.isSome)

/-- What a step does at a node. Draining is not a single routine: every job of the
queue is a run of its own. -/
def call (node : Node) : Step → Call Bench Answer
  | wire wiring => quiet ((node.cell NodeData.wiringCell).modify fun _ => some wiring)
  | isWired =>
      ask fun context => .flag ((node.cell NodeData.wiringCell).get context.data).isSome
  | invoke hook access => (node.invoke hook access.toAccess).map fun _ => .nothing
  | callHook hook access =>
      (node.adapter.hooks.invoke hook access.toAccess).map fun _ => .nothing
  | clear account => (node.adapter.clear account).map fun _ => .nothing
  | read key hints => (node.adapter.store.read key (hintsOf hints)).map .blob
  | write key bytes hints =>
      (node.adapter.store.write key bytes (hintsOf hints)).map fun _ => .nothing
  | remove key hints => (node.adapter.store.remove key (hintsOf hints)).map fun _ => .nothing
  | failStore activities key =>
      quiet ((node.cell NodeData.storeCell).modify (RecordingStore.failWhen fun operation =>
        activities.contains operation.activity && key.all (· == operation.key)))
  | clearStoreFailures =>
      quiet ((node.cell NodeData.storeCell).modify RecordingStore.clearFailures)
  | storeEntry key =>
      ask fun context => .blob (((node.cell NodeData.storeCell).get context.data).data.get? key)
  | entryCount =>
      ask fun context => .count ((node.cell NodeData.storeCell).get context.data).data.size
  | failShared operations key =>
      quiet (recordingCache.modify (RecordingCache.failWhen fun made =>
        operations.contains made.operation && key.all (· == made.key)))
  | failNext count => quiet (recordingCache.modify (RecordingCache.failNextCalls count))
  | clearSharedFailures => quiet (recordingCache.modify RecordingCache.clearFailures)
  | script behaviours =>
      quiet (Bench.sharedCell.modify fun shared =>
        { shared with script := shared.script ++ behaviours })
  | sharedEntry key => ask fun context => .blob ((recordingCache.get context.data).data.get? key)
  | sharedOperations forget => do
      let operations ← ExceptT.lift (recordingCache.look RecordingCache.operations)
      if forget then ExceptT.lift (recordingCache.modify RecordingCache.clearOperations)
      pure (.calls operations)
  | cancel token => quiet (Routine.modify fun context => context.cancel (namedToken token))
  | advance duration => quiet (Context.letPass duration)
  | setTime time => quiet (Context.setClock time)
  | sleep nanos =>
      quiet (Routine.modify fun context => { context with uptime := context.uptime + nanos })
  | drain _ _ => pure .unsupported
  | tokens name state failsSerialize rejectsLoads =>
      quiet ((Bench.collection name).modify (changeCollection state failsSerialize rejectsLoads))
  | setLevel sink level => quiet (Routine.modify fun context => context.setLevel ⟨sink⟩ level)
  | l1Enabled => pure (.flag node.l1?.isSome)
  | l1Get key =>
      match node.l1? with
      | some cache => (ExceptT.lift (cache.lookup key)).map .blob
      | none => pure (.blob none)
  | l1Remove key =>
      match node.l1? with
      | some cache => quiet (cache.erase key)
      | none => pure .nothing
  | l1Clear =>
      match node.l1? with
      | some cache => quiet cache.clear
      | none => pure .nothing
  | l1Stats =>
      match node.l1? with
      | some cache =>
          ask fun context =>
            let census := cache.census context
            .stats census.entries census.weight
      | none => pure .nothing
  | l1Expiry hints =>
      match node.store with
      | .tiered store => (ExceptT.lift (store.currentL1Expiry (hintsOf hints))).map .lifetime
      | _ => pure .unsupported
  | entryOptions hints =>
      match node.store with
      | .tiered store => pure (.entryOptions (store.entryOptions (hintsOf hints)))
      | _ => pure .unsupported
  | lifetime hints =>
      match node.store with
      | .memory store =>
          (ExceptT.lift (store.currentLifetime (hintsOf hints))).map fun lifetime =>
            .lifetime (some lifetime)
      | _ => pure .unsupported
  | describeOptions => pure (describeNode node)

def perform (node : Node) (step : Step) (context : Context Bench) :
    Run (Context Bench) (Except Failure Answer) :=
  match step with
  | drain latestFirst count =>
      let queue := (node.cell NodeData.queueCell).get context.data
      let ran := drainJobs node latestFirst (count.getD queue.length) context
      ⟨ran.ending.map fun finished => .ok (.drained finished), ran.state, ran.log⟩
  | step => (step.call node).run.run context

def accessNames (access : AccessPlan) : List String × List String :=
  ([access.collection], access.sink.toList)

def hintNames (hints : Option HintsPlan) : List String × List String :=
  ([], (hints.bind HintsPlan.sink).toList)

def names : Step → List String × List String
  | invoke _ access => accessNames access
  | callHook _ access => accessNames access
  | read _ hints => hintNames hints
  | write _ _ hints => hintNames hints
  | remove _ hints => hintNames hints
  | tokens name _ _ _ => ([name], [])
  | setLevel sink _ => ([], [sink])
  | _ => ([], [])

end Step

structure Scenario where
  start : Timestamp
  shared : List (String × Bytes)
  nodes : List NodeSetup
  steps : List (Nat × Step)

/-- How a scenario turns out: its nodes can be rejected before anything happens. -/
inductive Course where
  | rejected (problem : OptionsProblem) (node : Nat)
  | panicked
  | reports (reports : List Report)
  | noSuchNode

namespace Scenario

def initialBench (scenario : Scenario) : Bench where
  shared := ScriptedCache.ofTable (Table.ofList scenario.shared)
  collections := fun _ => RecordingCollection.empty
  nodes := fun index => (scenario.nodes[index]?.map NodeSetup.initialData).getD default

def collectionNames (scenario : Scenario) : List String :=
  (scenario.steps.flatMap fun step => step.2.names.1).eraseDups

def sinkNames (scenario : Scenario) : List String :=
  (scenario.steps.flatMap fun step => step.2.names.2).eraseDups

def collectionChange? (name : String) (before after : Bench) : Option CollectionChange :=
  let old := before.collections name
  let new := after.collections name
  if old.state = new.state ∧ old.loads.length = new.loads.length then none
  else some ⟨name, new.state, new.loads.drop old.loads.length⟩

def levelChange? (sink : String) (before after : Context Bench) : Option (String × CacheLevel) :=
  if before.level ⟨sink⟩ = after.level ⟨sink⟩ then none else some (sink, after.level ⟨sink⟩)

def report (scenario : Scenario) (node : Node) (before : Context Bench)
    (ran : Run (Context Bench) (Except Failure Answer)) : Report :=
  let old := before.data.nodes node.index
  let new := ran.state.data.nodes node.index
  { outcome := ran.ending
    operations := new.store.operations.drop old.store.operations.length
    sharedCalls := ran.state.data.shared.calls.drop before.data.shared.calls.length
    locks := new.locks.drop old.locks.length
    failures := new.failures.drop old.failures.length
    retries := new.retries.drop old.retries.length
    log := ran.log
    queued := new.queue.length
    collections :=
      scenario.collectionNames.filterMap fun name =>
        collectionChange? name before.data ran.state.data
    levels := scenario.sinkNames.filterMap fun sink => levelChange? sink before ran.state }

def buildNodes : Nat → List NodeSetup → Except Course (List Node)
  | _, [] => .ok []
  | index, setup :: setups =>
      match setup.build index with
      | .error _ => .error .panicked
      | .ok (.error problem) => .error (.rejected problem index)
      | .ok (.ok node) => (buildNodes (index + 1) setups).map fun nodes => node :: nodes

def runSteps (scenario : Scenario) (nodes : List Node) :
    List (Nat × Step) → Context Bench → Except Course (List Report)
  | [], _ => .ok []
  | (index, step) :: steps, context =>
      match nodes[index]? with
      | none => .error .noSuchNode
      | some node =>
          let ran := step.perform node context
          let settled := nodes.foldl (fun context node => node.settle context) ran.state
          (runSteps scenario nodes steps settled).map fun reports =>
            scenario.report node context ran :: reports

def opening (scenario : Scenario) : Except Course (Context Bench) :=
  let ran :=
    (Context.setClock scenario.start).run
      (Context.initial Timestamp.epoch scenario.initialBench)
  match ran.ending with
  | .returned () => .ok ran.state
  | _ => .error .panicked

def run (scenario : Scenario) : Course :=
  let outcome : Except Course (List Report) := do
    let context ← scenario.opening
    let nodes ← buildNodes 0 scenario.nodes
    runSteps scenario nodes scenario.steps context
  match outcome with
  | .ok reports => .reports reports
  | .error course => course

end Scenario

end TokenPersistence.Rehearsal
