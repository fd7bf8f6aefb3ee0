import TokenPersistence.Access

/-!
# A collection that records

For rehearsals: a token collection whose state is plain bytes. It writes down every
load, can be made to fail when it is serialized, and can be made to refuse every
input that is not empty.
-/

namespace TokenPersistence.Rehearsal

set_option autoImplicit false

structure RecordingCollection where
  state : Bytes
  loads : List (Bytes × Bool)
  failsSerialize : Bool
  rejectsLoads : Bool
  deriving DecidableEq, Repr

namespace RecordingCollection

def empty : RecordingCollection := ⟨[], [], false, false⟩

instance : Inhabited RecordingCollection := ⟨empty⟩

def serialize (collection : RecordingCollection) : Except Failure Bytes × RecordingCollection :=
  if collection.failsSerialize then
    (.error (Failure.withText .serialize "mock: serialize failed"), collection)
  else (.ok collection.state, collection)

def load (bytes : Bytes) (clearExisting : Bool) (collection : RecordingCollection) :
    Except Failure Unit × RecordingCollection :=
  let recorded := { collection with loads := collection.loads ++ [(bytes, clearExisting)] }
  if collection.rejectsLoads && !bytes.isEmpty then
    (.error (Failure.withText .deserialize "mock: malformed cache"), recorded)
  else
    (.ok (),
      { recorded with state := (if clearExisting then [] else collection.state) ++ bytes })

def toCollection {σ : Type} (cell : Cell σ RecordingCollection) : TokenCollection σ where
  serialize := ExceptT.mk (cell.step serialize)
  load bytes clearExisting := ExceptT.mk (cell.step (load bytes clearExisting))

end RecordingCollection

end TokenPersistence.Rehearsal
