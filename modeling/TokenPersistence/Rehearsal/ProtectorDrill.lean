import TokenPersistence.Protector
import TokenPersistence.Routine.Run

/-!
# Protector drills

Calls of one protector after the other, each with its log.
-/

namespace TokenPersistence.Rehearsal

set_option autoImplicit false

inductive ProtectorStep where
  | protect (plaintext : Bytes)
  | unprotect (payload : Bytes)
  | sealAndOpen (plaintext : Bytes)
  deriving DecidableEq

structure ProtectorReport where
  /-- The bytes that came out, and the length of a payload that was made on the way. -/
  outcome : Ending (Except Failure (Bytes × Option Nat))
  log : List LogEvent

namespace ProtectorStep

variable {σ : Type}

def call (protector : Protector) : ProtectorStep → Call σ (Bytes × Option Nat)
  | protect plaintext => do
      let payload ← protector.protect plaintext
      pure (payload, none)
  | unprotect payload => do
      let plaintext ← protector.unprotect payload
      pure (plaintext, none)
  | sealAndOpen plaintext => do
      let payload ← protector.protect plaintext
      let opened ← protector.unprotect payload
      pure (opened, some payload.length)

def performAll (protector : Protector) :
    List ProtectorStep → Context Unit → List ProtectorReport
  | [], _ => []
  | step :: steps, context =>
      let ran := (step.call protector).run.run context
      ⟨ran.ending, ran.log⟩ :: performAll protector steps ran.state

end ProtectorStep

def drillProtector (protector : Protector) (steps : List ProtectorStep) : List ProtectorReport :=
  ProtectorStep.performAll protector steps (Context.initial Timestamp.epoch ())

end TokenPersistence.Rehearsal
