/-
# Dialogues with plug-ins

The plug-ins of a codec are given from outside, and the order in which they are asked matters as
much as what comes of it.  What a codec does with a frame is therefore written as a *dialogue*: it
comes to an end, with a result or with an error, or it asks a plug-in something and goes on with
the answer.  A dialogue is run by giving the answers.

Main result: one dialogue after another is run as their runs are, one after another (`run_bind`).
-/
import SessionServer.Bytes
import SessionServer.Frame.Error

namespace SessionServer

/-- What a plug-in is asked while a frame is read. -/
inductive Question where
  /-- What does this stand for, if it is no longer than the limit? -/
  | uncompress (data : Bytes) (limit : Nat)
  | decrypt (data : Bytes)
deriving DecidableEq, Repr

/-- The bytes that the question is about. -/
def Question.data : Question → Bytes
  | uncompress data _ => data
  | decrypt data => data

/-- Work on a frame, with plug-ins that have not answered yet. -/
inductive Dialogue (α : Type) where
  | done (result : Except FrameError α)
  /-- Something is asked, and what follows depends on the answer.  A refusal is the end. -/
  | ask (question : Question) (next : Bytes → Dialogue α)

namespace Dialogue

variable {α β : Type}

/-- A dialogue that has failed. -/
def fail (err : FrameError) : Dialogue α := done (.error err)

/-- One dialogue and then, if it does not fail, another that depends on its result. -/
def andThen (f : α → Dialogue β) : Dialogue α → Dialogue β
  | done (.error err) => fail err
  | done (.ok a) => f a
  | ask question next => ask question fun data => (next data).andThen f

instance : Monad Dialogue where
  pure a := done (.ok a)
  bind d f := d.andThen f

/-- What the dialogue comes to. -/
def run (answer : Question → Except FrameError Bytes) : Dialogue α → Except FrameError α
  | done result => result
  | ask question next =>
    match answer question with
    | .error err => .error err
    | .ok data => (next data).run answer

variable {answer : Question → Except FrameError Bytes}

@[simp] theorem run_done (result : Except FrameError α) : (done result).run answer = result :=
  rfl

@[simp] theorem run_fail (err : FrameError) : (fail err : Dialogue α).run answer = .error err :=
  rfl

@[simp] theorem run_pure (a : α) : (pure a : Dialogue α).run answer = .ok a :=
  rfl

theorem run_ask (question : Question) (next : Bytes → Dialogue α) :
    (ask question next).run answer = (answer question).bind fun data => (next data).run answer := by
  rw [run]
  cases answer question <;> rfl

/-- Dialogues one after another come to what their runs come to, one after another. -/
@[simp] theorem run_bind (d : Dialogue α) (f : α → Dialogue β) :
    (d >>= f).run answer = (d.run answer).bind fun a => (f a).run answer := by
  induction d with
  | done result => cases result <;> rfl
  | ask question next ih =>
    have hnext : (ask question next >>= f) = ask question fun data => next data >>= f := rfl
    rw [hnext, run_ask, run_ask]
    cases answer question with
    | error err => rfl
    | ok data => exact ih data

end Dialogue

end SessionServer
