-- SUMMARY: Why an array operation fails, with the wording of each cause.
import DeviceMemory.Store.Basic

/-!
# Array errors

Beside the errors of the device, an array refuses to work without memory, on a
host list of the wrong length, and on scalars past its end.
-/

namespace DeviceMemory

/-- How an array comes by its memory. -/
inductive Ownership where
  | owned
  | shared (key : PoolKey)
  deriving DecidableEq

namespace Ownership

/-- Zero for an owned array, the number of the key for a shared one. -/
def id : Ownership → Nat
  | .owned => 0
  | .shared key => key.id

def isShared : Ownership → Bool
  | .owned => false
  | .shared _ => true

def text : Ownership → String
  | .owned => "owned"
  | .shared key => "shared " ++ key.id.repr

/-- The ownership with a given number. -/
def ofNat (id : Nat) : Ownership :=
  match PoolKey.ofNat? id with
  | some key => .shared key
  | none => .owned

end Ownership

/-- Why an array operation fails. -/
inductive ArrayError where
  | device (source : DeviceError)
  /-- A shared array was used before it acquired its slot. -/
  | notAcquired (ownership : Ownership)
  /-- A host list does not cover the array exactly. -/
  | sizeMismatch (expected actual : Nat)
  /-- A host list is not a whole number of elements. -/
  | partialElement (len block : Nat)
  /-- A range of scalars does not fit in an array. -/
  | outOfRange (operation : String) (start count len : Nat)
  deriving DecidableEq

/-- The wording of an error. The end of a range is written as a word, so a range
    whose end does not fit in one has no wording. -/
def ArrayError.message? : ArrayError → Option String
  | .device source => some ("device operation failed: " ++ source.message)
  | .notAcquired ownership => some (ownership.text ++ " array has no device memory yet")
  | .sizeMismatch expected actual =>
    some ("host data holds " ++ actual.repr ++ " scalars, array holds " ++ expected.repr)
  | .partialElement len block =>
    some (len.repr ++ " scalars do not form whole elements of " ++ block.repr ++ " scalars")
  | .outOfRange operation start count len =>
    (Word.add? start count).map fun stop =>
      operation ++ ": scalars " ++ start.repr ++ ".." ++ stop.repr ++
        " exceed array of " ++ len.repr ++ " scalars"

end DeviceMemory
