import Relaycast.Coding.Decimal
import Mathlib.Data.Char
import Mathlib.Data.List.Lex
import Mathlib.Data.Nat.Bitwise

/-!
# Snowflakes

An id is a time in milliseconds since the epoch, a worker id and a sequence number in one integer,
written as a decimal text.  A generator remembers the time and the number it used last; the clock is
read once for an id, and over and over when the numbers of a millisecond are used up.

The readings of the clock are a list, of which every id takes as many as it needs.  Nothing is
assumed of them: the clock may stand still and jump.
-/

namespace Snowflake

open Script Coding

/-- `Date.UTC(2025, 0, 1)`. -/
def EPOCH_MS : ℤ := 1735689600000

def WORKER_ID_BITS : ℕ := 10
def SEQUENCE_BITS : ℕ := 12
def SEQUENCE_MASK : ℕ := 1 <<< SEQUENCE_BITS - 1
def WORKER_ID_MASK : ℕ := 1 <<< WORKER_ID_BITS - 1
def WORKER_ID_SHIFT : ℕ := SEQUENCE_BITS
def TIMESTAMP_SHIFT : ℕ := SEQUENCE_BITS + WORKER_ID_BITS

/-- `fnv1a10Bits`, of the code units of a text. -/
def fnv1a10Bits (input : List (BitVec 16)) : ℕ :=
  let hash := input.foldl
    (fun hash unit => (hash ^^^ unit.setWidth 32) * 16777619#32) 2166136261#32
  (hash &&& 1023#32).toNat

/-- `SnowflakeGenerator`. -/
structure SnowflakeGenerator where
  workerId : Option ℤ
  lastTimestamp : ℤ
  sequence : ℕ

namespace SnowflakeGenerator

/-- `new SnowflakeGenerator(workerId)`. -/
def new (workerId : Option ℤ) : SnowflakeGenerator := ⟨workerId, -1, 0⟩

/-- `getWorkerId`, in an isolate with a given id. -/
def getWorkerId (isolateId : List (BitVec 16)) (g : SnowflakeGenerator) : ℕ :=
  match g.workerId with
  | some workerId => (BitVec.ofInt 32 workerId &&& 1023#32).toNat
  | none => fnv1a10Bits isolateId

/-- `while (now <= this.lastTimestamp) now = Date.now()`, with the readings that are left.  There is
no result while the loop goes on. -/
def waitFor (lastTimestamp : ℤ) : ℤ → List ℤ → Option (ℤ × List ℤ)
  | now, [] => if now ≤ lastTimestamp then none else some (now, [])
  | now, reading :: readings =>
    if now ≤ lastTimestamp then waitFor lastTimestamp reading readings
    else some (now, reading :: readings)

/-- The integer of an id. -/
def idOf (wid : ℕ) (now : ℤ) (sequence : ℕ) : ℕ :=
  let ts := (now - EPOCH_MS).toNat
  ts <<< TIMESTAMP_SHIFT ||| (wid &&& WORKER_ID_MASK) <<< WORKER_ID_SHIFT |||
    sequence &&& SEQUENCE_MASK

/-- `generate`: the id, the generator after it and the readings that are left. -/
def generate (isolateId : List (BitVec 16)) (g : SnowflakeGenerator) :
    List ℤ → Option (List Char × SnowflakeGenerator × List ℤ)
  | [] => none
  | reading :: readings => do
    -- the clock may have moved backwards
    let now := if reading < g.lastTimestamp then g.lastTimestamp else reading
    let (now, sequence, readings) ←
      if now = g.lastTimestamp then
        let sequence := (g.sequence + 1) &&& SEQUENCE_MASK
        if sequence = 0 then
          (waitFor g.lastTimestamp now readings).map fun (now, readings) => (now, sequence, readings)
        else some (now, sequence, readings)
      else some (now, 0, readings)
    return (Nat.toDigits 10 (idOf (g.getWorkerId isolateId) now sequence),
      { g with lastTimestamp := now, sequence }, readings)

/-- The ids of so many calls, each with the generator after it; none are left when the clock has no
reading for them. -/
def issued (isolateId : List (BitVec 16)) :
    ℕ → SnowflakeGenerator → List ℤ → List (List Char × SnowflakeGenerator)
  | 0, _, _ => []
  | calls + 1, g, readings =>
    match generate isolateId g readings with
    | none => []
    | some (id, g', rest) => (id, g') :: issued isolateId calls g' rest

end SnowflakeGenerator

/-! ## What is read from an id -/

/-- `extractTimestamp`. -/
def extractTimestamp (id : List Char) : ℤ := (numeral 10 id >>> TIMESTAMP_SHIFT : ℕ) + EPOCH_MS

/-- `extractWorkerId`. -/
def extractWorkerId (id : List Char) : ℕ := numeral 10 id >>> WORKER_ID_SHIFT &&& WORKER_ID_MASK

/-- `extractSequence`. -/
def extractSequence (id : List Char) : ℕ := numeral 10 id &&& SEQUENCE_MASK

/-- `snowflakeIdLowerBound`. -/
def snowflakeIdLowerBound (timestampMs : ℤ) : List Char :=
  Nat.toDigits 10 ((max 0 (timestampMs - EPOCH_MS)).toNat <<< TIMESTAMP_SHIFT)

/-- `afterSnowflake`, of the text in the column. -/
def afterSnowflake (column cursor : List Char) : Bool :=
  cursor.length < column.length ∨ cursor.length = column.length ∧ cursor < column

/-- `atOrAfterSnowflake`, of the text in the column. -/
def atOrAfterSnowflake (column : List Char) (cutoffMs : ℤ) : Bool :=
  let bound := snowflakeIdLowerBound cutoffMs
  bound.length < column.length ∨ bound.length = column.length ∧ bound ≤ column

end Snowflake
