import Targeting.Json.Record

/-!
# Partitions

A condition shares out the hundred percentage buckets among treatments. Its partitions are read
once into a table of the last bucket of each partition. The sizes have to add up to a hundred, so
that every bucket is found in the table (`PartitionTable.reaches`).
-/

namespace Targeting

/-- A treatment and the number of buckets that it gets. -/
structure Partition where
  treatment : String
  size : UInt32
deriving DecidableEq, Repr

namespace Partition

/-- The partition that a JSON value stands for. -/
def ofJson? : Json → Option Partition :=
  Record.read? do
    let treatment ← Record.required "treatment" Json.asString?
    let size ← Record.required "size" Json.asUInt32?
    return { treatment, size }

/-- A partition as JSON. -/
def toJson (partition : Partition) : Json :=
  .object [("treatment", .string partition.treatment), ("size", .integer partition.size.toNat)]

/-- The greatest sum that is told apart from larger ones. -/
def greatestSum : Nat := 0xFFFFFFFF

/-- The last buckets of partitions that come after a given number of buckets. -/
def ranges : Nat → List Partition → List (Nat × String)
  | _, [] => []
  | before, partition :: rest =>
      let through := min (before + partition.size.toNat) greatestSum
      (through, partition.treatment) :: ranges through rest

/-- The number of buckets that partitions get together, up to the greatest sum. -/
def total (partitions : List Partition) : Nat :=
  ((ranges 0 partitions).getLast?.map (·.1)).getD 0

end Partition

/-- Reasons a treatment cannot be found. -/
inductive PartitionError where
  /-- The sizes add up to something else than a hundred. -/
  | invalidTotal (total : Nat)
  | bucketOutOfRange (bucket : Nat)
deriving DecidableEq, Repr

namespace PartitionError

/-- The text of an error. -/
def message : PartitionError → String
  | invalidTotal total => "partition sizes must add up to 100, got " ++ toString total
  | bucketOutOfRange bucket => "bucket " ++ toString bucket ++ " is outside of [0, 100]"

end PartitionError

/-- The last bucket of each partition with its treatment, in order. -/
structure PartitionTable where
  ranges : List (Nat × String)
  /-- The last of the buckets belongs to a partition. -/
  reaches : ∃ range ∈ ranges, range.1 = 100

namespace PartitionTable

/-- The table of a list of partitions. -/
def ofPartitions (partitions : List Partition) : Except PartitionError PartitionTable :=
  let ranges := Partition.ranges 0 partitions
  match last : ranges.getLast? with
  | none => .error (.invalidTotal 0)
  | some range =>
      if full : range.1 = 100 then
        .ok ⟨ranges, range, List.mem_of_getLast? last, full⟩
      else .error (.invalidTotal range.1)

/-- The treatment of a bucket: that of the first partition whose last bucket is not before it. -/
def treatment (table : PartitionTable) (bucket : Nat) : Except PartitionError String :=
  if outside : 100 < bucket then .error (.bucketOutOfRange bucket)
  else
    match found : table.ranges.find? (fun range => bucket ≤ range.1) with
    | some range => .ok range.2
    | none => absurd found <| by
        obtain ⟨range, member, full⟩ := table.reaches
        intro missing
        have after := List.find?_eq_none.mp missing range member
        simp only [decide_eq_true_eq] at after
        omega

end PartitionTable

end Targeting
