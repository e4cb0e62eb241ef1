import Targeting.Hash.Bucket

/-!
# Traffic allocation

A flag may take in only a part of the traffic. Whether a key belongs to that part depends on its
bucket under a seed of its own, so that it is independent of the treatment that the key gets.
-/

namespace Targeting

/-- The seeds of a flag and the part of the traffic, in percent, that it takes in. -/
structure Allocation where
  /-- The seed of the buckets that are shared out among treatments. -/
  seed : Int32
  /-- All of the traffic if nothing is given. -/
  traffic? : Option UInt32 := none
  /-- Zero if nothing is given. -/
  trafficSeed? : Option Int32 := none
deriving DecidableEq, Repr

namespace Allocation

/-- Whether a key is in the part of the traffic that a flag takes in. -/
def allocates (allocation : Allocation) (bucketingKey : String) : Bool :=
  let traffic := (allocation.traffic?.getD 100).toNat
  decide (100 ≤ traffic) ||
    decide (bucket bucketingKey (allocation.trafficSeed?.getD 0) ≤ traffic)

/-- The bucket that decides which treatment a key gets. -/
def bucketOf (allocation : Allocation) (bucketingKey : String) : Nat :=
  bucket bucketingKey allocation.seed

end Allocation

end Targeting
