import InferLab.RingWalk
import InferLab.Wire
import InferLab.Primitives
import InferLab.Checks
import Mathlib.Data.List.Sort
import Mathlib.Data.UInt

/-!
# Gateway: the consistent-hash ring

Every worker has the same number of points on the ring of 64-bit positions, and a key goes to the
worker of the first point from the key's position on. A worker that cannot take it passes it on
to the next worker on the way around.
-/

namespace InferLab.Gateway

open Wire

/-! ## Positions -/

/-- FNV-1a, followed by an avalanche. -/
def stableHash (bytes : List UInt8) : UInt64 :=
  let hash := bytes.foldl (fun hash byte => (hash ^^^ byte.toUInt64) * 1099511628211)
    (14695981039346656037 : UInt64)
  let hash := hash ^^^ (hash >>> 33)
  let hash := hash * 0xff51afd7ed558ccd
  let hash := hash ^^^ (hash >>> 33)
  let hash := hash * 0xc4ceb9fe1a85ec53
  hash ^^^ (hash >>> 33)

-- the value on which deployed gateways have to agree
example : stableHash (utf8 "inferlab") = 15458312247603435045 := by decide +kernel

/-- `partition_point`, which finds where the elements that satisfy `p` end in a list that begins
with them. -/
def partitionPoint {α : Type} (p : α → Bool) (l : List α) : ℕ := (l.takeWhile p).length

/-! ## The ring -/

/-- A virtual node. -/
structure RingPoint where
  position : UInt64
  workerIndex : ℕ
deriving Repr, DecidableEq

/-- The virtual nodes in the order of their positions. -/
structure ConsistentHashRing where
  workerIds : List String
  points : List RingPoint
deriving Repr, DecidableEq

/-- The order of the keys `(position, worker_index)`. -/
def RingPoint.le (a b : RingPoint) : Prop :=
  a.position < b.position ∨ a.position = b.position ∧ a.workerIndex ≤ b.workerIndex

instance : DecidableRel RingPoint.le := fun _ _ => inferInstanceAs (Decidable (_ ∨ _ ∧ _))

/-- Some pair of neighbours has one position. -/
def hasCollision : List RingPoint → Bool
  | a :: b :: rest => a.position == b.position || hasCollision (b :: rest)
  | _ => false

/-- Where a worker's virtual node lies. -/
def nodePosition (workerId : String) (virtualNode : ℕ) : UInt64 :=
  stableHash (utf8 s!"{workerId}#vnode-{virtualNode}")

/-- The points before they are sorted. -/
def ringPoints (workerIds : List String) (virtualNodes : ℕ) : List RingPoint :=
  workerIds.zipIdx.flatMap fun (workerId, workerIndex) =>
    (List.range virtualNodes).map fun virtualNode =>
      { position := nodePosition workerId virtualNode, workerIndex }

/-- `str::trim` of every name. -/
def trimmed (workerIds : List String) : List String :=
  workerIds.map fun workerId => String.ofList (trim workerId)

/-- `usize::MAX`. -/
def usizeMax : ℕ := u64Max

namespace ConsistentHashRing

def new (workerIds : List String) (virtualNodes : ℕ) : Except String ConsistentHashRing := do
  let workerIds := trimmed workerIds
  require (!workerIds.isEmpty) "consistent-hash ring requires at least one worker"
  require (virtualNodes ≠ 0) "consistent-hash ring requires at least one virtual node"
  require (!workerIds.any fun workerId => (trim workerId).isEmpty)
    "consistent-hash worker IDs must not be empty"
  require workerIds.Nodup "consistent-hash worker IDs must be unique"
  require (workerIds.length * virtualNodes ≤ usizeMax) "consistent-hash ring is too large"
  let points := (ringPoints workerIds virtualNodes).insertionSort RingPoint.le
  require (!hasCollision points) "consistent-hash virtual-node collision"
  .ok { workerIds, points }

variable (ring : ConsistentHashRing) (key : List UInt8)

/-- Where the points from the key's position on begin. -/
def start : ℕ := partitionPoint (fun point => point.position < stableHash key) ring.points

/-- The index out of a ring without points would be out of bounds. -/
def ownerIndex : Option ℕ :=
  let pointIndex := ring.start key
  let wrappedIndex := if pointIndex = ring.points.length then 0 else pointIndex
  ring.points[wrappedIndex]?.map (·.workerIndex)

def owner : Option String := (ring.ownerIndex key).bind (ring.workerIds[·]?)

/-- The loop of `owner_indices` over the points that are left to visit. `seen` has a flag for
every worker; to look up another one would be out of bounds. -/
def visit (workers : ℕ) : List RingPoint → List Bool → List ℕ → List ℕ
  | [], _, owners => owners
  | point :: rest, seen, owners =>
    match seen[point.workerIndex]? with
    | none => owners
    | some true => visit workers rest seen owners
    | some false =>
      let owners := owners ++ [point.workerIndex]
      if owners.length = workers then owners
      else visit workers rest (seen.set point.workerIndex true) owners

/-- The points from `start` on: `points[(start + offset) % points.len()]`. -/
def pointsFrom (start : ℕ) : List RingPoint :=
  (List.range ring.points.length).filterMap fun offset =>
    ring.points[(start + offset) % ring.points.length]?

def ownerIndices : List ℕ :=
  visit ring.workerIds.length (ring.pointsFrom (ring.start key))
    (List.replicate ring.workerIds.length false) []

/-- The names of the workers that `owner_indices` gives. -/
def ownerIds : List String := (ring.ownerIndices key).filterMap (ring.workerIds[·]?)

end ConsistentHashRing

end InferLab.Gateway
