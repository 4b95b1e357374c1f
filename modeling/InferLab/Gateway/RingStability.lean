import InferLab.Gateway.HashRing

/-!
# The ring under changes of the pool

The points of a ring, with the workers' names instead of their indices, do not depend on the
order in which the workers are listed, and without a worker they are the points of the ring
without that worker. So `owner_indices` is the walk of `RingWalk.owners` around them.
-/

namespace InferLab.Gateway

open RingWalk List ConsistentHashRing

variable {workerIds : List String} {virtualNodes : ℕ} {key : List UInt8}
  {ring : ConsistentHashRing} {points : List RingPoint}

/-! ## Sorted points -/

lemma ringPoint_le_total (a b : RingPoint) : a.le b ∨ b.le a := by
  unfold RingPoint.le
  simp only [UInt64.lt_iff_toNat_lt, ← UInt64.toNat_inj]
  omega

lemma ringPoint_le_trans {a b c : RingPoint} (hab : a.le b) (hbc : b.le c) : a.le c := by
  unfold RingPoint.le at *
  simp only [UInt64.lt_iff_toNat_lt, ← UInt64.toNat_inj] at *
  omega

instance : Std.Total RingPoint.le := ⟨ringPoint_le_total⟩

instance : IsTrans RingPoint RingPoint.le := ⟨fun _ _ _ => ringPoint_le_trans⟩

/-- Sorted points without a collision lie at different positions, in ascending order. -/
theorem hasCollision_eq_false_iff (hsorted : points.Pairwise RingPoint.le) :
    hasCollision points = false ↔
      points.Pairwise (fun a b => a.position.toNat < b.position.toNat) := by
  induction points with
  | nil => simp [hasCollision]
  | cons a rest ih =>
    obtain ⟨hfirst, hrest⟩ := pairwise_cons.mp hsorted
    have ih := ih hrest
    cases rest with
    | nil => simp [hasCollision]
    | cons b rest =>
      rw [hasCollision, Bool.or_eq_false_iff, ih, pairwise_cons (l := b :: rest)]
      refine and_congr_left fun hbelow => ?_
      have hle : ∀ c ∈ b :: rest, a.position.toNat ≤ c.position.toNat := by
        intro c hc
        rcases hfirst c hc with hlt | ⟨heq, -⟩
        · exact (UInt64.lt_iff_toNat_lt.mp hlt).le
        · rw [heq]
      constructor
      · intro hne c hc
        have hne' : a.position.toNat ≠ b.position.toNat := by
          simpa [UInt64.toNat_inj] using hne
        have hab := hle b mem_cons_self
        rcases mem_cons.mp hc with rfl | hmem
        · omega
        · have hbc := (pairwise_cons.mp hbelow).1 c hmem
          omega
      · intro hlt
        have := hlt b mem_cons_self
        have hne : a.position ≠ b.position := by
          intro heq
          rw [heq] at this
          omega
        simpa using hne

/-! ## Points by name -/

/-- All points of the workers, by position and name. -/
def nodePoints (workerIds : List String) (virtualNodes : ℕ) : List (ℕ × String) :=
  workerIds.flatMap fun workerId =>
    (List.range virtualNodes).map fun virtualNode =>
      ((nodePosition workerId virtualNode).toNat, workerId)

lemma nodePoints_filter (p : String → Bool) (workerIds : List String) (virtualNodes : ℕ) :
    nodePoints (workerIds.filter p) virtualNodes =
      (nodePoints workerIds virtualNodes).filter (fun point => p point.2) := by
  unfold nodePoints
  induction workerIds with
  | nil => rfl
  | cons workerId workerIds ih =>
    rw [flatMap_cons, filter_append, ← ih, filter_map]
    by_cases hp : p workerId = true
    · simp [hp, Function.comp_def]
    · simp [hp, Function.comp_def]

/-- The ring of a list of names, whether or not it has collisions. -/
def sortedRing (workerIds : List String) (virtualNodes : ℕ) : ConsistentHashRing where
  workerIds := workerIds
  points := (ringPoints workerIds virtualNodes).insertionSort RingPoint.le

def ConsistentHashRing.name (ring : ConsistentHashRing) (workerIndex : ℕ) : String :=
  ring.workerIds[workerIndex]?.getD ""

def ConsistentHashRing.namedPoints (ring : ConsistentHashRing) : List (ℕ × String) :=
  ring.points.map fun point => (point.position.toNat, ring.name point.workerIndex)

lemma namedPoints_perm (workerIds : List String) (virtualNodes : ℕ) :
    (sortedRing workerIds virtualNodes).namedPoints.Perm (nodePoints workerIds virtualNodes) := by
  have hmap : (ringPoints workerIds virtualNodes).map (fun point => (point.position.toNat,
      (sortedRing workerIds virtualNodes).name point.workerIndex)) =
      nodePoints workerIds virtualNodes := by
    unfold ringPoints nodePoints
    rw [map_flatMap]
    conv_rhs => rw [← zipIdx_map_fst 0 workerIds, flatMap_map]
    apply flatMap_congr
    intro entry hentry
    have hname : (sortedRing workerIds virtualNodes).name entry.2 = entry.1 := by
      simp [name, sortedRing, mem_zipIdx_iff_getElem?.mp hentry]
    rw [map_map]
    apply map_congr_left
    intro virtualNode _
    simp [hname]
  rw [← hmap]
  exact (perm_insertionSort _ _).map _

/-- What `new` asks of the names, once they are trimmed. -/
structure AcceptedIds (workerIds : List String) (virtualNodes : ℕ) : Prop where
  nonempty : workerIds ≠ []
  nodes : virtualNodes ≠ 0
  named : ∀ workerId ∈ workerIds, trim workerId ≠ []
  nodup : workerIds.Nodup
  fits : workerIds.length * virtualNodes ≤ usizeMax
  apart : ((nodePoints workerIds virtualNodes).map Prod.fst).Nodup

lemma hasCollision_sortedRing :
    hasCollision (sortedRing workerIds virtualNodes).points = false ↔
      ((nodePoints workerIds virtualNodes).map Prod.fst).Nodup := by
  have hsorted : (sortedRing workerIds virtualNodes).points.Pairwise RingPoint.le :=
    pairwise_insertionSort _ _
  have hperm : ((sortedRing workerIds virtualNodes).points.map (·.position.toNat)).Perm
      ((nodePoints workerIds virtualNodes).map Prod.fst) := by
    have h := (namedPoints_perm workerIds virtualNodes).map Prod.fst
    rwa [namedPoints, map_map] at h
  rw [hasCollision_eq_false_iff hsorted, ← hperm.nodup_iff]
  unfold List.Nodup
  rw [pairwise_map]
  constructor
  · exact fun h => h.imp fun hlt => by omega
  · intro h
    refine hsorted.imp₂ ?_ h
    intro a b hle hne
    rcases hle with hlt | ⟨heq, -⟩
    · exact UInt64.lt_iff_toNat_lt.mp hlt
    · exact absurd (congrArg UInt64.toNat heq) hne

/-- The ring is built exactly for the names that are accepted. -/
theorem new_eq_ok_iff : new workerIds virtualNodes = .ok ring ↔
    AcceptedIds (trimmed workerIds) virtualNodes ∧
      ring = sortedRing (trimmed workerIds) virtualNodes := by
  have hring : hasCollision ((ringPoints (trimmed workerIds) virtualNodes).insertionSort
      RingPoint.le) = false ↔ _ := hasCollision_sortedRing
  unfold new
  simp only [bind_eq_ok_iff, require_eq_ok_iff, exists_const, Bool.not_eq_true',
    isEmpty_eq_false_iff, decide_eq_true_eq, any_eq_false, List.isEmpty_iff]
  constructor
  · rintro ⟨hnonempty, hnodes, hnamed, hnodup, hfits, hapart, hbuilt⟩
    exact ⟨⟨hnonempty, hnodes, hnamed, hnodup, hfits, hring.mp hapart⟩,
      (Except.ok.inj hbuilt).symm⟩
  · rintro ⟨h, rfl⟩
    exact ⟨h.nonempty, h.nodes, h.named, h.nodup, h.fits, hring.mpr h.apart, rfl⟩

/-! ## The walk of `owner_indices` -/

lemma filterMap_range_getElem? {α : Type} (l : List α) :
    (List.range l.length).filterMap (l[·]?) = l := by
  induction l using List.reverseRecOn with
  | nil => rfl
  | append_singleton l a ih =>
    rw [length_append, length_singleton, range_succ, filterMap_append]
    have hinit : (List.range l.length).filterMap ((l ++ [a])[·]?) =
        (List.range l.length).filterMap (l[·]?) := by
      apply filterMap_congr
      intro i hi
      exact List.getElem?_append_left (mem_range.mp hi)
    rw [hinit, ih]
    simp

lemma pointsFrom_eq_rotate (ring : ConsistentHashRing) (start : ℕ) :
    ring.pointsFrom start = ring.points.rotate start := by
  conv_rhs => rw [← filterMap_range_getElem? (ring.points.rotate start)]
  rw [pointsFrom, length_rotate]
  apply filterMap_congr
  intro offset hoffset
  rw [List.getElem?_rotate (mem_range.mp hoffset), Nat.add_comm]

lemma mem_of_nodup_of_length {l : List ℕ} {n : ℕ} (hnodup : l.Nodup) (hlt : ∀ i ∈ l, i < n)
    (hlength : l.length = n) (i : ℕ) (hi : i < n) : i ∈ l := by
  have hsub : l.Subperm (List.range n) :=
    hnodup.subperm fun j hj => mem_range.mpr (hlt j hj)
  have hperm := hsub.perm_of_length_le (by rw [hlength, length_range])
  exact hperm.mem_iff.mpr (mem_range.mpr hi)

/-- The loop collects the workers that it has not seen yet, in the order in which it meets them
first. It ends when it has all of them. -/
theorem visit_eq {workers : ℕ} (points : List RingPoint) (seen : List Bool) (owners : List ℕ)
    (hpoints : ∀ point ∈ points, point.workerIndex < workers)
    (hseen : ∀ i < workers, seen[i]? = some (decide (i ∈ owners)))
    (hnodup : owners.Nodup) (howners : ∀ i ∈ owners, i < workers) :
    visit workers points seen owners =
      owners ++ ((points.map (·.workerIndex)).filter (fun i => i ∉ owners)).eraseDups := by
  induction points generalizing seen owners with
  | nil => simp [visit]
  | cons point rest ih =>
    have hindex := hpoints point mem_cons_self
    have hrest : ∀ other ∈ rest, other.workerIndex < workers :=
      fun other hmem => hpoints other (mem_cons_of_mem point hmem)
    have hflag := hseen point.workerIndex hindex
    by_cases hmem : point.workerIndex ∈ owners
    · simp only [hmem, decide_true] at hflag
      simp only [visit, hflag]
      rw [ih seen owners hrest hseen hnodup howners, map_cons,
        filter_cons_of_neg (by simpa using hmem)]
    · simp only [hmem, decide_false] at hflag
      simp only [visit, hflag]
      have hnodup' : (owners ++ [point.workerIndex]).Nodup := by
        rw [nodup_append]
        simpa using ⟨hnodup, fun i hi heq => hmem (heq ▸ hi)⟩
      have howners' : ∀ i ∈ owners ++ [point.workerIndex], i < workers := by
        intro i hi
        rcases mem_append.mp hi with hold | hnew
        · exact howners i hold
        · rwa [mem_singleton.mp hnew]
      have hfilter : ((rest.map (·.workerIndex)).filter (fun i => i ∉ owners)).filter
          (fun i => !i == point.workerIndex) =
          (rest.map (·.workerIndex)).filter (fun i => i ∉ owners ++ [point.workerIndex]) := by
        rw [filter_filter]
        apply filter_congr
        intro i _
        by_cases hi : i = point.workerIndex <;> simp [hi]
      rw [map_cons, filter_cons_of_pos (by simpa using hmem), eraseDups_cons,
        hfilter]
      by_cases hall : (owners ++ [point.workerIndex]).length = workers
      · -- every worker is among the owners
        have hnone : (rest.map (·.workerIndex)).filter
            (fun i => i ∉ owners ++ [point.workerIndex]) = [] := by
          have hcovered : ∀ i < workers, i ∈ owners ++ [point.workerIndex] :=
            mem_of_nodup_of_length hnodup' howners' hall
          rw [filter_eq_nil_iff]
          intro i hi
          obtain ⟨other, hother, rfl⟩ := mem_map.mp hi
          rw [decide_eq_true_eq, not_not]
          exact hcovered _ (hrest other hother)
        rw [if_pos hall, hnone]
        rfl
      · rw [if_neg hall, ih _ _ hrest ?_ hnodup' howners', append_assoc]
        · rfl
        · intro i hi
          rw [List.getElem?_set]
          have hlength : point.workerIndex < seen.length := (List.getElem?_eq_some_iff.mp hflag).1
          by_cases heq : point.workerIndex = i
          · simp [heq, heq ▸ hlength]
          · simp [heq, Ne.symm heq, hseen i hi]

/-- The points of a ring, by position and index. -/
def ConsistentHashRing.indexedPoints (ring : ConsistentHashRing) : List (ℕ × ℕ) :=
  ring.points.map fun point => (point.position.toNat, point.workerIndex)

/-- What the lookups rely on. -/
structure RingWellFormed (ring : ConsistentHashRing) : Prop where
  sorted : ring.points.Pairwise (fun a b => a.position.toNat < b.position.toNat)
  owned : ∀ point ∈ ring.points, point.workerIndex < ring.workerIds.length
  present : ∀ i < ring.workerIds.length, ∃ point ∈ ring.points, point.workerIndex = i
  nodup : ring.workerIds.Nodup
  nonempty : ring.workerIds ≠ []

lemma start_eq (ring : ConsistentHashRing) (key : List UInt8) :
    ring.start key = (ring.indexedPoints.takeWhile
      (fun point => point.1 < (stableHash key).toNat)).length := by
  unfold start partitionPoint indexedPoints
  rw [takeWhile_map, length_map]
  rfl

/-- The points from the key on are the walk from the key. -/
theorem RingWellFormed.clockwise (h : RingWellFormed ring) (key : List UInt8) :
    (ring.pointsFrom (ring.start key)).map
        (fun point => (point.position.toNat, point.workerIndex)) =
      RingWalk.clockwise (stableHash key).toNat ring.indexedPoints := by
  have hsorted : ring.indexedPoints.Pairwise (fun a b => a.1 ≤ b.1) := by
    rw [indexedPoints, pairwise_map]
    exact h.sorted.imp fun hlt => Nat.le_of_lt hlt
  rw [pointsFrom_eq_rotate, map_rotate, start_eq]
  exact rotate_eq_clockwise hsorted _

lemma RingWellFormed.ownerIndices_eq (h : RingWellFormed ring) (key : List UInt8) :
    ring.ownerIndices key = owners (stableHash key).toNat ring.indexedPoints := by
  have hpoints : ∀ point ∈ ring.pointsFrom (ring.start key),
      point.workerIndex < ring.workerIds.length := by
    intro point hmem
    rw [pointsFrom_eq_rotate, mem_rotate] at hmem
    exact h.owned point hmem
  unfold ownerIndices owners
  rw [visit_eq _ _ _ hpoints (by simp +contextual) nodup_nil (by simp), ← h.clockwise,
    map_map]
  simp
  rfl

/-- The walk meets every worker once. -/
theorem RingWellFormed.ownerIndices_perm (h : RingWellFormed ring) (key : List UInt8) :
    (ring.ownerIndices key).Perm (List.range ring.workerIds.length) := by
  rw [h.ownerIndices_eq, perm_ext_iff_of_nodup (nodup_owners _ _) nodup_range]
  intro i
  rw [mem_owners, mem_range]
  unfold indexedPoints
  constructor
  · rintro ⟨position, hmem⟩
    obtain ⟨point, hpoint, heq⟩ := mem_map.mp hmem
    have hindex : point.workerIndex = i := congrArg Prod.snd heq
    exact hindex ▸ h.owned point hpoint
  · intro hi
    obtain ⟨point, hpoint, rfl⟩ := h.present i hi
    exact ⟨point.position.toNat, mem_map.mpr ⟨point, hpoint, rfl⟩⟩

lemma filterMap_getElem? {l : List String} {indices : List ℕ} (h : ∀ i ∈ indices, i < l.length) :
    indices.filterMap (l[·]?) = indices.map (fun i => l[i]?.getD "") := by
  rw [← filterMap_eq_map]
  apply filterMap_congr
  intro i hi
  simp [h i hi]

section

variable (h : RingWellFormed ring)
include h

lemma RingWellFormed.ownerIds_eq_map (key : List UInt8) :
    ring.ownerIds key = (ring.ownerIndices key).map ring.name := by
  apply filterMap_getElem?
  intro i hi
  exact mem_range.mp ((h.ownerIndices_perm key).mem_iff.mp hi)

lemma RingWellFormed.ownerIds_eq (key : List UInt8) :
    ring.ownerIds key = owners (stableHash key).toNat ring.namedPoints := by
  have hnames : ring.namedPoints =
      ring.indexedPoints.map fun point => (point.1, ring.name point.2) := by
    rw [namedPoints, indexedPoints, map_map]
    rfl
  rw [h.ownerIds_eq_map, h.ownerIndices_eq, hnames, owners_map]
  intro a ha b hb heq
  obtain ⟨p, hp, rfl⟩ := mem_map.mp ha
  obtain ⟨q, hq, rfl⟩ := mem_map.mp hb
  have hpi := h.owned p hp
  have hqi := h.owned q hq
  simp only [name, List.getElem?_eq_getElem hpi, List.getElem?_eq_getElem hqi,
    Option.getD_some] at heq
  exact (h.nodup.getElem_inj_iff).mp heq

lemma RingWellFormed.ownerIds_perm (key : List UInt8) :
    (ring.ownerIds key).Perm ring.workerIds := by
  have hperm := (h.ownerIndices_perm key).filterMap (ring.workerIds[·]?)
  rwa [filterMap_range_getElem?] at hperm

/-- The first of the owners is the owner. -/
theorem RingWellFormed.head?_ownerIndices (key : List UInt8) :
    (ring.ownerIndices key).head? = ring.ownerIndex key := by
  have hle : ring.start key ≤ ring.points.length := (takeWhile_sublist _).length_le
  have hfirst : (ring.pointsFrom (ring.start key)).head? =
      ring.points[if ring.start key = ring.points.length then 0 else ring.start key]? := by
    rw [pointsFrom_eq_rotate]
    split
    · rename_i heq
      rw [heq, rotate_length, List.head?_eq_getElem?]
    · rename_i hne
      have hlt : ring.start key < ring.points.length := by omega
      rw [List.head?_rotate hlt]
  have hhead : (ring.ownerIndices key).head? =
      ((ring.pointsFrom (ring.start key)).map (·.workerIndex)).head? := by
    rw [h.ownerIndices_eq, owners, ← h.clockwise, map_map]
    cases ring.pointsFrom (ring.start key) with
    | nil => rfl
    | cons point rest => simp [eraseDups_cons]
  rw [hhead, List.head?_map, hfirst]
  rfl

lemma RingWellFormed.head?_ownerIds (key : List UInt8) :
    (ring.ownerIds key).head? = ring.owner key := by
  unfold owner
  rw [← h.head?_ownerIndices, h.ownerIds_eq_map, List.head?_map]
  cases hhead : (ring.ownerIndices key).head? with
  | none => rfl
  | some i =>
    have hi : i < ring.workerIds.length :=
      mem_range.mp ((h.ownerIndices_perm key).mem_iff.mp (mem_of_head? hhead))
    simp [name, hi]

end

/-! ## Other pools -/

lemma AcceptedIds.sorted (h : AcceptedIds workerIds virtualNodes) :
    (sortedRing workerIds virtualNodes).points.Pairwise
      (fun a b => a.position.toNat < b.position.toNat) :=
  (hasCollision_eq_false_iff (pairwise_insertionSort _ _)).mp
    (hasCollision_sortedRing.mpr h.apart)

lemma mem_ringPoints {point : RingPoint} : point ∈ ringPoints workerIds virtualNodes ↔
    ∃ workerId virtualNode, workerIds[point.workerIndex]? = some workerId ∧
      virtualNode < virtualNodes ∧ point.position = nodePosition workerId virtualNode := by
  unfold ringPoints
  simp only [mem_flatMap, mem_map, mem_range]
  constructor
  · rintro ⟨entry, hentry, virtualNode, hnode, rfl⟩
    exact ⟨entry.1, virtualNode, mem_zipIdx_iff_getElem?.mp hentry, hnode, rfl⟩
  · rintro ⟨workerId, virtualNode, hid, hnode, hposition⟩
    refine ⟨(workerId, point.workerIndex), mem_zipIdx_iff_getElem?.mpr hid, virtualNode,
      hnode, ?_⟩
    rw [← hposition]

lemma AcceptedIds.wellFormed (h : AcceptedIds workerIds virtualNodes) :
    RingWellFormed (sortedRing workerIds virtualNodes) where
  sorted := h.sorted
  owned := by
    intro point hpoint
    obtain ⟨_, _, hid, -⟩ := mem_ringPoints.mp ((mem_insertionSort _).mp hpoint)
    exact (List.getElem?_eq_some_iff.mp hid).1
  present := by
    intro i hi
    refine ⟨{ position := nodePosition workerIds[i] 0, workerIndex := i }, ?_, rfl⟩
    apply (mem_insertionSort _).mpr
    exact mem_ringPoints.mpr ⟨workerIds[i], 0, List.getElem?_eq_getElem hi,
      Nat.pos_of_ne_zero h.nodes, rfl⟩
  nodup := h.nodup
  nonempty := h.nonempty

lemma AcceptedIds.namedPoints_sorted (h : AcceptedIds workerIds virtualNodes) :
    (sortedRing workerIds virtualNodes).namedPoints.Pairwise (fun a b => a.1 < b.1) := by
  rw [namedPoints, pairwise_map]
  exact h.sorted

variable {workerIds' : List String}

/-- The named points are all that matters: a pool whose nodes are some of the nodes of an accepted
pool has the walk of that pool, restricted to its own workers. -/
theorem AcceptedIds.ownerIds_eq_filter {p : String → Bool} (h : AcceptedIds workerIds virtualNodes)
    (h' : AcceptedIds workerIds' virtualNodes) (hperm : workerIds'.Perm (workerIds.filter p))
    (key : List UInt8) :
    (sortedRing workerIds' virtualNodes).ownerIds key =
      ((sortedRing workerIds virtualNodes).ownerIds key).filter p := by
  have hnodes : (nodePoints workerIds' virtualNodes).Perm
      ((nodePoints workerIds virtualNodes).filter (fun point => p point.2)) := by
    rw [← nodePoints_filter]
    exact List.Perm.flatMap_right _ hperm
  have hpoints : (sortedRing workerIds' virtualNodes).namedPoints =
      (sortedRing workerIds virtualNodes).namedPoints.filter (fun point => p point.2) := by
    apply eq_of_perm h'.namedPoints_sorted (h.namedPoints_sorted.filter _)
    refine (namedPoints_perm workerIds' virtualNodes).trans (hnodes.trans ?_)
    exact ((namedPoints_perm workerIds virtualNodes).filter _).symm
  rw [h'.wellFormed.ownerIds_eq, h.wellFormed.ownerIds_eq, hpoints, owners_filter]

lemma AcceptedIds.of_perm_filter {p : String → Bool} (h : AcceptedIds workerIds virtualNodes)
    (hnonempty : workerIds' ≠ []) (hperm : workerIds'.Perm (workerIds.filter p)) :
    AcceptedIds workerIds' virtualNodes where
  nonempty := hnonempty
  nodes := h.nodes
  named := fun workerId hmem => h.named workerId (mem_of_mem_filter (hperm.mem_iff.mp hmem))
  nodup := hperm.nodup_iff.mpr (h.nodup.filter p)
  fits := by
    have hlength : workerIds'.length ≤ workerIds.length := by
      rw [hperm.length_eq]
      exact length_filter_le p workerIds
    exact (Nat.mul_le_mul_right virtualNodes hlength).trans h.fits
  apart := by
    have hnodes : (nodePoints workerIds' virtualNodes).Perm
        (nodePoints (workerIds.filter p) virtualNodes) := List.Perm.flatMap_right _ hperm
    rw [nodePoints_filter] at hnodes
    refine (hnodes.map Prod.fst).nodup_iff.mpr (h.apart.sublist ?_)
    exact filter_sublist.map Prod.fst

/-- Any listing of some of an accepted pool's workers makes a ring, and the walks on it are the
walks on the pool's ring without the workers that are left out. -/
theorem new_of_perm_filter {p : String → Bool} (h : new workerIds virtualNodes = .ok ring)
    (hnonempty : workerIds' ≠ [])
    (hperm : (trimmed workerIds').Perm ((trimmed workerIds).filter p)) :
    ∃ ring', new workerIds' virtualNodes = .ok ring' ∧ RingWellFormed ring' ∧
      ∀ key, ring'.ownerIds key = (ring.ownerIds key).filter p := by
  obtain ⟨haccepted, rfl⟩ := new_eq_ok_iff.mp h
  have htrimmed : trimmed workerIds' ≠ [] := by
    rwa [trimmed, ne_eq, map_eq_nil_iff]
  have haccepted' := haccepted.of_perm_filter htrimmed hperm
  exact ⟨_, new_eq_ok_iff.mpr ⟨haccepted', rfl⟩, haccepted'.wellFormed,
    haccepted.ownerIds_eq_filter haccepted' hperm⟩

lemma head?_erase_of_ne {l : List String} {x : String} (h : l.head? ≠ some x) :
    (l.erase x).head? = l.head? := by
  cases l with
  | nil => rfl
  | cons a l =>
    have hne : a ≠ x := fun heq => h (by rw [heq, List.head?_cons])
    rw [erase_cons_tail (by simpa using hne), List.head?_cons, List.head?_cons]

lemma head?_erase_head {l : List String} {x : String} (h : l.head? = some x) :
    (l.erase x).head? = l[1]? := by
  cases l with
  | nil => cases h
  | cons a l =>
    obtain rfl : a = x := Option.some.inj h
    rw [erase_cons_head, List.getElem?_cons_succ, List.head?_eq_getElem?]

/-- However the workers are listed, the walk of a key is the same, and it begins with the key's
owner. Without one of the workers, the walks are those of the old ring without that worker: the
keys of the other workers stay, and its own keys go to their second choice. -/
theorem hash_ring_stability (workerIds : List String) (virtualNodes : ℕ)
    (ring : ConsistentHashRing) (h : new workerIds virtualNodes = .ok ring) :
    (∀ workerIds', (trimmed workerIds').Perm (trimmed workerIds) →
      ∃ ring', new workerIds' virtualNodes = .ok ring' ∧
        ∀ key, ring'.ownerIds key = ring.ownerIds key) ∧
    (∀ key, (ring.ownerIds key).Perm (trimmed workerIds) ∧
      (ring.ownerIds key).head? = ring.owner key ∧ (ring.owner key).isSome) ∧
    ∀ removed remaining, remaining ≠ [] →
      (trimmed remaining).Perm ((trimmed workerIds).erase removed) →
      ∃ ring', new remaining virtualNodes = .ok ring' ∧
        ∀ key, ring'.ownerIds key = (ring.ownerIds key).erase removed ∧
          (ring.owner key ≠ some removed → ring'.owner key = ring.owner key) ∧
          (ring.owner key = some removed → ring'.owner key = (ring.ownerIds key)[1]?) := by
  obtain ⟨haccepted, hring⟩ := new_eq_ok_iff.mp h
  have hwf : RingWellFormed ring := hring ▸ haccepted.wellFormed
  have hids : ring.workerIds = trimmed workerIds := by rw [hring, sortedRing]
  have hnodup : ∀ key, (ring.ownerIds key).Nodup := fun key =>
    (hwf.ownerIds_perm key).nodup_iff.mpr hwf.nodup
  refine ⟨?_, ?_, ?_⟩
  · intro workerIds' hperm
    have hnonempty : workerIds' ≠ [] := by
      rintro rfl
      exact haccepted.nonempty (nil_perm.mp hperm)
    have hall : (trimmed workerIds).filter (fun _ => true) = trimmed workerIds :=
      filter_eq_self.mpr fun _ _ => rfl
    obtain ⟨ring', hnew, -, hsame⟩ := new_of_perm_filter h hnonempty (hall.symm ▸ hperm)
    refine ⟨ring', hnew, fun key => ?_⟩
    rw [hsame key, filter_eq_self.mpr fun _ _ => rfl]
  · intro key
    refine ⟨hids ▸ hwf.ownerIds_perm key, hwf.head?_ownerIds key, ?_⟩
    rw [← hwf.head?_ownerIds key, isSome_head?]
    intro hnil
    have := hwf.ownerIds_perm key
    rw [hnil] at this
    exact hwf.nonempty (nil_perm.mp this)
  · intro removed remaining hnonempty hperm
    rw [haccepted.nodup.erase_eq_filter] at hperm
    obtain ⟨ring', hnew, hwf', hothers⟩ := new_of_perm_filter h hnonempty hperm
    have herase : ∀ key, ring'.ownerIds key = (ring.ownerIds key).erase removed := fun key => by
      rw [hothers key, (hnodup key).erase_eq_filter]
    refine ⟨ring', hnew, fun key => ⟨herase key, ?_, ?_⟩⟩
    · intro hother
      rw [← hwf'.head?_ownerIds, ← hwf.head?_ownerIds, herase key]
      rw [← hwf.head?_ownerIds] at hother
      exact head?_erase_of_ne hother
    · intro howned
      rw [← hwf'.head?_ownerIds, herase key]
      rw [← hwf.head?_ownerIds] at howned
      exact head?_erase_head howned

theorem hash_ring_stability_threeWorkers :
    ∃ ring, new ["worker-a", " worker-b", "worker-c "] 2 = .ok ring ∧
      ∃ ring', new ["worker-c", "worker-a"] 2 = .ok ring' ∧
        ∀ key, ring'.ownerIds key = (ring.ownerIds key).erase "worker-b" := by
  have hring : new ["worker-a", " worker-b", "worker-c "] 2 =
      .ok (sortedRing ["worker-a", "worker-b", "worker-c"] 2) := by decide +kernel
  refine ⟨sortedRing ["worker-a", "worker-b", "worker-c"] 2, hring, ?_⟩
  obtain ⟨-, -, hremoved⟩ := hash_ring_stability _ 2 _ hring
  obtain ⟨ring', hnew, howners⟩ := hremoved "worker-b" ["worker-c", "worker-a"] (by decide)
    (by decide +kernel)
  exact ⟨ring', hnew, fun key => (howners key).1⟩

end InferLab.Gateway
