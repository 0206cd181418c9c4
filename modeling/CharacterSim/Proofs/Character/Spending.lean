import CharacterSim.Character.Progression
import CharacterSim.Proofs.Attribute.Freshness

/-! What a player's points come to when they are spent. A request meets the first obstacle in its way
and then changes nothing; one that meets none moves a point, a base, and all that derives from the
base. -/

namespace CharacterSim

/-- A player's points and the being they are spent on. -/
structure Spender where
  ledger : ProgressionLedger
  being : Being

/-- A wish to move the base of an attribute by one. -/
inductive PointRequest where
  | raise (id : AttributeId)
  | lower (id : AttributeId)
  deriving DecidableEq

namespace PointRequest

def id : PointRequest → AttributeId
  | raise id | lower id => id

/-- The wish is to raise a base. -/
def raises : PointRequest → Bool
  | raise _ => true
  | lower _ => false

/-- The base that is wished for in place of another. -/
def move (base : Float) : PointRequest → Float
  | raise _ => base + 1.0
  | lower _ => base - 1.0

/-- The points that the wish is paid from. -/
def balance (ledger : ProgressionLedger) : PointRequest → UInt32
  | raise _ => ledger.attributePoints
  | lower _ => ledger.correctionPoints

/-- The points after the wish is paid for. -/
def pay (ledger : ProgressionLedger) : PointRequest → ProgressionLedger
  | raise _ => ledger.setAttributePoints (ledger.attributePoints - 1)
  | lower _ => (ledger.setCorrectionPoints (ledger.correctionPoints - 1)).setAttributePoints
      (ledger.attributePoints + 1)

end PointRequest

namespace Spender

variable {spender before after : Spender} {request : PointRequest} {response : SpendResponse}

/-- A request, and the answer to it. -/
def spend (spender : Spender) : PointRequest → Spender × SpendResponse
  | .raise id =>
    let result := spender.ledger.usePoint spender.being id
    (⟨result.1, result.2.1⟩, result.2.2)
  | .lower id =>
    let result := spender.ledger.useCorrection spender.being id
    (⟨result.1, result.2.1⟩, result.2.2)

/-! ### Obstacles -/

/-- Points may be spent on the attribute, and the being carries it. -/
def Offers (spender : Spender) (id : AttributeId) : Prop :=
  spender.being.attributes.registry.isDirectlyModifiable id ∧ spender.being.attributes.contains id

/-- A base is not lowered that is at most one, nor while there is no room for the point that would be
given back. -/
def Forbids (spender : Spender) : PointRequest → Prop
  | .raise _ => False
  | .lower id => (∃ base, spender.being.base? id = some base ∧ base ≤ 1.0) ∨
      spender.ledger.attributePoints.toNat = UInt32.size - 1

theorem exists_base_of_offers {id : AttributeId} (h : spender.Offers id) :
    ∃ base, spender.being.base? id = some base := by
  obtain ⟨record, hget⟩ := AttributeStore.contains_eq_true_iff.1 h.2
  exact ⟨record.base, by rw [Being.base?, AttributeStore.base?, hget, Option.map_some]⟩

theorem contains_of_base {id : AttributeId} {base : Float}
    (h : spender.being.base? id = some base) : spender.being.attributes.contains id := by
  obtain ⟨record, hget, -⟩ := Option.map_eq_some_iff.1 h
  exact AttributeStore.contains_eq_true_iff.2 ⟨record, hget⟩

theorem spendableBase_of_offers {id : AttributeId} {base : Float} (h : spender.Offers id)
    (hbase : spender.being.base? id = some base) :
    ProgressionLedger.spendableBase? spender.being id = some base := by
  rw [ProgressionLedger.spendableBase?, if_pos h.1, hbase]

theorem spendableBase_of_not_offers {id : AttributeId} (h : ¬ spender.Offers id) :
    ProgressionLedger.spendableBase? spender.being id = none := by
  unfold ProgressionLedger.spendableBase?
  split
  · next hmodifiable =>
    cases hbase : spender.being.base? id with
    | none => rfl
    | some base => exact absurd ⟨hmodifiable, contains_of_base hbase⟩ h
  · rfl

theorem exists_info_of_modifiable {registry : AttributeRegistry} {id : AttributeId}
    (h : registry.isDirectlyModifiable id) : ∃ info, registry.get? id = some info := by
  unfold AttributeRegistry.isDirectlyModifiable at h
  split at h
  · next info hinfo => exact ⟨info, hinfo⟩
  · cases h

theorem refunded?_eq (ledger : ProgressionLedger) : ledger.refunded? =
    if ledger.attributePoints.toNat = UInt32.size - 1 then none else some (ledger.attributePoints + 1) := by
  have hmax : ledger.attributePoints = UInt32.ofNat (UInt32.size - 1) ↔
      ledger.attributePoints.toNat = UInt32.size - 1 := UInt32.toNat_inj.symm
  simp only [ProgressionLedger.refunded?, hmax]

/-! ### One request -/

theorem spend_of_not_offers (h : ¬ spender.Offers request.id) :
    spender.spend request = (spender, .invalidAttribute) := by
  cases request with
  | raise id =>
    have hnone : ProgressionLedger.spendableBase? spender.being id = none :=
      spendableBase_of_not_offers h
    simp only [spend, ProgressionLedger.usePoint, hnone]
  | lower id =>
    have hnone : ProgressionLedger.spendableBase? spender.being id = none :=
      spendableBase_of_not_offers h
    simp only [spend, ProgressionLedger.useCorrection, hnone]

theorem spend_of_no_points (h : spender.Offers request.id)
    (hzero : request.balance spender.ledger = 0) :
    spender.spend request = (spender, .noPointsLeft) := by
  obtain ⟨base, hbase⟩ := exists_base_of_offers h
  cases request with
  | raise id =>
    have hsome : ProgressionLedger.spendableBase? spender.being id = some base :=
      spendableBase_of_offers h hbase
    have hzero : spender.ledger.attributePoints = 0 := hzero
    simp only [spend, ProgressionLedger.usePoint, hsome, if_pos hzero]
  | lower id =>
    have hsome : ProgressionLedger.spendableBase? spender.being id = some base :=
      spendableBase_of_offers h hbase
    have hzero : spender.ledger.correctionPoints = 0 := hzero
    simp only [spend, ProgressionLedger.useCorrection, hsome, if_pos hzero]

theorem spend_of_forbids (h : spender.Offers request.id)
    (hpoints : request.balance spender.ledger ≠ 0) (hforbids : spender.Forbids request) :
    spender.spend request = (spender, .denied) := by
  cases request with
  | raise id => exact hforbids.elim
  | lower id =>
    obtain ⟨base, hbase⟩ := exists_base_of_offers h
    have hsome : ProgressionLedger.spendableBase? spender.being id = some base :=
      spendableBase_of_offers h hbase
    have hpoints : spender.ledger.correctionPoints ≠ 0 := hpoints
    simp only [spend, ProgressionLedger.useCorrection, hsome, if_neg hpoints]
    by_cases hfloor : base ≤ ProgressionLedger.correctionFloor
    · simp only [if_pos hfloor]
    · have hfull : spender.ledger.attributePoints.toNat = UInt32.size - 1 := by
        rcases hforbids with ⟨other, hother, hle⟩ | hfull
        · obtain rfl := Option.some.inj (hother.symm.trans hbase)
          exact absurd hle hfloor
        · exact hfull
      simp only [if_neg hfloor, refunded?_eq, if_pos hfull]

theorem spend_of_allowed (h : spender.Offers request.id)
    (hpoints : request.balance spender.ledger ≠ 0) (hallowed : ¬ spender.Forbids request)
    {base : Float} (hbase : spender.being.base? request.id = some base) :
    spender.spend request = (⟨request.pay spender.ledger,
      (spender.being.setAttribute request.id (request.move base)).1⟩, .ok) := by
  cases request with
  | raise id =>
    have hsome : ProgressionLedger.spendableBase? spender.being id = some base :=
      spendableBase_of_offers h hbase
    have hpoints : spender.ledger.attributePoints ≠ 0 := hpoints
    simp only [spend, ProgressionLedger.usePoint, hsome, if_neg hpoints]
    rfl
  | lower id =>
    have hsome : ProgressionLedger.spendableBase? spender.being id = some base :=
      spendableBase_of_offers h hbase
    have hpoints : spender.ledger.correctionPoints ≠ 0 := hpoints
    have hfloor : ¬ base ≤ ProgressionLedger.correctionFloor :=
      fun hle => hallowed (.inl ⟨base, hbase, hle⟩)
    have hroom : ¬ spender.ledger.attributePoints.toNat = UInt32.size - 1 :=
      fun hfull => hallowed (.inr hfull)
    simp only [spend, ProgressionLedger.useCorrection, hsome, if_neg hpoints, if_neg hfloor,
      refunded?_eq, if_neg hroom]
    rfl

/-- A request that is granted met no obstacle. -/
theorem spend_of_ok (h : (spender.spend request).2 = .ok) : ∃ base,
    spender.being.base? request.id = some base ∧ ¬ spender.Forbids request ∧
      spender.spend request = (⟨request.pay spender.ledger,
        (spender.being.setAttribute request.id (request.move base)).1⟩, .ok) := by
  have hoffers : spender.Offers request.id := by
    refine Classical.byContradiction fun hoffers => ?_
    rw [spend_of_not_offers hoffers] at h
    cases h
  have hpoints : request.balance spender.ledger ≠ 0 := by
    intro hzero
    rw [spend_of_no_points hoffers hzero] at h
    cases h
  have hallowed : ¬ spender.Forbids request := by
    intro hforbids
    rw [spend_of_forbids hoffers hpoints hforbids] at h
    cases h
  obtain ⟨base, hbase⟩ := exists_base_of_offers hoffers
  exact ⟨base, hbase, hallowed, spend_of_allowed hoffers hpoints hallowed hbase⟩

/-- What a granted request does: a point is moved without passing either end of its range, the base is
moved by one and no other is, the attribute and all that derives from it are recalculated, and nothing
becomes stale. -/
structure Paid (before : Spender) (request : PointRequest) (after : Spender) : Prop where
  points : if request.raises then
      after.ledger.attributePoints.toNat + 1 = before.ledger.attributePoints.toNat ∧
        after.ledger.correctionPoints = before.ledger.correctionPoints
    else
      after.ledger.attributePoints.toNat = before.ledger.attributePoints.toNat + 1 ∧
        after.ledger.correctionPoints.toNat + 1 = before.ledger.correctionPoints.toNat
  changed : after.ledger.changed
  registry_eq : after.being.attributes.registry = before.being.attributes.registry
  moved : ∀ id, after.being.base? id =
    if id = request.id then (before.being.base? id).map request.move else before.being.base? id
  fresh : ∀ id, id = request.id ∨
    Relation.TransGen before.being.attributes.registry.Reads id request.id →
      after.being.attributes.FreshAt id
  staysFresh : ∀ id, before.being.attributes.FreshAt id → after.being.attributes.FreshAt id

/-- How a request is answered, and what the answer stands for. -/
structure Answered (before : Spender) (request : PointRequest) (response : SpendResponse)
    (after : Spender) : Prop where
  invalid_iff : response = .invalidAttribute ↔ ¬ before.Offers request.id
  unpaid_iff : response = .noPointsLeft ↔
    before.Offers request.id ∧ request.balance before.ledger = 0
  denied_iff : response = .denied ↔
    before.Offers request.id ∧ request.balance before.ledger ≠ 0 ∧ before.Forbids request
  unchanged : response ≠ .ok → after = before
  paid : response = .ok → before.Paid request after

theorem toNat_sub_one_add_one {points : UInt32} (h : points ≠ 0) :
    (points - 1).toNat + 1 = points.toNat := by
  have hpos : points.toNat ≠ 0 := fun hzero => h (UInt32.toNat_inj.1 hzero)
  have hle : (1 : UInt32) ≤ points := UInt32.le_iff_toNat_le.2 (Nat.one_le_iff_ne_zero.2 hpos)
  rw [UInt32.toNat_sub_of_le _ _ hle]
  show points.toNat - 1 + 1 = points.toNat
  omega

theorem toNat_add_one {points : UInt32} (h : points.toNat ≠ UInt32.size - 1) :
    (points + 1).toNat = points.toNat + 1 := by
  have hlt : points.toNat < 2 ^ 32 := points.toNat_lt
  have hsize : UInt32.size = 2 ^ 32 := rfl
  rw [UInt32.toNat_add]
  show (points.toNat + 1) % 2 ^ 32 = points.toNat + 1
  omega

theorem paid_of_allowed (haccepted : spender.being.attributes.registry.Accepted)
    (h : spender.Offers request.id) (hpoints : request.balance spender.ledger ≠ 0)
    (hallowed : ¬ spender.Forbids request) {base : Float}
    (hbase : spender.being.base? request.id = some base) :
    spender.Paid request ⟨request.pay spender.ledger,
      (spender.being.setAttribute request.id (request.move base)).1⟩ where
  points := by
    cases request with
    | raise id => exact ⟨toNat_sub_one_add_one hpoints, rfl⟩
    | lower id =>
      have hroom : spender.ledger.attributePoints.toNat ≠ UInt32.size - 1 :=
        fun hfull => hallowed (.inr hfull)
      exact ⟨toNat_add_one hroom, toNat_sub_one_add_one hpoints⟩
  changed := by cases request <;> rfl
  registry_eq := AttributeStore.registry_setBase _
  moved := by
    intro id
    refine (AttributeStore.base?_setBase (request.move base)).trans ?_
    split
    · next heq =>
      subst heq
      rw [Being.base?] at hbase
      rw [Being.base?, hbase, Option.map_some, Option.map_some]
    · rfl
  fresh := by
    intro id hid
    have hdependent : id = request.id ∨
        id ∈ spender.being.attributes.registry.dependents request.id :=
      hid.imp_right haccepted.coherent.mem_dependents_iff.2
    refine AttributeStore.freshAt_setBase h.2 ?_ hdependent _
    rcases hid with rfl | hderives
    · exact exists_info_of_modifiable h.1
    · exact AttributeRegistry.exists_info_of_derives hderives
  staysFresh := fun _ hfresh => hfresh.setBase haccepted.coherent _

/-- Every request is answered as it should be. -/
theorem answered_spend (haccepted : spender.being.attributes.registry.Accepted)
    (request : PointRequest) :
    spender.Answered request (spender.spend request).2 (spender.spend request).1 := by
  by_cases hoffers : spender.Offers request.id
  · by_cases hpoints : request.balance spender.ledger = 0
    · rw [spend_of_no_points hoffers hpoints]
      constructor <;> simp [hoffers, hpoints]
    · by_cases hforbids : spender.Forbids request
      · rw [spend_of_forbids hoffers hpoints hforbids]
        constructor <;> simp [hoffers, hpoints, hforbids]
      · obtain ⟨base, hbase⟩ := exists_base_of_offers hoffers
        rw [spend_of_allowed hoffers hpoints hforbids hbase]
        refine ⟨?_, ?_, ?_, ?_, fun _ => paid_of_allowed haccepted hoffers hpoints hforbids hbase⟩ <;>
          simp [hoffers, hpoints, hforbids]
  · rw [spend_of_not_offers hoffers]
    constructor <;> simp [hoffers]

theorem Answered.registry_eq (h : before.Answered request response after) :
    after.being.attributes.registry = before.being.attributes.registry := by
  by_cases hok : response = .ok
  · exact (h.paid hok).registry_eq
  · rw [h.unchanged hok]

theorem Answered.freshAt (h : before.Answered request response after) {id : AttributeId}
    (hfresh : before.being.attributes.FreshAt id) : after.being.attributes.FreshAt id := by
  by_cases hok : response = .ok
  · exact (h.paid hok).staysFresh id hfresh
  · rwa [h.unchanged hok]

end Spender

/-! ### Runs of requests -/

/-- A request in a run, and what was before and after it. -/
structure Deal where
  before : Spender
  request : PointRequest
  response : SpendResponse
  after : Spender

/-- The requests that were granted, in their order. -/
def granted (deals : List Deal) : List PointRequest :=
  (deals.filter fun deal => deal.response = .ok).map (·.request)

namespace Spender

variable {spender : Spender}

/-- One request after the other. -/
def spendAll (spender : Spender) : List PointRequest → List Deal
  | [] => []
  | request :: rest =>
    let (after, response) := spender.spend request
    ⟨spender, request, response, after⟩ :: after.spendAll rest

/-- What is left after all requests. -/
def spent (spender : Spender) (requests : List PointRequest) : Spender :=
  requests.foldl (fun spender request => (spender.spend request).1) spender

/-- What the two balances and the bases come to after the granted requests. -/
structure Settled (before : Spender) (requests : List PointRequest) (after : Spender) : Prop where
  attributePoints : after.ledger.attributePoints.toNat + requests.countP (·.raises) =
    before.ledger.attributePoints.toNat + requests.countP (!·.raises)
  correctionPoints : after.ledger.correctionPoints.toNat + requests.countP (!·.raises) =
    before.ledger.correctionPoints.toNat
  base : ∀ id, after.being.base? id = (before.being.base? id).map fun base =>
    (requests.filter (·.id = id)).foldl PointRequest.move base

theorem settled_nil (spender : Spender) : spender.Settled [] spender where
  attributePoints := rfl
  correctionPoints := rfl
  base id := by simp

/-- A granted request adds its own move to what follows. -/
theorem Paid.settled {before middle after : Spender} {request : PointRequest}
    {requests : List PointRequest} (h : before.Paid request middle)
    (hrest : middle.Settled requests after) : before.Settled (request :: requests) after := by
  have hpoints := h.points
  have hattribute := hrest.attributePoints
  have hcorrection := hrest.correctionPoints
  refine ⟨?_, ?_, fun id => ?_⟩
  · cases request with
    | raise id =>
      obtain ⟨hpaid, -⟩ := hpoints
      rw [List.countP_cons_of_pos rfl, List.countP_cons_of_neg Bool.false_ne_true]
      omega
    | lower id =>
      obtain ⟨hrefunded, -⟩ := hpoints
      rw [List.countP_cons_of_neg Bool.false_ne_true, List.countP_cons_of_pos rfl]
      omega
  · cases request with
    | raise id =>
      obtain ⟨-, hsame⟩ := hpoints
      rw [List.countP_cons_of_neg Bool.false_ne_true, ← hsame]
      exact hcorrection
    | lower id =>
      obtain ⟨-, hpaid⟩ := hpoints
      rw [List.countP_cons_of_pos rfl]
      omega
  · rw [hrest.base, h.moved]
    by_cases hid : id = request.id
    · subst hid
      rw [if_pos rfl, List.filter_cons_of_pos (by simp), Option.map_map]
      rfl
    · rw [if_neg hid, List.filter_cons_of_neg (by simpa using Ne.symm hid)]

theorem settled_spendAll (haccepted : spender.being.attributes.registry.Accepted)
    (requests : List PointRequest) :
    spender.Settled (granted (spender.spendAll requests)) (spender.spent requests) := by
  induction requests generalizing spender with
  | nil => exact settled_nil spender
  | cons request rest ih =>
    have hanswered := answered_spend haccepted request
    have hrest := ih (hanswered.registry_eq ▸ haccepted)
    by_cases hok : (spender.spend request).2 = .ok
    · have hgranted : granted (spender.spendAll (request :: rest)) =
          request :: granted ((spender.spend request).1.spendAll rest) := by
        simp [spendAll, granted, hok]
      rw [hgranted]
      exact (hanswered.paid hok).settled hrest
    · have hsame := hanswered.unchanged hok
      have hgranted : granted (spender.spendAll (request :: rest)) =
          granted (spender.spendAll rest) := by
        simp [spendAll, granted, hok, hsame]
      have hspent : spender.spent (request :: rest) = spender.spent rest := by
        rw [spent, List.foldl_cons, hsame, ← spent]
      rw [hsame] at hrest
      rw [hgranted, hspent]
      exact hrest

theorem answered_spendAll (haccepted : spender.being.attributes.registry.Accepted)
    (requests : List PointRequest) : ∀ deal ∈ spender.spendAll requests,
      deal.before.Answered deal.request deal.response deal.after := by
  induction requests generalizing spender with
  | nil =>
    intro deal hdeal
    cases hdeal
  | cons request rest ih =>
    have hanswered := answered_spend haccepted request
    intro deal hdeal
    rcases List.mem_cons.1 hdeal with rfl | hdeal
    · exact hanswered
    · exact ih (hanswered.registry_eq ▸ haccepted) deal hdeal

theorem freshAt_spent (haccepted : spender.being.attributes.registry.Accepted)
    (requests : List PointRequest) {id : AttributeId}
    (h : spender.being.attributes.FreshAt id) :
    (spender.spent requests).being.attributes.FreshAt id := by
  induction requests generalizing spender with
  | nil => exact h
  | cons request rest ih =>
    have hanswered := answered_spend haccepted request
    exact ih (hanswered.registry_eq ▸ haccepted) (hanswered.freshAt h)

/-- What a granted request recalculates is still fresh when the run ends. -/
theorem freshAt_of_granted (haccepted : spender.being.attributes.registry.Accepted)
    (requests : List PointRequest) {request : PointRequest}
    (h : request ∈ granted (spender.spendAll requests)) {id : AttributeId}
    (hid : id = request.id ∨
      Relation.TransGen spender.being.attributes.registry.Reads id request.id) :
    (spender.spent requests).being.attributes.FreshAt id := by
  induction requests generalizing spender with
  | nil => cases h
  | cons first rest ih =>
    have hanswered := answered_spend haccepted first
    have hnext := hanswered.registry_eq ▸ haccepted
    obtain ⟨deal, hdeal, rfl⟩ := List.mem_map.1 h
    obtain ⟨hmem, hok⟩ := List.mem_filter.1 hdeal
    rcases List.mem_cons.1 hmem with rfl | hmem
    · exact freshAt_spent hnext rest ((hanswered.paid (of_decide_eq_true hok)).fresh id hid)
    · exact ih hnext (List.mem_map_of_mem (List.mem_filter.2 ⟨hmem, hok⟩))
        (hanswered.registry_eq.symm ▸ hid)

/-- Points are neither made nor lost. Whatever is asked for, every request is answered by the first
obstacle in its way or granted, what is refused changes nothing, and the balances and bases at the end
are those at the beginning with the granted requests counted. -/
theorem points_conserved (spender : Spender)
    (haccepted : spender.being.attributes.registry.Accepted) (requests : List PointRequest) :
    (∀ deal ∈ spender.spendAll requests,
        deal.before.Answered deal.request deal.response deal.after) ∧
      spender.Settled (granted (spender.spendAll requests)) (spender.spent requests) ∧
      ∀ request ∈ granted (spender.spendAll requests), ∀ id, (id = request.id ∨
        Relation.TransGen spender.being.attributes.registry.Reads id request.id) →
          (spender.spent requests).being.attributes.FreshAt id :=
  ⟨answered_spendAll haccepted requests, settled_spendAll haccepted requests,
    fun _ hrequest _ hid => freshAt_of_granted haccepted requests hrequest hid⟩

/-- A player with one point of each kind. -/
def sample : Spender where
  ledger := { attributePoints := 1, correctionPoints := 1 }
  being := .ofStore "Ana" (.forScope .sample .character)

/-- Strength is raised with the only point there is, and lowered again; vitality cannot be bought. -/
theorem points_conserved_of_sample :
    (sample.spendAll [.raise ⟨1⟩, .raise ⟨1⟩, .raise .hp, .lower ⟨1⟩]).map (·.response) =
      [.ok, .noPointsLeft, .invalidAttribute, .ok] ∧
    sample.Settled [.raise ⟨1⟩, .lower ⟨1⟩]
      (sample.spent [.raise ⟨1⟩, .raise ⟨1⟩, .raise .hp, .lower ⟨1⟩]) := by
  have haccepted : sample.being.attributes.registry.Accepted := by
    have hregistry : sample.being.attributes.registry = .sample :=
      AttributeStore.registry_recalculateEach _
    rw [hregistry]
    exact AttributeRegistry.sample_accepted
  have hgranted : granted (sample.spendAll [.raise ⟨1⟩, .raise ⟨1⟩, .raise .hp, .lower ⟨1⟩]) =
      [.raise ⟨1⟩, .lower ⟨1⟩] := by
    decide +kernel
  obtain ⟨-, hsettled, -⟩ :=
    points_conserved sample haccepted [.raise ⟨1⟩, .raise ⟨1⟩, .raise .hp, .lower ⟨1⟩]
  exact ⟨by decide +kernel, hgranted ▸ hsettled⟩

end Spender

end CharacterSim
