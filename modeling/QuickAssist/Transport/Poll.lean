import QuickAssist.Transport.Pair

/-!
# Polling a bank

`adf_poll_bank` asks the status register which rings of a bank are not empty, and runs the response handler on the
rings that are polled. A ring structure is zero until `adf_create_ring` fills it in, and is not cleared by
`adf_remove_ring`.

**The defects.** The mask of a bank has its request rings too, so the handler is run on a request ring with requests in
it. The rings are told apart by the number in their structure, which is zero in a ring that was never created: if ring
0 is not empty, the handler is run on all of those as well (`pollBank_right_iff`).

**Left out.** The search for the device, and what the callback does with a response.
-/

namespace QuickAssist.Transport

open List BitVec

variable {n : ℕ}

/-- Of a `struct adf_etr_ring_data` what a poll uses. -/
structure RingData where
  ringNumber : ℕ
  /-- The ring has a callback. -/
  response : Bool
  /-- The messages in front of the first empty slot. -/
  waiting : ℕ
  /-- A ring has 4 MB at most, and a message 32 bytes at least. -/
  waiting_le : waiting ≤ 2 ^ 17

/-- Source: `struct adf_etr_bank_data`, with what `adf_init_bank`, `adf_create_ring` and `adf_remove_ring` leave in its
rings. -/
structure Bank (n : ℕ) where
  rings : Fin n → RingData
  ringMask : U16
  size_le : n ≤ 255
  number : ∀ i, (rings i).ringNumber = i ∨ ringMask.getLsbD i = false ∧ (rings i).ringNumber = 0

def initBank (h : n ≤ 255) : Bank n := ⟨fun _ => ⟨0, false, 0, by decide⟩, 0, h, by simp⟩

def Bank.createRing (b : Bank n) (i : Fin n) (callback : Bool) : Bank n where
  rings := Function.update b.rings i ⟨i, callback, 0, by decide⟩
  ringMask := b.ringMask ||| .twoPow 16 i
  size_le := b.size_le
  number j := by
    by_cases hj : j = i
    · subst hj
      simp
    · have hij : ¬ (i : ℕ) = j := fun h => hj (Fin.ext h).symm
      simpa [hj, getLsbD_twoPow, hij] using b.number j

inductive PollRet
  | zero
  | eagain

/-- Source: `adf_handle_response`, which returns how many responses were delivered. -/
def handleResponse (ring : RingData) (quota : U32) : ℕ :=
  min ring.waiting (if quota = 0 then noResponseQuota else quota.toNat)

/-- Source: the loop of `adf_poll_bank`. The result has the rings that were handled and `resp_total`. -/
def pollLoop (b : Bank n) (ringsNotEmpty quota : U32) : List (Fin n) → U32 → List (Fin n) × U32
  | [], respTotal => ([], respTotal)
  | i :: is, respTotal =>
    if ringsNotEmpty.getLsbD (b.rings i).ringNumber then
      let (polled, respTotal) :=
        pollLoop b ringsNotEmpty quota is (respTotal + .ofNat 32 (handleResponse (b.rings i) quota))
      (i :: polled, respTotal)
    else pollLoop b ringsNotEmpty quota is respTotal

/-- Source: `adf_poll_bank`. -/
def pollBank (b : Bank n) (eStat quota : U32) : List (Fin n) × PollRet :=
  let ringsNotEmpty := ~~~eStat &&& b.ringMask.setWidth 32
  if ringsNotEmpty &&& b.ringMask.setWidth 32 = 0 then ([], .eagain)
  else
    let (polled, respTotal) := pollLoop b ringsNotEmpty quota (List.finRange n) 0
    (polled, if respTotal = 0 then .eagain else .zero)

lemma pollLoop_eq (b : Bank n) (ringsNotEmpty quota : U32) (is : List (Fin n)) (respTotal : U32) :
    pollLoop b ringsNotEmpty quota is respTotal =
      let polled := is.filter fun i => ringsNotEmpty.getLsbD (b.rings i).ringNumber
      (polled, respTotal + .ofNat 32 (polled.map fun i => handleResponse (b.rings i) quota).sum) := by
  induction is generalizing respTotal with
  | nil => simp [pollLoop]
  | cons i is ih =>
    unfold pollLoop
    split
    next hi => simp [ih, hi, ofNat_add, BitVec.add_assoc]
    next hi => simp [ih, hi]

variable (b : Bank n) (eStat quota : U32)

/-- The ring was created, and is not empty. -/
def Bank.Ready (i : ℕ) : Prop := b.ringMask.getLsbD i = true ∧ eStat.getLsbD i = false
  deriving Decidable

def Bank.polled : List (Fin n) := (List.finRange n).filter fun i => b.Ready eStat (b.rings i).ringNumber

def Bank.delivered : ℕ := ((b.polled eStat).map fun i => handleResponse (b.rings i) quota).sum

lemma Bank.delivered_lt : b.delivered eStat quota < 2 ^ 32 := by
  have hle : ∀ k ∈ (b.polled eStat).map fun i => handleResponse (b.rings i) quota, k ≤ 2 ^ 17 := by
    intro k hk
    obtain ⟨i, -, rfl⟩ := mem_map.mp hk
    exact (Nat.min_le_left _ _).trans (b.rings i).waiting_le
  have hsum := sum_le_card_nsmul _ _ hle
  have hlen : (b.polled eStat).length ≤ n := (length_filter_le _ _).trans (by simp)
  have hsize := b.size_le
  rw [length_map, Nat.nsmul_eq_mul] at hsum
  unfold Bank.delivered
  omega

lemma getLsbD_ringsNotEmpty (i : ℕ) : (~~~eStat &&& b.ringMask.setWidth 32).getLsbD i = decide (b.Ready eStat i) := by
  by_cases hi : i < 32
  · simp [Bank.Ready, hi, Bool.and_comm]
  · have hmask : b.ringMask.getLsbD i = false := getLsbD_of_ge _ _ (by omega)
    simp [Bank.Ready, hi, hmask]

lemma pollBank_eq : pollBank b eStat quota =
    (b.polled eStat, if b.delivered eStat quota = 0 then .eagain else .zero) := by
  have hloop : pollLoop b (~~~eStat &&& b.ringMask.setWidth 32) quota (List.finRange n) 0 =
      (b.polled eStat, BitVec.ofNat 32 (b.delivered eStat quota)) := by
    rw [pollLoop_eq]
    simp only [getLsbD_ringsNotEmpty]
    exact Prod.ext rfl (BitVec.zero_add _)
  have hzero : BitVec.ofNat 32 (b.delivered eStat quota) = 0 ↔ b.delivered eStat quota = 0 := by
    rw [← toNat_inj, toNat_ofNat, Nat.mod_eq_of_lt (b.delivered_lt eStat quota)]
    rfl
  unfold pollBank
  dsimp only
  rw [BitVec.and_assoc, BitVec.and_self, hloop]
  split
  next hnone =>
    have hempty : b.polled eStat = [] := by
      refine filter_eq_nil_iff.mpr fun i _ => ?_
      rw [← getLsbD_ringsNotEmpty, hnone]
      simp
    simp [Bank.delivered, hempty]
  next => simp only [hzero]

/-- The handler is run on response rings that were created and on each of those that is not empty once, and the result
says whether a response was delivered. -/
structure PollsRight : Prop where
  only : ∀ i ∈ (pollBank b eStat quota).1, b.ringMask.getLsbD i = true ∧ (b.rings i).response = true
  once : ∀ i : Fin n, b.Ready eStat i → (b.rings i).response = true → (pollBank b eStat quota).1.count i = 1
  ret : (pollBank b eStat quota).2 = .zero ↔ ∃ i ∈ (pollBank b eStat quota).1, 0 < handleResponse (b.rings i) quota

/-- **A bank is polled right exactly if** no request ring is ready, and there is no ring that was never created if ring 0
is ready. -/
theorem pollBank_right_iff : PollsRight b eStat quota ↔ (∀ i : Fin n, b.Ready eStat i → (b.rings i).response = true) ∧
      (b.Ready eStat 0 → ∀ i, (b.rings i).ringNumber = 0 → b.ringMask.getLsbD i = true) := by
  have hmem (i : Fin n) : i ∈ b.polled eStat ↔ b.Ready eStat (b.rings i).ringNumber := by simp [Bank.polled]
  have hnumber (i : Fin n) (hi : b.ringMask.getLsbD i = true) : (b.rings i).ringNumber = i :=
    (b.number i).resolve_right fun h => by simp [hi] at h
  constructor
  · rintro ⟨honly, -, -⟩
    rw [pollBank_eq] at honly
    refine ⟨fun i hi => (honly i ?_).2, fun hzero i hi => (honly i ?_).1⟩
    · rwa [hmem, hnumber i hi.1]
    · rwa [hmem, hi]
  · rintro ⟨hresponse, hzero⟩
    refine ⟨fun i hi => ?_, fun i hi _ => ?_, ?_⟩
    · rw [pollBank_eq, hmem] at hi
      have hcreated : b.ringMask.getLsbD i = true := by
        rcases b.number i with h | ⟨-, h⟩
        · rw [← h]
          exact hi.1
        · exact hzero (h ▸ hi) i h
      exact ⟨hcreated, hresponse i (hnumber i hcreated ▸ hi)⟩
    · rw [pollBank_eq]
      apply count_eq_one_of_mem ((nodup_finRange n).filter _)
      exact (hmem i).mpr (by rwa [hnumber i hi.1])
    · rw [pollBank_eq]
      simp [Bank.delivered, sum_eq_zero_iff, Nat.pos_iff_ne_zero]

/-- **The handler is run on a request ring and on a ring that was never created:** ring 0 was created for requests, and
is not empty. -/
theorem request_ring_polled : ∃ b : Bank 2, b = (initBank (by decide)).createRing 0 false ∧
    (pollBank b 0 0).1 = [0, 1] ∧ ¬ PollsRight b 0 0 := by
  refine ⟨_, rfl, rfl, fun h => ?_⟩
  exact absurd (h.only 0 mem_cons_self) (by decide)

end QuickAssist.Transport
