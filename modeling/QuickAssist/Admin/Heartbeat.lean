import Mathlib.Data.List.ProdSigma
import Mathlib.Data.List.FinRange
import Mathlib.Algebra.Group.Nat.Defs
import QuickAssist.Lib.Words

/-!
# The heartbeat

The firmware counts, for each thread of each engine, the requests it has taken and the responses it has given.
`adf_get_heartbeat_status` compares a copy of these counters with the copy of the poll before, and counts for each
thread the polls in a row in which it was stuck: it gave no response, and it had a request to work on or is the admin
thread. Three of them, and the device is taken to be hung.

**The defect.** The number of such polls is kept in 16 bits and does not saturate. Of a thread that never answers
again, every 65536th poll and the two after it say that the device is alive (`silent_engine_alive`).

**Outside.** Memory for the copy is there. `adf_heartbeat_status`, which only asks devices that are up, is left out.
-/

namespace QuickAssist.Admin

open Function List

/-! ## A poll -/

/-- Source: `icp_qat_fw_init_admin_hb_cnt`. -/
structure HbCnt where
  respHeartbeatCnt : U16
  reqHeartbeatCnt : U16

/-- A thread of an engine, of `ADF_NUM_THREADS_PER_AE`. -/
abbrev Thread (maxAes : ℕ) := Fin maxAes × Fin 8

def aeAdminThread : Fin 8 := Fin.last 7

/-- `ADF_CFG_HB_COUNT_THRESHOLD` -/
def hbCountThreshold : ℕ := 3

variable {maxAes : ℕ}

/-- What is behind the live values in the memory for the heartbeat. -/
structure HbArea (maxAes : ℕ) where
  last : Thread maxAes → HbCnt
  count : Thread maxAes → U16

def HbArea.zero : HbArea maxAes := ⟨fun _ => ⟨0, 0⟩, fun _ => 0⟩

/-- The condition of the loop. -/
def noProgress (t : Thread maxAes) (curr : HbCnt) (last : U16) : Bool :=
  (t.2 == aeAdminThread || curr.reqHeartbeatCnt != curr.respHeartbeatCnt) && curr.respHeartbeatCnt == last

/-- The counts, and whether `ret` is `-EIO`. -/
def statusLoop (curr last : Thread maxAes → HbCnt) :
    List (Thread maxAes) → (Thread maxAes → U16) → Bool → (Thread maxAes → U16) × Bool
  | [], count, ret => (count, ret)
  | t :: ts, count, ret =>
    if noProgress t (curr t) (last t).respHeartbeatCnt then
      let retry := count t + 1
      statusLoop curr last ts (update count t retry) (ret || decide (hbCountThreshold ≤ retry.toNat))
    else statusLoop curr last ts (update count t 0) ret

def getHeartbeatStatus (live : Thread maxAes → HbCnt) (a : HbArea maxAes) : HbArea maxAes × Bool :=
  let (count, ret) := statusLoop live a.last (finRange maxAes ×ˢ finRange 8) a.count false
  (⟨live, count⟩, ret)

variable (live : ℕ → Thread maxAes → HbCnt)

/-- What a sequence of polls finds, before poll `k`. -/
def areaAt : ℕ → HbArea maxAes
  | 0 => .zero
  | k + 1 => (getHeartbeatStatus (live k) (areaAt k)).1

/-- Poll `k` says that the device is hung. -/
def fails (k : ℕ) : Bool := (getHeartbeatStatus (live k) (areaAt live k)).2

/-! ## What is expected -/

variable (t : Thread maxAes) (k : ℕ)

def respBefore : ℕ → U16
  | 0 => 0
  | k + 1 => (live k t).respHeartbeatCnt

def stuckAt (k : ℕ) : Bool := noProgress t (live k t) (respBefore live t k)

/-- Some thread was stuck in each of the last polls. -/
def Hung (k : ℕ) : Prop := ∃ t, hbCountThreshold ≤ k + 1 ∧ ∀ j < hbCountThreshold, stuckAt live t (k - j)

/-- The polls in a row before poll `k` in which a thread was stuck. -/
def stuckFor : ℕ → ℕ
  | 0 => 0
  | k + 1 => if stuckAt live t k then stuckFor k + 1 else 0

/-! ## The loop -/

lemma statusLoop_spec (curr last : Thread maxAes → HbCnt) {ts : List (Thread maxAes)} (hts : ts.Nodup)
    (count : Thread maxAes → U16) (ret : Bool) : (∀ t, (statusLoop curr last ts count ret).1 t =
        if t ∈ ts then if noProgress t (curr t) (last t).respHeartbeatCnt then count t + 1 else 0 else count t) ∧
      ((statusLoop curr last ts count ret).2 = true ↔ ret = true ∨ ∃ t ∈ ts,
        noProgress t (curr t) (last t).respHeartbeatCnt ∧ hbCountThreshold ≤ (count t + 1).toNat) := by
  induction ts generalizing count ret with
  | nil => simp [statusLoop]
  | cons x ts ih =>
    obtain ⟨hx, hts⟩ := nodup_cons.mp hts
    have hrest (v : U16) : (∃ t ∈ ts, noProgress t (curr t) (last t).respHeartbeatCnt ∧
        hbCountThreshold ≤ (update count x v t + 1).toNat) ↔ ∃ t ∈ ts,
          noProgress t (curr t) (last t).respHeartbeatCnt ∧ hbCountThreshold ≤ (count t + 1).toNat := by
      refine exists_congr fun t => and_congr_right fun ht => ?_
      rw [update_of_ne (ne_of_mem_of_not_mem ht hx)]
    unfold statusLoop
    split
    all_goals
      next hstuck =>
      refine ⟨fun t => ?_, ?_⟩
      · rw [(ih hts _ _).1]
        by_cases htx : t = x
        · subst htx
          simp [hx, hstuck]
        · simp [htx]
      · rw [(ih hts _ _).2, hrest]
        simp [hstuck, or_assoc]

lemma nodup_threads : (finRange maxAes ×ˢ finRange 8).Nodup := (nodup_finRange maxAes).product (nodup_finRange 8)

lemma mem_threads : t ∈ finRange maxAes ×ˢ finRange 8 := pair_mem_product.mpr ⟨mem_finRange _, mem_finRange _⟩

lemma last_areaAt : ((areaAt live k).last t).respHeartbeatCnt = respBefore live t k := by
  cases k <;> rfl

/-- **The stored count** is the number of polls in a row, modulo its size. -/
theorem count_areaAt : (areaAt live k).count t = BitVec.ofNat 16 (stuckFor live t k) := by
  induction k with
  | zero => rfl
  | succ k ih =>
    refine ((statusLoop_spec _ _ nodup_threads _ _).1 t).trans ?_
    rw [if_pos (mem_threads t), last_areaAt, ih, stuckFor]
    apply Eq.trans _ (apply_ite (BitVec.ofNat 16) _ _ _).symm
    rw [BitVec.ofNat_add]
    rfl

lemma fails_iff : fails live k = true ↔ ∃ t, hbCountThreshold ≤ stuckFor live t (k + 1) % 2 ^ 16 := by
  refine (statusLoop_spec _ _ nodup_threads _ _).2.trans ?_
  simp only [Bool.false_eq_true, false_or, mem_threads, true_and, last_areaAt, count_areaAt]
  refine exists_congr fun t => ?_
  change stuckAt live t k = true ∧ _ ↔ _
  rw [stuckFor]
  split
  next hstuck => simp [hstuck, BitVec.toNat_add]
  next hstuck => simp [hstuck, hbCountThreshold]

lemma le_stuckFor_iff (n k : ℕ) : n ≤ stuckFor live t k ↔ n ≤ k ∧ ∀ j < n, stuckAt live t (k - 1 - j) := by
  induction k generalizing n with
  | zero => simp +contextual [stuckFor]
  | succ k ih =>
    rcases n with _ | n
    · simp
    · have hshift (j : ℕ) : k + 1 - 1 - (j + 1) = k - 1 - j := by omega
      rw [stuckFor, Nat.forall_lt_succ_left]
      simp only [hshift]
      split
      next hstuck => simp [ih, hstuck]
      next hstuck => simp [hstuck]

lemma hung_iff : Hung live k ↔ ∃ t, hbCountThreshold ≤ stuckFor live t (k + 1) :=
  exists_congr fun t => (le_stuckFor_iff live t hbCountThreshold (k + 1)).symm

/-- **When the verdict is right.** -/
theorem heartbeat_right_iff (k : ℕ) : (fails live k = true ↔ Hung live k) ↔
      ((∃ t, hbCountThreshold ≤ stuckFor live t (k + 1)) →
        ∃ t, hbCountThreshold ≤ stuckFor live t (k + 1) % 2 ^ 16) := by
  rw [fails_iff, hung_iff]
  refine ⟨Iff.mpr, fun h => ⟨?_, h⟩⟩
  rintro ⟨t, ht⟩
  exact ⟨t, ht.trans (Nat.mod_le _ _)⟩

/-- Counters that do not move. -/
def silent : ℕ → Thread 1 → HbCnt := fun _ _ => ⟨0, 0⟩

lemma stuckFor_silent (t : Thread 1) (k : ℕ) : stuckFor silent t k = if t.2 = aeAdminThread then k else 0 := by
  induction k with
  | zero => simp [stuckFor]
  | succ k ih =>
    have hstuck : stuckAt silent t k ↔ t.2 = aeAdminThread := by
      cases k <;> simp [stuckAt, noProgress, respBefore, silent]
    simp only [stuckFor, hstuck, ih]
    split <;> rfl

/-- **An engine that never answers is reported alive** in the poll that its count overflows in. -/
theorem silent_engine_alive : Hung silent 65535 ∧ fails silent 65535 = false := by
  constructor
  · rw [hung_iff]
    exact ⟨(0, aeAdminThread), by rw [stuckFor_silent]; decide⟩
  · rw [← Bool.not_eq_true, fails_iff]
    rintro ⟨t, ht⟩
    rw [stuckFor_silent] at ht
    split at ht
    · exact absurd ht (by decide)
    · exact absurd ht (by decide)

end QuickAssist.Admin
