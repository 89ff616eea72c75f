import QuickAssist.Asym.Dh
import QuickAssist.Asym.Rsa

/-!
# What the device is given

RSA and DH put together: after keys and requests that were all tidy, the next one is carried as its caller means if
and only if it is tidy too (`operands_carried_iff`).

**The defect.** `qat_rsa_set_e` and `qat_rsa_set_d` see that an exponent is not longer than the modulus before they
compute how far into the buffer it goes. The other places do not: a component that is longer than half of the
modulus, a generator or a secret longer than `p`, and a source longer than the buffer are copied to an address
outside of it. And `qat_rsa_dec` maps as much of a source in one piece as the destination has, where `qat_rsa_enc`
maps the source. `operands_misplaced` has an instance of each.

**Outside.** The parsers return slices of the blob, and a scatter list has as many bytes as `src_len` says.
-/

namespace QuickAssist.Asym

open Lib Lib.BigEndian

/-- **Operands of public key requests.** In every state reached by tidy keys and requests, what is served next
is sound exactly if it is tidy. -/
theorem operands_carried_iff (es : List RsaEvent) (s : RsaTfm) (ds : List DhEvent) (t : DhTfm) :
    (Run (guarded (fun s e => e.Tidy s) (ofFun rsaStep)) rsaInit es s →
      ∀ e : RsaEvent, e.Served s → (e.Sound s ↔ e.Tidy s)) ∧
    (Run (guarded (fun s e => e.Tidy s) (ofFun dhStep)) dhInit ds t →
      ∀ e : DhEvent, e.Served t → (e.Sound t ↔ e.Tidy t)) :=
  ⟨fun h _ => rsa_sound_iff h, fun h _ => dh_sound_iff h⟩

/-! ## Instances -/

def ones (n : ℕ) (h : n < 2 ^ 32) : Blob := ⟨List.replicate n 1, by rwa [List.length_replicate]⟩

def ones.take {n : ℕ} {h : n < 2 ^ 32} (len : ℕ) (hle : len ≤ n) : Slice (ones n h) :=
  ⟨0, len, by simpa [ones] using hle⟩

def onesKey (pLen : ℕ) (hle : pLen ≤ 64) : RsaKey where
  blob := ones 64 (by decide)
  n := ones.take 64 (by decide)
  e := ones.take 1 (by decide)
  d := ones.take 64 (by decide)
  p := ones.take pLen hle
  q := ones.take 32 (by decide)
  dp := ones.take 32 (by decide)
  dq := ones.take 32 (by decide)
  qinv := ones.take 32 (by decide)

def plenty : KeyMemory := ⟨true, true, true, true, true, true, true, true⟩

def fine : Answers := ⟨true, true, true, true, fun _ => none⟩

def onesSource (len : ℕ) (h : len < 2 ^ 32) : Source where
  list := ⟨List.replicate len 1, [], fun _ => 0⟩
  len := .ofNat 32 len
  enough := by
    rw [BitVec.toNat_ofNat, Nat.mod_eq_of_lt h]
    simp [Scatterlist.bytes]

def keyedTfm : RsaTfm :=
  ⟨(qatRsaSetkey rsaCtxInit (.ok (onesKey 32 (by decide))) true plenty).1, some (onesKey 32 (by decide))⟩

lemma keyedTfm_run : Run (guarded (fun s e => e.Tidy s) (ofFun rsaStep)) rsaInit
      [.setkey (.ok (onesKey 32 (by decide))) true plenty] keyedTfm := by
  refine Run.single ⟨?_, ?_⟩
  · rintro key ⟨⟩
    decide +kernel
  · rfl

def onesSecret (len : ℕ) (hle : len ≤ 193) : DhParams where
  blob := ones 193 (by decide)
  key := ones.take len hle
  p := some (ones.take 192 (by decide))
  g := some (ones.take 2 (by decide))

/-- A signature of forty bytes with a key of 512 bits, and a secret of 1536 bits. -/
theorem short_source_carried :
    (∃ msg, rsaRequest .dec keyedTfm.ctx ⟨onesSource 40 (by decide), ⟨true, 64⟩⟩ fine = .sent msg ∧
      msg.Gives 64 ((onesKey 32 (by decide)).operands .dec true (onesSource 40 (by decide)))) ∧
    (qatDhSetSecret dhCtxInit (some (onesSecret 192 (by decide))) ⟨true, true, true⟩).1.Has
      (onesSecret 192 (by decide)) := by
  constructor
  · have hsound := (((operands_carried_iff _ _ [] dhInit).1 keyedTfm_run
      (.request .dec ⟨onesSource 40 (by decide), ⟨true, 64⟩⟩ fine) ⟨_, rfl⟩).mpr (by
        change RsaCtx.RequestTidy _ _ _
        decide +kernel))
    obtain ⟨key, hkey, hgives⟩ := hsound
    cases hkey
    exact ⟨_, rfl, hgives _ rfl⟩
  · have hsound := (((operands_carried_iff [] rsaInit _ _).2 (.nil dhInit)
      (.setSecret (some (onesSecret 192 (by decide))) ⟨true, true, true⟩) rfl).mpr (by
        rintro params ⟨⟩
        decide +kernel))
    obtain ⟨params, hparams, -, hhas⟩ := hsound
    cases hparams
    exact hhas

lemma rsa_not_sound {es : List RsaEvent} {s : RsaTfm}
    (h : Run (guarded (fun s e => e.Tidy s) (ofFun rsaStep)) rsaInit es s) {e : RsaEvent}
    (hserved : e.Served s) (htidy : ¬ e.Tidy s) : e.Served s ∧ ¬ e.Sound s :=
  ⟨hserved, fun hsound => htidy ((rsa_sound_iff h hserved).mp hsound)⟩

/-- **What goes wrong:** a first prime and a secret that are one byte too long, a source that is longer than the
key, and one mapped with the length of the destination. -/
theorem operands_misplaced :
    (∃ e : RsaEvent, e = .setkey (.ok (onesKey 33 (by decide))) true plenty ∧ e.Served rsaInit ∧ ¬ e.Sound rsaInit) ∧
    (∃ e : RsaEvent, e = .request .enc ⟨onesSource 65 (by decide), ⟨true, 64⟩⟩ fine ∧
      e.Served keyedTfm ∧ ¬ e.Sound keyedTfm) ∧
    (∃ e : RsaEvent, e = .request .dec ⟨onesSource 64 (by decide), ⟨true, 128⟩⟩ fine ∧
      e.Served keyedTfm ∧ ¬ e.Sound keyedTfm) ∧
    ∃ e : DhEvent, e = .setSecret (some (onesSecret 193 (by decide))) ⟨true, true, true⟩ ∧
      e.Served dhInit ∧ ¬ e.Sound dhInit := by
  refine ⟨⟨_, rfl, rsa_not_sound (.nil rsaInit) rfl ?_⟩,
    ⟨_, rfl, rsa_not_sound keyedTfm_run ⟨_, rfl⟩ ?_⟩, ⟨_, rfl, rsa_not_sound keyedTfm_run ⟨_, rfl⟩ ?_⟩,
    ⟨_, rfl, rfl, fun hsound => ?_⟩⟩
  · intro htidy
    have hcrt := htidy _ rfl
    revert hcrt
    decide +kernel
  · change ¬ RsaCtx.RequestTidy _ _ _
    decide +kernel
  · change ¬ RsaCtx.RequestTidy _ _ _
    decide +kernel
  · have hserved : DhEvent.Served dhInit (.setSecret (some (onesSecret 193 (by decide))) ⟨true, true, true⟩) := rfl
    have hfits := (dh_sound_iff (.nil dhInit) hserved).mp hsound _ rfl
    revert hfits
    decide +kernel

end QuickAssist.Asym
