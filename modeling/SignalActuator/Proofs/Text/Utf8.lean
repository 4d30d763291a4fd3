/-
  UTF-8 — reading back what was written.

  A scalar is written in one to four bytes.  The first of them tells the decoder
  how many follow and between which bounds the second lies; the bytes that follow
  bring six bits each.

  * `piecesFrom_char`: the bytes of a scalar are one piece, whatever comes after;
  * `pieces_encode`: the pieces of a text are its scalars, none of them malformed;
    hence `decodeLossy_encode`;
  * `decodeLossy_eq_iff`: no other bytes are read as a text of one-byte scalars.
-/
import SignalActuator.Text.Utf8
import Mathlib.Tactic.SplitIfs

namespace SignalActuator.Utf8

/-! ## Single bytes -/

theorem piecesFrom_start (b : UInt8) (bs : List UInt8) :
    piecesFrom .start (b :: bs) =
      (lead b.toNat).1 ++ piecesFrom (lead b.toNat).2 bs := rfl

section
variable {left lo hi acc : Nat} {b : UInt8} (h : lo ≤ b.toNat ∧ b.toNat ≤ hi)
include h

theorem piecesFrom_last (bs : List UInt8) :
    piecesFrom (.inside 1 lo hi acc) (b :: bs) =
      some (Char.ofNat (acc * 64 + (b.toNat - 0x80))) :: piecesFrom .start bs := by
  simp [piecesFrom, step, h]

theorem piecesFrom_more (hl : left ≠ 1) (bs : List UInt8) :
    piecesFrom (.inside left lo hi acc) (b :: bs) =
      piecesFrom (.inside (left - 1) 0x80 0xBF (acc * 64 + (b.toNat - 0x80))) bs := by
  simp [piecesFrom, step, h, hl]

end

theorem toNat_ofNat_of_lt {n : Nat} (h : n < 256) : (UInt8.ofNat n).toNat = n := by
  simp [Nat.mod_eq_of_lt h]

theorem continuation {n lo hi : Nat} (h : lo ≤ n + 0x80 ∧ n + 0x80 ≤ hi) (hn : n < 64) :
    let b := UInt8.ofNat (n + 0x80)
    (lo ≤ b.toNat ∧ b.toNat ≤ hi) ∧ b.toNat - 0x80 = n := by
  intro b
  have hb : b.toNat = n + 0x80 := toNat_ofNat_of_lt (by omega)
  omega

theorem continuation_tail {n : Nat} (hn : n < 64) :
    let b := UInt8.ofNat (n + 0x80)
    (0x80 ≤ b.toNat ∧ b.toNat ≤ 0xBF) ∧ b.toNat - 0x80 = n :=
  continuation (by omega) hn

/-! ## First bytes -/

theorem lead_two {n : Nat} (h : 2 ≤ n ∧ n < 32) :
    lead (n + 0xC0) = ([], .inside 1 0x80 0xBF n) := by
  rw [lead, if_neg (by omega), if_pos (by omega), Nat.add_sub_cancel]

/-- The first of three bytes, for a scalar whose upper bits are `n` and `m`: no
    overlong form and no surrogate. -/
theorem lead_three {n m : Nat} (hn : n < 16) (hm : m < 64) (overlong : n = 0 → 32 ≤ m)
    (surrogate : n = 13 → m < 32) :
    ∃ lo hi, lead (n + 0xE0) = ([], .inside 2 lo hi n) ∧ lo ≤ m + 0x80 ∧ m + 0x80 ≤ hi := by
  unfold lead
  rw [if_neg (by omega), if_neg (by omega)]
  by_cases h0 : n = 0
  · exact ⟨0xA0, 0xBF, by simp [h0], by omega, by omega⟩
  by_cases h13 : n = 13
  · exact ⟨0x80, 0x9F, by simp [h13], by omega, by omega⟩
  · refine ⟨0x80, 0xBF, ?_, by omega, by omega⟩
    rw [if_neg (by omega), if_neg (by omega), if_pos (by omega), Nat.add_sub_cancel]

/-- The first of four bytes, for a scalar whose upper bits are `n` and `m`: no
    overlong form and nothing above the last scalar. -/
theorem lead_four {n m : Nat} (hn : n ≤ 4) (hm : m < 64) (overlong : n = 0 → 16 ≤ m)
    (beyond : n = 4 → m < 16) :
    ∃ lo hi, lead (n + 0xF0) = ([], .inside 3 lo hi n) ∧ lo ≤ m + 0x80 ∧ m + 0x80 ≤ hi := by
  unfold lead
  iterate 5 rw [if_neg (by omega)]
  by_cases h0 : n = 0
  · exact ⟨0x90, 0xBF, by simp [h0], by omega, by omega⟩
  by_cases h4 : n = 4
  · exact ⟨0x80, 0x8F, by simp [h4], by omega, by omega⟩
  · refine ⟨0x80, 0xBF, ?_, by omega, by omega⟩
    rw [if_neg (by omega), if_pos (by omega), Nat.add_sub_cancel]

/-! ## Scalars and texts -/

theorem piecesFrom_char (c : Char) (bs : List UInt8) :
    piecesFrom .start (String.utf8EncodeChar c ++ bs) = some c :: piecesFrom .start bs := by
  have valid : c.val.toNat < 0xD800 ∨ 0xDFFF < c.val.toNat ∧ c.val.toNat < 0x110000 := c.valid
  have done {n : Nat} (h : n = c.val.toNat) : Char.ofNat n = c := by
    rw [h]
    exact Char.ofNat_toNat c
  simp only [String.utf8EncodeChar]
  -- The cases are the lengths of scalars.
  split_ifs with h1 h2 h3
  · have hlead : lead c.val.toNat = ([some c], .start) := by
      rw [lead, if_pos (by omega), done rfl]
    rw [List.cons_append, piecesFrom_start, toNat_ofNat_of_lt (by omega), hlead]
    rfl
  · obtain ⟨hb, hv⟩ := continuation_tail (n := c.val.toNat % 64) (by omega)
    rw [List.cons_append, piecesFrom_start, toNat_ofNat_of_lt (by omega),
      lead_two (n := c.val.toNat / 64 % 32) (by omega)]
    simp only [List.nil_append, List.cons_append]
    rw [piecesFrom_last hb, hv, done (by omega)]
  · obtain ⟨lo, hi, hlead, hm⟩ := lead_three (n := c.val.toNat / 4096 % 16)
      (m := c.val.toNat / 64 % 64) (by omega) (by omega) (by omega) (by omega)
    obtain ⟨hb, hv⟩ := continuation hm (by omega)
    obtain ⟨hb', hv'⟩ := continuation_tail (n := c.val.toNat % 64) (by omega)
    rw [List.cons_append, piecesFrom_start, toNat_ofNat_of_lt (by omega), hlead]
    simp only [List.nil_append, List.cons_append]
    rw [piecesFrom_more hb (by omega), hv, piecesFrom_last hb', hv', done (by omega)]
  · obtain ⟨lo, hi, hlead, hm⟩ := lead_four (n := c.val.toNat / 262144 % 8)
      (m := c.val.toNat / 4096 % 64) (by omega) (by omega) (by omega) (by omega)
    obtain ⟨hb, hv⟩ := continuation hm (by omega)
    obtain ⟨hb', hv'⟩ := continuation_tail (n := c.val.toNat / 64 % 64) (by omega)
    obtain ⟨hb'', hv''⟩ := continuation_tail (n := c.val.toNat % 64) (by omega)
    rw [List.cons_append, piecesFrom_start, toNat_ofNat_of_lt (by omega), hlead]
    simp only [List.nil_append, List.cons_append]
    rw [piecesFrom_more hb (by omega), hv, piecesFrom_more hb' (by omega), hv',
      piecesFrom_last hb'', hv'', done (by omega)]

theorem pieces_encode (s : String) : pieces (encode s) = s.toList.map some := by
  unfold pieces encode
  induction s.toList with
  | nil => rfl
  | cons c cs ih => rw [List.flatMap_cons, piecesFrom_char, ih, List.map_cons]

theorem decodeLossy_encode (s : String) : decodeLossy (encode s) = s := by
  rw [decodeLossy, pieces_encode, List.map_map]
  exact (congrArg String.ofList (List.map_id s.toList)).trans String.ofList_toList

/-- Texts are told apart by their bytes. -/
theorem encode_injective : Function.Injective encode :=
  Function.LeftInverse.injective decodeLossy_encode

/-! ## Plain texts -/

/-- A scalar that is written in one byte, and not the null. -/
def isPlain (c : Char) : Bool :=
  0 < c.toNat && c.toNat < 0x80

/-- The scalar under construction will not be plain: its bits are too many, or the next
    byte brings as many. -/
def State.Wide : State → Prop
  | .start => True
  | .inside left lo _ acc => 2 ≤ acc ∨ left ≠ 1 ∧ 2 ≤ acc * 64 + (lo - 0x80)

/-- What a first byte may be: a whole scalar, the begin of a longer one, or malformed. -/
theorem lead_cases (b : Nat) :
    b < 0x80 ∧ lead b = ([some (Char.ofNat b)], .start) ∨
      (∃ left lo hi acc, lead b = ([], .inside left lo hi acc) ∧
        (State.inside left lo hi acc).Wide) ∨
      lead b = ([none], .start) := by
  generalize hl : lead b = l
  unfold lead at hl
  split_ifs at hl with h1 <;> subst hl
  · exact .inl ⟨h1, rfl⟩
  all_goals first
    | exact .inr (.inr rfl)
    | exact .inr (.inl ⟨_, _, _, _, rfl, by simp only [State.Wide]; omega⟩)

theorem not_plain_ofNat {n : Nat} (hn : 0x80 ≤ n) : ¬ isPlain (Char.ofNat n) := by
  rw [isPlain, Bool.and_eq_true, decide_eq_true_iff, decide_eq_true_iff]
  rintro ⟨hpos, hlt⟩
  by_cases hvalid : n.isValidChar
  · rw [Char.ofNat, dif_pos hvalid] at hlt
    exact absurd hlt (Nat.not_lt_of_le hn)
  · rw [Char.ofNat, dif_neg hvalid] at hpos
    exact absurd hpos (Nat.lt_irrefl 0)

theorem utf8EncodeChar_ofNat {b : UInt8} (hb : b.toNat < 0x80) :
    String.utf8EncodeChar (Char.ofNat b.toNat) = [b] := by
  have hvalid : b.toNat.isValidChar := Or.inl (by omega)
  have hval : (Char.ofNat b.toNat).val.toNat = b.toNat := by
    rw [Char.ofNat, dif_pos hvalid]
    rfl
  rw [String.utf8EncodeChar, hval, if_pos (by omega)]
  simp

theorem eq_cons_of_plain {cs : List Char} (hcs : ∀ c ∈ cs, isPlain c) {p : Option Char}
    {ps : List (Option Char)} (h : p :: ps = cs.map some) :
    ∃ c cs', p = some c ∧ isPlain c ∧ cs = c :: cs' ∧ ps = cs'.map some := by
  cases cs with
  | nil => cases h
  | cons c cs =>
    cases h
    exact ⟨c, cs, rfl, hcs c List.mem_cons_self, rfl, rfl⟩

/-- Nothing but its own bytes is read as a plain text. -/
theorem piecesFrom_plain {cs : List Char} (hcs : ∀ c ∈ cs, isPlain c) {st : State} (hst : st.Wide)
    {bs : List UInt8} (h : piecesFrom st bs = cs.map some) :
    st = .start ∧ bs = cs.flatMap String.utf8EncodeChar := by
  -- On the bytes.  Inside of a scalar the state stays wide until a piece comes out of it
  -- that is not plain, so that no such state is ever entered.
  induction bs generalizing st cs with
  | nil =>
    cases st with
    | start =>
      rw [piecesFrom, eq_comm, List.map_eq_nil_iff] at h
      rw [h]
      exact ⟨rfl, rfl⟩
    | inside =>
      obtain ⟨c, -, hc, -⟩ := eq_cons_of_plain hcs h
      cases hc
  | cons b bs ih =>
    cases st with
    | start =>
      rw [piecesFrom_start] at h
      rcases lead_cases b.toNat with ⟨hb, hl⟩ | ⟨left, lo, hi, acc, hl, hwide⟩ | hl
      · rw [hl] at h
        obtain ⟨c, cs', hc, hplain, rfl, h'⟩ := eq_cons_of_plain hcs h
        have hcs' : ∀ c ∈ cs', isPlain c := fun c hc => hcs c (List.mem_cons_of_mem _ hc)
        obtain ⟨-, hbs⟩ := ih hcs' hst h'
        have hbyte : [b] = String.utf8EncodeChar c := by
          rw [← Option.some.inj hc]
          exact (utf8EncodeChar_ofNat hb).symm
        rw [List.flatMap_cons, ← hbyte, ← hbs]
        exact ⟨rfl, rfl⟩
      · rw [hl] at h
        obtain ⟨hstart, -⟩ := ih hcs hwide h
        cases hstart
      · rw [hl] at h
        obtain ⟨c, -, hc, -⟩ := eq_cons_of_plain hcs h
        cases hc
    | inside left lo hi acc =>
      simp only [State.Wide] at hst
      by_cases hb : lo ≤ b.toNat ∧ b.toNat ≤ hi
      · by_cases hl : left = 1
        · subst hl
          rw [piecesFrom_last hb] at h
          obtain ⟨c, -, hc, hplain, -⟩ := eq_cons_of_plain hcs h
          rw [← Option.some.inj hc] at hplain
          exact absurd hplain (not_plain_ofNat (by omega))
        · rw [piecesFrom_more hb hl] at h
          have hwide : (State.inside (left - 1) 0x80 0xBF (acc * 64 + (b.toNat - 0x80))).Wide := by
            left
            omega
          obtain ⟨hstart, -⟩ := ih hcs hwide h
          cases hstart
      · rw [piecesFrom, step, if_neg hb] at h
        obtain ⟨c, -, hc, -⟩ := eq_cons_of_plain hcs h
        cases hc

/-- **A plain text is read from its own bytes only.** -/
theorem decodeLossy_eq_iff {s : String} (hs : s.toList.all isPlain) {bs : List UInt8} :
    decodeLossy bs = s ↔ bs = encode s := by
  rw [List.all_eq_true] at hs
  constructor
  · intro h
    have htext : (pieces bs).map (·.getD '\uFFFD') = s.toList := by
      rw [← h, decodeLossy, String.toList_ofList]
    have hwhole : ∀ p ∈ pieces bs, p = some (p.getD '\uFFFD') := by
      rintro (- | c) hp
      · have hplain := hs '\uFFFD' (htext ▸ List.mem_map_of_mem hp)
        exact absurd hplain (by decide)
      · rfl
    have hpieces : pieces bs = s.toList.map some := by
      rw [← htext, List.map_map]
      exact ((List.map_congr_left hwhole).symm.trans (List.map_id _)).symm
    have hstart : State.start.Wide := trivial
    exact (piecesFrom_plain hs hstart hpieces).2
  · rintro rfl
    exact decodeLossy_encode s

end SignalActuator.Utf8
