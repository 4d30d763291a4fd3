/-
  Placeholders — where an argument is filled in as one pass over it would.

  Filling in an argument takes two passes, one for each placeholder.  The second reads what
  the first has put in, so that an ssid, or its seam with the text around it, may be taken
  for a placeholder of the password.  The password itself is never read.

  * `pieces` reads an argument once, and `fillOnce` fills in what was read; `Reads` are its
    rules;
  * `Swapped`: a text in which some of the occurrences of a pattern are replaced, and
    `Reads.eq_replaceFrom_iff`: when these were all of them;
  * `argv_filled`: a command is filled in argument by argument, and exactly when this is
    what one pass makes;
  * `argv_filled_twice`: an ssid that is taken for a placeholder.
-/
import SignalActuator.Link.Association
import Mathlib.Data.List.Basic

namespace SignalActuator.Link.Association

/-! ## Reading an argument once -/

/-- A part of an argument. -/
inductive Piece
  | text (c : Char)
  | ssid
  | password
deriving DecidableEq

/-- The text that stands for a part in a command. -/
def Piece.value (c : Credentials) : Piece → List Char
  | .text x => [x]
  | .ssid => c.ssid.toList
  | .password => c.password.toList

/-- The parts of a text, from left to right; `skip` characters belong to a placeholder
    that is read already. -/
def piecesFrom : Nat → List Char → List Piece
  | _, [] => []
  | skip + 1, _ :: cs => piecesFrom skip cs
  | 0, c :: cs =>
    if ssidPlaceholder.toList.isPrefixOf (c :: cs) then
      .ssid :: piecesFrom (ssidPlaceholder.toList.length - 1) cs
    else if passwordPlaceholder.toList.isPrefixOf (c :: cs) then
      .password :: piecesFrom (passwordPlaceholder.toList.length - 1) cs
    else .text c :: piecesFrom 0 cs

/-- The parts of an argument. -/
def pieces (argument : String) : List Piece :=
  piecesFrom 0 argument.toList

/-- An argument filled in in one pass. -/
def fillOnce (c : Credentials) (argument : String) : String :=
  String.ofList ((pieces argument).flatMap (Piece.value c))

/-- The rules by which a text is read. -/
inductive Reads : List Char → List Piece → Prop
  | nil : Reads [] []
  | ssid {cs ps} (h : Reads cs ps) : Reads (ssidPlaceholder.toList ++ cs) (.ssid :: ps)
  | password {cs ps} (h : Reads cs ps) :
    Reads (passwordPlaceholder.toList ++ cs) (.password :: ps)
  | text {c cs ps} (noSsid : ¬ ssidPlaceholder.toList <+: c :: cs)
    (noPassword : ¬ passwordPlaceholder.toList <+: c :: cs) (h : Reads cs ps) :
    Reads (c :: cs) (.text c :: ps)

theorem eq_append_drop {p cs : List Char} {c : Char} (hp : p ≠ [])
    (h : p.isPrefixOf (c :: cs) = true) : c :: cs = p ++ cs.drop (p.length - 1) := by
  obtain ⟨rest, hrest⟩ := List.isPrefixOf_iff_prefix.1 h
  cases p with
  | nil => exact absurd rfl hp
  | cons o q =>
    obtain ⟨rfl, rfl⟩ := List.cons.inj hrest
    simp

theorem reads_piecesFrom (skip : Nat) (cs : List Char) :
    Reads (cs.drop skip) (piecesFrom skip cs) := by
  induction skip, cs using piecesFrom.induct with
  | case1 skip => rw [List.drop_nil]; exact .nil
  | case2 skip c cs ih => exact ih
  | case3 c cs hs ih =>
    rw [piecesFrom, if_pos hs, List.drop_zero, eq_append_drop (by decide) hs]
    exact .ssid ih
  | case4 c cs hs hw ih =>
    rw [piecesFrom, if_neg hs, if_pos hw, List.drop_zero, eq_append_drop (by decide) hw]
    exact .password ih
  | case5 c cs hs hw ih =>
    rw [piecesFrom, if_neg hs, if_neg hw]
    rw [List.isPrefixOf_iff_prefix] at hs hw
    exact .text hs hw ih

theorem reads_pieces (argument : String) : Reads argument.toList (pieces argument) :=
  reads_piecesFrom 0 argument.toList

/-! ## Replacing a pattern that does not overlap itself -/

section Replacing

variable {o : Char} {p q r xs cs : List Char}

theorem replaceFrom_skip (p r xs cs : List Char) :
    replaceFrom p r xs.length (xs ++ cs) = replaceFrom p r 0 cs := by
  induction xs with
  | nil => rfl
  | cons x xs ih => exact ih

theorem replaceFrom_pattern (o : Char) (q r cs : List Char) :
    replaceFrom (o :: q) r 0 (o :: q ++ cs) = r ++ replaceFrom (o :: q) r 0 cs := by
  have hprefix : (o :: q).isPrefixOf (o :: (q ++ cs)) = true :=
    List.isPrefixOf_iff_prefix.2 (List.prefix_append (o :: q) cs)
  rw [List.cons_append, replaceFrom, if_pos hprefix]
  exact congrArg (r ++ ·) (replaceFrom_skip (o :: q) r q cs)

theorem replaceFrom_cons {c : Char} (h : ¬ p <+: c :: cs) :
    replaceFrom p r 0 (c :: cs) = c :: replaceFrom p r 0 cs := by
  rw [replaceFrom, if_neg (by rwa [List.isPrefixOf_iff_prefix])]

theorem replaceFrom_append (h : o ∉ xs) (q r cs : List Char) :
    replaceFrom (o :: q) r 0 (xs ++ cs) = xs ++ replaceFrom (o :: q) r 0 cs := by
  induction xs with
  | nil => rfl
  | cons x xs ih =>
    obtain ⟨hne, hrest⟩ := List.ne_and_not_mem_of_not_mem_cons h
    rw [List.cons_append, replaceFrom_cons, ih hrest, List.cons_append]
    exact fun hp => hne (List.cons_prefix_cons.1 hp).1

theorem exists_gaps (p : List Char) (skip : Nat) (cs : List Char) :
    ∃ (first : List Char) (rest : List (List Char)), ∀ r,
      replaceFrom p r skip cs = first ++ rest.flatMap (r ++ ·) := by
  induction skip, cs using replaceFrom.induct p with
  | case1 skip => exact ⟨[], [], fun _ => by simp [replaceFrom]⟩
  | case2 skip c cs ih => exact ih
  | case3 c cs hp ih =>
    obtain ⟨first, rest, h⟩ := ih
    refine ⟨[], first :: rest, fun r => ?_⟩
    rw [replaceFrom, if_pos hp, h r, List.flatMap_cons, List.nil_append, List.append_assoc]
  | case4 c cs hp ih =>
    obtain ⟨first, rest, h⟩ := ih
    refine ⟨c :: first, rest, fun r => ?_⟩
    rw [replaceFrom, if_neg hp, h r, List.cons_append]

/-- A text in which a number of occurrences of a pattern are replaced. -/
inductive Swapped (p r : List Char) : Nat → List Char → List Char → Prop
  | nil : Swapped p r 0 [] []
  | keep (c : Char) {n cs out} (h : Swapped p r n cs out) : Swapped p r n (c :: cs) (c :: out)
  | swap {n cs out} (h : Swapped p r n cs out) : Swapped p r (n + 1) (p ++ cs) (r ++ out)

namespace Swapped

variable {n : Nat} {out : List Char}

theorem append_left (h : Swapped p r n cs out) (xs : List Char) :
    Swapped p r n (xs ++ cs) (xs ++ out) := by
  induction xs with
  | nil => exact h
  | cons x xs ih => exact .keep x ih

theorem length_eq (h : Swapped p r n cs out) :
    out.length + n * p.length = cs.length + n * r.length := by
  induction h with
  | nil => simp
  | keep c h ih => simp only [List.length_cons]; omega
  | swap h ih => simp only [List.length_append, Nat.succ_mul]; omega

/-- An occurrence that is kept in front of a text comes to the same as one that is replaced,
    with no fewer behind it, only if pattern and replacement are of one length. -/
theorem length_eq_of_kept {m : Nat} {all : List Char} (h : Swapped p r n cs out)
    (hall : Swapped p r m cs all) (hle : n ≤ m) (heq : p ++ out = r ++ all) :
    p.length = r.length := by
  obtain ⟨d, rfl⟩ := Nat.exists_eq_add_of_le hle
  have hout := h.length_eq
  have hreplaced := hall.length_eq
  have hlength := congrArg List.length heq
  rw [List.length_append, List.length_append] at hlength
  refine Nat.eq_of_mul_eq_mul_left d.succ_pos ?_
  rw [Nat.add_mul, Nat.add_mul] at hreplaced
  rw [Nat.succ_mul, Nat.succ_mul]
  omega

theorem eq_of_refl (h : Swapped p p n cs out) : out = cs := by
  induction h with
  | nil => rfl
  | keep c h ih => rw [ih]
  | swap h ih => rw [ih]

theorem of_cons {c : Char} (h : Swapped (o :: q) r n (c :: cs) out) :
    (∃ out', out = c :: out' ∧ Swapped (o :: q) r n cs out') ∨
      ∃ m rest out', n = m + 1 ∧ c :: cs = o :: q ++ rest ∧ out = r ++ out' ∧
        Swapped (o :: q) r m rest out' := by
  cases h with
  | keep _ h => exact .inl ⟨_, rfl, h⟩
  | swap h => exact .inr ⟨_, _, _, rfl, rfl, rfl, h⟩

theorem of_append (h : Swapped (o :: q) r n (xs ++ cs) out) (hxs : o ∉ xs) :
    ∃ out', out = xs ++ out' ∧ Swapped (o :: q) r n cs out' := by
  induction xs generalizing out with
  | nil => exact ⟨out, rfl, h⟩
  | cons x xs ih =>
    obtain ⟨hne, hrest⟩ := List.ne_and_not_mem_of_not_mem_cons hxs
    obtain ⟨out, rfl, hkept⟩ | ⟨_, _, _, _, heq, _⟩ := of_cons h
    · obtain ⟨out', rfl, hcs⟩ := ih hkept hrest
      exact ⟨out', rfl, hcs⟩
    · exact absurd (List.cons.inj heq).1.symm hne

theorem of_pattern (h : Swapped (o :: q) r n (o :: q ++ cs) out) (hq : o ∉ q) :
    (∃ out', out = o :: q ++ out' ∧ Swapped (o :: q) r n cs out') ∨
      ∃ m out', n = m + 1 ∧ out = r ++ out' ∧ Swapped (o :: q) r m cs out' := by
  obtain ⟨out, rfl, hkept⟩ | ⟨m, rest, out, rfl, heq, rfl, hswapped⟩ := of_cons h
  · obtain ⟨out', rfl, hcs⟩ := of_append hkept hq
    exact .inl ⟨out', rfl, hcs⟩
  · have heq : o :: q ++ cs = o :: q ++ rest := heq
    have hrest : cs = rest := List.append_cancel_left heq
    exact .inr ⟨m, out, rfl, rfl, hrest ▸ hswapped⟩

end Swapped

end Replacing

/-! ## The two placeholders -/

/-- The character that begins a placeholder, and stands nowhere else in one. -/
def opening : Char := '\x7b'

theorem ssidPlaceholder_toList : ssidPlaceholder.toList = opening :: "ssid\x7d".toList := rfl

theorem passwordPlaceholder_toList :
    passwordPlaceholder.toList = opening :: "password\x7d".toList := rfl

theorem opening_not_mem_ssid : opening ∉ "ssid\x7d".toList := by decide

theorem opening_not_mem_password : opening ∉ "password\x7d".toList := by decide

theorem not_ssid_prefix (cs : List Char) :
    ¬ ssidPlaceholder.toList <+: passwordPlaceholder.toList ++ cs := by
  simp [ssidPlaceholder, passwordPlaceholder, List.cons_prefix_cons]

theorem not_password_prefix (cs : List Char) :
    ¬ passwordPlaceholder.toList <+: ssidPlaceholder.toList ++ cs := by
  simp [ssidPlaceholder, passwordPlaceholder, List.cons_prefix_cons]

theorem piecesFrom_skip (xs cs : List Char) :
    piecesFrom xs.length (xs ++ cs) = piecesFrom 0 cs := by
  induction xs with
  | nil => rfl
  | cons x xs ih => exact ih

theorem replaceFrom_ssid (r cs : List Char) :
    replaceFrom ssidPlaceholder.toList r 0 (ssidPlaceholder.toList ++ cs) =
      r ++ replaceFrom ssidPlaceholder.toList r 0 cs := by
  rw [ssidPlaceholder_toList, replaceFrom_pattern]

theorem replaceFrom_password (r cs : List Char) :
    replaceFrom passwordPlaceholder.toList r 0 (passwordPlaceholder.toList ++ cs) =
      r ++ replaceFrom passwordPlaceholder.toList r 0 cs := by
  rw [passwordPlaceholder_toList, replaceFrom_pattern]

/-- The placeholder of the password is no occurrence of that of the ssid. -/
theorem replaceFrom_ssid_password (r cs : List Char) :
    replaceFrom ssidPlaceholder.toList r 0 (passwordPlaceholder.toList ++ cs) =
      passwordPlaceholder.toList ++ replaceFrom ssidPlaceholder.toList r 0 cs := by
  have hnot := not_ssid_prefix cs
  rw [passwordPlaceholder_toList, List.cons_append] at hnot ⊢
  rw [replaceFrom_cons hnot, ssidPlaceholder_toList, replaceFrom_append opening_not_mem_password]
  rfl

/-- The placeholder of the ssid is no occurrence of that of the password. -/
theorem replaceFrom_password_ssid (r cs : List Char) :
    replaceFrom passwordPlaceholder.toList r 0 (ssidPlaceholder.toList ++ cs) =
      ssidPlaceholder.toList ++ replaceFrom passwordPlaceholder.toList r 0 cs := by
  have hnot := not_password_prefix cs
  rw [ssidPlaceholder_toList, List.cons_append] at hnot ⊢
  rw [replaceFrom_cons hnot, passwordPlaceholder_toList, replaceFrom_append opening_not_mem_ssid]
  rfl

namespace Swapped

variable {cs out r : List Char} {n : Nat}

theorem of_text {c : Char} (h : Swapped passwordPlaceholder.toList r n (c :: cs) out)
    (noPassword : ¬ passwordPlaceholder.toList <+: c :: cs) :
    ∃ out', out = c :: out' ∧ Swapped passwordPlaceholder.toList r n cs out' := by
  rw [passwordPlaceholder_toList] at h noPassword ⊢
  obtain hkept | ⟨_, rest, _, _, heq, _⟩ := h.of_cons
  · exact hkept
  · exact absurd ⟨rest, heq.symm⟩ noPassword

theorem of_ssid (h : Swapped passwordPlaceholder.toList r n (ssidPlaceholder.toList ++ cs) out) :
    ∃ out', out = ssidPlaceholder.toList ++ out' ∧
      Swapped passwordPlaceholder.toList r n cs out' := by
  have hnot := not_password_prefix cs
  rw [ssidPlaceholder_toList, List.cons_append] at h hnot
  obtain ⟨rest, rfl, hrest⟩ := h.of_text hnot
  rw [passwordPlaceholder_toList] at hrest ⊢
  obtain ⟨out', rfl, hcs⟩ := hrest.of_append opening_not_mem_ssid
  exact ⟨out', rfl, hcs⟩

theorem of_password
    (h : Swapped passwordPlaceholder.toList r n (passwordPlaceholder.toList ++ cs) out) :
    (∃ out', out = passwordPlaceholder.toList ++ out' ∧
      Swapped passwordPlaceholder.toList r n cs out') ∨
    ∃ m out', n = m + 1 ∧ out = r ++ out' ∧ Swapped passwordPlaceholder.toList r m cs out' := by
  rw [passwordPlaceholder_toList] at h ⊢
  exact h.of_pattern opening_not_mem_password

end Swapped

/-! ## What was read and what is replaced -/

namespace Reads

variable {cs out r : List Char} {ps : List Piece} {n : Nat}

theorem piecesFrom_eq (h : Reads cs ps) : piecesFrom 0 cs = ps := by
  induction h with
  | nil => rfl
  | @ssid cs ps h ih =>
    have hprefix : ssidPlaceholder.toList.isPrefixOf (ssidPlaceholder.toList ++ cs) = true :=
      List.isPrefixOf_iff_prefix.2 (List.prefix_append ..)
    rw [ssidPlaceholder_toList, List.cons_append] at hprefix ⊢
    rw [piecesFrom, ssidPlaceholder_toList, if_pos hprefix, ← ih]
    exact congrArg (_ :: ·) (piecesFrom_skip _ cs)
  | @password cs ps h ih =>
    have hnot := not_ssid_prefix cs
    have hprefix :
        passwordPlaceholder.toList.isPrefixOf (passwordPlaceholder.toList ++ cs) = true :=
      List.isPrefixOf_iff_prefix.2 (List.prefix_append ..)
    rw [passwordPlaceholder_toList, List.cons_append] at hnot hprefix ⊢
    rw [← List.isPrefixOf_iff_prefix] at hnot
    rw [piecesFrom, if_neg hnot, passwordPlaceholder_toList, if_pos hprefix, ← ih]
    exact congrArg (_ :: ·) (piecesFrom_skip _ cs)
  | text noSsid noPassword h ih =>
    rw [← List.isPrefixOf_iff_prefix] at noSsid noPassword
    rw [piecesFrom, if_neg noSsid, if_neg noPassword, ih]

theorem append_left (h : Reads cs ps) {xs : List Char} (hxs : opening ∉ xs) :
    Reads (xs ++ cs) (xs.map .text ++ ps) := by
  induction xs with
  | nil => exact h
  | cons x xs ih =>
    obtain ⟨hne, hrest⟩ := List.ne_and_not_mem_of_not_mem_cons hxs
    refine .text ?_ ?_ (ih hrest)
    · rw [ssidPlaceholder_toList]
      exact fun hp => hne (List.cons_prefix_cons.1 hp).1
    · rw [passwordPlaceholder_toList]
      exact fun hp => hne (List.cons_prefix_cons.1 hp).1

theorem replaceFrom_ssid (h : Reads cs ps) (ssid : String) :
    replaceFrom ssidPlaceholder.toList ssid.toList 0 cs =
      ps.flatMap (Piece.value ⟨ssid, passwordPlaceholder⟩) := by
  induction h with
  | nil => rfl
  | ssid h ih => rw [Association.replaceFrom_ssid, ih, List.flatMap_cons]; rfl
  | password h ih => rw [replaceFrom_ssid_password, ih, List.flatMap_cons]; rfl
  | text noSsid noPassword h ih => rw [replaceFrom_cons noSsid, ih, List.flatMap_cons]; rfl

theorem swapped (h : Reads cs ps) (r : List Char) :
    Swapped passwordPlaceholder.toList r (ps.count .password) cs
      (replaceFrom passwordPlaceholder.toList r 0 cs) := by
  induction h with
  | nil => exact .nil
  | ssid h ih =>
    rw [replaceFrom_password_ssid, List.count_cons_of_ne (by decide)]
    exact ih.append_left _
  | password h ih =>
    rw [replaceFrom_password, List.count_cons_self]
    exact .swap ih
  | text noSsid noPassword h ih =>
    rw [replaceFrom_cons noPassword, List.count_cons_of_ne (by simp)]
    exact .keep _ ih

/-- **When all occurrences are replaced.**  Of the placeholders of the password in a text
    some are replaced.  The text is the one in which all are exactly if that were all of
    them, or they were replaced by themselves. -/
theorem eq_replaceFrom_iff (h : Reads cs ps)
    (hs : Swapped passwordPlaceholder.toList r n cs out) :
    n ≤ ps.count .password ∧ (out = replaceFrom passwordPlaceholder.toList r 0 cs ↔
      r = passwordPlaceholder.toList ∨ n = ps.count .password) := by
  induction h generalizing n out with
  | nil =>
    cases hs with
    | nil => simp [replaceFrom]
  | ssid h ih =>
    obtain ⟨out, rfl, hcs⟩ := hs.of_ssid
    rw [replaceFrom_password_ssid, List.count_cons_of_ne (by decide), List.append_right_inj]
    exact ih hcs
  | text noSsid noPassword h ih =>
    obtain ⟨out, rfl, hcs⟩ := hs.of_text noPassword
    rw [replaceFrom_cons noPassword, List.count_cons_of_ne (by simp), List.cons_inj_right]
    exact ih hcs
  | @password cs ps h ih =>
    rw [replaceFrom_password, List.count_cons_self]
    obtain ⟨out, rfl, hcs⟩ | ⟨n, out, rfl, rfl, hcs⟩ := hs.of_password
    · have hle := (ih hcs).1
      refine ⟨by omega, fun heq => .inl ?_, ?_⟩
      · -- One that is kept makes a difference in length, unless both are of one length.
        exact (List.append_inj_left heq (hcs.length_eq_of_kept (h.swapped r) hle heq)).symm
      · rintro (rfl | hn)
        · rw [hcs.eq_of_refl, (h.swapped _).eq_of_refl]
        · omega
    · obtain ⟨hle, hiff⟩ := ih hcs
      refine ⟨by omega, ?_⟩
      rw [List.append_right_inj, hiff, Nat.add_right_cancel_iff]

end Reads

/-! ## Arguments -/

/-- An argument that is filled in once is the one with its ssids filled in, in which as many
    placeholders of the password are replaced as it has. -/
theorem swapped_pieces (ssid password : String) (ps : List Piece) :
    Swapped passwordPlaceholder.toList password.toList (ps.count .password)
      (ps.flatMap (Piece.value ⟨ssid, passwordPlaceholder⟩))
      (ps.flatMap (Piece.value ⟨ssid, password⟩)) := by
  induction ps with
  | nil => exact .nil
  | cons piece ps ih =>
    rw [List.flatMap_cons, List.flatMap_cons]
    cases piece with
    | text c =>
      rw [List.count_cons_of_ne (by simp)]
      exact .keep c ih
    | ssid =>
      rw [List.count_cons_of_ne (by decide)]
      exact ih.append_left ssid.toList
    | password =>
      rw [List.count_cons_self]
      exact .swap ih

/-- An argument in which the ssid is filled in, but not the password. -/
def fillSsid (ssid argument : String) : String :=
  replaceAll ssidPlaceholder ssid argument

theorem fillSsid_eq (ssid argument : String) :
    fillSsid ssid argument = fillOnce ⟨ssid, passwordPlaceholder⟩ argument :=
  congrArg String.ofList ((reads_pieces argument).replaceFrom_ssid ssid)

/-- An argument is filled in as in one pass exactly if the ssid makes no further placeholder
    of the password, or the password is that placeholder. -/
theorem fill_eq_fillOnce_iff (c : Credentials) (argument : String) :
    fill c argument = fillOnce c argument ↔
      c.password = passwordPlaceholder ∨
        (pieces (fillSsid c.ssid argument)).count .password =
          (pieces argument).count .password := by
  obtain ⟨ssid, password⟩ := c
  have hswapped := swapped_pieces ssid password (pieces argument)
  have htext : (fillSsid ssid argument).toList =
      (pieces argument).flatMap (Piece.value ⟨ssid, passwordPlaceholder⟩) := by
    rw [fillSsid_eq, fillOnce, String.toList_ofList]
  rw [← htext] at hswapped
  obtain ⟨-, hiff⟩ := (reads_pieces (fillSsid ssid argument)).eq_replaceFrom_iff hswapped
  rw [String.toList_inj] at hiff
  rw [eq_comm, eq_comm (b := (pieces argument).count .password), ← hiff]
  exact String.ofList_inj

/-- Without a brace that stands by itself, neither in the ssid nor among the parts, a text
    with its ssids filled in has no further placeholder of the password. -/
theorem exists_reads_fillSsid {ssid : String} (hssid : opening ∉ ssid.toList) {ps : List Piece}
    (hps : .text opening ∉ ps) :
    ∃ qs, Reads (ps.flatMap (Piece.value ⟨ssid, passwordPlaceholder⟩)) qs ∧
      qs.count .password = ps.count .password := by
  induction ps with
  | nil => exact ⟨[], .nil, rfl⟩
  | cons piece ps ih =>
    obtain ⟨hne, hrest⟩ := List.ne_and_not_mem_of_not_mem_cons hps
    obtain ⟨qs, hreads, hcount⟩ := ih hrest
    have hplain (xs : List Char) (hxs : opening ∉ xs) :
        ∃ qs, Reads (xs ++ ps.flatMap (Piece.value ⟨ssid, passwordPlaceholder⟩)) qs ∧
          qs.count .password = ps.count .password := by
      refine ⟨_, hreads.append_left hxs, ?_⟩
      rw [List.count_append, hcount, List.count_eq_zero.2 (by simp), Nat.zero_add]
    cases piece with
    | text c =>
      rw [List.count_cons_of_ne (by simp)]
      exact hplain [c] (by simpa using hne)
    | ssid =>
      rw [List.count_cons_of_ne (by decide)]
      exact hplain ssid.toList hssid
    | password =>
      refine ⟨_, .password hreads, ?_⟩
      rw [List.count_cons_self, hcount, List.count_cons_self]

theorem count_fillSsid {ssid argument : String} (hssid : opening ∉ ssid.toList)
    (hpieces : .text opening ∉ pieces argument) :
    (pieces (fillSsid ssid argument)).count .password = (pieces argument).count .password := by
  obtain ⟨qs, hreads, hcount⟩ := exists_reads_fillSsid hssid hpieces
  rw [fillSsid_eq, pieces, fillOnce, String.toList_ofList, hreads.piecesFrom_eq, hcount]

/-- **How a command is filled in.**  It has the arguments of its template, each filled in by
    itself, and the password is put between texts that do not depend on it.  The arguments
    are those that one pass over each of them makes exactly if the ssid makes no further
    placeholder of the password in any, or the password is that placeholder; and they are
    if no brace stands by itself in the ssid or the template. -/
theorem argv_filled (template : List String) (c : Credentials) :
    (argv template c).length = template.length ∧
    (∀ i : Nat, (argv template c)[i]? = template[i]?.map (fill c)) ∧
    (∀ argument, ∃ (first : List Char) (rest : List (List Char)), ∀ password,
      (fill ⟨c.ssid, password⟩ argument).toList =
        first ++ rest.flatMap (password.toList ++ ·)) ∧
    (argv template c = template.map (fillOnce c) ↔
      c.password = passwordPlaceholder ∨ ∀ argument ∈ template,
        (pieces (fillSsid c.ssid argument)).count .password =
          (pieces argument).count .password) ∧
    (opening ∉ c.ssid.toList → (∀ argument ∈ template, .text opening ∉ pieces argument) →
      argv template c = template.map (fillOnce c)) := by
  have hiff : argv template c = template.map (fillOnce c) ↔
      c.password = passwordPlaceholder ∨ ∀ argument ∈ template,
        (pieces (fillSsid c.ssid argument)).count .password =
          (pieces argument).count .password := by
    simp only [argv, List.map_inj_left, fill_eq_fillOnce_iff, or_iff_not_imp_left]
    exact ⟨fun h hw a ha => h a ha hw, fun h a ha hw => h hw a ha⟩
  refine ⟨List.length_map .., fun i => by rw [argv, List.getElem?_map], fun argument => ?_, hiff,
    fun hssid hpieces => hiff.2 (.inr fun argument hmem =>
      count_fillSsid hssid (hpieces argument hmem))⟩
  obtain ⟨first, rest, h⟩ :=
    exists_gaps passwordPlaceholder.toList 0 (fillSsid c.ssid argument).toList
  exact ⟨first, rest, fun password => by rw [fill, replaceAll, String.toList_ofList, ← h]; rfl⟩

/-- A command that is filled in as one pass would. -/
theorem argv_filled_garage :
    let template := ["nmcli", "device", "wifi", "connect", ssidPlaceholder, "password",
      passwordPlaceholder]
    let c : Credentials := ⟨"garage", "s3cret"⟩
    opening ∉ c.ssid.toList ∧ (∀ argument ∈ template, .text opening ∉ pieces argument) ∧
      argv template c = template.map (fillOnce c) := by
  intro template c
  have hssid : opening ∉ c.ssid.toList := by decide
  have hpieces : ∀ argument ∈ template, .text opening ∉ pieces argument := by decide
  obtain ⟨-, -, -, -, hfilled⟩ := argv_filled template c
  exact ⟨hssid, hpieces, hfilled hssid hpieces⟩

/-- **The password in place of the ssid.**  An ssid that is a placeholder is read again; so
    is one that completes a placeholder with the text around it, and so are the two ends of
    one when nothing is put between them. -/
theorem argv_filled_twice :
    let c : Credentials := ⟨passwordPlaceholder, "secret"⟩
    let word : Credentials := ⟨"password", "secret"⟩
    let empty : Credentials := ⟨"", "secret"⟩
    argv [ssidPlaceholder] c = ["secret"] ∧
      [ssidPlaceholder].map (fillOnce c) = [passwordPlaceholder] ∧
      argv ["\x7b\x7bssid\x7d\x7d"] word = ["secret"] ∧
      ["\x7b\x7bssid\x7d\x7d"].map (fillOnce word) = [passwordPlaceholder] ∧
      argv ["\x7bpass\x7bssid\x7dword\x7d"] empty = ["secret"] ∧
      ["\x7bpass\x7bssid\x7dword\x7d"].map (fillOnce empty) = [passwordPlaceholder] := by
  decide

end SignalActuator.Link.Association
