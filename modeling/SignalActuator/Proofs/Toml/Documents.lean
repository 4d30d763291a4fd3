/-
  Documents read back — sections whose values are written already are read as
  the tables of those values.

  * `Denotes`: a text that is read as a value, whatever comes behind it that
    ends one, with `denotes_quoted`, `denotes_toString` and `denotes_list`;
  * `Says`: a text that is read as a list of statements, statement by statement;
  * `parse?_sections`: a written document is read as its sections, in order.
-/
import SignalActuator.Toml.Document
import SignalActuator.Proofs.Toml.Numbers
import SignalActuator.Proofs.Toml.Strings
import Mathlib.Data.List.Forall2

namespace SignalActuator.Toml

/-! ## Blank stretches -/

/-- A character that begins neither a blank stretch nor a comment. -/
def IsInk (c : Char) : Prop :=
  isBlank c = false ∧ c ≠ '#' ∧ c ≠ '\n' ∧ c ≠ '\r'

instance : DecidablePred IsInk :=
  fun c => inferInstanceAs (Decidable (isBlank c = false ∧ c ≠ '#' ∧ c ≠ '\n' ∧ c ≠ '\r'))

theorem skipBlanks_ink {c : Char} (h : isBlank c = false) (cs : List Char) :
    skipBlanks (c :: cs) = c :: cs :=
  List.dropWhile_cons_of_neg (by simp [h])

theorem skipComment_ink {c : Char} (h : c ≠ '#') (cs : List Char) :
    skipComment (c :: cs) = c :: cs := by
  simp [skipComment, h]

theorem skipBlankLines_ink {c : Char} (h : IsInk c) (fuel : Nat) (cs : List Char) :
    skipBlankLines fuel (c :: cs) = c :: cs := by
  cases fuel with
  | zero => rfl
  | succ fuel =>
    simp [skipBlankLines, skipBlanks_ink h.1, skipComment_ink h.2.1, lineBreak?, h.2.2]

theorem skipBlankLines_blank {c : Char} (h : isBlank c = true) (fuel : Nat) (cs : List Char) :
    skipBlankLines (fuel + 1) (c :: cs) = skipBlankLines (fuel + 1) cs := by
  simp [skipBlankLines, skipBlanks, h]

theorem skipBlankLines_line (fuel : Nat) (cs : List Char) :
    skipBlankLines (fuel + 1) ('\n' :: cs) = skipBlankLines fuel cs := by
  simp [skipBlankLines, skipBlanks, isBlank, skipComment, lineBreak?]

/-! ## Values -/

/-- A text that is read as a value nested at most `depth` deep, whatever comes
    behind it that ends a value. -/
structure Denotes (depth : Nat) (text : String) (v : Value) : Prop where
  /-- It begins with a character that a list or a line goes on with. -/
  starts : ∃ d cs, text.toList = d :: cs ∧ IsInk d ∧ d ≠ ']'
  reads : ∀ c rest, IsEnd c → value? depth (text.toList ++ c :: rest) = some (v, c :: rest)

/-- A value that is no list and no table is read at any depth. -/
theorem value?_of_scalar {cs : List Char} {r : Value × List Char} (h : scalar cs = some r)
    (depth : Nat) : value? depth cs = some r := by
  cases depth with
  | zero => exact h
  | succ depth =>
    unfold value?
    split
    · simp [scalar, isDigitOf, hexDigit?] at h
    · simp [scalar, isDigitOf, hexDigit?] at h
    · exact h

theorem scalar_of_string? {cs s rest : List Char} (h : string? cs = some (s, rest)) :
    scalar cs = some (.string (String.ofList s), rest) := by
  have hr : (string? cs).map (fun r => (Value.string (String.ofList r.1), r.2)) =
      some (.string (String.ofList s), rest) := by rw [h]; rfl
  unfold string? at h
  split at h
  · exact hr
  · exact hr
  · exact hr
  · exact hr
  · cases h

theorem quoted_starts (s : String) :
    ∃ d cs, (quoted s).toList = d :: cs ∧ (d = '"' ∨ d = '\'') := by
  rw [quoted, String.toList_ofList]
  cases Style.of s.toList <;> exact ⟨_, _, rfl, by simp⟩

theorem denotes_quoted (depth : Nat) (s : String) : Denotes depth (quoted s) (.string s) where
  starts := by
    obtain ⟨d, cs, h, hd⟩ := quoted_starts s
    exact ⟨d, cs, h, by rcases hd with rfl | rfl <;> decide⟩
  reads c rest hc := by
    have hq : ∀ q, q = '"' ∨ q = '\'' → (c :: rest).head? ≠ some q := by
      rcases hc with rfl | rfl | rfl <;> simp
    have hread := scalar_of_string? (string?_quoted s (hq _ (.inl rfl)) (hq _ (.inr rfl)))
    rw [String.ofList_toList] at hread
    exact value?_of_scalar hread depth

theorem isInk_of_digit {d : Char} (h : isDigitOf 10 d = true) : IsInk d ∧ d ≠ ']' := by
  have hne : ∀ x, isDigitOf 10 x = false → d ≠ x := by rintro x hx rfl; simp_all
  have hb : isBlank d = false := by simp [isBlank, hne ' ' (by decide), hne '\t' (by decide)]
  exact ⟨⟨hb, hne _ (by decide), hne _ (by decide), hne _ (by decide)⟩, hne _ (by decide)⟩

theorem denotes_toString (depth : Nat) {n : Nat} (hn : n < integerLimit) :
    Denotes depth (toString n) (.integer n) where
  starts := by
    rw [Nat.toString_eq_repr, Nat.toList_repr]
    have hds := isDigitOf_of_mem_toDigits (n := n)
    cases h : Nat.toDigits 10 n with
    | nil => exact absurd h Nat.toDigits_ne_nil
    | cons d ds => exact ⟨d, ds, rfl, isInk_of_digit (hds d (by simp [h]))⟩
  reads c rest hc := value?_of_scalar (scalar_toString hn hc rest) depth

/-! ## Lists -/

section

variable {item : Reader Value} {fuel : Nat} {cs rest : List Char} {d : Char} {ds : List Char}
  {v : Value}

theorem items?_close (hskip : skipBlankLines (cs.length + 1) cs = ']' :: rest) :
    items? item (fuel + 1) cs = some ([], rest) := by
  rw [items?, hskip]
  rfl

theorem items?_last (hskip : skipBlankLines (cs.length + 1) cs = d :: ds) (hd : d ≠ ']')
    (hread : item (d :: ds) = some (v, ']' :: rest)) :
    items? item (fuel + 1) cs = some ([v], rest) := by
  rw [items?, hskip]
  simp [hd, hread, skipBlankLines_ink (show IsInk ']' by decide)]

theorem items?_more (hskip : skipBlankLines (cs.length + 1) cs = d :: ds) (hd : d ≠ ']')
    (hread : item (d :: ds) = some (v, ',' :: rest)) {vs : List Value} {rest' : List Char}
    (hmore : items? item fuel rest = some (vs, rest')) :
    items? item (fuel + 1) cs = some (v :: vs, rest') := by
  rw [items?, hskip]
  simp [hd, hread, skipBlankLines_ink (show IsInk ',' by decide), hmore]

end

def itemLines (texts : List String) : List Char :=
  texts.flatMap fun v => ' ' :: ' ' :: ' ' :: ' ' :: (v.toList ++ [',', '\n'])

theorem length_le_itemLines (texts : List String) : texts.length ≤ (itemLines texts).length := by
  induction texts with
  | nil => exact Nat.le_refl _
  | cons v texts ih => simp [itemLines] at *; omega

theorem list_toList (v w : String) (texts : List String) :
    (list (v :: w :: texts)).toList = '[' :: '\n' :: (itemLines (v :: w :: texts) ++ [']']) := by
  simp [list, itemLines, List.flatMap_map]

theorem items?_lines {depth : Nat} {texts : List String} {vs : List Value}
    (h : List.Forall₂ (Denotes depth) texts vs) (rest : List Char) {fuel : Nat}
    (hf : texts.length < fuel) :
    items? (value? depth) fuel ('\n' :: (itemLines texts ++ ']' :: rest)) = some (vs, rest) := by
  induction h generalizing fuel with
  | nil =>
    obtain ⟨fuel, rfl⟩ := Nat.exists_eq_add_of_lt hf
    have hclose : IsInk ']' := by decide
    exact items?_close (by simp [itemLines, skipBlankLines_line, skipBlankLines_ink hclose])
  | @cons text v texts vs hv _ ih =>
    obtain ⟨fuel, rfl⟩ : ∃ n, fuel = n + 1 := ⟨fuel - 1, by simp at hf; omega⟩
    have hblank : isBlank ' ' = true := by decide
    obtain ⟨d, ds, hd, hink, hclose⟩ := hv.starts
    have hread := hv.reads ',' ('\n' :: (itemLines texts ++ ']' :: rest)) (by simp [IsEnd])
    rw [hd] at hread
    refine items?_more ?_ hclose hread (ih (by simpa using hf))
    simp [itemLines, hd, skipBlankLines_line, skipBlankLines_blank hblank,
      skipBlankLines_ink hink]

theorem value?_list {depth : Nat} {cs rest : List Char} {vs : List Value}
    (h : items? (value? depth) (cs.length + 1) cs = some (vs, rest)) :
    value? (depth + 1) ('[' :: cs) = some (.array false vs, rest) := by
  rw [value?, h]
  rfl

theorem denotes_list {depth : Nat} {texts : List String} {vs : List Value}
    (h : List.Forall₂ (Denotes depth) texts vs) :
    Denotes (depth + 1) (list texts) (.array false vs) where
  starts := by
    have hlist : ∃ cs, (list texts).toList = '[' :: cs := by
      match texts with
      | [] | [_] | _ :: _ :: _ => simp [list]
    obtain ⟨cs, hcs⟩ := hlist
    exact ⟨'[', cs, hcs, by decide⟩
  reads c rest _ := by
    have hclose : IsInk ']' := by decide
    match texts, vs, h with
    | [], [], _ =>
      exact value?_list (items?_close (skipBlankLines_ink hclose _ _))
    | [text], [v], .cons hv .nil =>
      obtain ⟨d, ds, hd, hink, hd'⟩ := hv.starts
      have hread := hv.reads ']' (c :: rest) (by simp [IsEnd])
      rw [hd] at hread
      have hitems : items? (value? depth) ((text.toList ++ ']' :: c :: rest).length + 1)
          (text.toList ++ ']' :: c :: rest) = some ([v], c :: rest) :=
        items?_last (by rw [hd]; exact skipBlankLines_ink hink _ _) hd' hread
      simpa [list] using value?_list hitems
    | text :: text' :: texts, vs, h =>
      rw [list_toList, List.cons_append, List.cons_append, List.append_assoc]
      refine value?_list (items?_lines h _ ?_)
      have := length_le_itemLines (text :: text' :: texts)
      simp only [List.length_cons, List.length_append] at this ⊢
      omega

/-! ## Statements -/

/-- A text that is read as a list of statements, one after the other. -/
inductive Says : List Char → List Statement → Prop
  | nil : Says [] []
  | line {cs ss} : Says cs ss → Says ('\n' :: cs) ss
  | cons {d x cs s ss} : IsInk d → statement? (d :: x ++ cs) = some (s, cs) → Says cs ss →
      Says (d :: x ++ cs) (s :: ss)

theorem Says.length_le {cs : List Char} {ss : List Statement} (h : Says cs ss) :
    ss.length ≤ cs.length := by
  induction h with
  | nil => exact Nat.le_refl _
  | line _ ih => exact Nat.le_succ_of_le ih
  | cons _ _ _ ih => simp only [List.length_cons, List.length_append] at *; omega

theorem Says.reads {cs : List Char} {ss : List Statement} (h : Says cs ss) {fuel : Nat}
    (hf : ss.length < fuel) : statementsFrom? fuel cs = some ss := by
  induction h generalizing fuel with
  | nil =>
    obtain ⟨fuel, rfl⟩ := Nat.exists_eq_add_of_lt hf
    rfl
  | line _ ih =>
    obtain ⟨fuel, rfl⟩ : ∃ n, fuel = n + 1 := ⟨fuel - 1, by omega⟩
    rw [← ih hf, statementsFrom?, statementsFrom?, List.length_cons, skipBlankLines_line]
  | @cons d x cs s ss hd hs _ ih =>
    obtain ⟨fuel, rfl⟩ : ∃ n, fuel = n + 1 := ⟨fuel - 1, by omega⟩
    rw [List.cons_append] at hs ⊢
    rw [statementsFrom?, skipBlankLines_ink hd, skipComment_ink hd.2.1]
    simp [hs, ih (by simpa using hf)]

/-- A key that is written without quotes. -/
def IsBareKey (k : String) : Prop :=
  k ≠ "" ∧ ∀ c ∈ k.toList, isBare c = true

instance : DecidablePred IsBareKey :=
  fun k => decidable_of_iff (k ≠ "" ∧ k.toList.all isBare = true) (by rw [List.all_eq_true]; rfl)

theorem key?_bare {k : String} (hk : IsBareKey k) {d : Char} (hd : isBare d = false)
    (rest : List Char) : key? (k.toList ++ d :: rest) = some (k, d :: rest) := by
  have htake : (k.toList ++ d :: rest).takeWhile isBare = k.toList := by
    rw [List.takeWhile_append_of_pos hk.2, List.takeWhile_cons_of_neg (by simp [hd]),
      List.append_nil]
  have hdrop : (k.toList ++ d :: rest).dropWhile isBare = d :: rest := by
    rw [List.dropWhile_append_of_pos hk.2, List.dropWhile_cons_of_neg (by simp [hd])]
  have hnil : k.toList ≠ [] := by simpa using hk.1
  have hquote : ∀ q cs, isBare q = false → k.toList ++ d :: rest = q :: cs → False := by
    intro q cs hq heq
    rw [heq, List.takeWhile_cons_of_neg (by simp [hq])] at htake
    exact hnil htake.symm
  rw [key?.eq_3 _ (fun cs => hquote '"' cs (by decide)) (fun cs => hquote '\'' cs (by decide)),
    htake, hdrop]
  simp [hnil]

theorem IsBareKey.starts {k : String} (hk : IsBareKey k) :
    ∃ d ds, k.toList = d :: ds ∧ IsInk d ∧ d ≠ '[' := by
  cases h : k.toList with
  | nil => exact absurd (by simpa using h) hk.1
  | cons d ds =>
    have hd := hk.2 d (by simp [h])
    have hne : ∀ x, isBare x = false → d ≠ x := by rintro x hx rfl; simp_all
    have hb : isBlank d = false := by simp [isBlank, hne ' ' (by decide), hne '\t' (by decide)]
    exact ⟨d, ds, rfl, ⟨hb, hne _ (by decide), hne _ (by decide), hne _ (by decide)⟩,
      hne _ (by decide)⟩

theorem path?_bare {k : String} (hk : IsBareKey k) {d d' : Char} {rest rest' : List Char}
    (hd : isBare d = false) (hskip : skipBlanks (d :: rest) = d' :: rest') (hdot : d' ≠ '.') :
    path? (k.toList ++ d :: rest) = some (([], k), d' :: rest') := by
  have hkeys : keys? (pathLimit - 1) (k.toList ++ d :: rest) = some ([k], d' :: rest') := by
    obtain ⟨c, cs, hc, hink, -⟩ := hk.starts
    rw [show pathLimit - 1 = 78 + 1 from rfl, keys?, hc, List.cons_append, skipBlanks_ink hink.1,
      ← List.cons_append, ← hc, key?_bare hk hd, Option.bind_eq_bind, Option.bind_some]
    simp [hskip, hdot]
  rw [path?, hkeys]
  rfl

theorem statement?_setting {k text : String} {v : Value} (hk : IsBareKey k)
    (hv : Denotes depthLimit text v) (cs : List Char) :
    statement? (k.toList ++ (" = ".toList ++ (text.toList ++ '\n' :: cs))) =
      some (.setting [] k v, cs) := by
  have hpath : path? (k.toList ++ (" = ".toList ++ (text.toList ++ '\n' :: cs))) =
      some (([], k), '=' :: ' ' :: (text.toList ++ '\n' :: cs)) :=
    path?_bare hk (d := ' ') (by decide) rfl (by decide)
  have hblank : skipBlanks (' ' :: (text.toList ++ '\n' :: cs)) = text.toList ++ '\n' :: cs := by
    obtain ⟨d, ds, hd, hink, -⟩ := hv.starts
    rw [hd]
    exact skipBlanks_ink hink.1 _
  obtain ⟨d, ds, hd, -, hne⟩ := hk.starts
  rw [statement?.eq_3 _ (by simp [hd, hne]) (by simp [hd, hne]), hpath]
  simp only [Option.bind_eq_bind, Option.bind_some, hblank, hv.reads '\n' cs (.inl rfl)]
  rfl

theorem statement?_section {name : String} (hn : IsBareKey name) (cs : List Char) :
    statement? ('[' :: (name.toList ++ ']' :: '\n' :: cs)) = some (.section [] name, cs) := by
  have hpath : path? (name.toList ++ ']' :: '\n' :: cs) = some (([], name), ']' :: '\n' :: cs) :=
    path?_bare hn (by decide) rfl (by decide)
  obtain ⟨d, ds, hd, -, hne⟩ := hn.starts
  rw [statement?.eq_2 _ (by simp [hd, hne]), hpath]
  rfl

/-! ## Sections -/

/-- A line for a key denotes the key with its value. -/
def SettingDenotes (line : String × String) (e : String × Value) : Prop :=
  line.1 = e.1 ∧ IsBareKey e.1 ∧ Denotes depthLimit line.2 e.2

/-- A section denotes its name with the entries of its lines. -/
def SectionDenotes (s : Section) (e : String × Entries) : Prop :=
  s.1 = e.1 ∧ IsBareKey e.1 ∧ List.Forall₂ SettingDenotes s.2 e.2

def statementsOf (e : String × Entries) : List Statement :=
  .section [] e.1 :: e.2.map fun (k, v) => .setting [] k v

def settingLine (l : String × String) : List Char :=
  l.1.toList ++ (" = ".toList ++ (l.2.toList ++ ['\n']))

theorem Section.write_toList (s : Section) :
    s.write.toList = '[' :: (s.1.toList ++ ']' :: '\n' :: s.2.flatMap settingLine) := by
  simp only [Section.write, String.toList_append, String.toList_join, List.flatMap_map,
    List.append_assoc]
  rfl

theorem says_settings {lines : List (String × String)} {es : Entries}
    (h : List.Forall₂ SettingDenotes lines es) {cs : List Char} {ss : List Statement}
    (hs : Says cs ss) :
    Says (lines.flatMap settingLine ++ cs) ((es.map fun (k, v) => .setting [] k v) ++ ss) := by
  induction h with
  | nil => exact hs
  | @cons line e lines es h _ ih =>
    obtain ⟨hkey, hk, hv⟩ := h
    obtain ⟨d, ds, hd, hink, -⟩ := hk.starts
    have hread := statement?_setting hk hv (lines.flatMap settingLine ++ cs)
    have hsays := Says.cons (x := ds ++ (" = ".toList ++ (line.2.toList ++ ['\n']))) hink
      (by simpa [hd] using hread) ih
    simpa [settingLine, hkey, hd] using hsays

theorem says_section {s : Section} {e : String × Entries} (h : SectionDenotes s e)
    {cs : List Char} {ss : List Statement} (hs : Says cs ss) :
    Says (s.write.toList ++ cs) (statementsOf e ++ ss) := by
  obtain ⟨hname, hn, hlines⟩ := h
  have hread := statement?_section hn (s.2.flatMap settingLine ++ cs)
  have hsays := Says.cons (x := e.1.toList ++ [']', '\n']) (by decide : IsInk '[')
    (by simpa using hread) (says_settings hlines hs)
  simpa [Section.write_toList, hname, statementsOf] using hsays

theorem says_sections {ss : List Section} {es : List (String × Entries)}
    (h : List.Forall₂ SectionDenotes ss es) :
    Says (sections ss).toList (es.flatMap statementsOf) := by
  induction h with
  | nil => simpa [sections] using Says.nil
  | @cons s e ss es hs h ih =>
    cases h with
    | nil => simpa [sections] using says_section hs .nil
    | @cons s' e' ss es hs' h =>
      have := says_section hs (.line ih)
      simpa [sections] using this

/-! ## Tables -/

namespace Entries

variable {es : Entries} {k : String} (h : k ∉ es.map (·.1))

include h

theorem find?_of_notMem : es.find? (fun e => e.1 == k) = none := by
  rw [List.find?_eq_none]
  rintro e he heq
  exact h (List.mem_map.2 ⟨e, he, by simpa using heq⟩)

theorem get?_of_notMem : es.get? k = none := by
  rw [get?, find?_of_notMem h]
  rfl

theorem get?_append_self (v : Value) : get? (es ++ [(k, v)]) k = some v := by
  simp [get?, List.find?_append, find?_of_notMem h]

theorem replace_append_self (v w : Value) : replace (es ++ [(k, v)]) k w = es ++ [(k, w)] := by
  have hes : es.map (fun e => if e.1 == k then (k, w) else e) = es.map id := by
    refine List.map_congr_left fun e he => if_neg ?_
    rintro heq
    exact h (List.mem_map.2 ⟨e, he, by simpa using heq⟩)
  rw [replace, List.map_append, hes, List.map_id]
  simp

end Entries

section

variable {es sub : Entries} {name : String} (hname : name ∉ es.map (·.1))

include hname

theorem add_section (path : List String) : Draft.add ⟨es, path⟩ (.section [] name) =
    some ⟨es ++ [(name, .table .headed [])], [name]⟩ := by
  simp [Draft.add, reach, openTable, Entries.get?_of_notMem hname, Entries.append]

theorem add_setting {k : String} (hk : k ∉ sub.map (·.1)) (v : Value) :
    Draft.add ⟨es ++ [(name, .table .headed sub)], [name]⟩ (.setting [] k v) =
      some ⟨es ++ [(name, .table .headed (sub ++ [(k, v)]))], [name]⟩ := by
  simp [Draft.add, reach, insertLine, Entries.get?_append_self hname,
    Entries.get?_of_notMem hk, Entries.replace_append_self hname, Entries.append]

/-- The lines of a section fill the table that its header has opened. -/
theorem add_settings {tail : Entries} (hkeys : ((sub ++ tail).map (·.1)).Nodup) :
    (tail.map fun (k, v) => Statement.setting [] k v).foldlM Draft.add
      ⟨es ++ [(name, .table .headed sub)], [name]⟩ =
      some ⟨es ++ [(name, .table .headed (sub ++ tail))], [name]⟩ := by
  induction tail generalizing sub with
  | nil => simp
  | cons e tail ih =>
    have hk : e.1 ∉ sub.map (·.1) := by
      rw [List.map_append, List.nodup_append] at hkeys
      exact fun h => hkeys.2.2 _ h _ (by simp) rfl
    rw [List.map_cons, List.foldlM_cons, add_setting hname hk]
    simpa using @ih (sub ++ [e]) (by simpa using hkeys)

theorem add_table {e : String × Entries} (he : e.1 = name) (hkeys : (e.2.map (·.1)).Nodup)
    (path : List String) : (statementsOf e).foldlM Draft.add ⟨es, path⟩ =
      some ⟨es ++ [(e.1, .table .headed e.2)], [e.1]⟩ := by
  subst he
  rw [statementsOf, List.foldlM_cons, add_section hname]
  exact add_settings hname hkeys

end

/-- A table with the header of its own, as an entry of a document. -/
def headed (e : String × Entries) : String × Value :=
  (e.1, .table .headed e.2)

theorem add_tables {done : Entries} {es : List (String × Entries)}
    (hnames : (done.map (·.1) ++ es.map (·.1)).Nodup) (hkeys : ∀ e ∈ es, (e.2.map (·.1)).Nodup)
    (path : List String) :
    ((es.flatMap statementsOf).foldlM Draft.add ⟨done, path⟩).map (·.entries) =
      some (done ++ es.map headed) := by
  induction es generalizing done path with
  | nil => simp
  | cons e es ih =>
    rw [List.forall_mem_cons] at hkeys
    have hname : e.1 ∉ done.map (·.1) := by
      rw [List.nodup_append] at hnames
      exact fun h => hnames.2.2 _ h _ (by simp) rfl
    rw [List.flatMap_cons, List.foldlM_append, add_table hname rfl hkeys.1]
    simpa [headed] using
      @ih (done ++ [headed e]) (by simpa [headed] using hnames) hkeys.2 [e.1]

/-- **A written document is read as its sections, in order.** -/
theorem parse?_sections {ss : List Section} {es : List (String × Entries)}
    (h : List.Forall₂ SectionDenotes ss es) (hnames : (es.map (·.1)).Nodup)
    (hkeys : ∀ e ∈ es, (e.2.map (·.1)).Nodup) :
    parse? (sections ss) = some (es.map headed) := by
  have hsays := says_sections h
  have hmark : skipMark (sections ss).toList = (sections ss).toList := by
    match ss with
    | [] => rfl
    | [s] | s :: s' :: ss => simp [sections, Section.write_toList, skipMark]
  have hread : statements? (sections ss) = some (es.flatMap statementsOf) := by
    rw [statements?, hmark]
    exact hsays.reads (Nat.lt_succ_of_le hsays.length_le)
  have hdone : (([] : Entries).map (·.1) ++ es.map (·.1)).Nodup := by simpa using hnames
  have htables := add_tables hdone hkeys []
  obtain ⟨draft, hdraft, hentries⟩ := Option.map_eq_some_iff.1 htables
  rw [List.nil_append] at hentries
  rw [parse?, hread, Option.bind_eq_bind, Option.bind_some, hdraft, ← hentries]
  rfl

end SignalActuator.Toml
