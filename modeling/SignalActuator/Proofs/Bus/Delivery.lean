/-
  Delivery — which subscriber receives which message.

  A subscriber receives the messages whose key-expression led to its inbox when
  they were looked up.  Where a key-expression leads to is seen from what happened:
  to the inbox that it was entered with last, unless the session was cleared since.

  * `holder` is this inbox, and `holder_eq_some_iff` says it in terms of the past;
  * `addressees` are the messages that were looked up, each with the inbox that held
    its key-expression then, and `due` those of one inbox;
  * `Delivers` is what holds between a session and its past; `Delivers.step` shows
    that every move keeps it;
  * `delivery`: a subscriber that stays receives what is due to its inbox, in order
    and without gaps, no message is received twice, and only publications are.
-/
import SignalActuator.Proofs.Bus.Moves
import Mathlib.Data.List.Induction

namespace SignalActuator.Bus

/-! ## What has happened -/

namespace Occurrence

/-- The publication that the connection yields. -/
@[simp] def publication? : Occurrence → Option Publish
  | .yielded (.ok (.publish p)) => some p
  | _ => none

/-- The message that is put into an inbox. -/
@[simp] def delivery? : Occurrence → Option (Inbound × Nat)
  | .delivered i m => some (m, i)
  | _ => none

/-- The key-expression that is declared, with the inbox that it leads to. -/
@[simp] def entry? : Occurrence → Option (String × Nat)
  | .entered k i => some (k, i)
  | _ => none

def publications (h : List Occurrence) : List Publish :=
  h.filterMap publication?

def deliveries (h : List Occurrence) : List (Inbound × Nat) :=
  h.filterMap delivery?

def entries (h : List Occurrence) : List (String × Nat) :=
  h.filterMap entry?

/-- The inbox of a key-expression after an occurrence. -/
def holds (k : String) (inbox : Option Nat) : Occurrence → Option Nat
  | .entered x i => if x = k then some i else inbox
  | .cleared => none
  | _ => inbox

/-- The inbox of a key-expression after what has happened. -/
def holder (k : String) (past : List Occurrence) : Option Nat :=
  past.foldl (holds k) none

/-- The message that is looked up, with the inbox that holds its key-expression. -/
@[simp] def addressee? (past : List Occurrence) : Occurrence → Option (Inbound × Option Nat)
  | .addressed m => some (m, holder m.keyExpr past)
  | _ => none

/-- The messages that were looked up, each with the inbox that held its
    key-expression at that time. -/
def addressees (h : List Occurrence) : List (Inbound × Option Nat) :=
  (List.range h.length).filterMap fun n => (h[n]?).bind (addressee? (h.take n))

/-- The messages that were looked up while an inbox held their key-expression. -/
def due (inbox : Nat) (h : List Occurrence) : List Inbound :=
  ((addressees h).filter (·.2 == some inbox)).map (·.1)

/-- An occurrence that tells nothing about messages and their inboxes. -/
def isQuiet : Occurrence → Bool
  | .yielded (.ok (.publish _)) | .entered .. | .addressed _ | .delivered .. | .cleared => false
  | _ => true

@[simp] theorem publications_snoc (h : List Occurrence) (o : Occurrence) :
    publications (h ++ [o]) = publications h ++ o.publication?.toList := by
  rw [publications, List.filterMap_append, ← publications, List.filterMap_cons]
  cases o.publication? <;> rfl

@[simp] theorem deliveries_snoc (h : List Occurrence) (o : Occurrence) :
    deliveries (h ++ [o]) = deliveries h ++ o.delivery?.toList := by
  rw [deliveries, List.filterMap_append, ← deliveries, List.filterMap_cons]
  cases o.delivery? <;> rfl

@[simp] theorem entries_snoc (h : List Occurrence) (o : Occurrence) :
    entries (h ++ [o]) = entries h ++ o.entry?.toList := by
  rw [entries, List.filterMap_append, ← entries, List.filterMap_cons]
  cases o.entry? <;> rfl

theorem mem_entries {k : String} {i : Nat} {h : List Occurrence} :
    (k, i) ∈ entries h ↔ .entered k i ∈ h := by
  rw [entries, List.mem_filterMap]
  constructor
  · rintro ⟨o, ho, heq⟩
    cases o with
    | entered =>
      cases heq
      exact ho
    | yielded | declared | handed | addressed | delivered | discarded | cleared | failed =>
      cases heq
  · exact fun hm => ⟨_, hm, rfl⟩

theorem holder_snoc (k : String) (past : List Occurrence) (o : Occurrence) :
    holder k (past ++ [o]) = holds k (holder k past) o := by
  rw [holder, List.foldl_append]
  rfl

/-- **Where a key-expression leads to**: to the inbox that it was entered with last,
    unless the session was cleared since. -/
theorem holder_eq_some_iff {k : String} {past : List Occurrence} {i : Nat} :
    holder k past = some i ↔ ∃ before after, past = before ++ .entered k i :: after ∧
      .cleared ∉ after ∧ ∀ j, .entered k j ∉ after := by
  constructor
  · intro h
    -- From the end, as the last entry decides.
    induction past using List.reverseRecOn with
    | nil => cases h
    | append_singleton past o ih =>
      rw [holder_snoc] at h
      have later (ho : o ≠ .cleared) (hk : ∀ j, o ≠ .entered k j) (h : holder k past = some i) :
          ∃ before after, past ++ [o] = before ++ .entered k i :: after ∧
            .cleared ∉ after ∧ ∀ j, .entered k j ∉ after := by
        obtain ⟨before, after, rfl, hc, he⟩ := ih h
        refine ⟨before, after ++ [o], by simp, ?_, fun j => ?_⟩
        · simpa using ⟨hc, Ne.symm ho⟩
        · simpa using ⟨he j, Ne.symm (hk j)⟩
      cases o with
      | entered x j =>
        by_cases hx : x = k
        · simp only [holds, hx, if_true, Option.some.injEq] at h
          exact ⟨past, [], by rw [hx, h], List.not_mem_nil, fun _ => List.not_mem_nil⟩
        · simp only [holds, if_neg hx] at h
          exact later nofun (fun j hj => hx (by cases hj; rfl)) h
      | cleared => cases h
      | yielded | declared | handed | addressed | delivered | discarded | failed =>
        exact later nofun nofun h
  · rintro ⟨before, after, rfl, hc, he⟩
    rw [holder, List.foldl_append, List.foldl_cons]
    have hstart : holds k (before.foldl (holds k) none) (.entered k i) = some i := by simp [holds]
    rw [hstart]
    -- Nothing in `after` changes where the key-expression leads to.
    induction after with
    | nil => rfl
    | cons o after ih =>
      have ho : holds k (some i) o = some i := by
        cases o with
        | entered x j =>
          have hx : x ≠ k := fun hx => he j (by rw [hx]; exact List.mem_cons_self ..)
          simp [holds, hx]
        | cleared => exact absurd (List.mem_cons_self ..) hc
        | yielded | declared | handed | addressed | delivered | discarded | failed => rfl
      rw [List.foldl_cons, ho]
      exact ih (fun h => hc (List.mem_cons_of_mem _ h))
        (fun j h => he j (List.mem_cons_of_mem _ h))

@[simp] theorem addressees_snoc (h : List Occurrence) (o : Occurrence) :
    addressees (h ++ [o]) = addressees h ++ (addressee? h o).toList := by
  have hold : (List.range h.length).filterMap
      (fun n => ((h ++ [o])[n]?).bind (addressee? ((h ++ [o]).take n))) = addressees h := by
    refine List.filterMap_congr fun n hn => ?_
    have hlt : n < h.length := List.mem_range.1 hn
    rw [List.getElem?_append_left hlt, List.take_append_of_le_length (Nat.le_of_lt hlt)]
  rw [addressees, List.length_append, List.length_singleton, List.range_succ,
    List.filterMap_append, hold, List.filterMap_cons]
  simp only [List.getElem?_concat_length, Option.bind_some, List.take_left', List.filterMap_nil]
  cases addressee? h o <;> rfl

theorem due_snoc {h : List Occurrence} {o : Occurrence} (ho : addressee? h o = none) (i : Nat) :
    due i (h ++ [o]) = due i h := by
  rw [due, addressees_snoc, ho, Option.toList_none, List.append_nil, due]

theorem due_addressed (i : Nat) (h : List Occurrence) (m : Inbound) :
    due i (h ++ [.addressed m]) = due i h ++ if holder m.keyExpr h = some i then [m] else [] := by
  rw [due, addressees_snoc, List.filter_append, List.map_append, ← due]
  congr 1
  by_cases hi : holder m.keyExpr h = some i <;> simp [addressee?, hi]

/-- A message is looked up with an inbox that its key-expression was declared with. -/
theorem mem_entries_of_addressees {m : Inbound} {i : Nat} {h : List Occurrence}
    (hm : (m, some i) ∈ addressees h) : (m.keyExpr, i) ∈ entries h := by
  induction h using List.reverseRecOn with
  | nil => cases hm
  | append_singleton h o ih =>
    rw [entries_snoc]
    rw [addressees_snoc, List.mem_append] at hm
    rcases hm with hm | hm
    · exact List.mem_append_left _ (ih hm)
    · cases o with
      | addressed x =>
        simp only [addressee?, Option.toList_some, List.mem_singleton, Prod.mk.injEq] at hm
        obtain ⟨rfl, hi⟩ := hm
        obtain ⟨before, after, rfl, -, -⟩ := holder_eq_some_iff.1 hi.symm
        exact List.mem_append_left _ (mem_entries.2 (by simp))
      | yielded | entered | declared | handed | delivered | discarded | cleared | failed =>
        cases hm

/-- Two pasts tell the same of messages and their inboxes. -/
structure Agrees (h h' : List Occurrence) : Prop where
  publications : publications h' = publications h
  deliveries : deliveries h' = deliveries h
  entries : entries h' = entries h
  holder : ∀ k, holder k h' = holder k h
  addressees : addressees h' = addressees h

theorem Agrees.trans {h₁ h₂ h₃ : List Occurrence} (a : Agrees h₁ h₂) (b : Agrees h₂ h₃) :
    Agrees h₁ h₃ where
  publications := b.publications.trans a.publications
  deliveries := b.deliveries.trans a.deliveries
  entries := b.entries.trans a.entries
  holder k := (b.holder k).trans (a.holder k)
  addressees := b.addressees.trans a.addressees

theorem Agrees.snoc (h : List Occurrence) {o : Occurrence} (quiet : o.isQuiet = true) :
    Agrees h (h ++ [o]) := by
  have ho : o.publication? = none ∧ o.delivery? = none ∧ o.entry? = none ∧
      (∀ k x, holds k x o = x) ∧ ∀ past, addressee? past o = none := by
    cases o with
    | yielded polled =>
      rcases polled with _ | event
      · exact ⟨rfl, rfl, rfl, fun _ _ => rfl, fun _ => rfl⟩
      · cases event with
        | publish => cases quiet
        | connectAck | disconnect | subscribeAck | upkeep | outgoing =>
          exact ⟨rfl, rfl, rfl, fun _ _ => rfl, fun _ => rfl⟩
    | entered | addressed | delivered | cleared => cases quiet
    | declared | handed | discarded | failed =>
      exact ⟨rfl, rfl, rfl, fun _ _ => rfl, fun _ => rfl⟩
  obtain ⟨hp, hd, he, hh, ha⟩ := ho
  refine ⟨?_, ?_, ?_, fun k => ?_, ?_⟩
  · rw [publications_snoc, hp, Option.toList_none, List.append_nil]
  · rw [deliveries_snoc, hd, Option.toList_none, List.append_nil]
  · rw [entries_snoc, he, Option.toList_none, List.append_nil]
  · rw [holder_snoc, hh]
  · rw [addressees_snoc, ha, Option.toList_none, List.append_nil]

theorem agrees_of_quiet {os : List Occurrence} (quiet : ∀ o ∈ os, o.isQuiet = true)
    (h : List Occurrence) : Agrees h (h ++ os) := by
  induction os generalizing h with
  | nil =>
    rw [List.append_nil]
    exact ⟨rfl, rfl, rfl, fun _ => rfl, rfl⟩
  | cons o os ih =>
    have rest := ih (fun x hx => quiet x (List.mem_cons_of_mem _ hx)) (h ++ [o])
    rw [List.append_assoc] at rest
    exact (Agrees.snoc h (quiet o (List.mem_cons_self ..))).trans rest

end Occurrence

/-! ## What is on its way -/

/-- The message whose inbox has still to be looked up. -/
@[simp] def Loop.unaddressed : Loop → List Inbound
  | .addressing m => [m]
  | _ => []

/-- The message that is on its way into an inbox. -/
@[simp] def Loop.underway : Loop → List (Inbound × Nat)
  | .forwarding m i => [(m, i)]
  | _ => []

/-- The loop has no message at hand. -/
def Loop.isFree : Loop → Bool
  | .addressing _ | .forwarding .. => false
  | _ => true

theorem Loop.unaddressed_of_isFree {l : Loop} (h : l.isFree = true) : l.unaddressed = [] := by
  cases l <;> first | rfl | cases h

theorem Loop.underway_of_isFree {l : Loop} (h : l.isFree = true) : l.underway = [] := by
  cases l <;> first | rfl | cases h

def sentTo (i : Nat) (l : List (Inbound × Nat)) : List Inbound :=
  (l.filter (·.2 == i)).map (·.1)

@[simp] theorem sentTo_nil (i : Nat) : sentTo i [] = [] := rfl

/-- An inbox has got what is due to it, but for what is still on its way. -/
structure Inbox.Follows (box : Inbox) (sent due : List Inbound) : Prop where
  /-- Everything due to a subscriber that stays was taken, waits or is on its way. -/
  kept : box.open_ = true → box.taken ++ box.messages ++ sent = due
  /-- One that goes has got the first of what is due. -/
  begins : box.taken ++ box.messages <+: due

theorem map_keyExpr_modify {f : Inbox → Inbox} (hf : ∀ box, (f box).keyExpr = box.keyExpr)
    (boxes : List Inbox) (i : Nat) :
    (boxes.modify i f).map (·.keyExpr) = boxes.map (·.keyExpr) := by
  refine List.ext_getElem? fun n => ?_
  rw [List.getElem?_map, List.getElem?_map, List.getElem?_modify]
  cases boxes[n]? with
  | none => rfl
  | some box => by_cases hi : i = n <;> simp [hi, hf]

namespace Session

open Occurrence

/-! ## Sessions and their past -/

/-- What holds between a session and its past at any time. -/
structure Delivers (s : Session) (h : List Occurrence) : Prop where
  /-- The inbox of a key-expression is the one that the past tells. -/
  table : s.loop ≠ .stopped → ∀ k, s.subscriptions.get? k = holder k h
  /-- Every declaration has an inbox of its own. -/
  entries : entries h = (s.inboxes.map (·.keyExpr)).zipIdx
  /-- Every publication is looked up, in order. -/
  publications :
    (publications h).map Publish.inbound = (addressees h).map (·.1) ++ s.loop.unaddressed
  /-- No message goes anywhere but to its addressee, and not twice. -/
  deliveries : List.Sublist ((deliveries h ++ s.loop.underway).map fun d => (d.1, some d.2))
    (addressees h)
  boxes : ∀ (i : Nat) (box : Inbox), s.inboxes[i]? = some box →
    box.Follows (sentTo i s.loop.underway) (due i h)

namespace Delivers

variable {s s' : Session} {h os : List Occurrence}

theorem frame (d : Delivers s h) (quiet : ∀ o ∈ os, o.isQuiet = true)
    (table : s'.loop ≠ .stopped → s.loop ≠ .stopped ∧ s'.subscriptions = s.subscriptions)
    (inboxes : s'.inboxes = s.inboxes) (unaddressed : s'.loop.unaddressed = s.loop.unaddressed)
    (underway : s'.loop.underway = s.loop.underway) : Delivers s' (h ++ os) := by
  have agrees := agrees_of_quiet quiet h
  refine ⟨fun hl k => ?_, ?_, ?_, ?_, fun i box hb => ?_⟩
  · obtain ⟨hs, ht⟩ := table hl
    rw [ht, agrees.holder]
    exact d.table hs k
  · rw [agrees.entries, inboxes]
    exact d.entries
  · rw [agrees.publications, agrees.addressees, unaddressed]
    exact d.publications
  · rw [agrees.deliveries, agrees.addressees, underway]
    exact d.deliveries
  · rw [inboxes] at hb
    rw [due, agrees.addressees, underway]
    exact d.boxes i box hb

theorem still (d : Delivers s h) (quiet : ∀ o ∈ os, o.isQuiet = true) (loop : s'.loop = s.loop)
    (subscriptions : s'.subscriptions = s.subscriptions) (inboxes : s'.inboxes = s.inboxes) :
    Delivers s' (h ++ os) :=
  d.frame quiet (fun hl => ⟨loop ▸ hl, subscriptions⟩) inboxes (by rw [loop]) (by rw [loop])

theorem turn (d : Delivers s h) (quiet : ∀ o ∈ os, o.isQuiet = true)
    (free : s.loop.isFree = true) (free' : s'.loop.isFree = true) (running : s.loop ≠ .stopped)
    (subscriptions : s'.subscriptions = s.subscriptions) (inboxes : s'.inboxes = s.inboxes) :
    Delivers s' (h ++ os) := by
  refine d.frame quiet (fun _ => ⟨running, subscriptions⟩) inboxes ?_ ?_
  · rw [Loop.unaddressed_of_isFree free, Loop.unaddressed_of_isFree free']
  · rw [Loop.underway_of_isFree free, Loop.underway_of_isFree free']

/-- One inbox changes, and still has got what is due to it. -/
theorem modify (d : Delivers s h) (i : Nat) {f : Inbox → Inbox}
    (keyExpr : ∀ box, (f box).keyExpr = box.keyExpr)
    (follows : ∀ box sent due, s.inboxes[i]? = some box → box.Follows sent due →
      (f box).Follows sent due) :
    Delivers { s with inboxes := s.inboxes.modify i f } h where
  table := d.table
  entries := by rw [map_keyExpr_modify keyExpr]; exact d.entries
  publications := d.publications
  deliveries := d.deliveries
  boxes n box' hb := by
    rw [List.getElem?_modify] at hb
    obtain ⟨box, hbox, rfl⟩ := Option.map_eq_some_iff.1 hb
    have hd := d.boxes n box hbox
    by_cases hi : i = n
    · rw [if_pos hi]
      subst hi
      exact follows box _ _ hbox hd
    · rw [if_neg hi]
      exact hd

theorem receive (d : Delivers s h) (p : Publish) (polling : s.loop = .polling) :
    Delivers { s with loop := .addressing p.inbound } (h ++ [.yielded (.ok (.publish p))]) := by
  obtain ⟨table, entries, publications, deliveries, boxes⟩ := d
  rw [polling] at publications deliveries boxes
  refine ⟨fun _ k => ?_, ?_, ?_, ?_, fun i box hb => ?_⟩
  · rw [holder_snoc]
    exact table (by rw [polling]; nofun) k
  · simpa using entries
  · simpa using publications
  · simpa using deliveries
  · rw [due_snoc rfl]
    exact boxes i box hb

theorem find (d : Delivers s h) {m : Inbound} {i : Nat} (hand : s.loop = .addressing m)
    (found : s.subscriptions.get? m.keyExpr = some i) :
    Delivers { s with loop := .forwarding m i } (h ++ [.addressed m]) := by
  obtain ⟨table, entries, publications, deliveries, boxes⟩ := d
  rw [hand] at publications deliveries boxes
  have running : s.loop ≠ .stopped := by rw [hand]; nofun
  have hholder : holder m.keyExpr h = some i := (table running _).symm.trans found
  refine ⟨fun _ k => ?_, ?_, ?_, ?_, fun j box hb => ?_⟩
  · rw [holder_snoc]
    exact table running k
  · simpa using entries
  · simpa using publications
  · have hsent := deliveries.append_right [(m, some i)]
    simpa [hholder] using hsent
  · obtain ⟨kept, begins⟩ := boxes j box hb
    rw [due_addressed, hholder]
    refine ⟨fun ho => ?_, begins.trans (List.prefix_append ..)⟩
    rw [← kept ho]
    by_cases hij : i = j <;> simp [sentTo, hij]

theorem miss (d : Delivers s h) {m : Inbound} (hand : s.loop = .addressing m)
    (missing : s.subscriptions.get? m.keyExpr = none) :
    Delivers { s with loop := .polling } (h ++ [.addressed m]) := by
  obtain ⟨table, entries, publications, deliveries, boxes⟩ := d
  rw [hand] at publications deliveries boxes
  have running : s.loop ≠ .stopped := by rw [hand]; nofun
  have hholder : holder m.keyExpr h = none := (table running _).symm.trans missing
  refine ⟨fun _ k => ?_, ?_, ?_, ?_, fun j box hb => ?_⟩
  · rw [holder_snoc]
    exact table running k
  · simpa using entries
  · simpa using publications
  · rw [deliveries_snoc, addressees_snoc]
    refine List.Sublist.trans ?_ (List.sublist_append_left ..)
    simpa using deliveries
  · have hbox := boxes j box hb
    rw [due_addressed, hholder]
    simpa using hbox

theorem deliver (d : Delivers s h) {m : Inbound} {i : Nat} {box : Inbox}
    (hand : s.loop = .forwarding m i) (found : s.inboxes[i]? = some box)
    (opened : box.open_ = true) :
    Delivers
      { s with
        loop := .polling
        inboxes := s.inboxes.modify i fun b => { b with messages := b.messages ++ [m] } }
      (h ++ [.delivered i m]) := by
  obtain ⟨table, entries, publications, deliveries, boxes⟩ := d
  rw [hand] at publications deliveries boxes
  refine ⟨fun _ k => ?_, ?_, ?_, ?_, fun n box' hb => ?_⟩
  · rw [holder_snoc]
    exact table (by rw [hand]; nofun) k
  · simpa [map_keyExpr_modify] using entries
  · simpa using publications
  · simpa using deliveries
  · rw [due_snoc rfl]
    rw [List.getElem?_modify] at hb
    obtain ⟨old, hold, rfl⟩ := Option.map_eq_some_iff.1 hb
    obtain ⟨kept, begins⟩ := boxes n old hold
    by_cases hn : i = n
    · subst hn
      cases found.symm.trans hold
      have hkept : box.taken ++ (box.messages ++ [m]) = due i h := by
        simpa [sentTo] using kept opened
      rw [if_pos rfl]
      exact ⟨fun _ => by simpa using hkept, by simp [hkept]⟩
    · rw [if_neg hn]
      exact ⟨fun ho => by simpa [sentTo, hn] using kept ho, begins⟩

theorem drop (d : Delivers s h) {m : Inbound} {i : Nat} (hand : s.loop = .forwarding m i)
    (gone : ∀ box, s.inboxes[i]? = some box → box.open_ = false) :
    Delivers { s with loop := .polling } h := by
  obtain ⟨table, entries, publications, deliveries, boxes⟩ := d
  rw [hand] at publications deliveries boxes
  refine ⟨fun _ => table (by rw [hand]; nofun), entries, publications, ?_, fun n box hb => ?_⟩
  · refine List.Sublist.trans ?_ deliveries
    simp
  · obtain ⟨kept, begins⟩ := boxes n box hb
    refine ⟨fun ho => ?_, begins⟩
    have hn : i ≠ n := by
      rintro rfl
      rw [gone box hb] at ho
      cases ho
    simpa [sentTo, hn] using kept ho

theorem declare (d : Delivers s h) (k : String) (waiting : List Waiter) :
    Delivers
      { s with
        inboxes := s.inboxes ++ [{ keyExpr := k }]
        subscriptions := s.subscriptions.insert k s.inboxes.length
        waiting }
      (h ++ [.entered k s.inboxes.length]) := by
  obtain ⟨table, entries, publications, deliveries, boxes⟩ := d
  -- Nothing was looked up with the new inbox before.
  have fresh (m : Inbound) : (m, some s.inboxes.length) ∉ addressees h := by
    intro hm
    have hentry := mem_entries_of_addressees hm
    rw [entries, List.mem_zipIdx_iff_getElem?] at hentry
    simp at hentry
  refine ⟨fun hl x => ?_, ?_, ?_, ?_, fun n box hb => ?_⟩
  · rw [holder_snoc, Subscriptions.get?_insert, table hl]
    by_cases hx : x = k
    · simp [holds, hx]
    · simp [holds, hx, Ne.symm hx]
  · simp [entries, List.zipIdx_append]
  · simpa using publications
  · simpa using deliveries
  · rw [due_snoc rfl]
    rcases Nat.lt_trichotomy n s.inboxes.length with hn | rfl | hn
    · rw [List.getElem?_append_left hn] at hb
      exact boxes n box hb
    · rw [List.getElem?_concat_length] at hb
      cases hb
      have hdue : due s.inboxes.length h = [] := by
        rw [due, List.map_eq_nil_iff, List.filter_eq_nil_iff]
        rintro ⟨m, i⟩ hm hi
        rw [beq_iff_eq] at hi
        exact fresh m (hi ▸ hm)
      have hsent : sentTo s.inboxes.length s.loop.underway = [] := by
        rw [sentTo, List.map_eq_nil_iff, List.filter_eq_nil_iff]
        rintro ⟨m, i⟩ hm hi
        rw [beq_iff_eq] at hi
        refine fresh m (deliveries.mem (List.mem_map.2 ⟨(m, i), List.mem_append_right _ hm, ?_⟩))
        rw [← hi]
      exact ⟨fun _ => by rw [hsent, hdue]; rfl, List.nil_prefix ..⟩
    · rw [List.getElem?_eq_none (by simpa [Nat.succ_le_iff] using hn)] at hb
      cases hb

theorem clear (d : Delivers s h) : Delivers { s with subscriptions := [] } (h ++ [.cleared]) where
  table _ k := by
    rw [holder_snoc]
    rfl
  entries := by
    rw [entries_snoc]
    exact (List.append_nil _).trans d.entries
  publications := by simpa using d.publications
  deliveries := by simpa using d.deliveries
  boxes i box hb := by
    rw [due_snoc rfl]
    exact d.boxes i box hb

/-- **Every move keeps what holds between a session and its past.** -/
theorem step (d : Delivers s h) {m : Move} (hm : Moved s m s' os) : Delivers s' (h ++ os) := by
  cases hm with
  | breaks polling | acknowledges polling =>
    exact d.turn (by simp [isQuiet]) (by rw [polling]; rfl) rfl (by rw [polling]; nofun) rfl rfl
  | parts => exact d.still (by simp [isQuiet]) rfl rfl rfl
  | receives polling => exact d.receive _ polling
  | @idles event polling idle =>
    refine d.still ?_ rfl rfl rfl
    cases event with
    | connectAck | publish | disconnect => cases idle
    | subscribeAck | upkeep | outgoing => simp [isQuiet]
  | subscribes | publishes | disconnects | forgets | puts | sayFarewell | stopLoop
    | markClosed => exact d.still (List.forall_mem_nil _) rfl rfl rfl
  | surveys left | completes left | resumes left =>
    exact d.turn (List.forall_mem_nil _) (by rw [left]; rfl) rfl (by rw [left]; nofun) rfl rfl
  | resubscribes left =>
    exact d.turn (by simp [isQuiet]) (by rw [left]; rfl) rfl (by rw [left]; nofun) rfl rfl
  | addresses hand found => exact d.find hand found
  | @returns m hand missing =>
    rw [List.append_cons]
    exact (d.miss hand missing).still (by simp [isQuiet]) rfl rfl rfl
  | delivers hand found kept => exact d.deliver hand found kept
  | drops hand gone => exact (d.drop hand gone).still (by simp [isQuiet]) rfl rfl rfl
  | stops stopping idle =>
    have free : s.loop.isFree = true ∧ s.loop ≠ .stopped := by
      rcases idle with h | h <;> rw [h] <;> exact ⟨rfl, nofun⟩
    exact d.turn (List.forall_mem_nil _) free.1 rfl free.2 rfl rfl
  | declares => exact d.declare _ _
  | rejects | refuses => exact d.still (by simp [isQuiet]) rfl rfl rfl
  | @brings _ w => refine d.still ?_ rfl rfl rfl; cases w <;> simp [Waiter.acceptance, isQuiet]
  | @returnsEmpty _ w found stopped =>
    refine d.frame ?_ (fun hl => absurd stopped hl) rfl rfl rfl
    cases w <;> simp [Waiter.refusal, isQuiet]
  | @takes i box m free found first =>
    rw [List.append_nil]
    refine d.modify i (fun _ => rfl) fun box' sent due hb follows => ?_
    cases found.symm.trans hb
    have hmessages : m :: box.messages.tail = box.messages := List.cons_head?_tail first
    exact ⟨fun ho => by simpa [hmessages] using follows.kept ho,
      by simpa [hmessages] using follows.begins⟩
  | leaves =>
    rw [List.append_nil]
    refine d.modify _ (fun _ => rfl) fun box sent due _ follows => ⟨nofun, ?_⟩
    simpa using (List.prefix_append ..).trans follows.begins
  | clear => exact d.clear

theorem fresh (room : Nat) : Delivers { inboxRoom := room } [] where
  table _ _ := rfl
  entries := rfl
  publications := rfl
  deliveries := List.Sublist.slnil
  boxes _ _ hb := by cases hb

/-- What holds between a session and its past holds at any time. -/
theorem run (room : Nat) (ms : List Move) :
    Delivers (moves ms { inboxRoom := room }).1 (moves ms { inboxRoom := room }).2 := by
  simpa using moves_invariant (P := Delivers) (fun d hm => d.step hm) ms [] (fresh room)

end Delivers

/-- The loop has no message at hand after an event that is no publication. -/
theorem free_of_yield {s s' : Session} {polled : Polled} {os : List Occurrence}
    (h : s.move (.yield polled) = some (s', os)) (other : ∀ p, polled ≠ .ok (.publish p)) :
    s'.inboxes = s.inboxes ∧ s'.loop.isFree = true := by
  cases moved h with
  | breaks | acknowledges => exact ⟨rfl, rfl⟩
  | parts polling | idles polling => exact ⟨rfl, by rw [polling]; rfl⟩
  | receives => exact absurd rfl (other _)

/-- **Who receives what.**  Whatever the parties of a session do:

    * every publication is looked up, in order;
    * every declaration has an inbox of its own, and what is due to it are the messages
      whose key-expression led to it when they were looked up: messages on the
      key-expression that was declared;
    * a subscriber that stays has taken what is due to it, in order and without gaps, but
      for what is in its inbox or on its way there; one that goes has taken the first of
      what was due;
    * a message is put into no other inbox, and not twice, and one whose key-expression was
      never declared into none;
    * events other than publications put no message into an inbox;
    * a message on its way to a subscriber that stays is put into its inbox as soon as there
      is room. -/
theorem delivery (room : Nat) (ms : List Move) :
    let s := (moves ms { inboxRoom := room }).1
    let h := (moves ms { inboxRoom := room }).2
    (publications h).map Publish.inbound = (addressees h).map (·.1) ++ s.loop.unaddressed ∧
    entries h = (s.inboxes.map (·.keyExpr)).zipIdx ∧
    (∀ (i : Nat) (box : Inbox), s.inboxes[i]? = some box →
      (∀ m ∈ due i h, m.keyExpr = box.keyExpr) ∧ box.taken <+: due i h ∧
      (box.open_ = true →
        box.taken ++ box.messages ++ sentTo i s.loop.underway = due i h)) ∧
    List.Sublist ((deliveries h).map fun d => (d.1, some d.2)) (addressees h) ∧
    (∀ d ∈ deliveries h, (d.1.keyExpr, d.2) ∈ entries h) ∧
    (∀ (polled : Polled) (s' : Session) (os : List Occurrence),
      s.move (.yield polled) = some (s', os) → (∀ p, polled ≠ .ok (.publish p)) →
      s'.inboxes = s.inboxes ∧ s'.loop.unaddressed = [] ∧ s'.loop.underway = []) ∧
    ∀ (m : Inbound) (i : Nat) (box : Inbox), s.loop = .forwarding m i →
      s.inboxes[i]? = some box → box.open_ = true → box.messages.length < s.inboxRoom →
      ∃ s', s.move .forward = some (s', [.delivered i m]) ∧ s'.loop = .polling ∧
        s'.inboxes[i]? = some { box with messages := box.messages ++ [m] } := by
  intro s h
  have d : Delivers s h := Delivers.run room ms
  have delivered : List.Sublist ((deliveries h).map fun d => (d.1, some d.2)) (addressees h) := by
    refine List.Sublist.trans ?_ d.deliveries
    simp
  refine ⟨d.publications, d.entries, fun i box hb => ⟨fun m hm => ?_, ?_, ?_⟩, delivered,
    fun x hx => ?_, fun polled s' os hs other => ?_, fun m i box hand found kept room => ?_⟩
  · have hentry : (m.keyExpr, i) ∈ entries h :=
      mem_entries_of_addressees (by simpa [due] using hm)
    rw [d.entries, List.mem_zipIdx_iff_getElem?] at hentry
    simpa [hb] using hentry.symm
  · exact (List.prefix_append ..).trans (d.boxes i box hb).begins
  · exact (d.boxes i box hb).kept
  · exact mem_entries_of_addressees (delivered.mem (List.mem_map.2 ⟨x, hx, rfl⟩))
  · obtain ⟨hboxes, free⟩ := free_of_yield hs other
    exact ⟨hboxes, Loop.unaddressed_of_isFree free, Loop.underway_of_isFree free⟩
  · refine ⟨_, (Moved.delivers hand found kept room).made, rfl, ?_⟩
    rw [List.getElem?_modify_eq, found]
    rfl

def news (k : String) (n : UInt8) : Publish :=
  { topic := Utf8.encode k, payload := [n] }

/-- A subscriber is declared and connected; a message for it arrives, one that nobody asked
    for, and another one for it, which waits until it has taken the first one. -/
def correspondence : List Move :=
  [.declare "a", .bring 0, .yield (.ok .connectAck), .survey, .resubscribe, .resubscribe, .serve,
    .serve, .yield (.ok (.publish (news "a" 1))), .address, .forward,
    .yield (.ok (.publish (news "b" 2))), .address,
    .yield (.ok (.publish (news "a" 3))), .address, .forward, .take 0]

theorem delivery_awaited :
    let s := (moves correspondence { inboxRoom := 1 }).1
    let h := (moves correspondence { inboxRoom := 1 }).2
    due 0 h = [(news "a" 1).inbound, (news "a" 3).inbound] ∧
      deliveries h = [((news "a" 1).inbound, 0)] ∧
      ∃ s', s.move .forward = some (s', [.delivered 0 (news "a" 3).inbound]) := by
  intro s h
  have hand : s.loop = .forwarding (news "a" 3).inbound 0 := by decide +kernel
  have found : s.inboxes[0]? = some ⟨"a", [], [(news "a" 1).inbound], true⟩ := by decide +kernel
  obtain ⟨-, -, boxes, -, -, -, delivers⟩ := delivery 1 correspondence
  obtain ⟨-, -, kept⟩ := boxes 0 _ found
  obtain ⟨s', hforward, -⟩ := delivers _ 0 _ hand found rfl (by decide +kernel)
  refine ⟨?_, by decide +kernel, s', hforward⟩
  rw [← kept rfl, hand]
  decide +kernel

end Session

end SignalActuator.Bus
