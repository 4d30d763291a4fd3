/-
  Confidentiality — what a supervised link shows of the credentials it associates with.

  The credentials are in the arguments of the command that a watched link runs.  They show
  in nothing else that is published, logged or answered, as long as the program itself is
  named without a placeholder and the command comes to the same: two runs with different
  credentials do the same, record by record.

  * `Driver.Discreet`: the answers of a driver do not depend on which of two credentials
    it is given; `Course.Alike.run`: a supervisor over such a driver does the same with
    both;
  * `Watch.discreet`: a watched link is such a driver for as many requests as its command
    has the same `results` on both hosts;
  * `confidential`: two runs with different credentials are alike from the start on.
-/
import SignalActuator.Link.Timeline
import SignalActuator.Link.Watch
import SignalActuator.Proofs.Link.Moves
import Mathlib.Data.Option.Basic

namespace SignalActuator

/-! ## Placeholders -/

namespace Link.Association

theorem replaceFrom_of_not_infix {pattern cs : List Char} (replacement : List Char)
    (h : ¬ pattern <:+: cs) : replaceFrom pattern replacement 0 cs = cs := by
  induction cs with
  | nil => rfl
  | cons c cs ih =>
    have hprefix : ¬ pattern.isPrefixOf (c :: cs) = true := fun hp =>
      h (List.isPrefixOf_iff_prefix.1 hp).isInfix
    have hrest : ¬ pattern <:+: cs := fun hi => h (hi.trans (List.suffix_cons c cs).isInfix)
    rw [replaceFrom, if_neg hprefix, ih hrest]

/-- An argument has no placeholder in it. -/
structure IsPlain (argument : String) : Prop where
  ssid : ¬ ssidPlaceholder.toList <:+: argument.toList
  password : ¬ passwordPlaceholder.toList <:+: argument.toList

theorem IsPlain.fill {argument : String} (h : IsPlain argument) (c : Credentials) :
    fill c argument = argument := by
  rw [Association.fill, replaceAll, replaceAll, replaceFrom_of_not_infix _ h.ssid,
    String.ofList_toList, replaceFrom_of_not_infix _ h.password, String.ofList_toList]

end Link.Association

/-! ## Commands that are run again -/

/-- What a command comes to when it is run for the time after the first `n`; nothing for
    the empty command. -/
def Host.Programs.results {σ : Type} (programs : Programs σ) :
    (argv : List String) → σ → (n : ℕ) → Option (Except Fault ExitStatus)
  | [], _, _ => none
  | program :: arguments, host, 0 => some (programs.run host program arguments).1
  | program :: arguments, host, n + 1 =>
    programs.results (program :: arguments) (programs.run host program arguments).2 n

namespace Link

variable {δ σ : Type}

/-! ## Discreet drivers -/

/-- Two responses show the same, and their drivers are related. -/
structure Response.Alike (R : δ → δ → Prop) (r r' : Response δ) : Prop where
  driver : R r.driver r'.driver
  result : r'.result = r.result
  emits : r'.emits = r.emits
  closes : r'.closes = r.closes
  log : r'.log = r.log

/-- Drivers that are related for a number of requests respond alike to a request with
    one of two credentials each, and are related for the requests that are left. -/
def Driver.Discreet (dr : Driver δ) (R : ℕ → δ → δ → Prop) (c c' : Credentials) : Prop :=
  ∀ n now d d', R (n + 1) d d' →
    (dr.associate now c d).Alike (R n) (dr.associate now c' d')

/-- Supervisors that differ in their credentials and drivers only. -/
inductive Supervisor.Alike (R : δ → δ → Prop) (c c' : Credentials) :
    Supervisor δ → Supervisor δ → Prop
  | intro {d d' : δ} (drivers : R d d') (policy : RetryPolicy) (establisher : Establisher)
      (pending stream : List Event) (closed : Bool) (phase : Phase) :
    Alike R c c' ⟨policy, c, d, establisher, pending, stream, closed, phase⟩
      ⟨policy, c', d', establisher, pending, stream, closed, phase⟩

/-- Supervisors have done the same, and are alike for the requests that are left of `n`. -/
structure Supervisor.Same (R : ℕ → δ → δ → Prop) (c c' : Credentials) (n : ℕ)
    (r r' : Supervisor δ × List Activity) : Prop where
  alike : Supervisor.Alike (R (n - (Activity.answers r.2).length)) c c' r.1 r'.1
  acts : r'.2 = r.2

theorem Supervisor.answers_associate (dr : Driver δ) (now : ℕ) (s : Supervisor δ) :
    (Activity.answers (s.associate dr now).2).length = 1 := by
  rw [← Activity.answers_visible, (asks dr now s).visible]
  rfl

namespace Supervisor.Alike

variable {dr : Driver δ} {R : ℕ → δ → δ → Prop} {c c' : Credentials} {s s' : Supervisor δ}
  {n : ℕ}

theorem associate (hd : dr.Discreet R c c') (h : Alike (R n) c c' s s') (now : ℕ)
    (hn : (Activity.answers (s.associate dr now).2).length ≤ n) :
    Same R c c' n (s.associate dr now) (s'.associate dr now) := by
  have hone := answers_associate dr now s
  obtain ⟨n, rfl⟩ : ∃ m, n = m + 1 := ⟨n - 1, by omega⟩
  suffices Alike (R n) c c' (s.associate dr now).1 (s'.associate dr now).1 ∧
      (s'.associate dr now).2 = (s.associate dr now).2 from
    ⟨by simpa [hone] using this.1, this.2⟩
  cases h with
  | @intro d d' drivers =>
    obtain ⟨hdriver, hresult, hemits, hcloses, hlog⟩ := hd n now d d' drivers
    simp only [Supervisor.associate, hresult, hemits, hcloses, hlog]
    cases (dr.associate now c d).result with
    | ok | error => exact ⟨.intro hdriver .., rfl⟩

theorem handle (hd : dr.Discreet R c c') (h : Alike (R n) c c' s s') (now : ℕ) (event : Event)
    (hn : (Activity.answers (s.handle dr now event).2).length ≤ n) :
    Same R c c' n (s.handle dr now event) (s'.handle dr now event) := by
  cases h with
  | @intro d d' drivers policy establisher pending stream closed phase =>
    have hseen (record : Log.Record) (records : List Log.Record) (status : Status) :
        Activity.answers (.logged record :: (records.map .logged ++ [.published status])) = [] := by
      simp [Activity.answers, List.filterMap_map]
    simp only [Supervisor.handle] at hn ⊢
    cases ha : (establisher.react event).action with
    | associate =>
      simp only [ha, Activity.answers_append, hseen, List.nil_append] at hn ⊢
      obtain ⟨halike, hacts⟩ := (intro drivers policy (establisher.react event).next pending stream
        closed phase).associate hd now hn
      refine ⟨?_, congrArg (_ ++ ·) hacts⟩
      simpa only [Activity.answers_append, hseen, List.nil_append] using halike
    | markConnected =>
      exact ⟨by simpa [Activity.answers, hseen] using intro drivers .., rfl⟩
    | reassociate | giveUp | nothing =>
      refine ⟨?_, rfl⟩
      rw [hseen]
      exact intro drivers ..

theorem step (hd : dr.Discreet R c c') (h : Alike (R n) c c' s s') (now : ℕ)
    (hn : ∀ r ∈ s.step dr now, (Activity.answers r.2).length ≤ n) :
    Option.Rel (Same R c c' n) (s.step dr now) (s'.step dr now) := by
  cases h with
  | @intro d d' drivers policy establisher pending stream closed phase =>
    cases phase with
    | stopped => exact .none
    | delaying attempt due =>
      simp only [Supervisor.step] at hn ⊢
      split_ifs at hn ⊢
      · have hle := hn _ rfl
        obtain ⟨halike, hacts⟩ := (intro drivers policy establisher pending stream closed
          (.delaying attempt due)).associate hd now hle
        exact .some ⟨halike, congrArg (_ :: ·) hacts⟩
      · exact .none
    | ready =>
      rcases pending with _ | ⟨event, pending⟩
      · rcases stream with _ | ⟨event, stream⟩
        · cases closed with
          | false => exact .none
          | true => exact .some ⟨.intro drivers .., rfl⟩
        · have hle := hn _ rfl
          obtain ⟨halike, hacts⟩ := (intro drivers policy establisher [] stream closed
            .ready).handle hd now event hle
          exact .some ⟨halike, congrArg (_ :: ·) hacts⟩
      · have hle := hn _ rfl
        obtain ⟨halike, hacts⟩ := (intro drivers policy establisher pending stream closed
          .ready).handle hd now event hle
        exact .some ⟨halike, congrArg (_ :: ·) hacts⟩

theorem emitted (hd : dr.Discreet R c c') (h : Alike (R n) c c' s s') (now : ℕ)
    {acts : List Activity} (hn : (Activity.answers acts).length ≤ n) :
    s'.emitted dr now acts = s.emitted dr now acts := by
  cases h with
  | @intro d d' drivers =>
    cases n with
    | zero => simp [Supervisor.emitted, List.eq_nil_of_length_eq_zero (Nat.le_zero.1 hn)]
    | succ n => simp only [Supervisor.emitted, (hd n now d d' drivers).emits]

section

variable {R : δ → δ → Prop}

theorem send (h : Alike R c c' s s') (event : Event) :
    Alike R c c' (s.send event) (s'.send event) := by
  cases h with
  | intro drivers _ _ _ _ closed => cases closed <;> exact .intro drivers ..

theorem close (h : Alike R c c' s s') : Alike R c c' s.close s'.close := by
  cases h with
  | intro drivers => exact .intro drivers ..

theorem closed_eq (h : Alike R c c' s s') : s'.closed = s.closed := by
  cases h
  rfl

theorem status_eq (h : Alike R c c' s s') : s'.status = s.status := by
  cases h
  rfl

theorem readiness_eq (h : Alike R c c' s s') : s'.readiness = s.readiness := by
  cases h
  rfl

end

end Supervisor.Alike

/-! ## Courses -/

theorem Course.done_prefix (dr : Driver δ) (k : Course δ) (moves : List Move) :
    k.done <+: (k.run dr moves).done := by
  refine run_invariant (P := fun k' => k.done <+: k'.done) (fun h hm => ?_) moves List.prefix_rfl
  cases hm with
  | reports | hangsUp => exact h
  | steps => exact h.trans (List.prefix_append ..)

theorem Course.answers_run_le (dr : Driver δ) (k : Course δ) (moves : List Move) :
    (Activity.answers k.done).length ≤ (Activity.answers (k.run dr moves).done).length :=
  ((k.done_prefix dr moves).sublist.filterMap _).length_le

/-- Supervisors that differ in their credentials and drivers only, with one past, and are
    alike for the requests that are left of `n`. -/
structure Course.Alike (R : ℕ → δ → δ → Prop) (c c' : Credentials) (n : ℕ)
    (k k' : Course δ) : Prop where
  supervisors : Supervisor.Alike (R (n - (Activity.answers k.done).length)) c c'
    k.supervisor k'.supervisor
  offered : k'.offered = k.offered
  done : k'.done = k.done

namespace Course.Alike

variable {dr : Driver δ} {R : ℕ → δ → δ → Prop} {c c' : Credentials} {n : ℕ}
  {k k' : Course δ}

/-- Alike courses have the same moves to make. -/
theorem move (hd : dr.Discreet R c c') (h : Course.Alike R c c' n k k') (m : Move)
    (hn : ∀ r ∈ Course.move dr m k, (Activity.answers r.1.done).length ≤ n) :
    Option.Rel (fun r r' => Course.Alike R c c' n r.1 r'.1)
      (Course.move dr m k) (Course.move dr m k') := by
  obtain ⟨hs, hoffered, hdone⟩ := h
  cases m with
  | reports event =>
    refine .some ⟨hs.send event, ?_, hdone⟩
    simp only [hoffered, hs.closed_eq]
  | hangsUp => exact .some ⟨hs.close, hoffered, hdone⟩
  | steps now =>
    cases h₁ : k.supervisor.step dr now with
    | none =>
      have hstep := hs.step hd now (by simp [h₁])
      cases h₂ : k'.supervisor.step dr now with
      | none =>
        rw [move_idle h₁, move_idle h₂]
        exact .none
      | some r' => rw [h₁, h₂] at hstep; cases hstep
    | some r =>
      -- The answers of this move are requests that are not left afterwards.
      have hle := hn _ (move_step h₁)
      rw [Activity.answers_append, List.length_append] at hle
      have hacts : (Activity.answers r.2).length ≤ n - (Activity.answers k.done).length := by omega
      have hstep := hs.step hd now (by rw [h₁]; rintro _ ⟨⟩; exact hacts)
      cases h₂ : k'.supervisor.step dr now with
      | none => rw [h₁, h₂] at hstep; cases hstep
      | some r' =>
        rw [h₁, h₂] at hstep
        cases hstep with
        | some hsame =>
          rw [move_step h₁, move_step h₂]
          refine .some ⟨?_, ?_, ?_⟩
          · simpa only [Activity.answers_append, List.length_append, Nat.sub_sub]
              using hsame.alike
          · simp only [hoffered, hsame.acts, hs.emitted hd now hacts]
          · simp only [hdone, hsame.acts]

/-- **A supervisor is as discreet as its driver**, as long as it is related for all the
    requests of the course. -/
theorem run (hd : dr.Discreet R c c') (h : Course.Alike R c c' n k k') (moves : List Move)
    (hn : (Activity.answers (k.run dr moves).done).length ≤ n) :
    Course.Alike R c c' n (k.run dr moves) (k'.run dr moves) := by
  induction moves generalizing k k' with
  | nil => exact h
  | cons m moves ih =>
    have halike := h.move hd m fun r hr => by
      rw [run_cons_some hr] at hn
      exact (answers_run_le dr r.1 moves).trans hn
    cases h₁ : Course.move dr m k with
    | none =>
      cases h₂ : Course.move dr m k' with
      | none =>
        rw [run_cons_none h₁] at hn ⊢
        rw [run_cons_none h₂]
        exact ih h hn
      | some r' => rw [h₁, h₂] at halike; cases halike
    | some r =>
      cases h₂ : Course.move dr m k' with
      | none => rw [h₁, h₂] at halike; cases halike
      | some r' =>
        rw [h₁, h₂] at halike
        rw [run_cons_some h₁] at hn ⊢
        rw [run_cons_some h₂]
        cases halike with
        | some hk => exact ih hk hn

end Course.Alike

/-! ## Watched links -/

namespace Watch

variable {programs : Host.Programs σ} {c c' : Credentials}

/-- A command names its program without placeholders. -/
def NamesProgram (template : List String) : Prop :=
  ∀ program ∈ template.head?, Association.IsPlain program

/-- Watched links that differ in their hosts only, on which the command comes to the same
    each of the next `n` times. -/
inductive Alike (programs : Host.Programs σ) (c c' : Credentials) (n : ℕ) :
    Watch σ → Watch σ → Prop
  | intro (w : Watch σ) (host' : σ) (names : ∀ template ∈ w.template, NamesProgram template)
      (same : ∀ template ∈ w.template, ∀ m < n,
        programs.results (Association.argv template c) w.host m =
          programs.results (Association.argv template c') host' m) :
    Alike programs c c' n w { w with host := host' }

/-- **Watched links are discreet.** -/
theorem discreet (programs : Host.Programs σ) (c c' : Credentials) :
    (driver programs).Discreet (Alike programs c c') c c' := by
  intro n now w w' h
  cases h with
  | intro host' names same =>
    obtain ⟨interface, root, template, samples, watching, host⟩ := w
    rcases template with _ | ⟨_ | ⟨program, arguments⟩⟩
    · exact ⟨.intro _ host' names nofun, rfl, rfl, rfl, rfl⟩
    · refine ⟨.intro _ host' names ?_, rfl, rfl, rfl, rfl⟩
      intro template ht m _
      obtain rfl := Option.some.inj ht
      simp only [Association.argv, List.map_nil, Host.Programs.results]
    · have hplain : Association.IsPlain program := names _ rfl _ rfl
      have hsame := same _ rfl
      have hresult := hsame 0 (Nat.zero_lt_succ n)
      simp only [Association.argv, List.map_cons, hplain.fill, Host.Programs.results,
        Option.some.injEq] at hsame hresult
      simp only [driver, associate, Option.map_some, Association.argv, List.map_cons, hplain.fill,
        hresult]
      refine ⟨.intro (Watch.mk interface root _ samples watching _) _ names
        fun template ht m hm => ?_, rfl, rfl, rfl, rfl⟩
      obtain rfl := Option.some.inj ht
      simp only [Association.argv, List.map_cons, hplain.fill]
      exact hsame (m + 1) (Nat.succ_lt_succ hm)

/-- A watched link is started alike with whatever credentials and on whatever host, or
    fails to start alike. -/
theorem launch_alike (programs : Host.Programs σ) (w : Watch σ) (host' : σ)
    (c c' : Credentials) (policy : RetryPolicy) :
    let l := Supervisor.launch (driver programs) w c policy
    let l' := Supervisor.launch (driver programs) { w with host := host' } c' policy
    l'.2 = l.2 ∧
    ((∃ e, l.1 = .error e ∧ l'.1 = .error e) ∨
      ∃ s s', l.1 = .ok s ∧ l'.1 = .ok s' ∧ s'.stream = s.stream ∧
        Supervisor.Alike (fun v v' => v = { w with watching := true } ∧
          v' = { w with watching := true, host := host' }) c c' s s') := by
  intro l l'
  cases hw : w.watching with
  | true =>
    simp only [l, l', Supervisor.launch, driver, start, hw]
    exact ⟨rfl, .inl ⟨_, rfl, rfl⟩⟩
  | false =>
    simp only [l, l', Supervisor.launch, driver, start, hw]
    exact ⟨rfl, .inr ⟨_, _, rfl, rfl, rfl, .intro ⟨rfl, rfl⟩ ..⟩⟩

end Watch

/-- **Confidentiality.**  A watched link that names its program without placeholders, if it
    runs a command at all, is supervised twice, with different credentials.  Both start or
    fail to start alike, with the same records, and if the hosts make the same of the
    command each time that it is run, they do the same whatever happens: they take the same
    events, losses with their reasons among them, publish the same statuses, get the same
    answers from their drivers and log the same records with the same fields, and who
    waits for the link is told the same.  In diagnostics credentials show no password. -/
theorem confidential (programs : Host.Programs σ) (w : Watch σ) (host' : σ)
    (c c' : Credentials) (policy : RetryPolicy) (moves : List Move)
    (names : ∀ template ∈ w.template, Watch.NamesProgram template) :
    let dr := Watch.driver programs
    let l := Supervisor.launch dr w c policy
    let l' := Supervisor.launch dr { w with host := host' } c' policy
    l'.2 = l.2 ∧
    (∀ e, l'.1 = .error e ↔ l.1 = .error e) ∧
    (∀ s s', l.1 = .ok s → l'.1 = .ok s' →
      let k := (Course.start s).run dr moves
      let k' := (Course.start s').run dr moves
      (∀ template ∈ w.template, ∀ n < (Activity.answers k.done).length,
        programs.results (Association.argv template c) w.host n =
          programs.results (Association.argv template c') host' n) →
      k'.done = k.done ∧ k'.offered = k.offered ∧
      k'.supervisor.status = k.supervisor.status ∧
      k'.supervisor.readiness = k.supervisor.readiness) ∧
    ∀ ssid password password',
      Credentials.describe ⟨ssid, password⟩ = Credentials.describe ⟨ssid, password'⟩ := by
  intro dr l l'
  obtain ⟨hlog, ⟨e, hl, hl'⟩ | ⟨s, s', hl, hl', hstream, halike⟩⟩ :=
    Watch.launch_alike programs w host' c c' policy
  · refine ⟨hlog, fun e' => ?_, fun s s' h => ?_, fun _ _ _ => rfl⟩
    · rw [hl, hl']
    · rw [hl] at h
      cases h
  · refine ⟨hlog, fun e => ?_, fun t t' ht ht' => ?_, fun _ _ _ => rfl⟩
    · rw [hl, hl']
      exact ⟨nofun, nofun⟩
    obtain rfl := Except.ok.inj (hl.symm.trans ht)
    obtain rfl := Except.ok.inj (hl'.symm.trans ht')
    intro k k' same
    have hstart : Course.Alike (Watch.Alike programs c c') c c'
        (Activity.answers k.done).length (Course.start s) (Course.start s') := by
      refine ⟨?_, hstream, rfl⟩
      cases halike with
      | intro drivers =>
        obtain ⟨rfl, rfl⟩ := drivers
        exact .intro (.intro { w with watching := true } host' names same) ..
    obtain ⟨hsupervisors, hoffered, hdone⟩ :=
      hstart.run (Watch.discreet programs c c') moves (Nat.le_refl _)
    exact ⟨hdone, hoffered, hsupervisors.status_eq, hsupervisors.readiness_eq⟩

/-- A host that does not find its program the first time it is run, and on which it fails
    from then on; the state is how often it was run. -/
def reluctant : Host.Programs ℕ :=
  ⟨fun n _ _ => (if n = 0 then .error .notFound else .ok (.exited 1), n + 1)⟩

def keyed : Watch ℕ where
  interface := "wlan0"
  template := some ["nmcli", Association.ssidPlaceholder, Association.passwordPlaceholder]
  host := 0

theorem confidential_reluctant :
    let c : Credentials := ⟨"net", "key"⟩
    let c' : Credentials := ⟨Association.passwordPlaceholder, "other"⟩
    (∀ template ∈ keyed.template, Watch.NamesProgram template) ∧
    ∃ s s', (Supervisor.launch (Watch.driver reluctant) keyed c ⟨2, 0⟩).1 = .ok s ∧
      (Supervisor.launch (Watch.driver reluctant) keyed c' ⟨2, 0⟩).1 = .ok s' ∧
      let k := (Course.start s).run (Watch.driver reluctant) (.replicate 6 (.steps 0))
      let k' := (Course.start s').run (Watch.driver reluctant) (.replicate 6 (.steps 0))
      (∀ template ∈ keyed.template, ∀ n < (Activity.answers k.done).length,
        reluctant.results (Association.argv template c) 0 n =
          reluctant.results (Association.argv template c') 0 n) ∧
      k'.done = k.done ∧ (Activity.answers k.done).length = 3 := by
  intro c c'
  have names : ∀ template ∈ keyed.template, Watch.NamesProgram template := by
    intro template ht program hp
    cases ht
    cases hp
    exact ⟨by decide, by decide⟩
  have same : ∀ template ∈ keyed.template, ∀ n,
      reluctant.results (Association.argv template c) 0 n =
        reluctant.results (Association.argv template c') 0 n := by
    have hany (xs ys : List String) (n host : ℕ) :
        reluctant.results ("nmcli" :: xs) host n = reluctant.results ("nmcli" :: ys) host n := by
      induction n generalizing host with
      | zero => rfl
      | succ n ih => exact ih (host + 1)
    intro template ht n
    have hplain : Association.IsPlain "nmcli" := names _ rfl _ rfl
    cases ht
    simp only [Association.argv, List.map_cons, hplain.fill]
    exact hany _ _ n 0
  refine ⟨names, _, _, rfl, rfl, ?_⟩
  intro k k'
  obtain ⟨-, -, hruns, -⟩ :=
    confidential reluctant keyed 0 c c' ⟨2, 0⟩ (.replicate 6 (.steps 0)) names
  have happened : ∀ template ∈ keyed.template, ∀ n < (Activity.answers k.done).length,
      reluctant.results (Association.argv template c) 0 n =
        reluctant.results (Association.argv template c') 0 n :=
    fun template ht n _ => same template ht n
  obtain ⟨hdone, -⟩ := hruns _ _ rfl rfl happened
  exact ⟨happened, hdone, by decide +kernel⟩

end Link

end SignalActuator
