/-
  Confirmation — which report a sender takes for the answer to its request.

  The sender listens on a key-expression that others use as well, and takes the first
  report for the answer.  It does not ask what the report says, so that the answer to
  somebody else's request is as good as its own.

  * `FirstReport` is the report that counts, and `ofMessages_eq_confirmed_iff`: a sender
    is told what that one says;
  * `line_eq_confirmed_iff`: only a report is printed as one;
  * `confirms_iff`: the answer is the matching one exactly when the first report matches;
  * `confirms_other`: a sender of one value that is told the other.
-/
import SignalActuator.Cli.Confirmation
import SignalActuator.Proofs.Actuation.Handling
import SignalActuator.Proofs.Text.Utf8

namespace SignalActuator

/-! ## Reports -/

namespace Inbound

/-- A message that tells the actuator's present state: the attachment is the tag of
    reports, with nothing added and nothing missing. -/
def IsReport (m : Inbound) : Prop :=
  m.attachment = some (Utf8.encode Signal.currentValueTag)

theorem kind_eq_currentValue_iff {m : Inbound} : m.kind = .currentValue ↔ m.IsReport :=
  Signal.classify_eq_currentValue

/-- Only the payload of a value is read as its text. -/
theorem payloadText_eq_valueText_iff {m : Inbound} {v : Bool} :
    m.payloadText = Signal.valueText v ↔ m.payload = Signal.payload v := by
  have plain : (Signal.valueText v).toList.all Utf8.isPlain := by
    cases v <;> decide +kernel
  exact Utf8.decodeLossy_eq_iff plain

end Inbound

namespace Cli

variable {ms : List Inbound} {m : Inbound}

/-- The first report among messages. -/
def FirstReport (ms : List Inbound) (m : Inbound) : Prop :=
  m.IsReport ∧ ∃ before after, ms = before ++ m :: after ∧ ∀ x ∈ before, ¬ x.IsReport

theorem firstReport_iff : FirstReport ms m ↔ ms.find? (·.kind == .currentValue) = some m := by
  simp [FirstReport, List.find?_eq_some_iff_append, Inbound.kind_eq_currentValue_iff]

theorem exists_firstReport {n : Inbound} (hn : n ∈ ms) (report : n.IsReport) :
    ∃ m, FirstReport ms m := by
  simp only [firstReport_iff, ← Option.isSome_iff_exists, List.find?_isSome, beq_iff_eq]
  exact ⟨n, hn, Inbound.kind_eq_currentValue_iff.2 report⟩

namespace Confirmation

variable {closed : Bool} {secs : UInt64} {w : String}

/-! ## What a sender is told -/

/-- A sender is told what the first report says. -/
theorem ofMessages_eq_confirmed_iff :
    ofMessages ms closed secs = .confirmed w ↔ ∃ m, FirstReport ms m ∧ m.payloadText = w := by
  simp only [firstReport_iff, ofMessages, firstReport?]
  cases ms.find? (·.kind == .currentValue) with
  | none => cases closed <;> simp
  | some m => simp

/-- Without a report, the wait ends with the session or with the time. -/
theorem ofMessages_of_no_report (h : ∀ m ∈ ms, ¬ m.IsReport) :
    ofMessages ms closed secs = if closed then .sessionClosed else .timedOut secs := by
  have hnone : ms.find? (·.kind == .currentValue) = none := by
    simpa [List.find?_eq_none, Inbound.kind_eq_currentValue_iff] using h
  rw [ofMessages, firstReport?, hnone]
  rfl

theorem head?_append {s t : String} {c : Char} (h : s.toList.head? = some c) :
    (s ++ t).toList.head? = some c := by
  rw [String.toList_append, List.head?_append, h]
  rfl

/-- Only a report is printed as one: the other lines begin with another sign. -/
theorem line_eq_confirmed_iff {c : Confirmation} :
    c.line = "✅ Confirmed currentValue=" ++ w ↔ c = .confirmed w := by
  have confirmed : "✅ Confirmed currentValue=".toList.head? = some '✅' := by decide +kernel
  have sessionClosed : Confirmation.sessionClosed.line.toList.head? = some '⚠' := by
    decide +kernel
  have timedOut : "⚠️  No confirmation within ".toList.head? = some '⚠' := by decide +kernel
  constructor
  · intro h
    have hhead : c.line.toList.head? = some '✅' := by
      rw [h]
      exact head?_append confirmed
    cases c with
    | confirmed v => rw [(String.append_right_inj _).1 h]
    | sessionClosed => exact absurd (sessionClosed.symm.trans hhead) (by decide)
    | timedOut n =>
      have hline : (Confirmation.timedOut n).line.toList.head? = some '⚠' :=
        head?_append (head?_append timedOut)
      exact absurd (hline.symm.trans hhead) (by decide)
  · rintro rfl
    rfl

/-- **Which report is taken for the answer.**  The sender of a request prints what the
    first report says, whatever was requested.  It prints nothing but the requested value,
    and prints that whenever a report of it comes, exactly when the first report, if there
    is one, is such a report. -/
theorem confirms_iff (v : Bool) (ms : List Inbound) (closed : Bool) (secs : UInt64) :
    let said := (ofMessages ms closed secs).line
    (∀ w, said = "✅ Confirmed currentValue=" ++ w ↔
      ∃ m, FirstReport ms m ∧ m.payloadText = w) ∧
    (((∀ w, said = "✅ Confirmed currentValue=" ++ w → w = Signal.valueText v) ∧
        ((∃ m ∈ ms, m.IsReport ∧ m.payload = Signal.payload v) →
          said = "✅ Confirmed currentValue=" ++ Signal.valueText v)) ↔
      ∀ m, FirstReport ms m → m.payload = Signal.payload v) ∧
    ((∀ m ∈ ms, ¬ m.IsReport) →
      said = (if closed then sessionClosed else timedOut secs).line) := by
  intro said
  have hsaid (w : String) : said = "✅ Confirmed currentValue=" ++ w ↔
      ∃ m, FirstReport ms m ∧ m.payloadText = w :=
    line_eq_confirmed_iff.trans ofMessages_eq_confirmed_iff
  refine ⟨hsaid, ?_, fun hnone => congrArg line (ofMessages_of_no_report hnone)⟩
  constructor
  · rintro ⟨only, -⟩ m hm
    rw [← Inbound.payloadText_eq_valueText_iff]
    exact only _ ((hsaid _).2 ⟨m, hm, rfl⟩)
  · intro first
    constructor
    · intro w hw
      obtain ⟨m, hm, rfl⟩ := (hsaid w).1 hw
      exact Inbound.payloadText_eq_valueText_iff.2 (first m hm)
    · rintro ⟨n, hn, report, -⟩
      obtain ⟨m, hm⟩ := exists_firstReport hn report
      exact (hsaid _).2 ⟨m, hm, Inbound.payloadText_eq_valueText_iff.2 (first m hm)⟩

def report (v : Bool) : Inbound where
  keyExpr := KeyExpr.default
  payload := Signal.payload v
  attachment := some (Utf8.encode Signal.currentValueTag)

/-- **Told the other value.**  The answer to somebody else's opposite request comes first,
    and the sender's own answer is never looked at. -/
theorem confirms_other :
    (∃ m ∈ [report false, report true], m.IsReport ∧ m.payload = Signal.payload true) ∧
      (ofMessages [report false, report true] false 5).line =
        "✅ Confirmed currentValue=" ++ Signal.valueText false := by
  constructor
  · exact ⟨report true, by simp, rfl, rfl⟩
  · decide +kernel

end Confirmation

end Cli

end SignalActuator
