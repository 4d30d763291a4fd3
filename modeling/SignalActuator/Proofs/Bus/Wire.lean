/-
  The wire — a message that is put into a publication comes out as it went in.

  Writer and reader of a publication agree on the names of the user properties, on
  the tags and on the text of the time stamp.

  * `user?_attachment` and `user?_timestamp`: the properties of a message hold its
    attachment and its time, each under its own name;
  * `wire_round_trip`: a request or a report, sent at any instant in a year of four
    digits, is read back with all its parts.
-/
import SignalActuator.Bus.Packet
import SignalActuator.Proofs.Actuation.Handling
import SignalActuator.Proofs.Text.Utf8
import SignalActuator.Proofs.Timestamp

namespace SignalActuator.Bus

theorem user?_attachment (m : Outbound) (sent : Timestamp) :
    (Properties.ofOutbound m sent).user? attachmentProperty = some m.attachment := rfl

theorem user?_timestamp (m : Outbound) (sent : Timestamp) :
    (Properties.ofOutbound m sent).user? timestampProperty = some sent.toText := by
  have hne : (attachmentProperty == timestampProperty) = false := by decide
  simp [Properties.user?, Properties.ofOutbound, hne]

theorem inbound_ofOutbound (k : String) (m : Outbound) {t : Timestamp}
    (h : 0 ≤ t.date.year ∧ t.date.year ≤ 9999) :
    (Publish.ofOutbound k m t).inbound =
      { keyExpr := k, payload := m.payload, encoding := some m.encoding
        attachment := some (Utf8.encode m.attachment), timestamp := some t } := by
  simp only [Publish.inbound, Publish.ofOutbound, Option.bind_some, user?_attachment,
    user?_timestamp, Option.map_some, Utf8.decodeLossy_encode, Timestamp.parse?_toText h]
  rfl

/-- **The wire keeps a message.**  A request or a report of the value `v`, published
    on the topic `k` with its properties as of the time `t`, is read back with its
    key-expression, payload, encoding, tag and time, as the kind of message that it
    was, and asks for the value or reports it. -/
theorem wire_round_trip (v request : Bool) (k : String) (t : Timestamp)
    (h : 0 ≤ t.date.year ∧ t.date.year ≤ 9999) :
    let m : Outbound := if request then .targetValue v else .currentValue v
    let p : Publish :=
      { topic := Utf8.encode k, payload := m.payload, properties := some (.ofOutbound m t) }
    p.inbound =
        { keyExpr := k, payload := m.payload, encoding := some "text/plain;charset=utf-8"
          attachment := some (Utf8.encode m.attachment), timestamp := some t } ∧
      p.inbound.kind = m.kind ∧
      m.kind = (if request then .targetValue else .currentValue) ∧
      Signal.command? p.inbound.payload = some v := by
  intro m p
  have hp : p.inbound = _ := inbound_ofOutbound k m h
  have hencoding : m.encoding = "text/plain;charset=utf-8" := by cases request <;> rfl
  have hpayload : m.payload = Signal.payload v := by cases request <;> rfl
  refine ⟨?_, ?_, ?_, ?_⟩
  · rw [hp, hencoding]
  · rw [hp]
    rfl
  · cases request
    · exact Signal.classify_eq_currentValue.2 rfl
    · exact Signal.classify_eq_targetValue.2 rfl
  · rw [hp]
    exact Signal.command?_eq_some.2 hpayload

/-- A request that is sent in a leap second, one nanosecond into it, on a topic
    outside of ASCII. -/
theorem wire_round_trip_leap :
    let t : Timestamp :=
      ⟨⟨2016, 12, 31, by decide, by decide⟩,
        ⟨23, 59, 60, 1, by decide, by decide, by decide, by decide⟩⟩
    let p : Publish :=
      { topic := Utf8.encode "Gerät/Hupe", payload := Utf8.encode "true"
        properties := some
          { contentType := some "text/plain;charset=utf-8"
            user := [("attachment", "targetValue"),
              ("timestamp", "2016-12-31T23:59:60.000000001+00:00")] } }
    p.inbound.timestamp = some t ∧ p.inbound.keyExpr = "Gerät/Hupe" ∧
      p.inbound.kind = .targetValue ∧ Signal.command? p.inbound.payload = some true := by
  intro t p
  obtain ⟨hp, hk, hm, hv⟩ := wire_round_trip true true "Gerät/Hupe" t (by decide)
  have htext : t.toText = "2016-12-31T23:59:60.000000001+00:00" := by decide +kernel
  have hproperties : Properties.ofOutbound (.targetValue true) t =
      { contentType := some "text/plain;charset=utf-8"
        user := [("attachment", "targetValue"),
          ("timestamp", "2016-12-31T23:59:60.000000001+00:00")] } := by
    rw [Properties.ofOutbound, htext]
    rfl
  simp only [if_true, hproperties] at hp hk hm hv
  exact ⟨congrArg Inbound.timestamp hp, congrArg Inbound.keyExpr hp, hk.trans hm, hv⟩

end SignalActuator.Bus
