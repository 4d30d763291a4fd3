/-
  User properties — what of a publication a message is read from.

  A publication may carry any number of user properties, several of them with one name.  Of
  these only the first one named `attachment` and the first one named `timestamp` are looked
  at.  Names are compared as they stand, so that one in other letters or with a blank is
  another name.

  * `FirstValue`: the first value of a name in a list of properties, or that there is none;
  * `inbound_of_first`: the message in a publication, out of its first values;
  * `Context.process_alike`: messages that agree in topic, payload and kind are dealt with
    alike;
  * `first_properties`: publications that agree in their first values hold the same message,
    and those that agree in their first attachments one of the same kind.
-/
import SignalActuator.Proofs.Actuation.Feedback
import SignalActuator.Proofs.Text.Utf8
import Mathlib.Logic.ExistsUnique

namespace SignalActuator

namespace Bus

/-! ## First values -/

/-- The value of the first property with a name, or nothing if no property has that name. -/
inductive FirstValue (name : String) : List (String × String) → Option String → Prop where
  | absent {user : List (String × String)} (others : ∀ x ∈ user, x.1 ≠ name) :
    FirstValue name user none
  | present {before : List (String × String)} (others : ∀ x ∈ before, x.1 ≠ name)
    (value : String) (after : List (String × String)) :
    FirstValue name (before ++ (name, value) :: after) (some value)

/-- The properties come to the same for a name. -/
def SameFirst (name : String) (user user' : List (String × String)) : Prop :=
  ∀ v, FirstValue name user v ↔ FirstValue name user' v

section

variable {name : String} {user : List (String × String)} {v : Option String}

theorem firstValue_iff :
    FirstValue name user v ↔ (user.find? fun x => x.1 == name).map (·.2) = v := by
  constructor
  · rintro (others | @⟨before, others, value, after⟩)
    · rw [Option.map_eq_none_iff, List.find?_eq_none]
      simpa using others
    · have hbefore : before.find? (fun x => x.1 == name) = none := by
        rw [List.find?_eq_none]
        simpa using others
      simp [hbefore]
  · intro h
    rcases hfind : user.find? (fun x => x.1 == name) with _ | ⟨n, value⟩
    · rw [hfind] at h
      subst h
      rw [List.find?_eq_none] at hfind
      exact .absent (by simpa using hfind)
    · obtain ⟨hname, before, after, rfl, hbefore⟩ := List.find?_eq_some_iff_append.1 hfind
      rw [hfind] at h
      subst h
      obtain rfl : n = name := by simpa using hname
      exact .present (by simpa using hbefore) value after

theorem existsUnique_firstValue (name : String) (user : List (String × String)) :
    ∃! v, FirstValue name user v :=
  ⟨_, firstValue_iff.2 rfl, fun _ h => (firstValue_iff.1 h).symm⟩

theorem sameFirst_iff {user' : List (String × String)} :
    SameFirst name user user' ↔
      (user.find? fun x => x.1 == name).map (·.2) =
        (user'.find? fun x => x.1 == name).map (·.2) := by
  simp only [SameFirst, firstValue_iff]
  constructor
  · intro h
    exact ((h _).1 rfl).symm
  · intro h v
    rw [h]

end

/-! ## Messages -/

namespace Publish

/-- The user properties; a publication without properties has none. -/
def userProperties (p : Publish) : List (String × String) :=
  (p.properties.map (·.user)).getD []

def contentType (p : Publish) : Option String :=
  p.properties.bind (·.contentType)

end Publish

variable {p q : Publish} {a t : Option String}

theorem inbound_of_first (ha : FirstValue "attachment" p.userProperties a)
    (ht : FirstValue "timestamp" p.userProperties t) :
    p.inbound =
      { keyExpr := Utf8.decodeLossy p.topic, payload := p.payload, encoding := p.contentType
        attachment := a.map Utf8.encode, timestamp := t.bind Timestamp.parse? } := by
  rw [firstValue_iff] at ha ht
  subst ha ht
  rcases hp : p.properties with _ | properties
  · simp [Publish.inbound, Publish.userProperties, Publish.contentType, hp]
  · simp [Publish.inbound, Publish.userProperties, Publish.contentType, hp, Properties.user?,
      attachmentProperty, timestampProperty]

theorem kind_of_first (ha : FirstValue "attachment" p.userProperties a) :
    p.inbound.kind = .classify (a.map Utf8.encode) := by
  obtain ⟨t, ht, -⟩ := existsUnique_firstValue "timestamp" p.userProperties
  rw [Inbound.kind, inbound_of_first ha ht]

theorem kind_eq_targetValue_iff :
    p.inbound.kind = .targetValue ↔
      FirstValue "attachment" p.userProperties (some "targetValue") := by
  obtain ⟨a, ha, hunique⟩ := existsUnique_firstValue "attachment" p.userProperties
  rw [kind_of_first ha, Signal.classify_eq_targetValue]
  constructor
  · intro h
    obtain ⟨tag, rfl, htag⟩ := Option.map_eq_some_iff.1 h
    obtain rfl : tag = "targetValue" := Utf8.encode_injective htag
    exact ha
  · intro h
    rw [← hunique _ h]
    rfl

/-- Publications that a provider has no reason to deal with differently. -/
structure SameRequest (p q : Publish) : Prop where
  topic : p.topic = q.topic
  payload : p.payload = q.payload
  attachment : SameFirst "attachment" p.userProperties q.userProperties

theorem kind_congr (h : SameFirst "attachment" p.userProperties q.userProperties) :
    p.inbound.kind = q.inbound.kind := by
  obtain ⟨a, ha, -⟩ := existsUnique_firstValue "attachment" p.userProperties
  rw [kind_of_first ha, kind_of_first ((h a).1 ha)]

theorem SameRequest.inbound_eq (h : SameRequest p q) (encoding : p.contentType = q.contentType)
    (ht : FirstValue "timestamp" q.userProperties t) :
    q.inbound = { p.inbound with timestamp := t.bind Timestamp.parse? } := by
  obtain ⟨a, ha, -⟩ := existsUnique_firstValue "attachment" p.userProperties
  obtain ⟨t', ht', -⟩ := existsUnique_firstValue "timestamp" p.userProperties
  rw [inbound_of_first ((h.attachment a).1 ha) ht, inbound_of_first ha ht', h.topic, h.payload,
    encoding]

end Bus

/-! ## Handling -/

namespace Actuation

variable {σ α : Type}

/-- Runs that come to the same and make the same calls; their log records may differ. -/
structure Run.Alike (r r' : Run σ α) : Prop where
  value : r.value = r'.value
  state : r.state = r'.state
  calls : Effect.calls r.effects = Effect.calls r'.effects

/-- An engine looks at the kind of a message, and at the payload of a request. -/
theorem Engine.handle_alike (dev : Devices σ) (e : Engine) {m n : Inbound}
    (payload : m.payload = n.payload) (kind : m.kind = n.kind) (s : σ) :
    (e.handle dev m s).Alike (e.handle dev n s) := by
  cases hk : n.kind with
  | targetValue =>
    rw [handle, handle, kind, hk, payload]
    exact ⟨rfl, rfl, rfl⟩
  | currentValue | unknown =>
    rw [handle, handle, kind, hk]
    exact ⟨rfl, rfl, rfl⟩

theorem Context.process_alike (dev : Devices σ) (c : Context) {m n : Inbound}
    (topic : m.keyExpr = n.keyExpr) (payload : m.payload = n.payload) (kind : m.kind = n.kind)
    (s : σ) : (c.process dev m s).Alike (c.process dev n s) := by
  by_cases hm : m.keyExpr = c.keyExpr
  · obtain ⟨hv, hs, hc⟩ := process_onTopic dev hm s
    obtain ⟨hv', hs', hc'⟩ := process_onTopic dev (topic ▸ hm) s
    obtain ⟨value, state, calls⟩ := c.engine.handle_alike dev payload kind s
    refine ⟨?_, ?_, ?_⟩
    · rw [hv, hv', value]
    · rw [hs, hs', state]
    · rw [hc, hc', calls]
  · obtain ⟨hv, hs, hc⟩ := process_offTopic dev hm s
    obtain ⟨hv', hs', hc'⟩ := process_offTopic dev (topic ▸ hm) s
    refine ⟨?_, ?_, ?_⟩
    · rw [hv, hv']
    · rw [hs, hs']
    · rw [hc, hc']

/-- Only a request for a value leads to calls, and each one does. -/
theorem Handled.ne_nil_iff {k : String} {m : Inbound} {o : Outcome} {es : List Effect}
    (h : Handled k m o es) : es ≠ [] ↔ ∃ v, Demands k m v := by
  constructor
  · intro hne
    by_cases hd : ∃ v, Demands k m v
    · exact hd
    · exact absurd (h.eq_nil (not_exists.1 hd)) hne
  · rintro ⟨v, demand⟩
    cases h with
    | offTopic topic => exact absurd demand.onTopic topic
    | echo _ tag => exact absurd (tag.symm.trans demand.tagged) (by decide)
    | untagged _ _ request => exact absurd demand.tagged request
    | rejected _ _ value => exact absurd demand.payload (value v)
    | refused | obeyed => exact List.cons_ne_nil _ _

end Actuation

namespace Bus

open Actuation

variable {p q : Publish}

/-- A publication asks for a value by its topic, its payload and its first attachment. -/
theorem demands_iff {k : String} {v : Bool} :
    Demands k p.inbound v ↔ FirstValue "attachment" p.userProperties (some "targetValue") ∧
      Utf8.decodeLossy p.topic = k ∧ p.payload = Signal.payload v := by
  rw [← kind_eq_targetValue_iff, Inbound.kind, Signal.classify_eq_targetValue]
  constructor
  · rintro ⟨onTopic, tagged, payload⟩
    exact ⟨tagged, onTopic, payload⟩
  · rintro ⟨tagged, onTopic, payload⟩
    exact ⟨onTopic, tagged, payload⟩

/-- **The first properties decide.**  Let two publications agree in topic, payload, content
    type and the first values of `attachment` and `timestamp`, or in that there are none:
    they hold the same message, whatever else their properties are and however they are
    ordered.  Without the first time stamps their messages differ in their time stamps at
    most.  The time stamp of a message is what the first value reads as, and there is none
    if that does not read, whatever comes behind it.  The first attachment alone decides on
    the kind of a message; messages that agree in it, in topic and in payload are dealt with
    alike.  A provider does something for a message exactly if the first attachment is
    `targetValue`, the topic is its own and the payload is that of a value; any other
    message leaves it as it was. -/
theorem first_properties (p q : Publish) :
    (SameRequest p q → p.contentType = q.contentType →
      SameFirst "timestamp" p.userProperties q.userProperties → p.inbound = q.inbound) ∧
    (SameRequest p q → p.contentType = q.contentType →
      { p.inbound with timestamp := none } = { q.inbound with timestamp := none }) ∧
    (∀ t, FirstValue "timestamp" p.userProperties t →
      p.inbound.timestamp = t.bind Timestamp.parse?) ∧
    (SameFirst "attachment" p.userProperties q.userProperties →
      p.inbound.kind = q.inbound.kind) ∧
    (SameRequest p q → ∀ {σ : Type} (dev : Devices σ) (c : Context) (s : σ),
      (c.process dev p.inbound s).Alike (c.process dev q.inbound s)) ∧
    ∀ {σ : Type} (dev : Devices σ) (c : Context) (s : σ),
      let r := c.process dev.observed p.inbound s
      let asks := FirstValue "attachment" p.userProperties (some "targetValue") ∧
        Utf8.decodeLossy p.topic = c.keyExpr ∧ ∃ v, p.payload = Signal.payload v
      (Effect.calls r.effects ≠ [] ↔ asks) ∧
        (¬ asks → r.state = s ∧ r.value.2.engine = c.engine) := by
  obtain ⟨t, ht, -⟩ := existsUnique_firstValue "timestamp" p.userProperties
  obtain ⟨t', ht', -⟩ := existsUnique_firstValue "timestamp" q.userProperties
  have hread {t : Option String} (ht : FirstValue "timestamp" p.userProperties t) :
      p.inbound.timestamp = t.bind Timestamp.parse? := by
    obtain ⟨a, ha, -⟩ := existsUnique_firstValue "attachment" p.userProperties
    rw [inbound_of_first ha ht]
  refine ⟨fun h encoding timestamp => ?_, fun h encoding => ?_, fun t => hread, kind_congr,
    fun h σ dev c s => ?_, fun dev c s => ?_⟩
  · rw [h.inbound_eq encoding ((timestamp t).1 ht), ← hread ht]
  · rw [h.inbound_eq encoding ht']
  · refine Context.process_alike dev c ?_ h.payload (kind_congr h.attachment) s
    exact congrArg Utf8.decodeLossy h.topic
  · have h := Context.processes_process dev c p.inbound s
    have hasks : (∃ v, Demands c.keyExpr p.inbound v) ↔
        FirstValue "attachment" p.userProperties (some "targetValue") ∧
          Utf8.decodeLossy p.topic = c.keyExpr ∧ ∃ v, p.payload = Signal.payload v := by
      simp only [demands_iff, exists_and_left]
    exact ⟨h.handled.ne_nil_iff.trans hasks, fun hn => h.idle (not_exists.1 (mt hasks.1 hn))⟩

/-- The same request twice.  The one has a second attachment and a second time stamp that
    would parse, the other has both under names that are nearly theirs, and the two that
    count in the other order. -/
theorem first_properties_shuffled :
    let p : Publish :=
      { topic := Utf8.encode "horn", payload := Utf8.encode "true"
        properties := some
          { user := [("source", "hmi"), ("timestamp", "yesterday"), ("attachment", "targetValue"),
              ("timestamp", "2024-05-01T12:00:00Z"), ("attachment", "currentValue")] } }
    let q : Publish :=
      { topic := Utf8.encode "horn", payload := Utf8.encode "true"
        properties := some
          { user := [("Attachment", "currentValue"), ("attachment", "targetValue"),
              (" timestamp", "2024-05-01T12:00:00Z"), ("timestamp", "yesterday")] } }
    p.inbound = q.inbound ∧ p.inbound.timestamp = none ∧
      FirstValue "attachment" p.userProperties (some "targetValue") := by
  intro p q
  have attachment : SameFirst "attachment" p.userProperties q.userProperties :=
    sameFirst_iff.2 rfl
  have timestamp : SameFirst "timestamp" p.userProperties q.userProperties :=
    sameFirst_iff.2 rfl
  have first : FirstValue "timestamp" p.userProperties (some "yesterday") :=
    firstValue_iff.2 rfl
  have unread : Timestamp.parse? "yesterday" = none := by decide +kernel
  obtain ⟨hsame, -, hread, -⟩ := first_properties p q
  refine ⟨hsame ⟨rfl, rfl, attachment⟩ rfl timestamp, ?_, firstValue_iff.2 rfl⟩
  rw [hread _ first, Option.bind_some, unread]

end Bus

end SignalActuator
