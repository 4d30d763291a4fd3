/-
  The limits of a configuration — what its numbers are good for once it is accepted.

  A poll needs an interval, a connection a name, and the inbox of a subscriber room for a
  message.  Checking a configuration sees to all of these.  An inbox has a largest room as
  well, which is not looked at: an integer of a document may be four times as large.

  * `accepted_iff`: which configurations are accepted, out of any text;
  * `Bus.IsRoom`: what an inbox can be made with;
  * `accepted_numbers`: what an accepted configuration passes on, and where the room of its
    inboxes ends;
  * `accepted_numbers_excessive`: a configuration that is accepted, with a room that no
    inbox can be made with.
-/
import SignalActuator.Proofs.Config.RoundTrip
import SignalActuator.Provider.Startup

namespace SignalActuator

/-- The largest room of an inbox: an eighth of the numbers of 64 bits. -/
def Bus.roomLimit : Nat := Nat.pow 2 61 - 1

/-- The numbers that an inbox can be made with as its room; with any other, the attempt
    takes the program down. -/
def Bus.IsRoom (room : Nat) : Prop :=
  1 ≤ room ∧ room ≤ roomLimit

/-- A locator of the right shape can still have a port that is too large, and nothing else
    that is wrong. -/
theorem Locator.invalidPort_of_validate {s : String} (h : validate s = .ok ()) {e : Error}
    (hparse : parse s = .error e) : ∃ port, e = .invalidPort port := by
  unfold validate at h
  unfold parse at hparse
  split at hparse
  · cases hparse
  · rename_i hne
    rw [if_neg hne] at h
    split at hparse
    · rename_i hshape
      rw [hshape] at h
      cases h
    · split at hparse
      · cases hparse
      · cases hparse
        exact ⟨_, rfl⟩

namespace Config

variable {c : Config} {text : String}

/-! ## What is accepted -/

theorem validate_eq_ok_iff : c.validate = .ok () ↔
    (c.device.id ≠ "" ∧ c.device.id.toList.all isDeviceChar) ∧
      Locator.validate c.bus.locator = .ok () ∧ KeyExpr.validate c.bus.keyExpr = .ok () ∧
      c.bus.channelCapacity ≠ 0 ∧ c.link.pollIntervalMs ≠ 0 := by
  constructor
  · intro h
    obtain ⟨_, hdevice, h⟩ := ok_of_bind h
    obtain ⟨_, hlocator, h⟩ := ok_of_bind h
    obtain ⟨_, hkey, h⟩ := ok_of_bind h
    have hdevice : c.device.id ≠ "" ∧ c.device.id.toList.all isDeviceChar := by
      by_contra hnot
      rw [validateDevice, if_neg hnot] at hdevice
      cases hdevice
    refine ⟨hdevice, ok_of_mapError hlocator, ok_of_mapError hkey, fun hroom => ?_,
      fun hinterval => ?_⟩
    · rw [if_pos hroom] at h
      cases h
    · rw [if_pos hinterval] at h
      split at h <;> cases h
  · rintro ⟨hdevice, hlocator, hkey, hroom, hinterval⟩
    rw [validate, validateDevice, if_pos hdevice, hlocator, hkey, if_neg hroom, if_neg hinterval]
    rfl

/-- **What is accepted.**  A configuration is read out of some text exactly if it passes
    the checks and its numbers are below 2^63. -/
theorem accepted_iff : (∃ text, parse text = .ok c) ↔ c.Writable ∧ c.validate = .ok () :=
  ⟨fun ⟨_, h⟩ => writable_of_parse h, fun ⟨hw, hv⟩ => ⟨c.render, parse_render_of_writable hw hv⟩⟩

theorem one_le_toNat {n : UInt64} : 1 ≤ n.toNat ↔ n ≠ 0 := by
  rw [Nat.one_le_iff_ne_zero, ne_eq, ne_eq, ← UInt64.toNat_inj]
  rfl

/-- With another room a configuration is accepted as it was, if the room is a number of a
    document and not zero. -/
theorem accepted_room_iff (h : parse text = .ok c) (room : UInt64) :
    (∃ text', parse text' = .ok { c with bus.channelCapacity := room }) ↔
      1 ≤ room.toNat ∧ room.toNat < Toml.integerLimit := by
  obtain ⟨⟨⟨htimeout, -⟩, hpoll⟩, hv⟩ := writable_of_parse h
  obtain ⟨hdevice, hlocator, hkey, -, hinterval⟩ := validate_eq_ok_iff.1 hv
  rw [accepted_iff, validate_eq_ok_iff]
  constructor
  · rintro ⟨⟨⟨-, hlt⟩, -⟩, -, -, -, hroom, -⟩
    exact ⟨one_le_toNat.2 hroom, hlt⟩
  · rintro ⟨hpos, hlt⟩
    exact ⟨⟨⟨htimeout, hlt⟩, hpoll⟩, hdevice, hlocator, hkey, one_le_toNat.1 hpos, hinterval⟩

theorem accepted_interval_iff (h : parse text = .ok c) (interval : UInt64) :
    (∃ text', parse text' = .ok { c with link.pollIntervalMs := interval }) ↔
      1 ≤ interval.toNat ∧ interval.toNat < Toml.integerLimit := by
  obtain ⟨⟨hbus, -⟩, hv⟩ := writable_of_parse h
  obtain ⟨hdevice, hlocator, hkey, hroom, -⟩ := validate_eq_ok_iff.1 hv
  rw [accepted_iff, validate_eq_ok_iff]
  constructor
  · rintro ⟨⟨-, hlt⟩, -, -, -, -, hinterval⟩
    exact ⟨one_le_toNat.2 hinterval, hlt⟩
  · rintro ⟨hpos, hlt⟩
    exact ⟨⟨hbus, hlt⟩, hdevice, hlocator, hkey, hroom, one_le_toNat.1 hpos⟩

/-! ## What is passed on -/

/-- The options of a session are those of the configuration, unless the port of its locator
    is too large. -/
theorem sessionOptions_of_validate (h : c.validate = .ok ()) (env : Host.Environment) :
    (∃ l, Provider.sessionOptions c env = .ok
      { clientId := c.device.id
        mode := c.bus.mode
        locator := l
        username := c.busUsername env
        password := c.busPassword env
        connectTimeout := .ofSeconds c.bus.connectTimeoutSecs.toNat
        channelCapacity := c.bus.channelCapacity }) ∨
    ∃ port, Provider.sessionOptions c env =
      .error (.config (.invalidLocator (.invalidPort port))) := by
  obtain ⟨-, hlocator, -⟩ := validate_eq_ok_iff.1 h
  rw [Provider.sessionOptions, hlocator, session, locator]
  cases hparse : Locator.parse c.bus.locator with
  | ok l => exact .inl ⟨l, rfl⟩
  | error e =>
    obtain ⟨port, rfl⟩ := Locator.invalidPort_of_validate hlocator hparse
    exact .inr ⟨port, rfl⟩

/-- **What an accepted configuration is good for.**  Its link is polled at an interval that
    is not zero.  A session is opened with its name, which a connection takes, and with its
    room, unless the port of the locator is too large.  Of the rooms, and of the intervals,
    those from one to below 2^63 are accepted; an inbox can be made with an accepted room
    exactly if it is at most the limit. -/
theorem accepted_numbers (accepted : parse text = .ok c) (env : Host.Environment) :
    c.link.pollIntervalMs.toNat ≠ 0 ∧
    ((∃ o connection, Provider.sessionOptions c env = .ok o ∧ o.connect = .ok connection ∧
        connection.clientId = c.device.id ∧ c.device.id ≠ "" ∧
        o.channelCapacity = c.bus.channelCapacity) ∨
      ∃ port, Provider.sessionOptions c env =
        .error (.config (.invalidLocator (.invalidPort port)))) ∧
    (Bus.IsRoom c.bus.channelCapacity.toNat ↔ c.bus.channelCapacity.toNat ≤ Bus.roomLimit) ∧
    (∀ room : UInt64, (∃ text', parse text' = .ok { c with bus.channelCapacity := room }) ↔
      1 ≤ room.toNat ∧ room.toNat < Toml.integerLimit) ∧
    ∀ interval : UInt64, (∃ text', parse text' = .ok { c with link.pollIntervalMs := interval }) ↔
      1 ≤ interval.toNat ∧ interval.toNat < Toml.integerLimit := by
  have hv : c.validate = .ok () := (writable_of_parse accepted).2
  obtain ⟨⟨hname, -⟩, -, -, hroom, hinterval⟩ := validate_eq_ok_iff.1 hv
  refine ⟨Nat.one_le_iff_ne_zero.1 (one_le_toNat.2 hinterval), ?_,
    and_iff_right (one_le_toNat.2 hroom), accepted_room_iff accepted,
    accepted_interval_iff accepted⟩
  refine (sessionOptions_of_validate hv env).imp_left ?_
  rintro ⟨l, hoptions⟩
  exact ⟨_, _, hoptions, if_neg hname, rfl, hname, rfl⟩

/-- The largest room of an inbox is accepted, with the longest interval there is; no room at
    all is not. -/
theorem accepted_numbers_largest :
    let text := "[device]\nid = \"horn\"\n[bus]\nchannel_capacity = 2305843009213693951\n" ++
      "[link]\npoll_interval_ms = 9223372036854775807\n"
    let c : Config :=
      { device := ⟨"horn"⟩
        bus := { channelCapacity := 2305843009213693951 }
        link := { pollIntervalMs := 9223372036854775807 } }
    parse text = .ok c ∧ Bus.IsRoom c.bus.channelCapacity.toNat ∧
      c.link.pollIntervalMs.toNat ≠ 0 ∧
      ¬ ∃ text', parse text' = .ok { c with bus.channelCapacity := 0 } := by
  intro text c
  have accepted : parse text = .ok c := by decide +kernel
  obtain ⟨hinterval, -, hroom, hrooms, -⟩ := accepted_numbers accepted {}
  refine ⟨accepted, hroom.2 (by decide), hinterval, fun h => ?_⟩
  exact absurd ((hrooms 0).1 h).1 (by decide)

/-- **A room that is too large is accepted.**  No inbox can be made with it. -/
theorem accepted_numbers_excessive :
    ∃ c, parse "[device]\nid = \"horn\"\n[bus]\nchannel_capacity = 2305843009213693952\n" = .ok c ∧
      c.bus.channelCapacity.toNat = Bus.roomLimit + 1 ∧
      ¬ Bus.IsRoom c.bus.channelCapacity.toNat :=
  ⟨{ device := ⟨"horn"⟩, bus := { channelCapacity := 2305843009213693952 } },
    by decide +kernel, by decide, fun h => absurd h.2 (by decide)⟩

end Config

end SignalActuator
