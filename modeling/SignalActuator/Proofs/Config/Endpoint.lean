/-
  The endpoint of a configuration — where an accepted one connects to, which interface it
  watches, and the one way in which either can still fail.

  Checking a configuration looks at the shape of its locator only, so that a port beyond 16
  bits passes and is refused later, by whatever reads the locator.

  * `Overflows`: the failure that is left; `Reaches` and `Watches`: the endpoint and the
    interface of a configuration, case by case;
  * `located`: what reading the locator of an accepted configuration comes to;
  * `accepted_endpoint`: exactly when each reader of the locator fails, with what, and what
    it gives otherwise.
-/
import SignalActuator.Proofs.Config.Limits
import SignalActuator.Proofs.Locator

namespace SignalActuator

/-! ## Results -/

section

variable {ε δ α β : Type} {x : Except ε α} {e : ε} {b : β}

theorem map_eq_error_iff {g : α → β} : x.map g = .error e ↔ x = .error e := by
  cases x with
  | error e' =>
    constructor <;> intro h
    all_goals cases h; rfl
  | ok a => exact ⟨nofun, nofun⟩

theorem map_eq_ok_iff {g : α → β} : x.map g = .ok b ↔ ∃ a, x = .ok a ∧ b = g a := by
  constructor
  · intro h
    obtain ⟨a, ha, rfl⟩ := ok_of_map h
    exact ⟨a, ha, rfl⟩
  · rintro ⟨a, rfl, rfl⟩
    rfl

theorem mapError_eq_error_iff {f : ε → δ} {d : δ} :
    x.mapError f = .error d ↔ ∃ e, d = f e ∧ x = .error e := by
  cases x with
  | error e =>
    constructor
    · intro h
      cases h
      exact ⟨e, rfl, rfl⟩
    · rintro ⟨e', rfl, h⟩
      cases h
      rfl
  | ok a => exact ⟨nofun, fun ⟨_, _, h⟩ => nomatch h⟩

theorem mapError_eq_ok_iff {f : ε → δ} {a : α} : x.mapError f = .ok a ↔ x = .ok a := by
  refine ⟨ok_of_mapError, ?_⟩
  rintro rfl
  rfl

end

namespace Config

open Locator (Segments)

variable {c : Config} {e : Error}

/-! ## Cases of a configuration -/

/-- The port of the locator denotes no number of 16 bits, and this is the failure that
    says so. -/
inductive Overflows (c : Config) : Error → Prop where
  | port (g : Segments) (text : c.bus.locator = g.text) (exceeds : 65535 < g.number) :
    Overflows c (.invalidLocator (.invalidPort (String.ofList g.port)))

inductive Reaches (c : Config) : String → ℕ → Prop where
  | default (text : c.bus.locator = "") : Reaches c "127.0.0.1" 1883
  | named (g : Segments) (text : c.bus.locator = g.text) (fits : g.number ≤ 65535) :
    Reaches c (String.ofList g.host) g.number

inductive Watches (c : Config) : String → Prop where
  | set {i : String} (interface : c.link.interface = some i) : Watches c i
  | named (g : Segments) (interface : c.link.interface = none)
    (text : c.bus.locator = g.text) (fits : g.number ≤ 65535) : Watches c (String.ofList g.name)
  | default (interface : c.link.interface = none) (text : c.bus.locator = "") :
    Watches c "wlan0"

/-- The variable that is named for the username is set, to a text. -/
def UsernameResolves (c : Config) (env : Host.Environment) : Prop :=
  ∃ name user, c.bus.usernameVariable = some name ∧ env.text? name = some user

/-! ## Reading the locator -/

theorem locator_text {g : Segments} (text : c.bus.locator = g.text) :
    c.locator = if g.number ≤ 65535 then
      .ok (some ⟨g.text, String.ofList g.host, .ofNat g.number, String.ofList g.name⟩)
    else .error (.invalidLocator (.invalidPort (String.ofList g.port))) := by
  rw [locator, text, Locator.parse_text]
  split <;> rfl

theorem locator_empty (text : c.bus.locator = "") : c.locator = .ok none := by
  rw [locator, text]
  rfl

/-- What reading the text of a locator comes to, if it passes the check. -/
inductive Located (text : String) : Except Error (Option Locator) → Prop where
  | default (empty : text = "") : Located text (.ok none)
  | named (g : Segments) (reads : text = g.text) (fits : g.number ≤ 65535) :
    Located text (.ok (some
      ⟨g.text, String.ofList g.host, .ofNat g.number, String.ofList g.name⟩))
  | excess (g : Segments) (reads : text = g.text) (exceeds : 65535 < g.number) :
    Located text (.error (.invalidLocator (.invalidPort (String.ofList g.port))))

/-- **The locator of an accepted configuration.** -/
theorem located (accepted : c.validate = .ok ()) : Located c.bus.locator c.locator := by
  have hchecked := (validate_eq_ok_iff.1 accepted).2.1
  rcases (Locator.locators c.bus.locator).1.1 hchecked with hempty | ⟨g, hg⟩
  · rw [locator_empty hempty]
    exact .default hempty
  · rw [locator_text hg]
    split
    · exact .named g hg ‹_›
    · exact .excess g hg (Nat.lt_of_not_le ‹_›)

theorem locator_eq_error_iff (accepted : c.validate = .ok ()) :
    c.locator = .error e ↔ Overflows c e := by
  constructor
  · intro h
    have hcase := located accepted
    rw [h] at hcase
    obtain _ | _ | ⟨g, text, exceeds⟩ := hcase
    exact .port g text exceeds
  · rintro ⟨g, text, exceeds⟩
    rw [locator_text text, if_neg (Nat.not_le.2 exceeds)]

/-! ## The interface -/

theorem linkInterface_eq (unset : c.link.interface = none) :
    c.linkInterface = c.locator.map fun l => (l.map (·.iface)).getD defaultInterface := by
  rw [linkInterface, unset]
  cases c.locator <;> rfl

theorem linkInterface_eq_error_iff (accepted : c.validate = .ok ()) :
    c.linkInterface = .error e ↔ c.link.interface = none ∧ Overflows c e := by
  cases hi : c.link.interface with
  | some i =>
    rw [linkInterface, hi]
    exact ⟨nofun, nofun⟩
  | none =>
    rw [linkInterface_eq hi, map_eq_error_iff, locator_eq_error_iff accepted]
    exact (and_iff_right rfl).symm

theorem linkInterface_eq_ok_iff (accepted : c.validate = .ok ()) {i : String} :
    c.linkInterface = .ok i ↔ Watches c i := by
  constructor
  · intro h
    cases hi : c.link.interface with
    | some j =>
      rw [linkInterface, hi] at h
      cases h
      exact .set hi
    | none =>
      rw [linkInterface_eq hi] at h
      have hcase := located accepted
      obtain ⟨l, hl, rfl⟩ := map_eq_ok_iff.1 h
      rw [hl] at hcase
      rcases hcase with hempty | ⟨g, text, fits⟩ | _
      · exact .default hi hempty
      · exact .named g hi text fits
  · rintro (hset | ⟨g, hunset, text, fits⟩ | ⟨hunset, text⟩)
    · rw [linkInterface, hset]
    · rw [linkInterface_eq hunset, locator_text text, if_pos fits]
      rfl
    · rw [linkInterface_eq hunset, locator_empty text]
      rfl

/-- The driver watches the interface, and fails when that does. -/
theorem watchOf_eq {σ : Type} (host : σ) :
    Provider.watchOf c host = (c.linkInterface.mapError .config).map fun interface =>
      { interface, template := c.link.associateCommand, host } := by
  rw [Provider.watchOf]
  cases c.linkInterface <;> rfl

/-! ## The session -/

theorem session_eq (env : Host.Environment) :
    c.session env = c.locator.map fun l =>
      { clientId := c.device.id
        mode := c.bus.mode
        locator := l
        username := c.busUsername env
        password := c.busPassword env
        connectTimeout := .ofSeconds c.bus.connectTimeoutSecs.toNat
        channelCapacity := c.bus.channelCapacity } := by
  rw [session]
  cases c.locator <;> rfl

/-- The check of the locator before a session is opened passes, so that only what is read
    out of the configuration can fail. -/
theorem sessionOptions_eq (accepted : c.validate = .ok ()) (env : Host.Environment) :
    Provider.sessionOptions c env = (c.session env).mapError .config := by
  rw [Provider.sessionOptions, (validate_eq_ok_iff.1 accepted).2.1]
  rfl

theorem reaches_of_locator (accepted : c.validate = .ok ()) {o : Bus.SessionOptions}
    (h : c.locator = .ok o.locator) : Reaches c o.endpoint.1 o.endpoint.2.toNat := by
  have hcase := located accepted
  rw [h] at hcase
  rw [Bus.SessionOptions.endpoint]
  generalize o.locator = l at hcase
  rcases hcase with hempty | ⟨g, text, fits⟩ | _
  · exact .default hempty
  · have hport : (UInt16.ofNat g.number).toNat = g.number :=
      UInt16.toNat_ofNat_of_lt (Nat.lt_succ_of_le fits)
    have hreaches := Reaches.named g text fits
    rw [← hport] at hreaches
    exact hreaches

theorem isSome_busUsername_iff {env : Host.Environment} :
    (c.busUsername env).isSome = true ↔ UsernameResolves c env := by
  rw [Option.isSome_iff_exists, UsernameResolves, exists_comm]
  exact exists_congr fun user => Option.bind_eq_some_iff

/-- **The endpoint of an accepted configuration.**  Reading its locator, and with it what a
    session is opened with, fails exactly if the port denotes more than 65535, and always
    with the digits of the port.  Its interface, and with it the driver that watches it,
    fails exactly if no interface is set besides, and is otherwise the one that is set, else
    that of the locator, else `wlan0`.  The check of the locator before a session is opened
    passes.  What a session is opened with makes a connection, with the name of the device,
    to the host and the port of the locator or else to the default endpoint, that forgets
    earlier subscriptions and has credentials exactly if the variable of the username
    resolves. -/
theorem accepted_endpoint (accepted : c.validate = .ok ()) (env : Host.Environment) {σ : Type}
    (host : σ) :
    (∀ e, c.locator = .error e ↔ Overflows c e) ∧
    (∀ e, c.session env = .error e ↔ Overflows c e) ∧
    (∀ e, c.linkInterface = .error e ↔ c.link.interface = none ∧ Overflows c e) ∧
    (∀ f, Provider.watchOf c host = .error f ↔
      ∃ e, f = .config e ∧ c.link.interface = none ∧ Overflows c e) ∧
    (∀ i, c.linkInterface = .ok i ↔ Watches c i) ∧
    (∀ w, Provider.watchOf c host = .ok w ↔
      ∃ i, Watches c i ∧ w = { interface := i, template := c.link.associateCommand, host }) ∧
    Locator.validate c.bus.locator = .ok () ∧
    (∀ f, Provider.sessionOptions c env = .error f ↔ ∃ e, f = .config e ∧ Overflows c e) ∧
    ∀ o, c.session env = .ok o → ∃ connection, o.connect = .ok connection ∧
      connection.clientId = c.device.id ∧
      Reaches c connection.host connection.port.toNat ∧
      connection.cleanStart = true ∧
      (connection.credentials.isSome = true ↔ UsernameResolves c env) := by
  have hsession {e : Error} : c.session env = .error e ↔ Overflows c e := by
    rw [session_eq, map_eq_error_iff, locator_eq_error_iff accepted]
  refine ⟨fun e => locator_eq_error_iff accepted, fun e => hsession,
    fun e => linkInterface_eq_error_iff accepted, fun f => ?_,
    fun i => linkInterface_eq_ok_iff accepted, fun w => ?_,
    (validate_eq_ok_iff.1 accepted).2.1, fun f => ?_, fun o h => ?_⟩
  · rw [watchOf_eq, map_eq_error_iff, mapError_eq_error_iff]
    exact exists_congr fun e => and_congr_right' (linkInterface_eq_error_iff accepted)
  · rw [watchOf_eq, map_eq_ok_iff]
    refine exists_congr fun i => and_congr_left' ?_
    rw [mapError_eq_ok_iff, linkInterface_eq_ok_iff accepted]
  · rw [sessionOptions_eq accepted, mapError_eq_error_iff]
    exact exists_congr fun e => and_congr_right' hsession
  · rw [session_eq] at h
    obtain ⟨l, hl, rfl⟩ := map_eq_ok_iff.1 h
    refine ⟨_, if_neg (validate_eq_ok_iff.1 accepted).1.1, rfl, reaches_of_locator accepted hl,
      rfl, ?_⟩
    rw [Option.isSome_map, isSome_busUsername_iff]

/-- A locator whose port has leading zeros and is one too large.  With an interface that is
    set the link can be watched, though no session can be opened; without one neither can. -/
theorem accepted_endpoint_overflow :
    let c : Config :=
      { device := ⟨"horn"⟩
        bus := { locator := "tcp/999.0.0.2:0065536#iface=eth-1" }
        link := { interface := some "wlan1" } }
    let c' : Config := { c with link.interface := none }
    c.validate = .ok () ∧ c'.validate = .ok () ∧
      c.session {} = .error (.invalidLocator (.invalidPort "0065536")) ∧
      c.linkInterface = .ok "wlan1" ∧
      c'.linkInterface = .error (.invalidLocator (.invalidPort "0065536")) := by
  intro c c'
  have accepted : c.validate = .ok () := by decide +kernel
  have accepted' : c'.validate = .ok () := by decide +kernel
  let g : Segments :=
    { first := ['9', '9', '9']
      second := ['0']
      third := ['0']
      fourth := ['2']
      port := ['0', '0', '6', '5', '5', '3', '6']
      name := ['e', 't', 'h', '-', '1']
      octets := ⟨⟨by simp, by simp, by simp⟩, ⟨by simp, by simp, by simp⟩,
        ⟨by simp, by simp, by simp⟩, ⟨by simp, by simp, by simp⟩⟩
      port_ne_nil := by simp
      port_digits := by simp
      name_ne_nil := by simp
      name_chars := by simp }
  have text : c.bus.locator = g.text := by decide +kernel
  have exceeds : 65535 < g.number := by decide +kernel
  obtain ⟨-, hsession, -, -, hinterface, -⟩ := accepted_endpoint accepted {} ()
  obtain ⟨-, -, hinterface', -⟩ := accepted_endpoint accepted' {} ()
  exact ⟨accepted, accepted', (hsession _).2 (.port g text exceeds), (hinterface _).2 (.set rfl),
    (hinterface' _).2 ⟨rfl, .port g text exceeds⟩⟩

end Config

end SignalActuator
