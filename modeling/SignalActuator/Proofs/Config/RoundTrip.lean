/-
  Configurations read back — the document that a configuration is written to
  gives the configuration again.

  * `toEntries`: the values that a configuration writes, beside the texts of
    `toSections`; `toSections_denotes`: the texts denote the values;
  * `ofEntries_toEntries`: reading the values gives the configuration, with
    every optional field that is there and every default that is overwritten;
  * `parse_render`: a configuration that was read out of some text is read out
    of the text that it is rendered as.
-/
import SignalActuator.Config.Rendering
import SignalActuator.Proofs.Config.Numbers
import SignalActuator.Proofs.Toml.Documents

namespace SignalActuator.Config

open Toml (Value Mismatch Shape quoted IsBareKey SettingDenotes SectionDenotes Denotes)

/-! ## Values -/

def textValue (key value : String) : Toml.Entries :=
  [(key, .string value)]

def optionalValue (key : String) (value : Option String) : Toml.Entries :=
  (value.map fun v => (key, Value.string v)).toList

def natValue (key : String) (n : Nat) : Toml.Entries :=
  [(key, .integer n)]

def commandValue (key : String) (command : Option (List String)) : Toml.Entries :=
  (command.map fun vs => (key, Value.array false (vs.map .string))).toList

def deviceEntries (d : Device) : Toml.Entries :=
  textValue "id" d.id

def busEntries (b : BusSettings) : Toml.Entries :=
  textValue "mode" (nameOf modes b.mode) ++ textValue "locator" b.locator ++
    textValue "key_expr" b.keyExpr ++
    natValue "connect_timeout_secs" b.connectTimeoutSecs.toNat ++
    natValue "channel_capacity" b.channelCapacity.toNat ++
    optionalValue "username_env" b.usernameVariable ++
    optionalValue "password_env" b.passwordVariable

def linkEntries (l : LinkSettings) : Toml.Entries :=
  optionalValue "interface" l.interface ++ optionalValue "ssid_env" l.ssidVariable ++
    optionalValue "password_env" l.passwordVariable ++
    natValue "max_retries" l.maxRetries.toNat ++
    natValue "poll_interval_ms" l.pollIntervalMs.toNat ++
    commandValue "associate_command" l.associateCommand

def outputEntries (o : OutputSettings) : Toml.Entries :=
  textValue "backend" (nameOf backends o.backend) ++ natValue "pin" o.pin.toNat ++
    textValue "sysfs_root" o.sysfsRoot

/-- The values of a configuration, section by section. -/
def toEntries (c : Config) : List (String × Toml.Entries) :=
  [("device", deviceEntries c.device), ("bus", busEntries c.bus), ("link", linkEntries c.link),
   ("output", outputEntries c.output)]

/-! ## The texts denote the values -/

section

variable {key : String} (hk : IsBareKey key)

include hk

theorem textEntry_denotes (v : String) :
    List.Forall₂ SettingDenotes (textEntry key v) (textValue key v) :=
  .cons ⟨rfl, hk, Toml.denotes_quoted _ v⟩ .nil

theorem optionalEntry_denotes (v : Option String) :
    List.Forall₂ SettingDenotes (optionalEntry key v) (optionalValue key v) := by
  cases v with
  | none => exact .nil
  | some v => exact textEntry_denotes hk v

theorem natEntry_denotes {n : Nat} (hn : n < Toml.integerLimit) :
    List.Forall₂ SettingDenotes (natEntry key n) (natValue key n) :=
  .cons ⟨rfl, hk, Toml.denotes_toString _ hn⟩ .nil

theorem commandEntry_denotes (command : Option (List String)) :
    List.Forall₂ SettingDenotes
      (command.map fun vs => (key, Toml.list (vs.map quoted))).toList
      (commandValue key command) := by
  cases command with
  | none => exact .nil
  | some vs =>
    refine .cons ⟨rfl, hk, Toml.denotes_list ?_⟩ .nil
    rw [List.forall₂_map_left_iff, List.forall₂_map_right_iff, List.forall₂_same]
    exact fun v _ => Toml.denotes_quoted _ v

end

theorem append_denotes {l₁ l₂ : List (String × String)} {es₁ es₂ : Toml.Entries}
    (h₁ : List.Forall₂ SettingDenotes l₁ es₁) (h₂ : List.Forall₂ SettingDenotes l₂ es₂) :
    List.Forall₂ SettingDenotes (l₁ ++ l₂) (es₁ ++ es₂) :=
  List.rel_append h₁ h₂

theorem toSections_denotes {c : Config} (hw : c.Writable) :
    List.Forall₂ SectionDenotes c.toSections c.toEntries := by
  have h32 (n : UInt32) : n.toNat < Toml.integerLimit := Nat.lt_trans n.toNat_lt (by decide)
  obtain ⟨⟨htimeout, hcapacity⟩, hpoll⟩ := hw
  refine .cons ⟨rfl, show IsBareKey "device" by decide, ?_⟩
    (.cons ⟨rfl, show IsBareKey "bus" by decide, ?_⟩
    (.cons ⟨rfl, show IsBareKey "link" by decide, ?_⟩
    (.cons ⟨rfl, show IsBareKey "output" by decide, ?_⟩ .nil)))
  · exact textEntry_denotes (by decide) _
  · refine append_denotes (append_denotes (append_denotes (append_denotes (append_denotes
      (append_denotes ?_ ?_) ?_) ?_) ?_) ?_) ?_
    · exact textEntry_denotes (by decide) _
    · exact textEntry_denotes (by decide) _
    · exact textEntry_denotes (by decide) _
    · exact natEntry_denotes (by decide) htimeout
    · exact natEntry_denotes (by decide) hcapacity
    · exact optionalEntry_denotes (by decide) _
    · exact optionalEntry_denotes (by decide) _
  · refine append_denotes (append_denotes (append_denotes (append_denotes (append_denotes
      ?_ ?_) ?_) ?_) ?_) ?_
    · exact optionalEntry_denotes (by decide) _
    · exact optionalEntry_denotes (by decide) _
    · exact optionalEntry_denotes (by decide) _
    · exact natEntry_denotes (by decide) (h32 _)
    · exact natEntry_denotes (by decide) hpoll
    · exact commandEntry_denotes (by decide) _
  · refine append_denotes (append_denotes ?_ ?_) ?_
    · exact textEntry_denotes (by decide) _
    · exact natEntry_denotes (by decide) (h32 _)
    · exact textEntry_denotes (by decide) _

/-! ## Reading the values -/

section

variable {ρ α : Type} {s : Shape ρ} {key : String} {r : ρ}

theorem readEntries_append {es₁ es₂ : Toml.Entries} {r₁ r₂ : ρ}
    (h₁ : es₁.foldlM s.readEntry r = .ok r₁) (h₂ : es₂.foldlM s.readEntry r₁ = .ok r₂) :
    (es₁ ++ es₂).foldlM s.readEntry r = .ok r₂ := by
  rw [List.foldlM_append, h₁]
  exact h₂

theorem readEntries_one {read : Value → Except Mismatch α} {set : α → ρ → ρ} {hasDefault : Bool}
    (hf : s.fields.find? (fun f => f.key == key) =
      some ⟨key, fun v r => (read v).map fun a => set a r, hasDefault⟩)
    {v : Value} {a : α} (h : read v = .ok a) :
    ([(key, v)] : Toml.Entries).foldlM s.readEntry r = .ok (set a r) := by
  rw [List.foldlM_cons, Shape.readEntry, hf]
  simp only [h]
  rfl

theorem readEntries_text {set : String → ρ → ρ} {hasDefault : Bool} {expected : String}
    (hf : s.fields.find? (fun f => f.key == key) = some (textField key set hasDefault expected))
    (v : String) : (textValue key v).foldlM s.readEntry r = .ok (set v r) :=
  readEntries_one hf rfl

theorem readEntries_optional {set : String → ρ → ρ} {hasDefault : Bool} {expected : String}
    (hf : s.fields.find? (fun f => f.key == key) = some (textField key set hasDefault expected))
    (v : Option String) :
    (optionalValue key v).foldlM s.readEntry r = .ok (v.elim r (set · r)) := by
  cases v with
  | none => rfl
  | some v => exact readEntries_text hf v

theorem asNat_ofNat {bits n : Nat} (hn : n < Nat.pow 2 bits) (expected : String) :
    (Value.integer n).asNat bits expected = .ok n := by
  rw [Value.asNat, if_pos ⟨Int.natCast_nonneg n, Int.ofNat_lt.2 hn⟩]
  rfl

theorem readEntries_nat64 {set : UInt64 → ρ → ρ} {expected : String}
    (hf : s.fields.find? (fun f => f.key == key) = some (natField64 key set expected))
    (n : UInt64) : (natValue key n.toNat).foldlM s.readEntry r = .ok (set n r) := by
  refine (readEntries_one hf (asNat_ofNat n.toNat_lt expected)).trans ?_
  rw [UInt64.ofNat_toNat]

theorem readEntries_nat32 {set : UInt32 → ρ → ρ}
    (hf : s.fields.find? (fun f => f.key == key) = some (natField32 key set))
    (n : UInt32) : (natValue key n.toNat).foldlM s.readEntry r = .ok (set n r) := by
  refine (readEntries_one hf (asNat_ofNat n.toNat_lt "u32")).trans ?_
  rw [UInt32.ofNat_toNat]

theorem readEntries_variant [DecidableEq α] {known : List (String × α)} {set : α → ρ → ρ}
    (hf : s.fields.find? (fun f => f.key == key) = some (variantField key known set)) {a : α}
    (ha : (Value.string (nameOf known a)).asVariant known = .ok a) :
    (textValue key (nameOf known a)).foldlM s.readEntry r = .ok (set a r) :=
  readEntries_one hf ha

theorem asStrings_map (growing : Bool) (vs : List String) :
    (Value.array growing (vs.map .string)).asStrings = .ok vs := by
  rw [Value.asStrings, List.mapM_map]
  induction vs with
  | nil => rfl
  | cons v vs ih =>
    rw [List.mapM_cons, ih]
    rfl

theorem readEntries_command {set : List String → ρ → ρ} {hasDefault : Bool}
    (hf : s.fields.find? (fun f => f.key == key) =
      some ⟨key, fun v r => v.asStrings.map fun c => set c r, hasDefault⟩)
    (command : Option (List String)) :
    (commandValue key command).foldlM s.readEntry r = .ok (command.elim r (set · r)) := by
  cases command with
  | none => rfl
  | some command => exact readEntries_one hf (asStrings_map false command)

end

theorem readDevice_entries (d : Device) :
    readDevice (.table .headed (deviceEntries d)) = .ok d := by
  rw [readDevice, Shape.read, deviceEntries, readEntries_text rfl]
  rfl

theorem read_busEntries (b : BusSettings) :
    busShape.read (.table .headed (busEntries b)) = .ok b := by
  have hmode : (Value.string (nameOf modes b.mode)).asVariant modes = .ok b.mode := by
    cases b.mode <;> rfl
  rw [Shape.read, busEntries]
  simp only [List.append_assoc]
  refine readEntries_append (readEntries_variant rfl hmode) ?_
  refine readEntries_append (readEntries_text rfl _) ?_
  refine readEntries_append (readEntries_text rfl _) ?_
  refine readEntries_append (readEntries_nat64 rfl _) ?_
  refine readEntries_append (readEntries_nat64 rfl _) ?_
  refine readEntries_append (readEntries_optional rfl _) ?_
  refine (readEntries_optional rfl _).trans ?_
  obtain ⟨_, _, _, _, _, username, password⟩ := b
  cases username <;> cases password <;> rfl

theorem read_linkEntries (l : LinkSettings) :
    linkShape.read (.table .headed (linkEntries l)) = .ok l := by
  rw [Shape.read, linkEntries]
  simp only [List.append_assoc]
  refine readEntries_append (readEntries_optional rfl _) ?_
  refine readEntries_append (readEntries_optional rfl _) ?_
  refine readEntries_append (readEntries_optional rfl _) ?_
  refine readEntries_append (readEntries_nat32 rfl _) ?_
  refine readEntries_append (readEntries_nat64 rfl _) ?_
  refine (readEntries_command rfl _).trans ?_
  obtain ⟨interface, ssid, password, _, _, command⟩ := l
  cases interface <;> cases ssid <;> cases password <;> cases command <;> rfl

theorem read_outputEntries (o : OutputSettings) :
    outputShape.read (.table .headed (outputEntries o)) = .ok o := by
  have hbackend :
      (Value.string (nameOf backends o.backend)).asVariant backends = .ok o.backend := by
    cases o.backend <;> rfl
  rw [Shape.read, outputEntries]
  simp only [List.append_assoc]
  refine readEntries_append (readEntries_variant rfl hbackend) ?_
  refine readEntries_append (readEntries_nat32 rfl _) ?_
  refine (readEntries_text rfl _).trans ?_
  rfl

/-- Reading the values of a configuration gives the configuration. -/
theorem ofEntries_toEntries (c : Config) : ofEntries (c.toEntries.map Toml.headed) = .ok c := by
  have hread : (c.toEntries.map Toml.headed).foldlM documentShape.readEntry documentShape.initial =
      .ok ⟨some c.device, c.bus, c.link, c.output⟩ := by
    rw [show c.toEntries.map Toml.headed = [_] ++ ([_] ++ ([_] ++ [_])) from rfl]
    refine readEntries_append (readEntries_one rfl (readDevice_entries c.device)) ?_
    refine readEntries_append (readEntries_one rfl (read_busEntries c.bus)) ?_
    refine readEntries_append (readEntries_one rfl (read_linkEntries c.link)) ?_
    refine (readEntries_one rfl (read_outputEntries c.output)).trans ?_
    rfl
  rw [ofEntries, hread]
  rfl

/-! ## The document -/

theorem nodup_keys (c : Config) : ∀ e ∈ c.toEntries, (e.2.map (·.1)).Nodup := by
  obtain ⟨device, bus, link, output⟩ := c
  obtain ⟨_, _, _, _, _, username, password⟩ := bus
  obtain ⟨interface, ssid, password', _, _, command⟩ := link
  simp only [toEntries, List.forall_mem_cons]
  refine ⟨by simp [deviceEntries, textValue], ?_, ?_, ?_, List.forall_mem_nil _⟩
  · cases username <;> cases password <;>
      simp [busEntries, textValue, natValue, optionalValue]
  · cases interface <;> cases ssid <;> cases password' <;> cases command <;>
      simp [linkEntries, natValue, optionalValue, commandValue]
  · simp [outputEntries, textValue, natValue]

theorem parse?_render {c : Config} (hw : c.Writable) :
    Toml.parse? c.render = some (c.toEntries.map Toml.headed) :=
  Toml.parse?_sections (toSections_denotes hw) (by simp [toEntries]) (nodup_keys c)

/-- A checked configuration whose numbers a document can hold is read back. -/
theorem parse_render_of_writable {c : Config} (hw : c.Writable) (hv : c.validate = .ok ()) :
    parse c.render = .ok c := by
  rw [parse, parse?_render hw]
  simp only [ofEntries_toEntries, Except.mapError]
  dsimp only [bind, Except.bind]
  rw [hv]
  rfl

/-- A configuration that was read has been checked, and a document can hold its
    numbers. -/
theorem writable_of_parse {text : String} {c : Config} (h : parse text = .ok c) :
    c.Writable ∧ c.validate = .ok () := by
  unfold parse at h
  split at h
  · cases h
  · rename_i es hes
    obtain ⟨c', hc, h⟩ := ok_of_bind h
    obtain ⟨_, hv, h⟩ := ok_of_bind h
    cases h
    exact ⟨ofEntries_writable (Toml.parse?_fits hes) (ok_of_mapError hc), hv⟩

/-- **A configuration that was read out of some text is read out of the text that
    it is rendered as**, the same in every field. -/
theorem parse_render {text : String} {c : Config} (h : parse text = .ok c) :
    parse c.render = .ok c :=
  have hc := writable_of_parse h
  parse_render_of_writable hc.1 hc.2

/-- A document with strings in all forms: with quotes, a backslash, a line break, a
    control character and letters beyond ASCII in them. -/
def manyQuotes : String :=
  "[device]\nid = 'lamp-1'\n[bus]\nmode = 'peer'\nkey_expr = 'a\"b\\c'\n" ++
  "connect_timeout_secs = 9223372036854775807\n" ++
  "[link]\ninterface = \"it's \\u0007 \\\"up\\\"\"\nssid_env = '''two\nlines'''\n" ++
  "associate_command = ['Größe', \"\"\"\"\"q\"\"\"\"\"]\n"

/-- What `manyQuotes` says. -/
def manyQuoted : Config where
  device := ⟨"lamp-1"⟩
  bus :=
    { mode := .peer
      keyExpr := "a\"b\\c"
      connectTimeoutSecs := 9223372036854775807 }
  link :=
    { interface := some "it's \x07 \"up\""
      ssidVariable := some "two\nlines"
      associateCommand := some ["Größe", "\"\"q\"\""] }

theorem parse_render_manyQuotes :
    parse manyQuotes = .ok manyQuoted ∧ parse manyQuoted.render = .ok manyQuoted := by
  have h : parse manyQuotes = .ok manyQuoted := by decide +kernel
  exact ⟨h, parse_render h⟩

end SignalActuator.Config
