import CloudProvider.Settings.Validation
import Mathlib.Data.List.DropRight
import Mathlib.Tactic.Push

/-!
# Sound properties

The properties of a backend are *sound* when nothing is missing, doubled or out of range,
said in terms of which texts are set rather than of the order of the checks. The checks
accept the sound properties and no others, and the settings they lead to say what the
properties said.

* `ConnectionProperties.IsSet`: a text that is not blank;
* `ConnectionProperties.Sound`: what is asked of properties;
* `ConnectionProperties.Carries`: settings that say what the properties say;
* `validate_eq_ok_iff`: what each check accepts, put together;
* `validate_accepts`: the sound properties are accepted and carried over.
-/

namespace CloudProvider

/-! ## Addresses -/

namespace Text

theorem dropTrailing_eq_rdropWhile (sep : Char) (s : List Char) :
    dropTrailing sep s = s.rdropWhile fun c => c = sep := rfl

theorem dropTrailing_append_replicate {sep : Char} {s : List Char}
    (h : ∀ hs : s ≠ [], s.getLast hs ≠ sep) (n : Nat) :
    dropTrailing sep (s ++ List.replicate n sep) = s := by
  rw [dropTrailing_eq_rdropWhile]
  induction n with
  | zero =>
    rw [List.replicate_zero, List.append_nil]
    exact List.rdropWhile_eq_self_iff.2 fun hs hsep => h hs (of_decide_eq_true hsep)
  | succ n ih =>
    rw [List.replicate_succ', ← List.append_assoc, List.rdropWhile_concat_pos _ _ _ (by simp)]
    exact ih

theorem exists_eq_dropTrailing_append (sep : Char) (s : List Char) :
    ∃ n, s = dropTrailing sep s ++ List.replicate n sep := by
  let dropped := s.rtakeWhile fun c => c = sep
  have hdropped : dropped = List.replicate dropped.length sep :=
    List.eq_replicate_of_mem fun c hc => by simpa using List.mem_rtakeWhile_imp hc
  refine ⟨dropped.length, ?_⟩
  rw [← hdropped, dropTrailing_eq_rdropWhile, List.rdropWhile_append_rtakeWhile]

end Text

namespace ConfigDrive

theorem ofText_eq_ok_iff {s : String} {d : ConfigDrive} : ofText s = .ok d ↔ s = d.text := by
  constructor
  · intro h
    by_cases hdisk : s = "disk"
    · subst hdisk
      cases h
      rfl
    · by_cases hcdrom : s = "cdrom"
      · subst hcdrom
        cases h
        rfl
      · simp [ofText, named, List.lookup_cons, beq_eq_false_iff_ne.2 hdisk,
          beq_eq_false_iff_ne.2 hcdrom] at h
  · rintro rfl
    cases d <;> rfl

end ConfigDrive

namespace ConnectionProperties

/-- A text that is present and has a character that is not blank. -/
def IsSet (s : Option String) : Prop := ∃ text, s = some text ∧ ∃ c ∈ text.toList, ! Text.isBlank c

/-- An address that ends in `/v3`, slashes at its end aside. -/
def EndsInVersion3 (authUrl : String) : Prop :=
  ∃ start n, authUrl.toList = start ++ "/v3".toList ++ List.replicate n '/'

/-- User name and key are there. -/
def ByPassword (p : ConnectionProperties) : Prop := IsSet p.username ∧ IsSet p.apiKey

/-- Id and secret of application credentials are there. -/
def ByApplication (p : ConnectionProperties) : Prop :=
  IsSet p.applicationCredentialId ∧ IsSet p.applicationCredentialSecret

/-- What is asked of properties. -/
structure Sound (p : ConnectionProperties) : Prop where
  authUrl : IsSet p.authUrl
  password : IsSet p.username ↔ IsSet p.apiKey
  application : IsSet p.applicationCredentialId ↔ IsSet p.applicationCredentialSecret
  one_pair : Xor p.ByPassword p.ByApplication
  one_project : ¬ (IsSet p.tenant ∧ IsSet p.project)
  /-- The third version looks users up in a domain and scopes them to a project. -/
  version3 : ∀ authUrl, p.authUrl = some authUrl → EndsInVersion3 authUrl → p.ByPassword →
    IsSet p.domain ∧ (IsSet p.tenant ∨ IsSet p.project)
  stateTimeout : 0 < p.stateTimeout
  pollInterval : 0 < p.pollInterval
  configDrive : p.configDrive = none ∨ p.configDrive = some "disk" ∨ p.configDrive = some "cdrom"
  retryPolicies : ∀ name policy, p.retryPolicies.get? name = some policy → 1 ≤ policy.maxAttempts

/-- A text as it is taken over: the very text if it is set, and none otherwise. -/
def Keeps (s kept : Option String) : Prop := (IsSet s → kept = s) ∧ (¬ IsSet s → kept = none)

/-- Settings that say what properties say. -/
structure Carries (p : ConnectionProperties) (settings : Settings) : Prop where
  authUrl : p.authUrl = some settings.credentials.authUrl
  password : p.ByPassword → ∃ username apiKey, p.username = some username ∧
    p.apiKey = some apiKey ∧ settings.credentials.auth = .password username apiKey
  application : p.ByApplication → ∃ id secret, p.applicationCredentialId = some id ∧
    p.applicationCredentialSecret = some secret ∧
    settings.credentials.auth = .applicationCredential id secret
  tenant : IsSet p.tenant → settings.credentials.project = p.tenant
  project : ¬ IsSet p.tenant → Keeps p.project settings.credentials.project
  domain : Keeps p.domain settings.credentials.domain
  region : Keeps p.region settings.credentials.region
  stateTimeout : settings.stateTimeout = p.stateTimeout.toNat
  pollInterval : settings.pollInterval = p.pollInterval.toNat
  configDrive : settings.configDrive.map ConfigDrive.text = p.configDrive
  ignoreServerZone : settings.ignoreServerZone = p.ignoreServerZone
  defaultVolumeType : settings.defaultVolumeType = p.defaultVolumeType
  bootFromVolume : settings.bootFromVolume = p.bootFromVolume
  humanReadableVmNames : settings.humanReadableVmNames = p.humanReadableVmNames
  retryPolicies : settings.retryPolicies = p.retryPolicies

variable {p : ConnectionProperties} {settings : Settings} {s : Option String} {text : String}

theorem isVersion3_iff {authUrl : String} : isVersion3 authUrl = true ↔ EndsInVersion3 authUrl := by
  rw [isVersion3, List.isSuffixOf_iff_suffix]
  constructor
  · rintro ⟨start, hstart⟩
    obtain ⟨n, hn⟩ := Text.exists_eq_dropTrailing_append '/' authUrl.toList
    exact ⟨start, n, hstart ▸ hn⟩
  · rintro ⟨start, n, h⟩
    have hlast (hne : start ++ "/v3".toList ≠ []) : (start ++ "/v3".toList).getLast hne ≠ '/' := by
      rw [List.getLast_append_of_ne_nil _ (by decide)]
      decide
    rw [h, Text.dropTrailing_append_replicate hlast]
    exact List.suffix_append _ _

/-! ## Single checks -/

theorem filled?_of_isSet (h : IsSet s) : filled? s = s := by
  obtain ⟨text, rfl, c, hc, hblank⟩ := h
  have hfilled : (! Text.isBlankText text) = true := by
    rw [Bool.not_eq_true', ← Bool.not_eq_true, Text.isBlankText_iff]
    exact fun hall => by simp [hall c hc] at hblank
  simp [filled?, hfilled]

theorem isSet_of_filled? (h : filled? s = some text) : IsSet s := by
  obtain ⟨rfl, hfilled⟩ := Option.filter_eq_some_iff.1 h
  rw [Bool.not_eq_true', ← Bool.not_eq_true, Text.isBlankText_iff] at hfilled
  push Not at hfilled
  obtain ⟨c, hc, hblank⟩ := hfilled
  exact ⟨text, rfl, c, hc, by simpa using hblank⟩

theorem filled?_eq_some_iff : filled? s = some text ↔ s = some text ∧ IsSet s := by
  constructor
  · intro h
    have hset := isSet_of_filled? h
    exact ⟨(filled?_of_isSet hset).symm.trans h, hset⟩
  · rintro ⟨htext, hset⟩
    rw [filled?_of_isSet hset, htext]

theorem filled?_eq_none_iff : filled? s = none ↔ ¬ IsSet s := by
  constructor
  · rintro h ⟨text, htext, hset⟩
    rw [filled?_of_isSet ⟨text, htext, hset⟩, htext] at h
    cases h
  · intro h
    cases hfilled : filled? s with
    | none => rfl
    | some text => exact absurd (isSet_of_filled? hfilled) h

theorem bind_eq_ok_iff {ε α β : Type} {x : Except ε α} {f : α → Except ε β} {b : β} :
    x >>= f = .ok b ↔ ∃ a, x = .ok a ∧ f a = .ok b := by
  cases x with
  | error e => exact ⟨nofun, fun ⟨_, h, _⟩ => nomatch h⟩
  | ok a => exact ⟨fun h => ⟨a, rfl, h⟩, fun ⟨_, ha, h⟩ => Except.ok.inj ha ▸ h⟩

theorem refuseIf_eq_ok_iff {condition : Bool} {e : SettingsError} {u : Unit} :
    refuseIf condition e = .ok u ↔ condition = false := by
  cases condition with
  | true => exact ⟨nofun, nofun⟩
  | false => exact ⟨fun _ => rfl, fun _ => rfl⟩

theorem pair_eq_ok_iff {first second : Option String} {firstName secondName : String}
    {r : Option (String × String)} :
    pair first second firstName secondName = .ok r ↔
      (∃ a b, r = some (a, b) ∧ filled? first = some a ∧ filled? second = some b) ∨
        (r = none ∧ filled? first = none ∧ filled? second = none) := by
  unfold pair
  cases filled? first <;> cases filled? second <;> simp [eq_comm]

theorem auth_eq_ok_iff {m : AuthMethod} :
    p.auth = .ok m ↔
      (∃ username apiKey, m = .password username apiKey ∧ filled? p.username = some username ∧
        filled? p.apiKey = some apiKey ∧ filled? p.applicationCredentialId = none ∧
        filled? p.applicationCredentialSecret = none) ∨
      (∃ id secret, m = .applicationCredential id secret ∧ filled? p.username = none ∧
        filled? p.apiKey = none ∧ filled? p.applicationCredentialId = some id ∧
        filled? p.applicationCredentialSecret = some secret) := by
  simp only [auth, bind_eq_ok_iff, pair_eq_ok_iff]
  constructor
  · -- Both pairs are refused, and so is none; two of the four cases are left.
    rintro ⟨_, ⟨username, apiKey, rfl, hname, hkey⟩ | ⟨rfl, hname, hkey⟩, _,
      ⟨id, secret, rfl, hid, hsecret⟩ | ⟨rfl, hid, hsecret⟩, h⟩
    · cases h
    · exact .inl ⟨username, apiKey, (Except.ok.inj h).symm, hname, hkey, hid, hsecret⟩
    · exact .inr ⟨id, secret, (Except.ok.inj h).symm, hname, hkey, hid, hsecret⟩
    · cases h
  · rintro (⟨username, apiKey, rfl, hname, hkey, hid, hsecret⟩ |
      ⟨id, secret, rfl, hname, hkey, hid, hsecret⟩)
    · exact ⟨_, .inl ⟨_, _, rfl, hname, hkey⟩, _, .inr ⟨rfl, hid, hsecret⟩, rfl⟩
    · exact ⟨_, .inr ⟨rfl, hname, hkey⟩, _, .inl ⟨_, _, rfl, hid, hsecret⟩, rfl⟩

theorem projectName_eq_ok_iff {name : Option String} :
    p.projectName = .ok name ↔
      (filled? p.tenant = none ∧ name = filled? p.project) ∨
        (filled? p.project = none ∧ name = filled? p.tenant) := by
  unfold projectName
  cases filled? p.tenant <;> cases filled? p.project <;> simp [eq_comm]

/-- Refusals that are only looked at under a condition. -/
theorem refuse_eq_ok_iff {α : Type} {condition first second : Bool} {e e' : SettingsError}
    {a b : α} :
    (if condition then do refuseIf first e; refuseIf second e'; pure a else pure a) = .ok b ↔
      (condition = true → first = false ∧ second = false) ∧ a = b := by
  cases condition with
  | true =>
    simp only [if_true, bind_eq_ok_iff, refuseIf_eq_ok_iff, forall_const]
    constructor
    · rintro ⟨_, hfirst, _, hsecond, h⟩
      exact ⟨⟨hfirst, hsecond⟩, Except.ok.inj h⟩
    · rintro ⟨⟨hfirst, hsecond⟩, rfl⟩
      exact ⟨(), hfirst, (), hsecond, rfl⟩
  | false => exact ⟨fun h => ⟨nofun, Except.ok.inj h⟩, fun h => h.2 ▸ rfl⟩

theorem credentials_eq_ok_iff {c : Credentials} :
    p.credentials = .ok c ↔
      filled? p.authUrl = some c.authUrl ∧ p.auth = .ok c.auth ∧
        p.projectName = .ok c.project ∧
        (isVersion3 c.authUrl = true → (∃ username apiKey, c.auth = .password username apiKey) →
          (filled? p.domain).isSome ∧ c.project.isSome) ∧
        c.domain = filled? p.domain ∧ c.region = filled? p.region := by
  cases hurl : filled? p.authUrl with
  | none => simp [credentials, hurl, bind_eq_ok_iff]
  | some url =>
    simp only [credentials, hurl, bind_eq_ok_iff, refuse_eq_ok_iff]
    constructor
    · rintro ⟨_, hok, auth, hauth, project, hproject, hversion, rfl⟩
      cases hok
      refine ⟨rfl, hauth, hproject, ?_, rfl, rfl⟩
      rintro hv ⟨username, apiKey, rfl⟩
      obtain ⟨hdomain, hname⟩ := hversion (Bool.and_eq_true_iff.2 ⟨hv, rfl⟩)
      exact ⟨by simpa using hdomain, by simpa using hname⟩
    · rintro ⟨hurl, hauth, hproject, hversion, hdomain, hregion⟩
      cases hurl
      refine ⟨_, rfl, _, hauth, _, hproject, ?_, ?_⟩
      · intro hboth
        obtain ⟨hv, hpassword⟩ := Bool.and_eq_true_iff.1 hboth
        have hpair : ∃ username apiKey, c.auth = .password username apiKey := by
          cases hc : c.auth with
          | password username apiKey => exact ⟨username, apiKey, rfl⟩
          | none => simp [hc] at hpassword
          | applicationCredential id secret => simp [hc] at hpassword
        obtain ⟨hdomain, hname⟩ := hversion hv hpair
        exact ⟨by simpa using hdomain, by simpa using hname⟩
      · rw [← hdomain, ← hregion]

theorem map_eq_ok_iff {ε α β : Type} {f : α → β} {x : Except ε α} {b : β} :
    x.map f = .ok b ↔ ∃ a, x = .ok a ∧ f a = b := by
  cases x <;> simp [Except.map]

theorem drive_eq_ok_iff {d : Option ConfigDrive} :
    p.drive = .ok d ↔ p.configDrive = d.map ConfigDrive.text := by
  cases hp : p.configDrive with
  | none => cases d <;> simp [drive, hp]
  | some s =>
    simp only [drive, hp, map_eq_ok_iff, ConfigDrive.ofText_eq_ok_iff]
    cases d <;> simp

theorem idlePolicy?_eq_none_iff :
    p.idlePolicy? = none ↔
      ∀ name policy, p.retryPolicies.get? name = some policy → 1 ≤ policy.maxAttempts := by
  simp only [idlePolicy?, Option.map_eq_none_iff, List.find?_eq_none, Prod.forall,
    Table.mem_entries, decide_eq_true_eq]
  refine forall_congr' fun name => forall_congr' fun policy => imp_congr_right fun _ => ?_
  rw [← UInt32.toNat_inj, UInt32.le_iff_toNat_le]
  exact Nat.pos_iff_ne_zero.symm

/-- What each check accepts, put together. -/
theorem validate_eq_ok_iff :
    p.validate = .ok settings ↔
      p.credentials = .ok settings.credentials ∧ p.stateTimeout ≠ 0 ∧ p.pollInterval ≠ 0 ∧
        p.drive = .ok settings.configDrive ∧ p.idlePolicy? = none ∧
        settings = {
          credentials := settings.credentials
          stateTimeout := p.stateTimeout.toNat
          pollInterval := p.pollInterval.toNat
          configDrive := settings.configDrive
          ignoreServerZone := p.ignoreServerZone
          defaultVolumeType := p.defaultVolumeType
          bootFromVolume := p.bootFromVolume
          humanReadableVmNames := p.humanReadableVmNames
          retryPolicies := p.retryPolicies } := by
  simp only [validate, bind_eq_ok_iff, refuseIf_eq_ok_iff, decide_eq_false_iff_not]
  constructor
  · rintro ⟨credentials, hcredentials, _, htimeout, _, hinterval, drive, hdrive, h⟩
    cases hidle : p.idlePolicy? with
    | some name =>
      rw [hidle] at h
      cases h
    | none =>
      rw [hidle] at h
      cases h
      exact ⟨hcredentials, htimeout, hinterval, hdrive, rfl, rfl⟩
  · rintro ⟨hcredentials, htimeout, hinterval, hdrive, hidle, hsettings⟩
    refine ⟨_, hcredentials, (), htimeout, (), hinterval, _, hdrive, ?_⟩
    rw [hidle]
    exact congrArg Except.ok hsettings.symm

/-! ## All checks -/

theorem isSome_filled?_iff : (filled? s).isSome ↔ IsSet s := by
  rw [← Option.ne_none_iff_isSome, ne_eq, filled?_eq_none_iff, not_not]

theorem keeps_filled? (s : Option String) : Keeps s (filled? s) :=
  ⟨filled?_of_isSet, filled?_eq_none_iff.2⟩

theorem exists_auth_iff :
    (∃ m, p.auth = .ok m) ↔ (IsSet p.username ↔ IsSet p.apiKey) ∧
      (IsSet p.applicationCredentialId ↔ IsSet p.applicationCredentialSecret) ∧
        Xor p.ByPassword p.ByApplication := by
  -- It only matters which of the four texts are set.
  simp only [auth_eq_ok_iff, ByPassword, ByApplication, ← isSome_filled?_iff]
  cases filled? p.username <;> cases filled? p.apiKey <;>
    cases filled? p.applicationCredentialId <;> cases filled? p.applicationCredentialSecret <;>
    simp [Xor]

theorem exists_projectName_iff :
    (∃ name, p.projectName = .ok name) ↔ ¬ (IsSet p.tenant ∧ IsSet p.project) := by
  simp only [projectName_eq_ok_iff, ← isSome_filled?_iff]
  cases filled? p.tenant <;> cases filled? p.project <;> simp

theorem isSome_projectName (h : p.projectName = .ok s) :
    s.isSome ↔ IsSet p.tenant ∨ IsSet p.project := by
  simp only [← isSome_filled?_iff]
  obtain ⟨hnone, rfl⟩ | ⟨hnone, rfl⟩ := projectName_eq_ok_iff.1 h <;> simp [hnone]

theorem byPassword_iff {m : AuthMethod} (h : p.auth = .ok m) :
    p.ByPassword ↔ ∃ username apiKey, m = .password username apiKey := by
  simp only [ByPassword, ← isSome_filled?_iff]
  obtain ⟨username, apiKey, rfl, hname, hkey, -⟩ | ⟨id, secret, rfl, hname, hkey, -⟩ :=
    auth_eq_ok_iff.1 h <;> simp [hname, hkey]

theorem auth_of_byPassword {m : AuthMethod} (h : p.auth = .ok m) (hby : p.ByPassword) :
    ∃ username apiKey, p.username = some username ∧ p.apiKey = some apiKey ∧
      m = .password username apiKey := by
  obtain ⟨username, apiKey, rfl, hname, hkey, -⟩ | ⟨_, _, -, hname, -⟩ := auth_eq_ok_iff.1 h
  · exact ⟨username, apiKey, (filled?_eq_some_iff.1 hname).1, (filled?_eq_some_iff.1 hkey).1, rfl⟩
  · exact absurd hby.1 (filled?_eq_none_iff.1 hname)

theorem auth_of_byApplication {m : AuthMethod} (h : p.auth = .ok m) (hby : p.ByApplication) :
    ∃ id secret, p.applicationCredentialId = some id ∧
      p.applicationCredentialSecret = some secret ∧ m = .applicationCredential id secret := by
  obtain ⟨_, _, -, -, -, hid, -⟩ | ⟨id, secret, rfl, -, -, hid, hsecret⟩ := auth_eq_ok_iff.1 h
  · exact absurd hby.1 (filled?_eq_none_iff.1 hid)
  · exact ⟨id, secret, (filled?_eq_some_iff.1 hid).1, (filled?_eq_some_iff.1 hsecret).1, rfl⟩

theorem projectName_of_isSet_tenant (h : p.projectName = .ok s) (hset : IsSet p.tenant) :
    s = p.tenant := by
  obtain ⟨hnone, -⟩ | ⟨-, rfl⟩ := projectName_eq_ok_iff.1 h
  · exact absurd hset (filled?_eq_none_iff.1 hnone)
  · exact filled?_of_isSet hset

theorem keeps_projectName (h : p.projectName = .ok s) (hunset : ¬ IsSet p.tenant) :
    Keeps p.project s := by
  obtain ⟨-, rfl⟩ | ⟨hnone, rfl⟩ := projectName_eq_ok_iff.1 h
  · exact keeps_filled? p.project
  · rw [filled?_eq_none_iff.2 hunset, ← hnone]
    exact keeps_filled? p.project

theorem exists_drive_iff :
    (∃ d, p.drive = .ok d) ↔
      p.configDrive = none ∨ p.configDrive = some "disk" ∨ p.configDrive = some "cdrom" := by
  simp only [drive_eq_ok_iff]
  constructor
  · rintro ⟨_ | _ | _, h⟩
    · exact .inl h
    · exact .inr (.inl h)
    · exact .inr (.inr h)
  · rintro (h | h | h)
    · exact ⟨none, h⟩
    · exact ⟨some .disk, h⟩
    · exact ⟨some .cdrom, h⟩

theorem exists_credentials_iff :
    (∃ c, p.credentials = .ok c) ↔
      IsSet p.authUrl ∧ (∃ m, p.auth = .ok m) ∧ (∃ name, p.projectName = .ok name) ∧
        ∀ authUrl, p.authUrl = some authUrl → EndsInVersion3 authUrl → p.ByPassword →
          IsSet p.domain ∧ (IsSet p.tenant ∨ IsSet p.project) := by
  simp only [credentials_eq_ok_iff]
  constructor
  · rintro ⟨c, hurl, hauth, hname, hversion, -⟩
    obtain ⟨hsome, hset⟩ := filled?_eq_some_iff.1 hurl
    refine ⟨hset, ⟨_, hauth⟩, ⟨_, hname⟩, fun authUrl h hends hby => ?_⟩
    obtain rfl := Option.some.inj (h.symm.trans hsome)
    obtain ⟨hdomain, hproject⟩ := hversion (isVersion3_iff.2 hends) ((byPassword_iff hauth).1 hby)
    exact ⟨isSome_filled?_iff.1 hdomain, (isSome_projectName hname).1 hproject⟩
  · rintro ⟨hset, ⟨m, hauth⟩, ⟨name, hname⟩, hversion⟩
    obtain ⟨authUrl, hsome, -⟩ := id hset
    refine ⟨⟨authUrl, m, name, filled? p.domain, filled? p.region⟩,
      filled?_eq_some_iff.2 ⟨hsome, hset⟩, hauth, hname, fun hends hby => ?_, rfl, rfl⟩
    obtain ⟨hdomain, hproject⟩ :=
      hversion authUrl hsome (isVersion3_iff.1 hends) ((byPassword_iff hauth).2 hby)
    exact ⟨isSome_filled?_iff.2 hdomain, (isSome_projectName hname).2 hproject⟩

theorem exists_validate_iff : (∃ settings, p.validate = .ok settings) ↔ p.Sound := by
  have hpos {n : UInt64} : n ≠ 0 ↔ 0 < n := UInt64.pos_iff_ne_zero.symm
  simp only [validate_eq_ok_iff, hpos, idlePolicy?_eq_none_iff]
  constructor
  · rintro ⟨settings, hcredentials, htimeout, hinterval, hdrive, hpolicies, -⟩
    obtain ⟨hurl, hauth, hname, hversion⟩ := exists_credentials_iff.1 ⟨_, hcredentials⟩
    obtain ⟨hpassword, happlication, hone⟩ := exists_auth_iff.1 hauth
    exact ⟨hurl, hpassword, happlication, hone, exists_projectName_iff.1 hname, hversion, htimeout,
      hinterval, exists_drive_iff.1 ⟨_, hdrive⟩, hpolicies⟩
  · intro h
    obtain ⟨c, hc⟩ := exists_credentials_iff.2 ⟨h.authUrl,
      exists_auth_iff.2 ⟨h.password, h.application, h.one_pair⟩,
      exists_projectName_iff.2 h.one_project, h.version3⟩
    obtain ⟨d, hd⟩ := exists_drive_iff.2 h.configDrive
    exact ⟨⟨c, _, _, d, _, _, _, _, _⟩, hc, h.stateTimeout, h.pollInterval, hd, h.retryPolicies,
      rfl⟩

theorem carries_of_validate (h : p.validate = .ok settings) : p.Carries settings := by
  obtain ⟨hcredentials, -, -, hdrive, -, hsettings⟩ := validate_eq_ok_iff.1 h
  obtain ⟨hurl, hauth, hname, -, hdomain, hregion⟩ := credentials_eq_ok_iff.1 hcredentials
  constructor
  case authUrl => exact (filled?_eq_some_iff.1 hurl).1
  case password => exact auth_of_byPassword hauth
  case application => exact auth_of_byApplication hauth
  case tenant => exact projectName_of_isSet_tenant hname
  case project => exact keeps_projectName hname
  case domain => exact hdomain ▸ keeps_filled? p.domain
  case region => exact hregion ▸ keeps_filled? p.region
  case configDrive => exact (drive_eq_ok_iff.1 hdrive).symm
  all_goals rw [hsettings]

theorem pollInterval_pos_of_validate (h : p.validate = .ok settings) :
    0 < settings.pollInterval :=
  (carries_of_validate h).pollInterval ▸
    UInt64.lt_iff_toNat_lt.1 (exists_validate_iff.1 ⟨_, h⟩).pollInterval

/-- No operation is left without an attempt. -/
theorem maxAttempts_pos_of_validate (h : p.validate = .ok settings) (policy : String) :
    1 ≤ (settings.retryPolicies.resolve policy).maxAttempts := by
  have hentry {name : String} {value : RetryPolicy}
      (hget : settings.retryPolicies.get? name = some value) : 1 ≤ value.maxAttempts :=
    (exists_validate_iff.1 ⟨_, h⟩).retryPolicies name value
      ((carries_of_validate h).retryPolicies ▸ hget)
  unfold RetryPolicies.resolve
  cases hown : settings.retryPolicies.get? policy with
  | some value => exact hentry hown
  | none =>
    cases hfallback : settings.retryPolicies.get? RetryPolicies.fallback with
    | some value => exact hentry hfallback
    | none =>
      -- What applies then is the standard policy, which nobody can misspell.
      decide

/-- The checks accept the properties that are sound, and no others. The settings they lead to
    say what the properties say, and give every operation an attempt. -/
theorem validate_accepts (p : ConnectionProperties) :
    ((∃ settings, p.validate = .ok settings) ↔ p.Sound) ∧
      ∀ settings, p.validate = .ok settings → p.Carries settings ∧
        ∀ operation, 1 ≤ (settings.retryPolicies.resolve operation).maxAttempts :=
  ⟨exists_validate_iff, fun _ h => ⟨carries_of_validate h, maxAttempts_pos_of_validate h⟩⟩

/-- Properties for the third version of the identity service, with a blank project. -/
def domainScoped : ConnectionProperties where
  authUrl := some "https://cloud/v3//"
  username := some "user"
  apiKey := some "key"
  applicationCredentialId := some " "
  tenant := some "jobs"
  project := some "\t"
  domain := some "Default"
  stateTimeout := 60
  configDrive := some "cdrom"
  retryPolicies := (∅ : RetryPolicies).insert "create_port" ⟨1, 0⟩

/-- The settings that they amount to. -/
def domainScopedSettings : Settings where
  credentials := {
    authUrl := "https://cloud/v3//"
    auth := .password "user" "key"
    project := some "jobs"
    domain := some "Default" }
  stateTimeout := 60
  configDrive := some .cdrom
  retryPolicies := (∅ : RetryPolicies).insert "create_port" ⟨1, 0⟩

theorem validate_domainScoped : domainScoped.validate = .ok domainScopedSettings := by
  decide +kernel

/-- The blank texts count as missing, and the address does end in the third version. -/
theorem validate_accepts_domainScoped :
    domainScoped.validate = .ok domainScopedSettings ∧ domainScoped.Sound ∧
      domainScoped.Carries domainScopedSettings ∧
        ∀ operation, 1 ≤ (domainScopedSettings.retryPolicies.resolve operation).maxAttempts :=
  have h := validate_accepts domainScoped
  ⟨validate_domainScoped, h.1.1 ⟨domainScopedSettings, validate_domainScoped⟩,
    h.2 domainScopedSettings validate_domainScoped⟩

end ConnectionProperties

end CloudProvider
