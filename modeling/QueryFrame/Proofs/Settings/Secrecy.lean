import QueryFrame.Proofs.Json.Invariant
import QueryFrame.Proofs.Wire.Parameters

/-!
# Where the secrets go

Of the secrets only the password of a connection shows anything, and only the one secret that the
way to authenticate asks for. All else is the same for settings that differ in their secrets alone,
up to whether a secret is there at all. Documents cannot hold secrets.
-/

namespace QueryFrame

/-- The settings are the same but for their secrets. -/
structure Settings.AgreesWith (s t : Settings) : Prop where
  authKind : s.authKind = t.authKind
  endpoint : s.endpoint = t.endpoint
  dbLocation : s.dbLocation = t.dbLocation
  user : s.user = t.user
  timeout : s.timeout = t.timeout
  queryTimeout : s.queryTimeout = t.queryTimeout

/-- The secrets that somebody may have to give are missing in both or in neither. -/
structure Secrets.SameGaps (a b : Secrets) : Prop where
  serviceAccountKey : a.serviceAccountKey = "" ↔ b.serviceAccountKey = ""
  accessToken : a.accessToken = "" ↔ b.accessToken = ""
  password : a.password = "" ↔ b.password = ""

/-- The parameters are the same but for the password. -/
structure Wire.Config.AgreesWith (c d : Config) : Prop where
  host : c.host = d.host
  port : c.port = d.port
  database : c.database = d.database
  user : c.user = d.user
  connectTimeout : c.connectTimeout = d.connectTimeout

section

variable {s t : Settings}

private theorem Settings.AgreesWith.eq_with_secrets (h : s.AgreesWith t) :
    t = { s with secrets := t.secrets } := by
  obtain ⟨hkind, hendpoint, hlocation, huser, htimeout, hquery⟩ := h
  cases t
  cases hkind
  cases hendpoint
  cases hlocation
  cases huser
  cases htimeout
  cases hquery
  rfl

private theorem Settings.missingCredential?_congr {secrets : Secrets}
    (h : s.secrets.SameGaps secrets) :
    ({ s with secrets } : Settings).missingCredential? = s.missingCredential? := by
  cases hkind : s.authKind <;>
    simp only [missingCredential?, hkind, h.serviceAccountKey, h.accessToken, h.password]

private theorem Settings.validate_congr {secrets : Secrets} (h : s.secrets.SameGaps secrets) :
    ({ s with secrets } : Settings).validate = s.validate := by
  rw [validate, validate, missingCredential?_congr h]
  rfl

namespace Wire.Config

private theorem ofSettings_eq_ok {c : Config} (h : ofSettings s = .ok c) :
    credential? s = .ok c.password := by
  rw [ofSettings_eq] at h
  split at h
  · simp at h
  · obtain ⟨_, _, h⟩ := bind_eq_ok_iff.1 h
    obtain ⟨_, _, h⟩ := bind_eq_ok_iff.1 h
    obtain ⟨password, hpassword, rfl⟩ := map_eq_ok_iff.1 h
    exact hpassword

private theorem credential?_with_secrets (s : Settings) (secrets : Secrets) :
    (∃ e, credential? s = .error e ∧ credential? { s with secrets } = .error e) ∨
      ∃ p q, credential? s = .ok p ∧ credential? { s with secrets } = .ok q := by
  cases hkind : s.authKind <;> simp [credential?, hkind]

private theorem ofSettings_with_secrets (s : Settings) (secrets : Secrets) :
    (∃ e, ofSettings s = .error e ∧ ofSettings { s with secrets } = .error e) ∨
      ∃ c d, ofSettings s = .ok c ∧ ofSettings { s with secrets } = .ok d ∧ c.AgreesWith d := by
  have hsecure : ({ s with secrets } : Settings).isSecure = s.isSecure := rfl
  have haddress : address { s with secrets } = address s := rfl
  have htimeout : ({ s with secrets } : Settings).connectTimeout = s.connectTimeout := rfl
  rw [ofSettings_eq, ofSettings_eq, hsecure, haddress, htimeout]
  cases s.isSecure with
  | true => exact .inl ⟨_, rfl, rfl⟩
  | false =>
    cases address s with
    | error e => exact .inl ⟨e, rfl, rfl⟩
    | ok found =>
      cases s.connectTimeout with
      | error e => exact .inl ⟨e, rfl, rfl⟩
      | ok seconds =>
        rcases credential?_with_secrets s secrets with ⟨e, hs, ht⟩ | ⟨p, q, hs, ht⟩
        · rw [hs, ht]
          exact .inl ⟨e, rfl, rfl⟩
        · rw [hs, ht]
          exact .inr ⟨_, _, rfl, rfl, rfl, rfl, rfl, rfl, rfl⟩

private theorem ofSettings_congr {secrets : Secrets}
    (h : credential? { s with secrets } = credential? s) :
    ofSettings { s with secrets } = ofSettings s := by
  rw [ofSettings_eq, ofSettings_eq, h]
  rfl

end Wire.Config

end

namespace Settings

private theorem documentFields_keep (time : Duration) :
    ∀ f ∈ documentFields, f.Keeps fun s => s.queryTimeout = time := by
  simp only [documentFields, List.forall_mem_cons]
  refine ⟨?_, ?_, ?_, ?_, ?_, by simp⟩
  · exact Json.Field.keeps_choice fun _ _ h => h
  all_goals exact Json.Field.keeps_string fun _ _ h => h

private theorem ofDocument_queryTimeout {document : List UInt8} {read : Settings}
    (h : ofDocument document = .ok read) : read.queryTimeout = .ofSeconds 60 :=
  Json.record_invariant (documentFields_keep (.ofSeconds 60)) h rfl

private theorem AgreesWith.of_load {document : List UInt8} {store other : String → Option String}
    {s t : Settings} (hs : load document store = .ok s) (ht : load document other = .ok t) :
    s.AgreesWith t := by
  by_cases h : document.all isBlankByte
  · rw [load_of_blank h] at hs ht
    obtain rfl := Except.ok.inj hs
    obtain rfl := Except.ok.inj ht
    exact ⟨rfl, rfl, rfl, rfl, rfl, rfl⟩
  · obtain ⟨read, hread, rfl, -⟩ := (load_eq_ok_iff h).1 hs
    obtain ⟨again, hagain, rfl, -⟩ := (load_eq_ok_iff h).1 ht
    rw [hread] at hagain
    obtain rfl := Except.ok.inj hagain
    exact ⟨rfl, rfl, rfl, rfl, rfl, rfl⟩

theorem secrets_of_load {document : List UInt8} {store : String → Option String} {s : Settings}
    (h : load document store = .ok s) :
    s.secrets = .ofStore store ∧ s.queryTimeout = .ofSeconds 60 := by
  by_cases hblank : document.all isBlankByte
  · rw [load_of_blank hblank] at h
    obtain rfl := Except.ok.inj h
    exact ⟨rfl, rfl⟩
  · obtain ⟨read, hread, rfl, -⟩ := (load_eq_ok_iff hblank).1 h
    have htime := ofDocument_queryTimeout hread
    exact ⟨rfl, htime⟩

/-- What the secrets can change, and what they cannot. -/
theorem secrets_confined :
    (∀ s t : Settings, s.AgreesWith t →
      s.summary = t.summary ∧ s.dsn = t.dsn ∧ s.isSecure = t.isSecure ∧
      s.connectTimeout = t.connectTimeout ∧
      (s.secrets.SameGaps t.secrets → s.validate = t.validate) ∧
      ((∃ e, Wire.Config.ofSettings s = .error e ∧ Wire.Config.ofSettings t = .error e) ∨
        ∃ c d, Wire.Config.ofSettings s = .ok c ∧ Wire.Config.ofSettings t = .ok d ∧
          c.AgreesWith d) ∧
      ((s.authKind = .userPassword → s.secrets.password = t.secrets.password) →
        (s.authKind = .accessToken → s.secrets.accessToken = t.secrets.accessToken) →
          Wire.Config.ofSettings s = Wire.Config.ofSettings t)) ∧
    (∀ s c, Wire.Config.ofSettings s = .ok c →
      s.authKind = .userPassword ∧ c.password = some s.secrets.password ∨
      s.authKind = .accessToken ∧ c.password = some s.secrets.accessToken ∨
      s.authKind = .anonymous ∧ c.password = none) ∧
    (∀ document store other s t, load document store = .ok s → load document other = .ok t →
      s.AgreesWith t) ∧
    ∀ document store s, load document store = .ok s →
      s.secrets = .ofStore store ∧ s.queryTimeout = .ofSeconds 60 := by
  refine ⟨?_, ?_, ?_, ?_⟩
  · intro s t h
    rw [h.eq_with_secrets]
    refine ⟨rfl, rfl, rfl, rfl, ?_, ?_, ?_⟩
    · intro hgaps
      exact (validate_congr hgaps).symm
    · exact Wire.Config.ofSettings_with_secrets s t.secrets
    · intro hpassword htoken
      apply Eq.symm
      apply Wire.Config.ofSettings_congr
      cases hkind : s.authKind <;> simp_all [Wire.Config.credential?]
  · intro s c h
    have hcredential := Wire.Config.ofSettings_eq_ok h
    cases hkind : s.authKind <;> simp_all [Wire.Config.credential?]
  · intro document store other s t hs ht
    exact .of_load hs ht
  · intro document store s h
    exact secrets_of_load h

/-- Settings whose user is known by a password. -/
def known : Settings where
  authKind := .userPassword
  endpoint := "grpc://h:5432"
  dbLocation := "/l"
  user := "u"
  secrets := { password := "one" }

theorem secrets_confined_known :
    let changed : Settings := { known with secrets := { password := "two", certificate := "c" } }
    known.AgreesWith changed ∧ known.secrets.SameGaps changed.secrets ∧
      known.summary = changed.summary ∧ changed.validate = .ok () ∧
      ∃ d, Wire.Config.ofSettings changed = .ok d ∧ d.host = "h" ∧ d.password = some "two" := by
  intro changed
  have hagree : known.AgreesWith changed := ⟨rfl, rfl, rfl, rfl, rfl, rfl⟩
  have hgaps : known.secrets.SameGaps changed.secrets := by
    constructor <;> decide
  have hvalid : known.validate = .ok () := by decide +kernel
  have hconfig : Wire.Config.ofSettings known = .ok ⟨"h", 5432, "/l", "u", some "one", 10⟩ := by
    decide +kernel
  obtain ⟨htwo, hpassword, -, -⟩ := secrets_confined
  obtain ⟨hsummary, -, -, -, hvalidate, hconfigs, -⟩ := htwo known changed hagree
  rcases hconfigs with ⟨e, he, -⟩ | ⟨c, d, hc, hd, hsame⟩
  · rw [hconfig] at he
    cases he
  · rw [hconfig] at hc
    cases hc
    rcases hpassword changed d hd with ⟨-, htaken⟩ | ⟨hkind, -⟩ | ⟨hkind, -⟩
    · exact ⟨hagree, hgaps, hsummary, (hvalidate hgaps).symm.trans hvalid, d, hd,
        hsame.host.symm, htaken⟩
    · cases hkind
    · cases hkind

end Settings

end QueryFrame
