import QueryFrame.Proofs.Numeral
import QueryFrame.Proofs.Traversal
import QueryFrame.Settings.Document

/-!
# Settings that are admitted

A document that is not blank is admitted if it is a settings document and the settings in it, with
the stored secrets, can be used. It is refused for its grammar otherwise, or for the first thing
that the settings lack.
-/

namespace QueryFrame

/-- Each secret is what the store has under its key, and empty where the store has nothing. -/
structure Secrets.StoredIn (secrets : Secrets) (store : String → Option String) : Prop where
  serviceAccountKey : secrets.serviceAccountKey = (store "serviceAccAuthAccessKey").getD ""
  accessToken : secrets.accessToken = (store "accessToken").getD ""
  password : secrets.password = (store "password").getD ""
  certificate : secrets.certificate = (store "certificate").getD ""

theorem Secrets.storedIn_iff {secrets : Secrets} {store : String → Option String} :
    secrets.StoredIn store ↔ secrets = .ofStore store := by
  constructor
  · intro h
    obtain ⟨key, token, password, certificate⟩ := secrets
    obtain ⟨rfl, rfl, rfl, rfl⟩ := h
    rfl
  · rintro rfl
    exact ⟨rfl, rfl, rfl, rfl⟩

namespace Settings

/-- Each way to authenticate has what it needs. -/
structure HasCredentials (s : Settings) : Prop where
  serviceAccountKey : s.authKind = .serviceAccountKey → s.secrets.serviceAccountKey ≠ ""
  accessToken : s.authKind = .accessToken → s.secrets.accessToken ≠ ""
  user : s.authKind = .userPassword → s.user ≠ ""
  password : s.authKind = .userPassword → s.secrets.password ≠ ""

/-- The entered timeout is a numeral of 64 bits, once the blanks around it are taken off. -/
def HasTimeout (s : Settings) : Prop :=
  ∃ seconds < UInt64.size, Numeral.Denotes (Text.trim s.timeout.toList) seconds

structure IsUsable (s : Settings) : Prop where
  endpoint : s.endpoint ≠ ""
  dbLocation : s.dbLocation ≠ ""
  credentials : s.HasCredentials
  timeout : s.HasTimeout

/-- The first condition that the settings do not meet, by its wording. -/
inductive FirstFault (s : Settings) : String → Prop
  | endpoint (missing : s.endpoint = "") : FirstFault s "endpoint should not be empty"
  | dbLocation (endpoint : s.endpoint ≠ "") (missing : s.dbLocation = "") :
      FirstFault s "data base location should not be empty"
  | serviceAccountKey (endpoint : s.endpoint ≠ "") (dbLocation : s.dbLocation ≠ "")
      (kind : s.authKind = .serviceAccountKey) (missing : s.secrets.serviceAccountKey = "") :
      FirstFault s "service account auth access key should not be empty"
  | accessToken (endpoint : s.endpoint ≠ "") (dbLocation : s.dbLocation ≠ "")
      (kind : s.authKind = .accessToken) (missing : s.secrets.accessToken = "") :
      FirstFault s "access token should not be empty"
  | userPassword (endpoint : s.endpoint ≠ "") (dbLocation : s.dbLocation ≠ "")
      (kind : s.authKind = .userPassword) (missing : s.user = "" ∨ s.secrets.password = "") :
      FirstFault s "username and password should not be empty"
  | timeout {defect : Numeral.Defect} (endpoint : s.endpoint ≠ "") (dbLocation : s.dbLocation ≠ "")
      (credentials : s.HasCredentials)
      (refused : Numeral.read (UInt64.size - 1) (Text.trim s.timeout.toList) = .error defect) :
      FirstFault s ("timeout " ++ s.timeout ++ " invalid: " ++ defect.message)

section

variable {s : Settings}

theorem missingCredential?_eq_none_iff : s.missingCredential? = none ↔ s.HasCredentials := by
  constructor
  · intro h
    rw [missingCredential?] at h
    constructor <;> intro hkind hmissing <;> simp [hkind, hmissing] at h
  · intro h
    rw [missingCredential?]
    cases hkind : s.authKind with
    | serviceAccountKey => simp [h.serviceAccountKey hkind]
    | accessToken => simp [h.accessToken hkind]
    | userPassword => simp [h.user hkind, h.password hkind]
    | metaData => rfl
    | anonymous => rfl

theorem connectTimeout_eq_ok_iff {seconds : Nat} :
    s.connectTimeout = .ok seconds ↔
      Numeral.read (UInt64.size - 1) (Text.trim s.timeout.toList) = .ok seconds := by
  rw [connectTimeout]
  cases Numeral.read (UInt64.size - 1) (Text.trim s.timeout.toList) <;> simp

theorem connectTimeout_eq_error_iff {e : QueryError} :
    s.connectTimeout = .error e ↔ ∃ defect,
      Numeral.read (UInt64.size - 1) (Text.trim s.timeout.toList) = .error defect ∧
        e = .invalidSettings ("timeout " ++ s.timeout ++ " invalid: " ++ defect.message) := by
  rw [connectTimeout]
  cases Numeral.read (UInt64.size - 1) (Text.trim s.timeout.toList) <;> simp [eq_comm]

theorem hasTimeout_iff : s.HasTimeout ↔ ∃ seconds, s.connectTimeout = .ok seconds := by
  simp only [HasTimeout, connectTimeout_eq_ok_iff, Numeral.read_eq_ok_iff]
  apply exists_congr
  intro seconds
  have hsize : 0 < UInt64.size := by decide
  rw [and_comm, Nat.le_sub_one_iff_lt hsize]

theorem validate_eq_ok_iff : s.validate = .ok () ↔ s.IsUsable := by
  rw [validate]
  constructor
  · intro h
    split at h
    · simp at h
    · next hendpoint =>
      split at h
      · simp at h
      · next hlocation =>
        split at h
        · simp at h
        · next hnone =>
          obtain ⟨seconds, hseconds, -⟩ := map_eq_ok_iff.1 h
          exact ⟨hendpoint, hlocation, missingCredential?_eq_none_iff.1 hnone,
            hasTimeout_iff.2 ⟨seconds, hseconds⟩⟩
  · intro h
    obtain ⟨seconds, hseconds⟩ := hasTimeout_iff.1 h.timeout
    rw [if_neg h.endpoint, if_neg h.dbLocation, missingCredential?_eq_none_iff.2 h.credentials,
      hseconds]
    rfl

private theorem FirstFault.of_missingCredential? {reason : String} (endpoint : s.endpoint ≠ "")
    (dbLocation : s.dbLocation ≠ "") (h : s.missingCredential? = some reason) :
    s.FirstFault reason := by
  rw [missingCredential?] at h
  split at h
  · next kind =>
    split at h
    · next missing =>
      obtain rfl := Option.some.inj h
      exact .serviceAccountKey endpoint dbLocation kind missing
    · simp at h
  · next kind =>
    split at h
    · next missing =>
      obtain rfl := Option.some.inj h
      exact .accessToken endpoint dbLocation kind missing
    · simp at h
  · next kind =>
    split at h
    · next missing =>
      obtain rfl := Option.some.inj h
      exact .userPassword endpoint dbLocation kind missing
    · simp at h
  · simp at h
  · simp at h

theorem validate_eq_error_iff {e : QueryError} :
    s.validate = .error e ↔ ∃ reason, s.FirstFault reason ∧ e = .invalidSettings reason := by
  rw [validate]
  constructor
  · intro h
    split at h
    · next missing => exact ⟨_, .endpoint missing, (Except.error.inj h).symm⟩
    · next endpoint =>
      split at h
      · next missing => exact ⟨_, .dbLocation endpoint missing, (Except.error.inj h).symm⟩
      · next dbLocation =>
        split at h
        · next hsome =>
          exact ⟨_, .of_missingCredential? endpoint dbLocation hsome, (Except.error.inj h).symm⟩
        · next hnone =>
          have credentials := missingCredential?_eq_none_iff.1 hnone
          obtain ⟨defect, refused, rfl⟩ := connectTimeout_eq_error_iff.1 (map_eq_error_iff.1 h)
          exact ⟨_, .timeout endpoint dbLocation credentials refused, rfl⟩
  · rintro ⟨reason, hfault, rfl⟩
    cases hfault with
    | endpoint missing => rw [if_pos missing]
    | dbLocation endpoint missing => rw [if_neg endpoint, if_pos missing]
    | serviceAccountKey endpoint dbLocation kind missing =>
      simp [endpoint, dbLocation, missingCredential?, kind, missing]
    | accessToken endpoint dbLocation kind missing =>
      simp [endpoint, dbLocation, missingCredential?, kind, missing]
    | userPassword endpoint dbLocation kind missing =>
      simp [endpoint, dbLocation, missingCredential?, kind, missing]
    | timeout endpoint dbLocation credentials refused =>
      rw [if_neg endpoint, if_neg dbLocation, missingCredential?_eq_none_iff.2 credentials]
      exact map_eq_error_iff.2 (connectTimeout_eq_error_iff.2 ⟨_, refused, rfl⟩)

end

section

variable {document : List UInt8} {store : String → Option String} {s : Settings} {e : QueryError}

theorem load_of_blank (h : document.all isBlankByte) :
    load document store = .ok { secrets := .ofStore store } := by
  rw [load, if_pos h]

theorem load_of_failure (h : ¬ document.all isBlankByte) {failure : Json.Failure}
    (hread : ofDocument document = .error failure) :
    load document store = .error (.invalidJson failure) := by
  rw [load, if_neg h, hread]

theorem load_of_read (h : ¬ document.all isBlankByte) {read : Settings}
    (hread : ofDocument document = .ok read) :
    load document store = ({ read with secrets := .ofStore store } : Settings).validate.map fun _ =>
      { read with secrets := .ofStore store } := by
  rw [load, if_neg h, hread]
  dsimp only
  cases ({ read with secrets := .ofStore store } : Settings).validate <;> rfl

theorem load_eq_ok_iff (h : ¬ document.all isBlankByte) :
    load document store = .ok s ↔ ∃ read, ofDocument document = .ok read ∧
      s = { read with secrets := .ofStore store } ∧ s.IsUsable := by
  cases hread : ofDocument document with
  | error failure => simp [load_of_failure h hread]
  | ok read =>
    rw [load_of_read h hread, map_eq_ok_iff]
    simp only [Except.ok.injEq, exists_eq_left', ← validate_eq_ok_iff]
    constructor
    · rintro ⟨_, hvalid, rfl⟩
      exact ⟨rfl, hvalid⟩
    · rintro ⟨rfl, hvalid⟩
      exact ⟨(), hvalid, rfl⟩

theorem load_eq_error_iff (h : ¬ document.all isBlankByte) :
    load document store = .error e ↔
      (∃ failure, ofDocument document = .error failure ∧ e = .invalidJson failure) ∨
        ∃ read reason, ofDocument document = .ok read ∧
          FirstFault { read with secrets := .ofStore store } reason ∧
            e = .invalidSettings reason := by
  cases hread : ofDocument document with
  | error failure => simp [load_of_failure h hread, eq_comm]
  | ok read =>
    rw [load_of_read h hread, map_eq_error_iff, validate_eq_error_iff]
    simp

private theorem isBlankByte_iff {b : UInt8} :
    isBlankByte b ↔ b = 0x20 ∨ b = 0x09 ∨ b = 0x0A ∨ b = 0x0D ∨ b = 0x0C := by
  simp [isBlankByte, or_assoc]

/-- Blank documents stand for the defaults. Of the other ones those are admitted that hold usable
settings; what keeps a document out is its grammar or the first fault of its settings. The secrets
are the stored ones, whatever the document says. -/
theorem load_admits (document : List UInt8) (store : String → Option String) (secrets : Secrets)
    (stored : secrets.StoredIn store) :
    ((∀ b ∈ document, b = 0x20 ∨ b = 0x09 ∨ b = 0x0A ∨ b = 0x0D ∨ b = 0x0C) →
      load document store = .ok { secrets }) ∧
    ((∃ b ∈ document, b ≠ 0x20 ∧ b ≠ 0x09 ∧ b ≠ 0x0A ∧ b ≠ 0x0D ∧ b ≠ 0x0C) →
      (∀ s, load document store = .ok s ↔ ∃ read, ofDocument document = .ok read ∧
        s = { read with secrets } ∧ s.IsUsable) ∧
      (∀ s, load document store = .ok s → s.validate = .ok ()) ∧
      (∀ failure, load document store = .error (.invalidJson failure) ↔
        ofDocument document = .error failure) ∧
      ∀ e, load document store = .error e ↔
        (∃ failure, ofDocument document = .error failure ∧ e = .invalidJson failure) ∨
          ∃ read reason, ofDocument document = .ok read ∧
            FirstFault { read with secrets } reason ∧ e = .invalidSettings reason) ∧
    ∀ e, load document store = .error e → e.isBadRequest := by
  obtain rfl := Secrets.storedIn_iff.1 stored
  have hblank : document.all isBlankByte ↔
      ∀ b ∈ document, b = 0x20 ∨ b = 0x09 ∨ b = 0x0A ∨ b = 0x0D ∨ b = 0x0C := by
    simp only [List.all_eq_true, isBlankByte_iff]
  refine ⟨fun hall => load_of_blank (hblank.2 hall), ?_, ?_⟩
  · rintro ⟨b, hb, hvisible⟩
    have hnot : ¬ document.all isBlankByte := by
      intro hall
      have := hblank.1 hall b hb
      simp_all
    refine ⟨fun s => load_eq_ok_iff hnot, ?_, ?_, fun e => load_eq_error_iff hnot⟩
    · intro s hs
      obtain ⟨_, _, _, husable⟩ := (load_eq_ok_iff hnot).1 hs
      exact validate_eq_ok_iff.2 husable
    · intro failure
      simp [load_eq_error_iff hnot]
  · intro e he
    by_cases h : document.all isBlankByte
    · simp [load_of_blank h] at he
    · rcases (load_eq_error_iff h).1 he with ⟨_, _, rfl⟩ | ⟨_, _, _, _, rfl⟩ <;> rfl

end

/-- A document for which a token is needed. -/
def tokenDocument : List UInt8 :=
  Json.ascii ("\x7b\"authKind\":\"AccessToken\", \"endpoint\":\"grpc://h:1\", " ++
    "\"dbLocation\":\"/l\"\x7d")

/-- A store with a token and a certificate. -/
def tokenStore (key : String) : Option String :=
  [("accessToken", "t0k3n"), ("certificate", "pem")].lookup key

theorem load_admits_token :
    let secrets : Secrets := { accessToken := "t0k3n", certificate := "pem" }
    secrets.StoredIn tokenStore ∧ load [0x20, 0x0C] tokenStore = .ok { secrets } ∧
      load tokenDocument tokenStore = .ok
        { authKind := .accessToken, endpoint := "grpc://h:1", dbLocation := "/l", secrets } ∧
      load tokenDocument (fun _ => none) =
        .error (.invalidSettings "access token should not be empty") := by
  intro secrets
  have hread : ofDocument tokenDocument =
      .ok { authKind := .accessToken, endpoint := "grpc://h:1", dbLocation := "/l" } := by
    decide +kernel
  have hvisible : ∃ b ∈ tokenDocument, b ≠ 0x20 ∧ b ≠ 0x09 ∧ b ≠ 0x0A ∧ b ≠ 0x0D ∧ b ≠ 0x0C :=
    ⟨0x7B, by decide, by decide⟩
  have hstored : secrets.StoredIn tokenStore := ⟨rfl, rfl, rfl, rfl⟩
  have hempty : ({} : Secrets).StoredIn fun _ => none := ⟨rfl, rfl, rfl, rfl⟩
  have husable : IsUsable
      { authKind := .accessToken, endpoint := "grpc://h:1", dbLocation := "/l", secrets } :=
    validate_eq_ok_iff.1 (by decide +kernel)
  have hfault : FirstFault
      { authKind := .accessToken, endpoint := "grpc://h:1", dbLocation := "/l" }
      "access token should not be empty" :=
    .accessToken (by decide) (by decide) rfl rfl
  obtain ⟨hadmitted, -, -, -⟩ := (load_admits tokenDocument _ _ hstored).2.1 hvisible
  obtain ⟨-, -, -, hrefused⟩ := (load_admits tokenDocument _ _ hempty).2.1 hvisible
  exact ⟨hstored, (load_admits [0x20, 0x0C] _ _ hstored).1 (by simp),
    (hadmitted _).2 ⟨_, hread, rfl, husable⟩, (hrefused _).2 (.inr ⟨_, _, hread, hfault, rfl⟩)⟩

end Settings

end QueryFrame
