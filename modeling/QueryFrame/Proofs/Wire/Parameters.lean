import QueryFrame.Proofs.Settings.Admission
import QueryFrame.Wire.Config

/-!
# What the settings make of a connection

The parameters of a connection are taken from the settings check by check, and the first check that
the settings do not pass decides the error. The port is what stands behind the last colon of the
address, so that the host may hold further ones.
-/

namespace QueryFrame.Wire

/-- The schemes that say nothing but that the connection is not encrypted. -/
def IsScheme (scheme : String) : Prop :=
  scheme = "grpc://" ∨ scheme = "postgres://" ∨ scheme = "postgresql://"

/-- What an endpoint is without the scheme that it may begin with. -/
inductive IsAddress (endpoint : List Char) : List Char → Prop
  | behind {scheme : String} {address : List Char} (isScheme : IsScheme scheme)
    (split : endpoint = scheme.toList ++ address) : IsAddress endpoint address
  | whole (bare : ∀ scheme, IsScheme scheme → ¬ scheme.toList <+: endpoint) :
    IsAddress endpoint endpoint

/-- The last colon of a text stands between the two texts. -/
structure SplitsLast (cs host port : List Char) : Prop where
  split : cs = host ++ ':' :: port
  last : ':' ∉ port

section

variable {endpoint address cs host port : List Char}

private theorem mem_schemes_iff {scheme : List Char} :
    scheme ∈ schemes ↔ ∃ name, IsScheme name ∧ scheme = name.toList := by
  simp [schemes, IsScheme]

private theorem schemes_apart {scheme scheme' : List Char} (h : scheme ∈ schemes)
    (h' : scheme' ∈ schemes) (hhead : scheme <+: scheme') : scheme = scheme' := by
  have hall : ∀ a ∈ schemes, ∀ b ∈ schemes, a.isPrefixOf b = true → a = b := by decide +kernel
  exact hall scheme h scheme' h' (List.isPrefixOf_iff_prefix.2 hhead)

private theorem withoutScheme_append {scheme : List Char} (h : scheme ∈ schemes)
    (address : List Char) :
    withoutScheme (scheme ++ address) = address := by
  rw [withoutScheme]
  cases hfound : schemes.find? (·.isPrefixOf (scheme ++ address)) with
  | none =>
    have hnone := List.find?_eq_none.1 hfound scheme h
    simp at hnone
  | some found =>
    have hmem := List.mem_of_find?_eq_some hfound
    have hhead : found <+: scheme ++ address := by simpa using List.find?_some hfound
    have hsame : found = scheme := by
      rcases List.prefix_or_prefix_of_prefix hhead (List.prefix_append scheme address) with h' | h'
      · exact schemes_apart hmem h h'
      · exact (schemes_apart h hmem h').symm
    simp [hsame]

private theorem withoutScheme_of_bare (h : ∀ scheme ∈ schemes, ¬ scheme <+: endpoint) :
    withoutScheme endpoint = endpoint := by
  have hnone : schemes.find? (·.isPrefixOf endpoint) = none := by
    rw [List.find?_eq_none]
    intro scheme hscheme
    rw [List.isPrefixOf_iff_prefix]
    exact h scheme hscheme
  rw [withoutScheme, hnone]

theorem withoutScheme_eq_iff : withoutScheme endpoint = address ↔ IsAddress endpoint address := by
  constructor
  · intro h
    by_cases hscheme : ∃ scheme ∈ schemes, scheme <+: endpoint
    · obtain ⟨scheme, hmem, rest, rfl⟩ := hscheme
      rw [withoutScheme_append hmem] at h
      obtain ⟨name, hname, rfl⟩ := mem_schemes_iff.1 hmem
      exact .behind hname (by rw [h])
    · have hbare : ∀ scheme ∈ schemes, ¬ scheme <+: endpoint := by simpa using hscheme
      rw [withoutScheme_of_bare hbare] at h
      subst h
      exact .whole fun name hname => hbare _ (mem_schemes_iff.2 ⟨name, hname, rfl⟩)
  · intro h
    cases h with
    | behind hname hsplit =>
      rw [hsplit, withoutScheme_append (mem_schemes_iff.2 ⟨_, hname, rfl⟩)]
    | whole hbare =>
      apply withoutScheme_of_bare
      intro scheme hmem
      obtain ⟨name, hname, rfl⟩ := mem_schemes_iff.1 hmem
      exact hbare name hname

private theorem exists_splitsLast (h : ':' ∈ cs) : ∃ host port, SplitsLast cs host port := by
  obtain ⟨after, before, hcs, hlast⟩ := List.eq_append_cons_of_mem (List.mem_reverse.2 h)
  refine ⟨before.reverse, after.reverse, ?_, by simpa using hlast⟩
  rw [← List.reverse_reverse cs, hcs]
  simp

private theorem forall_ne_colon (h : ':' ∉ cs) : ∀ c ∈ cs, decide (c ≠ ':') = true := by
  intro c hc
  apply decide_eq_true
  intro hcolon
  exact h (hcolon ▸ hc)

private theorem splitLastColon?_of_splitsLast (h : SplitsLast cs host port) :
    splitLastColon? cs = some (host, port) := by
  obtain ⟨rfl, hlast⟩ := h
  have hreverse : (host ++ ':' :: port).reverse = port.reverse ++ ':' :: host.reverse := by simp
  have hafter : ((host ++ ':' :: port).reverse.takeWhile (· ≠ ':')).reverse = port := by
    have hvisible : ∀ c ∈ port.reverse, decide (c ≠ ':') = true :=
      forall_ne_colon (by simpa using hlast)
    rw [hreverse, List.takeWhile_append_of_pos hvisible, List.takeWhile_cons_of_neg (by decide),
      List.append_nil, List.reverse_reverse]
  have hlength : (host ++ ':' :: port).length = host.length + port.length + 1 := by
    rw [List.length_append, List.length_cons, Nat.add_assoc]
  have hne : port.length ≠ (host ++ ':' :: port).length := by omega
  have hhost : (host ++ ':' :: port).length - port.length - 1 = host.length := by omega
  simp only [splitLastColon?, hafter, if_neg hne, hhost, List.take_left]

private theorem splitLastColon?_of_no_colon (h : ':' ∉ cs) : splitLastColon? cs = none := by
  have hafter : (cs.reverse.takeWhile (· ≠ ':')).reverse = cs := by
    have hvisible : ∀ c ∈ cs.reverse, decide (c ≠ ':') = true :=
      forall_ne_colon (by simpa using h)
    rw [List.takeWhile_eq_self_iff.2 hvisible, List.reverse_reverse]
  simp only [splitLastColon?, hafter, if_true]

end

namespace Config

/-- The parameters that the settings give once host, port, timeout and password are found. -/
def assemble (s : Settings) (host : String) (port seconds : Nat) (password : Option String) :
    Config where
  host
  port
  database := s.dbLocation
  user := if s.user = "" then "root" else s.user
  password
  connectTimeout := seconds

/-- The endpoint is not encrypted, and names the host and the port. -/
structure Locates (s : Settings) (host : String) (port : Nat) : Prop where
  plain : ¬ "grpcs://".toList <+: s.endpoint.toList
  address : ∃ address digits, IsAddress s.endpoint.toList address ∧
    SplitsLast address host.toList digits ∧ Numeral.Denotes digits port
  bound : port ≤ 65535

/-- The password that goes with a way to authenticate. -/
inductive Sends (s : Settings) : Option String → Prop
  | userPassword (kind : s.authKind = .userPassword) : Sends s (some s.secrets.password)
  | accessToken (kind : s.authKind = .accessToken) : Sends s (some s.secrets.accessToken)
  | anonymous (kind : s.authKind = .anonymous) : Sends s none

/-- What comes of the settings: the error at the first check that they do not pass, or the
parameters. -/
inductive Outcome (s : Settings) : Except QueryError Config → Prop
  | encrypted (scheme : "grpcs://".toList <+: s.endpoint.toList) :
      Outcome s (.error (.connectionFailed
        "TLS endpoints are not supported over the postgres wire"))
  | noPort {address : List Char} (plain : ¬ "grpcs://".toList <+: s.endpoint.toList)
      (isAddress : IsAddress s.endpoint.toList address) (noColon : ':' ∉ address) :
      Outcome s (.error (.invalidSettings ("endpoint " ++ s.endpoint ++ " has no port")))
  | invalidPort {address host port : List Char}
      (plain : ¬ "grpcs://".toList <+: s.endpoint.toList)
      (isAddress : IsAddress s.endpoint.toList address) (split : SplitsLast address host port)
      (invalid : ∀ n ≤ 65535, ¬ Numeral.Denotes port n) :
      Outcome s (.error (.invalidSettings ("endpoint " ++ s.endpoint ++ " has an invalid port")))
  | timeout {host : String} {port : Nat} {e : QueryError} (located : Locates s host port)
      (refused : s.connectTimeout = .error e) : Outcome s (.error e)
  | unsupported {host : String} {port seconds : Nat} (located : Locates s host port)
      (accepted : s.connectTimeout = .ok seconds)
      (kind : s.authKind = .serviceAccountKey ∨ s.authKind = .metaData) :
      Outcome s (.error (.connectionFailed
        (s.authKind.name ++ " authentication is not supported over the postgres wire")))
  | built {host : String} {port seconds : Nat} {password : Option String}
      (located : Locates s host port) (accepted : s.connectTimeout = .ok seconds)
      (sends : Sends s password) : Outcome s (.ok (assemble s host port seconds password))

section

variable {s : Settings} {r : Except QueryError Config} {host : String} {port seconds : Nat}
  {password : Option String} {e : QueryError}

theorem ofSettings_eq (s : Settings) :
    ofSettings s =
      if s.isSecure then
        .error (.connectionFailed "TLS endpoints are not supported over the postgres wire")
      else
        (address s).bind fun (host, port) => s.connectTimeout.bind fun seconds =>
          (credential? s).map (assemble s host port seconds) := by
  rw [ofSettings]
  cases s.isSecure
  · cases address s with
    | error e => rfl
    | ok found =>
      cases s.connectTimeout with
      | error e => rfl
      | ok seconds => cases credential? s <;> rfl
  · rfl

private theorem isSecure_iff : s.isSecure = true ↔ "grpcs://".toList <+: s.endpoint.toList := by
  rw [Settings.isSecure, List.isPrefixOf_iff_prefix]

private theorem ofSettings_of_plain (h : ¬ "grpcs://".toList <+: s.endpoint.toList) :
    ofSettings s =
      (address s).bind fun (host, port) => s.connectTimeout.bind fun seconds =>
        (credential? s).map (assemble s host port seconds) := by
  rw [ofSettings_eq, if_neg (mt isSecure_iff.1 h)]

private theorem address_of_noPort {address : List Char}
    (haddress : IsAddress s.endpoint.toList address) (hcolon : ':' ∉ address) :
    Config.address s =
      .error (.invalidSettings ("endpoint " ++ s.endpoint ++ " has no port")) := by
  rw [Config.address, withoutScheme_eq_iff.2 haddress, splitLastColon?_of_no_colon hcolon]

private theorem address_of_invalidPort {address host port : List Char}
    (haddress : IsAddress s.endpoint.toList address) (hsplit : SplitsLast address host port)
    (hinvalid : ∀ n ≤ 65535, ¬ Numeral.Denotes port n) :
    Config.address s =
      .error (.invalidSettings ("endpoint " ++ s.endpoint ++ " has an invalid port")) := by
  rw [Config.address, withoutScheme_eq_iff.2 haddress, splitLastColon?_of_splitsLast hsplit]
  cases hread : Numeral.read (UInt16.size - 1) port with
  | ok n =>
    obtain ⟨hn, hle⟩ := Numeral.read_eq_ok_iff.1 hread
    exact absurd hn (hinvalid n hle)
  | error defect => simp only [hread]

private theorem Locates.address_eq (h : Locates s host port) :
    Config.address s = .ok (host, port) := by
  obtain ⟨address, digits, haddress, hsplit, hdigits⟩ := h.address
  have hread : Numeral.read (UInt16.size - 1) digits = .ok port :=
    Numeral.read_eq_ok_iff.2 ⟨hdigits, h.bound⟩
  rw [Config.address, withoutScheme_eq_iff.2 haddress, splitLastColon?_of_splitsLast hsplit]
  simp only [hread, String.ofList_toList]

private theorem Locates.ofSettings_eq (h : Locates s host port) :
    ofSettings s = s.connectTimeout.bind fun seconds =>
      (credential? s).map (assemble s host port seconds) := by
  rw [ofSettings_of_plain h.plain, h.address_eq]
  rfl

private theorem Sends.credential?_eq (h : Sends s password) : credential? s = .ok password := by
  cases h with
  | userPassword kind => rw [credential?, kind]
  | accessToken kind => rw [credential?, kind]
  | anonymous kind => rw [credential?, kind]

private theorem credential?_of_unsupported
    (h : s.authKind = .serviceAccountKey ∨ s.authKind = .metaData) :
    credential? s = .error (.connectionFailed
      (s.authKind.name ++ " authentication is not supported over the postgres wire")) := by
  rcases h with h | h
  · rw [credential?, h]
  · rw [credential?, h]

private theorem unsupported_or_sends (s : Settings) :
    (s.authKind = .serviceAccountKey ∨ s.authKind = .metaData) ∨ ∃ password, Sends s password := by
  cases hkind : s.authKind with
  | serviceAccountKey => exact .inl (.inl rfl)
  | accessToken => exact .inr ⟨_, .accessToken hkind⟩
  | userPassword => exact .inr ⟨_, .userPassword hkind⟩
  | metaData => exact .inl (.inr rfl)
  | anonymous => exact .inr ⟨_, .anonymous hkind⟩

private theorem Outcome.ofSettings_eq (h : Outcome s r) : ofSettings s = r := by
  cases h with
  | encrypted hscheme => rw [Config.ofSettings_eq, if_pos (isSecure_iff.2 hscheme)]
  | noPort hplain haddress hcolon =>
    rw [ofSettings_of_plain hplain, address_of_noPort haddress hcolon]
    rfl
  | invalidPort hplain haddress hsplit hinvalid =>
    rw [ofSettings_of_plain hplain, address_of_invalidPort haddress hsplit hinvalid]
    rfl
  | timeout hlocated hrefused =>
    rw [hlocated.ofSettings_eq, hrefused]
    rfl
  | unsupported hlocated haccepted hkind =>
    rw [hlocated.ofSettings_eq, haccepted]
    simp only [Except.bind, credential?_of_unsupported hkind]
    rfl
  | built hlocated haccepted hsends =>
    rw [hlocated.ofSettings_eq, haccepted]
    simp only [Except.bind, hsends.credential?_eq]
    rfl

private theorem exists_outcome (s : Settings) : ∃ r, Outcome s r := by
  by_cases hscheme : "grpcs://".toList <+: s.endpoint.toList
  · exact ⟨_, .encrypted hscheme⟩
  · have haddress : IsAddress s.endpoint.toList (withoutScheme s.endpoint.toList) :=
      withoutScheme_eq_iff.1 rfl
    by_cases hcolon : ':' ∈ withoutScheme s.endpoint.toList
    · obtain ⟨host, digits, hsplit⟩ := exists_splitsLast hcolon
      by_cases hport : ∃ port ≤ 65535, Numeral.Denotes digits port
      · obtain ⟨port, hbound, hdigits⟩ := hport
        have hlocated : Locates s (.ofList host) port :=
          ⟨hscheme, ⟨_, digits, haddress, by rwa [String.toList_ofList], hdigits⟩, hbound⟩
        cases htimeout : s.connectTimeout with
        | error e => exact ⟨_, .timeout hlocated htimeout⟩
        | ok seconds =>
          rcases unsupported_or_sends s with hkind | ⟨password, hsends⟩
          · exact ⟨_, .unsupported hlocated htimeout hkind⟩
          · exact ⟨_, .built hlocated htimeout hsends⟩
      · have hinvalid : ∀ n ≤ 65535, ¬ Numeral.Denotes digits n := by simpa using hport
        exact ⟨_, .invalidPort hscheme haddress hsplit hinvalid⟩
    · exact ⟨_, .noPort hscheme haddress hcolon⟩

theorem ofSettings_eq_iff : ofSettings s = r ↔ Outcome s r := by
  constructor
  · intro h
    obtain ⟨r', hr'⟩ := exists_outcome s
    rw [← h, hr'.ofSettings_eq]
    exact hr'
  · intro h
    exact h.ofSettings_eq

private theorem not_encrypted {scheme : String} (h : IsScheme scheme) (address : List Char) :
    ¬ "grpcs://".toList <+: scheme.toList ++ address := by
  rcases h with rfl | rfl | rfl
  · simp
  · simp
  · simp

/-- The last colon in front of a decimal number is the one that the number follows. -/
private theorem splitsLast_toString (host : List Char) (n : Nat) :
    SplitsLast (host ++ ':' :: (toString n).toList) host (toString n).toList := by
  refine ⟨rfl, ?_⟩
  intro hcolon
  have hdigits : (toString n).toList = Nat.toDigits 10 n := Nat.toList_repr
  rw [hdigits] at hcolon
  have hdigit : ':'.isDigit = true := Nat.isDigit_of_mem_toDigits (by decide) (by decide) hcolon
  exact absurd hdigit (by decide)

private theorem locates_of_endpoint {scheme : String} (hscheme : IsScheme scheme)
    (hport : port < 65536)
    (h : s.endpoint = scheme ++ host ++ ":" ++ toString port) : Locates s host port := by
  have hendpoint : s.endpoint.toList =
      scheme.toList ++ (host.toList ++ ':' :: (toString port).toList) := by
    simp [h]
  constructor
  · rw [hendpoint]
    exact not_encrypted hscheme _
  · exact ⟨_, _, .behind hscheme hendpoint, splitsLast_toString host.toList port,
      Numeral.denotes_toString port⟩
  · exact Nat.le_of_lt_succ hport

/-- What comes of every settings value, and the parameters of an endpoint that is written out. -/
theorem ofSettings_outcome :
    (∀ s r, ofSettings s = r ↔ Outcome s r) ∧
    ∀ s scheme host port seconds password, IsScheme scheme → port < 65536 →
      s.endpoint = scheme ++ host ++ ":" ++ toString port → s.connectTimeout = .ok seconds →
      Sends s password → ofSettings s = .ok (assemble s host port seconds password) := by
  constructor
  · intro s r
    exact ofSettings_eq_iff
  · intro s scheme host port seconds password hscheme hport hendpoint htimeout hsends
    have hlocated := locates_of_endpoint hscheme hport hendpoint
    exact ofSettings_eq_iff.2 (.built hlocated htimeout hsends)

end

/-- A host with colons and a scheme of its own behind the scheme. -/
def crowded : Settings where
  authKind := .anonymous
  endpoint := "postgresql://grpc://[::1]:5432"
  dbLocation := "/local"

theorem ofSettings_outcome_crowded :
    crowded.connectTimeout = .ok 10 ∧ Sends crowded none ∧
      ofSettings crowded = .ok
        { host := "grpc://[::1]"
          port := 5432
          database := "/local"
          user := "root"
          password := none
          connectTimeout := 10 } ∧
      ofSettings { crowded with endpoint := "grpcs://h:1" } = .error (.connectionFailed
        "TLS endpoints are not supported over the postgres wire") := by
  obtain ⟨houtcome, hwritten⟩ := ofSettings_outcome
  have htimeout : crowded.connectTimeout = .ok 10 := by decide +kernel
  have hsends : Sends crowded none := .anonymous rfl
  have hendpoint : crowded.endpoint = "postgresql://" ++ "grpc://[::1]" ++ ":" ++ toString 5432 := by
    decide +kernel
  refine ⟨htimeout, hsends, ?_, (houtcome _ _).2 (.encrypted (by decide +kernel))⟩
  exact hwritten crowded "postgresql://" "grpc://[::1]" 5432 10 none (.inr (.inr rfl)) (by decide)
    hendpoint htimeout hsends

end Config

end QueryFrame.Wire
