import QueryFrame.Proofs.Json.Records
import QueryFrame.Proofs.Settings.Admission

/-!
# Settings that are written

A document writes settings if each field stands under its key once, or not at all where it has its
default, among members that nobody asks for. Such a document is read to the settings that it writes,
whatever the order of its members and the spelling of its strings, and no longer once a key is there
twice.
-/

namespace QueryFrame

private theorem AuthKind.lookup_name (kind : AuthKind) :
    AuthKind.named.lookup kind.name = some kind := by
  cases kind <;> decide

private theorem AuthKind.name_inj {a b : AuthKind} (h : a.name = b.name) : a = b := by
  have hlookup := AuthKind.lookup_name a
  rw [h, AuthKind.lookup_name b] at hlookup
  exact (Option.some.inj hlookup).symm

namespace Settings

def knownKeys : List String := ["authKind", "endpoint", "dbLocation", "user", "timeout"]

/-- The texts that settings are written as, under their keys. -/
def texts (s : Settings) : List (String × String) :=
  [("authKind", s.authKind.name), ("endpoint", s.endpoint), ("dbLocation", s.dbLocation),
    ("user", s.user), ("timeout", s.timeout)]

/-- What a key that is left out stands for. -/
def defaultTexts : List (String × String) :=
  [("authKind", "ServiceAccountKey"), ("endpoint", ""), ("dbLocation", ""), ("user", ""),
    ("timeout", "10")]

/-- The members of an object that the settings may be saved as. -/
structure Writes (s : Settings) (ms : List Json.Member) : Prop where
  once : Json.Once knownKeys ms
  texts : ∀ m ∈ ms, ∀ text, (m.name, text) ∈ s.texts → m.value.Says text
  others : ∀ m ∈ ms, m.name ∉ knownKeys → Json.IsValue m.value.inner
  defaults : ∀ key text, (key, text) ∈ s.texts → key ∉ ms.map Json.Member.name →
    (key, text) ∈ defaultTexts

/-- The member holds something that settings may have under its key. -/
structure Fits (m : Json.Member) : Prop where
  known : m.name ∈ knownKeys → ∃ (s : Settings) (text : String),
    (m.name, text) ∈ s.texts ∧ m.value.Says text
  other : m.name ∉ knownKeys → Json.IsValue m.value.inner

/-- The settings have the text under the key, and all else as before. -/
structure ChangedAt (key text : String) (r r' : Settings) : Prop where
  here : (key, text) ∈ r'.texts
  elsewhere : ∀ p ∈ r.texts, p.1 ≠ key → p ∈ r'.texts
  secrets : r'.secrets = r.secrets
  queryTimeout : r'.queryTimeout = r.queryTimeout

/-- What the settings read so far lack, the members still write. -/
structure Completes (s : Settings) (ms : List Json.Member) (r : Settings) : Prop where
  texts : ∀ m ∈ ms, ∀ text, (m.name, text) ∈ s.texts → m.value.Says text
  others : ∀ m ∈ ms, m.name ∉ knownKeys → Json.IsValue m.value.inner
  done : ∀ key text, (key, text) ∈ s.texts → key ∉ ms.map Json.Member.name → (key, text) ∈ r.texts
  secrets : r.secrets = s.secrets
  queryTimeout : r.queryTimeout = s.queryTimeout

section

variable {s r : Settings} {m : Json.Member} {ms front back : List Json.Member} {key text : String}
  {f : Json.Field Settings} {p : Json.Part}

private theorem mem_knownKeys_iff_field : key ∈ knownKeys ↔ ∃ f ∈ documentFields, f.key = key := by
  have hkeys : documentFields.map Json.Field.key = knownKeys := rfl
  rw [← hkeys, List.mem_map]

private theorem not_mem_knownKeys (unknown : ∀ f ∈ documentFields, f.key ≠ key) :
    key ∉ knownKeys := by
  intro hmem
  obtain ⟨f, hf, hkey⟩ := mem_knownKeys_iff_field.1 hmem
  exact unknown f hf hkey

private theorem mem_knownKeys_iff : key ∈ knownKeys ↔ ∃ text, (key, text) ∈ s.texts := by
  have hkeys : s.texts.map Prod.fst = knownKeys := rfl
  simp [← hkeys]

private theorem text_unique {text' : String} (h : (key, text) ∈ s.texts)
    (h' : (key, text') ∈ s.texts) :
    text' = text := by
  simp only [texts, List.mem_cons, Prod.mk.injEq, List.not_mem_nil, or_false] at h h'
  rcases h with ⟨rfl, rfl⟩ | ⟨rfl, rfl⟩ | ⟨rfl, rfl⟩ | ⟨rfl, rfl⟩ | ⟨rfl, rfl⟩ <;>
    simpa using h'

private theorem eq_of_texts (h : ∀ p ∈ s.texts, p ∈ r.texts) (hsecrets : r.secrets = s.secrets)
    (htimeout : r.queryTimeout = s.queryTimeout) : r = s := by
  obtain ⟨kind, endpoint, dbLocation, user, timeout, secrets, queryTimeout⟩ := s
  simp only [texts, List.mem_cons, List.not_mem_nil, or_false, forall_eq_or_imp, Prod.mk.injEq,
    true_and, String.reduceEq, false_and, or_self, false_or, forall_eq] at h
  obtain ⟨hkind, rfl, rfl, rfl, rfl⟩ := h
  obtain rfl := AuthKind.name_inj hkind
  subst hsecrets htimeout
  rfl

private theorem puts_changedAt (hf : f ∈ documentFields) (htext : (f.key, text) ∈ s.texts)
    (h : p.Says text) (r : Settings) : ∃ r', f.Puts p.inner r r' ∧ ChangedAt f.key text r r' := by
  simp only [documentFields, List.mem_cons, List.not_mem_nil, or_false] at hf
  rcases hf with rfl | rfl | rfl | rfl | rfl
  · simp only [texts, Json.Field.choice, List.mem_cons, Prod.mk.injEq, true_and, String.reduceEq,
      false_and, List.not_mem_nil, or_self, or_false] at htext
    subst htext
    refine ⟨_, Json.puts_choice h (AuthKind.lookup_name s.authKind) r, ?_⟩
    constructor <;> simp [texts, Json.Field.choice]
  all_goals
    refine ⟨_, Json.puts_string h r, ?_⟩
    constructor <;> simp [texts, Json.Field.string]

private theorem Completes.tail {r' : Settings} (h : Completes s (m :: ms) r)
    (done : ∀ key text, (key, text) ∈ s.texts → key ∉ ms.map Json.Member.name →
      (key, text) ∈ r'.texts)
    (hsecrets : r'.secrets = r.secrets) (htimeout : r'.queryTimeout = r.queryTimeout) :
    Completes s ms r' where
  texts n hn := h.texts n (List.mem_cons_of_mem m hn)
  others n hn := h.others n (List.mem_cons_of_mem m hn)
  done := done
  secrets := hsecrets.trans h.secrets
  queryTimeout := htimeout.trans h.queryTimeout

private theorem Completes.done_of_ne (h : Completes s (m :: ms) r) (htext : (key, text) ∈ s.texts)
    (hne : key ≠ m.name) (hkeys : key ∉ ms.map Json.Member.name) : (key, text) ∈ r.texts := by
  apply h.done key text htext
  rw [List.map_cons, List.mem_cons, not_or]
  exact ⟨hne, hkeys⟩

/-- A member with the key of a field brings the settings closer to those that are written. -/
private theorem Completes.step (h : Completes s (m :: ms) r) (hf : f ∈ documentFields)
    (hkey : f.key = m.name) : ∃ r', f.Puts m.value.inner r r' ∧ Completes s ms r' := by
  have hknown : m.name ∈ knownKeys := mem_knownKeys_iff_field.2 ⟨f, hf, hkey⟩
  obtain ⟨text, htext⟩ := (mem_knownKeys_iff (s := s)).1 hknown
  have hsays : m.value.Says text := h.texts m (List.mem_cons_self ..) text htext
  obtain ⟨r', hputs, hchanged⟩ := puts_changedAt hf (hkey ▸ htext) hsays r
  refine ⟨r', hputs, h.tail ?_ hchanged.secrets hchanged.queryTimeout⟩
  intro key text' htext' hkeys
  by_cases hm : key = m.name
  · subst hm
    rw [text_unique htext htext', ← hkey]
    exact hchanged.here
  · have hbefore := h.done_of_ne htext' hm hkeys
    exact hchanged.elsewhere _ hbefore (hkey ▸ hm)

private theorem Completes.other (h : Completes s (m :: ms) r) (hknown : m.name ∉ knownKeys) :
    Completes s ms r := by
  apply h.tail _ rfl rfl
  intro key text htext hkeys
  have hne : key ≠ m.name := by
    rintro rfl
    exact hknown (mem_knownKeys_iff.2 ⟨text, htext⟩)
  exact h.done_of_ne htext hne hkeys

theorem Writes.run (h : Writes s ms) (hsecrets : s.secrets = {})
    (htimeout : s.queryTimeout = .ofSeconds 60) :
    ∃ met, Json.Run documentFields ms ([], {}) (met, s) := by
  have other : ∀ m ms (r : Settings), Completes s (m :: ms) r →
      (∀ f ∈ documentFields, f.key ≠ m.name) →
      Json.IsValue m.value.inner ∧ Completes s ms r := by
    intro m ms r h unknown
    have hknown := not_mem_knownKeys unknown
    exact ⟨h.others m (List.mem_cons_self ..) hknown, h.other hknown⟩
  have hstart : Completes s ms {} :=
    ⟨h.texts, h.others, h.defaults, hsecrets.symm, htimeout.symm⟩
  obtain ⟨met, r, hrun, hlast⟩ := Json.exists_run other (fun m ms r f h hf hkey => h.step hf hkey)
    h.once (fun _ _ _ => List.not_mem_nil) hstart
  obtain rfl := eq_of_texts (fun p hp => hlast.done p.1 p.2 hp List.not_mem_nil) hlast.secrets
    hlast.queryTimeout
  exact ⟨met, hrun⟩

private theorem Fits.reads (h : Fits m) : Json.Fits documentFields m where
  field f hf hkey r := by
    have hknown : m.name ∈ knownKeys := mem_knownKeys_iff_field.2 ⟨f, hf, hkey⟩
    obtain ⟨s, text, htext, hsays⟩ := h.known hknown
    obtain ⟨r', hputs, -⟩ := puts_changedAt hf (hkey ▸ htext) hsays r
    exact ⟨r', hputs⟩
  other unknown := h.other (not_mem_knownKeys unknown)

private theorem Writes.fits (h : Writes s ms) (hm : m ∈ ms) : Fits m := by
  refine ⟨?_, h.others m hm⟩
  intro hknown
  obtain ⟨text, htext⟩ := (mem_knownKeys_iff (s := s)).1 hknown
  exact ⟨s, text, htext, h.texts m hm text htext⟩

variable {document : Json.Part}

theorem ofDocument_repeated (hobject : Json.IsObject (front ++ m :: back) document.inner)
    (hfront : ∀ n ∈ front, Fits n) (once : Json.Once knownKeys front) (hm : m.name ∈ knownKeys)
    (hmem : m.name ∈ front.map Json.Member.name) :
    ofDocument document.bytes = .error (.repeated m.name) := by
  have hfilled : front ≠ [] := by
    rintro rfl
    simp at hmem
  exact Json.record_doubled (Json.isObject_append_cons hobject hfilled)
    (fun n hn => (hfront n hn).reads) once hm hmem

private theorem not_all_isBlankByte (hobject : Json.IsObject ms document.inner) :
    ¬ document.bytes.all isBlankByte := by
  have hinner : '\x7b'.toUInt8 ∈ document.inner := by
    generalize document.inner = inner at hobject
    cases hobject with
    | empty => exact List.mem_cons_self ..
    | filled => exact List.mem_cons_self ..
  have hbytes : '\x7b'.toUInt8 ∈ document.bytes :=
    List.mem_append_right _ (List.mem_append_left _ hinner)
  intro hall
  have hblank := List.all_eq_true.1 hall _ hbytes
  exact absurd hblank (by decide)

/-- Of members that write settings, those before a known key and a member with this key itself have
no key twice. -/
private theorem once_insert {n : Json.Member} {between : List Json.Member}
    (once : Json.Once knownKeys (front ++ (between ++ n :: back))) (hname : n.name = m.name)
    (hm : m.name ∈ knownKeys) : Json.Once knownKeys (front ++ m :: between) := by
  simp only [Json.Once, List.pairwise_append, List.pairwise_cons, List.mem_append,
    List.mem_cons] at once ⊢
  obtain ⟨hfront, ⟨hbetween, -, hlast⟩, hcross⟩ := once
  refine ⟨hfront, ⟨?_, hbetween⟩, ?_⟩
  · intro a ha _ heq
    have hsame : a.name = n.name := heq.symm.trans hname.symm
    exact hlast a ha n (.inl rfl) (heq ▸ hm) hsame
  · intro a ha b hb hknown
    rcases hb with rfl | hb
    · exact hname ▸ hcross a ha n (.inr (.inl rfl)) hknown
    · exact hcross a ha b (.inl hb) hknown

theorem ofDocument_written (h : s.Writes ms) (hobject : Json.IsObject ms document.inner)
    (htimeout : s.queryTimeout = .ofSeconds 60) :
    ofDocument document.bytes = .ok { s with secrets := {} } := by
  have hplain : ({ s with secrets := {} } : Settings).Writes ms :=
    ⟨h.once, h.texts, h.others, h.defaults⟩
  obtain ⟨met, hrun⟩ := hplain.run rfl htimeout
  exact Json.record_reads hobject hrun

/-- One more member with the key of a field is refused, or makes the one behind it refused. -/
theorem ofDocument_doubled (h : s.Writes (front ++ back)) (hm : m.name ∈ knownKeys)
    (hobject : Json.IsObject (front ++ m :: back) document.inner)
    (hsecond : m.name ∈ front.map Json.Member.name ∨
      m.name ∈ back.map Json.Member.name ∧ Fits m) :
    ofDocument document.bytes = .error (.repeated m.name) := by
  rcases hsecond with hmem | ⟨hmem, hfits⟩
  · have hfront : ∀ n ∈ front, Fits n := fun n hn => h.fits (List.mem_append_left back hn)
    have once : Json.Once knownKeys front := (List.pairwise_append.1 h.once).1
    exact ofDocument_repeated hobject hfront once hm hmem
  · obtain ⟨n, hn, hname⟩ := List.mem_map.1 hmem
    obtain ⟨between, later, rfl⟩ := List.append_of_mem hn
    have hobject' : Json.IsObject ((front ++ m :: between) ++ n :: later) document.inner := by
      simpa using hobject
    have hfront : ∀ k ∈ front ++ m :: between, Fits k := by
      intro k hk
      rcases List.mem_append.1 hk with hk | hk
      · exact h.fits (List.mem_append_left _ hk)
      · rcases List.mem_cons.1 hk with rfl | hk
        · exact hfits
        · exact h.fits (List.mem_append_right _ (List.mem_append_left _ hk))
    rw [← hname]
    apply ofDocument_repeated hobject' hfront (once_insert h.once hname hm) (hname ▸ hm)
    simp [hname]

/-- Settings are loaded from every document that writes them, with the secrets that are stored. A
second member with the key of one of the fields is refused: behind the first with any value, before
it with a value for the field. -/
theorem load_written (kind : AuthKind) (endpoint dbLocation user timeout : String)
    (store : String → Option String) (secrets : Secrets) (stored : secrets.StoredIn store)
    (s : Settings) (hs : s = { authKind := kind, endpoint, dbLocation, user, timeout, secrets })
    (usable : s.validate = .ok ()) :
    (∀ ms (document : Json.Part), s.Writes ms → Json.IsObject ms document.inner →
      load document.bytes store = .ok s) ∧
    ∀ front back m (document : Json.Part), s.Writes (front ++ back) → m.name ∈ knownKeys →
      Json.IsObject (front ++ m :: back) document.inner →
      (m.name ∈ front.map Json.Member.name ∨ m.name ∈ back.map Json.Member.name ∧ Fits m) →
      ∃ failure, load document.bytes store = .error (.invalidJson failure) ∧
        failure.category = .data ∧ failure.message = "duplicate field `" ++ m.name ++ "`" := by
  obtain rfl := Secrets.storedIn_iff.1 stored
  constructor
  · intro ms document hwrites hobject
    have htimeout : s.queryTimeout = .ofSeconds 60 := by rw [hs]
    have hread := ofDocument_written hwrites hobject htimeout
    have hsecrets : ({ s with secrets := .ofStore store } : Settings) = s := by
      subst hs
      rfl
    rw [load_of_read (not_all_isBlankByte hobject) hread, hsecrets, usable]
    rfl
  · intro front back m document hwrites hm hobject hsecond
    have hread := ofDocument_doubled hwrites hm hobject hsecond
    exact ⟨.repeated m.name, load_of_failure (not_all_isBlankByte hobject) hread, rfl, rfl⟩

end

def reachable : Settings where
  authKind := .userPassword
  endpoint := "h"
  dbLocation := "/😀"
  user := "u"
  secrets := { password := "s3cret" }

/-- Members that write them, and one more. -/
def reachableMembers : List Json.Member :=
  [.bare "dbLocation" (Json.ascii "\"\\/\\uD83d\\uDE00\""),
    .bare "x" (Json.ascii "[null,\x7b\x7d]"), .bare "authKind" (Json.ascii "\"UserPassword\""),
    .bare "endpoint" (Json.ascii "\"h\""), .bare "user" (Json.ascii "\"u\"")]

/-- Their document, with a line break before it and the given text behind the last of them. -/
def reachableDocument (more : String) : Json.Part where
  before := [0x0A]
  inner := Json.ascii ("\x7b\"dbLocation\":\"\\/\\uD83d\\uDE00\",\"x\":[null,\x7b\x7d]," ++
    "\"authKind\":\"UserPassword\",\"endpoint\":\"h\",\"user\":\"u\"" ++ more ++ "\x7d")
  after := []
  blank_before := by simp [Json.Blanks]
  blank_after := Json.Blanks.nil

private theorem says_location :
    (Json.Part.bare (Json.ascii "\"\\/\\uD83d\\uDE00\"")).Says reachable.dbLocation := by
  have hslash : Json.SpellsChar '/' ['\\'.toUInt8, '/'.toUInt8] :=
    .letter (by decide : ('/', '/') ∈ Json.letters)
  have hhigh : Json.IsUnit (Json.ascii "D83d") (((13 * 16 + 8) * 16 + 3) * 16 + 13) :=
    .digits ⟨by decide, .inr rfl⟩ ⟨by decide, .inl rfl⟩ ⟨by decide, .inl rfl⟩ ⟨by decide, .inl rfl⟩
  have hlow : Json.IsUnit (Json.ascii "DE00") (((13 * 16 + 14) * 16 + 0) * 16 + 0) :=
    .digits ⟨by decide, .inr rfl⟩ ⟨by decide, .inr rfl⟩ ⟨by decide, .inl rfl⟩ ⟨by decide, .inl rfl⟩
  have hface := Json.SpellsChar.pair (c := '😀') hhigh hlow (by decide) (by decide) (by decide)
  exact ⟨_, by decide, .cons hslash (.cons hface .nil)⟩

private theorem isValue_extra : Json.IsValue (Json.ascii "[null,\x7b\x7d]") := by
  have hempty : Json.IsValue (Json.ascii "\x7b\x7d") := .empty .object Json.Blanks.nil
  let cells : List Json.Cell :=
    [⟨[], .bare (Json.ascii "null")⟩, ⟨[], .bare (Json.ascii "\x7b\x7d")⟩]
  have fronts : ∀ c ∈ cells, Json.IsFront .list c.front := by simpa [cells] using Json.IsFront.list
  have values : ∀ c ∈ cells, Json.IsValue c.value.inner := by
    simpa [cells] using ⟨Json.IsValue.null, hempty⟩
  exact .filled .list fronts values

private theorem writes_reachable : reachable.Writes reachableMembers := by
  refine ⟨by simp [Json.Once, reachableMembers, Json.Member.bare], ?_, ?_, ?_⟩
  · intro m hm text htext
    simp only [reachableMembers, List.mem_cons, List.not_mem_nil, or_false] at hm
    rcases hm with rfl | rfl | rfl | rfl | rfl
    · obtain rfl : text = reachable.dbLocation := by simpa [texts, Json.Member.bare] using htext
      exact says_location
    · simp [texts, Json.Member.bare] at htext
    · obtain rfl : text = "UserPassword" := by
        simpa [texts, Json.Member.bare, reachable, AuthKind.name] using htext
      exact Json.says_unescaped (s := "UserPassword") (by decide)
    · obtain rfl : text = "h" := by simpa [texts, Json.Member.bare, reachable] using htext
      exact Json.says_unescaped (s := "h") (by decide)
    · obtain rfl : text = "u" := by simpa [texts, Json.Member.bare, reachable] using htext
      exact Json.says_unescaped (s := "u") (by decide)
  · intro m hm hother
    simp only [reachableMembers, List.mem_cons, List.not_mem_nil, or_false] at hm
    rcases hm with rfl | rfl | rfl | rfl | rfl
    · exact absurd (by decide) hother
    · exact isValue_extra
    · exact absurd (by decide) hother
    · exact absurd (by decide) hother
    · exact absurd (by decide) hother
  · intro key text htext hkey
    simp_all [texts, reachable, reachableMembers, Json.Member.bare, defaultTexts]

def passwordStore (key : String) : Option String := [("password", "s3cret")].lookup key

theorem load_written_reachable :
    reachable.secrets.StoredIn passwordStore ∧
      load (reachableDocument "").bytes passwordStore = .ok reachable ∧
      ∃ failure, load (reachableDocument ",\"endpoint\":7").bytes passwordStore =
        .error (.invalidJson failure) ∧
          failure.category = .data ∧ failure.message = "duplicate field `endpoint`" := by
  have keys : ∀ m ∈ reachableMembers ++ [.bare "endpoint" (Json.ascii "7")],
      m.key.Says m.name := by
    intro m hm
    simp only [reachableMembers, List.cons_append, List.nil_append, List.mem_cons,
      List.not_mem_nil, or_false] at hm
    rcases hm with rfl | rfl | rfl | rfl | rfl | rfl <;> exact Json.says_unescaped (by decide)
  have hobject : Json.IsObject reachableMembers (reachableDocument "").inner :=
    Json.isObject_cons_iff.2 ⟨fun m hm => keys m (List.mem_append_left _ hm), by decide +kernel⟩
  have hdoubled : Json.IsObject (reachableMembers ++ [.bare "endpoint" (Json.ascii "7")])
      (reachableDocument ",\"endpoint\":7").inner :=
    Json.isObject_cons_iff.2 ⟨keys, by decide +kernel⟩
  have hstored : reachable.secrets.StoredIn passwordStore := ⟨rfl, rfl, rfl, rfl⟩
  obtain ⟨hload, hrefuse⟩ := load_written .userPassword "h" "/😀" "u" "10" passwordStore
    reachable.secrets hstored reachable rfl (by decide +kernel)
  have hwrites : reachable.Writes (reachableMembers ++ []) := writes_reachable
  exact ⟨hstored, hload _ _ writes_reachable hobject,
    hrefuse _ _ _ _ hwrites (by decide) hdoubled (.inl (by decide))⟩

end Settings

end QueryFrame
