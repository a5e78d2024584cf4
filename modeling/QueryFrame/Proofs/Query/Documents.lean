import QueryFrame.Proofs.Json.Elements
import QueryFrame.Proofs.Traversal
import QueryFrame.Query

/-!
# Documents of queries

A document encodes a query's identifier and its SQL if each of the two is a string under its key, or
is empty and left out, among members that nobody asks for, or if they are the strings of a list that
leaves out only what is empty at its end. Such a document is read to what it encodes, however its
strings are spelled. A second member with one of the two keys is refused at its key.
-/

namespace QueryFrame.Query

def knownKeys : List String := ["refId", "rawSql"]

/-- What the identifier and the SQL read so far lack of the given ones, the members still say. -/
structure Encodes (target : String × String) (ms : List Json.Member) (read : String × String) :
    Prop where
  refId : ∀ m ∈ ms, m.name = "refId" → m.value.Says target.1
  rawSql : ∀ m ∈ ms, m.name = "rawSql" → m.value.Says target.2
  others : ∀ m ∈ ms, m.name ∉ knownKeys → Json.IsValue m.value.inner
  refId_read : "refId" ∉ ms.map Json.Member.name → read.1 = target.1
  rawSql_read : "rawSql" ∉ ms.map Json.Member.name → read.2 = target.2

/-- The member holds a string under the key of a field, or anything under another key. -/
structure Fits (m : Json.Member) : Prop where
  known : m.name ∈ knownKeys → ∃ text, m.value.Says text
  other : m.name ∉ knownKeys → Json.IsValue m.value.inner

section

variable {target read : String × String} {m : Json.Member} {ms : List Json.Member} {key : String}
  {range : TimeRange}

private theorem mem_knownKeys_iff : key ∈ knownKeys ↔ ∃ f ∈ documentFields, f.key = key := by
  have hkeys : documentFields.map Json.Field.key = knownKeys := rfl
  rw [← hkeys, List.mem_map]

private theorem not_mem_knownKeys (unknown : ∀ f ∈ documentFields, f.key ≠ key) :
    key ∉ knownKeys := by
  intro hmem
  obtain ⟨f, hf, hkey⟩ := mem_knownKeys_iff.1 hmem
  exact unknown f hf hkey

private theorem Encodes.other (h : Encodes target (m :: ms) read) (hm : m.name ∉ knownKeys) :
    Encodes target ms read := by
  simp only [knownKeys, List.mem_cons, List.not_mem_nil, or_false, not_or] at hm
  obtain ⟨hrefId, hrawSql⟩ := hm
  refine ⟨fun n hn => h.refId n (List.mem_cons_of_mem m hn),
    fun n hn => h.rawSql n (List.mem_cons_of_mem m hn),
    fun n hn => h.others n (List.mem_cons_of_mem m hn), fun hkeys => h.refId_read ?_,
    fun hkeys => h.rawSql_read ?_⟩
  · simpa [Ne.symm hrefId] using hkeys
  · simpa [Ne.symm hrawSql] using hkeys

/-- A member with the key of a field brings what is read closer to what is encoded. -/
private theorem Encodes.field {f : Json.Field (String × String)} (h : Encodes target (m :: ms) read)
    (hf : f ∈ documentFields) (hkey : f.key = m.name) :
    ∃ read', f.Puts m.value.inner read read' ∧ Encodes target ms read' := by
  have hrefId := fun n hn => h.refId n (List.mem_cons_of_mem m hn)
  have hrawSql := fun n hn => h.rawSql n (List.mem_cons_of_mem m hn)
  have hothers := fun n hn => h.others n (List.mem_cons_of_mem m hn)
  simp only [documentFields, List.mem_cons, List.not_mem_nil, or_false] at hf
  rcases hf with rfl | rfl
  · have hname : m.name = "refId" := hkey.symm
    have hspelled := h.refId m (List.mem_cons_self ..) hname
    refine ⟨_, Json.puts_string hspelled read, hrefId, hrawSql, hothers, fun _ => rfl, ?_⟩
    intro hkeys
    exact h.rawSql_read (by simpa [hname] using hkeys)
  · have hname : m.name = "rawSql" := hkey.symm
    have hspelled := h.rawSql m (List.mem_cons_self ..) hname
    refine ⟨_, Json.puts_string hspelled read, hrefId, hrawSql, hothers, ?_, fun _ => rfl⟩
    intro hkeys
    exact h.refId_read (by simpa [hname] using hkeys)

private theorem Encodes.run (h : Encodes target ms read) (once : Json.Once knownKeys ms) :
    ∃ met, Json.Run documentFields ms ([], read) (met, target) := by
  have other : ∀ m ms (read : String × String), Encodes target (m :: ms) read →
      (∀ f ∈ documentFields, f.key ≠ m.name) →
      Json.IsValue m.value.inner ∧ Encodes target ms read := by
    intro m ms read h unknown
    have hm := not_mem_knownKeys unknown
    exact ⟨h.others m (List.mem_cons_self ..) hm, h.other hm⟩
  obtain ⟨met, last, hrun, hlast⟩ := Json.exists_run other
    (fun m ms read f h hf hkey => h.field hf hkey) once (fun _ _ _ => List.not_mem_nil) h
  obtain rfl : last = target :=
    Prod.ext (hlast.refId_read List.not_mem_nil) (hlast.rawSql_read List.not_mem_nil)
  exact ⟨met, hrun⟩

private theorem Fits.reads (h : Fits m) : Json.Fits documentFields m where
  field f hf hkey read := by
    have hknown : m.name ∈ knownKeys := mem_knownKeys_iff.2 ⟨f, hf, hkey⟩
    obtain ⟨text, hspelled⟩ := h.known hknown
    simp only [documentFields, List.mem_cons, List.not_mem_nil, or_false] at hf
    rcases hf with rfl | rfl
    · exact ⟨_, Json.puts_string hspelled read⟩
    · exact ⟨_, Json.puts_string hspelled read⟩
  other unknown := h.other (not_mem_knownKeys unknown)

private theorem fills_documentFields {refId rawSql : String} {ps : List Json.Part}
    {texts : List String} {missing : Nat} (hspelled : List.Forall₂ Json.Part.Says ps texts)
    (htexts : texts ++ List.replicate missing "" = [refId, rawSql]) :
    Json.Fills documentFields ps ("", "") (refId, rawSql) := by
  have hlength : texts.length + missing = 2 := by simpa using congrArg List.length htexts
  cases hspelled with
  | nil =>
    obtain rfl : missing = 2 := by simpa using hlength
    obtain ⟨rfl, rfl⟩ : "" = refId ∧ "" = rawSql := by simpa using htexts
    exact .nil
  | @cons p _ ps _ hp hspelled =>
    cases hspelled with
    | nil =>
      obtain rfl : missing = 1 := by simpa [Nat.add_comm] using hlength
      obtain ⟨rfl, rfl⟩ : _ = refId ∧ "" = rawSql := by simpa using htexts
      exact .cons (Json.puts_string hp ("", "")) .nil
    | @cons q _ qs _ hq hspelled =>
      cases hspelled with
      | nil =>
        obtain rfl : missing = 0 := by simpa using hlength
        obtain ⟨rfl, rfl⟩ : _ = refId ∧ _ = rawSql := by simpa using htexts
        exact .cons (Json.puts_string hp ("", "")) (.cons (Json.puts_string hq (_, "")) .nil)
      | cons =>
        simp only [List.length_cons] at hlength
        omega

private theorem ofDocument_of_read {refId rawSql : String} {text : Json.Bytes}
    (h : Json.record "QueryModel" documentFields ("", "") text = .ok (refId, rawSql)) :
    ofDocument text range = .ok ⟨refId, rawSql, range⟩ := by
  rw [ofDocument, h]

private theorem ofDocument_of_failure {text : Json.Bytes} {failure : Json.Failure}
    (h : Json.record "QueryModel" documentFields ("", "") text = .error failure) :
    ofDocument text range = .error (.invalidJson failure) := by
  rw [ofDocument, h]

/-- A query is read from every document that encodes it, as an object or as a list. An object that
is well-formed up to a second member with one of the query's keys is refused. -/
theorem ofDocument_encoded (refId rawSql : String) (range : TimeRange) :
    (∀ ms (document : Json.Part), Json.IsObject ms document.inner → Json.Once knownKeys ms →
      Encodes (refId, rawSql) ms ("", "") →
      ofDocument document.bytes range = .ok ⟨refId, rawSql, range⟩) ∧
    (∀ ps texts missing (document : Json.Part), Json.IsList ps document.inner →
      List.Forall₂ Json.Part.Says ps texts →
      texts ++ List.replicate missing "" = [refId, rawSql] →
      ofDocument document.bytes range = .ok ⟨refId, rawSql, range⟩) ∧
    ∀ front key text, Json.IsObjectUpTo front key text → (∀ m ∈ front, Fits m) →
      Json.Once knownKeys front → key ∈ knownKeys → key ∈ front.map Json.Member.name →
      ∃ failure, ofDocument text range = .error (.invalidJson failure) ∧
        failure.category = .data ∧ failure.message = "duplicate field `" ++ key ++ "`" ∧
        (QueryError.invalidJson failure).isBadRequest = true := by
  refine ⟨?_, ?_, ?_⟩
  · intro ms document hobject once hencodes
    obtain ⟨met, hrun⟩ := hencodes.run once
    exact ofDocument_of_read (Json.record_reads hobject hrun)
  · intro ps texts missing document hlist hspelled htexts
    have hall : ∀ p ∈ ps, ∃ text, p.Says text := by
      intro p hp
      obtain ⟨place, hplace⟩ := List.mem_iff_getElem?.1 hp
      obtain ⟨text, -, hp⟩ := exists_getElem?_right hspelled hplace
      exact ⟨text, hp⟩
    exact ofDocument_of_read (Json.record_list_reads hlist hall
      (fills_documentFields hspelled htexts))
  · intro front key text htext hfront once hkey hmem
    exact ⟨.repeated key, ofDocument_of_failure (Json.record_doubled htext
      (fun m hm => (hfront m hm).reads) once hkey hmem), rfl, rfl, rfl⟩

end

/-- Members that encode a query, behind one more. -/
def panelMembers : List Json.Member :=
  [.bare "datasource" (Json.ascii "\x7b\"uid\":[]\x7d"),
    .bare "rawSql" (Json.ascii "\"\\u00e9\\\"\\n\""), .bare "refId" (Json.ascii "\"A\"")]

/-- Their document, with a tabulator and a blank before it. -/
def panel : Json.Part where
  before := [0x09, 0x20]
  inner := Json.ascii ("\x7b\"datasource\":\x7b\"uid\":[]\x7d," ++
    "\"rawSql\":\"\\u00e9\\\"\\n\",\"refId\":\"A\"\x7d")
  after := []
  blank_before := by simp [Json.Blanks]
  blank_after := Json.Blanks.nil

private theorem says_rawSql : (Json.Part.bare (Json.ascii "\"\\u00e9\\\"\\n\"")).Says "é\"\n" := by
  have hunit : Json.IsUnit (Json.ascii "00e9") (((0 * 16 + 0) * 16 + 14) * 16 + 9) :=
    .digits ⟨by decide, .inl rfl⟩ ⟨by decide, .inl rfl⟩ ⟨by decide, .inl rfl⟩ ⟨by decide, .inl rfl⟩
  have hquote : Json.SpellsChar '"' ['\\'.toUInt8, '"'.toUInt8] :=
    .letter (by decide : ('"', '"') ∈ Json.letters)
  have hline : Json.SpellsChar '\n' ['\\'.toUInt8, 'n'.toUInt8] :=
    .letter (by decide : ('n', '\n') ∈ Json.letters)
  exact ⟨_, by decide, .cons (.unit (c := 'é') hunit) (.cons hquote (.cons hline .nil))⟩

private theorem isValue_datasource : Json.IsValue (Json.ascii "\x7b\"uid\":[]\x7d") := by
  have hlist : Json.IsValue (Json.ascii "[]") := .empty .list Json.Blanks.nil
  have hcontent : Json.IsContent (Json.ascii "uid") :=
    .plain (by decide) (by decide) (by decide) (.plain (by decide) (by decide) (by decide)
      (.plain (by decide) (by decide) (by decide) .nil))
  let key : Json.Part := .bare (Json.quoted (Json.ascii "uid"))
  have hfront : Json.IsFront .object (key.bytes ++ [':'.toUInt8]) := .object rfl hcontent
  let cells : List Json.Cell := [⟨key.bytes ++ [':'.toUInt8], .bare (Json.ascii "[]")⟩]
  have fronts : ∀ c ∈ cells, Json.IsFront .object c.front := List.forall_mem_singleton.2 hfront
  have values : ∀ c ∈ cells, Json.IsValue c.value.inner := List.forall_mem_singleton.2 hlist
  exact .filled .object fronts values

private theorem says_refId : (Json.Part.bare (Json.ascii "\"A\"")).Says "A" :=
  Json.says_unescaped (s := "A") (by decide)

private theorem encodes_panel : Encodes ("A", "é\"\n") panelMembers ("", "") := by
  refine ⟨?_, ?_, ?_, by simp [panelMembers, Json.Member.bare],
    by simp [panelMembers, Json.Member.bare]⟩
  · simpa [panelMembers, Json.Member.bare] using says_refId
  · simpa [panelMembers, Json.Member.bare] using says_rawSql
  · simpa [panelMembers, Json.Member.bare, knownKeys, Json.Part.bare] using isValue_datasource

private theorem keys_panel : ∀ m ∈ panelMembers, m.key.Says m.name := by
  intro m hm
  simp only [panelMembers, List.mem_cons, List.not_mem_nil, or_false] at hm
  rcases hm with rfl | rfl | rfl <;> exact Json.says_unescaped (by decide)

theorem ofDocument_encoded_panel :
    ofDocument panel.bytes ⟨.midnight 0, .midnight 1⟩ =
      .ok ⟨"A", "é\"\n", .midnight 0, .midnight 1⟩ ∧
    ofDocument (Json.ascii "[\"A\"]") ⟨.midnight 0, .midnight 1⟩ =
      .ok ⟨"A", "", .midnight 0, .midnight 1⟩ ∧
    ∃ failure, ofDocument (Json.ascii "\x7b\"refId\":\"A\",\"refId\"")
        ⟨.midnight 0, .midnight 1⟩ = .error (.invalidJson failure) ∧
      failure.category = .data ∧ failure.message = "duplicate field `refId`" := by
  have hpanel : Json.IsObject panelMembers panel.inner :=
    Json.isObject_cons_iff.2 ⟨keys_panel, by decide +kernel⟩
  have honce : Json.Once knownKeys panelMembers := by
    simp [Json.Once, panelMembers, Json.Member.bare]
  have hlist : Json.IsList [.bare (Json.ascii "\"A\"")] (Json.ascii "[\"A\"]") := .filled
  let member : Json.Member := .bare "refId" (Json.ascii "\"A\"")
  have hkey : member.key.Says "refId" := Json.says_unescaped (by decide)
  have hcut : Json.IsObjectUpTo [member] "refId"
      (Json.ascii "\x7b\"refId\":\"A\",\"refId\"") :=
    @Json.IsObjectUpTo.behind [] member [] member.key "refId" [] Json.Blanks.nil
      (List.forall_mem_singleton.2 hkey) hkey
  have hfits : Fits member := ⟨fun _ => ⟨"A", says_refId⟩, fun h => absurd (by decide) h⟩
  obtain ⟨hobjects, -, hrefused⟩ := ofDocument_encoded "A" "é\"\n" ⟨.midnight 0, .midnight 1⟩
  obtain ⟨-, hlists, -⟩ := ofDocument_encoded "A" "" ⟨.midnight 0, .midnight 1⟩
  obtain ⟨failure, hfailure, hcategory, hmessage, -⟩ := hrefused [member] "refId" _ hcut
    (List.forall_mem_singleton.2 hfits) (List.pairwise_singleton _ _) (by decide) (by decide)
  exact ⟨hobjects _ panel hpanel honce encodes_panel,
    hlists _ ["A"] 1 (.bare (Json.ascii "[\"A\"]")) hlist (.cons says_refId .nil) rfl,
    failure, hfailure, hcategory, hmessage⟩

end QueryFrame.Query
