import QueryFrame.Proofs.Json.Members

/-!
# Records that are written as objects

A record that is read is what the members of its object make of the initial one. It is enough to
say what one member does: the keys that are met take care of themselves, as long as no key of a
field stands there twice.
-/

namespace QueryFrame.Json

variable {σ : Type}

section

variable {fields : List (Field σ)} {m : Member} {ms : List Member} {last : List String × σ}
  {s : Bytes} {name : String} {initial : σ} {document : Part}

theorem isObject_cons_iff {first : Member} {others : List Member} :
    IsObject (first :: others) s ↔ (∀ m ∈ first :: others, m.key.Says m.name) ∧
      s = Bracket.object.opening ::
        (first.bytes ++ (furtherBytes others ++ [Bracket.object.close])) := by
  constructor
  · intro h
    cases h with
    | filled keys => exact ⟨keys, rfl⟩
  · rintro ⟨keys, rfl⟩
    exact .filled keys

theorem isObject_append_cons {front back : List Member} {m : Member}
    (h : IsObject (front ++ m :: back) document.inner) (hfront : front ≠ []) :
    IsObjectUpTo front m.name document.bytes := by
  cases front with
  | nil => exact absurd rfl hfront
  | cons first others =>
    rw [List.cons_append] at h
    obtain ⟨keys, hinner⟩ := isObject_cons_iff.1 h
    have htext : document.bytes = document.before ++ Bracket.object.opening :: (first.bytes ++
        (furtherBytes others ++ ','.toUInt8 :: (m.key.before ++ (m.key.inner ++ (m.key.after ++
          ':'.toUInt8 :: (m.value.bytes ++ (furtherBytes back ++
            Bracket.object.close :: document.after))))))) := by
      simp [Part.bytes, hinner, furtherBytes, Member.bytes]
    rw [htext]
    exact .behind document.blank_before
      (fun n hn => keys n (List.mem_append_left (m :: back) hn)) (keys m (by simp))

theorem finish_plain {p : Bytes → Prop} (r : Except Failure (σ × { l : Bytes // p l })) :
    (r >>= fun found => finish found.2.val >>= fun _ => .ok found.1) =
      plain r >>= fun found => (finish found.2).map fun _ => found.1 := by
  cases r with
  | error e => rfl
  | ok found =>
    show (finish found.2.val >>= fun _ => .ok found.1) = (finish found.2.val).map fun _ => found.1
    cases finish found.2.val <;> rfl

private theorem record_object {x : Except Failure (σ × Bytes)} {ws : Bytes} (hws : Blanks ws)
    (h : plain (members fields [] initial true s) = x) :
    record name fields initial (ws ++ '\x7b'.toUInt8 :: s) =
      x >>= fun found => (finish found.2).map fun _ => found.1 := by
  obtain ⟨hlength, hnext⟩ := next?_append hws (b := '\x7b'.toUInt8) (by decide) s
  rw [record, hnext, ← h, ← finish_plain]
  exact if_pos rfl

theorem record_reads (hobject : IsObject ms document.inner)
    (h : Run fields ms ([], initial) last) :
    record name fields initial document.bytes = .ok last.2 := by
  have hmembers : ∃ s, document.inner = '\x7b'.toUInt8 :: s ∧
      plain (members fields [] initial true (s ++ document.after)) =
        .ok (last.2, document.after) := by
    cases ms with
    | nil =>
      cases h
      generalize document.inner = inner at hobject
      cases hobject with
      | @empty ws hws =>
        refine ⟨ws ++ [Bracket.object.close], rfl, ?_⟩
        rw [List.append_assoc]
        exact (members_close hws document.after).plain
    | cons first others =>
      obtain ⟨keys, hinner⟩ := isObject_cons_iff.1 hobject
      obtain ⟨ws, hws, hstart⟩ := members_start h keys (endsMember_close document.after)
      refine ⟨_, hinner, ?_⟩
      rw [List.append_assoc, List.append_assoc]
      exact hstart.trans (members_close hws document.after).plain
  obtain ⟨s, hinner, hread⟩ := hmembers
  rw [Part.bytes, hinner, List.cons_append, record_object document.blank_before hread]
  show (finish document.after).map _ = _
  rw [finish_blanks document.blank_after]
  rfl

/-- A record is refused at a key that was met before, whatever comes then. -/
theorem record_refused {front : List Member} {key : String} (htext : IsObjectUpTo front key s)
    (h : Run fields front ([], initial) last) (known : ∃ f ∈ fields, f.key = key)
    (hmet : key ∈ last.1) : record name fields initial s = .error (.repeated key) := by
  cases htext with
  | @behind ws first others key name' tail hws keys hkey =>
    obtain ⟨ws', hws', hstart⟩ := members_start h keys
      (endsMember_comma (key.before ++ (key.inner ++ tail)))
    rw [members_repeated hkey known hmet hws'] at hstart
    exact record_object hws hstart

end

/-! ### From one step to a run -/

section

variable {fields : List (Field σ)} {m : Member} {ms : List Member} {met : List String} {value : σ}
  {state last : List String × σ}

/-- No key of the list stands before two members. -/
def Once (keys : List String) (ms : List Member) : Prop :=
  ms.Pairwise fun m n => m.name ∈ keys → m.name ≠ n.name

private theorem Step.subset (h : Step fields m state last) : state.1 ⊆ last.1 := by
  cases h with
  | other => exact List.Subset.refl _
  | field => exact List.subset_cons_self _ _

private theorem Run.subset (h : Run fields ms state last) : state.1 ⊆ last.1 := by
  induction h with
  | nil => exact List.Subset.refl _
  | cons first _ ih => exact List.Subset.trans first.subset ih

private theorem Run.mem_met (h : Run fields ms state last) (hm : m ∈ ms)
    (known : ∃ f ∈ fields, f.key = m.name) : m.name ∈ last.1 := by
  induction h with
  | nil => exact absurd hm List.not_mem_nil
  | @cons n ms state next last first further ih =>
    rcases List.mem_cons.1 hm with rfl | hm
    · cases first with
      | other unknown =>
        obtain ⟨f, hf, hkey⟩ := known
        exact absurd hkey (unknown f hf)
      | field => exact further.subset (List.mem_cons_self ..)
    · exact ih hm

private theorem mem_of_find?_key {f : Field σ} (h : fields.find? (·.key == m.name) = some f) :
    f ∈ fields ∧ f.key = m.name :=
  ⟨List.mem_of_find?_eq_some h, by simpa using List.find?_some h⟩

/-- Where every member can do a step that keeps `Q`, all of them do a run. -/
theorem exists_run {Q : List Member → σ → Prop}
    (other : ∀ m ms value, Q (m :: ms) value → (∀ f ∈ fields, f.key ≠ m.name) →
      IsValue m.value.inner ∧ Q ms value)
    (field : ∀ m ms value f, Q (m :: ms) value → f ∈ fields → f.key = m.name →
      ∃ value', f.Puts m.value.inner value value' ∧ Q ms value')
    (once : Once (fields.map Field.key) ms)
    (fresh : ∀ m ∈ ms, m.name ∈ fields.map Field.key → m.name ∉ met) (h : Q ms value) :
    ∃ met' value', Run fields ms (met, value) (met', value') ∧ Q [] value' := by
  -- `Q` speaks of the members to come, so it loses its first member with each step.
  induction ms generalizing met value with
  | nil => exact ⟨met, value, .nil, h⟩
  | cons m ms ih =>
    obtain ⟨hm, once⟩ := List.pairwise_cons.1 once
    cases hfind : fields.find? (·.key == m.name) with
    | none =>
      have unknown : ∀ f ∈ fields, f.key ≠ m.name := by simpa using hfind
      obtain ⟨hvalue, h⟩ := other m ms value h unknown
      obtain ⟨met', value', hrun, hlast⟩ :=
        ih once (fun n hn => fresh n (List.mem_cons_of_mem m hn)) h
      exact ⟨met', value', .cons (.other unknown hvalue) hrun, hlast⟩
    | some f =>
      obtain ⟨hf, hkey⟩ := mem_of_find?_key hfind
      have known : m.name ∈ fields.map Field.key := hkey ▸ List.mem_map_of_mem hf
      obtain ⟨next, hputs, h⟩ := field m ms value f h hf hkey
      have hfresh : ∀ n ∈ ms, n.name ∈ fields.map Field.key → n.name ∉ m.name :: met := by
        intro n hn hknown hmem
        rcases List.mem_cons.1 hmem with heq | hmem
        · exact hm n hn known heq.symm
        · exact fresh n (List.mem_cons_of_mem m hn) hknown hmem
      obtain ⟨met', value', hrun, hlast⟩ := ih once hfresh h
      have hstep := Step.field hfind (fresh m (List.mem_cons_self ..) known) hputs
      exact ⟨met', value', .cons hstep hrun, hlast⟩

/-- What the value of a member must be for it to be read, whatever the record. -/
structure Fits (fields : List (Field σ)) (m : Member) : Prop where
  field : ∀ f ∈ fields, f.key = m.name → ∀ value, ∃ value', f.Puts m.value.inner value value'
  other : (∀ f ∈ fields, f.key ≠ m.name) → IsValue m.value.inner

private theorem exists_run_of_fits (h : ∀ m ∈ ms, Fits fields m)
    (once : Once (fields.map Field.key) ms) (value : σ) :
    ∃ met' value', Run fields ms ([], value) (met', value') := by
  have other : ∀ m ms (value : σ), (∀ n ∈ m :: ms, Fits fields n) →
      (∀ f ∈ fields, f.key ≠ m.name) → IsValue m.value.inner ∧ ∀ n ∈ ms, Fits fields n := by
    intro m ms value h unknown
    exact ⟨(h m (List.mem_cons_self ..)).other unknown,
      fun n hn => h n (List.mem_cons_of_mem m hn)⟩
  have field : ∀ m ms value f, (∀ n ∈ m :: ms, Fits fields n) → f ∈ fields → f.key = m.name →
      ∃ value', f.Puts m.value.inner value value' ∧ ∀ n ∈ ms, Fits fields n := by
    intro m ms value f h hf hkey
    obtain ⟨value', hputs⟩ := (h m (List.mem_cons_self ..)).field f hf hkey value
    exact ⟨value', hputs, fun n hn => h n (List.mem_cons_of_mem m hn)⟩
  obtain ⟨met', value', hrun, -⟩ := exists_run (Q := fun ms _ => ∀ m ∈ ms, Fits fields m) other
    field once (fun _ _ _ => List.not_mem_nil) h
  exact ⟨met', value', hrun⟩

/-- Behind members that are read, one more with the key of a field among them is refused. -/
theorem record_doubled {front : List Member} {name key : String} {initial : σ} {s : Bytes}
    (htext : IsObjectUpTo front key s) (h : ∀ m ∈ front, Fits fields m)
    (once : Once (fields.map Field.key) front) (known : key ∈ fields.map Field.key)
    (hmem : key ∈ front.map Member.name) :
    record name fields initial s = .error (.repeated key) := by
  obtain ⟨f, hf, hkey⟩ := List.mem_map.1 known
  obtain ⟨n, hn, hname⟩ := List.mem_map.1 hmem
  obtain ⟨met, value, hrun⟩ := exists_run_of_fits h once initial
  have hmet : n.name ∈ met := hrun.mem_met hn ⟨f, hf, hkey.trans hname.symm⟩
  exact record_refused htext hrun ⟨f, hf, hkey⟩ (hname ▸ hmet)

end

/-! ### Fields that strings are read into -/

section

variable {p : Part} {text : String}

private theorem string_reads {wanted : String} {ws : Bytes} (h : p.Says text) (hws : Blanks ws)
    (rest : Bytes) : Reads (string wanted (ws ++ (p.inner ++ rest))) text rest := by
  obtain ⟨content, hinner, hspells⟩ := h
  obtain ⟨hlength, hnext⟩ := next?_append hws (b := '"'.toUInt8) (by decide)
    (content ++ '"'.toUInt8 :: rest)
  rw [hinner, quoted_append, string, hnext]
  dsimp only
  rw [if_pos rfl]
  exact Reads.after (text_reads hspells rest)

private theorem choice_reads {α : Type} {known : List (String × α)} {chosen : α} {ws : Bytes}
    (h : p.Says text) (hknown : known.lookup text = some chosen) (hws : Blanks ws)
    (rest : Bytes) : Reads (choice known (ws ++ (p.inner ++ rest))) chosen rest := by
  obtain ⟨content, hinner, hspells⟩ := h
  obtain ⟨hlength, hnext⟩ := next?_append hws (b := '"'.toUInt8) (by decide)
    (content ++ '"'.toUInt8 :: rest)
  have hpick : pick known text = .ok chosen := by rw [pick, hknown]
  rw [hinner, quoted_append, choice, hnext]
  dsimp only
  rw [if_pos rfl]
  apply Yields.bind (Reads.after (text_reads hspells rest))
  rintro ⟨_, left⟩ ⟨rfl, hleft⟩
  dsimp only
  rw [hpick]
  exact yields_ok ⟨rfl, hleft⟩

theorem puts_string {key : String} {put : String → σ → σ} (h : p.Says text) (value : σ) :
    (Field.string key put).Puts p.inner value (put text value) := by
  intro ws rest hws
  apply Yields.map (string_reads h hws rest)
  rintro ⟨_, left⟩ ⟨rfl, hleft⟩
  exact ⟨rfl, hleft⟩

theorem puts_choice {α : Type} {key : String} {known : List (String × α)} {put : α → σ → σ}
    {chosen : α} (h : p.Says text) (hknown : known.lookup text = some chosen) (value : σ) :
    (Field.choice key known put).Puts p.inner value (put chosen value) := by
  intro ws rest hws
  apply Yields.map (choice_reads h hknown hws rest)
  rintro ⟨_, left⟩ ⟨rfl, hleft⟩
  exact ⟨rfl, hleft⟩

end

end QueryFrame.Json
