import QueryFrame.Json.Record
import QueryFrame.Proofs.Json.Skipping

/-!
# Members of objects

What the members of an object do to a record, one after the other. A member with the key of a field
puts a value into the record and is refused when the key was met before; every other member does
nothing.
-/

namespace QueryFrame.Json

def Part.Says (p : Part) (text : String) : Prop :=
  ∃ content, p.inner = quoted content ∧ Spells text.toList content

/-- A member of an object: its name, and its key and its value as they are written. -/
structure Member where
  name : String
  key : Part
  value : Part

def Member.bare (name : String) (value : Bytes) : Member :=
  ⟨name, .bare (quoted (name.toList.flatMap String.utf8EncodeChar)), .bare value⟩

theorem says_unescaped {s : String} (h : s.toList.all isUnescaped) :
    (Part.bare (quoted (s.toList.flatMap String.utf8EncodeChar))).Says s :=
  ⟨_, rfl, spells_unescaped h⟩

def Member.bytes (m : Member) : Bytes := m.key.bytes ++ ':'.toUInt8 :: m.value.bytes

def furtherBytes (ms : List Member) : Bytes := ms.flatMap fun m => ','.toUInt8 :: m.bytes

inductive IsObject : List Member → Bytes → Prop
  | empty {ws : Bytes} (h : Blanks ws) :
      IsObject [] (Bracket.object.opening :: (ws ++ [Bracket.object.close]))
  | filled {first : Member} {others : List Member}
      (keys : ∀ m ∈ first :: others, m.key.Says m.name) :
      IsObject (first :: others) (Bracket.object.opening ::
        (first.bytes ++ (furtherBytes others ++ [Bracket.object.close])))

/-- The text is that of an object as far as the key of a member behind the given ones. -/
inductive IsObjectUpTo : List Member → String → Bytes → Prop
  | behind {ws : Bytes} {first : Member} {others : List Member} {key : Part} {name : String}
      {tail : Bytes} (blank : Blanks ws) (keys : ∀ m ∈ first :: others, m.key.Says m.name)
      (hkey : key.Says name) :
      IsObjectUpTo (first :: others) name (ws ++ Bracket.object.opening :: (first.bytes ++
        (furtherBytes others ++ ','.toUInt8 :: (key.before ++ (key.inner ++ tail)))))

variable {σ : Type}

/-- Reading the value brings the first record to the second. -/
def Field.Puts (f : Field σ) (v : Bytes) (value value' : σ) : Prop :=
  ∀ ws rest, Blanks ws → Reads (f.read value (ws ++ (v ++ rest))) value' rest

/-- What a member does to the keys that are met and to the record. -/
inductive Step (fields : List (Field σ)) (m : Member) : List String × σ → List String × σ → Prop
  | other {met : List String} {value : σ} (unknown : ∀ f ∈ fields, f.key ≠ m.name)
      (h : IsValue m.value.inner) : Step fields m (met, value) (met, value)
  | field {met : List String} {value value' : σ} {f : Field σ}
      (known : fields.find? (·.key == m.name) = some f) (fresh : m.name ∉ met)
      (h : f.Puts m.value.inner value value') : Step fields m (met, value) (m.name :: met, value')

/-- What members do one after the other. -/
inductive Run (fields : List (Field σ)) :
    List Member → List String × σ → List String × σ → Prop
  | nil {state : List String × σ} : Run fields [] state state
  | cons {m : Member} {ms : List Member} {state next last : List String × σ}
      (first : Step fields m state next) (further : Run fields ms next last) :
      Run fields (m :: ms) state last

section

variable {fields : List (Field σ)} {m : Member} {ms : List Member} {met : List String} {value : σ}
  {state next last : List String × σ} {s t tail rest ws : Bytes} {b : UInt8}

private theorem Member.bytes_append {content : Bytes} (hkey : m.key.inner = quoted content)
    (tail : Bytes) :
    m.bytes ++ tail = m.key.before ++ '"'.toUInt8 :: (content ++ '"'.toUInt8 ::
      (m.key.after ++ ':'.toUInt8 :: (m.value.before ++ (m.value.inner ++
        (m.value.after ++ tail))))) := by
  simp [Member.bytes, Part.bytes, hkey, quoted]

private theorem member_reads (hkey : m.key.Says m.name) (h : Step fields m (met, value) next)
    (hends : EndsValue (m.value.after ++ tail)) :
    Reads (member fields met value (m.bytes ++ tail)) next (m.value.after ++ tail) := by
  obtain ⟨content, hkey, hspells⟩ := hkey
  rw [Member.bytes_append hkey, member]
  apply Yields.bind (mark_leaves m.key.blank_before (by decide) _)
  rintro ⟨_, hmark⟩ rfl
  apply Yields.bind (Reads.after (text_reads hspells _))
  rintro ⟨_, _, htext⟩ ⟨rfl, rfl⟩
  dsimp only
  cases h with
  | other unknown hvalue =>
    have hnone : fields.find? (·.key == m.name) = none := by
      simpa [List.find?_eq_none] using unknown
    rw [hnone]
    apply Yields.bind (mark_leaves m.key.blank_after (by decide) _)
    rintro ⟨_, hcolon⟩ rfl
    apply Yields.bind (skip_leaves hvalue m.value.blank_before hends)
    intro skipped hskipped
    exact yields_ok ⟨rfl, hskipped⟩
  | field known fresh hputs =>
    rw [known]
    dsimp only
    rw [if_neg fresh]
    apply Yields.bind (mark_leaves m.key.blank_after (by decide) _)
    rintro ⟨_, hcolon⟩ rfl
    apply Yields.bind (Reads.after (hputs _ _ m.value.blank_before))
    rintro ⟨_, read⟩ ⟨rfl, hread⟩
    exact yields_ok ⟨rfl, hread⟩

/-- A member whose key was met before is refused, whatever stands behind the key. -/
theorem member_repeated {key : Part} {name : String} (hkey : key.Says name)
    (known : ∃ f ∈ fields, f.key = name) (hmet : name ∈ met) :
    member fields met value (key.before ++ (key.inner ++ tail)) = .error (.repeated name) := by
  obtain ⟨content, hkey, hspells⟩ := hkey
  have hsome : (fields.find? (·.key == name)).isSome := by
    simpa [List.find?_isSome] using known
  obtain ⟨f, hf⟩ := Option.isSome_iff_exists.1 hsome
  rw [hkey, quoted_append, member]
  apply Yields.bind_eq (mark_leaves key.blank_before (by decide) _)
  rintro ⟨_, hmark⟩ rfl
  apply Yields.bind_eq (Reads.after (text_reads hspells _))
  rintro ⟨_, rest⟩ ⟨rfl, -⟩
  dsimp only
  rw [hf]
  exact if_pos hmet

end

/-! ### Readings with nothing said about the length of what is left -/

section

variable {α β : Type} {p : Bytes → Prop} {q : β → Prop}
  {r : Except Failure (α × { l : Bytes // p l })}

def plain (r : Except Failure (α × { l : Bytes // p l })) : Except Failure (α × Bytes) :=
  r.map fun found => (found.1, found.2.val)

theorem Reads.plain {value : α} {left : Bytes} (h : Reads r value left) :
    plain r = .ok (value, left) := by
  obtain ⟨found, rfl, rfl, rfl⟩ := h
  rfl

theorem plain_bind_eq {r : Except Failure β} {f : β → Except Failure (α × { l : Bytes // p l })}
    {x : Except Failure (α × Bytes)} (h : Yields r q) (hf : ∀ b, q b → Json.plain (f b) = x) :
    Json.plain (r >>= f) = x := by
  obtain ⟨b, rfl, hb⟩ := h
  exact hf b hb

end

section

variable {fields : List (Field σ)} {m : Member} {ms : List Member} {met : List String} {value : σ}
  {next last : List String × σ} {s t tail rest ws : Bytes} {b : UInt8}

private theorem members_eq (fields : List (Field σ)) (met : List String) (value : σ)
    (atStart : Bool) (s : Bytes) :
    members fields met value atStart s =
      match next? s with
      | none => .error .truncated
      | some (b, rest) =>
        if b = '\x7d'.toUInt8 then .ok (value, rest)
        else do
          let left ← separator atStart s
          let ((met, value), rest) ← member fields met value left.val
          let (value, last) ← members fields met value false rest.val
          return (value, ⟨last.val, Nat.lt_of_lt_of_le last.property (left.of rest.left).property⟩)
    :=
  (members.eq_def fields met value atStart s).trans rfl

theorem members_close {atStart : Bool} (hws : Blanks ws) (rest : Bytes) :
    Reads (members fields met value atStart (ws ++ '\x7d'.toUInt8 :: rest)) value rest := by
  obtain ⟨hlength, hnext⟩ := next?_append hws (b := '\x7d'.toUInt8) (by decide) rest
  rw [members_eq, hnext]
  dsimp only
  rw [if_pos rfl]
  exact yields_ok ⟨rfl, rfl⟩

private theorem members_step {atStart : Bool} (hnext : ∃ h, next? s = some (b, ⟨t, h⟩))
    (hb : b ≠ '\x7d'.toUInt8) (hsep : Leaves (separator atStart s) (m.bytes ++ tail))
    (hkey : m.key.Says m.name) (h : Step fields m (met, value) next)
    (hends : EndsValue (m.value.after ++ tail)) :
    plain (members fields met value atStart s) =
      plain (members fields next.1 next.2 false (m.value.after ++ tail)) := by
  obtain ⟨hlength, hnext⟩ := hnext
  rw [members_eq, hnext]
  dsimp only
  rw [if_neg hb]
  apply plain_bind_eq hsep
  rintro ⟨_, hleft⟩ rfl
  apply plain_bind_eq (member_reads hkey h hends)
  rintro ⟨⟨met', value'⟩, _, hrest⟩ ⟨rfl, rfl⟩
  dsimp only
  cases members fields met' value' false (m.value.after ++ tail) <;> rfl

theorem members_repeated {key : Part} {name : String} (hkey : key.Says name)
    (known : ∃ f ∈ fields, f.key = name) (hmet : name ∈ met) (hws : Blanks ws) (tail : Bytes) :
    members fields met value false (ws ++ ','.toUInt8 :: (key.before ++ (key.inner ++ tail))) =
      .error (.repeated name) := by
  obtain ⟨hlength, hnext⟩ := next?_append hws (b := ','.toUInt8) (by decide)
    (key.before ++ (key.inner ++ tail))
  rw [members_eq, hnext]
  dsimp only
  rw [if_neg (by decide)]
  apply Yields.bind_eq (separator_comma hws _)
  rintro ⟨_, hleft⟩ rfl
  dsimp only
  rw [member_repeated hkey known hmet]
  rfl

/-- What stands behind the last blank of a member: a comma or the closing byte. -/
def EndsMember (s : Bytes) : Prop :=
  ∃ b t, s = b :: t ∧ (b = ','.toUInt8 ∨ b = Bracket.object.close)

theorem endsMember_comma (s : Bytes) : EndsMember (','.toUInt8 :: s) :=
  ⟨_, s, rfl, .inl rfl⟩

theorem endsMember_close (s : Bytes) : EndsMember ('\x7d'.toUInt8 :: s) :=
  ⟨_, s, rfl, .inr rfl⟩

private theorem endsValue_further (hws : Blanks ws) (ms : List Member) (htail : EndsMember tail) :
    EndsValue (ws ++ (furtherBytes ms ++ tail)) := by
  cases ms with
  | nil =>
    obtain ⟨b, t, rfl, hb⟩ := htail
    exact .after_blanks hws (hb.imp_right .inr) t
  | cons m ms => exact .after_blanks hws (.inl rfl) _

/-- Members with commas before them do their steps, up to a closing byte or another comma. -/
private theorem members_run (h : Run fields ms (met, value) last)
    (keys : ∀ m ∈ ms, m.key.Says m.name) (hws : Blanks ws) (htail : EndsMember tail) :
    ∃ ws', Blanks ws' ∧ plain (members fields met value false (ws ++ (furtherBytes ms ++ tail))) =
      plain (members fields last.1 last.2 false (ws' ++ tail)) := by
  -- The blanks behind a value are passed over with the next comma, so the rest begins with blanks.
  induction ms generalizing met value ws with
  | nil =>
    cases h
    exact ⟨ws, hws, rfl⟩
  | cons m ms ih =>
    cases h with
    | @cons _ _ _ next _ first further =>
      obtain ⟨ws', hws', hfurther⟩ :=
        ih further (fun n hn => keys n (List.mem_cons_of_mem m hn)) m.value.blank_after
      refine ⟨ws', hws', ?_⟩
      rw [furtherBytes, List.flatMap_cons, List.cons_append, List.cons_append, List.append_assoc,
        ← hfurther]
      exact members_step (next?_append hws (by decide) _) (by decide) (separator_comma hws _)
        (keys m (by simp)) first (endsValue_further m.value.blank_after ms htail)

theorem members_start {others : List Member} (h : Run fields (m :: others) (met, value) last)
    (keys : ∀ n ∈ m :: others, n.key.Says n.name) (htail : EndsMember tail) :
    ∃ ws, Blanks ws ∧
      plain (members fields met value true (m.bytes ++ (furtherBytes others ++ tail))) =
        plain (members fields last.1 last.2 false (ws ++ tail)) := by
  cases h with
  | @cons _ _ _ next _ first further =>
    obtain ⟨ws, hws, hfurther⟩ :=
      members_run further (fun n hn => keys n (List.mem_cons_of_mem m hn)) m.value.blank_after htail
    refine ⟨ws, hws, ?_⟩
    obtain ⟨content, hkey, -⟩ := keys m (by simp)
    have hnext := next?_append m.key.blank_before (b := '"'.toUInt8) (by decide) (content ++
      '"'.toUInt8 :: (m.key.after ++ ':'.toUInt8 :: (m.value.before ++ (m.value.inner ++
        (m.value.after ++ (furtherBytes others ++ tail))))))
    rw [← Member.bytes_append hkey] at hnext
    rw [← hfurther]
    exact members_step hnext (by decide) (separator_start _) (keys m (by simp)) first
      (endsValue_further m.value.blank_after others htail)

end

end QueryFrame.Json
