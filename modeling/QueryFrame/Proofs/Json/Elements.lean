import QueryFrame.Proofs.Json.Records

/-!
# Records that are written as lists

The elements of a list go to the fields of a record in their order. The list may end before the
fields do; the fields that are left then stay as they are.
-/

namespace QueryFrame.Json

def furtherParts (ps : List Part) : Bytes := ps.flatMap fun p => ','.toUInt8 :: p.bytes

inductive IsList : List Part → Bytes → Prop
  | empty {ws : Bytes} (h : Blanks ws) :
      IsList [] (Bracket.list.opening :: (ws ++ [Bracket.list.close]))
  | filled {first : Part} {others : List Part} :
      IsList (first :: others) (Bracket.list.opening ::
        (first.bytes ++ (furtherParts others ++ [Bracket.list.close])))

variable {σ : Type}

/-- The elements bring the first record to the second, each through the field in its place. -/
inductive Fills : List (Field σ) → List Part → σ → σ → Prop
  | nil {fields : List (Field σ)} {value : σ} : Fills fields [] value value
  | cons {f : Field σ} {fields : List (Field σ)} {p : Part} {ps : List Part}
      {value next last : σ} (first : f.Puts p.inner value next)
      (further : Fills fields ps next last) : Fills (f :: fields) (p :: ps) value last

variable {f : Field σ} {fields : List (Field σ)} {p : Part} {ps : List Part}
  {value next last : σ} {s t tail ws : Bytes} {b : UInt8}

private theorem elements_close {atStart : Bool} (hws : Blanks ws) (rest : Bytes) :
    plain (elements fields value atStart (ws ++ ']'.toUInt8 :: rest)) = .ok (value, rest) := by
  have hreads : Reads (elements fields value atStart (ws ++ ']'.toUInt8 :: rest)) value rest := by
    cases fields with
    | nil =>
      rw [elements]
      exact Yields.map (mark_leaves hws (by decide) rest) fun _ hrest => ⟨rfl, hrest⟩
    | cons f fields =>
      obtain ⟨hlength, hnext⟩ := next?_append hws (b := ']'.toUInt8) (by decide) rest
      rw [elements, hnext]
      exact ⟨_, if_pos rfl, rfl, rfl⟩
  exact hreads.plain

private theorem elements_step {atStart : Bool} (hnext : ∃ h, next? s = some (b, ⟨t, h⟩))
    (hb : b ≠ ']'.toUInt8) (hsep : Leaves (separator atStart s) (p.bytes ++ tail))
    (h : f.Puts p.inner value next) :
    plain (elements (f :: fields) value atStart s) =
      plain (elements fields next false (p.after ++ tail)) := by
  obtain ⟨hlength, hnext⟩ := hnext
  have hbytes : p.bytes ++ tail = p.before ++ (p.inner ++ (p.after ++ tail)) := by
    simp [Part.bytes]
  rw [hbytes] at hsep
  rw [elements, hnext]
  dsimp only
  rw [if_neg hb]
  apply plain_bind_eq hsep
  rintro ⟨_, hleft⟩ rfl
  apply plain_bind_eq (h p.before (p.after ++ tail) p.blank_before)
  rintro ⟨value', _, hrest⟩ ⟨rfl, rfl⟩
  dsimp only
  cases elements fields value' false (p.after ++ tail) <;> rfl

private theorem elements_fills (h : Fills fields ps value last) (hws : Blanks ws) (rest : Bytes) :
    plain (elements fields value false (ws ++ (furtherParts ps ++ ']'.toUInt8 :: rest))) =
      .ok (last, rest) := by
  -- As with members, the blanks behind an element are passed over with the next comma.
  induction h generalizing ws with
  | nil => exact elements_close hws rest
  | @cons f fields p ps value next last first further ih =>
    rw [furtherParts, List.flatMap_cons, List.cons_append, List.cons_append, List.append_assoc,
      ← furtherParts, ← ih p.blank_after]
    exact elements_step (next?_append hws (by decide) _) (by decide) (separator_comma hws _) first

/-- A list that is not empty begins with an element, whose first byte is not the closing one. -/
private theorem elements_start {others : List Part} {content : Bytes}
    (h : Fills fields (p :: others) value last) (hinner : p.inner = quoted content)
    (rest : Bytes) :
    plain (elements fields value true (p.bytes ++ (furtherParts others ++ ']'.toUInt8 :: rest))) =
      .ok (last, rest) := by
  cases h with
  | @cons f fields _ _ _ next _ first further =>
    rw [← elements_fills further p.blank_after rest]
    have hbytes : p.bytes ++ (furtherParts others ++ ']'.toUInt8 :: rest) =
        p.before ++ '"'.toUInt8 :: (content ++ '"'.toUInt8 :: (p.after ++
          (furtherParts others ++ ']'.toUInt8 :: rest))) := by
      simp [Part.bytes, hinner, quoted]
    have hnext := next?_append p.blank_before (b := '"'.toUInt8) (by decide) (content ++
      '"'.toUInt8 :: (p.after ++ (furtherParts others ++ ']'.toUInt8 :: rest)))
    rw [← hbytes] at hnext
    exact elements_step hnext (by decide) (separator_start _) first

private theorem record_list {name : String} {initial : σ} {x : Except Failure (σ × Bytes)}
    (hws : Blanks ws) (h : plain (elements fields initial true s) = x) :
    record name fields initial (ws ++ '['.toUInt8 :: s) =
      x >>= fun found => (finish found.2).map fun _ => found.1 := by
  obtain ⟨hlength, hnext⟩ := next?_append hws (b := '['.toUInt8) (by decide) s
  rw [record, hnext, ← h, ← finish_plain]
  dsimp only
  rw [if_neg (by decide)]
  exact if_pos rfl

theorem record_list_reads {name : String} {initial : σ} {document : Part}
    (hlist : IsList ps document.inner) (hspelled : ∀ p ∈ ps, ∃ text, p.Says text)
    (h : Fills fields ps initial last) :
    record name fields initial document.bytes = .ok last := by
  have helements : ∃ s, document.inner = '['.toUInt8 :: s ∧
      plain (elements fields initial true (s ++ document.after)) = .ok (last, document.after) := by
    generalize document.inner = inner at hlist
    cases hlist with
    | @empty ws hws =>
      cases h
      refine ⟨ws ++ [']'.toUInt8], rfl, ?_⟩
      rw [List.append_assoc]
      exact elements_close hws document.after
    | @filled first others =>
      obtain ⟨text, content, hinner, -⟩ := hspelled first (List.mem_cons_self ..)
      refine ⟨_, rfl, ?_⟩
      rw [List.append_assoc, List.append_assoc]
      exact elements_start h hinner document.after
  obtain ⟨s, hinner, hread⟩ := helements
  rw [Part.bytes, hinner, List.cons_append, record_list document.blank_before hread]
  show (finish document.after).map _ = _
  rw [finish_blanks document.blank_after]
  rfl

end QueryFrame.Json
