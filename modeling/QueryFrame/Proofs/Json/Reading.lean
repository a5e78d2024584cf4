import QueryFrame.Proofs.Json.Grammar

/-!
# Readers that come through

What a reader yields on a text that begins as it asks for, and what is left of the text. Blanks are
passed over wherever a mark or a value may stand.
-/

namespace QueryFrame.Json

/-- The reading succeeds with a result of the given kind. -/
def Yields {α : Type} (r : Except Failure α) (p : α → Prop) : Prop := ∃ a, r = .ok a ∧ p a

def Leaves {p : Bytes → Prop} (r : Except Failure { l : Bytes // p l }) (left : Bytes) : Prop :=
  Yields r fun l => l.val = left

/-- The reading succeeds with the given value and leaves the given text. -/
def Reads {α : Type} {p : Bytes → Prop} (r : Except Failure (α × { l : Bytes // p l })) (value : α)
    (left : Bytes) : Prop :=
  Yields r fun found => found.1 = value ∧ found.2.val = left

section

variable {α β : Type} {r : Except Failure α} {p : α → Prop} {q : β → Prop}

theorem yields_ok {a : α} (h : p a) : Yields (.ok a) p := ⟨a, rfl, h⟩

theorem Yields.bind {f : α → Except Failure β} (h : Yields r p) (hf : ∀ a, p a → Yields (f a) q) :
    Yields (r >>= f) q := by
  obtain ⟨a, rfl, ha⟩ := h
  exact hf a ha

theorem Yields.bind_eq {f : α → Except Failure β} {x : Except Failure β} (h : Yields r p)
    (hf : ∀ a, p a → f a = x) : r >>= f = x := by
  obtain ⟨a, rfl, ha⟩ := h
  exact hf a ha

theorem Yields.map {f : α → β} (h : Yields r p) (hf : ∀ a, p a → q (f a)) :
    Yields (r.map f) q := by
  obtain ⟨a, rfl, ha⟩ := h
  exact ⟨f a, rfl, hf a ha⟩

theorem Reads.after {read : Reader α} {s : Bytes} {rest : Rest s} {value : α} {left : Bytes}
    (h : Reads (read rest.val) value left) : Reads (Reader.after read rest) value left :=
  Yields.bind h fun _ hfound => yields_ok hfound

end

section

variable {ws s : Bytes} {b : UInt8}

theorem isBlank_iff : isBlank b ↔ b = 0x20 ∨ b = 0x09 ∨ b = 0x0A ∨ b = 0x0D := by
  simp [isBlank, or_assoc]

theorem next?_append (hws : Blanks ws) (hb : isBlank b = false) (s : Bytes) :
    ∃ h, next? (ws ++ b :: s) = some (b, ⟨s, h⟩) := by
  induction ws with
  | nil =>
    have hnext : next? (b :: s) = some (b, .tail b s) := by
      rw [next?, if_neg (by simp [hb])]
    exact ⟨Nat.lt_succ_self _, hnext⟩
  | cons w ws ih =>
    have hw : isBlank w := isBlank_iff.2 (hws w (by simp))
    obtain ⟨h, hnext⟩ := ih fun c hc => hws c (List.mem_cons_of_mem w hc)
    have hcons : next? (w :: (ws ++ b :: s)) = some (b, (Rest.left ⟨s, h⟩).after w) := by
      rw [next?, if_pos hw, hnext]
      rfl
    exact ⟨Nat.lt_succ_of_lt h, hcons⟩

private theorem next?_blanks (hws : Blanks ws) : next? ws = none := by
  induction ws with
  | nil => rfl
  | cons w ws ih =>
    have hw : isBlank w := isBlank_iff.2 (hws w (by simp))
    rw [next?, if_pos hw, ih fun c hc => hws c (List.mem_cons_of_mem w hc)]
    rfl

theorem mark_leaves (hws : Blanks ws) (hb : isBlank b = false) (s : Bytes) :
    Leaves (mark b (ws ++ b :: s)) s := by
  obtain ⟨h, hnext⟩ := next?_append hws hb s
  rw [mark, hnext]
  exact ⟨_, if_pos rfl, rfl⟩

theorem keyword_leaves (word s : Bytes) : Leaves (keyword word (word ++ s)) s := by
  induction word with
  | nil => exact yields_ok rfl
  | cons w word ih =>
    rw [List.cons_append, keyword, if_pos rfl]
    exact Yields.map ih fun _ hl => hl

theorem finish_blanks (hws : Blanks ws) : finish ws = .ok () := by
  rw [finish, next?_blanks hws]

end

end QueryFrame.Json
