import QueryFrame.Json.Record
import QueryFrame.Proofs.Traversal

/-!
# What the fields of a record leave alone

A property that every field keeps when it is read holds of a record that is read, if it holds of the
record without any field.
-/

namespace QueryFrame.Json

variable {σ : Type} {P : σ → Prop}

/-- Whatever a field takes from the text keeps the property. -/
def Field.Keeps (f : Field σ) (P : σ → Prop) : Prop :=
  ∀ value s found, f.read value s = .ok found → P value → P found.1

theorem Field.keeps_string {key : String} {put : String → σ → σ}
    (h : ∀ text value, P value → P (put text value)) : (Field.string key put).Keeps P := by
  intro value s found hread hvalue
  obtain ⟨read, -, rfl⟩ := map_eq_ok_iff.1 hread
  exact h read.1 value hvalue

theorem Field.keeps_choice {α : Type} {key : String} {known : List (String × α)}
    {put : α → σ → σ} (h : ∀ chosen value, P value → P (put chosen value)) :
    (Field.choice key known put).Keeps P := by
  intro value s found hread hvalue
  obtain ⟨read, -, rfl⟩ := map_eq_ok_iff.1 hread
  exact h read.1 value hvalue

variable {fields : List (Field σ)}

private theorem member_invariant (hfields : ∀ f ∈ fields, f.Keeps P) {met : List String} {value : σ}
    {s : Bytes} {found : (List String × σ) × Rest s}
    (h : member fields met value s = .ok found) (hvalue : P value) : P found.1.2 := by
  obtain ⟨quoted, -, h⟩ := bind_eq_ok_iff.1 h
  obtain ⟨⟨key, rest⟩, -, h⟩ := bind_eq_ok_iff.1 h
  cases hfind : fields.find? (·.key == key) with
  | none =>
    simp only [hfind] at h
    obtain ⟨colon, -, h⟩ := bind_eq_ok_iff.1 h
    obtain ⟨skipped, -, h⟩ := bind_eq_ok_iff.1 h
    obtain rfl := Except.ok.inj h
    exact hvalue
  | some field =>
    simp only [hfind] at h
    split at h
    · simp at h
    · obtain ⟨colon, -, h⟩ := bind_eq_ok_iff.1 h
      obtain ⟨read, hread, h⟩ := bind_eq_ok_iff.1 h
      obtain rfl := Except.ok.inj h
      obtain ⟨taken, htaken, h⟩ := bind_eq_ok_iff.1 hread
      obtain rfl := Except.ok.inj h
      exact hfields field (List.mem_of_find?_eq_some hfind) value _ _ htaken hvalue

private theorem members_invariant (hfields : ∀ f ∈ fields, f.Keeps P) {met : List String}
    {value : σ} {atStart : Bool} {s : Bytes} {found : σ × Rest s}
    (h : members fields met value atStart s = .ok found) (hvalue : P value) : P found.1 := by
  fun_induction members fields met value atStart s with
  | case1 => simp at h
  | case2 =>
    obtain rfl := Except.ok.inj h
    exact hvalue
  | case3 met value atStart s b rest _ _ ih =>
    obtain ⟨left, -, h⟩ := bind_eq_ok_iff.1 h
    obtain ⟨⟨⟨met', value'⟩, rest'⟩, hmember, h⟩ := bind_eq_ok_iff.1 h
    obtain ⟨more, hmore, h⟩ := bind_eq_ok_iff.1 h
    obtain rfl := Except.ok.inj h
    exact ih left met' value' rest' hmore (member_invariant hfields hmember hvalue)

private theorem elements_invariant (hfields : ∀ f ∈ fields, f.Keeps P) {value : σ}
    {atStart : Bool} {s : Bytes} {found : σ × Rest s}
    (h : elements fields value atStart s = .ok found) (hvalue : P value) : P found.1 := by
  induction fields generalizing value atStart s with
  | nil =>
    obtain ⟨rest, -, rfl⟩ := map_eq_ok_iff.1 h
    exact hvalue
  | cons field fields ih =>
    rw [elements] at h
    split at h
    · simp at h
    · split at h
      · obtain rfl := Except.ok.inj h
        exact hvalue
      · obtain ⟨left, -, h⟩ := bind_eq_ok_iff.1 h
        obtain ⟨read, hread, h⟩ := bind_eq_ok_iff.1 h
        obtain ⟨more, hmore, h⟩ := bind_eq_ok_iff.1 h
        obtain rfl := Except.ok.inj h
        apply ih (fun f hf => hfields f (List.mem_cons_of_mem field hf)) hmore
        exact hfields field (by simp) value _ _ hread hvalue

theorem record_invariant {name : String} (hfields : ∀ f ∈ fields, f.Keeps P) {initial value : σ}
    {s : Bytes} (h : record name fields initial s = .ok value) (hinitial : P initial) :
    P value := by
  rw [record] at h
  split at h
  · simp at h
  · split at h
    · obtain ⟨found, hfound, h⟩ := bind_eq_ok_iff.1 h
      obtain ⟨_, _, h⟩ := bind_eq_ok_iff.1 h
      obtain rfl := Except.ok.inj h
      exact members_invariant hfields hfound hinitial
    · split at h
      · obtain ⟨found, hfound, h⟩ := bind_eq_ok_iff.1 h
        obtain ⟨_, _, h⟩ := bind_eq_ok_iff.1 h
        obtain rfl := Except.ok.inj h
        exact elements_invariant hfields hfound hinitial
      · simp at h

end QueryFrame.Json
