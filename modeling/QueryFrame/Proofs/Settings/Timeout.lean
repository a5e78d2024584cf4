import QueryFrame.Proofs.Settings.Admission
import QueryFrame.Proofs.Text.Trimming

/-!
# The time to connect

The timeout of the settings is the decimal text of a number of seconds of 64 bits, with blanks
around it. The error at any other text quotes the text as it was entered and names the defect that
is met first.
-/

namespace QueryFrame.Settings

def timeoutRefusal (timeout : String) (defect : Numeral.Defect) : QueryError :=
  .invalidSettings ("timeout " ++ timeout ++ " invalid: " ++ defect.message)

section

variable {s : Settings} {u : List Char} {seconds : Nat}

private theorem timeoutRefusal_inj {timeout : String} {defect defect' : Numeral.Defect} :
    timeoutRefusal timeout defect = timeoutRefusal timeout defect' ↔ defect = defect' := by
  rw [timeoutRefusal, timeoutRefusal, QueryError.invalidSettings.injEq]
  constructor
  · intro h
    exact Numeral.Defect.message_inj.1 ((String.append_right_inj _).1 h)
  · intro h
    rw [h]

theorem connectTimeout_eq_ok_iff_denotes (hu : Text.IsTrimOf u s.timeout.toList) :
    s.connectTimeout = .ok seconds ↔ Numeral.Denotes u seconds ∧ seconds < UInt64.size := by
  rw [connectTimeout_eq_ok_iff, Text.trim_eq_iff.2 hu, Numeral.read_eq_ok_iff]
  have hsize : 0 < UInt64.size := by decide
  rw [Nat.le_sub_one_iff_lt hsize]

theorem connectTimeout_eq_refusal_iff (hu : Text.IsTrimOf u s.timeout.toList)
    {defect : Numeral.Defect} :
    s.connectTimeout = .error (timeoutRefusal s.timeout defect) ↔
      Numeral.Refused (UInt64.size - 1) u defect := by
  rw [connectTimeout_eq_error_iff, Text.trim_eq_iff.2 hu]
  simp only [Numeral.read_eq_error_iff]
  constructor
  · intro h
    obtain ⟨defect', hrefused, hsame⟩ := h
    obtain rfl := timeoutRefusal_inj.1 hsame
    exact hrefused
  · intro h
    exact ⟨defect, h, rfl⟩

private theorem not_isBlank_of_isDigit {c : Char} (h : c.isDigit) : ¬ Text.isBlank c := by
  have hrange : 48 ≤ c.toNat ∧ c.toNat ≤ 57 := Char.isDigit_iff_toNat.1 h
  intro hblank
  simp only [Text.isBlank, Bool.or_eq_true, Bool.and_eq_true, decide_eq_true_eq,
    beq_iff_eq] at hblank
  omega

private theorem isTrimmed_of_denotes {n : Nat} (h : Numeral.Denotes u n) : Text.IsTrimmed u := by
  have hplus : ¬ Text.isBlank '+' := by decide
  obtain ⟨digits, hu, -, hdigits, -⟩ := h
  apply Text.isTrimmed_of_forall
  intro c hc
  rcases hu with rfl | rfl
  · exact not_isBlank_of_isDigit (hdigits c hc)
  · rcases List.mem_cons.1 hc with rfl | hc
    · exact hplus
    · exact not_isBlank_of_isDigit (hdigits c hc)

private theorem connectTimeout_of_pads (hseconds : seconds < UInt64.size)
    (hu : Numeral.Denotes u seconds)
    (hpads : Text.Pads u s.timeout.toList) : s.connectTimeout = .ok seconds :=
  (connectTimeout_eq_ok_iff_denotes ⟨hpads, isTrimmed_of_denotes hu⟩).2 ⟨hu, hseconds⟩

/-- Which timeouts are accepted, for how many seconds, and what is said of the other ones. -/
theorem connectTimeout_outcome :
    (∀ (s : Settings) u, Text.IsTrimOf u s.timeout.toList →
      (∀ seconds, s.connectTimeout = .ok seconds ↔
        Numeral.Denotes u seconds ∧ seconds < UInt64.size) ∧
      (∀ defect, s.connectTimeout = .error (timeoutRefusal s.timeout defect) ↔
        Numeral.Refused (UInt64.size - 1) u defect) ∧
      ∀ e, s.connectTimeout = .error e → ∃ defect, e = timeoutRefusal s.timeout defect) ∧
    (∀ (s : Settings) seconds, seconds < UInt64.size →
      Text.Pads (toString seconds).toList s.timeout.toList → s.connectTimeout = .ok seconds) ∧
    ∀ s : Settings, s.endpoint ≠ "" → s.dbLocation ≠ "" → s.HasCredentials →
      (s.validate = .ok () ↔ ∃ seconds, s.connectTimeout = .ok seconds) := by
  refine ⟨?_, ?_, ?_⟩
  · intro s u hu
    refine ⟨fun seconds => connectTimeout_eq_ok_iff_denotes hu,
      fun defect => connectTimeout_eq_refusal_iff hu, ?_⟩
    intro e he
    obtain ⟨defect, -, rfl⟩ := connectTimeout_eq_error_iff.1 he
    exact ⟨defect, rfl⟩
  · intro s seconds hseconds hpads
    exact connectTimeout_of_pads hseconds (Numeral.denotes_toString seconds) hpads
  · intro s hendpoint hlocation hcredentials
    rw [validate_eq_ok_iff, ← hasTimeout_iff]
    constructor
    · intro h
      exact h.timeout
    · intro h
      exact ⟨hendpoint, hlocation, hcredentials, h⟩

end

/-- The largest number of seconds that fits, with a sign, leading zeros and blanks. -/
def longest : Settings where
  endpoint := "grpc://h:1"
  dbLocation := "/l"
  authKind := .metaData
  timeout := "\u3000+0018446744073709551615\t"

theorem connectTimeout_outcome_longest :
    longest.connectTimeout = .ok 18446744073709551615 ∧ longest.validate = .ok () ∧
      ({ longest with timeout := "18446744073709551616s" } : Settings).connectTimeout =
        .error (.invalidSettings ("timeout 18446744073709551616s invalid: " ++
          "number too large to fit in target type")) ∧
      ({ longest with timeout := " 30\n" } : Settings).connectTimeout = .ok 30 := by
  obtain ⟨hread, hpadded, hvalid⟩ := connectTimeout_outcome
  have htrim : Text.IsTrimOf "+0018446744073709551615".toList longest.timeout.toList :=
    Text.trim_eq_iff.1 (by decide +kernel)
  have hdenotes : Numeral.Denotes "+0018446744073709551615".toList 18446744073709551615 :=
    (Numeral.read_eq_ok_iff.1 (by decide +kernel :
      Numeral.read 18446744073709551615 _ = .ok 18446744073709551615)).1
  have hlongest := ((hread longest _ htrim).1 _).2 ⟨hdenotes, by decide⟩
  have hcredentials : longest.HasCredentials := ⟨nofun, nofun, nofun, nofun⟩
  refine ⟨hlongest, (hvalid longest (by decide) (by decide) hcredentials).2 ⟨_, hlongest⟩, ?_, ?_⟩
  · have hlarge : Numeral.Refused (UInt64.size - 1) "18446744073709551616s".toList .tooLarge :=
      .tooLarge (by decide +kernel)
    exact ((hread _ _ (Text.trim_eq_iff.1 (by decide +kernel))).2.1 .tooLarge).2 hlarge
  · have hblanks : Text.Pads (toString 30).toList " 30\n".toList :=
      ⟨[' '], ['\n'], by simp [Text.isBlank], by simp [Text.isBlank], by decide⟩
    exact hpadded _ 30 (by decide) hblanks

end QueryFrame.Settings
