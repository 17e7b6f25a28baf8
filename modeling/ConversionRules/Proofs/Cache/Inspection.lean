import ConversionRules.Proofs.Cache.RoundTrip
import ConversionRules.Proofs.Converter.Validity

/-!
A file can be inspected without checking its rules. Inspection and decoding
read the same bytes in the same way, so they fail alike up to the check of the
rules, and what inspection says of the rules is what decoding finds.
-/
namespace ConversionRules.Cache

/-- An error that finds fault with the rules of a file, all its bytes being in order. -/
inductive CacheError.IsValidation : CacheError → Prop
  | ruleCount (declared found : Nat) : IsValidation (.ruleCountMismatch declared found)
  | rules (e : DefinitionError) : IsValidation (.invalidRules e)

variable {bs : List UInt8}

theorem inspect_eq_ok_iff {info : Info} : inspect bs = .ok info ↔
    ∃ p, readPayload bs = .ok p ∧
      info = ⟨field bs 4 2, field bs 6 2, p.ruleCount, p.sourceDigest⟩ := by
  unfold inspect
  cases readPayload bs with
  | error e => simp
  | ok p => simp [eq_comm]

theorem inspect_eq_error_iff {e : CacheError} :
    inspect bs = .error e ↔ readPayload bs = .error e := by
  unfold inspect
  cases readPayload bs with
  | error e' => simp
  | ok p => simp

theorem decode_of_readPayload_error {e : CacheError} (h : readPayload bs = .error e) :
    decode bs = .error e := by
  simp only [decode, h]

/-- Behind a payload that can be read only the rules are checked. -/
theorem isValidation_of_decode {p : Payload} {e : CacheError} (hp : readPayload bs = .ok p)
    (h : decode bs = .error e) : e.IsValidation := by
  simp only [decode, hp] at h
  split at h
  · cases h
    exact .ruleCount _ _
  split at h
  · cases h
  · cases h
    exact .rules _

theorem readPayload_of_decode {c : Converter} (h : decode bs = .ok c) :
    ∃ p, readPayload bs = .ok p ∧ p.ruleCount = c.size := by
  cases hp : readPayload bs with
  | error e =>
    rw [decode_of_readPayload_error hp] at h
    cases h
  | ok p =>
    refine ⟨p, rfl, ?_⟩
    simp only [decode, hp] at h
    split at h
    · cases h
    rename_i hcount
    split at h
    · rename_i hrules
      cases h
      obtain ⟨_, rfl⟩ := (Converter.ofRules_eq_ok_iff p.rules c).mp hrules
      simpa [Converter.size] using hcount
    · cases h

theorem engine_header (payload : List UInt8) :
    field (header payload ++ payload) 6 2 = engineVersion := by
  have hoffset : (mark ++ Bytes.ofNat 2 formatVersion).length = 6 := rfl
  have hfits : engineVersion < Nat.pow 256 2 := by decide
  rw [header]
  simp only [List.append_assoc]
  rw [← List.append_assoc]
  exact field_append hoffset hfits

/-- What is written for a converter tells its versions, the number of its rules
and the digest of its source. -/
theorem inspect_encode {c : Converter} {source : Option String} (h : encode? c source = some bs) :
    inspect bs = .ok ⟨formatVersion, engineVersion, c.size, source.map sourceDigest⟩ := by
  obtain ⟨payload, hpayload, hlen, rfl⟩ := encode?_eq_some h
  have hdecode : decodePayload payload = some (⟨c.size, source.map sourceDigest, c.rules⟩, []) := by
    rw [hpayload] at hlen ⊢
    exact decodePayload_encodePayload rfl (fun d hd => length_sourceDigest hd) hlen
  have hread : readPayload (header payload ++ payload) =
      .ok ⟨c.size, source.map sourceDigest, c.rules⟩ := by
    rw [readPayload, checkedPayload_header payload hlen]
    simp only [hdecode]
  rw [inspect, hread]
  simp only [version_header, engine_header]

theorem matchesSource_iff (info : Info) (text : String) :
    info.matchesSource text = true ↔ info.sourceDigest = some (sourceDigest text) := by
  rw [Info.matchesSource, beq_iff_eq]

/-- Inspection fails only as decoding does; where it succeeds decoding fails
only for the rules, and succeeds only on as many rules as inspection tells. A
file tells the versions and the number of rules it was written with, and from
the digest of its source, if there was one, whether a text is that source. -/
theorem inspect_agrees_with_decode :
    (∀ bs e, inspect bs = .error e → decode bs = .error e) ∧
    (∀ bs info e, inspect bs = .ok info → decode bs = .error e → e.IsValidation) ∧
    (∀ bs c, decode bs = .ok c → ∃ info, inspect bs = .ok info ∧ info.ruleCount = c.size) ∧
    ∀ c source bs, encode? c source = some bs → ∃ info, inspect bs = .ok info ∧
      info.formatVersion = 1 ∧ info.engineVersion = 1 ∧ info.ruleCount = c.size ∧
      ∀ text, info.matchesSource text = true ↔
        ∃ s, source = some s ∧ sourceDigest s = sourceDigest text := by
  refine ⟨?_, ?_, ?_, ?_⟩
  · intro bs e h
    exact decode_of_readPayload_error (inspect_eq_error_iff.mp h)
  · intro bs info e hinspect hdecode
    obtain ⟨p, hp, _⟩ := inspect_eq_ok_iff.mp hinspect
    exact isValidation_of_decode hp hdecode
  · intro bs c h
    obtain ⟨p, hp, hcount⟩ := readPayload_of_decode h
    exact ⟨_, inspect_eq_ok_iff.mpr ⟨p, hp, rfl⟩, hcount⟩
  · intro c source bs h
    refine ⟨_, inspect_encode h, rfl, rfl, rfl, fun text => ?_⟩
    rw [matchesSource_iff, Option.map_eq_some_iff]

/-- A payload that tells of a rule and holds none. -/
def hollowPayload : List UInt8 := [1, 0, 0]

theorem inspect_hollowPayload :
    inspect [] = .error (.lengthMismatch 32 0) ∧ decode [] = .error (.lengthMismatch 32 0) ∧
    inspect (header hollowPayload ++ hollowPayload) = .ok ⟨1, 1, 1, none⟩ ∧
    CacheError.IsValidation (.ruleCountMismatch 1 0) ∧
    decode (header [0, 0, 0] ++ [0, 0, 0]) = .ok ⟨[]⟩ ∧
    (∃ info, inspect (header [0, 0, 0] ++ [0, 0, 0]) = .ok info ∧ info.ruleCount = 0) ∧
    ∃ bs info, encode? ⟨[{}]⟩ (some "rule:") = some bs ∧ inspect bs = .ok info ∧
      info.matchesSource "rule:" = true ∧ info.matchesSource "rule a:" = false := by
  obtain ⟨hfails, hvalidation, haccepted, hwritten⟩ := inspect_agrees_with_decode
  have hshort : inspect [] = .error (.lengthMismatch 32 0) := rfl
  have hhollow : readPayload (header hollowPayload ++ hollowPayload) = .ok ⟨1, none, []⟩ := by
    rw [readPayload, checkedPayload_header hollowPayload (by decide)]
    rfl
  have hinspect : inspect (header hollowPayload ++ hollowPayload) = .ok ⟨1, 1, 1, none⟩ := by
    rw [inspect, hhollow]
    simp only [version_header, engine_header]
    rfl
  have hmismatch : decode (header hollowPayload ++ hollowPayload) =
      .error (.ruleCountMismatch 1 0) := by
    rw [decode, hhollow]
    rfl
  have hempty : decode (header [0, 0, 0] ++ [0, 0, 0]) = .ok ⟨[]⟩ := by
    rw [decode, readPayload, checkedPayload_header [0, 0, 0] (by decide)]
    rfl
  have hlen : (encodePayload ⟨1, some (sourceDigest "rule:"), [{}]⟩).length < UInt32.size := by
    decide +kernel
  have hbytes : encode? ⟨[{}]⟩ (some "rule:") = some _ := encode?_of_length rfl hlen
  obtain ⟨info, hinfo, _, _, _, hmatches⟩ := hwritten _ _ _ hbytes
  have hother : sourceDigest "rule:" ≠ sourceDigest "rule a:" := by decide +kernel
  refine ⟨hshort, hfails _ _ hshort, hinspect, hvalidation _ _ _ hinspect hmismatch, hempty,
    haccepted _ _ hempty, _, info, hbytes, hinfo, (hmatches _).mpr ⟨_, rfl, rfl⟩, ?_⟩
  rw [Bool.eq_false_iff]
  intro hsame
  obtain ⟨s, hs, hdigest⟩ := (hmatches _).mp hsame
  cases hs
  exact hother hdigest

end ConversionRules.Cache
