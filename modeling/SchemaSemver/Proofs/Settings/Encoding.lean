/-
SchemaSemver.Proofs.Settings.Encoding — whether the encoding that is set can be used.

The name of an encoding is judged twice: when the settings are loaded, and again whenever a file is
read. Loading asks only whether the name is known. But some known names stand for transformations of
bytes that are no text encodings, and under such a name every file that is not empty cannot be read.
`accepted_encoding_fails_iff` says that this is the only way in which an accepted encoding fails by
its name; all other failures lie in bytes that the command did print.
`transformation_accepted_but_unusable` is a file that sets such a name.

Which names are known and what they stand for is up to the machine. A text encoding can also give up
without naming bytes, and then reading is not ended but breaks off; nothing else does this under an
accepted name.
-/
import SchemaSemver.Proofs.Settings.Acceptance

namespace SchemaSemver

open Text (DecodeBreak DecodeFault)

/-! ## §1 Reading with a store -/

namespace GitStore

/-- The answer that a file cannot be decoded. -/
def undecodable (ref path : String) (fault : DecodeFault) : RevisionRead :=
  .failed ref path ("Cannot decode " ++ ref ++ ":" ++ path ++ ": " ++ fault.message)

/-- What the command printed cannot be decoded for this reason, and the answer says so. -/
structure FailsWith (store : GitStore) (ref path : String) (output errors : List UInt8)
    (fault : DecodeFault) : Prop where
  decoding : Text.decodeNamed store.codecs store.encoding output = .error (.fault fault)
  answer : store.readResult ref path (.exited 0 output errors) = .ok (undecodable ref path fault)

variable {store : GitStore} {ref path : String} {output errors : List UInt8}

theorem readResult_exited_zero :
    store.readResult ref path (.exited 0 output errors)
      = match Text.decodeNamed store.codecs store.encoding output with
        | .ok text => .ok (.found ref path text)
        | .error (.fault fault) => .ok (undecodable ref path fault)
        | .error (.broken cause) => .error cause := rfl

theorem failsWith_iff {fault : DecodeFault} :
    store.FailsWith ref path output errors fault
      ↔ Text.decodeNamed store.codecs store.encoding output = .error (.fault fault) := by
  refine ⟨FailsWith.decoding, fun h => ⟨h, ?_⟩⟩
  rw [readResult_exited_zero, h]

theorem readResult_eq_error_iff {cause : DecodeBreak} :
    store.readResult ref path (.exited 0 output errors) = .error cause
      ↔ Text.decodeNamed store.codecs store.encoding output = .error (.broken cause) := by
  rw [readResult_exited_zero]
  match Text.decodeNamed store.codecs store.encoding output with
  | .ok text | .error (.fault fault) | .error (.broken cause) => simp

/-- A command that exits with 0 gives a text, fails in decoding, or breaks reading off. -/
theorem found_or_failsWith_or_error (store : GitStore) (ref path : String)
    (output errors : List UInt8) :
    (∃ text, store.readResult ref path (.exited 0 output errors) = .ok (.found ref path text))
      ∨ (∃ fault, store.FailsWith ref path output errors fault)
      ∨ ∃ cause, store.readResult ref path (.exited 0 output errors) = .error cause := by
  cases hdecoded : Text.decodeNamed store.codecs store.encoding output with
  | ok text => exact .inl ⟨text, by rw [readResult_exited_zero, hdecoded]⟩
  | error stop =>
    cases stop with
    | fault fault => exact .inr (.inl ⟨fault, failsWith_iff.mpr hdecoded⟩)
    | broken cause => exact .inr (.inr ⟨cause, readResult_eq_error_iff.mpr hdecoded⟩)

end GitStore

/-! ## §2 Accepted encodings -/

namespace Settings

variable {host : Host} {config : Option LooseText} {settings : Settings}

/-- The encoding of loaded settings is the name of a known codec. -/
theorem namesCodec_of_load (hutf8 : ∃ codec, host.codecs "utf-8" = some codec)
    (h : load host config = .ok settings) : NamesCodec host settings.encoding := by
  have hstandard : NamesCodec host ("utf-8" : String) := ⟨"utf-8", rfl, by decide, hutf8⟩
  cases config with
  | none =>
    cases h
    exact hstandard
  | some path =>
    obtain ⟨value, -, hacceptable, hchooses⟩ := (load_eq_ok_iff hutf8).mp h
    rw [hchooses.encoding]
    cases hgiven : given value .encoding with
    | none => exact hstandard
    | some found =>
      obtain ⟨text, hsays, hcodec⟩ := hacceptable.allowed .encoding found hgiven
      rw [Option.bind_some, (says_iff.mp hsays).1]
      exact hcodec

/-- Loading leaves no null character in the name of the encoding, and looks it up. -/
theorem encoding_of_load (hutf8 : ∃ codec, host.codecs "utf-8" = some codec)
    (h : load host config = .ok settings) :
    Text.isCodecName settings.encoding = true
      ∧ ∃ codec, host.codecs settings.encoding = some codec := by
  obtain ⟨name, heq, hnull, hcodec⟩ := namesCodec_of_load hutf8 h
  obtain rfl := LooseText.ofString_injective heq
  exact ⟨isCodecName_eq_true_iff.mpr hnull, hcodec⟩

section Known

variable {codec : Text.Codec} {ref path : String} {output errors : List UInt8}
  (hname : Text.isCodecName settings.encoding = true)
  (hcodec : host.codecs settings.encoding = some codec)
include hname hcodec

theorem failsWith_store_iff {fault : DecodeFault} :
    (settings.store host).FailsWith ref path output errors fault
      ↔ output ≠ [] ∧ (codec = .transformation ∧ fault = .noTextEncoding settings.encoding
        ∨ ∃ decode found, codec = .text decode ∧ decode output = .error (.fault found)
          ∧ fault = .bytes found) := by
  rw [GitStore.failsWith_iff]
  show Text.decodeNamed host.codecs settings.encoding output = _ ↔ _
  rw [Text.decodeNamed_eq_fault_iff hname, hcodec]
  simp

theorem readResult_store_eq_error_iff {cause : DecodeBreak} :
    (settings.store host).readResult ref path (.exited 0 output errors) = .error cause
      ↔ output ≠ [] ∧ cause = .givenUp ∧ ∃ decode, codec = .text decode
        ∧ decode output = .error .givenUp := by
  rw [GitStore.readResult_eq_error_iff]
  show Text.decodeNamed host.codecs settings.encoding output = _ ↔ _
  rw [Text.decodeNamed_eq_broken_iff hname, hcodec]
  simp

end Known

/-- **When an accepted encoding cannot be used.** Take a machine that knows UTF-8 and whose
encodings name only bytes that are there. Whatever a command prints that exits with 0, a store with
loaded settings gives its text, fails in decoding it, or breaks off; this last exactly if the
encoding itself gives up on what was printed. Reading fails because of the encoding's name exactly
if the name stands for a transformation and something was printed. If the name stands for a text
encoding, every failure lies in bytes that were printed. -/
theorem accepted_encoding_fails_iff {host : Host} {config : Option LooseText}
    {settings : Settings} (hlawful : host.codecs.IsLawful)
    (h : load host config = .ok settings) (ref path : String) (output errors : List UInt8) :
    let store := settings.store host
    ((∃ text, store.readResult ref path (.exited 0 output errors) = .ok (.found ref path text))
        ∨ (∃ fault, store.FailsWith ref path output errors fault)
        ∨ store.readResult ref path (.exited 0 output errors) = .error .givenUp)
      ∧ (store.readResult ref path (.exited 0 output errors) = .error .givenUp
        ↔ output ≠ [] ∧ ∃ decode, host.codecs settings.encoding = some (.text decode)
          ∧ decode output = .error .givenUp)
      ∧ ((∃ fault, store.FailsWith ref path output errors fault ∧ fault.IsOfName)
        ↔ output ≠ [] ∧ host.codecs settings.encoding = some .transformation)
      ∧ ∀ fault, store.FailsWith ref path output errors fault →
        fault = .noTextEncoding settings.encoding
          ∧ host.codecs settings.encoding = some .transformation
        ∨ fault.LiesIn output
          ∧ ∃ decode, host.codecs settings.encoding = some (.text decode) := by
  intro store
  obtain ⟨hname, codec, hcodec⟩ := encoding_of_load ⟨_, hlawful.utf8⟩ h
  simp only [hcodec, Option.some.injEq]
  refine ⟨?_, ?_, ?_, ?_⟩
  · rcases store.found_or_failsWith_or_error ref path output errors with hfound | hfault
      | ⟨cause, hcause⟩
    · exact .inl hfound
    · exact .inr (.inl hfault)
    · obtain ⟨-, rfl, -⟩ := (readResult_store_eq_error_iff hname hcodec).mp hcause
      exact .inr (.inr hcause)
  · simp [store, readResult_store_eq_error_iff hname hcodec]
  · constructor
    · rintro ⟨fault, hfault, hofName⟩
      rcases (failsWith_store_iff hname hcodec).mp hfault with
        ⟨houtput, ⟨htransformation, -⟩ | ⟨-, found, -, -, rfl⟩⟩
      · exact ⟨houtput, htransformation⟩
      · cases hofName
    · rintro ⟨houtput, htransformation⟩
      exact ⟨.noTextEncoding settings.encoding,
        (failsWith_store_iff hname hcodec).mpr ⟨houtput, .inl ⟨htransformation, rfl⟩⟩, trivial⟩
  · intro fault hfault
    rcases (failsWith_store_iff hname hcodec).mp hfault with
      ⟨-, ⟨rfl, rfl⟩ | ⟨decode, found, rfl, hdecode, rfl⟩⟩
    · exact .inl ⟨rfl, rfl⟩
    · exact .inr ⟨hlawful.faults _ _ _ _ hcodec hdecode, decode, rfl⟩

/-- Under an accepted encoding that is a text encoding, a byte too many is the fault. -/
theorem latin_byte_is_no_ascii :
    let host := hostWith "schema: \x7bencoding: ' US-ascii '\x7d\n"
    let settings : Settings :=
      ⟨some (.ofText "c.yaml"), "git", .absolute ["work"], "US-ascii", true⟩
    load host (some "c.yaml") = .ok settings
      ∧ ∃ fault, (settings.store host).FailsWith "main" "schema.graphql" [0x61, 0xE9] [] fault
        ∧ fault.LiesIn [0x61, 0xE9] := by
  intro host settings
  have hload : load host (some "c.yaml") = .ok settings := by decide +kernel
  obtain ⟨-, -, -, hfault⟩ := accepted_encoding_fails_iff Text.Codecs.standard_isLawful hload "main"
    "schema.graphql" [0x61, 0xE9] []
  have hfails : (settings.store host).FailsWith "main" "schema.graphql" [0x61, 0xE9] []
      (.bytes ⟨"ascii", 1, 1, 0xE9, "ordinal not in range(128)"⟩) := by
    rw [GitStore.failsWith_iff]
    decide +kernel
  refine ⟨hload, _, hfails, ?_⟩
  rcases hfault _ hfails with ⟨hname, -⟩ | ⟨hlies, -⟩
  · cases hname
  · exact hlies

/-- Not every accepted encoding can be used: `hex` is known, but no text encoding. -/
theorem transformation_accepted_but_unusable :
    let host := hostWith "schema: \x7bencoding: hex\x7d\n"
    let settings : Settings := ⟨some (.ofText "c.yaml"), "git", .absolute ["work"], "hex", true⟩
    load host (some "c.yaml") = .ok settings
      ∧ (settings.store host).readResult "main" "schema.graphql" (.exited 0 [0x61] [])
        = .ok (.failed "main" "schema.graphql" ("Cannot decode main:schema.graphql: 'hex' is not a "
          ++ "text encoding; use codecs.decode() to handle arbitrary codecs"))
      ∧ ¬ ∀ (host : Host) (config : Option LooseText) (settings : Settings),
        host.codecs.IsLawful → load host config = .ok settings →
        ∀ ref path output errors fault,
          (settings.store host).FailsWith ref path output errors fault → ¬ fault.IsOfName := by
  intro host settings
  have hload : load host (some "c.yaml") = .ok settings := by decide +kernel
  have hfails : (settings.store host).FailsWith "main" "schema.graphql" [0x61] []
      (.noTextEncoding "hex") := by
    rw [GitStore.failsWith_iff]
    decide +kernel
  refine ⟨hload, ?_, fun hall =>
    hall _ _ _ Text.Codecs.standard_isLawful hload _ _ _ _ _ hfails trivial⟩
  decide +kernel

end Settings

end SchemaSemver
