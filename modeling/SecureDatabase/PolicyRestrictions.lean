import Mathlib.Algebra.Order.Ring.Cast
import SecureDatabase.MeasurementPolicy

/-!
# What a policy file writes and what is enforced of it

Loading reads each restriction of a policy file through a conversion whose failure means
no restriction at all: a list that is not an array, an element that is not a text, a
compose hash that is not a text and a security version that is not an unsigned integer
are passed over, and of a security version only the low 16 bits are kept.

`Respected` states every restriction as the document writes it. Enforcement respects them
exactly for documents whose restrictions are written in the form that loading reads, with
a security version of 16 bits. A document that no report at all can satisfy is enforced
too, whatever else it says.
-/

namespace SecureDatabase.BrokerClient

open Foundation

namespace Report

/-- The measurement of a trust domain. -/
def mrtd : Report → Option String
  | td10 mrTd => some (hexEncode mrTd.val)
  | td15 mrTd => some (hexEncode mrTd.val)
  | sgxEnclave _ _ _ => none

/-- The measurement of an enclave. -/
def mrenclave : Report → Option String
  | sgxEnclave mrEnclave _ _ => some (hexEncode mrEnclave.val)
  | _ => none

/-- The measurement of an enclave's signer. -/
def mrsigner : Report → Option String
  | sgxEnclave _ mrSigner _ => some (hexEncode mrSigner.val)
  | _ => none

/-- The security version of an enclave. -/
def isvSvn : Report → Option UInt16
  | sgxEnclave _ _ isvSvn => some isvSvn
  | _ => none

end Report

section Restrictions

variable (toLowercase : String → String)

/-- A list of a document is respected: unless it is empty, it is an array of texts, and it
has the measurement of the report's own, if the report has one of that kind. -/
def ListRespected (document : Json) (name : String) (measurement : Option String) : Prop :=
  ∀ value, document.get name = some value → value ≠ .array [] →
    ∃ texts : List String, value = .array (texts.map .string) ∧
      ∀ own ∈ measurement, ∃ text ∈ texts, toLowercase text = toLowercase own

/-- Every restriction that a document writes is respected by a report and a compose hash. -/
structure Respected (document : Json) (report : Report) (composeHash : String) : Prop where
  isvsvn : ∀ value, document.get "min_isvsvn" = some value →
    ∃ number : JsonNumber, value = .number number ∧
      ∀ own ∈ report.isvSvn, number.value ≤ (own.toNat : ℚ)
  mrtd : ListRespected toLowercase document "allowed_mrtd" report.mrtd
  mrenclave : ListRespected toLowercase document "allowed_mrenclave" report.mrenclave
  mrsigner : ListRespected toLowercase document "allowed_mrsigner" report.mrsigner
  composeHash : ∀ value, document.get "expected_compose_hash" = some value →
    ∃ text, value = .string text ∧ toLowercase text = toLowercase composeHash

/-- Nothing that a document writes is dropped: what the loaded policy accepts respects
every restriction. -/
def NothingDropped (document : Json) (policy : MeasurementPolicy) : Prop :=
  ∀ verified composeHash, enforceMeasurementPolicy toLowercase policy verified = .ok () →
    policy.allowsComposeHash toLowercase composeHash = true →
    Respected toLowercase document verified.report composeHash

/-- A document lists a text under a name, up to case. -/
def ListsText (document : Json) (name own : String) : Prop :=
  ∃ elements text, document.get name = some (.array elements) ∧ .string text ∈ elements ∧
    toLowercase text = toLowercase own

/-- Some measurement of a size is listed under a name, if any text is. -/
def Satisfiable (document : Json) (name : String) (size : Nat) : Prop :=
  Lists document name →
    ∃ measurement : Octets size, ListsText toLowercase document name (hexEncode measurement.val)

/-- The lists for enclaves can be satisfied. -/
def AdmitsEnclaves (document : Json) : Prop :=
  Satisfiable toLowercase document "allowed_mrenclave" 32 ∧
    Satisfiable toLowercase document "allowed_mrsigner" 32

/-- The list for trust domains or those for enclaves can be satisfied. -/
def AdmitsReports (document : Json) : Prop :=
  Satisfiable toLowercase document "allowed_mrtd" 48 ∨ AdmitsEnclaves toLowercase document

end Restrictions

/-- A list is written as an array of texts, or not at all. -/
def WrittenAsTexts (document : Json) (name : String) : Prop :=
  ∀ value, document.get name = some value → ∃ texts : List String, value = .array (texts.map .string)

/-- The restrictions of a document have the form that loading reads. -/
structure WellWritten (document : Json) : Prop where
  isvsvn : ∀ value, document.get "min_isvsvn" = some value → ∃ number, value = .number number
  mrtd : WrittenAsTexts document "allowed_mrtd"
  mrenclave : WrittenAsTexts document "allowed_mrenclave"
  mrsigner : WrittenAsTexts document "allowed_mrsigner"
  composeHash : ∀ value, document.get "expected_compose_hash" = some value →
    ∃ text, value = .string text

/-- A number that enforcement keeps as a security version: an unsigned one of 16 bits, or
one that every version exceeds. -/
def KeptVersion : JsonNumber → Prop
  | .posInt magnitude => magnitude < 65536
  | .negInt number => number.toInt ≤ 0
  | .float bits => doubleValue bits ≤ 0

/-- A document is enforced as it is written: its restrictions have the form that loading
reads unless no report can satisfy its lists, and its security version is kept unless no
enclave can. -/
structure Enforceable (toLowercase : String → String) (document : Json) : Prop where
  wellWritten : AdmitsReports toLowercase document → WellWritten document
  version : AdmitsEnclaves toLowercase document →
    ∀ number, document.get "min_isvsvn" = some (.number number) → KeptVersion number

section Enforcement

variable {toLowercase : String → String} {document : Json}

/-- A list lets a measurement pass exactly when it is listed, if anything is. -/
theorem allowed_iff (name own : String) :
    ((ClientPolicy.stringSet toLowercase (document.get name)).isEmpty ||
      (ClientPolicy.stringSet toLowercase (document.get name)).contains (toLowercase own)) = true ↔
      (Lists document name → ListsText toLowercase document name own) := by
  rw [Bool.or_eq_true, List.isEmpty_iff, List.contains_iff_mem, mem_stringSet_iff,
    ← @stringSet_ne_nil_iff toLowercase, or_iff_not_imp_left]
  exact Iff.rfl

/-- A report of an enclave passes exactly when its measurements are listed and its version
is at least the low 16 bits of the demanded one. -/
theorem allowsSgxMeasurements_iff (mrenclave mrsigner : String) (isvsvn : UInt16) :
    (ClientPolicy.measurementOf toLowercase document).allowsSgxMeasurements toLowercase mrenclave
        mrsigner isvsvn = true ↔
      (Lists document "allowed_mrenclave" →
        ListsText toLowercase document "allowed_mrenclave" mrenclave) ∧
      (Lists document "allowed_mrsigner" →
        ListsText toLowercase document "allowed_mrsigner" mrsigner) ∧
      ∀ min, document.get "min_isvsvn" = some (.number (.posInt min)) → min.toUInt16 ≤ isvsvn := by
  have read := @exists_minIsvsvn_iff toLowercase document (fun min => ¬ min ≤ isvsvn)
  rw [← allowed_iff "allowed_mrenclave", ← allowed_iff "allowed_mrsigner", ← and_assoc,
    MeasurementPolicy.allowsSgxMeasurements, Bool.and_eq_true, Bool.and_eq_true]
  refine and_congr Iff.rfl ?_
  cases demanded : (ClientPolicy.measurementOf toLowercase document).minIsvsvn with
  | none => simpa [demanded] using read
  | some min => simpa [demanded] using not_congr read

/-- What enforcement asks of a report, in terms of the document. -/
theorem enforce_measurementOf_iff (verified : VerifiedAttestation) :
    enforceMeasurementPolicy toLowercase (ClientPolicy.measurementOf toLowercase document)
        verified = .ok () ↔
      (∀ own ∈ verified.report.mrtd,
        Lists document "allowed_mrtd" → ListsText toLowercase document "allowed_mrtd" own) ∧
      (∀ own ∈ verified.report.mrenclave, Lists document "allowed_mrenclave" →
        ListsText toLowercase document "allowed_mrenclave" own) ∧
      (∀ own ∈ verified.report.mrsigner, Lists document "allowed_mrsigner" →
        ListsText toLowercase document "allowed_mrsigner" own) ∧
      ∀ own ∈ verified.report.isvSvn, ∀ min,
        document.get "min_isvsvn" = some (.number (.posInt min)) → min.toUInt16 ≤ own := by
  rw [enforceMeasurementPolicy_eq_ok_iff]
  cases verified.report with
  | td10 mrTd =>
    refine (allowed_iff "allowed_mrtd" (hexEncode mrTd.val)).trans ?_
    simp [Report.mrtd, Report.mrenclave, Report.mrsigner, Report.isvSvn]
  | td15 mrTd =>
    refine (allowed_iff "allowed_mrtd" (hexEncode mrTd.val)).trans ?_
    simp [Report.mrtd, Report.mrenclave, Report.mrsigner, Report.isvSvn]
  | sgxEnclave mrEnclave mrSigner isvSvn =>
    refine (allowsSgxMeasurements_iff (hexEncode mrEnclave.val) (hexEncode mrSigner.val)
      isvSvn).trans ?_
    simp [Report.mrtd, Report.mrenclave, Report.mrsigner, Report.isvSvn]

/-- A list that can be satisfied has a value that some report shows, if it has any value
at all. -/
theorem Satisfiable.exists_measurement {name : String} {size : Nat}
    (satisfiable : Satisfiable toLowercase document name size) :
    ∃ measurement : Octets size,
      Lists document name → ListsText toLowercase document name (hexEncode measurement.val) := by
  by_cases listed : Lists document name
  · obtain ⟨measurement, found⟩ := satisfiable listed
    exact ⟨measurement, fun _ => found⟩
  · exact ⟨⟨List.replicate size 0, List.length_replicate⟩, fun lists => absurd lists listed⟩

/-- Where the lists for enclaves can be satisfied, some enclave with a chosen security
version is accepted, unless the demanded version refuses it. -/
theorem exists_accepted_enclave (admits : AdmitsEnclaves toLowercase document) (isvSvn : UInt16)
    (recent : ∀ min, document.get "min_isvsvn" = some (.number (.posInt min)) →
      min.toUInt16 ≤ isvSvn) :
    ∃ verified, verified.report.isvSvn = some isvSvn ∧
      enforceMeasurementPolicy toLowercase (ClientPolicy.measurementOf toLowercase document)
        verified = .ok () := by
  obtain ⟨mrEnclave, enclave⟩ := admits.1.exists_measurement
  obtain ⟨mrSigner, signer⟩ := admits.2.exists_measurement
  refine ⟨⟨.sgxEnclave mrEnclave mrSigner isvSvn, []⟩, rfl, enforce_measurementOf_iff _ |>.mpr ?_⟩
  simpa [Report.mrtd, Report.mrenclave, Report.mrsigner, Report.isvSvn]
    using ⟨enclave, signer, recent⟩

/-- No version is above the highest. -/
theorem le_highest (version : UInt16) : version ≤ 65535 := by
  have bounded := version.toNat_lt
  exact UInt16.le_iff_toNat_le.mpr (Nat.lt_succ_iff.mp bounded)

/-- Where the lists can be satisfied, some report is accepted: no demanded version refuses
an enclave of the highest one. -/
theorem exists_accepted (admits : AdmitsReports toLowercase document) :
    ∃ verified, enforceMeasurementPolicy toLowercase
      (ClientPolicy.measurementOf toLowercase document) verified = .ok () := by
  rcases admits with domains | enclaves
  · obtain ⟨mrTd, domain⟩ := domains.exists_measurement
    refine ⟨⟨.td10 mrTd, []⟩, (enforce_measurementOf_iff _).mpr ?_⟩
    simpa [Report.mrtd, Report.mrenclave, Report.mrsigner, Report.isvSvn] using domain
  · obtain ⟨verified, -, accepted⟩ :=
      exists_accepted_enclave enclaves 65535 (fun min _ => le_highest min.toUInt16)
    exact ⟨verified, accepted⟩

/-- Some compose hash is allowed. -/
theorem exists_allowed_composeHash (document : Json) :
    ∃ hash, (ClientPolicy.measurementOf toLowercase document).allowsComposeHash toLowercase
      hash = true := by
  cases found : (document.get "expected_compose_hash").bind Json.asStr with
  | none =>
    exact ⟨"", by simp [MeasurementPolicy.allowsComposeHash, ClientPolicy.measurementOf, found]⟩
  | some text =>
    exact ⟨text, by simp [MeasurementPolicy.allowsComposeHash, ClientPolicy.measurementOf, found]⟩

/-- An accepted enclave satisfies the lists for enclaves. -/
theorem admitsEnclaves_of_accepted {verified : VerifiedAttestation} {isvSvn : UInt16}
    (enclave : verified.report.isvSvn = some isvSvn)
    (accepted : enforceMeasurementPolicy toLowercase
      (ClientPolicy.measurementOf toLowercase document) verified = .ok ()) :
    AdmitsEnclaves toLowercase document := by
  obtain ⟨-, enclaves, signers, -⟩ := (enforce_measurementOf_iff _).mp accepted
  cases kind : verified.report with
  | sgxEnclave mrEnclave mrSigner own =>
    rw [kind] at enclaves signers
    exact ⟨fun listed => ⟨mrEnclave, enclaves _ rfl listed⟩,
      fun listed => ⟨mrSigner, signers _ rfl listed⟩⟩
  | _ => simp [kind, Report.isvSvn] at enclave

/-- A report that is accepted shows that the lists can be satisfied. -/
theorem admitsReports_of_accepted {verified : VerifiedAttestation}
    (accepted : enforceMeasurementPolicy toLowercase
      (ClientPolicy.measurementOf toLowercase document) verified = .ok ()) :
    AdmitsReports toLowercase document := by
  obtain ⟨domains, -⟩ := (enforce_measurementOf_iff _).mp accepted
  cases kind : verified.report with
  | td10 mrTd =>
    rw [kind] at domains
    exact .inl (fun listed => ⟨mrTd, domains _ rfl listed⟩)
  | td15 mrTd =>
    rw [kind] at domains
    exact .inl (fun listed => ⟨mrTd, domains _ rfl listed⟩)
  | sgxEnclave mrEnclave mrSigner own =>
    exact .inr (admitsEnclaves_of_accepted (by rw [kind]; rfl) accepted)

/-- A list written as texts is respected by a measurement that passes it. -/
theorem WrittenAsTexts.respected {name : String} {measurement : Option String}
    (written : WrittenAsTexts document name)
    (passes : ∀ own ∈ measurement,
      Lists document name → ListsText toLowercase document name own) :
    ListRespected toLowercase document name measurement := by
  intro value found nonempty
  obtain ⟨texts, rfl⟩ := written value found
  refine ⟨texts, rfl, ?_⟩
  intro own member
  cases texts with
  | nil => exact absurd rfl nonempty
  | cons text rest =>
    have listed : Lists document name := ⟨_, text, found, by simp⟩
    obtain ⟨elements, other, here, present, same⟩ := passes own member listed
    obtain rfl : elements = (text :: rest).map .string := by
      simpa [found, eq_comm] using here
    obtain ⟨chosen, inside, equal⟩ := List.mem_map.mp present
    cases equal
    exact ⟨other, inside, same⟩

/-- A list that is respected is an array of texts, or is not there. -/
theorem ListRespected.written {name : String} {measurement : Option String}
    (respected : ListRespected toLowercase document name measurement) :
    WrittenAsTexts document name := by
  intro value found
  by_cases empty : value = .array []
  · exact ⟨[], empty⟩
  · obtain ⟨texts, equal, -⟩ := respected value found empty
    exact ⟨texts, equal⟩

/-- An enforceable document is respected by everything that is accepted. -/
theorem Enforceable.respected (enforceable : Enforceable toLowercase document)
    {verified : VerifiedAttestation} {composeHash : String}
    (accepted : enforceMeasurementPolicy toLowercase
      (ClientPolicy.measurementOf toLowercase document) verified = .ok ())
    (allowed : (ClientPolicy.measurementOf toLowercase document).allowsComposeHash toLowercase
      composeHash = true) :
    Respected toLowercase document verified.report composeHash := by
  obtain ⟨isvsvn, mrtd, mrenclave, mrsigner, compose⟩ :=
    enforceable.wellWritten (admitsReports_of_accepted accepted)
  obtain ⟨domains, enclaves, signers, versions⟩ := (enforce_measurementOf_iff _).mp accepted
  refine ⟨?_, mrtd.respected domains, mrenclave.respected enclaves, mrsigner.respected signers, ?_⟩
  · intro value found
    obtain ⟨number, rfl⟩ := isvsvn value found
    refine ⟨number, rfl, ?_⟩
    intro own version
    have kept := enforceable.version (admitsEnclaves_of_accepted version accepted) number found
    have nonneg : (0 : ℚ) ≤ (own.toNat : ℚ) := Nat.cast_nonneg _
    cases number with
    | posInt magnitude =>
      have demanded := UInt16.le_iff_toNat_le.mp (versions own version magnitude found)
      have small : magnitude.toNat < 65536 := UInt64.lt_iff_toNat_lt.mp kept
      rw [UInt64.toNat_toUInt16, Nat.mod_eq_of_lt small] at demanded
      exact Nat.cast_le.mpr demanded
    | negInt number =>
      exact le_trans (Int.cast_le.mpr kept) nonneg
    | float bits => exact le_trans kept nonneg
  · intro value found
    obtain ⟨text, rfl⟩ := compose value found
    refine ⟨text, rfl, ?_⟩
    simpa [MeasurementPolicy.allowsComposeHash, ClientPolicy.measurementOf, found, Json.asStr]
      using allowed

/-- A document of which nothing is dropped is enforceable. -/
theorem NothingDropped.enforceable
    (kept : NothingDropped toLowercase document (ClientPolicy.measurementOf toLowercase document)) :
    Enforceable toLowercase document := by
  obtain ⟨composeHash, allowed⟩ := @exists_allowed_composeHash toLowercase document
  constructor
  · intro admits
    obtain ⟨verified, accepted⟩ := exists_accepted admits
    have respected := kept verified composeHash accepted allowed
    refine ⟨?_, respected.mrtd.written, respected.mrenclave.written, respected.mrsigner.written, ?_⟩
    · intro value found
      obtain ⟨number, equal, -⟩ := respected.isvsvn value found
      exact ⟨number, equal⟩
    · intro value found
      obtain ⟨text, equal, -⟩ := respected.composeHash value found
      exact ⟨text, equal⟩
  · intro admits number found
    -- The version of an accepted enclave bounds the number, whichever version it is.
    have bounded (own : UInt16) (recent : ∀ min,
        document.get "min_isvsvn" = some (.number (.posInt min)) → min.toUInt16 ≤ own) :
        number.value ≤ (own.toNat : ℚ) := by
      obtain ⟨verified, version, accepted⟩ := exists_accepted_enclave admits own recent
      obtain ⟨other, equal, least⟩ :=
        (kept verified composeHash accepted allowed).isvsvn _ found
      cases equal
      exact least own version
    cases number with
    | posInt magnitude =>
      have least : magnitude.toNat ≤ 65535 :=
        Nat.cast_le.mp (bounded 65535 (fun min _ => le_highest min.toUInt16))
      exact UInt64.lt_iff_toNat_lt.mpr (Nat.lt_succ_iff.mpr least)
    | negInt number =>
      have least : ((number.toInt : Int) : ℚ) ≤ ((0 : Int) : ℚ) := bounded 0 (by simp [found])
      exact Int.cast_le.mp least
    | float bits => exact bounded 0 (by simp [found])

end Enforcement

/-- For every policy file that is loaded: everything that the measurement checks accept
respects every restriction as the document writes it, exactly when the document is
enforceable.

Proof: what is accepted satisfies the lists of its kind, so an enforceable document is in
the form that loading reads and nothing is lost on the way. Conversely, lists that can be
satisfied let some report through, with any version that the low 16 bits of the demanded
one allow: the highest version shows an oversized demand to be lost, and version 0 a demand
that is not an unsigned integer. -/
theorem nothingDropped_iff_enforceable (toLowercase : String → String)
    (readToString : String → Except String String) (fromStr : String → Except String Json)
    (path raw : String) (document : Json) (policy : ClientPolicy)
    (read : readToString path = .ok raw) (parsed : fromStr raw = .ok document)
    (loaded : ClientPolicy.fromFile toLowercase readToString fromStr path = .ok policy) :
    NothingDropped toLowercase document policy.measurement ↔
      Enforceable toLowercase document := by
  rw [measurement_of_fromFile read parsed loaded]
  constructor
  · intro kept
    exact kept.enforceable
  · intro enforceable verified composeHash accepted allowed
    exact enforceable.respected accepted allowed

/-- A file that lists one enclave, with a security version of 17 bits. -/
def oversizedPolicyFile : String :=
  "\x7b\"allowed_mrenclave\": [\"" ++ hexEncode (List.replicate 32 170) ++ "\"], " ++
    "\"min_isvsvn\": 65536\x7d"

/-- What that file parses to. -/
def oversizedPolicy : Json :=
  .object [("allowed_mrenclave", .array [.string (hexEncode (List.replicate 32 170))]),
    ("min_isvsvn", .number (.posInt 65536))]

/-- A parser that knows this one file. -/
def parseOversizedPolicy (raw : String) : Except String Json :=
  if raw = oversizedPolicyFile then .ok oversizedPolicy else .error "expected value"

/-- What is loaded from the file. -/
def loadedOversizedPolicy : ClientPolicy :=
  ⟨"default", ClientPolicy.measurementOf toAsciiLowercase oversizedPolicy⟩

/-- The file of one enclave is enforceable: its one list is an array of texts, and no
security version is demanded. So the enclave that is accepted respects it. -/
theorem nothingDropped_enclavePolicy :
    Enforceable toAsciiLowercase enclavePolicy ∧
      enforceMeasurementPolicy toAsciiLowercase loadedEnclavePolicy.measurement listedEnclave =
        .ok () ∧
      Respected toAsciiLowercase enclavePolicy listedEnclave.report "" := by
  have enforceable : Enforceable toAsciiLowercase enclavePolicy := by
    refine ⟨fun _ => ⟨?_, ?_, ?_, ?_, ?_⟩, ?_⟩
    · intro value found
      cases found
    · intro value found
      cases found
    · intro value found
      cases found
      exact ⟨[listedMeasurement], rfl⟩
    · intro value found
      cases found
    · intro value found
      cases found
    · intro _ number found
      cases found
  have accepted : enforceMeasurementPolicy toAsciiLowercase loadedEnclavePolicy.measurement
      listedEnclave = .ok () := by
    decide +kernel
  have allowed : loadedEnclavePolicy.measurement.allowsComposeHash toAsciiLowercase "" = true := by
    decide +kernel
  have kept := (nothingDropped_iff_enforceable toAsciiLowercase _ parseEnclavePolicy "policy.json"
    enclavePolicyFile enclavePolicy loadedEnclavePolicy rfl rfl fromFile_enclavePolicy).mpr
    enforceable
  exact ⟨enforceable, accepted, kept listedEnclave "" accepted allowed⟩

/-- The oversized version is dropped: the listed enclave is accepted with version 0. -/
theorem not_nothingDropped_oversizedPolicy :
    ClientPolicy.fromFile toAsciiLowercase (fun _ => .ok oversizedPolicyFile)
        parseOversizedPolicy "policy.json" = .ok loadedOversizedPolicy ∧
      enforceMeasurementPolicy toAsciiLowercase loadedOversizedPolicy.measurement listedEnclave =
        .ok () ∧
      loadedOversizedPolicy.measurement.allowsComposeHash toAsciiLowercase "" = true ∧
      ¬ Respected toAsciiLowercase oversizedPolicy listedEnclave.report "" ∧
      ¬ NothingDropped toAsciiLowercase oversizedPolicy loadedOversizedPolicy.measurement := by
  have accepted : enforceMeasurementPolicy toAsciiLowercase loadedOversizedPolicy.measurement
      listedEnclave = .ok () := by
    decide +kernel
  have allowed : loadedOversizedPolicy.measurement.allowsComposeHash toAsciiLowercase "" = true := by
    decide +kernel
  have dropped : ¬ Respected toAsciiLowercase oversizedPolicy listedEnclave.report "" := by
    intro respected
    obtain ⟨number, equal, least⟩ := respected.isvsvn _ rfl
    cases equal
    exact absurd (Nat.cast_le.mp (least 0 rfl)) (by decide)
  exact ⟨by decide +kernel, accepted, allowed, dropped,
    fun kept => dropped (kept listedEnclave "" accepted allowed)⟩

end SecureDatabase.BrokerClient
